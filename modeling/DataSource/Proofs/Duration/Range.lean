import DataSource.Proofs.Duration

/-! Whether the nanoseconds of a duration fit a signed 64-bit number. The greatest sum is the number
of microseconds in `2 ^ 63 - 1` nanoseconds, rounded to binary64. The numbers of that size are two
apart, and the one that is nearest lies above what fits. A sum that comes out as the greatest one is
therefore accepted although its nanoseconds do not fit; all smaller sums fit. -/
namespace DataSource.Duration
open Binary64

theorem nanos_of_le_greatestMicros {micros : Nat} (bound : micros ≤ greatestMicros) :
    (micros * 1000 ≤ 2 ^ 63 - 1 ↔ micros ≠ greatestMicros) ∧
      micros * 1000 ≤ 2 ^ 63 - 1 + 193 := by
  unfold greatestMicros at *
  omega

/-- No other sum rounds to the greatest number of microseconds: the sums near it are whole. -/
theorem eq_greatest_of_round {sum : Binary64} (exact : Representable sum.steps)
    (rounded : sum.round = greatestMicros) : sum = greatest := by
  have large : 2 ^ 53 * one < sum.steps := by
    by_contra small
    have few := round_le (Nat.le_of_not_lt small)
    rw [rounded] at few
    exact absurd few (by decide)
  obtain ⟨n, steps, -⟩ := one_dvd_of_representable exact large
  have undivided : sum = whole n := congrArg Binary64.mk steps
  rw [undivided, round_whole] at rounded
  rw [undivided, rounded, greatest_eq]

/-- What is read gives the greatest duration, or its negative, exactly when its components have the
greatest sum. -/
theorem natAbs_eq_greatestMicros_iff {text : Text} {duration : Duration}
    (read : parse text = .ok duration) :
    duration.micros.natAbs = greatestMicros ↔
      ∃ components, SpelledBy components (Numeral.sign text).2 ∧ total components = greatest := by
  rcases magnitude?_eq_some_iff.mp (magnitude?_of_parse read) with
    ⟨lone, zero⟩ | ⟨components, -, spelled, -, rounded⟩
  · have nothing : components? ['0'] = none := by decide +kernel
    rw [zero, lone]
    refine iff_of_false (by decide) ?_
    rintro ⟨components, spelled, -⟩
    cases nothing.symm.trans (components?_eq_some_iff.mpr spelled)
  · rw [← rounded]
    constructor
    · intro reached
      exact ⟨components, spelled, eq_greatest_of_round (representable_total components) reached⟩
    · rintro ⟨others, spelled', sum⟩
      have same := (components?_eq_some_iff.mpr spelled).symm.trans
        (components?_eq_some_iff.mpr spelled')
      rw [Option.some.inj same, sum, greatest_eq, round_whole]

/-- The nanoseconds of a duration that was read fit a signed 64-bit number unless the sum of its
components is what the bound was rounded to. Then there are 193 nanoseconds too many. -/
theorem nanos_fit_iff {text : Text} {duration : Duration} (read : parse text = .ok duration) :
    (duration.micros.natAbs * 1000 ≤ 2 ^ 63 - 1 ↔
        ¬ ∃ components, SpelledBy components (Numeral.sign text).2 ∧
          total components = ofQuotient (2 ^ 63 - 1) 1000) ∧
      duration.micros.natAbs * 1000 ≤ 2 ^ 63 - 1 + 193 := by
  obtain ⟨fits, most⟩ := nanos_of_le_greatestMicros (readable_of_parse read).bound
  have bound : ofQuotient (2 ^ 63 - 1) 1000 = greatest := rfl
  rw [bound, ← natAbs_eq_greatestMicros_iff read]
  exact ⟨fits, most⟩

/-- The last duration that fits, and a text that denotes no more than what fits and is read as the
negative of the greatest duration. -/
theorem nanos_fit_iff_neighbours :
    parse "9223372036854774.9us".toList = .ok ⟨9223372036854774⟩ ∧
      (¬ ∃ components, SpelledBy components "9223372036854774.9us".toList ∧
        total components = ofQuotient (2 ^ 63 - 1) 1000) ∧
      parse "-2562047h47m16.854775807s".toList = .ok ⟨-greatestMicros⟩ ∧
      ∃ components, SpelledBy components "2562047h47m16.854775807s".toList ∧
        total components = ofQuotient (2 ^ 63 - 1) 1000 := by
  have last : parse "9223372036854774.9us".toList = .ok ⟨9223372036854774⟩ := by decide +kernel
  have greatest : parse "-2562047h47m16.854775807s".toList = .ok ⟨-greatestMicros⟩ := by
    decide +kernel
  refine ⟨last, (nanos_fit_iff last).1.mp (by decide), greatest, ?_⟩
  by_contra none
  exact absurd ((nanos_fit_iff greatest).1.mpr none) (by decide)

/-- A number of whole microseconds that is too great to fit is accepted. -/
theorem parse_accepts_too_long :
    parse "9223372036854776us".toList = .ok ⟨9223372036854776⟩ ∧
      2 ^ 63 - 1 < 9223372036854776 * 1000 := by
  refine ⟨?_, ?_⟩
  · decide +kernel
  · decide

end DataSource.Duration
