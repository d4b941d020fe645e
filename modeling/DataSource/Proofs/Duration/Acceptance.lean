import DataSource.Proofs.Duration.Exactness

/-! Which texts are durations, and when reading one is exact. A text is accepted when a sign, or
none, precedes a lone zero or the spelling of components, unless these add up to more than the
greatest duration. Numbers of whole units lose nothing on the way, however many there are, as long
as the sum is at most `2 ^ 53` microseconds: up to there every partial sum is a number of the
format. -/
namespace DataSource.Duration
open Binary64

/-! ## Whole microseconds -/

/-- A number without a fraction of a unit that is a whole number of microseconds. -/
structure Component.IsWhole (component : Component) : Prop where
  fraction : component.fraction = none
  unit : component.unit ≠ .nanosecond

/-- The microseconds of such a number. -/
def Component.wholeMicros (component : Component) : Nat :=
  Numeral.value component.digits * (component.unit.nanos / 1000)

theorem exact_of_isWhole {component : Component} (undivided : component.IsWhole) :
    component.exact = component.wholeMicros :=
  exact_of_fraction_eq_none undivided.fraction (nanos_eq_mul undivided.unit).1

theorem micros_of_isWhole {component : Component} (undivided : component.IsWhole)
    (small : component.wholeMicros ≤ 2 ^ 53) : component.micros = whole component.wholeMicros := by
  have number : Numeral.value component.digits ≤ 2 ^ 53 :=
    Nat.le_trans (Nat.le_mul_of_pos_right _ (nanos_eq_mul undivided.unit).2) small
  exact micros_of_fraction_eq_none undivided.fraction (micros_eq_whole undivided.unit) number
    (representable_of_le small)

/-- The exact sum is the sum of whole microseconds. -/
theorem sum_exact_of_isWhole {components : List Component}
    (undivided : ∀ component ∈ components, component.IsWhole) :
    (components.map Component.exact).sum = ((components.map Component.wholeMicros).sum : Nat) := by
  induction components with
  | nil => rfl
  | cons component more ih =>
    rw [List.map_cons, List.sum_cons, List.map_cons, List.sum_cons, Nat.cast_add,
      exact_of_isWhole (undivided component List.mem_cons_self),
      ih fun other member => undivided other (List.mem_cons_of_mem _ member)]

/-- By induction on the components: each partial sum is a whole number up to `2 ^ 53`, so the next
addition is exact. -/
theorem foldl_add_micros {components : List Component} {start : Nat}
    (undivided : ∀ component ∈ components, component.IsWhole)
    (small : start + (components.map Component.wholeMicros).sum ≤ 2 ^ 53) :
    components.foldl (fun sum component => sum + component.micros) (whole start) =
      whole (start + (components.map Component.wholeMicros).sum) := by
  induction components generalizing start with
  | nil => rfl
  | cons component more ih =>
    rw [List.map_cons, List.sum_cons] at small ⊢
    have here := micros_of_isWhole (undivided component List.mem_cons_self) (by omega)
    have sum := add_whole (m := start) (n := component.wholeMicros)
      (representable_of_le (by omega))
    rw [List.foldl_cons, here, sum,
      ih (fun other member => undivided other (List.mem_cons_of_mem _ member)) (by omega),
      Nat.add_assoc]

theorem total_of_isWhole {components : List Component}
    (undivided : ∀ component ∈ components, component.IsWhole)
    (small : (components.map Component.wholeMicros).sum ≤ 2 ^ 53) :
    total components = whole (components.map Component.wholeMicros).sum := by
  have zero : (0 : Binary64) = whole 0 := congrArg Binary64.mk (Nat.zero_mul one).symm
  rw [← Nat.zero_add (components.map Component.wholeMicros).sum] at small ⊢
  have sum := foldl_add_micros undivided small
  rwa [← zero] at sum

theorem magnitude?_of_isWhole {components : List Component} {text : Text}
    (nonempty : components ≠ []) (spelled : SpelledBy components text)
    (undivided : ∀ component ∈ components, component.IsWhole)
    (small : (components.map Component.wholeMicros).sum ≤ 2 ^ 53) :
    magnitude? text = some (components.map Component.wholeMicros).sum := by
  have sum := total_of_isWhole undivided small
  refine magnitude?_eq_some_iff.mpr (Or.inr ⟨components, nonempty, spelled, ?_, ?_⟩)
  · rw [sum, greatest_eq]
    intro above
    have more : greatestMicros < (components.map Component.wholeMicros).sum :=
      Nat.lt_of_mul_lt_mul_right (show greatestMicros * one < _ * one from above)
    exact absurd small (Nat.not_le.mpr (Nat.lt_trans (by decide) more))
  · rw [sum, round_whole]

/-! ## Accepted texts -/

/-- What stands after the sign of a duration: a lone zero, or the spelling of components that do not
add up to too much. -/
def IsUnsigned (text : Text) : Prop :=
  text = ['0'] ∨
    ∃ components, components ≠ [] ∧ SpelledBy components text ∧ ¬ greatest < total components

theorem exists_magnitude?_iff {text : Text} :
    (∃ micros, magnitude? text = some micros) ↔ IsUnsigned text := by
  simp only [magnitude?_eq_some_iff, IsUnsigned]
  constructor
  · rintro ⟨micros, ⟨zero, -⟩ | ⟨components, nonempty, spelled, small, -⟩⟩
    · exact Or.inl zero
    · exact Or.inr ⟨components, nonempty, spelled, small⟩
  · rintro (zero | ⟨components, nonempty, spelled, small⟩)
    · exact ⟨0, Or.inl ⟨zero, rfl⟩⟩
    · exact ⟨_, Or.inr ⟨components, nonempty, spelled, small, rfl⟩⟩

theorem sign_of_isUnsigned {text : Text} (unsigned : IsUnsigned text) :
    Numeral.sign text = (false, text) := by
  rcases unsigned with rfl | ⟨components, -, spelled, -⟩
  · rfl
  · exact sign_of_spelledBy spelled

theorem exists_parse_iff {text : Text} :
    (∃ duration, parse text = .ok duration) ↔
      ∃ mark ∈ Numeral.signs, ∃ unsigned, text = mark ++ unsigned ∧ IsUnsigned unsigned := by
  constructor
  · rintro ⟨duration, read⟩
    obtain ⟨mark, known, parts, -⟩ := Numeral.exists_sign_append text
    exact ⟨mark, known, _, parts, exists_magnitude?_iff.mp ⟨_, magnitude?_of_parse read⟩⟩
  · rintro ⟨mark, known, unsigned, rfl, accepted⟩
    obtain ⟨micros, magnitude⟩ := exists_magnitude?_iff.mpr accepted
    exact ⟨_, parse_sign_append known (sign_of_isUnsigned accepted) magnitude⟩

/-- Reading accepts a sign and a lone zero or the spelling of components after it, unless these are
too long together, and nothing else. Components of whole units, none of them nanoseconds, are always
accepted when they denote at most `2 ^ 53` microseconds together, and the duration is what they
denote, with the sign. -/
theorem parse_accepts_spellings :
    (∀ text, (∃ duration, parse text = .ok duration) ↔
      ∃ mark ∈ Numeral.signs, ∃ unsigned, text = mark ++ unsigned ∧
        (unsigned = ['0'] ∨
          ∃ components, components ≠ [] ∧ SpelledBy components unsigned ∧
            ¬ greatest < total components)) ∧
      ∀ mark ∈ Numeral.signs, ∀ components text, components ≠ [] → SpelledBy components text →
        (∀ component ∈ components, component.fraction = none ∧ component.unit ≠ .nanosecond) →
          (components.map Component.exact).sum ≤ 2 ^ 53 →
            ∃ duration, parse (mark ++ text) = .ok duration ∧
              (duration.micros : ℚ) =
                (if mark = ['-'] then -1 else 1) * (components.map Component.exact).sum := by
  refine ⟨fun text => exists_parse_iff, ?_⟩
  intro mark known components text nonempty spelled parts bound
  have undivided : ∀ component ∈ components, component.IsWhole := fun component member =>
    ⟨(parts component member).1, (parts component member).2⟩
  have sum := sum_exact_of_isWhole undivided
  rw [sum] at bound ⊢
  have small : (components.map Component.wholeMicros).sum ≤ 2 ^ 53 := by exact_mod_cast bound
  have magnitude := magnitude?_of_isWhole nonempty spelled undivided small
  refine ⟨_, parse_sign_append known (sign_of_spelledBy spelled) magnitude, ?_⟩
  by_cases negative : mark = ['-']
  · simp only [if_pos negative, Int.cast_neg, Int.cast_natCast, neg_one_mul]
  · simp only [if_neg negative, Int.cast_natCast, one_mul]

theorem parse_accepts_spellings_mixed :
    (∃ duration, parse "+.5ns1.s".toList = .ok duration) ∧
      parse "-2ms0090m7us3\u03bcs1h07us".toList = .ok ⟨-9000002017⟩ := by
  obtain ⟨accepted, exact⟩ := parse_accepts_spellings
  refine ⟨(accepted _).mpr ⟨['+'], by decide, ".5ns1.s".toList, rfl, Or.inr
    ⟨[⟨[], some ['5'], .nanosecond⟩, ⟨['1'], some [], .second⟩], by decide,
      components?_eq_some_iff.mp (by decide +kernel), by decide +kernel⟩⟩, ?_⟩
  obtain ⟨duration, read, signed⟩ := exact ['-'] (by decide)
    [⟨['2'], none, .millisecond⟩, ⟨['0', '0', '9', '0'], none, .minute⟩,
      ⟨['7'], none, .microsecond⟩, ⟨['3'], none, .microsecond⟩, ⟨['1'], none, .hour⟩,
      ⟨['0', '7'], none, .microsecond⟩]
    "2ms0090m7us3\u03bcs1h07us".toList (by decide)
    (components?_eq_some_iff.mp (by decide +kernel)) (by decide) (by decide +kernel)
  rw [if_pos rfl] at signed
  have sum : (duration.micros : ℚ) = (-9000002017 : Int) := signed.trans (by decide +kernel)
  have micros : duration = ⟨-9000002017⟩ := congrArg Duration.mk (Int.cast_injective sum)
  exact read.trans (congrArg Except.ok micros)

end DataSource.Duration
