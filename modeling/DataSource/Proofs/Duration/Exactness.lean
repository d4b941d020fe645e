import DataSource.Proofs.Duration
import Mathlib.Algebra.Field.Rat
import Mathlib.Tactic.Ring

/-! What a written duration denotes. Reading rounds, but writing does not: the components of a
written duration, taken as exact decimals of their units, add up to its microseconds. Minutes and
seconds are carried into the next larger unit and no decimals are wasted. As the components and the
sign can be told from the text, each duration has a text of its own. -/
namespace DataSource.Duration

/-- The exact number of microseconds that a component denotes. -/
def Component.exact (component : Component) : ℚ :=
  Numeral.value component.digits / component.denominator * (component.unit.nanos / 1000)

/-- Components that spell a number of microseconds: they add up to it without rounding, larger units
come first, what makes a minute or an hour is not left in seconds or minutes, and a fraction has no
zeros at its end, so that there is none when nothing is left of it. -/
structure Spells (components : List Component) (micros : Nat) : Prop where
  exact : (components.map Component.exact).sum = micros
  descending : components.Pairwise fun larger smaller => smaller.unit.nanos < larger.unit.nanos
  carried : ∀ component ∈ components, component.unit = .minute ∨ component.unit = .second →
    Numeral.value component.whole < 60
  trimmed : ∀ component ∈ components, ∀ digits, component.fraction = some digits →
    digits ≠ [] ∧ digits.getLast? ≠ some '0'

/-! ## One component -/

/-- A number of whole units denotes that many times the microseconds of the unit. -/
theorem exact_of_fraction_eq_none {component : Component} {size : Nat}
    (undivided : component.fraction = none) (units : component.unit.nanos = size * 1000) :
    component.exact = (Numeral.value component.digits * size : Nat) := by
  have denominator : component.denominator = 1 := by
    rw [Component.denominator, undivided]
    rfl
  rw [Component.exact, denominator, units]
  push_cast
  ring

theorem exact_count (n : Nat) {size : Nat} {unit : TimeUnit} (units : unit.nanos = size * 1000) :
    (count n unit).exact = (n * size : Nat) := by
  have denoted := exact_of_fraction_eq_none (show (count n unit).fraction = none from rfl) units
  rwa [value_digits_count] at denoted

/-- A decimal number of units denotes its microseconds exactly. -/
theorem exact_decimal (micros : Nat) {places : Nat} (positive : 0 < places) {unit : TimeUnit}
    (size : unit.nanos = 10 ^ places * 1000) : (decimal micros places unit).exact = micros := by
  have value : (Numeral.value (decimal micros places unit).digits * 10 ^ places : ℚ) =
      micros * (decimal micros places unit).denominator := by
    exact_mod_cast value_decimal micros positive unit
  have nonzero : ((decimal micros places unit).denominator : ℚ) ≠ 0 := by
    have power : 0 < (decimal micros places unit).denominator := Nat.pow_pos (by decide)
    exact_mod_cast power.ne'
  have units : ((decimal micros places unit).unit.nanos : ℚ) / 1000 = 10 ^ places := by
    rw [show (decimal micros places unit).unit = unit from rfl, size]
    push_cast
    ring
  rw [Component.exact, units, div_mul_eq_mul_div, value, mul_div_cancel_right₀ _ nonzero]

theorem trimmed_decimal {micros places : Nat} {unit : TimeUnit} {digits : Text}
    (present : (decimal micros places unit).fraction = some digits) :
    digits ≠ [] ∧ digits.getLast? ≠ some '0' := by
  simp only [decimal] at present
  split at present
  · cases present
  · rename_i nonempty
    cases present
    exact ⟨nonempty, fun last => absurd (Text.getLast_trimEnd last) (by decide)⟩

/-! ## All components -/

/-- Hours, minutes and seconds are what the divisions leave; those that are left out are zero. -/
theorem sum_exact_clock (micros : Nat) : ((clock micros).map Component.exact).sum = micros := by
  have hours := exact_count (micros / 3600000000) (show TimeUnit.hour.nanos = 3600000000 * 1000 from rfl)
  have minutes := exact_count (micros % 3600000000 / 60000000)
    (show TimeUnit.minute.nanos = 60000000 * 1000 from rfl)
  have seconds := exact_decimal (micros % 60000000) (by decide : 0 < 6)
    (rfl : TimeUnit.second.nanos = 10 ^ 6 * 1000)
  have parts : micros / 3600000000 * 3600000000 +
      (micros % 3600000000 / 60000000 * 60000000 + micros % 60000000) = micros := by omega
  unfold clock
  split
  case isTrue =>
    simp only [List.map_cons, List.map_nil, List.sum_cons, List.sum_nil, hours, minutes, seconds,
      add_zero]
    exact_mod_cast parts
  case isFalse none =>
    rw [Decidable.of_not_not none, Nat.zero_mul, Nat.zero_add] at parts
    split
    case isTrue =>
      simp only [List.map_cons, List.map_nil, List.sum_cons, List.sum_nil, minutes, seconds,
        add_zero]
      exact_mod_cast parts
    case isFalse none =>
      rw [Decidable.of_not_not none, Nat.zero_mul, Nat.zero_add] at parts
      simp only [List.map_cons, List.map_nil, List.sum_cons, List.sum_nil, seconds, add_zero]
      exact_mod_cast parts

/-- The components of a written duration add up to its microseconds exactly. -/
theorem sum_exact_spell (micros : Nat) : ((spell micros).map Component.exact).sum = micros := by
  by_cases large : 1000000 ≤ micros
  · rw [spell_of_second_le large]
    exact sum_exact_clock micros
  unfold spell
  split
  · rename_i zero
    rw [List.map_singleton, List.sum_singleton, zero,
      exact_count 0 (show TimeUnit.second.nanos = 1000000 * 1000 from rfl), Nat.zero_mul]
  split
  · rw [List.map_singleton, List.sum_singleton,
      exact_count micros (show TimeUnit.microsecond.nanos = 1 * 1000 from rfl), Nat.mul_one]
  · rw [if_pos (by omega), List.map_singleton, List.sum_singleton]
    exact exact_decimal micros (by decide) rfl

/-- What is written is a count of units or a decimal number of them. -/
theorem count_or_decimal_of_mem_spell {micros : Nat} {component : Component}
    (member : component ∈ spell micros) :
    (∃ n unit, component = count n unit) ∨ ∃ n places unit, component = decimal n places unit := by
  simp only [spell] at member
  repeat' split at member
  all_goals
    simp only [List.mem_cons, List.not_mem_nil, or_false] at member
    grind

/-- What makes a minute is not left in seconds, and what makes an hour not in minutes. -/
theorem carried_spell {micros : Nat} {component : Component} (member : component ∈ spell micros)
    (sixty : component.unit = .minute ∨ component.unit = .second) :
    Numeral.value component.whole < 60 := by
  have nothing : Numeral.value (count 0 .second).whole < 60 := by decide
  have minutes : Numeral.value (count (micros % 3600000000 / 60000000) .minute).whole < 60 := by
    rw [count, Numeral.value_ofNat]
    omega
  have seconds : Numeral.value (decimal (micros % 60000000) 6 .second).whole < 60 := by
    rw [decimal, Numeral.value_ofNat, Nat.pow_eq]
    omega
  simp only [spell] at member
  repeat' split at member
  all_goals simp only [List.mem_cons, List.not_mem_nil, or_false] at member
  · exact member ▸ nothing
  · subst member
    simp [count] at sixty
  · subst member
    simp [decimal] at sixty
  · rcases member with rfl | rfl | rfl
    · simp [count] at sixty
    · exact minutes
    · exact seconds
  · rcases member with rfl | rfl
    · exact minutes
    · exact seconds
  · exact member ▸ seconds

theorem descending_spell (micros : Nat) :
    (spell micros).Pairwise fun larger smaller => smaller.unit.nanos < larger.unit.nanos := by
  simp only [spell]
  repeat' split
  all_goals simp [count, decimal, TimeUnit.nanos]

theorem spells_spell (micros : Nat) : Spells (spell micros) micros where
  exact := sum_exact_spell micros
  descending := descending_spell micros
  carried := fun _ member => carried_spell member
  trimmed := by
    intro component member digits present
    rcases count_or_decimal_of_mem_spell member with ⟨n, unit, rfl⟩ | ⟨n, places, unit, rfl⟩
    · cases present
    · exact trimmed_decimal present

/-! ## The written form -/

/-- The components can be told from the written form, and the number from them. -/
theorem eq_of_flatMap_render {micros micros' : Nat}
    (same : (spell micros).flatMap Component.render = (spell micros').flatMap Component.render) :
    micros = micros' := by
  have read := components?_flatMap_render (isWritten_of_mem_spell micros)
  rw [same, components?_flatMap_render (isWritten_of_mem_spell micros'), Option.some.injEq] at read
  have sum := sum_exact_spell micros'
  rw [read, sum_exact_spell micros] at sum
  exact_mod_cast sum

/-- A written duration has a minus sign exactly when it is negative, and after it the components
that spell its microseconds; and no other duration is written in the same way. -/
theorem format_exact :
    (∀ duration : Duration, ∃ text components,
        duration.format = (if duration.micros < 0 then '-' :: text else text) ∧
          text.head? ≠ some '-' ∧ components ≠ [] ∧ components? text = some components ∧
            Spells components duration.micros.natAbs) ∧
      Function.Injective format := by
  constructor
  · intro duration
    have written := isWritten_of_mem_spell duration.micros.natAbs
    refine ⟨(spell duration.micros.natAbs).flatMap Component.render, spell duration.micros.natAbs,
      ?_, fun minus => ?_, spell_ne_nil _, components?_flatMap_render written, spells_spell _⟩
    · unfold format
      split <;> rfl
    · exact absurd (head_flatMap_render written minus) (by decide)
  · intro duration other same
    have signs := sign_format duration
    rw [same, sign_format other, Prod.mk.injEq, decide_eq_decide] at signs
    have magnitude := eq_of_flatMap_render signs.2
    have micros : duration.micros = other.micros := by
      have sign := signs.1
      omega
    exact congrArg Duration.mk micros

end DataSource.Duration
