import DataSource.Binary64
import Mathlib.Tactic.Ring

/-! Rounding in binary64. A number is at least as near to the exact value as every count of steps
with 53 significant bits; so an exact value that has no more bits is not changed, rounding never
crosses such a count, and the error is relative to the value. -/
namespace DataSource

/-! ## Nearest whole numbers -/

/-- A quotient is rounded down when its remainder is at most a half, up when it is at least one. -/
theorem roundQuotient_cases (n d : Nat) :
    roundQuotient n d = n / d ∧ 2 * (n % d) ≤ d ∨
      roundQuotient n d = n / d + 1 ∧ d ≤ 2 * (n % d) := by
  simp only [roundQuotient]
  split
  · exact Or.inl ⟨rfl, by omega⟩
  · exact Or.inr ⟨rfl, by omega⟩

theorem roundQuotient_le_succ (n d : Nat) : roundQuotient n d ≤ n / d + 1 := by
  rcases roundQuotient_cases n d with ⟨down, _⟩ | ⟨up, _⟩
  · exact down ▸ Nat.le_succ _
  · exact Nat.le_of_eq up

/-- The rounded quotient is as near to the quotient as any whole number. -/
theorem natAbs_roundQuotient_sub_le (n : Nat) {d : Nat} (positive : 0 < d) (k : Nat) :
    ((roundQuotient n d * d : Nat) - n : Int).natAbs ≤ ((k * d : Nat) - n : Int).natAbs := by
  have parts : d * (n / d) + n % d = n := Nat.div_add_mod n d
  have small := Nat.mod_lt n positive
  have other : k * d ≤ n / d * d ∨ (n / d + 1) * d ≤ k * d := by
    rcases Nat.lt_or_ge (n / d) k with above | below
    · exact Or.inr (Nat.mul_le_mul_right d above)
    · exact Or.inl (Nat.mul_le_mul_right d below)
  rw [Nat.succ_mul, Nat.mul_comm (n / d) d] at other
  rcases roundQuotient_cases n d with ⟨down, half⟩ | ⟨up, half⟩
  · rw [down, Nat.mul_comm (n / d) d]
    omega
  · rw [up, Nat.add_mul, Nat.one_mul, Nat.mul_comm (n / d) d]
    omega

theorem two_mul_natAbs_roundQuotient_sub_le (n : Nat) {d : Nat} (positive : 0 < d) :
    2 * ((roundQuotient n d * d : Nat) - n : Int).natAbs ≤ d := by
  have parts : d * (n / d) + n % d = n := Nat.div_add_mod n d
  have small := Nat.mod_lt n positive
  rcases roundQuotient_cases n d with ⟨down, half⟩ | ⟨up, half⟩
  · rw [down, Nat.mul_comm (n / d) d]
    omega
  · rw [up, Nat.add_mul, Nat.one_mul, Nat.mul_comm (n / d) d]
    omega

namespace Binary64

/-! ## Counts of steps with 53 significant bits -/

/-- A number that 53 significant bits can write. -/
def Representable (n : Nat) : Prop :=
  ∃ digits exponent, n = digits * 2 ^ exponent ∧ digits ≤ 2 ^ 53

theorem representable_of_le {n : Nat} (small : n ≤ 2 ^ 53) : Representable n :=
  ⟨n, 0, by simp, small⟩

theorem Representable.mul_two_pow {n : Nat} (exact : Representable n) (k : Nat) :
    Representable (n * 2 ^ k) := by
  obtain ⟨digits, exponent, rfl, bound⟩ := exact
  exact ⟨digits, exponent + k, by rw [Nat.mul_assoc, Nat.pow_add], bound⟩

/-- How many bits a step lies below one. -/
def stepBits : Nat := 1074

theorem one_eq : one = 2 ^ stepBits := by
  unfold one stepBits
  rw [Nat.pow_eq]

theorem one_pos : 0 < one := by
  rw [one_eq]
  exact Nat.two_pow_pos stepBits

/-- A representable whole number is a representable count of steps. -/
theorem Representable.mul_one {n : Nat} (exact : Representable n) : Representable (n * one) := by
  rw [one_eq]
  exact exact.mul_two_pow stepBits

/-- Above `2 ^ 53` only whole numbers are left. -/
theorem one_dvd_of_representable {n : Nat} (exact : Representable n) (large : 2 ^ 53 * one < n) :
    ∃ m, n = m * one ∧ Representable m := by
  obtain ⟨digits, exponent, rfl, bound⟩ := exact
  have wide : stepBits ≤ exponent := by
    by_contra narrow
    have power : 2 ^ exponent ≤ one := by
      rw [one_eq]
      exact Nat.pow_le_pow_right (by decide) (by omega)
    exact absurd large (Nat.not_lt.mpr (Nat.mul_le_mul bound power))
  refine ⟨digits * 2 ^ (exponent - stepBits), ?_, digits, exponent - stepBits, rfl, bound⟩
  rw [one_eq, Nat.mul_assoc, ← Nat.pow_add, Nat.sub_add_cancel wide]

theorem gap_pos (steps : Nat) : 0 < gap steps := Nat.two_pow_pos _

/-- A value lies below the 2^53-fold of its gap. -/
theorem lt_two_pow_mul_gap (steps : Nat) : steps < 2 ^ 53 * gap steps := by
  have bound : steps < 2 ^ (steps.log2 + 1) := Nat.lt_log2_self
  have wider : 2 ^ (steps.log2 + 1) ≤ 2 ^ (53 + (steps.log2 - 52)) :=
    Nat.pow_le_pow_right (by decide) (by omega)
  rw [Nat.pow_add 2 53] at wider
  exact Nat.lt_of_lt_of_le bound wider

/-- Where the gap is more than one step, the value has all 53 bits. -/
theorem two_pow_mul_gap_le {steps : Nat} (wide : gap steps ≠ 1) : 2 ^ 52 * gap steps ≤ steps := by
  have nonzero : steps ≠ 0 := by
    rintro rfl
    exact wide rfl
  have exponent : 52 < steps.log2 := by
    by_contra small
    apply wide
    rw [gap, Nat.sub_eq_zero_of_le (Nat.not_lt.mp small), Nat.pow_eq, Nat.pow_zero]
  have power : 2 ^ 52 * gap steps = 2 ^ steps.log2 := by
    rw [gap, Nat.pow_eq, ← Nat.pow_add]
    congr 1
    omega
  rw [power]
  exact Nat.log2_self_le nonzero

/-! ## The nearest number -/

theorem steps_nearest_mul (n d : Nat) :
    (nearest n d).steps * d = roundQuotient n (d * gap (n / d)) * (d * gap (n / d)) := by
  show roundQuotient n (d * gap (n / d)) * gap (n / d) * d = _
  rw [Nat.mul_assoc, Nat.mul_comm (gap (n / d)) d]

/-- The multiples of the gap contain a count that is as near to the value as a representable count:
this count itself, or the least one at the size of the value if it is smaller than those. -/
theorem exists_multiple_as_near (n : Nat) {d : Nat} {count : Nat} (exact : Representable count) :
    ∃ k, ((k * (d * gap (n / d)) : Nat) - n : Int).natAbs ≤ ((count * d : Nat) - n : Int).natAbs := by
  obtain ⟨digits, exponent, rfl, bound⟩ := exact
  have width : gap (n / d) = 2 ^ ((n / d).log2 - 52) := Nat.pow_eq
  by_cases coarse : (n / d).log2 - 52 ≤ exponent
  · refine ⟨digits * 2 ^ (exponent - ((n / d).log2 - 52)), Nat.le_of_eq ?_⟩
    have power := Nat.pow_add 2 (exponent - ((n / d).log2 - 52)) ((n / d).log2 - 52)
    rw [Nat.sub_add_cancel coarse] at power
    rw [width, power]
    congr 3
    ring
  · have wide : gap (n / d) ≠ 1 := by
      rw [width]
      exact Nat.ne_of_gt (Nat.one_lt_two_pow (by omega))
    have least : 2 ^ 52 * gap (n / d) * d ≤ n :=
      Nat.le_trans (Nat.mul_le_mul_right d (two_pow_mul_gap_le wide)) (Nat.div_mul_le_self n d)
    have smaller : digits * 2 ^ exponent ≤ 2 ^ 52 * gap (n / d) := by
      have half : gap (n / d) = 2 * 2 ^ ((n / d).log2 - 53) := by
        rw [width, ← Nat.pow_succ']
        congr 1
        omega
      have power : 2 ^ exponent ≤ 2 ^ ((n / d).log2 - 53) :=
        Nat.pow_le_pow_right (by decide) (by omega)
      calc digits * 2 ^ exponent ≤ 2 ^ 53 * 2 ^ ((n / d).log2 - 53) := Nat.mul_le_mul bound power
        _ = 2 ^ 52 * gap (n / d) := by rw [half]; ring
    have below := Nat.mul_le_mul_right d smaller
    refine ⟨2 ^ 52, ?_⟩
    rw [show 2 ^ 52 * (d * gap (n / d)) = 2 ^ 52 * gap (n / d) * d by ring]
    omega

/-- No representable count is nearer to a value than the number that it is rounded to. -/
theorem natAbs_nearest_sub_le (n : Nat) {d : Nat} (positive : 0 < d) {count : Nat}
    (exact : Representable count) :
    (((nearest n d).steps * d : Nat) - n : Int).natAbs ≤ ((count * d : Nat) - n : Int).natAbs := by
  obtain ⟨k, near⟩ := exists_multiple_as_near n exact
  rw [steps_nearest_mul]
  exact Nat.le_trans
    (natAbs_roundQuotient_sub_le n (Nat.mul_pos positive (gap_pos _)) k) near

/-- A representable value is not changed. -/
theorem nearest_mul {count d : Nat} (exact : Representable count) (positive : 0 < d) :
    nearest (count * d) d = ⟨count⟩ := by
  have near := natAbs_nearest_sub_le (count * d) positive exact
  have same : (nearest (count * d) d).steps * d = count * d := by omega
  exact congrArg Binary64.mk (Nat.eq_of_mul_eq_mul_right positive same)

/-- What rounding gives is representable. -/
theorem representable_nearest (n d : Nat) : Representable (nearest n d).steps := by
  refine ⟨roundQuotient n (d * gap (n / d)), (n / d).log2 - 52, rfl, ?_⟩
  have quotient : n / (d * gap (n / d)) < 2 ^ 53 := by
    rw [← Nat.div_div_eq_div_mul]
    exact Nat.div_lt_of_lt_mul (by rw [Nat.mul_comm]; exact lt_two_pow_mul_gap (n / d))
  exact Nat.le_trans (roundQuotient_le_succ _ _) quotient

/-- The error is at most the 2^53rd part of the value, but for half a step. -/
theorem natAbs_nearest_sub_mul_le (n : Nat) {d : Nat} (positive : 0 < d) :
    2 ^ 53 * (((nearest n d).steps * d : Nat) - n : Int).natAbs ≤ n + 2 ^ 52 * d := by
  have half := two_mul_natAbs_roundQuotient_sub_le n (Nat.mul_pos positive (gap_pos (n / d)))
  rw [← steps_nearest_mul] at half
  have size : 2 ^ 52 * (d * gap (n / d)) ≤ n + 2 ^ 52 * d := by
    by_cases narrow : gap (n / d) = 1
    · rw [narrow, Nat.mul_one]
      exact Nat.le_add_left _ _
    · have least := Nat.mul_le_mul_left d (two_pow_mul_gap_le narrow)
      have most := Nat.mul_div_le n d
      rw [Nat.mul_left_comm] at least
      omega
  omega

/-! ## Whole numbers -/

/-- The number that counts `n` ones. It is one of the format if `n` is representable. -/
def whole (n : Nat) : Binary64 := ⟨n * one⟩

theorem ofQuotient_mul {n d : Nat} (exact : Representable n) (positive : 0 < d) :
    ofQuotient (n * d) d = whole n := by
  have scaled : n * d * one = n * one * d := Nat.mul_right_comm n d one
  unfold ofQuotient
  rw [scaled]
  exact nearest_mul exact.mul_one positive

theorem whole_mul_whole {m n : Nat} (exact : Representable (m * n)) :
    whole m * whole n = whole (m * n) := by
  have scaled : m * one * (n * one) = m * n * one * one := by ring
  show nearest (m * one * (n * one)) one = whole (m * n)
  rw [scaled]
  exact nearest_mul exact.mul_one one_pos

theorem add_whole {m n : Nat} (exact : Representable (m + n)) :
    whole m + whole n = whole (m + n) := by
  have sum : m * one + n * one = (m + n) * one * 1 := by ring
  show nearest (m * one + n * one) 1 = whole (m + n)
  rw [sum]
  exact nearest_mul exact.mul_one Nat.one_pos

theorem zero_add_of_representable {x : Binary64} (exact : Representable x.steps) : 0 + x = x := by
  have sum : (0 : Binary64).steps + x.steps = x.steps * 1 := by
    show 0 + x.steps = x.steps * 1
    omega
  show nearest ((0 : Binary64).steps + x.steps) 1 = x
  rw [sum]
  exact nearest_mul exact Nat.one_pos

/-! ## Values near a whole number -/

theorem whole_near (n : Nat) : 4 * (((whole n).steps : Int) - (n * one : Nat)).natAbs ≤ one := by
  show 4 * (((n * one : Nat) : Int) - (n * one : Nat)).natAbs ≤ one
  rw [Int.sub_self]
  exact Nat.zero_le _

/-- A quarter is enough to tell which whole number a value rounds to. -/
theorem round_of_near {x : Binary64} {n : Nat}
    (near : 4 * ((x.steps : Int) - (n * one : Nat)).natAbs ≤ one) : x.round = n := by
  have half := two_mul_natAbs_roundQuotient_sub_le x.steps one_pos
  have positive := one_pos
  show roundQuotient x.steps one = n
  rcases Nat.lt_trichotomy (roundQuotient x.steps one) n with below | same | above
  · have step := Nat.mul_le_mul_right one (Nat.succ_le_of_lt below)
    rw [Nat.succ_mul] at step
    omega
  · exact same
  · have step := Nat.mul_le_mul_right one (Nat.succ_le_of_lt above)
    rw [Nat.succ_mul] at step
    omega

theorem round_le {x : Binary64} {bound : Nat} (below : x.steps ≤ bound * one) :
    x.round ≤ bound := by
  have near := natAbs_roundQuotient_sub_le x.steps one_pos bound
  have scaled : roundQuotient x.steps one * one ≤ bound * one := by omega
  exact Nat.le_of_mul_le_mul_right scaled one_pos

theorem round_whole (n : Nat) : (whole n).round = n :=
  roundQuotient_mul_right n one_pos

/-- A number rounds to a representable whole number: it is one above `2 ^ 53`, and below all are
representable. -/
theorem representable_round {x : Binary64} (exact : Representable x.steps) :
    Representable x.round := by
  rcases Nat.lt_or_ge (2 ^ 53 * one) x.steps with large | small
  · obtain ⟨n, steps, same⟩ := one_dvd_of_representable exact large
    have number : x = whole n := congrArg Binary64.mk steps
    rw [number, round_whole]
    exact same
  · exact representable_of_le (round_le small)

/-- A sum is as near to a representable value as the exact sum. -/
theorem natAbs_add_sub_le (x y : Binary64) {count : Nat} (exact : Representable count) :
    (((x + y).steps : Int) - count).natAbs ≤ 2 * ((x.steps : Int) + y.steps - count).natAbs := by
  have near := natAbs_nearest_sub_le (x.steps + y.steps) Nat.one_pos exact
  change (((x + y).steps * 1 : Nat) - (x.steps + y.steps : Nat) : Int).natAbs ≤ _ at near
  omega

theorem natAbs_mul_sub_mul (a b k : Nat) :
    ((a * k : Nat) - (b * k : Nat) : Int).natAbs = ((a : Int) - b).natAbs * k := by
  rw [Int.natCast_mul, Int.natCast_mul, ← Int.sub_mul, Int.natAbs_mul, Int.natAbs_natCast]

/-- The error of a rounded quotient, taken `size` times. -/
theorem natAbs_ofQuotient_mul_sub_le {v d n size : Nat} (positive : 0 < d)
    (value : v * size = n * d) :
    2 ^ 53 * (((ofQuotient v d).steps * size : Nat) - (n * one : Nat) : Int).natAbs ≤
      n * one + 2 ^ 52 * size := by
  have numerator : v * one * size = n * one * d := by
    rw [Nat.mul_right_comm, value, Nat.mul_right_comm]
  have error := Nat.mul_le_mul_right size (natAbs_nearest_sub_mul_le (v * one) positive)
  rw [Nat.mul_assoc, ← natAbs_mul_sub_mul, numerator, Nat.mul_right_comm, natAbs_mul_sub_mul,
    ← Nat.mul_assoc, Nat.add_mul, numerator, Nat.mul_right_comm (2 ^ 52), ← Nat.add_mul] at error
  exact Nat.le_of_mul_le_mul_right error positive

/-- The number nearest to `n / size`, taken `size` times, is `n` but for two rounding errors. -/
theorem natAbs_ofQuotient_mul_whole_sub_le {v d n size : Nat} (positive : 0 < d)
    (value : v * size = n * d) (small : n ≤ 2 ^ 26) (narrow : size ≤ 2 ^ 26) :
    8 * (((ofQuotient v d * whole size).steps : Int) - (n * one : Nat)).natAbs ≤ one := by
  have large : 2 ^ 30 ≤ one := by
    rw [one_eq]
    exact Nat.pow_le_pow_right (by decide) (by decide)
  have scaled : n * one ≤ 2 ^ 26 * one := Nat.mul_le_mul_right one small
  have quotient := natAbs_ofQuotient_mul_sub_le positive value
  have product : 2 ^ 53 * (((ofQuotient v d * whole size).steps : Int) -
      ((ofQuotient v d).steps * size : Nat)).natAbs ≤ (ofQuotient v d).steps * size + 2 ^ 52 := by
    have error := natAbs_nearest_sub_mul_le ((ofQuotient v d).steps * size * one) one_pos
    rw [natAbs_mul_sub_mul, ← Nat.mul_assoc, ← Nat.add_mul] at error
    have same : ofQuotient v d * whole size = nearest ((ofQuotient v d).steps * size * one) one :=
      congrArg (nearest · one) (Nat.mul_assoc _ size one).symm
    rw [same]
    exact Nat.le_of_mul_le_mul_right error one_pos
  -- From here on `one` is a number like any other: it is too large to compute with.
  generalize one = unit at large scaled quotient product ⊢
  omega

end Binary64

end DataSource
