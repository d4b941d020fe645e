import DataSource.Numeral
import Mathlib.Algebra.Group.Nat.Defs
import Mathlib.Data.List.Induction

/-! Numerals. The numeral of a number is a nonempty list of digits and denotes that number; no other
digits without leading zeros do. An integer of 64 bits is read back from its numeral. Reading fails
for the numerals alone that have more digits than are read. -/
namespace DataSource.Numeral

theorem isDigit_of_mem_ofNat {n : Nat} {c : Char} (member : c ∈ ofNat n) : c.isDigit = true :=
  Nat.isDigit_of_mem_toDigits (by decide) (by decide) member

theorem ofNat_ne_nil (n : Nat) : ofNat n ≠ [] :=
  Nat.toDigits_ne_nil

theorem mem_ofInt {n : Int} {c : Char} (member : c ∈ ofInt n) : c.isDigit = true ∨ c = '-' := by
  cases n with
  | ofNat n => exact Or.inl (isDigit_of_mem_ofNat member)
  | negSucc n =>
    rcases List.mem_cons.mp member with minus | digit
    · exact Or.inr minus
    · exact Or.inl (isDigit_of_mem_ofNat digit)

theorem value_ofNat (n : Nat) : value (ofNat n) = n :=
  Nat.ofDigitChars_ten_toDigits

/-- Digits that follow shift what is before them. -/
theorem value_append (digits more : Text) :
    value (digits ++ more) = 10 ^ more.length * value digits + value more := by
  unfold value
  rw [Nat.ofDigitChars_append, Nat.ofDigitChars_eq_ofDigitChars_zero]

theorem value_append_zeros (digits : Text) (n : Nat) :
    value (digits ++ List.replicate n '0') = 10 ^ n * value digits := by
  unfold value
  rw [Nat.ofDigitChars_append, Nat.ofDigitChars_replicate_zero]

theorem value_zeros_append (n : Nat) (digits : Text) :
    value (List.replicate n '0' ++ digits) = value digits := by
  have zeros : value (List.replicate n '0') = 0 := value_append_zeros [] n
  rw [value_append, zeros, Nat.mul_zero, Nat.zero_add]

theorem value_of_isDigit {c : Char} (digit : c.isDigit = true) :
    value [c] < 10 ∧ ofNat (value [c]) = [c] := by
  have range : 48 ≤ c.toNat ∧ c.toNat ≤ 57 := by
    simpa [Char.isDigit, UInt32.le_iff_toNat_le] using digit
  have single : value [c] = c.toNat - 48 := by simp [value, Nat.ofDigitChars]
  have small : c.toNat - 48 < 10 := by omega
  have same : (Nat.digitChar (c.toNat - 48)).toNat = c.toNat := by
    rw [Nat.toNat_digitChar_of_lt_ten small]
    omega
  rw [single]
  exact ⟨small, by rw [ofNat, Nat.toDigits_of_lt_base small, Char.toNat_inj.mp same]⟩

/-- By induction from the last digit: the numeral of what digits denote is the digits themselves, as
long as no zero leads them. -/
theorem ofNat_value {digits : Text} (nonempty : digits ≠ [])
    (all : ∀ c ∈ digits, c.isDigit = true) (leading : digits.head? = some '0' → digits = ['0']) :
    ofNat (value digits) = digits := by
  induction digits using List.reverseRecOn with
  | nil => exact absurd rfl nonempty
  | append_singleton front c ih =>
    obtain ⟨small, last⟩ := value_of_isDigit (all c (by simp))
    by_cases alone : front = []
    · rw [alone]
      exact last
    have plain : front.head? ≠ some '0' := by
      intro zero
      have same : front ++ [c] = ['0'] := leading (by rw [List.head?_append, zero]; rfl)
      have short := congrArg List.length same
      simp only [List.length_append, List.length_singleton, Nat.add_eq_right] at short
      exact alone (List.length_eq_zero_iff.mp short)
    have before : ofNat (value front) = front :=
      ih alone (fun x member => all x (List.mem_append_left _ member))
        fun zero => absurd zero plain
    have positive : 0 < value front := by
      apply Nat.pos_of_ne_zero
      intro zero
      rw [zero] at before
      exact plain (before ▸ rfl)
    calc ofNat (value (front ++ [c]))
        = ofNat (10 * value front + value [c]) := by
          rw [value_append, List.length_singleton, Nat.pow_one]
      _ = ofNat (value front) ++ ofNat (value [c]) :=
          (Nat.toDigits_append_toDigits (by decide) positive small).symm
      _ = front ++ [c] := by rw [before, last]

theorem length_ofNat_le {n digits : Nat} (positive : 0 < digits) (bound : n < 10 ^ digits) :
    (ofNat n).length ≤ digits :=
  (Nat.length_toDigits_le_iff (by decide) positive).mpr bound

/-- What may stand before the digits of a number: one of the two signs, or nothing. -/
def signs : List Text := [[], ['+'], ['-']]

theorem sign_of_ne {c : Char} (minus : c ≠ '-') (plus : c ≠ '+') (rest : Text) :
    sign (c :: rest) = (false, c :: rest) := by
  unfold sign
  split
  · rename_i same
    cases same
    exact absurd rfl minus
  · rename_i same
    cases same
    exact absurd rfl plus
  · rfl

/-- A digit is no sign. -/
theorem sign_of_isDigit {c : Char} (digit : c.isDigit = true) (rest : Text) :
    sign (c :: rest) = (false, c :: rest) := by
  apply sign_of_ne
  · rintro rfl
    exact absurd digit (by decide)
  · rintro rfl
    exact absurd digit (by decide)

/-- What is split off a text is the sign that it begins with. -/
theorem exists_sign_append (text : Text) :
    ∃ mark ∈ signs, text = mark ++ (sign text).2 ∧ (sign text).1 = decide (mark = ['-']) := by
  unfold sign
  split
  · exact ⟨['-'], by decide, rfl, rfl⟩
  · exact ⟨['+'], by decide, rfl, rfl⟩
  · exact ⟨[], by decide, rfl, rfl⟩

theorem sign_append {mark text : Text} (known : mark ∈ signs) (unsigned : sign text = (false, text)) :
    sign (mark ++ text) = (decide (mark = ['-']), text) := by
  simp only [signs, List.mem_cons, List.not_mem_nil, or_false] at known
  rcases known with rfl | rfl | rfl
  · exact unsigned
  · rfl
  · rfl

theorem sign_ofNat (n : Nat) : sign (ofNat n) = (false, ofNat n) := by
  obtain ⟨c, rest, digits⟩ := List.exists_cons_of_ne_nil (ofNat_ne_nil n)
  have digit : c.isDigit = true := isDigit_of_mem_ofNat (digits ▸ List.mem_cons_self)
  rw [digits, sign_of_isDigit digit]

/-- The sign of an integer and the digits of its magnitude. -/
theorem sign_ofInt (n : Int) : sign (ofInt n) = (decide (n < 0), ofNat n.natAbs) := by
  cases n with
  | ofNat n => exact sign_ofNat n
  | negSucc n =>
    rw [decide_eq_true (Int.negSucc_lt_zero n)]
    rfl

/-- An integer is its magnitude with its sign. -/
theorem signed_natAbs (n : Int) :
    (if decide (n < 0) = true then -(n.natAbs : Int) else n.natAbs) = n := by
  split <;> rename_i negative <;> simp only [decide_eq_true_eq] at negative <;> omega

/-- An integer that fits is read back from its numeral. -/
theorem toInt?_ofInt {n : Int} (inside : fits n = true) : toInt? (ofInt n) = .ok (some n) := by
  have bounds : -9223372036854775808 ≤ n ∧ n ≤ 9223372036854775807 := by
    simpa [fits] using inside
  have short : (ofNat n.natAbs).length ≤ 20 := length_ofNat_le (by decide) (by omega)
  have digits : ((ofNat n.natAbs).isEmpty || !(ofNat n.natAbs).all Char.isDigit) = false := by
    rw [Bool.or_eq_false_iff, Bool.not_eq_false', List.all_eq_true]
    exact ⟨List.isEmpty_eq_false_iff.mpr (ofNat_ne_nil _), fun _ => isDigit_of_mem_ofNat⟩
  have counted : ¬ maxDigits < (ofNat n.natAbs).length := by
    simp only [maxDigits]
    omega
  simp only [toInt?, sign_ofInt, digits, Bool.false_eq_true, ↓reduceIte, if_neg counted,
    value_ofNat, signed_natAbs, inside]

/-! ## Long numerals -/

/-- A numeral with too many digits: after an optional sign there are only digits, and more of them
than are read. -/
def IsLong (text : Text) : Prop :=
  (∀ c ∈ (sign text).2, c.isDigit = true) ∧ maxDigits < (sign text).2.length

theorem toInt?_eq_error_iff {text : Text} {long : TooLong} :
    toInt? text = .error long ↔ IsLong text ∧ long = ⟨(sign text).2.length⟩ := by
  unfold toInt? IsLong
  obtain ⟨negative, digits⟩ := sign text
  dsimp only
  split
  · rename_i other
    simp only [Bool.or_eq_true, List.isEmpty_iff, Bool.not_eq_true', List.all_eq_false] at other
    refine iff_of_false (by simp) ?_
    rintro ⟨⟨digit, many⟩, -⟩
    rcases other with none | ⟨c, inside, foreign⟩
    · simp [none] at many
    · exact foreign (digit c inside)
  · rename_i numeral
    simp only [Bool.or_eq_true, List.isEmpty_iff, Bool.not_eq_true', List.all_eq_false, not_or,
      not_exists, not_and, Classical.not_not] at numeral
    split
    · rename_i many
      rw [Except.error.injEq]
      exact ⟨fun same => ⟨⟨numeral.2, many⟩, same.symm⟩, fun long => long.2.symm⟩
    · rename_i few
      simp [few]

theorem exists_toInt?_error_iff {text : Text} :
    (∃ long, toInt? text = .error long) ↔ IsLong text := by
  simp [toInt?_eq_error_iff]

/-- Digits that are read give their value, if it fits. -/
theorem eq_of_toInt?_digits {text : Text} {number : Option Int} (nonempty : text ≠ [])
    (digits : ∀ c ∈ text, c.isDigit = true) (read : toInt? text = .ok number) :
    number = if fits (value text) then some (value text : Int) else none := by
  obtain ⟨c, rest, rfl⟩ := List.exists_cons_of_ne_nil nonempty
  have numeral : (c :: rest).all Char.isDigit = true := List.all_eq_true.mpr digits
  simp only [toInt?, sign_of_isDigit (digits c List.mem_cons_self), List.isEmpty_cons, numeral,
    Bool.not_true, Bool.or_self, Bool.false_eq_true, ↓reduceIte] at read
  split at read
  · cases read
  · exact (Except.ok.inj read).symm

/-- A digit that is repeated too often. -/
theorem toInt?_replicate {c : Char} (digit : c.isDigit = true) {n : Nat} (many : maxDigits < n) :
    toInt? (List.replicate n c) = .error ⟨n⟩ := by
  obtain ⟨m, rfl⟩ := Nat.exists_eq_succ_of_ne_zero (Nat.ne_zero_of_lt many)
  have unsigned : sign (List.replicate (m + 1) c) = (false, List.replicate (m + 1) c) :=
    sign_of_isDigit digit _
  rw [toInt?_eq_error_iff, IsLong, unsigned, List.length_replicate]
  refine ⟨⟨fun other member => ?_, many⟩, rfl⟩
  rwa [List.eq_of_mem_replicate member]

end DataSource.Numeral
