import DataSource.Text.Utf8

/-! Reading octets undoes writing them. Every character is written as octets that its own first
octet admits, so that the reader finishes exactly this character before it looks at the rest. -/
namespace DataSource.Text.Utf8

theorem decodeFrom_cons (pending : Option Pending) (octet : UInt8) (rest : List UInt8) :
    decodeFrom pending (octet :: rest) =
      (next pending octet).1 ++ decodeFrom (next pending octet).2 rest := by
  cases pending <;> rfl

theorem toNat_octet {n : Nat} (fits : n < 256) : (UInt8.ofNat n).toNat = n := by
  simp [Nat.mod_eq_of_lt fits]

/-! ## Single octets -/

section Octets
variable {n value remaining low high : Nat}

theorem first_one (small : n < 0x80) : first (UInt8.ofNat n) = ([Char.ofNat n], none) := by
  rw [first, toNat_octet (by omega)]
  simp [small]

theorem first_two (least : 0xc2 ≤ n) (most : n < 0xe0) :
    first (UInt8.ofNat n) = ([], some ⟨n - 0xc0, 0, 0x80, 0xbf⟩) := by
  rw [first, toNat_octet (by omega)]
  simp [show ¬ n < 0x80 by omega, show ¬ n < 0xc2 by omega, most]

theorem first_three (least : 0xe0 ≤ n) (most : n < 0xf0) :
    first (UInt8.ofNat n) =
      ([], some ⟨n - 0xe0, 1, if n = 0xe0 then 0xa0 else 0x80,
        if n = 0xed then 0x9f else 0xbf⟩) := by
  rw [first, toNat_octet (by omega)]
  simp [show ¬ n < 0x80 by omega, show ¬ n < 0xc2 by omega, show ¬ n < 0xe0 by omega, most]

theorem first_four (least : 0xf0 ≤ n) (most : n < 0xf5) :
    first (UInt8.ofNat n) =
      ([], some ⟨n - 0xf0, 2, if n = 0xf0 then 0x90 else 0x80,
        if n = 0xf4 then 0x8f else 0xbf⟩) := by
  rw [first, toNat_octet (by omega)]
  simp [show ¬ n < 0x80 by omega, show ¬ n < 0xc2 by omega, show ¬ n < 0xe0 by omega,
    show ¬ n < 0xf0 by omega, most]

theorem next_continue (fits : n < 256) (least : low ≤ n) (most : n ≤ high) :
    next (some ⟨value, remaining + 1, low, high⟩) (UInt8.ofNat n) =
      ([], some ⟨value * 64 + (n - 0x80), remaining, 0x80, 0xbf⟩) := by
  rw [next, toNat_octet fits]
  exact if_pos ⟨least, most⟩

theorem next_finish (fits : n < 256) (least : low ≤ n) (most : n ≤ high) :
    next (some ⟨value, 0, low, high⟩) (UInt8.ofNat n) =
      ([Char.ofNat (value * 64 + (n - 0x80))], none) := by
  rw [next, toNat_octet fits]
  exact if_pos ⟨least, most⟩

end Octets

/-! ## Characters of one, two, three and four octets -/

section Characters
variable {v : Nat} (rest : List UInt8)

theorem decodeFrom_one (most : v ≤ 0x7f) :
    decodeFrom none (UInt8.ofNat v :: rest) = Char.ofNat v :: decodeFrom none rest := by
  rw [decodeFrom_cons, next, first_one (by omega)]
  rfl

theorem decodeFrom_two (least : 0x7f < v) (most : v ≤ 0x7ff) :
    decodeFrom none (UInt8.ofNat (v / 64 % 0x20 + 0xc0) :: UInt8.ofNat (v % 0x40 + 0x80) :: rest) =
      Char.ofNat v :: decodeFrom none rest := by
  rw [decodeFrom_cons, next, first_two (by omega) (by omega), decodeFrom_cons,
    next_finish (by omega) (by omega) (by omega),
    show (v / 64 % 0x20 + 0xc0 - 0xc0) * 64 + (v % 0x40 + 0x80 - 0x80) = v by omega]
  rfl

/-- The second of three octets is restricted after two of the first octets: there the shorter
forms and the surrogates are left out, to which `v` does not belong. -/
theorem decodeFrom_three (least : 0x7ff < v) (most : v ≤ 0xffff)
    (valid : v < 0xd800 ∨ 0xdfff < v) :
    decodeFrom none (UInt8.ofNat (v / 4096 % 0x10 + 0xe0) ::
        UInt8.ofNat (v / 64 % 0x40 + 0x80) :: UInt8.ofNat (v % 0x40 + 0x80) :: rest) =
      Char.ofNat v :: decodeFrom none rest := by
  rw [decodeFrom_cons, next, first_three (by omega) (by omega), decodeFrom_cons,
    next_continue (by omega) (by split <;> omega) (by split <;> omega), decodeFrom_cons,
    next_finish (by omega) (by omega) (by omega),
    show ((v / 4096 % 0x10 + 0xe0 - 0xe0) * 64 + (v / 64 % 0x40 + 0x80 - 0x80)) * 64 +
      (v % 0x40 + 0x80 - 0x80) = v by omega]
  rfl

/-- The second of four octets is restricted likewise: `v` needs four octets and is no greater than
the last code point. -/
theorem decodeFrom_four (least : 0xffff < v) (most : v < 0x110000) :
    decodeFrom none (UInt8.ofNat (v / 262144 % 0x08 + 0xf0) ::
        UInt8.ofNat (v / 4096 % 0x40 + 0x80) :: UInt8.ofNat (v / 64 % 0x40 + 0x80) ::
          UInt8.ofNat (v % 0x40 + 0x80) :: rest) =
      Char.ofNat v :: decodeFrom none rest := by
  rw [decodeFrom_cons, next, first_four (by omega) (by omega), decodeFrom_cons,
    next_continue (by omega) (by split <;> omega) (by split <;> omega), decodeFrom_cons,
    next_continue (by omega) (by omega) (by omega), decodeFrom_cons,
    next_finish (by omega) (by omega) (by omega),
    show (((v / 262144 % 0x08 + 0xf0 - 0xf0) * 64 + (v / 4096 % 0x40 + 0x80 - 0x80)) * 64 +
      (v / 64 % 0x40 + 0x80 - 0x80)) * 64 + (v % 0x40 + 0x80 - 0x80) = v by omega]
  rfl

end Characters

/-- The octets of a character are read as this character, whatever comes after them. -/
theorem decodeFrom_utf8EncodeChar (c : Char) (rest : List UInt8) :
    decodeFrom none (String.utf8EncodeChar c ++ rest) = c :: decodeFrom none rest := by
  have valid : c.val.toNat < 0xd800 ∨ 0xdfff < c.val.toNat ∧ c.val.toNat < 0x110000 := c.valid
  have self : Char.ofNat c.val.toNat = c := Char.ofNat_toNat c
  unfold String.utf8EncodeChar
  dsimp only
  split
  · rename_i most
    exact (decodeFrom_one rest most).trans (by rw [self])
  · split
    · rename_i least most
      exact (decodeFrom_two rest (by omega) most).trans (by rw [self])
    · split
      · rename_i least most
        exact (decodeFrom_three rest (by omega) most (by omega)).trans (by rw [self])
      · exact (decodeFrom_four rest (by omega) (by omega)).trans (by rw [self])

/-- A text is read back from its octets. -/
theorem decode_encode (text : Text) : decode (encode text) = text := by
  rw [decode]
  induction text with
  | nil => rfl
  | cons c text ih => rw [encode, List.flatMap_cons, decodeFrom_utf8EncodeChar, ← encode, ih]

end DataSource.Text.Utf8
