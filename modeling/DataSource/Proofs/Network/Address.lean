import DataSource.Network.Address
import DataSource.Proofs.Text.Separators

/-! Which texts are no addresses. An address is written with hexadecimal digits, points and colons,
and one that has a colon has at least two. So neither a host with its port nor a text with a
bracket in it is taken for an address. -/
namespace DataSource.Network

/-- The characters with which addresses are written. -/
def IsAddressChar (c : Char) : Prop :=
  (Text.hexDigit? c).isSome = true ∨ c = '.' ∨ c = ':'

instance (c : Char) : Decidable (IsAddressChar c) :=
  inferInstanceAs (Decidable (_ ∨ _))

theorem isAddressChar_of_isDigit {c : Char} (digit : c.isDigit = true) : IsAddressChar c := by
  left
  simp only [Char.isDigit, Bool.and_eq_true, decide_eq_true_eq] at digit
  have inside : '0' ≤ c ∧ c ≤ '9' := digit
  simp [Text.hexDigit?, inside]

namespace IPv4

theorem isDigit_of_readOctet {text : Text} {octet : Fin 256} (read : readOctet text = some octet) :
    ∀ c ∈ text, c.isDigit = true := by
  unfold readOctet at read
  split at read
  · rename_i digits
    exact List.all_eq_true.mp digits.2.2.1
  · cases read

theorem isDigit_of_parse {text : Text} {address : IPv4} (read : parse? text = some address)
    {c : Char} (member : c ∈ text) : c.isDigit = true ∨ c = '.' := by
  unfold parse? at read
  split at read
  · rename_i a b c' d pieces
    split at read
    · rename_i first second third fourth
      rcases Text.exists_mem_splitOn '.' member with point | ⟨piece, inside, found⟩
      · exact Or.inr point
      · rw [pieces] at inside
        left
        simp only [List.mem_cons, List.not_mem_nil, or_false] at inside
        rcases inside with rfl | rfl | rfl | rfl
        · exact isDigit_of_readOctet first c found
        · exact isDigit_of_readOctet second c found
        · exact isDigit_of_readOctet third c found
        · exact isDigit_of_readOctet fourth c found
    · cases read
  · cases read

end IPv4

namespace IPv6

theorem isSome_of_hexValue {digits : Text} {start value : Nat}
    (read : digits.foldlM (fun n c => (Text.hexDigit? c).map (n * 16 + ·)) start = some value)
    {c : Char} (member : c ∈ digits) : (Text.hexDigit? c).isSome = true := by
  induction digits generalizing start with
  | nil => cases member
  | cons digit rest ih =>
    rw [List.foldlM_cons] at read
    cases found : Text.hexDigit? digit with
    | none => simp [found] at read
    | some n =>
      rw [found] at read
      rcases List.mem_cons.mp member with rfl | later
      · rw [found, Option.isSome_some]
      · exact ih read later

theorem isSome_of_readGroup {text : Text} {group : Group} (read : readGroup text = some group)
    {c : Char} (member : c ∈ text) : (Text.hexDigit? c).isSome = true := by
  unfold readGroup at read
  split at read
  · split at read
    · rename_i value found
      exact isSome_of_hexValue found member
    · cases read
  · cases read

/-- Each part is a group or, at the end, a dotted quad, which counts for two. -/
theorem length_of_readGroups {parts : List Text} {groups : List Group}
    (read : readGroups parts = some groups) : groups.length ≤ parts.length + 1 := by
  induction parts generalizing groups with
  | nil =>
    cases read
    exact Nat.zero_le _
  | cons part rest ih =>
    unfold readGroups at read
    split at read
    · obtain ⟨quad, _, rfl⟩ := Option.map_eq_some_iff.mp read
      simp [quadGroups]
    · split at read
      · rename_i group more _ later
        cases read
        have bound := ih later
        simp only [List.length_cons]
        omega
      · cases read

theorem isAddressChar_of_readGroups {parts : List Text} {groups : List Group}
    (read : readGroups parts = some groups) {part : Text} (member : part ∈ parts) {c : Char}
    (inside : c ∈ part) : IsAddressChar c := by
  induction parts generalizing groups with
  | nil => cases member
  | cons first rest ih =>
    unfold readGroups at read
    split at read
    · rename_i quad
      obtain ⟨address, found, _⟩ := Option.map_eq_some_iff.mp read
      rw [quad.1] at member
      obtain rfl := List.mem_singleton.mp member
      rcases IPv4.isDigit_of_parse found inside with digit | point
      · exact isAddressChar_of_isDigit digit
      · exact Or.inr (Or.inl point)
    · split at read
      · rename_i group more found later
        rcases List.mem_cons.mp member with rfl | elsewhere
        · exact Or.inl (isSome_of_readGroup found inside)
        · exact ih later elsewhere
      · cases read

theorem isAddressChar_of_readSide {last : Bool} {text : Text} {groups : List Group}
    (read : readSide last text = some groups) {c : Char} (member : c ∈ text) :
    IsAddressChar c := by
  unfold readSide at read
  split at read
  · rename_i empty
    rw [empty] at member
    cases member
  · split at read
    · cases read
    · rcases Text.exists_mem_splitOn ':' member with colon | ⟨piece, inside, found⟩
      · exact Or.inr (Or.inr colon)
      · exact isAddressChar_of_readGroups read inside found

theorem eq_of_cutDoubleColon {text before after : Text}
    (found : cutDoubleColon text = some (before, after)) : text = before ++ ':' :: ':' :: after := by
  fun_induction cutDoubleColon text generalizing before with
  | case1 rest =>
    cases found
    rfl
  | case2 x rest other ih =>
    obtain ⟨parts, later, same⟩ := Option.map_eq_some_iff.mp found
    cases same
    rw [ih later, List.cons_append]
  | case3 => cases found

theorem isAddressChar_of_parse {text : Text} {address : IPv6} (read : parse? text = some address)
    {c : Char} (member : c ∈ text) : IsAddressChar c := by
  unfold parse? at read
  split at read
  · obtain ⟨groups, side, _⟩ := Option.bind_eq_some_iff.mp read
    exact isAddressChar_of_readSide side member
  · rename_i before after found
    rw [eq_of_cutDoubleColon found] at member
    split at read
    · rename_i left right leftSide rightSide
      simp only [List.mem_append, List.mem_cons] at member
      rcases member with inLeft | colon | colon | inRight
      · exact isAddressChar_of_readSide leftSide inLeft
      · exact Or.inr (Or.inr colon)
      · exact Or.inr (Or.inr colon)
      · exact isAddressChar_of_readSide rightSide inRight
    · cases read

/-- One colon alone makes no address: without a double colon there are at most three groups. -/
theorem parse_of_one_colon {before after : Text} (first : ':' ∉ before) (second : ':' ∉ after) :
    parse? (before ++ ':' :: after) = none := by
  have single : cutDoubleColon (before ++ ':' :: after) = none := by
    cases found : cutDoubleColon (before ++ ':' :: after) with
    | none => rfl
    | some parts =>
      have twice := congrArg (List.count ':') (eq_of_cutDoubleColon found)
      simp only [List.count_append, List.count_cons_self, List.count_eq_zero.mpr first,
        List.count_eq_zero.mpr second] at twice
      omega
  have pieces : (before ++ ':' :: after).splitOn ':' = [before, after] := by
    have clean : ∀ piece ∈ [before, after], ':' ∉ piece := by simp [first, second]
    have joined := List.splitOn_intercalate ':' clean (by simp)
    simpa using joined
  unfold parse?
  rw [single]
  cases side : readSide true (before ++ ':' :: after) with
  | none => rfl
  | some groups =>
    have few : groups.length ≤ 3 := by
      rw [readSide, if_neg (by simp), if_neg (by simp), pieces] at side
      exact length_of_readGroups side
    have other : groups.length ≠ 8 := by omega
    rw [Option.bind_some, ofGroups?, dif_neg other]

end IPv6

namespace Address

theorem isAddressChar_of_canonical {text canonical : Text} (read : canonical? text = some canonical)
    {c : Char} (member : c ∈ text) : IsAddressChar c := by
  obtain ⟨address, found, _⟩ := Option.map_eq_some_iff.mp read
  unfold parse? at found
  split at found
  · rename_i quad
    rcases IPv4.isDigit_of_parse quad member with digit | point
    · exact isAddressChar_of_isDigit digit
    · exact Or.inr (Or.inl point)
  · obtain ⟨address, groups, _⟩ := Option.map_eq_some_iff.mp found
    exact IPv6.isAddressChar_of_parse groups member

theorem not_mem_of_canonical {text canonical : Text} (read : canonical? text = some canonical)
    {c : Char} (foreign : ¬ IsAddressChar c) : c ∉ text := by
  intro member
  exact foreign (isAddressChar_of_canonical read member)

/-- A text with a character that no address has is no address. -/
theorem canonical_of_mem {text : Text} {c : Char} (member : c ∈ text) (foreign : ¬ IsAddressChar c) :
    canonical? text = none := by
  cases found : canonical? text with
  | none => rfl
  | some canonical => exact absurd member (not_mem_of_canonical found foreign)

/-- A text with one colon is no address of either family. -/
theorem canonical_of_one_colon {before after : Text} (first : ':' ∉ before)
    (second : ':' ∉ after) : canonical? (before ++ ':' :: after) = none := by
  have four : IPv4.parse? (before ++ ':' :: after) = none := by
    cases found : IPv4.parse? (before ++ ':' :: after) with
    | none => rfl
    | some address =>
      have colon : ':' ∈ before ++ ':' :: after := by simp
      rcases IPv4.isDigit_of_parse found colon with digit | point
      · exact absurd digit (by decide)
      · exact absurd point (by decide)
  rw [canonical?, parse?, four, IPv6.parse_of_one_colon first second]
  rfl

end Address

end DataSource.Network
