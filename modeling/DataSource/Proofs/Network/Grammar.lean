import DataSource.Proofs.Network.Address
import DataSource.Proofs.Numeral
import Mathlib.Data.Nat.Digits.Defs

/-! The texts that denote addresses. An IPv4 address has one text. An IPv6 address has many: each of
its groups may be written in either case and with leading zeros, the last two as a dotted quad, and
a run of zero groups may be left out where there is a double colon. Reading accepts these texts and
no others, since there is only one way to take each of them apart: no part between colons is empty,
so the first double colon is the one that was written between the parts. -/
namespace DataSource

/-! ## Hexadecimal numerals -/

namespace Text

/-- A text is a numeral of a number in base sixteen. -/
def IsHexadecimal (text : Text) (n : Nat) : Prop :=
  ∃ digits, text.mapM hexDigit? = some digits ∧ Nat.ofDigits 16 digits.reverse = n

/-- By induction on the digits: each of them shifts what was read before it. -/
theorem foldlM_hexDigit?_eq_some_iff {text : Text} {start n : Nat} :
    text.foldlM (fun n c => (hexDigit? c).map (n * 16 + ·)) start = some n ↔
      ∃ digits, text.mapM hexDigit? = some digits ∧
        start * 16 ^ digits.length + Nat.ofDigits 16 digits.reverse = n := by
  induction text generalizing start with
  | nil => simp
  | cons c rest ih =>
    rw [List.foldlM_cons, List.mapM_cons]
    cases hexDigit? c with
    | none => simp
    | some digit =>
      have shifted : ∀ digits : List Nat,
          start * 16 ^ (digit :: digits).length + Nat.ofDigits 16 (digit :: digits).reverse =
            (start * 16 + digit) * 16 ^ digits.length + Nat.ofDigits 16 digits.reverse := by
        intro digits
        rw [List.reverse_cons, Nat.ofDigits_append, Nat.ofDigits_singleton, List.length_reverse,
          List.length_cons, Nat.pow_succ]
        grind
      simp only [Option.map_some, Option.bind_eq_bind, Option.bind_some, ih]
      constructor
      · rintro ⟨digits, read, same⟩
        exact ⟨digit :: digits, by rw [read]; rfl, (shifted digits).trans same⟩
      · rintro ⟨digits, read, same⟩
        obtain ⟨more, found, made⟩ := Option.bind_eq_some_iff.mp read
        cases made
        exact ⟨more, found, (shifted more).symm.trans same⟩

theorem hexValue?_eq_some_iff {text : Text} {n : Nat} :
    hexValue? text = some n ↔ IsHexadecimal text n := by
  rw [hexValue?, foldlM_hexDigit?_eq_some_iff]
  simp [IsHexadecimal]

end Text

namespace Network

/-! ## IPv4 -/

namespace IPv4

theorem readOctet_ofNat : ∀ octet : Fin 256, readOctet (Numeral.ofNat octet) = some octet := by
  decide +kernel

/-- An octet has no other text than its numeral. -/
theorem readOctet_eq_some_iff {text : Text} {octet : Fin 256} :
    readOctet text = some octet ↔ text = Numeral.ofNat octet := by
  constructor
  · intro read
    unfold readOctet at read
    split at read
    · rename_i written
      obtain ⟨nonempty, -, digits, leading⟩ := written
      dsimp only at read
      split at read
      · cases read
        exact (Numeral.ofNat_value nonempty (List.all_eq_true.mp digits) leading).symm
      · cases read
    · cases read
  · rintro rfl
    exact readOctet_ofNat octet

/-- An address has no other text than the one that is written for it. -/
theorem parse?_eq_some_iff {text : Text} {address : IPv4} :
    parse? text = some address ↔ text = address.format := by
  constructor
  · intro read
    unfold parse? at read
    split at read
    · rename_i a b c d pieces
      split at read
      · rename_i first second third fourth
        cases read
        have joined : Text.join '.' (text.splitOn '.') = text := List.intercalate_splitOn '.'
        rw [← joined, pieces, readOctet_eq_some_iff.mp first, readOctet_eq_some_iff.mp second,
          readOctet_eq_some_iff.mp third, readOctet_eq_some_iff.mp fourth]
        rfl
      · cases read
    · cases read
  · rintro rfl
    obtain ⟨first, second, third, fourth⟩ := address
    have clean : ∀ piece ∈ [first, second, third, fourth].map fun octet => Numeral.ofNat octet.val,
        '.' ∉ piece := by
      intro piece member point
      obtain ⟨octet, -, rfl⟩ := List.mem_map.mp member
      exact absurd (Numeral.isDigit_of_mem_ofNat point) (by decide)
    have pieces := List.splitOn_intercalate '.' clean (by simp)
    rw [parse?, format, Text.join, pieces]
    simp only [List.map_cons, List.map_nil, readOctet_ofNat]

theorem point_mem_format (address : IPv4) : '.' ∈ address.format := by
  simp [format, Text.join]

end IPv4

/-! ## Groups -/

namespace IPv6

/-- A part between colons is a group: one to four hexadecimal digits, in either case. -/
structure IsGroup (part : Text) (group : Group) : Prop where
  nonempty : part ≠ []
  short : part.length ≤ 4
  numeral : Text.IsHexadecimal part group

/-- Parts between colons stand for groups, one for each; a dotted quad may be the last of them, and
stands for two. -/
inductive AreGroups : List Text → List Group → Prop where
  | nil : AreGroups [] []
  | quad (address : IPv4) : AreGroups [address.format] (quadGroups address)
  | cons {part : Text} {group : Group} {parts : List Text} {groups : List Group}
      (first : IsGroup part group) (more : AreGroups parts groups) :
      AreGroups (part :: parts) (group :: groups)

/-- A text spells the groups of an address: there are eight in it, or fewer around a double colon,
where zeros fill them up. A dotted quad ends the text. -/
inductive Spells : Text → List Group → Prop where
  | full {parts : List Text} {groups : List Group} (read : AreGroups parts groups)
      (eight : groups.length = 8) : Spells (Text.join ':' parts) groups
  | compressed {before after : List Text} {left right : List Group}
      (first : AreGroups before left) (pointless : ∀ part ∈ before, '.' ∉ part)
      (last : AreGroups after right) (fewer : left.length + right.length < 8) :
      Spells (Text.join ':' before ++ ':' :: ':' :: Text.join ':' after)
        (left ++ List.replicate (8 - (left.length + right.length)) 0 ++ right)

theorem readGroup_eq_some_iff {part : Text} {group : Group} :
    readGroup part = some group ↔ IsGroup part group := by
  constructor
  · intro read
    unfold readGroup at read
    split at read
    · rename_i size
      split at read
      · rename_i value found
        split at read
        · cases read
          exact ⟨size.1, size.2, Text.hexValue?_eq_some_iff.mp found⟩
        · cases read
      · cases read
    · cases read
  · rintro ⟨nonempty, short, numeral⟩
    rw [readGroup, if_pos ⟨nonempty, short⟩, Text.hexValue?_eq_some_iff.mpr numeral]
    exact dif_pos group.isLt

theorem not_mem_of_isGroup {part : Text} {group : Group} (spelled : IsGroup part group) {c : Char}
    (undigital : (Text.hexDigit? c).isSome = false) : c ∉ part := by
  intro member
  rw [isSome_of_readGroup (readGroup_eq_some_iff.mpr spelled) member] at undigital
  cases undigital

/-- Parts that stand for groups are the pieces between the colons of their text. -/
theorem AreGroups.isPiece {parts : List Text} {groups : List Group}
    (read : AreGroups parts groups) : ∀ part ∈ parts, part ≠ [] ∧ ':' ∉ part := by
  induction read with
  | nil => exact fun _ none => nomatch none
  | quad address =>
    intro part member
    obtain rfl := List.mem_singleton.mp member
    refine ⟨List.ne_nil_of_mem address.point_mem_format, fun colon => ?_⟩
    rcases IPv4.isDigit_of_parse (IPv4.parse?_eq_some_iff.mpr rfl) colon with digit | point
    · exact absurd digit (by decide)
    · exact absurd point (by decide)
  | cons first more ih =>
    intro part member
    rcases List.mem_cons.mp member with rfl | later
    · exact ⟨first.nonempty, not_mem_of_isGroup first rfl⟩
    · exact ih part later

theorem readGroups_eq_some_iff {parts : List Text} {groups : List Group} :
    readGroups parts = some groups ↔ AreGroups parts groups := by
  constructor
  · intro read
    induction parts generalizing groups with
    | nil =>
      cases read
      exact .nil
    | cons part rest ih =>
      unfold readGroups at read
      split at read
      · rename_i quad
        obtain ⟨address, found, rfl⟩ := Option.map_eq_some_iff.mp read
        rw [quad.1, IPv4.parse?_eq_some_iff.mp found]
        exact .quad address
      · split at read
        · rename_i first later
          cases read
          exact .cons (readGroup_eq_some_iff.mp first) (ih later)
        · cases read
  · intro spelled
    induction spelled with
    | nil => rfl
    | quad address =>
      rw [readGroups, if_pos ⟨rfl, address.point_mem_format⟩, IPv4.parse?_eq_some_iff.mpr rfl]
      rfl
    | cons first more ih =>
      have point := not_mem_of_isGroup first (c := '.') rfl
      rw [readGroups, if_neg fun quad => point quad.2, readGroup_eq_some_iff.mpr first, ih]

/-- A side of a double colon is read where it is empty too, but only the last one with a point. -/
theorem readSide_eq_some_iff {last : Bool} {text : Text} {groups : List Group} :
    readSide last text = some groups ↔
      ∃ parts, text = Text.join ':' parts ∧ AreGroups parts groups ∧
        (last = false → ∀ part ∈ parts, '.' ∉ part) := by
  constructor
  · intro read
    unfold readSide at read
    split at read
    · rename_i empty
      cases read
      exact ⟨[], empty, .nil, fun _ _ none => nomatch none⟩
    · split at read
      · cases read
      · rename_i quad
        refine ⟨text.splitOn ':', (List.intercalate_splitOn ':').symm,
          readGroups_eq_some_iff.mp read, fun first part member point => ?_⟩
        exact quad ⟨first, (Text.mem_splitOn member).2 '.' point⟩
  · rintro ⟨parts, rfl, read, pointless⟩
    by_cases none : parts = []
    · subst none
      cases read
      rfl
    · have pieces : (Text.join ':' parts).splitOn ':' = parts :=
        List.splitOn_intercalate ':' (fun part member => (read.isPiece part member).2) none
      have nonempty : Text.join ':' parts ≠ [] := by
        intro empty
        rw [empty, List.splitOn_nil] at pieces
        exact (read.isPiece [] (pieces ▸ List.mem_cons_self)).1 rfl
      have quad : ¬(last = false ∧ '.' ∈ Text.join ':' parts) := by
        rintro ⟨first, point⟩
        rcases Text.mem_join point with colon | ⟨part, member, point⟩
        · exact absurd colon (by decide)
        · exact pointless first part member point
      rw [readSide, if_neg nonempty, if_neg quad, pieces, readGroups_eq_some_iff.mpr read]

/-! ## Double colons -/

theorem cutDoubleColon_cons {c : Char} {rest : Text} (other : c ≠ ':' ∨ rest.head? ≠ some ':') :
    cutDoubleColon (c :: rest) =
      (cutDoubleColon rest).map fun found => (c :: found.1, found.2) := by
  rw [cutDoubleColon.eq_def]
  split
  · rename_i same
    cases same
    rcases other with colon | next
    · exact absurd rfl colon
    · exact absurd rfl next
  · rename_i same
    cases same
    rfl
  · rename_i none
    cases none

theorem cutDoubleColon_append {front : Text} (colon : ':' ∉ front) (rest : Text) :
    cutDoubleColon (front ++ rest) =
      (cutDoubleColon rest).map fun found => (front ++ found.1, found.2) := by
  induction front with
  | nil => simp
  | cons c front ih =>
    simp only [List.mem_cons, not_or] at colon
    rw [List.cons_append, cutDoubleColon_cons (Or.inl (Ne.symm colon.1)), ih colon.2,
      Option.map_map]
    rfl

/-- By induction on the parts: none of them is empty, so there is no double colon where they are
joined, nor where they end. -/
theorem cutDoubleColon_join {parts : List Text} (pieces : ∀ part ∈ parts, part ≠ [] ∧ ':' ∉ part)
    (rest : Text) :
    cutDoubleColon (Text.join ':' parts ++ rest) =
      (cutDoubleColon rest).map fun found => (Text.join ':' parts ++ found.1, found.2) := by
  induction parts with
  | nil => simp [Text.join]
  | cons part parts ih =>
    obtain ⟨-, colon⟩ := pieces part List.mem_cons_self
    have later := ih fun other member => pieces other (List.mem_cons_of_mem _ member)
    cases parts with
    | nil =>
      rw [Text.join_singleton]
      exact cutDoubleColon_append colon rest
    | cons next parts =>
      have begins : (Text.join ':' (next :: parts) ++ rest).head? ≠ some ':' := by
        obtain ⟨nonempty, plain⟩ := pieces next (by simp)
        obtain ⟨c, front, rfl⟩ := List.exists_cons_of_ne_nil nonempty
        rw [List.head?_append, Text.head?_join ':' nonempty]
        rintro ⟨⟩
        exact plain List.mem_cons_self
      rw [Text.join_cons ':' part (List.cons_ne_nil next parts), List.append_assoc,
        List.cons_append, cutDoubleColon_append colon, cutDoubleColon_cons (Or.inr begins), later,
        Option.map_map, Option.map_map]
      simp only [Function.comp_def, List.append_assoc, List.cons_append]

theorem ofGroups?_eq_some_iff {groups : List Group} {address : IPv6} :
    ofGroups? groups = some address ↔ address.groups = groups := by
  unfold ofGroups?
  constructor
  · intro made
    split at made
    · cases made
      rfl
    · cases made
  · rintro rfl
    exact dif_pos address.length_groups

/-- A text is read as an address exactly when it spells the groups of that address. -/
theorem parse?_eq_some_iff {text : Text} {address : IPv6} :
    parse? text = some address ↔ Spells text address.groups := by
  constructor
  · intro read
    unfold parse? at read
    split at read
    · obtain ⟨groups, side, made⟩ := Option.bind_eq_some_iff.mp read
      obtain ⟨parts, rfl, spelled, -⟩ := readSide_eq_some_iff.mp side
      obtain rfl := ofGroups?_eq_some_iff.mp made
      exact .full spelled address.length_groups
    · rename_i before after found
      obtain rfl := eq_of_cutDoubleColon found
      split at read
      · rename_i left right leftSide rightSide
        obtain ⟨first, rfl, leftSpelled, pointless⟩ := readSide_eq_some_iff.mp leftSide
        obtain ⟨last, rfl, rightSpelled, -⟩ := readSide_eq_some_iff.mp rightSide
        split at read
        · rename_i fewer
          rw [ofGroups?_eq_some_iff.mp read]
          exact .compressed leftSpelled (pointless rfl) rightSpelled fewer
        · cases read
      · cases read
  · intro spelled
    generalize same : address.groups = groups at spelled
    cases spelled with
    | full read eight =>
      rename_i parts
      have single : cutDoubleColon (Text.join ':' parts) = none := by
        have cut := cutDoubleColon_join read.isPiece []
        rwa [List.append_nil] at cut
      have side : readSide true (Text.join ':' parts) = some groups :=
        readSide_eq_some_iff.mpr ⟨parts, rfl, read, fun first => nomatch first⟩
      rw [parse?, single]
      show (readSide true (Text.join ':' parts)).bind ofGroups? = some address
      rw [side]
      exact ofGroups?_eq_some_iff.mpr same
    | compressed first pointless last fewer =>
      rename_i before after left right
      have cut : cutDoubleColon (Text.join ':' before ++ ':' :: ':' :: Text.join ':' after) =
          some (Text.join ':' before, Text.join ':' after) := by
        rw [cutDoubleColon_join first.isPiece, cutDoubleColon, Option.map_some, List.append_nil]
      have leftSide : readSide false (Text.join ':' before) = some left :=
        readSide_eq_some_iff.mpr ⟨before, rfl, first, fun _ => pointless⟩
      have rightSide : readSide true (Text.join ':' after) = some right :=
        readSide_eq_some_iff.mpr ⟨after, rfl, last, fun first => nomatch first⟩
      rw [parse?, cut]
      dsimp only
      rw [leftSide, rightSide]
      dsimp only
      rw [if_pos fewer]
      exact ofGroups?_eq_some_iff.mpr same

/-- Eight groups have colons between them, and fewer of them have a double colon. -/
theorem colon_mem_of_spells {text : Text} {groups : List Group} (spelled : Spells text groups) :
    ':' ∈ text := by
  cases spelled with
  | full read eight =>
    rename_i parts
    have bound := length_of_readGroups (readGroups_eq_some_iff.mpr read)
    match parts with
    | [] | [_] => simp [eight] at bound
    | first :: second :: rest =>
      rw [Text.join_cons ':' first (List.cons_ne_nil second rest)]
      exact List.mem_append_right _ List.mem_cons_self
  | compressed first pointless last fewer =>
    exact List.mem_append_right _ List.mem_cons_self

end IPv6

/-! ## Both families -/

/-- A text denotes an address. -/
def Denotes (text : Text) : Address → Prop
  | .v4 address => text = address.format
  | .v6 address => IPv6.Spells text address.groups

/-- A text is read as an address exactly when it denotes that address: no text denotes addresses of
both families. -/
theorem Address.parse?_eq_some_iff {text : Text} {address : Address} :
    parse? text = some address ↔ Denotes text address := by
  unfold parse?
  cases quad : IPv4.parse? text with
  | some four =>
    cases address with
    | v4 address => simp [Denotes, ← IPv4.parse?_eq_some_iff, quad]
    | v6 address =>
      refine iff_of_false (by simp) fun spelled => ?_
      rcases IPv4.isDigit_of_parse quad (IPv6.colon_mem_of_spells spelled) with digit | point
      · exact absurd digit (by decide)
      · exact absurd point (by decide)
  | none =>
    cases address with
    | v4 address => simp [Denotes, ← IPv4.parse?_eq_some_iff, quad]
    | v6 address => simp [Denotes, ← IPv6.parse?_eq_some_iff]

end Network

end DataSource
