import DataSource.Proofs.Network.Grammar

/-! The canonical form of a text that denotes an address. What is written for an address denotes
this very address, also where a run of zero groups became a double colon: the groups before the run
and those after it are still there, and the zeros between them fill eight up. So two texts have the
same form exactly if they denote one host, which is the same for an IPv4 address and the IPv6
address to which it is mapped. -/
namespace DataSource

/-! ## Hexadecimal numerals -/

namespace Text

theorem hexDigit?_digitChar :
    ∀ digit : Fin 16, hexDigit? (Nat.digitChar digit) = some digit.val := by
  decide

theorem IsHexadecimal.concat {text : Text} {n digit : Nat} {c : Char} (read : IsHexadecimal text n)
    (last : hexDigit? c = some digit) : IsHexadecimal (text ++ [c]) (16 * n + digit) := by
  obtain ⟨digits, found, rfl⟩ := read
  refine ⟨digits ++ [digit], ?_, ?_⟩
  · rw [List.mapM_append, found, List.mapM_cons, last]
    rfl
  · rw [List.reverse_append, List.reverse_singleton, List.singleton_append, Nat.ofDigits_cons,
      Nat.add_comm]

/-- By induction on the number: the numeral of a number denotes it. -/
theorem isHexadecimal_hexadecimal (n : Nat) : IsHexadecimal (hexadecimal n) n := by
  induction n using Nat.strongRecOn with
  | ind n ih =>
    by_cases small : n < 16
    · have alone : IsHexadecimal [] 0 := ⟨[], rfl, rfl⟩
      have read := alone.concat (hexDigit?_digitChar ⟨n, small⟩)
      rwa [Nat.mul_zero, Nat.zero_add, List.nil_append, ← Nat.toDigits_of_lt_base small] at read
    · have written : hexadecimal n = hexadecimal (n / 16) ++ [Nat.digitChar (n % 16)] :=
        Nat.toDigits_of_base_le (by decide) (Nat.le_of_not_lt small)
      have last := hexDigit?_digitChar ⟨n % 16, Nat.mod_lt n (Nat.succ_pos 15)⟩
      have read := (ih (n / 16) (by omega)).concat last
      rwa [Nat.div_add_mod, ← written] at read

end Text

namespace Network

namespace IPv6

/-! ## Zero groups -/

theorem isGroup_hexadecimal (group : Group) : IsGroup (Text.hexadecimal group) group where
  nonempty := Nat.toDigits_ne_nil
  short := (Nat.length_toDigits_le_iff (by decide) (by decide)).mpr group.isLt
  numeral := Text.isHexadecimal_hexadecimal group

theorem areGroups_hexadecimal (groups : List Group) :
    AreGroups (groups.map fun group => Text.hexadecimal group.val) groups := by
  induction groups with
  | nil => exact .nil
  | cons group rest ih => exact .cons (isGroup_hexadecimal group) ih

theorem exists_leadingZeros_append (groups : List Group) :
    ∃ after, groups = List.replicate (leadingZeros groups) 0 ++ after := by
  have zeros : ∀ group ∈ groups.takeWhile (· = 0), group = 0 := fun group member =>
    of_decide_eq_true (List.all_eq_true.mp List.all_takeWhile group member)
  refine ⟨groups.dropWhile (· = 0), ?_⟩
  rw [leadingZeros, ← List.eq_replicate_of_mem zeros, List.takeWhile_append_dropWhile]

/-- By induction on the groups: there are zeros where the longest run is said to be. -/
theorem exists_longestZeros_append (groups : List Group) :
    ∃ before after, groups = before ++ List.replicate (longestZeros groups).2 0 ++ after ∧
      before.length = (longestZeros groups).1 := by
  induction groups with
  | nil => exact ⟨[], [], rfl, rfl⟩
  | cons group rest ih =>
    unfold longestZeros
    dsimp only
    split
    · obtain ⟨after, parts⟩ := exists_leadingZeros_append (group :: rest)
      exact ⟨[], after, parts, rfl⟩
    · obtain ⟨before, after, parts, start⟩ := ih
      exact ⟨group :: before, after, congrArg (group :: ·) parts, congrArg (· + 1) start⟩

/-- What is written for an address spells its groups. -/
theorem spells_format (address : IPv6) : Spells address.format address.groups := by
  obtain ⟨before, after, parts, start⟩ := exists_longestZeros_append address.groups
  have eight := address.length_groups
  unfold format
  dsimp only
  split
  · exact .full (areGroups_hexadecimal address.groups) eight
  · rename_i long
    generalize (longestZeros address.groups).1 = first at *
    generalize (longestZeros address.groups).2 = length at *
    rw [parts] at eight ⊢
    simp only [List.length_append, List.length_replicate] at eight
    have taken : (before ++ List.replicate length 0 ++ after).take first = before := by
      rw [List.append_assoc, ← start, List.take_left]
    have dropped : (before ++ List.replicate length 0 ++ after).drop (first + length) = after := by
      apply List.drop_left'
      rw [List.length_append, List.length_replicate, start]
    have filled : 8 - (before.length + after.length) = length := by omega
    have pointless : ∀ part ∈ before.map fun group => Text.hexadecimal group.val, '.' ∉ part := by
      intro part member
      obtain ⟨group, -, rfl⟩ := List.mem_map.mp member
      exact not_mem_of_isGroup (isGroup_hexadecimal group) rfl
    have spelled := Spells.compressed (areGroups_hexadecimal before) pointless
      (areGroups_hexadecimal after) (by omega)
    rw [filled] at spelled
    rw [taken, dropped, formatGroups, formatGroups, List.append_assoc]
    exact spelled

end IPv6

/-! ## Hosts -/

/-- The groups of the IPv6 address to which an address is mapped, as numbers. -/
def IPv4.mappedGroups (address : IPv4) : List Nat :=
  [0, 0, 0, 0, 0, 0xffff, address.first * 256 + address.second,
    address.third * 256 + address.fourth]

theorem IPv4.mappedGroups_injective : Function.Injective IPv4.mappedGroups := by
  rintro ⟨a, b, c, d⟩ ⟨a', b', c', d'⟩ same
  simp only [mappedGroups, List.cons.injEq, true_and, and_true] at same
  simp only [IPv4.mk.injEq, Fin.ext_iff]
  omega

theorem IPv6.exists_eight (address : IPv6) :
    ∃ a b c d e f g h, address.groups = [a, b, c, d, e, f, g, h] := by
  obtain ⟨groups, eight⟩ := address
  match groups, eight with
  | [a, b, c, d, e, f, g, h], _ => exact ⟨a, b, c, d, e, f, g, h, rfl⟩

theorem IPv6.mapped?_eq_some_iff {address : IPv6} {quad : IPv4} :
    address.mapped? = some quad ↔ address.groups.map Fin.val = quad.mappedGroups := by
  obtain ⟨a, b, c, d, e, f, g, h, groups⟩ := address.exists_eight
  have octets : (⟨⟨g / 256, by omega⟩, ⟨g % 256, by omega⟩, ⟨h / 256, by omega⟩,
      ⟨h % 256, by omega⟩⟩ : IPv4) = quad ↔
        g.val = quad.first * 256 + quad.second ∧ h.val = quad.third * 256 + quad.fourth := by
    obtain ⟨first, second, third, fourth⟩ := quad
    simp only [IPv4.mk.injEq, Fin.ext_iff]
    omega
  have marker : f = 0xffff ↔ f.val = 0xffff := Fin.ext_iff
  rw [mapped?, groups]
  dsimp only
  rw [Option.ite_none_right_eq_some, Option.some.injEq, octets, marker]
  simp only [IPv4.mappedGroups, List.map_cons, List.map_nil, List.cons.injEq, Fin.ext_iff,
    Fin.val_zero, and_true, and_assoc]

namespace Address

/-- The groups by which a host is known, as numbers: an IPv4 address has those of the address to
which it is mapped. -/
def groups : Address → List Nat
  | .v4 address => address.mappedGroups
  | .v6 address => address.groups.map Fin.val

theorem groups_resolve (address : Address) : address.resolve.groups = address.groups := by
  cases address with
  | v4 address => rfl
  | v6 address =>
    rw [resolve]
    cases found : address.mapped? with
    | some quad => exact (IPv6.mapped?_eq_some_iff.mp found).symm
    | none => rfl

theorem resolve_of_groups {address : Address} {quad : IPv4}
    (same : address.groups = quad.mappedGroups) : address.resolve = .v4 quad := by
  cases address with
  | v4 address => rw [resolve, IPv4.mappedGroups_injective same]
  | v6 address => rw [resolve, IPv6.mapped?_eq_some_iff.mpr same]

/-- Addresses are resolved to the same one exactly if they have the same groups. -/
theorem resolve_eq_iff {left right : Address} :
    left.resolve = right.resolve ↔ left.groups = right.groups := by
  constructor
  · intro same
    rw [← groups_resolve left, same, groups_resolve]
  · intro same
    cases left with
    | v4 quad => exact (resolve_of_groups same.symm).symm
    | v6 left =>
      cases right with
      | v4 quad => exact resolve_of_groups same
      | v6 right =>
        obtain ⟨groups, _⟩ := left
        obtain rfl : groups = right.groups :=
          (List.map_inj_right fun _ _ => Fin.eq_of_val_eq).mp same
        rfl

/-! ## Written addresses -/

theorem denotes_format (address : Address) : Denotes address.format address := by
  cases address with
  | v4 address => exact rfl
  | v6 address => exact address.spells_format

theorem format_injective : Function.Injective format := by
  intro left right same
  have read := parse?_eq_some_iff.mpr (denotes_format left)
  rw [same, parse?_eq_some_iff.mpr (denotes_format right)] at read
  exact (Option.some.inj read).symm

theorem canonical?_eq_some_iff {text canonical : Text} :
    canonical? text = some canonical ↔
      ∃ address, Denotes text address ∧ address.resolve.format = canonical := by
  simp only [canonical?, Option.map_eq_some_iff, parse?_eq_some_iff]

/-- The canonical form of a text is its own canonical form. -/
theorem canonical?_of_canonical {text canonical : Text} (read : canonical? text = some canonical) :
    canonical? canonical = some canonical := by
  obtain ⟨address, -, rfl⟩ := canonical?_eq_some_iff.mp read
  have resolved := resolve_eq_iff.mpr (groups_resolve address)
  exact canonical?_eq_some_iff.mpr
    ⟨address.resolve, denotes_format address.resolve, congrArg format resolved⟩

/-- Two texts denote the same host. -/
def SameHost (left right : Text) : Prop :=
  ∃ address other, Denotes left address ∧ Denotes right other ∧ address.groups = other.groups

/-- A text denotes one address, so it denotes one host. -/
theorem sameHost_iff {left right : Text} {address other : Address} (denotes : Denotes left address)
    (denoted : Denotes right other) : SameHost left right ↔ address.groups = other.groups := by
  constructor
  · rintro ⟨address', other', denotes', denoted', same⟩
    rw [← parse?_eq_some_iff] at denotes denoted denotes' denoted'
    cases denotes.symm.trans denotes'
    cases denoted.symm.trans denoted'
    exact same
  · intro same
    exact ⟨address, other, denotes, denoted, same⟩

/-- The texts that denote an address have a canonical form, and no others do. The form is its own
canonical form, and two texts share it exactly if they denote the same host. -/
theorem canonical_decides_host :
    (∀ text, (∃ canonical, canonical? text = some canonical) ↔ ∃ address, Denotes text address) ∧
      (∀ text canonical, canonical? text = some canonical →
        canonical? canonical = some canonical) ∧
      ∀ left right first second, canonical? left = some first → canonical? right = some second →
        (first = second ↔ SameHost left right) := by
  refine ⟨fun text => ?_, fun _ _ => canonical?_of_canonical, ?_⟩
  · simp only [canonical?_eq_some_iff]
    constructor
    · rintro ⟨_, address, denotes, _⟩
      exact ⟨address, denotes⟩
    · rintro ⟨address, denotes⟩
      exact ⟨_, address, denotes, rfl⟩
  · intro left right first second leftRead rightRead
    obtain ⟨address, denotes, rfl⟩ := canonical?_eq_some_iff.mp leftRead
    obtain ⟨other, denoted, rfl⟩ := canonical?_eq_some_iff.mp rightRead
    rw [format_injective.eq_iff, resolve_eq_iff, sameHost_iff denotes denoted]

/-- A dotted quad at the end stands for an IPv4 address only where that is mapped to the whole. -/
theorem canonical_decides_host_quads :
    canonical? "0:0:00::FFFF:10.0.0.7".toList = some "10.0.0.7".toList ∧
      canonical? "10.0.0.7".toList = some "10.0.0.7".toList ∧
      SameHost "0:0:00::FFFF:10.0.0.7".toList "10.0.0.7".toList ∧
      canonical? "::10.0.0.7".toList = some "::a00:7".toList ∧
      canonical? "::a00:7".toList = some "::a00:7".toList ∧
      ¬ SameHost "::10.0.0.7".toList "10.0.0.7".toList := by
  have mapped : canonical? "0:0:00::FFFF:10.0.0.7".toList = some "10.0.0.7".toList := by
    decide +kernel
  have quad : canonical? "10.0.0.7".toList = some "10.0.0.7".toList := by decide +kernel
  have compatible : canonical? "::10.0.0.7".toList = some "::a00:7".toList := by decide +kernel
  have different : "::a00:7".toList ≠ "10.0.0.7".toList := by decide
  obtain ⟨-, own, decides⟩ := canonical_decides_host
  exact ⟨mapped, quad, (decides _ _ _ _ mapped quad).mp rfl, compatible, own _ _ compatible,
    mt (decides _ _ _ _ compatible quad).mpr different⟩

end Address

end Network

end DataSource
