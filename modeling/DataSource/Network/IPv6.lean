import DataSource.Network.IPv4
import DataSource.Text.Hexadecimal

/-!
IPv6 addresses. There are many ways to write one: groups of up to four hexadecimal digits in
either case, a double colon for one run of zero groups, and a dotted quad for the last two groups.
The written form here is lower case without leading zeros; the first of the longest runs of at
least two zero groups becomes the double colon, and a dotted quad is never used.
-/
namespace DataSource.Network

/-- One of the eight groups of an address. -/
abbrev Group := Fin 65536

/-- An address of eight groups. -/
structure IPv6 where
  /-- The groups from the first to the last. -/
  groups : List Group
  /-- There are eight of them. -/
  length_groups : groups.length = 8
  deriving DecidableEq

namespace IPv6

/-- Reads one group of one to four digits. -/
def readGroup (text : Text) : Option Group :=
  if text ≠ [] ∧ text.length ≤ 4 then
    match Text.hexValue? text with
    | some value => if fits : value < 65536 then some ⟨value, fits⟩ else none
    | none => none
  else none

/-- The two groups that a dotted quad stands for. -/
def quadGroups (quad : IPv4) : List Group :=
  [⟨quad.first * 256 + quad.second, by omega⟩, ⟨quad.third * 256 + quad.fourth, by omega⟩]

/-- Reads parts between colons, of which the last may be a dotted quad. -/
def readGroups : List Text → Option (List Group)
  | [] => some []
  | part :: rest =>
    if rest = [] ∧ '.' ∈ part then (IPv4.parse? part).map quadGroups
    else
      match readGroup part, readGroups rest with
      | some group, some groups => some (group :: groups)
      | _, _ => none

/-- Reads the groups on one side of a double colon, or all of them. No text is no group; a dotted
quad may only end the address. -/
def readSide (last : Bool) (text : Text) : Option (List Group) :=
  if text = [] then some []
  else if last = false ∧ '.' ∈ text then none
  else readGroups (text.splitOn ':')

/-- The parts around the first double colon. -/
def cutDoubleColon : Text → Option (Text × Text)
  | ':' :: ':' :: rest => some ([], rest)
  | x :: rest => (cutDoubleColon rest).map fun parts => (x :: parts.1, parts.2)
  | [] => none

/-- The address with these groups, if there are eight. -/
def ofGroups? (groups : List Group) : Option IPv6 :=
  if eight : groups.length = 8 then some ⟨groups, eight⟩ else none

/-- Reads an address. A double colon stands for at least one group. -/
def parse? (text : Text) : Option IPv6 :=
  match cutDoubleColon text with
  | none => (readSide true text).bind ofGroups?
  | some (before, after) =>
    match readSide false before, readSide true after with
    | some left, some right =>
      if left.length + right.length < 8 then
        ofGroups? (left ++ List.replicate (8 - (left.length + right.length)) 0 ++ right)
      else none
    | _, _ => none

/-- How many groups at the beginning are zero. -/
def leadingZeros (groups : List Group) : Nat :=
  (groups.takeWhile (· = 0)).length

/-- Where the first of the longest runs of zero groups begins, and its length. -/
def longestZeros : List Group → Nat × Nat
  | [] => (0, 0)
  | group :: rest =>
    let (start, length) := longestZeros rest
    let here := leadingZeros (group :: rest)
    if length ≤ here then (0, here) else (start + 1, length)

/-- Groups joined by colons. -/
def formatGroups (groups : List Group) : Text :=
  Text.join ':' (groups.map fun group => Text.hexadecimal group.val)

/-- Writes an address. -/
def format (address : IPv6) : Text :=
  let (start, length) := longestZeros address.groups
  if length < 2 then formatGroups address.groups
  else
    formatGroups (address.groups.take start) ++ [':', ':'] ++
      formatGroups (address.groups.drop (start + length))

/-- The IPv4 address that is mapped to an address: the last two groups, when the five first groups
are zero and the sixth has all bits set. -/
def mapped? (address : IPv6) : Option IPv4 :=
  match address.groups with
  | [a, b, c, d, e, f, g, h] =>
    if [a, b, c, d, e] = [0, 0, 0, 0, 0] ∧ f = 0xffff then
      some ⟨⟨g / 256, by omega⟩, ⟨g % 256, by omega⟩, ⟨h / 256, by omega⟩, ⟨h % 256, by omega⟩⟩
    else none
  | _ => none

end IPv6

end DataSource.Network
