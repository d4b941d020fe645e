import DataSource.Text.Basic

/-!
A table maps names to texts and remembers the order in which its names first appeared. Writing a
name again changes its value and keeps its place, so a table is what a list of assignments, read
from left to right, amounts to. Two tables agree when every name has the same value in both.
-/
namespace DataSource

/-- An ordered list of named values in which no name occurs twice. -/
structure Table where
  /-- The named values in the order of the table. -/
  entries : List (Text × Text)
  /-- No name has two values. -/
  names_nodup : (entries.map Prod.fst).Nodup
  deriving DecidableEq

namespace Table

/-- The value of a name in a list of assignments that give each name once. -/
def value? (name : Text) : List (Text × Text) → Option Text
  | [] => none
  | (other, value) :: rest => if other = name then some value else value? name rest

/-- Writes a value at its name's place, or at the end when the name is new. -/
def write (name value : Text) : List (Text × Text) → List (Text × Text)
  | [] => [(name, value)]
  | (other, old) :: rest =>
    if other = name then (other, value) :: rest else (other, old) :: write name value rest

/-- Writing keeps the names in their order and appends the name only when it is new. -/
theorem map_fst_write (name value : Text) (entries : List (Text × Text)) :
    (write name value entries).map Prod.fst =
      if name ∈ entries.map Prod.fst then entries.map Prod.fst
      else entries.map Prod.fst ++ [name] := by
  induction entries with
  | nil => simp [write]
  | cons entry rest ih => grind [write]

/-- The table without names. -/
def empty : Table := ⟨[], List.nodup_nil⟩

instance : Inhabited Table := ⟨empty⟩

/-- The value of a name. -/
def find? (table : Table) (name : Text) : Option Text :=
  value? name table.entries

/-- Whether a name has a value. -/
def contains (table : Table) (name : Text) : Bool :=
  (table.find? name).isSome

/-- The names in the order of the table. -/
def names (table : Table) : List Text :=
  table.entries.map Prod.fst

/-- Gives a name a value: in its place when it has one already, at the end otherwise. -/
def insert (table : Table) (name value : Text) : Table where
  entries := write name value table.entries
  names_nodup := by
    have distinct := table.names_nodup
    rw [map_fst_write]
    split
    · exact distinct
    · rename_i absent
      simp only [List.nodup_append, List.mem_singleton]
      refine ⟨distinct, by simp, ?_⟩
      rintro other member _ rfl same
      exact absent (same ▸ member)

/-- Removes a name, if it is there. -/
def erase (table : Table) (name : Text) : Table where
  entries := table.entries.filter fun entry => entry.1 != name
  names_nodup := table.names_nodup.sublist (List.filter_sublist.map Prod.fst)

/-- Carries out assignments from left to right. -/
def update (table : Table) (assignments : List (Text × Text)) : Table :=
  assignments.foldl (fun table entry => table.insert entry.1 entry.2) table

/-- The table that a list of assignments amounts to. -/
def ofList (assignments : List (Text × Text)) : Table :=
  empty.update assignments

/-- Two tables agree when they give every name the same value, in whatever order. -/
def Agrees (left right : Table) : Prop :=
  ∀ name, left.find? name = right.find? name

theorem find?_insert (table : Table) (name value other : Text) :
    (table.insert name value).find? other =
      if name = other then some value else table.find? other := by
  obtain ⟨entries, distinct⟩ := table
  simp only [find?, insert]
  clear distinct
  induction entries with
  | nil => simp [write, value?]
  | cons entry rest ih => grind [write, value?]

theorem names_insert (table : Table) (name value : Text) :
    (table.insert name value).names =
      if name ∈ table.names then table.names else table.names ++ [name] :=
  map_fst_write name value table.entries

theorem find?_eq_none {table : Table} {name : Text} :
    table.find? name = none ↔ name ∉ table.names := by
  obtain ⟨entries, distinct⟩ := table
  simp only [find?, names]
  clear distinct
  induction entries with
  | nil => simp [value?]
  | cons entry rest ih => grind [value?]

/-- Tables agree as soon as they do on the names of either. -/
theorem agrees_iff (left right : Table) :
    left.Agrees right ↔
      ∀ name ∈ left.names ++ right.names, left.find? name = right.find? name := by
  constructor
  · intro agrees name _
    exact agrees name
  · intro agrees name
    by_cases member : name ∈ left.names ++ right.names
    · exact agrees name member
    · simp only [List.mem_append, not_or] at member
      rw [find?_eq_none.2 member.1, find?_eq_none.2 member.2]

instance (left right : Table) : Decidable (left.Agrees right) :=
  decidable_of_iff _ (agrees_iff left right).symm

end Table

end DataSource
