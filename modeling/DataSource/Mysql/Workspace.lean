import DataSource.Mysql.Descriptor

/-!
Named registers that hold descriptors, as the variables of a caller hold `ConnectionDescriptor`
objects. Several registers may hold the same descriptor; a change made through one of them is then
seen through all of them, while a copy has a life of its own.
-/
namespace DataSource.Mysql

/-- Registers and the descriptors that they hold. -/
structure Workspace where
  /-- The descriptors, in the order in which they were made. -/
  descriptors : List Descriptor
  /-- Which descriptor each register holds, the latest assignment of a register first. -/
  registers : List (Text × Nat)

namespace Workspace

/-- The workspace without registers. -/
def empty : Workspace := ⟨[], []⟩

/-- The position of the descriptor that a register holds. -/
def position? (workspace : Workspace) (register : Text) : Option Nat :=
  workspace.registers.lookup register

/-- The descriptor that a register holds. -/
def get? (workspace : Workspace) (register : Text) : Option Descriptor :=
  (workspace.position? register).bind fun position => workspace.descriptors[position]?

/-- Puts a descriptor of its own into a register. -/
def put (workspace : Workspace) (register : Text) (descriptor : Descriptor) : Workspace where
  descriptors := workspace.descriptors ++ [descriptor]
  registers := (register, workspace.descriptors.length) :: workspace.registers

/-- Lets a register hold the same descriptor as another one, if that one holds any. -/
def share (workspace : Workspace) (source target : Text) : Workspace :=
  match workspace.position? source with
  | some position => { workspace with registers := (target, position) :: workspace.registers }
  | none => workspace

/-- Changes the descriptor that a register holds, for all registers that hold it. -/
def change (workspace : Workspace) (register : Text) (edit : Descriptor → Descriptor) :
    Workspace :=
  match workspace.position? register with
  | some position => { workspace with descriptors := workspace.descriptors.modify position edit }
  | none => workspace

end Workspace

end DataSource.Mysql
