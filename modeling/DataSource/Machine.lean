import DataSource.Text.Quoted

/-!
What a default may depend on outside the connection string: which paths exist, and who the current
user is. A machine answers both questions, or it fails to: it is the `path_exists` and the
`current_user` with which `PostgresDefaults` is made.
-/
namespace DataSource

/-- The kinds of failure in a question to the machine. `PostgresDefaults` passes some of them over
and lets the others through. -/
inductive FaultKind where
  /-- What was looked up is not there (`KeyError`). -/
  | missing
  /-- The operating system reports a failure (`OSError`). -/
  | system
  /-- The operating system denies permission. -/
  | denied
  /-- What the question needs is not installed (`ImportError`). -/
  | unavailable
  /-- The question itself is not acceptable. -/
  | invalid
  deriving DecidableEq

/-- Whether a failure comes from the operating system. -/
def FaultKind.isSystem : FaultKind → Bool
  | .system | .denied => true
  | .missing | .unavailable | .invalid => false

/-- A failure in a question to the machine. -/
structure Fault where
  kind : FaultKind
  /-- What is told about it: what was looked up in vain, or a description. -/
  detail : Text
  deriving DecidableEq

/-- The failure in words. What was looked up in vain is quoted. -/
def Fault.message (fault : Fault) : Text :=
  if fault.kind = .missing then Text.quoted fault.detail else fault.detail

/-- Answers questions about paths and about the user. -/
structure Machine where
  /-- Whether a path exists. -/
  pathExists : Text → Except Fault Bool
  /-- The name of the current user, where there is one. -/
  currentUser : Except Fault (Option Text)

end DataSource
