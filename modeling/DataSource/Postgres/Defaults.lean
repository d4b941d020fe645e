import DataSource.Text.Blank
import DataSource.Text.LetterCase
import DataSource.Trace

/-!
The settings that a PostgreSQL connection gets when its connection string leaves them out. The host
is the first of some directories that exists, or else the local host; the port is always the same;
the user is the current user, if there is one. A failure of the operating system to answer is
noted and passed over. All of this is `PostgresDefaults`.
-/
namespace DataSource.Postgres

/-- The directories in which a server usually has its socket (`DEFAULT_SOCKET_DIRS`). -/
def standardSocketDirs : List Text :=
  ["/var/run/postgresql".toList, "/private/tmp".toList, "/tmp".toList]

/-- The host of a connection for which no directory exists. -/
def localHost : Text := "localhost".toList

/-- Where settings that are left out come from (`PostgresDefaults`). -/
structure Defaults where
  /-- The directories that may be the host, in the order of preference. -/
  socketDirs : List Text
  /-- Whether the machine is asked which directories exist. -/
  probeEnabled : Bool
  /-- Answers what the settings depend on. -/
  machine : Machine

namespace Defaults

/-- The first of some directories that exists. -/
def probe (machine : Machine) : List Text → Traced Text
  | [] => pure localHost
  | path :: rest => do
    match ← Traced.ask (.path path) (machine.pathExists path) with
    | .ok true => pure path
    | .ok false => probe machine rest
    | .error fault =>
      if fault.kind.isSystem then
        Traced.note [.probeFailed path fault]
        probe machine rest
      else Traced.ofExcept (.error (.fault fault))

/-- The host (`PostgresDefaults.host`). -/
def host (defaults : Defaults) : Traced Text :=
  if defaults.probeEnabled then probe defaults.machine defaults.socketDirs else pure localHost

/-- Whether a failure to tell the user leaves the user out. -/
def leavesUserOut (kind : FaultKind) : Bool :=
  kind.isSystem || kind = .missing || kind = .unavailable

/-- The user, unless there is none or its name is empty (`PostgresDefaults.user`). -/
def user (defaults : Defaults) : Traced (Option Text) := do
  match ← Traced.ask .user defaults.machine.currentUser with
  | .ok name => pure (name.bind Text.nonempty?)
  | .error fault =>
    if leavesUserOut fault.kind then
      Traced.note [.userUnknown fault]
      pure none
    else Traced.ofExcept (.error (.fault fault))

/-- The settings with a host. -/
def withHost (defaults : Defaults) (settings : Table) : Traced Table :=
  if settings.contains hostName then pure settings
  else do return settings.insert hostName (← defaults.host)

/-- The settings with a port. -/
def withPort (settings : Table) : Table :=
  if settings.contains portName then settings else settings.insert portName defaultPort

/-- The settings with a user, if one is known. -/
def withUser (defaults : Defaults) (settings : Table) : Traced Table :=
  if settings.contains userName then pure settings
  else do
    match ← defaults.user with
    | some name => return settings.insert userName name
    | none => return settings

/-- Adds the settings that are left out (`PostgresDefaults.apply`). -/
def apply (defaults : Defaults) (settings : Table) : Traced Table := do
  let settings ← defaults.withHost settings
  defaults.withUser (withPort settings)

/-- The variable that lists the directories. -/
def socketDirsVariable : Text := "OTEL_PYTHON_DSN_POSTGRES_SOCKET_DIRS".toList

/-- The variable that turns probing off. -/
def probeVariable : Text := "OTEL_PYTHON_DSN_POSTGRES_HOST_PROBE_ENABLED".toList

/-- The variables that may tell the user, in the order of preference. -/
def userVariables : List Text :=
  ["LOGNAME".toList, "USER".toList, "LNAME".toList, "USERNAME".toList]

/-- Drops the Unicode blanks around a text. -/
def trimBlanks (text : Text) : Text :=
  Text.trim Text.isUnicodeBlank text

/-- The directories that a list separated by commas names. -/
def readSocketDirs (text : Text) : List Text :=
  ((text.splitOn ',').map trimBlanks).filter (· ≠ [])

/-- The defaults that environment variables ask for (`PostgresDefaults.from_env`). -/
def ofEnvironment (lookUp : Text → Option Text) (pathExists : Text → Except Fault Bool) :
    Defaults where
  socketDirs :=
    match (lookUp socketDirsVariable).bind Text.nonempty? with
    | some text => readSocketDirs text
    | none => standardSocketDirs
  probeEnabled :=
    match lookUp probeVariable with
    | some text => !Text.spells "false".toList (trimBlanks text)
    | none => true
  machine :=
    { pathExists
      currentUser := .ok (userVariables.findSome? fun name =>
        (lookUp name).bind Text.nonempty?) }

end Defaults

end DataSource.Postgres
