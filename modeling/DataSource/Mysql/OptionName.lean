import DataSource.Text.Basic

/-!
The options of a MySQL data source name that have a type of their own: twelve flags, three
timeouts, and six options of other kinds. Every other parameter is free text.
-/
namespace DataSource.Mysql

/-- The options that are on or off. -/
inductive Flag where
  | allowAllFiles
  | allowCleartextPasswords
  | allowFallbackToPlaintext
  | allowNativePasswords
  | allowOldPasswords
  | checkConnLiveness
  | clientFoundRows
  | columnsWithAlias
  | interpolateParams
  | multiStatements
  | parseTime
  | rejectReadOnly
  deriving DecidableEq

namespace Flag

/-- The name of a flag (`_BOOL_OPTIONS`). -/
def name : Flag → Text
  | .allowAllFiles => "allowAllFiles".toList
  | .allowCleartextPasswords => "allowCleartextPasswords".toList
  | .allowFallbackToPlaintext => "allowFallbackToPlaintext".toList
  | .allowNativePasswords => "allowNativePasswords".toList
  | .allowOldPasswords => "allowOldPasswords".toList
  | .checkConnLiveness => "checkConnLiveness".toList
  | .clientFoundRows => "clientFoundRows".toList
  | .columnsWithAlias => "columnsWithAlias".toList
  | .interpolateParams => "interpolateParams".toList
  | .multiStatements => "multiStatements".toList
  | .parseTime => "parseTime".toList
  | .rejectReadOnly => "rejectReadOnly".toList

/-- Whether a flag is on when nothing is said about it. -/
def standard : Flag → Bool
  | .allowNativePasswords | .checkConnLiveness => true
  | _ => false

/-- All flags. -/
def all : List Flag :=
  [.allowAllFiles, .allowCleartextPasswords, .allowFallbackToPlaintext, .allowNativePasswords,
    .allowOldPasswords, .checkConnLiveness, .clientFoundRows, .columnsWithAlias,
    .interpolateParams, .multiStatements, .parseTime, .rejectReadOnly]

theorem mem_all (flag : Flag) : flag ∈ all := by
  cases flag <;> decide

end Flag

/-- The options that bound a wait. -/
inductive Timeout where
  /-- For the connection to be made. -/
  | connect
  /-- For an answer to be read. -/
  | read
  /-- For a question to be written. -/
  | write
  deriving DecidableEq

namespace Timeout

/-- The name of a timeout (`_DURATION_OPTIONS`). -/
def name : Timeout → Text
  | .connect => "timeout".toList
  | .read => "readTimeout".toList
  | .write => "writeTimeout".toList

/-- All timeouts. -/
def all : List Timeout :=
  [.connect, .read, .write]

theorem mem_all (timeout : Timeout) : timeout ∈ all := by
  cases timeout <;> decide

end Timeout

/-- The options that have a type of their own. -/
inductive OptionName where
  | flag (flag : Flag)
  | timeout (timeout : Timeout)
  | collation
  | connectionAttributes
  | location
  | maxAllowedPacket
  | serverPublicKey
  | tls
  deriving DecidableEq

namespace OptionName

/-- The name of an option as it is written. -/
def text : OptionName → Text
  | .flag which => which.name
  | .timeout which => which.name
  | .collation => "collation".toList
  | .connectionAttributes => "connectionAttributes".toList
  | .location => "loc".toList
  | .maxAllowedPacket => "maxAllowedPacket".toList
  | .serverPublicKey => "serverPubKey".toList
  | .tls => "tls".toList

/-- All options, in the order of their names. -/
def all : List OptionName :=
  [.flag .allowAllFiles, .flag .allowCleartextPasswords, .flag .allowFallbackToPlaintext,
    .flag .allowNativePasswords, .flag .allowOldPasswords, .flag .checkConnLiveness,
    .flag .clientFoundRows, .collation, .flag .columnsWithAlias, .connectionAttributes,
    .flag .interpolateParams, .location, .maxAllowedPacket, .flag .multiStatements,
    .flag .parseTime, .timeout .read, .flag .rejectReadOnly, .serverPublicKey, .timeout .connect,
    .tls, .timeout .write]

/-- The option of a name. -/
def ofText? (name : Text) : Option OptionName :=
  all.find? fun option => option.text = name

theorem mem_all (option : OptionName) : option ∈ all := by
  cases option with
  | flag flag => cases flag <;> decide
  | timeout timeout => cases timeout <;> decide
  | _ => decide

/-- The list of all options is in strictly increasing order of their names. -/
theorem pairwise_all :
    all.Pairwise fun first second =>
      first.text ≠ second.text ∧ Text.precedes first.text second.text = true := by
  decide

end OptionName

end DataSource.Mysql
