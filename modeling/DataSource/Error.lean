import DataSource.Machine
import DataSource.Mysql.Error
import DataSource.Postgres.KeywordValue
import DataSource.Postgres.Url

/-!
Why a connection string is not described. Most causes are faults of its form. Two are not: a
number with too many digits, and a question that the machine fails to answer.
-/
namespace DataSource

/-- The causes for which a connection string is not described. -/
inductive Error where
  /-- The keyword/value form is wrong. -/
  | keywordValue (error : Postgres.KeywordValue.Error)
  /-- The URL form is wrong. -/
  | url (error : Postgres.Url.Error)
  /-- The MySQL form is wrong. -/
  | mysql (error : Mysql.Error)
  /-- A number that was to be reported has too many digits. -/
  | tooLong (long : Numeral.TooLong)
  /-- The machine fails to answer a question. -/
  | fault (fault : Fault)
  deriving DecidableEq

namespace Error

/-- What is wrong. -/
def message : Error → Text
  | .keywordValue error => error.message
  | .url error => error.message
  | .mysql error => error.message
  | .tooLong long => long.message
  | .fault cause => cause.message

/-- Whether the cause is a fault of form (`DSNSyntaxError`). -/
def isMalformed : Error → Bool
  | .mysql (.packetTooLong _) | .tooLong _ | .fault _ => false
  | .keywordValue _ | .url _ | .mysql _ => true

end Error

end DataSource
