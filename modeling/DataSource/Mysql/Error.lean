import DataSource.Duration
import DataSource.Mysql.OptionName
import DataSource.Text.Percent

/-!
Why a text is no MySQL data source name: what `parse_dsn` and its helpers raise.
-/
namespace DataSource.Mysql

/-- The causes for which a data source name is refused. -/
inductive Error where
  /-- No slash separates the database name. -/
  | missingSlash
  /-- A parenthesis opens an address and none closes it. -/
  | addressNotClosed
  /-- Something follows the parenthesis that closes an address, most likely the rest of a parameter
  with a slash in it. -/
  | unescapedParameter
  /-- Parameters are to be interpolated in a collation in which that is not safe. -/
  | unsafeCollation
  /-- There is neither an address nor a standard one for the network. -/
  | noStandardAddress (network : Text)
  /-- The value of a flag is neither true nor false. -/
  | badFlag (flag : Flag) (value : Text)
  /-- The value of a timeout is no duration. -/
  | badTimeout (timeout : Timeout) (invalid : Duration.Invalid)
  /-- The value of a parameter has a bad escape. -/
  | badValue (name : Text) (bad : Text.Percent.BadEscape)
  /-- The time zone does not exist. -/
  | unknownZone (zone : Text)
  /-- The greatest packet size is no integer of 64 bits. -/
  | badPacket (value : Text)
  /-- The greatest packet size has too many digits to be looked at. -/
  | packetTooLong (long : Numeral.TooLong)
  /-- The database name has a bad escape. -/
  | badDatabase (name : Text) (bad : Text.Percent.BadEscape)
  deriving DecidableEq

namespace Error

/-- The words that begin each message about a value. -/
def invalidValue (name : Text) : Text :=
  "invalid value for ".toList ++ name ++ ": ".toList

/-- What is wrong with the text. -/
def message : Error → Text
  | .missingSlash => "invalid DSN: missing the slash separating the database name".toList
  | .addressNotClosed =>
    "invalid DSN: network address not terminated (missing closing brace)".toList
  | .unescapedParameter => "invalid DSN: did you forget to escape a param value?".toList
  | .unsafeCollation =>
    "invalid DSN: interpolateParams can not be used with unsafe collations".toList
  | .noStandardAddress network =>
    "default addr for network ".toList ++ Text.quoted network ++ " unknown".toList
  | .badFlag flag value =>
    "invalid bool value for ".toList ++ flag.name ++ ": ".toList ++ Text.quoted value
  | .badTimeout timeout invalid => invalidValue timeout.name ++ invalid.message
  | .badValue name bad => invalidValue name ++ bad.message
  | .unknownZone zone =>
    invalidValue OptionName.location.text ++ "unknown time zone ".toList ++ Text.quoted zone
  | .badPacket value => invalidValue OptionName.maxAllowedPacket.text ++ Text.quoted value
  | .packetTooLong long => long.message
  | .badDatabase name bad =>
    "invalid dbname ".toList ++ Text.quoted name ++ ": ".toList ++ bad.message

end Error

end DataSource.Mysql
