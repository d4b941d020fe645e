import DataSource.Mysql.Descriptor
import DataSource.Text.Percent

/-!
Writing a descriptor as a data source name, `user:password@network(address)/database?a=b&c=d`.
Options with their standard value are left out. Those that remain come first, in the order of
their names, and then the other parameters in the order of theirs, so that a descriptor has one
written form whatever the order in which it was built. This is `ConnectionDescriptor.format_dsn`.
-/
namespace DataSource.Mysql.Descriptor

/-- The value of a flag as it is written. -/
def flagText (on : Bool) : Text :=
  if on then "true".toList else "false".toList

/-- A text as the value of an option that is left out when empty. -/
def fieldText? (value : Text) : Option Text :=
  (Text.nonempty? value).map Text.Percent.encodeField

/-- The value of an option as it is written, unless it is left out. -/
def written? (descriptor : Descriptor) : OptionName → Option Text
  | .flag flag =>
    let on := descriptor.flags flag
    if on = flag.standard then none else some (flagText on)
  | .timeout timeout =>
    let duration := descriptor.timeouts timeout
    if 0 < duration.micros then some duration.format else none
  | .collation =>
    if descriptor.collation = standardCollation then none else some descriptor.collation
  | .connectionAttributes => fieldText? descriptor.connectionAttributes
  | .location =>
    if descriptor.location = standardLocation then none
    else some (Text.Percent.encodeField descriptor.location)
  | .maxAllowedPacket =>
    if descriptor.maxAllowedPacket = standardPacket then none
    else some (Numeral.ofInt descriptor.maxAllowedPacket)
  | .serverPublicKey => fieldText? descriptor.serverPublicKey
  | .tls => fieldText? descriptor.tls

/-- The typed options that are written, with their values (`_typed_options`). -/
def typedOptions (descriptor : Descriptor) : List (Text × Text) :=
  OptionName.all.filterMap fun option =>
    (descriptor.written? option).map fun value => (option.text, value)

/-- The other parameters, sorted by name, with their values as they are written. -/
def otherParameters (descriptor : Descriptor) : List (Text × Text) :=
  let sorted := descriptor.parameters.entries.mergeSort fun left right =>
    Text.precedes left.1 right.1
  sorted.map fun entry => (entry.1, Text.Percent.encodeField entry.2)

/-- All that follows the question mark, in order. -/
def allParameters (descriptor : Descriptor) : List (Text × Text) :=
  descriptor.typedOptions ++ descriptor.otherParameters

/-- The characters of a database name that need no escape, although they are reserved. -/
def isSafeInDatabase (c : Char) : Bool :=
  c = '$' || c = '&' || c = '+' || c = ':' || c = '=' || c = '@'

/-- The user and the password, unless there is no user. -/
def formatCredentials (descriptor : Descriptor) : Text :=
  if descriptor.user = [] then []
  else if descriptor.password = [] then descriptor.user ++ ['@']
  else descriptor.user ++ ':' :: descriptor.password ++ ['@']

/-- The network and the address, unless there is no network. -/
def formatNetwork (descriptor : Descriptor) : Text :=
  if descriptor.network = [] then []
  else if descriptor.address = [] then descriptor.network
  else descriptor.network ++ '(' :: descriptor.address ++ [')']

/-- Parameters after their question mark, unless there are none. -/
def formatParameters (parameters : List (Text × Text)) : Text :=
  if parameters = [] then []
  else '?' :: Text.join '&' (parameters.map fun entry => entry.1 ++ '=' :: entry.2)

/-- Writes a descriptor (`ConnectionDescriptor.format_dsn`). -/
def format (descriptor : Descriptor) : Text :=
  descriptor.formatCredentials ++ descriptor.formatNetwork ++
    '/' :: Text.Percent.encode isSafeInDatabase descriptor.database ++
      formatParameters descriptor.allParameters

end DataSource.Mysql.Descriptor
