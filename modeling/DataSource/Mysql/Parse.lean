import DataSource.Mysql.Descriptor
import DataSource.Mysql.Error
import DataSource.Network.Endpoint
import DataSource.Text.LetterCase
import DataSource.TimeZone

/-!
Reading a data source name. The last slash begins the database name, since the password and the
address may have slashes too; before it the last at sign ends the credentials. After it the first
question mark begins the parameters, which are read from the first to the last. Then the database
name is decoded, and last of all what was left out gets its standard value. This is `parse_dsn`.
-/
namespace DataSource.Mysql

/-- The collations in which a character may end in the octet of a backslash, so that parameters
cannot be interpolated safely (`_UNSAFE_COLLATIONS`). -/
def unsafeCollations : List String := [
  "big5_chinese_ci", "sjis_japanese_ci", "gbk_chinese_ci", "big5_bin", "gb2312_bin", "gbk_bin",
  "sjis_bin", "cp932_japanese_ci", "cp932_bin", "gb18030_chinese_ci", "gb18030_bin"]

/-- Whether parameters cannot be interpolated safely in a collation. -/
def isUnsafeCollation (collation : Text) : Bool :=
  unsafeCollations.any fun other => other.toList = collation

/-- The truth value of a text: the digit one or zero, or a word in lower case, in upper case or
with a capital (`_TRUE_VALUES`, `_FALSE_VALUES`). -/
def truth? (text : Text) : Option Bool :=
  if text = ['1'] ∨ text = "true".toList ∨ text = "TRUE".toList ∨ text = "True".toList then
    some true
  else if text = ['0'] ∨ text = "false".toList ∨ text = "FALSE".toList ∨ text = "False".toList then
    some false
  else none

/-- Decodes the value of a parameter (`_query_unescape`). -/
def readField (name value : Text) : Except Error Text :=
  (Text.Percent.decode .field value).mapError fun bad => .badValue name bad

/-- Reads the name of a time zone, which is the local one or one of the database
(`_read_location`). -/
def readLocation (value : Text) : Except Error Text :=
  match readField OptionName.location.text value with
  | .error error => .error error
  | .ok zone =>
    if zone = [] ∨ zone = standardLocation then .ok standardLocation
    else if zone = "Local".toList ∨ TimeZone.isKnown zone then .ok zone
    else .error (.unknownZone zone)

/-- Reads the name of a configuration for encryption. The names that have a meaning of their own
are known in several spellings, of which one is kept (`_read_tls`). -/
def readTls (value : Text) : Except Error Text :=
  let preferred := "preferred".toList
  let unverified := "skip-verify".toList
  match truth? value with
  | some true => .ok "true".toList
  | some false => .ok "false".toList
  | none =>
    if Text.spells unverified value then .ok unverified
    else if Text.spells preferred value then .ok preferred
    else readField OptionName.tls.text value

namespace Descriptor

/-- Sets a typed option to the value that a text denotes: the branches over the name in
`_parse_params`, with `_read_bool` for the flags. -/
def readOption (descriptor : Descriptor) (option : OptionName) (value : Text) :
    Except Error Descriptor :=
  match option with
  | .flag flag =>
    match truth? value with
    | some on => .ok (descriptor.setFlag flag on)
    | none => .error (.badFlag flag value)
  | .timeout timeout =>
    match Duration.parse value with
    | .ok duration => .ok (descriptor.setTimeout timeout duration)
    | .error invalid => .error (.badTimeout timeout invalid)
  | .collation => .ok { descriptor with collation := value }
  | .connectionAttributes =>
    (readField option.text value).map fun text => { descriptor with connectionAttributes := text }
  | .location => (readLocation value).map fun zone => { descriptor with location := zone }
  | .maxAllowedPacket =>
    match Numeral.toInt? value with
    | .ok (some size) => .ok { descriptor with maxAllowedPacket := size }
    | .ok none => .error (.badPacket value)
    | .error long => .error (.packetTooLong long)
  | .serverPublicKey =>
    (readField option.text value).map fun text => { descriptor with serverPublicKey := text }
  | .tls => (readTls value).map fun name => { descriptor with tls := name }

/-- Sets a typed option or another parameter. -/
def readAssignment (descriptor : Descriptor) (name value : Text) : Except Error Descriptor :=
  match OptionName.ofText? name with
  | some option => descriptor.readOption option value
  | none =>
    (readField name value).map fun text =>
      { descriptor with parameters := descriptor.parameters.insert name text }

/-- Reads one parameter. Without an equals sign it says nothing. -/
def readParameter (descriptor : Descriptor) (text : Text) : Except Error Descriptor :=
  match Text.cut '=' text with
  | none => .ok descriptor
  | some (name, value) => descriptor.readAssignment name value

/-- Reads what follows the question mark, from the first parameter to the last (`_parse_params`). -/
def readParameters (descriptor : Descriptor) (text : Text) : Except Error Descriptor :=
  (text.splitOn '&').foldlM readParameter descriptor

/-- Reads the network and, between parentheses, the address. The first parenthesis opens the
address and the text has to end with the one that closes it. -/
def readNetwork (descriptor : Descriptor) (text : Text) : Except Error Descriptor :=
  match Text.cut '(' text with
  | none => .ok { descriptor with network := text }
  | some (network, rest) =>
    if rest.getLast? = some ')' then
      .ok { descriptor with network := network, address := rest.dropLast }
    else if ')' ∈ rest then .error .unescapedParameter
    else .error .addressNotClosed

/-- Reads what precedes the last slash (`_parse_prefix`). -/
def readAuthority (descriptor : Descriptor) (text : Text) : Except Error Descriptor :=
  match Text.cutLast '@' text with
  | none => descriptor.readNetwork text
  | some (credentials, network) =>
    let (user, password) := Text.divide ':' credentials
    { descriptor with user := user, password := password }.readNetwork network

/-- Reads the database name. -/
def readDatabase (descriptor : Descriptor) (text : Text) : Except Error Descriptor :=
  match Text.Percent.decode .component text with
  | .ok database => .ok { descriptor with database := database }
  | .error bad => .error (.badDatabase text bad)

/-- The port of an address that has none (`DEFAULT_PORT`). -/
def standardPort : Text := "3306".toList

/-- The address of a server on the same machine, for the networks that have one
(`_DEFAULT_ADDRESSES`). -/
def standardAddress? (network : Text) : Option Text :=
  if network = "tcp".toList then some (Network.Endpoint.join "127.0.0.1".toList standardPort)
  else if network = "unix".toList then some "/tmp/mysql.sock".toList
  else none

/-- The text between the brackets that enclose an address, where there are both. -/
def withoutBrackets (address : Text) : Text :=
  if address.head? = some '[' ∧ address.getLast? = some ']' then address.tail.dropLast
  else address

/-- Gives an address the standard port, unless it is an endpoint already (`_ensure_port`). -/
def ensurePort (address : Text) : Text :=
  match Network.Endpoint.split address with
  | .ok _ => address
  | .error _ => Network.Endpoint.join (withoutBrackets address) standardPort

/-- Gives a network and an address to a descriptor that lacks them, and a port to an address that
needs one (`_normalize`). -/
def complete (descriptor : Descriptor) : Except Error Descriptor :=
  if descriptor.flags .interpolateParams ∧ isUnsafeCollation descriptor.collation then
    .error .unsafeCollation
  else
    let network := if descriptor.network = [] then standardNetwork else descriptor.network
    if descriptor.address = [] then
      match standardAddress? network with
      | some address => .ok { descriptor with network := network, address := address }
      | none => .error (.noStandardAddress network)
    else if network = standardNetwork then
      .ok { descriptor with network := network, address := ensurePort descriptor.address }
    else .ok { descriptor with network := network }

/-- Reads a data source name (`parse_dsn`). The empty one describes the standard connection. -/
def parse (text : Text) : Except Error Descriptor :=
  match Text.cutLast '/' text with
  | none => if text = [] then complete {} else .error .missingSlash
  | some (before, after) => do
    let (database, parameters) := Text.divide '?' after
    let descriptor ← readAuthority {} before
    let descriptor ← descriptor.readParameters parameters
    let descriptor ← descriptor.readDatabase database
    descriptor.complete

end Descriptor

end DataSource.Mysql
