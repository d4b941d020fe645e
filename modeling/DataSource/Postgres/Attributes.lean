import DataSource.Attributes
import DataSource.Postgres.ConnectionString

/-!
The attributes of a PostgreSQL connection. The connection string itself is reported only when its
settings have no password at all. Of several hosts and ports the first of each is reported. An empty
user is left out, as `set_string_attribute` leaves it out.
-/
namespace DataSource.Postgres

/-- The first entry of a list separated by commas, unless it is empty (`_first_entry`). -/
def firstEntry (settings : Table) (name : Text) : Option Text :=
  (settings.find? name).bind fun list => Text.nonempty? (list.takeWhile (· ≠ ','))

/-- How the peer is reached and who it is: the branches over `hostaddr` and `host` in
`postgres_attributes`, with `_first_ip` and `_set_peer_host`. An address that is given for the host
comes first; a host that begins with a slash is the directory of a socket. -/
def peer (hostAddress host : Option Text) : Option Transport × Option Peer :=
  match hostAddress, host with
  | some address, host =>
    (some .tcp,
      ((address :: host.toList).findSome? Network.Address.canonical?).map .address)
  | none, some host =>
    if host.head? = some '/' then (some .unix, some (.name host))
    else (some .tcp, Peer.ofHost host)
  | none, none => (none, none)

/-- The port that a setting gives, where it is an integer (`_set_peer_port`). -/
def port? (settings : Table) : Except Numeral.TooLong (Option Int) :=
  match firstEntry settings portName with
  | some text => Numeral.toInt? text
  | none => .ok none

/-- The attributes of a connection string and its settings (`postgres_attributes`). -/
def attributes (source : Text) (settings : Table) : Except Numeral.TooLong Attributes := do
  let (transport, peer) := peer (firstEntry settings hostAddressName) (firstEntry settings hostName)
  let port ← port? settings
  return {
    system := .postgresql
    database := some ((settings.find? databaseName).getD [])
    connectionString :=
      if settings.contains passwordName then none else Text.nonempty? source
    user := (settings.find? userName).bind Text.nonempty?
    transport, peer, port
  }

/-- Reports on a connection string (`_parse_postgres`). -/
def report (defaults : Defaults) (source : Text) : Traced Report := do
  let settings ← settings defaults source
  let attributes ← Traced.ofExcept ((attributes source settings).mapError .tooLong)
  return ⟨(settings.find? databaseName).getD [], attributes⟩

end DataSource.Postgres
