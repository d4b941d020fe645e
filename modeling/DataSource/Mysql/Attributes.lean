import DataSource.Attributes
import DataSource.Mysql.Format
import DataSource.Mysql.Parse
import DataSource.Trace

/-!
The attributes of a MySQL connection. The connection string that is reported is written anew from
the descriptor without its password. An empty user is left out, as `set_string_attribute` leaves it
out.
-/
namespace DataSource.Mysql

/-- How the peer is reached on a network (`_MYSQL_TRANSPORTS`). -/
def transport? (network : Text) : Option Transport :=
  if network = "pipe".toList then some .pipe
  else if network = "unix".toList ∨ network = "socket".toList then some .unix
  else if network = "memory".toList then some .inProcess
  else if network = "tcp".toList ∨ network = "tcp4".toList ∨ network = "tcp6".toList then
    some .tcp
  else none

/-- The peer and the port that an address tells: `_set_peer_host` and `_set_peer_port` on the two
parts of an endpoint. An address that is no endpoint tells nothing. -/
def peer (address : Text) : Except Numeral.TooLong (Option Peer × Option Int) :=
  match Network.Endpoint.split address with
  | .ok (host, port) => (Numeral.toInt? port).map fun port => (Peer.ofHost host, port)
  | .error _ => .ok (none, none)

/-- The attributes of a descriptor (`mysql_attributes`). Only an address on an internet network
tells a peer. -/
def Descriptor.attributes (descriptor : Descriptor) : Except Numeral.TooLong Attributes := do
  let transport := transport? descriptor.network
  let (peer, port) ← if transport = some .tcp then peer descriptor.address else .ok (none, none)
  return {
    system := .mysql
    database := some descriptor.database
    connectionString := some descriptor.redact.format
    user := Text.nonempty? descriptor.user
    transport, peer, port
  }

/-- Reports on a data source name (`_parse_mysql`). -/
def report (source : Text) : Traced Report := do
  let descriptor ← Traced.ofExcept ((Descriptor.parse source).mapError .mysql)
  let attributes ← Traced.ofExcept (descriptor.attributes.mapError .tooLong)
  return ⟨descriptor.database, attributes⟩

end DataSource.Mysql
