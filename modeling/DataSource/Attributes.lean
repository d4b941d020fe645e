import DataSource.Network.Address
import DataSource.Numeral

/-!
The attributes under which telemetry reports a connection: which kind of database it is and what
its name is, the connection string without secrets, the user, and the peer to which the connection
goes. They are a record here; `entries` lists the attributes that are present under their names.

The user and the name of a host are set by `set_string_attribute`, a function from outside. What is
relied on is that it sets nothing when the value is absent or empty, and the value itself otherwise;
`Text.nonempty?` stands for it.
-/
namespace DataSource

/-- The kinds of database. -/
inductive DatabaseSystem where
  | postgresql
  | mysql
  | other
  deriving DecidableEq

/-- The ways to reach a peer (`NetTransportValues`). -/
inductive Transport where
  | tcp
  | unix
  | pipe
  | inProcess
  deriving DecidableEq

/-- To whom the connection goes: an address in its canonical form, or a name. -/
inductive Peer where
  | address (text : Text)
  | name (text : Text)
  deriving DecidableEq

/-- The attributes of a connection. -/
structure Attributes where
  system : DatabaseSystem
  database : Option Text := none
  connectionString : Option Text := none
  user : Option Text := none
  transport : Option Transport := none
  peer : Option Peer := none
  port : Option Int := none
  deriving DecidableEq

/-- What is reported of a connection: the database, empty when it has no name, and attributes
(`ParsedDSN`). -/
structure Report where
  database : Text
  attributes : Attributes

/-- The value of an attribute. -/
inductive Value where
  | text (text : Text)
  | integer (n : Int)
  deriving DecidableEq

/-- How a kind of database is called. -/
def DatabaseSystem.name : DatabaseSystem → Text
  | .postgresql => "postgresql".toList
  | .mysql => "mysql".toList
  | .other => "other_sql".toList

/-- How a way to reach a peer is called. -/
def Transport.name : Transport → Text
  | .tcp => "ip_tcp".toList
  | .unix => "unix".toList
  | .pipe => "pipe".toList
  | .inProcess => "inproc".toList

/-- The attribute of a peer. -/
def Peer.entry : Peer → Text × Value
  | .address text => ("net.peer.ip".toList, .text text)
  | .name text => ("net.peer.name".toList, .text text)

/-- The peer of a host: its address when the host is one, else its name (`_set_peer_host`). An empty
name is left out, as `set_string_attribute` leaves it out. -/
def Peer.ofHost (host : Text) : Option Peer :=
  match Network.Address.canonical? host with
  | some canonical => some (.address canonical)
  | none => (Text.nonempty? host).map .name

/-- The attributes that are present, with their names, in the order in which they are reported. -/
def Attributes.entries (attributes : Attributes) : List (Text × Value) :=
  [("db.system".toList, .text attributes.system.name)] ++
    attributes.database.toList.map (fun text => ("db.name".toList, .text text)) ++
    attributes.connectionString.toList.map
      (fun text => ("db.connection_string".toList, .text text)) ++
    attributes.user.toList.map (fun text => ("db.user".toList, .text text)) ++
    attributes.transport.toList.map
      (fun transport => ("net.transport".toList, .text transport.name)) ++
    attributes.peer.toList.map Peer.entry ++
    attributes.port.toList.map (fun n => ("net.peer.port".toList, .integer n))

end DataSource
