import DataSource.Network.IPv6

/-!
Addresses of either family. An IPv6 address to which an IPv4 address is mapped denotes the same
host as the IPv4 address, so `resolve` turns it into that one, and `canonical?` gives every text
that denotes an address the one text of the address it denotes. That text is what `parse_ip` gives.
-/
namespace DataSource.Network

/-- An address of either family. -/
inductive Address where
  | v4 (address : IPv4)
  | v6 (address : IPv6)
  deriving DecidableEq

namespace Address

/-- Reads an address of either family (`ip_address`). -/
def parse? (text : Text) : Option Address :=
  match IPv4.parse? text with
  | some address => some (.v4 address)
  | none => (IPv6.parse? text).map .v6

/-- The IPv4 address in place of an IPv6 address that it is mapped to (`ipv4_mapped`). -/
def resolve : Address → Address
  | .v4 address => .v4 address
  | .v6 address =>
    match address.mapped? with
    | some mapped => .v4 mapped
    | none => .v6 address

/-- Writes an address. -/
def format : Address → Text
  | .v4 address => address.format
  | .v6 address => address.format

/-- The one text of the address that a text denotes (`parse_ip`). No address has a percent sign, so
that needs no test of its own. -/
def canonical? (text : Text) : Option Text :=
  (parse? text).map fun address => address.resolve.format

end Address

end DataSource.Network
