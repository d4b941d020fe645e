import DataSource.Duration
import DataSource.Mysql.OptionName
import DataSource.Table

/-!
What a MySQL data source name describes: who connects, over which network to which address and
database, and with which options. Every option has a standard value, which it keeps unless
something is said about it. The parameters are those that are no typed option.
-/
namespace DataSource.Mysql

/-- The collation of a connection that names none (`DEFAULT_COLLATION`). -/
def standardCollation : Text := "utf8mb4_general_ci".toList

/-- The time zone of a connection that names none. -/
def standardLocation : Text := "UTC".toList

/-- The greatest packet size of a connection that names none, in octets
(`DEFAULT_MAX_ALLOWED_PACKET`). -/
def standardPacket : Int := 67108864

/-- The network of a connection that names none. -/
def standardNetwork : Text := "tcp".toList

/-- A connection to a database (`ConnectionDescriptor`). -/
structure Descriptor where
  user : Text := []
  password : Text := []
  /-- The name of the network, such as `tcp` or `unix`. -/
  network : Text := []
  /-- Where the server is on the network. -/
  address : Text := []
  database : Text := []
  /-- The parameters that are no typed option. -/
  parameters : Table := .empty
  collation : Text := standardCollation
  /-- The time zone of the server's times. -/
  location : Text := standardLocation
  /-- The greatest size of a packet in octets. -/
  maxAllowedPacket : Int := standardPacket
  serverPublicKey : Text := []
  /-- The name of a configuration for encryption. -/
  tls : Text := []
  connectionAttributes : Text := []
  /-- How long the connection may wait; zero or less is for ever. -/
  timeouts : Timeout → Duration := fun _ => ⟨0⟩
  /-- Which flags are on. -/
  flags : Flag → Bool := Flag.standard
  /-- Whether the password has been taken out. -/
  redacted : Bool := false

namespace Descriptor

instance : Inhabited Descriptor := ⟨{}⟩

/-- Turns a flag on or off. -/
def setFlag (descriptor : Descriptor) (flag : Flag) (on : Bool) : Descriptor :=
  { descriptor with flags := fun other => if other = flag then on else descriptor.flags other }

/-- Sets a timeout. -/
def setTimeout (descriptor : Descriptor) (timeout : Timeout) (duration : Duration) : Descriptor :=
  { descriptor with
    timeouts := fun other => if other = timeout then duration else descriptor.timeouts other }

/-- Takes the password out (`ConnectionDescriptor.redact`). -/
def redact (descriptor : Descriptor) : Descriptor :=
  { descriptor with password := [], redacted := true }

/-- The descriptor with its parameters put aside. Two descriptors that have the same skeleton
differ in their parameters at most. -/
def skeleton (descriptor : Descriptor) : Descriptor :=
  { descriptor with parameters := .empty }

/-- Two descriptors agree when they are equal but for the order of their parameters. -/
def Agrees (left right : Descriptor) : Prop :=
  left.skeleton = right.skeleton ∧ left.parameters.Agrees right.parameters

/-- Descriptors are equal when all their fields are; flags and timeouts are compared one by one. -/
theorem eq_iff (left right : Descriptor) :
    left = right ↔
      (left.user = right.user ∧ left.password = right.password ∧ left.network = right.network ∧
        left.address = right.address ∧ left.database = right.database) ∧
      (left.parameters = right.parameters ∧ left.collation = right.collation ∧
        left.location = right.location ∧ left.maxAllowedPacket = right.maxAllowedPacket ∧
        left.serverPublicKey = right.serverPublicKey ∧ left.tls = right.tls ∧
        left.connectionAttributes = right.connectionAttributes ∧
        left.redacted = right.redacted) ∧
      (∀ timeout ∈ Timeout.all, left.timeouts timeout = right.timeouts timeout) ∧
      ∀ flag ∈ Flag.all, left.flags flag = right.flags flag := by
  constructor
  · rintro rfl
    simp
  · obtain ⟨user, password, network, address, database, parameters, collation, location, packet,
      key, tls, attributes, timeouts, flags, redacted⟩ := left
    obtain ⟨user', password', network', address', database', parameters', collation', location',
      packet', key', tls', attributes', timeouts', flags', redacted'⟩ := right
    rintro ⟨⟨rfl, rfl, rfl, rfl, rfl⟩, ⟨rfl, rfl, rfl, rfl, rfl, rfl, rfl, rfl⟩, times, bits⟩
    have timeouts_eq : timeouts = timeouts' := funext fun t => times t (Timeout.mem_all t)
    have flags_eq : flags = flags' := funext fun f => bits f (Flag.mem_all f)
    rw [timeouts_eq, flags_eq]

instance : DecidableEq Descriptor := fun left right => decidable_of_iff _ (eq_iff left right).symm

instance (left right : Descriptor) : Decidable (left.Agrees right) :=
  inferInstanceAs (Decidable (_ ∧ _))

end Descriptor

end DataSource.Mysql
