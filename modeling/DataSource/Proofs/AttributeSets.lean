import DataSource.Mysql.Attributes
import DataSource.Proofs.Network.CanonicalForm
import DataSource.Proofs.Postgres.Report

/-! The attributes of a connection are well formed, whatever they are derived from: no name is there
twice, and the peer is there only with the way in which it is reached, either as an address in its
canonical form or under a name that is none. This holds of the peer of each dialect before any
attribute is listed. -/
namespace DataSource
open Network

/-- What holds of the attributes of every connection. -/
structure Attributes.IsWellFormed (attributes : Attributes) : Prop where
  distinct : attributes.names.Nodup
  single : ¬ ("net.peer.ip".toList ∈ attributes.names ∧ "net.peer.name".toList ∈ attributes.names)
  reached : "net.peer.ip".toList ∈ attributes.names ∨ "net.peer.name".toList ∈ attributes.names →
    "net.transport".toList ∈ attributes.names
  address : ∀ value, ("net.peer.ip".toList, value) ∈ attributes.entries →
    (∃ text, value = .text text ∧ Address.canonical? text = some text) ∧
      ("net.transport".toList, .text "ip_tcp".toList) ∈ attributes.entries
  name : ∀ value, ("net.peer.name".toList, value) ∈ attributes.entries →
    ∃ text, value = .text text ∧ text ≠ [] ∧ Address.canonical? text = none
  port : ∀ value, ("net.peer.port".toList, value) ∈ attributes.entries →
    ∃ n : Int, value = .integer n ∧ -2 ^ 63 ≤ n ∧ n ≤ 2 ^ 63 - 1

/-! ## Peers -/

/-- A peer is sound where it is an address in its canonical form that is reached over the internet
protocol, or a name that is neither empty nor an address and is reached in some way. -/
def Peer.IsSound (transport : Option Transport) : Option Peer → Prop
  | none => True
  | some (.address text) => Address.canonical? text = some text ∧ transport = some .tcp
  | some (.name text) => text ≠ [] ∧ Address.canonical? text = none ∧ transport ≠ none

theorem Peer.name_of_ofHost {host text : Text} (named : ofHost host = some (.name text)) :
    text = host := by
  unfold ofHost at named
  split at named
  · cases named
  · obtain ⟨name, given, same⟩ := Option.map_eq_some_iff.mp named
    cases same
    unfold Text.nonempty? at given
    split at given
    · cases given
    · exact (Option.some.inj given).symm

theorem Peer.isSound_ofHost (host : Text) : IsSound (some .tcp) (ofHost host) := by
  unfold ofHost
  cases found : Address.canonical? host with
  | some canonical => exact ⟨Address.canonical?_of_canonical found, rfl⟩
  | none =>
    by_cases empty : host = []
    · simp only [Text.nonempty?, empty, if_true, Option.map_none, IsSound]
    · simp only [Text.nonempty?, empty, if_false, Option.map_some, IsSound]
      exact ⟨empty, found, Option.some_ne_none _⟩

/-- Attributes are well formed as soon as their peer is sound and their port fits. -/
theorem Attributes.isWellFormed_of_isSound {attributes : Attributes}
    (sound : Peer.IsSound attributes.transport attributes.peer)
    (fits : ∀ n, attributes.port = some n → Numeral.fits n = true) : attributes.IsWellFormed where
  distinct := nodup_names attributes
  single := by
    simp only [mem_names_iff, address_mem_entries_iff, name_mem_entries_iff]
    rintro ⟨⟨_, address, peer, -⟩, ⟨_, name, other, -⟩⟩
    cases peer.symm.trans other
  reached := by
    rw [transport_mem_names_iff]
    simp only [mem_names_iff, address_mem_entries_iff, name_mem_entries_iff]
    rintro (⟨_, address, peer, -⟩ | ⟨_, name, peer, -⟩)
    · rw [peer] at sound
      rw [sound.2]
      exact Option.some_ne_none _
    · rw [peer] at sound
      exact sound.2.2
  address := by
    intro value member
    obtain ⟨text, peer, rfl⟩ := address_mem_entries_iff.mp member
    rw [peer] at sound
    exact ⟨⟨text, rfl, sound.1⟩, (transport_mem_entries_iff .tcp).mpr sound.2⟩
  name := by
    intro value member
    obtain ⟨text, peer, rfl⟩ := name_mem_entries_iff.mp member
    rw [peer] at sound
    exact ⟨text, rfl, sound.1, sound.2.1⟩
  port := by
    intro value member
    obtain ⟨n, given, rfl⟩ := port_mem_entries_iff.mp member
    have inside := fits n given
    simp only [Numeral.fits, Bool.and_eq_true, decide_eq_true_eq] at inside
    exact ⟨n, rfl, by omega⟩

namespace Postgres

/-! ## PostgreSQL -/

/-- The first of the entries of a setting, between commas, is there and not empty. -/
def HasFirstEntry (settings : Table) (name : Text) : Prop :=
  ∃ list, settings.find? name = some list ∧ (list.splitOn ',').head? ≠ some []

/-- What holds of the attributes of settings besides. -/
structure IsWellFormed (settings : Table) (attributes : Attributes) : Prop
    extends attributes.IsWellFormed where
  socket : ∀ text, ("net.peer.name".toList, .text text) ∈ attributes.entries →
    (text.head? = some '/' ↔ ("net.transport".toList, .text "unix".toList) ∈ attributes.entries)
  transport : "net.transport".toList ∈ attributes.names ↔
    HasFirstEntry settings hostAddressName ∨ HasFirstEntry settings hostName

theorem firstEntry_ne_none_iff {settings : Table} {name : Text} :
    firstEntry settings name ≠ none ↔ HasFirstEntry settings name := by
  unfold firstEntry HasFirstEntry
  cases settings.find? name with
  | none => simp
  | some list => simp [Text.head?_splitOn, Text.nonempty?]

theorem isSound_peer (hostAddress host : Option Text) :
    Peer.IsSound (peer hostAddress host).1 (peer hostAddress host).2 := by
  unfold peer
  split
  · rename_i address
    -- the first candidate that is an address decides, be it the one that is given or the host
    dsimp only
    cases found : (address :: host.toList).findSome? Address.canonical? with
    | none => trivial
    | some canonical =>
      obtain ⟨text, -, read⟩ := List.exists_of_findSome?_eq_some found
      exact ⟨Address.canonical?_of_canonical read, rfl⟩
  · rename_i host
    split
    · rename_i slash
      have member : '/' ∈ host := List.mem_of_head? slash
      exact ⟨List.ne_nil_of_mem member, Address.canonical_of_mem member (by decide),
        Option.some_ne_none _⟩
    · exact Peer.isSound_ofHost host
  · trivial

/-- A name that begins with a slash is a socket, and no other name is. -/
theorem socket_peer {hostAddress host : Option Text} {text : Text}
    (named : (peer hostAddress host).2 = some (.name text)) :
    text.head? = some '/' ↔ (peer hostAddress host).1 = some .unix := by
  unfold peer at named ⊢
  split at named
  · rename_i address
    obtain ⟨_, _, clash⟩ := Option.map_eq_some_iff.mp named
    cases clash
  · rename_i host
    split at named
    · rename_i slash
      cases named
      simp only [slash, if_true]
    · rename_i plain
      have same : text = host := Peer.name_of_ofHost named
      simp only [same, plain, if_false, Option.some.injEq, reduceCtorEq]
  · cases named

theorem transport_peer_ne_none_iff {hostAddress host : Option Text} :
    (peer hostAddress host).1 ≠ none ↔ hostAddress ≠ none ∨ host ≠ none := by
  unfold peer
  split
  · simp
  · split <;> simp
  · simp

theorem fits_of_port? {settings : Table} {n : Int} (read : port? settings = .ok (some n)) :
    Numeral.fits n = true := by
  unfold port? at read
  split at read
  · exact Numeral.fits_of_toInt? read
  · cases read

theorem isWellFormed_of_attributes {source : Text} {settings : Table} {made : Attributes}
    (derived : attributes source settings = .ok made) : IsWellFormed settings made := by
  obtain ⟨reached, read⟩ := fields_of_attributes derived
  have sound := isSound_peer (firstEntry settings hostAddressName) (firstEntry settings hostName)
  have socket := @socket_peer (firstEntry settings hostAddressName) (firstEntry settings hostName)
  have present :=
    @transport_peer_ne_none_iff (firstEntry settings hostAddressName) (firstEntry settings hostName)
  rw [← reached] at sound socket present
  exact {
    toIsWellFormed := Attributes.isWellFormed_of_isSound sound <| by
      intro n given
      exact fits_of_port? (read.trans (congrArg _ given))
    socket := by
      intro text member
      obtain ⟨name, named, same⟩ := Attributes.name_mem_entries_iff.mp member
      cases same
      exact (socket named).trans (Attributes.transport_mem_entries_iff .unix).symm
    transport := by
      rw [Attributes.transport_mem_names_iff, ← firstEntry_ne_none_iff, ← firstEntry_ne_none_iff]
      exact present
  }

end Postgres

namespace Mysql

/-! ## MySQL -/

/-- An address tells a peer that is sound on an internet network, and a port that fits. -/
theorem isSound_peer {address : Text} {told : Option Peer × Option Int}
    (read : peer address = .ok told) :
    Peer.IsSound (some .tcp) told.1 ∧ ∀ n, told.2 = some n → Numeral.fits n = true := by
  unfold peer at read
  split at read
  · rename_i host _ _
    obtain ⟨port, found, rfl⟩ := exists_of_map_eq_ok read
    refine ⟨Peer.isSound_ofHost host, ?_⟩
    intro n given
    exact Numeral.fits_of_toInt? (found.trans (congrArg _ given))
  · cases read
    exact ⟨trivial, nofun⟩

theorem isWellFormed_of_attributes {descriptor : Descriptor} {made : Attributes}
    (derived : descriptor.attributes = .ok made) : made.IsWellFormed := by
  unfold Descriptor.attributes at derived
  dsimp only at derived
  split at derived
  · rename_i internet
    obtain ⟨told, read, derived⟩ := exists_of_bind_eq_ok derived
    cases derived
    obtain ⟨sound, fits⟩ := isSound_peer read
    exact Attributes.isWellFormed_of_isSound (internet ▸ sound) fits
  · cases derived
    exact Attributes.isWellFormed_of_isSound trivial nofun

end Mysql

/-! ## Both dialects -/

/-- The attributes of a connection are well formed, whatever the text and the settings, or the
descriptor, that they are derived from. -/
theorem attributes_wellFormed :
    (∀ source settings made, Postgres.attributes source settings = .ok made →
      Postgres.IsWellFormed settings made) ∧
    ∀ (descriptor : Mysql.Descriptor) made, descriptor.attributes = .ok made →
      made.IsWellFormed :=
  ⟨fun _ _ _ derived => Postgres.isWellFormed_of_attributes derived,
    fun _ _ derived => Mysql.isWellFormed_of_attributes derived⟩

/-- Settings of two servers. The address that is given for the first of them is none, but its host
is one. -/
def serverSettings : Table :=
  .ofList [(Postgres.hostName, "::FFFF:10.0.0.7,db".toList),
    (Postgres.hostAddressName, "primary,10.0.0.8".toList), (Postgres.portName, "5433,".toList)]

/-- What they tell. -/
def serverAttributes : Attributes where
  system := .postgresql
  database := some []
  transport := some .tcp
  peer := some (.address "10.0.0.7".toList)
  port := some 5433

/-- Settings of a socket. -/
def socketSettings : Table :=
  .ofList [(Postgres.hostName, "/run/pg,db".toList), (Postgres.hostAddressName, ",".toList)]

/-- What they tell. -/
def socketAttributes : Attributes where
  system := .postgresql
  database := some []
  transport := some .unix
  peer := some (.name "/run/pg".toList)

/-- A connection to an address between brackets. -/
def linkLocal : Mysql.Descriptor where
  network := "tcp6".toList
  address := "[FE80::0:1]:3306".toList

/-- What it tells. -/
def linkLocalAttributes : Attributes where
  system := .mysql
  database := some []
  connectionString := some "tcp6([FE80::0:1]:3306)/".toList
  transport := some .tcp
  peer := some (.address "fe80::1".toList)
  port := some 3306

/-- Servers of which the first is told by its host, a socket, and an address between brackets. -/
theorem attributes_wellFormed_peers :
    (Postgres.attributes [] serverSettings = .ok serverAttributes ∧
      Postgres.IsWellFormed serverSettings serverAttributes) ∧
    (Postgres.attributes [] socketSettings = .ok socketAttributes ∧
      Postgres.IsWellFormed socketSettings socketAttributes) ∧
    linkLocal.attributes = .ok linkLocalAttributes ∧ linkLocalAttributes.IsWellFormed := by
  obtain ⟨settings, descriptors⟩ := attributes_wellFormed
  have server : Postgres.attributes [] serverSettings = .ok serverAttributes := by decide +kernel
  have socket : Postgres.attributes [] socketSettings = .ok socketAttributes := by decide +kernel
  have address : linkLocal.attributes = .ok linkLocalAttributes := by decide +kernel
  exact ⟨⟨server, settings _ _ _ server⟩, ⟨socket, settings _ _ _ socket⟩,
    address, descriptors _ _ address⟩

end DataSource
