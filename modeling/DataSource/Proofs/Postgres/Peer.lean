import DataSource.Proofs.Numeral
import DataSource.Proofs.Postgres.Disclosure

/-! Which peer a URL without a query is reported to connect to. The host is that of the first entry
that has one, and the port is the first that is written, whichever entry it belongs to: an entry
without a port, or without a host, shifts the ports against the hosts. So the peer is one endpoint
exactly when the first port that is written denotes the port of the entry that is reported. -/
namespace DataSource.Postgres

namespace Url

/-! ## Entries -/

/-- Whom an entry names: the part of its host before a comma, which only an escape can bring in. -/
def Entry.peer? (entry : Entry) : Option Peer :=
  (peer none (entry.host.bind fun host => Text.nonempty? (host.takeWhile (· ≠ ',')))).2

/-- The port at which an entry is reached. -/
def Entry.reachedAt (entry : Entry) : Text :=
  entry.port.getD defaultPort

/-- The first port that is written in a host list, or else the standard one. -/
def firstPort (entries : List Entry) : Text :=
  (entries.findSome? Entry.port).getD defaultPort

/-- A port is a nonempty list of digits. -/
theorem port_of_readDecodedEntry {text port : Text} {entry : Entry}
    (read : readDecodedEntry text = .ok entry) (given : entry.port = some port) :
    port ≠ [] ∧ ∀ c ∈ port, c.isDigit = true := by
  unfold readDecodedEntry at read
  split at read
  · cases read
    cases given
  · split at read
    · cases read
    · split at read
      · rename_i digits
        cases read
        simp only [Text.nonempty?, Option.ite_none_left_eq_some, Option.some.injEq] at given
        obtain ⟨nonempty, rfl⟩ := given
        exact ⟨nonempty, List.all_eq_true.mp digits⟩
      · cases read

theorem port_of_mem_readHostList {hostList port : Text} {entries : List Entry} {entry : Entry}
    (read : readHostList hostList = .ok entries) (member : entry ∈ entries)
    (given : entry.port = some port) : port ≠ [] ∧ ∀ c ∈ port, c.isDigit = true := by
  obtain ⟨piece, _, found⟩ := exists_of_mem_mapM read member
  obtain ⟨text, _, decoded⟩ := exists_of_bind_eq_ok found
  exact port_of_readDecodedEntry decoded given

theorem defaultPort_digits : defaultPort ≠ [] ∧ ∀ c ∈ defaultPort, c.isDigit = true := by
  have digits : defaultPort.all Char.isDigit = true := by decide
  exact ⟨by decide, List.all_eq_true.mp digits⟩

theorem firstPort_digits {hostList : Text} {entries : List Entry}
    (read : readHostList hostList = .ok entries) :
    firstPort entries ≠ [] ∧ ∀ c ∈ firstPort entries, c.isDigit = true := by
  unfold firstPort
  cases found : entries.findSome? Entry.port with
  | none => exact defaultPort_digits
  | some port =>
    obtain ⟨entry, member, given⟩ := List.exists_of_findSome?_eq_some found
    exact port_of_mem_readHostList read member given

/-! ## Settings of a host list -/

theorem find?_update_listSetting (table : Table) (name other : Text) (values : List Text) :
    (table.update (listSetting name values)).find? other =
      if name = other ∧ values ≠ [] then some (Text.join ',' values) else table.find? other := by
  unfold listSetting
  by_cases none : values = []
  · simp [none, Table.update]
  · simp [none, Table.update, Table.find?_insert]

theorem find?_hostSettings (entries : List Entry) :
    (Table.ofList (hostSettings entries)).find? hostName =
        (if entries.filterMap Entry.host ≠ [] then
          some (Text.join ',' (entries.filterMap Entry.host)) else none) ∧
      (Table.ofList (hostSettings entries)).find? portName =
        (if entries.filterMap Entry.port ≠ [] then
          some (Text.join ',' (entries.filterMap Entry.port)) else none) ∧
      (Table.ofList (hostSettings entries)).find? hostAddressName = none := by
  have different : portName ≠ hostName ∧ hostName ≠ portName ∧ hostName ≠ hostAddressName ∧
      portName ≠ hostAddressName := by decide
  have silent : ∀ name, Table.empty.find? name = none := fun _ => rfl
  simp only [hostSettings, Table.ofList, Table.update_append, find?_update_listSetting, different,
    silent, true_and, false_and, ↓reduceIte, and_self]

/-- By induction on the entries: the first host is that of the first entry that has one. -/
theorem findSome?_host {entries : List Entry} {entry : Entry}
    (reported : entries.find? (fun entry => entry.host.isSome) = some entry) :
    entries.findSome? Entry.host = entry.host := by
  induction entries with
  | nil => cases reported
  | cons first rest ih =>
    cases given : first.host with
    | none =>
      rw [List.find?_cons_of_neg (by simp [given])] at reported
      rw [List.findSome?_cons, given]
      exact ih reported
    | some host =>
      rw [List.find?_cons_of_pos (by simp [given])] at reported
      cases reported
      rw [List.findSome?_cons, given]

/-- The host setting begins with the host of the entry that is reported. -/
theorem find?_host_of_reported {entries : List Entry} {entry : Entry}
    (reported : entries.find? (fun entry => entry.host.isSome) = some entry) :
    ∃ host more, entry.host = some host ∧
      (Table.ofList (hostSettings entries)).find? hostName =
        some (Text.join ',' (host :: more)) := by
  have present : entry.host.isSome = true := by simpa using List.find?_some reported
  obtain ⟨host, given⟩ := Option.isSome_iff_exists.mp present
  have first : (entries.filterMap Entry.host).head? = some host := by
    rw [List.head?_filterMap, findSome?_host reported, given]
  obtain ⟨more, hosts⟩ := List.head?_eq_some_iff.mp first
  refine ⟨host, more, given, ?_⟩
  rw [(find?_hostSettings entries).1, hosts, if_pos (List.cons_ne_nil host more)]

/-- The port setting, or else the standard port, begins with the first port. -/
theorem takeWhile_portSetting (entries : List Entry) :
    (((Table.ofList (hostSettings entries)).find? portName).getD defaultPort).takeWhile (· ≠ ',') =
      (firstPort entries).takeWhile (· ≠ ',') := by
  rw [(find?_hostSettings entries).2.1, firstPort, ← List.head?_filterMap]
  cases entries.filterMap Entry.port with
  | nil => rfl
  | cons first more => exact Text.takeWhile_join ',' first more

/-! ## Settings of a URL without a query -/

theorem not_mem_credentials {parts : Parts} {credentials : List (Text × Text)} {name : Text}
    (user : name ≠ userName) (password : name ≠ passwordName)
    (read : parts.credentials = .ok credentials) : name ∉ credentials.map Prod.fst := by
  unfold Parts.credentials at read
  split at read
  · unfold readUserInfo at read
    split at read
    · obtain ⟨text, _, made⟩ := exists_of_bind_eq_ok read
      cases made
      simp [user]
    · obtain ⟨text, _, read⟩ := exists_of_bind_eq_ok read
      obtain ⟨secret, _, made⟩ := exists_of_bind_eq_ok read
      cases made
      simp [user, password]
  · cases read
    simp

/-- Of the parts before the query only the host list tells where to connect to. -/
theorem find?_settings {parts : Parts} {settings : List (Text × Text)} {entries : List Entry}
    (made : parts.settings = .ok settings) (hosts : readHostList parts.hostList = .ok entries)
    {name : Text} (asked : name ∈ [hostName, portName, hostAddressName]) :
    (Table.ofList settings).find? name = (Table.ofList (hostSettings entries)).find? name := by
  rw [Parts.settings_eq] at made
  obtain ⟨credentials, user, made⟩ := exists_of_bind_eq_ok made
  obtain ⟨others, found, made⟩ := exists_of_bind_eq_ok made
  obtain ⟨database, path, made⟩ := exists_of_bind_eq_ok made
  cases made
  cases hosts.symm.trans found
  have foreign : ∀ name ∈ [hostName, portName, hostAddressName],
      name ≠ userName ∧ name ≠ passwordName ∧ name ≠ databaseName := by decide
  obtain ⟨notUser, notPassword, notDatabase⟩ := foreign name asked
  have silent : (Table.ofList credentials).find? name = none :=
    Table.find?_eq_none.mpr fun member =>
      not_mem_credentials notUser notPassword user (Table.mem_of_mem_names_ofList member)
  rw [Table.ofList_append, Table.find?_update_of_not_mem (not_mem_readPath notDatabase path),
    Table.ofList_append]
  exact Table.find?_update_congr silent _

/-- A URL without a query connects to where its host list tells. -/
theorem find?_of_readSettings {source : Text} (url : isUrl source = true)
    (plain : queryOf source = []) {given : Table}
    (read : (readSettings source).result = .ok given) {entries : List Entry}
    (hosts : readHostList (Parts.ofText source).hostList = .ok entries) {name : Text}
    (asked : name ∈ [hostName, portName, hostAddressName]) :
    given.find? name = (Table.ofList (hostSettings entries)).find? name := by
  rw [readSettings, if_pos url] at read
  obtain ⟨reading, found, rfl⟩ := exists_of_readUrl read
  cases control : source.any isControl with
  | true =>
    rw [parse_of_control control] at found
    cases found
  | false =>
    rw [parse_eq control] at found
    obtain ⟨settings, made, rfl⟩ := exists_of_map_eq_ok found
    rw [← query_ofText_of_isUrl url] at plain
    rw [parameters_of_query_nil plain]
    exact find?_settings made hosts asked

end Url

/-! ## Reports -/

section Filled
variable {defaults : Defaults} {given : Table} {added : List (Text × Text)}
variable {entries : List Url.Entry}

/-- Defaults leave the peer as the host list tells it, as long as an entry has a host. -/
theorem peer_update_missing (filled : (defaults.missing given).result = .ok added)
    (told : ∀ name ∈ [hostName, portName, hostAddressName],
      given.find? name = (Table.ofList (Url.hostSettings entries)).find? name)
    {entry : Url.Entry}
    (reported : entries.find? (fun entry => entry.host.isSome) = some entry) :
    (peer (firstEntry (given.update added) hostAddressName)
      (firstEntry (given.update added) hostName)).2 = entry.peer? := by
  obtain ⟨host, more, hostGiven, listed⟩ := Url.find?_host_of_reported reported
  rw [← told hostName (by simp)] at listed
  have kept : given.contains hostName = true := by rw [Table.contains, listed]; rfl
  have unaddressed : hostAddressName ∉ added.map Prod.fst :=
    Defaults.not_mem_missing filled (by decide)
  have address : firstEntry (given.update added) hostAddressName = none := by
    rw [firstEntry, Table.find?_update_of_not_mem unaddressed, told hostAddressName (by simp),
      (Url.find?_hostSettings entries).2.2]
    rfl
  have first : firstEntry (given.update added) hostName =
      Text.nonempty? (host.takeWhile (· ≠ ',')) := by
    rw [firstEntry, Defaults.find?_update_missing filled kept, listed, Option.bind_some,
      Text.takeWhile_join]
  rw [address, first, Url.Entry.peer?, hostGiven, Option.bind_some]

/-- The port that is reported is the first one that is written, or else the standard one. -/
theorem port?_update_missing (filled : (defaults.missing given).result = .ok added)
    (told : ∀ name ∈ [hostName, portName, hostAddressName],
      given.find? name = (Table.ofList (Url.hostSettings entries)).find? name)
    {hostList : Text} (hosts : Url.readHostList hostList = .ok entries) :
    port? (given.update added) = Numeral.toInt? (Url.firstPort entries) := by
  obtain ⟨nonempty, digits⟩ := Url.firstPort_digits hosts
  have comma : ',' ∉ Url.firstPort entries := fun member => absurd (digits ',' member) (by decide)
  have first : firstEntry (given.update added) portName = some (Url.firstPort entries) := by
    rw [firstEntry, Defaults.find?_port_update_missing filled, told portName (by simp),
      Option.bind_some, Url.takeWhile_portSetting,
      List.takeWhile_eq_self_iff.mpr (Text.ne_of_not_mem comma), Text.nonempty?, if_neg nonempty]
  rw [port?, first]

end Filled

/-- The report gives the port of an entry, where that fits in 64 bits. -/
def GivesPortOf (made : Report) (entry : Url.Entry) : Prop :=
  Numeral.fits (Numeral.value entry.reachedAt) = true →
    made.attributes.port = some (Numeral.value entry.reachedAt : Int)

/-- The peer of a URL without a query is that of the first entry with a host. It is reported with
the port of that entry, unless that is out of range, exactly when the first port that is written
denotes the same number. -/
theorem describe_url_peer_is_endpoint_iff {source : Text} (url : isUrl source = true)
    (plain : Url.queryOf source = []) {defaults : Defaults} {made : Report}
    (accepted : (describe "postgres".toList defaults source).result = .ok made)
    {entries : List Url.Entry}
    (hosts : Url.readHostList (Url.Parts.ofText source).hostList = .ok entries)
    {entry : Url.Entry}
    (reported : entries.find? (fun entry => entry.host.isSome) = some entry) :
    made.attributes.peer = entry.peer? ∧
      (GivesPortOf made entry ↔
        (Numeral.fits (Numeral.value entry.reachedAt) = true →
          Numeral.value (Url.firstPort entries) = Numeral.value entry.reachedAt)) := by
  have nonempty : source ≠ [] := by
    rintro rfl
    exact absurd url (by decide)
  rw [describe_postgres] at accepted
  obtain ⟨given, added, read, filled, derived⟩ := exists_of_report nonempty accepted
  obtain ⟨peerMade, portMade⟩ := peer_of_attributes derived
  have told : ∀ name ∈ [hostName, portName, hostAddressName],
      given.find? name = (Table.ofList (Url.hostSettings entries)).find? name :=
    fun name asked => Url.find?_of_readSettings url plain read hosts asked
  obtain ⟨written, digits⟩ := Url.firstPort_digits hosts
  have number : made.attributes.port =
      if Numeral.fits (Numeral.value (Url.firstPort entries)) then
        some (Numeral.value (Url.firstPort entries) : Int)
      else none := by
    apply Numeral.eq_of_toInt?_digits written digits
    rw [← portMade, port?_update_missing filled told hosts]
  refine ⟨peerMade.trans (peer_update_missing filled told reported), forall_congr' fun fits => ?_⟩
  rw [number]
  constructor
  · intro same
    split at same
    · exact Int.ofNat.inj (Option.some.inj same)
    · cases same
  · intro same
    rw [same, if_pos fits]

/-- Entries with a port alone, an escape, an empty entry and an address, between user information
and a path. The ports that matter are the same number in two spellings. -/
def crowdedHosts : Text :=
  "postgres://bob@:5433,o%6Ee:05433,,[::1]:6000,two/app".toList

theorem describe_url_peer_is_endpoint_iff_crowded :
    ∃ made entry,
      (describe "postgres".toList appDefaults crowdedHosts).result = .ok made ∧
        entry.peer? = some (.name "one".toList) ∧
          made.attributes.peer = entry.peer? ∧ GivesPortOf made entry := by
  have url : isUrl crowdedHosts = true := by decide
  have plain : Url.queryOf crowdedHosts = [] := by decide
  have database : ((describe "postgres".toList appDefaults crowdedHosts).result.map fun made =>
      made.database) = .ok "app".toList := by decide +kernel
  obtain ⟨made, accepted, _⟩ := exists_of_map_eq_ok database
  have hosts : Url.readHostList (Url.Parts.ofText crowdedHosts).hostList =
      .ok [⟨none, some "5433".toList⟩, ⟨some "one".toList, some "05433".toList⟩,
        ⟨some "::1".toList, some "6000".toList⟩, ⟨some "two".toList, none⟩] := by
    decide +kernel
  obtain ⟨peer, port⟩ := describe_url_peer_is_endpoint_iff url plain accepted hosts rfl
  exact ⟨made, _, accepted, by decide +kernel, peer, port.mpr fun _ => by decide⟩

/-- A list whose second entry alone has a port. -/
def mixedHosts : Text :=
  "postgres://one,two:5433/app".toList

/-- The host of the first entry is reported with the port of the second. -/
theorem describe_url_mixes_entries :
    isUrl mixedHosts = true ∧ Url.queryOf mixedHosts = [] ∧
      Url.readHostList (Url.Parts.ofText mixedHosts).hostList =
        .ok [⟨some "one".toList, none⟩, ⟨some "two".toList, some "5433".toList⟩] ∧
      ((describe "postgres".toList appDefaults mixedHosts).result.map fun made =>
          made.attributes.entries) =
        .ok [("db.system".toList, .text "postgresql".toList),
          ("db.name".toList, .text "app".toList),
          ("db.connection_string".toList, .text mixedHosts),
          ("db.user".toList, .text "app".toList),
          ("net.transport".toList, .text "ip_tcp".toList),
          ("net.peer.name".toList, .text "one".toList),
          ("net.peer.port".toList, .integer 5433)] := by
  refine ⟨?_, ?_, ?_, ?_⟩
  · decide
  · decide
  · decide +kernel
  · decide +kernel

end DataSource.Postgres
