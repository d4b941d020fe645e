import DataSource.Proofs.Mysql.StandardPort
import DataSource.Proofs.Postgres.Filling
import DataSource.Proofs.Postgres.Peer
import DataSource.Proofs.Postgres.Url.RoundTrip

/-! The spellings of an endpoint with a colon in its address. An address with colons may stand alone
or in brackets, and in brackets a port may follow it. The two dialects take these spellings apart in
different ways: a URL tells a host alone from an endpoint before it splits anything, while a data
source name is split first, and what is no endpoint gets brackets and the standard port. Each of
the spellings leads to the same peer in the report, at the standard port of the dialect. -/
namespace DataSource
open Network

/-! ## Spellings -/

/-- The spellings of an endpoint at the standard port: the host alone, the host in brackets, and both
with the port. -/
def spellings (host port : Text) : List Text :=
  [host, '[' :: host ++ [']'], '[' :: host ++ ']' :: ':' :: port]

/-- The report gives an address and a port as the peer, and no name. -/
def ReportsAddress (made : Report) (address : Text) (port : Int) : Prop :=
  ("net.peer.ip".toList, .text address) ∈ made.attributes.entries ∧
    ("net.peer.port".toList, .integer port) ∈ made.attributes.entries ∧
      "net.peer.name".toList ∉ made.attributes.entries.map Prod.fst

theorem reportsAddress_of_peer {made : Report} {address : Text} {port : Int}
    (peer : made.attributes.peer = some (.address address))
    (number : made.attributes.port = some port) : ReportsAddress made address port := by
  refine ⟨Attributes.address_mem_entries_iff.mpr ⟨address, peer, rfl⟩,
    Attributes.port_mem_entries_iff.mpr ⟨port, number, rfl⟩, ?_⟩
  intro member
  obtain ⟨_, listed⟩ := Attributes.mem_names_iff.mp member
  obtain ⟨name, named, -⟩ := Attributes.name_mem_entries_iff.mp listed
  cases peer.symm.trans named

section Addresses
variable {host canonical : Text}

/-- No address is an endpoint: it has no brackets, and not one colon alone. -/
theorem not_isEndpoint_of_canonical (address : Address.canonical? host = some canonical)
    (before after : Text) : ¬ Endpoint.IsEndpoint host before after := by
  rintro ⟨-, ⟨single, -⟩, ⟨rfl, first⟩ | rfl⟩
  · rw [Address.canonical_of_one_colon first single] at address
    cases address
  · exact Address.not_mem_of_canonical address (by decide : ¬ IsAddressChar '[')
      List.mem_cons_self

theorem hasNoBracket_of_canonical (address : Address.canonical? host = some canonical) :
    Endpoint.HasNoBracket host :=
  ⟨Address.not_mem_of_canonical address (by decide), Address.not_mem_of_canonical address (by decide)⟩

/-- What ends in a bracket has no port. -/
theorem not_isEndpoint_enclosed (inner before after : Text) :
    ¬ Endpoint.IsEndpoint ('[' :: inner ++ [']']) before after := by
  rintro ⟨plain, ⟨-, -, closed⟩, ⟨unbracketed, -⟩ | bracketed⟩
  · exact Endpoint.bracket_ne_plain plain.1 unbracketed
  · have ends : ('[' :: inner ++ [']']).getLast? = (':' :: after).getLast? := by
      rw [bracketed, List.getLast?_append, List.getLast?_cons_cons, List.getLast?_cons]
      rfl
    rw [List.getLast?_concat] at ends
    rcases List.mem_cons.mp (List.mem_of_getLast? ends.symm) with colon | inside
    · exact absurd colon (by decide)
    · exact closed inside

theorem mem_spelling {port entry : Text} (spelled : entry ∈ spellings host port) {c : Char}
    (member : c ∈ entry) : c ∈ host ∨ c ∈ port ∨ c = '[' ∨ c = ']' ∨ c = ':' := by
  simp only [spellings, List.mem_cons, List.not_mem_nil, or_false] at spelled
  rcases spelled with rfl | rfl | rfl
  · exact Or.inl member
  · simp only [List.cons_append, List.mem_cons, List.mem_append] at member
    grind
  · simp only [List.cons_append, List.mem_cons, List.mem_append] at member
    grind

theorem ne_nil_of_mem_spellings {port entry : Text} (nonempty : host ≠ [])
    (spelled : entry ∈ spellings host port) : entry ≠ [] := by
  rintro rfl
  have empty : host = [] := by simpa [spellings] using spelled
  exact nonempty empty

/-- No other character than those of an address and brackets is in the spellings of one. -/
theorem not_mem_spelling (address : Address.canonical? host = some canonical) {port : Text}
    (digits : ∀ c ∈ port, c.isDigit = true) {entry : Text} (spelled : entry ∈ spellings host port)
    {c : Char} (foreign : ¬ IsAddressChar c) (bracket : Postgres.Url.isBracket c = false) :
    c ∉ entry := by
  intro member
  rcases mem_spelling spelled member with inHost | inPort | rfl | rfl | rfl
  · exact Address.not_mem_of_canonical address foreign inHost
  · exact foreign (isAddressChar_of_isDigit (digits c inPort))
  · cases bracket
  · cases bracket
  · exact foreign (Or.inr (Or.inr rfl))

/-- So there is no separator in them. -/
theorem separator_not_mem_spelling (address : Address.canonical? host = some canonical) {port : Text}
    (digits : ∀ c ∈ port, c.isDigit = true) {entry : Text}
    (spelled : entry ∈ spellings host port) : ∀ c ∈ ['/', '?', '#', '@', ',', '%'], c ∉ entry := by
  have separators : ['/', '?', '#', '@', ',', '%'].all (fun c =>
      decide (¬ IsAddressChar c) && !Postgres.Url.isBracket c) = true := by decide
  intro c listed
  have foreign := List.all_eq_true.mp separators c listed
  rw [Bool.and_eq_true, decide_eq_true_eq, Bool.not_eq_true'] at foreign
  exact not_mem_spelling address digits spelled foreign.1 foreign.2

/-! ## URLs -/

namespace Postgres

/-- Each spelling is read as the host, and the port if it has one. -/
theorem readDecodedEntry_spelling (colon : ':' ∈ host)
    (address : Address.canonical? host = some canonical) {port : Text}
    (digits : ∀ c ∈ port, c.isDigit = true) (given : port ≠ []) {entry : Text}
    (spelled : entry ∈ spellings host port) :
    ∃ written ∈ [none, some port], Url.readDecodedEntry entry = .ok ⟨some host, written⟩ := by
  obtain ⟨opened, closed⟩ := hasNoBracket_of_canonical address
  have nonempty : host ≠ [] := List.ne_nil_of_mem colon
  have kept : Text.trim Url.isBracket host = host := by
    apply Text.trim_of_forall
    intro c member
    apply Url.isBracket_eq_false
    · rintro rfl
      exact opened member
    · rintro rfl
      exact closed member
  simp only [spellings, List.mem_cons, List.not_mem_nil, or_false] at spelled
  rcases spelled with rfl | rfl | rfl
  · refine ⟨none, List.mem_cons_self, ?_⟩
    simp [Url.readDecodedEntry, Url.isHostAlone, kept, address]
  · have enclosed : Text.trim Url.isBracket ('[' :: host ++ [']']) = host :=
      (Text.trim_cons_concat rfl rfl host).trans kept
    refine ⟨none, List.mem_cons_self, ?_⟩
    simp only [Url.readDecodedEntry, Url.isHostAlone, enclosed, address, Option.isSome_some,
      Bool.true_or, if_true]
  · have joined : '[' :: host ++ ']' :: ':' :: port = Endpoint.join host port := by
      rw [Endpoint.join, if_pos colon]
    refine ⟨some port, List.mem_cons_of_mem _ List.mem_cons_self, ?_⟩
    rw [joined, Url.readDecodedEntry_join nonempty opened closed digits given]

/-- The peer of a host that is an address is that address. -/
theorem peer?_of_canonical (address : Address.canonical? host = some canonical)
    (nonempty : host ≠ []) (written : Option Text) :
    Url.Entry.peer? ⟨some host, written⟩ = some (.address canonical) := by
  have comma : ',' ∉ host := Address.not_mem_of_canonical address (by decide)
  have slash : host.head? ≠ some '/' := fun first =>
    Address.not_mem_of_canonical address (by decide) (List.mem_of_head? first)
  rw [Url.Entry.peer?, Option.bind_some,
    List.takeWhile_eq_self_iff.mpr (Text.ne_of_not_mem comma), Text.nonempty?, if_neg nonempty, peer,
    if_neg slash, Peer.ofHost, address]

/-- A list of one entry. -/
theorem readHostList_of_not_mem {entry : Text} (nonempty : entry ≠ []) (comma : ',' ∉ entry)
    (percent : '%' ∉ entry) :
    Url.readHostList entry = (Url.readDecodedEntry entry).map fun read => [read] := by
  have pieces : ((Text.join ',' [entry]).splitOn ',').filter (· ≠ []) = [entry] :=
    Text.filter_splitOn_join (by simpa using comma) (by simpa using nonempty)
  rw [Text.join, List.intercalate_singleton] at pieces
  rw [Url.readHostList, pieces, List.mapM_cons, List.mapM_nil, Url.readEntry, Url.decode,
    Text.Percent.decode_of_not_mem percent]
  show (Url.readDecodedEntry entry >>= fun read => Except.ok [read]) = _
  cases Url.readDecodedEntry entry <;> rfl

/-- The URL of a database at an endpoint that is spelled in some way. -/
def urlOf (entry : Text) : Text :=
  Url.shortScheme ++ entry ++ '/' :: "db".toList

example : (spellings "::1".toList defaultPort).map urlOf =
    ["postgres://::1/db".toList, "postgres://[::1]/db".toList, "postgres://[::1]:5432/db".toList] := by
  decide

theorem urlOf_eq (entry : Text) :
    urlOf entry = "postgres".toList ++ "://".toList ++ (entry ++ '/' :: "db".toList) := by
  rw [urlOf, Url.shortScheme_eq, List.append_assoc]

theorem isUrl_urlOf (entry : Text) : isUrl (urlOf entry) = true := by
  have begins : Url.shortScheme <+: urlOf entry := by
    rw [urlOf, List.append_assoc]
    exact List.prefix_append _ _
  exact List.any_eq_true.mpr
    ⟨Url.shortScheme, List.mem_cons_self, List.isPrefixOf_iff_prefix.mpr begins⟩

/-- No character of an address is a control character. -/
theorem isControl_of_isAddressChar {c : Char} (written : IsAddressChar c) :
    Url.isControl c = false := by
  rcases written with digit | rfl | rfl
  · have bounds : '0' ≤ c ∧ c ≤ 'f' := by
      unfold Text.hexDigit? at digit
      split at digit
      · rename_i decimal
        exact ⟨decimal.1, Char.le_trans decimal.2 (by decide)⟩
      split at digit
      · rename_i lower
        exact ⟨Char.le_trans (by decide) lower.1, lower.2⟩
      split at digit
      · rename_i upper
        exact ⟨Char.le_trans (by decide) upper.1, Char.le_trans upper.2 (by decide)⟩
      · cases digit
    have low : 0x30 ≤ c.toNat := UInt32.le_iff_toNat_le.mp bounds.1
    have high : c.toNat ≤ 0x66 := UInt32.le_iff_toNat_le.mp bounds.2
    simp [Url.isControl]
    omega
  · rfl
  · rfl

section Entries
variable {entry : Text} (address : Address.canonical? host = some canonical)
  (spelled : entry ∈ spellings host defaultPort)
include address spelled

theorem any_isControl_urlOf : (urlOf entry).any Url.isControl = false := by
  have around : Url.shortScheme.any Url.isControl = false ∧
      ('/' :: "db".toList).any Url.isControl = false := by decide
  have inside : entry.any Url.isControl = false := by
    apply Text.any_eq_false_iff.mpr
    intro c member
    cases control : Url.isControl c with
    | false => rfl
    | true =>
      have foreign : ¬ IsAddressChar c := by
        intro written
        rw [isControl_of_isAddressChar written] at control
        cases control
      have bracket : Url.isBracket c = false := by
        apply Url.isBracket_eq_false
        · rintro rfl
          cases control
        · rintro rfl
          cases control
      exact absurd member (not_mem_spelling address Url.defaultPort_digits.2 spelled foreign bracket)
  rw [urlOf, List.any_append, List.any_append, around.1, inside, around.2]
  rfl

theorem ofText_urlOf :
    Url.Parts.ofText (urlOf entry) = ⟨none, entry, '/' :: "db".toList, []⟩ := by
  have absent := separator_not_mem_spelling address Url.defaultPort_digits.2 spelled
  have inside : ∀ c ∈ entry, Url.endsAuthority c = false := by
    intro c member
    apply Bool.eq_false_iff.mpr
    intro ends
    simp only [Url.endsAuthority, Bool.or_eq_true, decide_eq_true_eq] at ends
    rcases ends with (rfl | rfl) | rfl <;> exact absent _ (by decide) member
  rw [urlOf_eq, Url.Parts.ofText_hostList (by decide) inside (absent '@' (by decide))]
  rfl

theorem find?_of_readUrl_urlOf {given : Table} (read : (readUrl (urlOf entry)).result = .ok given)
    {entries : List Url.Entry}
    (hosts : Url.readHostList (Url.Parts.ofText (urlOf entry)).hostList = .ok entries) {name : Text}
    (asked : name ∈ [hostName, portName, hostAddressName]) :
    given.find? name = (Table.ofList (Url.hostSettings entries)).find? name := by
  have url := isUrl_urlOf entry
  have plain : Url.queryOf (urlOf entry) = [] := by
    rw [← Url.query_ofText_of_isUrl url, ofText_urlOf address spelled]
  refine Url.find?_of_readSettings url plain ?_ hosts asked
  rw [readSettings, if_pos url, read]

variable (colon : ':' ∈ host)
include colon

/-- The URL has the host alone in its host list, or the host with the standard port. -/
theorem exists_readHostList_urlOf :
    ∃ written ∈ [none, some defaultPort],
      Url.readHostList (Url.Parts.ofText (urlOf entry)).hostList = .ok [⟨some host, written⟩] := by
  have absent := separator_not_mem_spelling address Url.defaultPort_digits.2 spelled
  obtain ⟨written, known, read⟩ := readDecodedEntry_spelling colon address
    Url.defaultPort_digits.2 Url.defaultPort_digits.1 spelled
  have nonempty := ne_nil_of_mem_spellings (List.ne_nil_of_mem colon) spelled
  refine ⟨written, known, ?_⟩
  rw [ofText_urlOf address spelled,
    readHostList_of_not_mem nonempty (absent ',' (by decide)) (absent '%' (by decide)), read]
  rfl

/-- The URL is accepted, and the host is the setting of that name. -/
theorem exists_readUrl_urlOf :
    ∃ given, (readUrl (urlOf entry)).result = .ok given ∧ given.find? hostName = some host := by
  obtain ⟨written, -, hosts⟩ := exists_readHostList_urlOf address spelled colon
  have path : Url.readPath ('/' :: "db".toList) = .ok [(databaseName, "db".toList)] := by
    decide +kernel
  obtain ⟨given, read⟩ : ∃ given, (readUrl (urlOf entry)).result = .ok given := by
    rw [ofText_urlOf address spelled] at hosts
    rw [readUrl, Url.parse_eq (any_isControl_urlOf address spelled), ofText_urlOf address spelled,
      Url.Parts.settings_eq, hosts, path]
    exact ⟨_, rfl⟩
  refine ⟨given, read, ?_⟩
  rw [find?_of_readUrl_urlOf address spelled read hosts List.mem_cons_self,
    (Url.find?_hostSettings _).1]
  show (if [host] ≠ [] then some (Text.join ',' [host]) else none) = some host
  rw [if_pos (List.cons_ne_nil host []), Text.join, List.intercalate_singleton]

/-- Each spelling leads to the same peer, as long as the user is told or left out. -/
theorem exists_describe_urlOf {defaults : Defaults}
    (soft : ∀ fault, defaults.machine.currentUser = .error fault → fault.kind ≠ .invalid) :
    ∃ made, (describe "postgres".toList defaults (urlOf entry)).result = .ok made ∧
      ReportsAddress made canonical 5432 := by
  obtain ⟨written, known, hosts⟩ := exists_readHostList_urlOf address spelled colon
  obtain ⟨given, read, found⟩ := exists_readUrl_urlOf address spelled colon
  have present : given.contains hostName = true := by
    rw [Table.contains, found]
    rfl
  have told : ∀ name ∈ [hostName, portName, hostAddressName], given.find? name =
      (Table.ofList (Url.hostSettings [⟨some host, written⟩])).find? name :=
    fun _ asked => find?_of_readUrl_urlOf address spelled read hosts asked
  obtain ⟨added, filled⟩ := Defaults.exists_missing_of_host soft present
  have peer := peer_update_missing filled told (List.find?_cons_of_pos rfl)
  rw [peer?_of_canonical address (List.ne_nil_of_mem colon)] at peer
  have number : Numeral.toInt? (Url.firstPort [⟨some host, written⟩]) = .ok (some 5432) := by
    simp only [List.mem_cons, List.not_mem_nil, or_false] at known
    have digits : Numeral.toInt? defaultPort = .ok (some 5432) := by decide
    rcases known with rfl | rfl <;> exact digits
  have port := (port?_update_missing filled told hosts).trans number
  obtain ⟨attributes, derived⟩ :
      ∃ made, attributes (urlOf entry) (given.update added) = .ok made := by
    rw [attributes, port]
    exact ⟨_, rfl⟩
  obtain ⟨peerMade, portMade⟩ := peer_of_attributes derived
  have nonempty : urlOf entry ≠ [] := by
    intro empty
    have url := isUrl_urlOf entry
    rw [empty] at url
    exact absurd url (by decide)
  refine ⟨⟨((given.update added).find? databaseName).getD [], attributes⟩, ?_,
    reportsAddress_of_peer (peerMade.trans peer) (Except.ok.inj (portMade.symm.trans port))⟩
  rw [describe_postgres, report_eq nonempty, readSettings, if_pos (isUrl_urlOf entry),
    Traced.result_bind, read]
  show (defaults.missing given >>= _).result = _
  rw [Traced.result_bind, filled]
  show (reportOn (urlOf entry) (given.update added)).result = _
  rw [reportOn, derived]
  rfl

end Entries

end Postgres

/-! ## Data source names -/

namespace Mysql
open Descriptor

/-- The data source name of a database at an endpoint that is spelled in some way. -/
def nameOf (entry : Text) : Text :=
  standardNetwork ++ '(' :: entry ++ ')' :: '/' :: "db".toList

example : (spellings "::1".toList standardPort).map nameOf =
    ["tcp(::1)/db".toList, "tcp([::1])/db".toList, "tcp([::1]:3306)/db".toList] := by
  decide

/-- What that name describes, apart from the address. -/
def reached (address : Text) : Descriptor where
  network := standardNetwork
  address := address
  database := "db".toList

theorem complete_reached {address : Text} (present : address ≠ []) :
    (reached address).complete = .ok (reached (ensurePort address)) := by
  have safe : ¬ ((reached address).flags .interpolateParams = true ∧
      isUnsafeCollation (reached address).collation = true) :=
    (by decide : ¬ (Flag.standard .interpolateParams = true ∧
      isUnsafeCollation standardCollation = true))
  have standard : (reached address).network = standardNetwork := rfl
  have named : (reached address).network ≠ [] := (by decide : standardNetwork ≠ [])
  rw [complete, if_neg safe]
  dsimp only
  rw [if_neg named, if_neg (show (reached address).address ≠ [] from present), if_pos standard]
  rfl

theorem ensurePort_of_not_isEndpoint {address : Text}
    (other : ∀ host port, ¬ Endpoint.IsEndpoint address host port) :
    ensurePort address = Endpoint.join (withoutBrackets address) standardPort := by
  unfold ensurePort
  cases found : Endpoint.split address with
  | ok parts => exact absurd (Endpoint.split_eq_ok_iff.mp found) (other parts.1 parts.2)
  | error malformed => rfl

theorem split_spelling (address : Address.canonical? host = some canonical) :
    Endpoint.split ('[' :: host ++ ']' :: ':' :: standardPort) = .ok (host, standardPort) :=
  Endpoint.split_eq_ok_iff.mpr
    ⟨hasNoBracket_of_canonical address, standardPort_plain, Or.inr rfl⟩

section Entries
variable {entry : Text} (address : Address.canonical? host = some canonical)
  (spelled : entry ∈ spellings host standardPort)
include address spelled

/-- The text between the parentheses is the address. -/
theorem readAuthority_nameOf :
    readAuthority {} (standardNetwork ++ '(' :: (entry ++ [')'])) =
      .ok { network := standardNetwork, address := entry } := by
  have digits : ∀ c ∈ standardPort, c.isDigit = true := List.all_eq_true.mp (by decide)
  have at_sign : '@' ∉ standardNetwork ++ '(' :: (entry ++ [')']) := by
    have silent : '@' ∉ standardNetwork := by decide
    simp [silent, separator_not_mem_spelling address digits spelled '@' (by decide)]
  have network : Text.cut '(' (standardNetwork ++ '(' :: (entry ++ [')'])) =
      some (standardNetwork, entry ++ [')']) :=
    Text.cut_eq_some.mpr ⟨rfl, by decide⟩
  rw [readAuthority, Text.cutLast_eq_none.mpr at_sign]
  simp only [readNetwork, network, List.getLast?_concat, if_true, List.dropLast_concat]

variable (colon : ':' ∈ host)
include colon

/-- Each spelling gets the brackets and the port that it lacks. -/
theorem ensurePort_spelling :
    ensurePort entry = '[' :: host ++ ']' :: ':' :: standardPort := by
  have joined : Endpoint.join host standardPort = '[' :: host ++ ']' :: ':' :: standardPort := by
    rw [Endpoint.join, if_pos colon]
  simp only [spellings, List.mem_cons, List.not_mem_nil, or_false] at spelled
  rcases spelled with rfl | rfl | rfl
  · have bare : withoutBrackets entry = entry :=
      if_neg fun ends => (hasNoBracket_of_canonical address).1 (List.mem_of_head? ends.1)
    rw [ensurePort_of_not_isEndpoint (not_isEndpoint_of_canonical address), bare, joined]
  · rw [ensurePort_of_not_isEndpoint (not_isEndpoint_enclosed host), withoutBrackets_enclosed,
      joined]
  · rw [ensurePort, split_spelling address]

/-- The address is completed with what is missing. -/
theorem parse_nameOf :
    parse (nameOf entry) = .ok (reached ('[' :: host ++ ']' :: ':' :: standardPort)) := by
  have cut : Text.cutLast '/' (nameOf entry) =
      some (standardNetwork ++ '(' :: (entry ++ [')']), "db".toList) :=
    Text.cutLast_eq_some.mpr ⟨by simp [nameOf], by decide⟩
  have database : Text.divide '?' "db".toList = ("db".toList, []) := by decide
  have named : readDatabase { network := standardNetwork, address := entry } "db".toList =
      .ok (reached entry) := by
    rw [readDatabase, Text.Percent.decode_of_not_mem (by decide)]
    rfl
  have unchanged : readParameters { network := standardNetwork, address := entry } [] =
      .ok { network := standardNetwork, address := entry } := by
    rw [readParameters, List.splitOn_nil]
    rfl
  have present := ne_nil_of_mem_spellings (List.ne_nil_of_mem colon) spelled
  rw [← ensurePort_spelling address spelled colon, ← complete_reached present, parse, cut]
  dsimp only
  rw [database]
  simp only [bind, Except.bind, readAuthority_nameOf address spelled, unchanged, named]

/-- Each spelling leads to the same peer. -/
theorem exists_describe_nameOf (defaults : Postgres.Defaults) :
    ∃ made, (describe "mysql".toList defaults (nameOf entry)).result = .ok made ∧
      ReportsAddress made canonical 3306 := by
  have number : Numeral.toInt? standardPort = .ok (some 3306) := by decide
  have told : peer ('[' :: host ++ ']' :: ':' :: standardPort) =
      .ok (some (.address canonical), some 3306) := by
    rw [peer, split_spelling address]
    simp only [number, Peer.ofHost, address]
    rfl
  obtain ⟨attributes, derived, peerMade, portMade⟩ : ∃ attributes,
      (reached ('[' :: host ++ ']' :: ':' :: standardPort)).attributes = .ok attributes ∧
        attributes.peer = some (.address canonical) ∧ attributes.port = some 3306 := by
    simp only [Descriptor.attributes, reached, transport?_standardNetwork, if_true, told]
    exact ⟨_, rfl, rfl, rfl⟩
  refine ⟨⟨"db".toList, attributes⟩, ?_, reportsAddress_of_peer peerMade portMade⟩
  rw [describe_mysql, report, parse_nameOf address spelled colon]
  show (Traced.ofExcept ((reached _).attributes.mapError .tooLong) >>= _).result = _
  rw [derived]
  rfl

end Entries

end Mysql

/-- The spellings of an endpoint agree. At the standard port, each URL gives the host that is written
and each data source name the same endpoint, and the reports give the address in its canonical form
and the port. Nothing else is asked of the machine than that it tells the user of a URL, or fails in
a way that leaves the user out. -/
theorem spellings_report_address (colon : ':' ∈ host)
    (address : Address.canonical? host = some canonical) (defaults : Postgres.Defaults) :
    (∀ entry ∈ spellings host Postgres.defaultPort,
      (∃ given, (Postgres.readUrl (Postgres.urlOf entry)).result = .ok given ∧
          given.find? Postgres.hostName = some host) ∧
        ((∀ fault, defaults.machine.currentUser = .error fault → fault.kind ≠ .invalid) →
          ∃ made,
            (describe "postgres".toList defaults (Postgres.urlOf entry)).result = .ok made ∧
              ReportsAddress made canonical 5432)) ∧
      ∀ entry ∈ spellings host Mysql.Descriptor.standardPort,
        (∃ descriptor, Mysql.Descriptor.parse (Mysql.nameOf entry) = .ok descriptor ∧
            descriptor.address = '[' :: host ++ ']' :: ':' :: Mysql.Descriptor.standardPort) ∧
          ∃ made, (describe "mysql".toList defaults (Mysql.nameOf entry)).result = .ok made ∧
            ReportsAddress made canonical 3306 := by
  constructor
  · intro entry spelled
    exact ⟨Postgres.exists_readUrl_urlOf address spelled colon,
      Postgres.exists_describe_urlOf address spelled colon⟩
  · intro entry spelled
    exact ⟨⟨_, Mysql.parse_nameOf address spelled colon, rfl⟩,
      Mysql.exists_describe_nameOf address spelled colon defaults⟩

end Addresses

/-- An address of the fourth version in the form of one of the sixth, on a machine that knows no
user. -/
theorem spellings_report_address_mapped :
    ':' ∈ "::FFFF:10.0.0.7".toList ∧
      Address.canonical? "::FFFF:10.0.0.7".toList = some "10.0.0.7".toList ∧
      (∃ made, (describe "postgres".toList Postgres.guardedDefaults
          (Postgres.urlOf "[::FFFF:10.0.0.7]".toList)).result = .ok made ∧
        ReportsAddress made "10.0.0.7".toList 5432) ∧
      ∃ made, (describe "mysql".toList Postgres.guardedDefaults
          (Mysql.nameOf "::FFFF:10.0.0.7".toList)).result = .ok made ∧
        ReportsAddress made "10.0.0.7".toList 3306 := by
  have colon : ':' ∈ "::FFFF:10.0.0.7".toList := by decide
  have address : Address.canonical? "::FFFF:10.0.0.7".toList = some "10.0.0.7".toList := by
    decide +kernel
  obtain ⟨urls, names⟩ := spellings_report_address colon address Postgres.guardedDefaults
  obtain ⟨-, reported⟩ := urls "[::FFFF:10.0.0.7]".toList (by decide)
  obtain ⟨-, named⟩ := names "::FFFF:10.0.0.7".toList (by decide)
  exact ⟨colon, address, reported Postgres.failsSoftly_guardedMachine.user, named⟩

/-- Defaults on a machine to which the question about the user is not acceptable. -/
def refusingDefaults : Postgres.Defaults :=
  ⟨[], false, ⟨fun _ => .ok false, .error ⟨.invalid, "no user".toList⟩⟩⟩

/-- Such a failure is not passed over, and there is no report, although the peer needs no user. -/
theorem describe_url_fails_with_user :
    ':' ∈ "::1".toList ∧ Address.canonical? "::1".toList = some "::1".toList ∧
      ¬ ∃ made, (describe "postgres".toList refusingDefaults
          (Postgres.urlOf "::1".toList)).result = .ok made ∧
        ReportsAddress made "::1".toList 5432 := by
  have failed : ((describe "postgres".toList refusingDefaults
      (Postgres.urlOf "::1".toList)).result.map fun made => made.database) =
        .error (.fault ⟨.invalid, "no user".toList⟩) := by decide +kernel
  refine ⟨by decide, by decide +kernel, ?_⟩
  rintro ⟨made, reached, -⟩
  rw [reached] at failed
  cases failed

end DataSource
