import DataSource.Postgres.ConnectionString
import DataSource.Proofs.Network.Address
import DataSource.Proofs.Network.Endpoint
import DataSource.Proofs.Postgres.Url.Parts
import DataSource.Proofs.Text.Percent

/-! A URL that is written from a user, a password, endpoints, a database and parameters, each with
its escapes, is read as those settings in their order, and no parameter of it is skipped. None of
the parts needs to be plain: their separators are escaped, so the ones that stand between the parts
are the only ones. -/
namespace DataSource.Postgres.Url

/-! ## Entries of the host list -/

section Entries
variable {host port : Text}

theorem isBracket_eq_false {c : Char} (opened : c ≠ '[') (closed : c ≠ ']') :
    isBracket c = false := by
  simp [isBracket, opened, closed]

/-- No bracket is at an end of a text that begins with the host and ends with the port. -/
theorem trim_isBracket (nonempty : host ≠ []) (opened : '[' ∉ host) (closed : ']' ∉ host)
    (digits : ∀ c ∈ port, c.isDigit = true) (given : port ≠ []) (between : Text) :
    Text.trim isBracket (host ++ between ++ port) = host ++ between ++ port := by
  apply Text.trim_of_ends
  · intro c first
    obtain ⟨head, tail, rfl⟩ := List.exists_cons_of_ne_nil nonempty
    cases first
    apply isBracket_eq_false
    · rintro rfl
      exact opened List.mem_cons_self
    · rintro rfl
      exact closed List.mem_cons_self
  · intro c last
    rw [List.getLast?_append, List.getLast?_eq_some_getLast given, Option.some_or] at last
    cases last
    have digit := digits _ (List.getLast_mem given)
    apply isBracket_eq_false
    · intro same
      rw [same] at digit
      cases digit
    · intro same
      rw [same] at digit
      cases digit

/-- An endpoint is never a host alone: it has a colon, and either that is the only one or there is a
bracket within. -/
theorem isHostAlone_join (nonempty : host ≠ []) (opened : '[' ∉ host) (closed : ']' ∉ host)
    (digits : ∀ c ∈ port, c.isDigit = true) (given : port ≠ []) :
    isHostAlone (Network.Endpoint.join host port) = false := by
  have kept := trim_isBracket nonempty opened closed digits given
  have address : Network.Address.canonical?
      (Text.trim isBracket (Network.Endpoint.join host port)) = none := by
    unfold Network.Endpoint.join
    split
    · have bracketed : Text.trim isBracket ('[' :: host ++ ']' :: ':' :: port) =
          host ++ [']', ':'] ++ port := by
        rw [← kept [']', ':'], Text.trim, Text.trim]
        simp [isBracket]
      have bracket : ']' ∈ host ++ [']', ':'] ++ port := by simp
      have foreign : ¬ Network.IsAddressChar ']' := by decide
      rw [bracketed]
      exact Network.Address.canonical_of_mem bracket foreign
    · rename_i plain
      have colon : ':' ∉ port := fun member => absurd (digits ':' member) (by decide)
      have unchanged := kept [':']
      rw [List.append_assoc, List.singleton_append] at unchanged
      rw [unchanged]
      exact Network.Address.canonical_of_one_colon plain colon
  have colon : ':' ∈ Network.Endpoint.join host port := by
    unfold Network.Endpoint.join
    split <;> simp
  simp [isHostAlone, address, colon]

/-- An endpoint is read as its host and its port. -/
theorem readDecodedEntry_join (nonempty : host ≠ []) (opened : '[' ∉ host) (closed : ']' ∉ host)
    (digits : ∀ c ∈ port, c.isDigit = true) (given : port ≠ []) :
    readDecodedEntry (Network.Endpoint.join host port) = .ok ⟨some host, some port⟩ := by
  have absent : ∀ c : Char, c.isDigit = false → c ∉ port := by
    intro c other member
    rw [digits c member] at other
    cases other
  have parts := Network.Endpoint.split_join opened closed (absent ':' rfl) (absent '[' rfl)
    (absent ']' rfl)
  simp [readDecodedEntry, isHostAlone_join nonempty opened closed digits given, parts,
    List.all_eq_true.mpr digits, Text.nonempty?, nonempty, given]

end Entries

/-! ## Written URLs -/

/-- What a URL can say. -/
structure Content where
  user : Text
  password : Text
  /-- The hosts, each with its port. -/
  endpoints : List (Text × Text)
  database : Text
  /-- The parameters of the query. -/
  parameters : List (Text × Text)

/-- A part of a URL with escapes for all but the unreserved characters. -/
def escaped (text : Text) : Text :=
  Text.Percent.encode (fun _ => false) text

/-- One entry of the host list. -/
def formatEndpoint (endpoint : Text × Text) : Text :=
  escaped (Network.Endpoint.join endpoint.1 endpoint.2)

/-- One parameter of the query. -/
def formatParameter (parameter : Text × Text) : Text :=
  Text.Percent.encodeField parameter.1 ++ '=' :: Text.Percent.encodeField parameter.2

namespace Content

/-- What follows the scheme. -/
def body (content : Content) : Text :=
  escaped content.user ++ ':' :: escaped content.password ++
    '@' :: Text.join ',' (content.endpoints.map formatEndpoint) ++
    '/' :: escaped content.database ++
    '?' :: Text.join '&' (content.parameters.map formatParameter)

/-- Writes a URL. -/
def format (content : Content) : Text :=
  longScheme ++ content.body

/-- The settings of all parts but the query. Without endpoints there is neither a host nor a
port. -/
def settings (content : Content) : List (Text × Text) :=
  [(userName, content.user), (passwordName, content.password)] ++
    (if content.endpoints = [] then []
    else
      [(hostName, Text.join ',' (content.endpoints.map Prod.fst)),
        (portName, Text.join ',' (content.endpoints.map Prod.snd))]) ++
    [(databaseName, content.database)]

/-- The settings, with the parameters carried out on them in their order. -/
def table (content : Content) : Table :=
  (Table.ofList content.settings).update
    (content.parameters.map fun parameter => (canonicalName parameter.1, parameter.2))

/-- Each host is a text without brackets and each port a numeral; the database does not begin with
a slash. -/
structure WellFormed (content : Content) : Prop where
  host : ∀ endpoint ∈ content.endpoints, endpoint.1 ≠ [] ∧ '[' ∉ endpoint.1 ∧ ']' ∉ endpoint.1
  port : ∀ endpoint ∈ content.endpoints, endpoint.2 ≠ [] ∧ ∀ c ∈ endpoint.2, c.isDigit = true
  database : content.database ≠ []
  slash : content.database.head? ≠ some '/'

end Content

/-! ### Characters -/

theorem not_mem_escaped {c : Char} (reserved : Text.Percent.isUnreserved c = false)
    (other : c ≠ '%') (text : Text) : c ∉ escaped text := by
  intro member
  rcases Text.Percent.mem_encode member with unreserved | safe | percent
  · rw [reserved] at unreserved
    cases unreserved
  · cases safe
  · exact other percent

theorem not_mem_formatParameter {c : Char} (reserved : Text.Percent.isUnreserved c = false)
    (other : c ∉ ['%', '+', '=']) (parameter : Text × Text) : c ∉ formatParameter parameter := by
  simp only [List.mem_cons, List.not_mem_nil, or_false, not_or] at other
  have field : ∀ text, c ∉ Text.Percent.encodeField text := by
    intro text member
    rcases Text.Percent.mem_encodeField member with unreserved | plus | percent
    · rw [reserved] at unreserved
      cases unreserved
    · exact other.2.1 plus
    · exact other.1 percent
  simp [formatParameter, field, other.2.2]

/-- A control character is always written as an escape. -/
theorem isUnreserved_of_isControl {c : Char} (control : isControl c = true) :
    Text.Percent.isUnreserved c = false := by
  have low : c.toNat < 0x20 ∨ c.toNat = 0x7f := by simpa [isControl] using control
  have code : c.toNat = c.val.toNat := rfl
  have letter : c.isAlpha =
      (decide ('A'.val ≤ c.val ∧ c.val ≤ 'Z'.val) ||
        (decide ('a'.val ≤ c.val) && decide (c.val ≤ 'z'.val))) := rfl
  rw [Bool.eq_false_iff]
  intro unreserved
  simp only [Text.Percent.isUnreserved, Char.isAlphanum, letter, Char.isDigit, Bool.or_eq_true,
    Bool.and_eq_true, decide_eq_true_eq, UInt32.le_iff_toNat_le, ge_iff_le] at unreserved
  rcases unreserved with ((((alphanumeric | rfl) | rfl) | rfl) | rfl)
  · simp at alphanumeric
    omega
  all_goals exact absurd low (by decide)

theorem not_mem_join_endpoints {c : Char} (reserved : Text.Percent.isUnreserved c = false)
    (other : c ∉ ['%', ',']) (endpoints : List (Text × Text)) :
    c ∉ Text.join ',' (endpoints.map formatEndpoint) := by
  simp only [List.mem_cons, List.not_mem_nil, or_false, not_or] at other
  intro member
  rcases Text.mem_join member with comma | ⟨piece, inside, found⟩
  · exact other.2 comma
  · obtain ⟨endpoint, _, rfl⟩ := List.mem_map.mp inside
    exact not_mem_escaped reserved other.1 _ found

theorem not_mem_join_parameters {c : Char} (reserved : Text.Percent.isUnreserved c = false)
    (other : c ∉ ['%', '+', '=', '&']) (parameters : List (Text × Text)) :
    c ∉ Text.join '&' (parameters.map formatParameter) := by
  intro member
  rcases Text.mem_join member with ampersand | ⟨piece, inside, found⟩
  · exact other (by simp [ampersand])
  · obtain ⟨parameter, _, rfl⟩ := List.mem_map.mp inside
    have field : c ∉ ['%', '+', '='] := fun listed => other (List.mem_append_left ['&'] listed)
    exact not_mem_formatParameter reserved field parameter found

theorem any_isControl_format (content : Content) : content.format.any isControl = false := by
  have marks : (['%', '+', '=', '&'] ++ ['%', ',']).any isControl = false := by decide
  have foreign : ∀ c, isControl c = true → c ∉ ['%', '+', '=', '&'] ++ ['%', ','] := by
    intro c control listed
    rw [Text.any_eq_false_iff.mp marks c listed] at control
    cases control
  have inQuery : ∀ c, isControl c = true → c ∉ ['%', '+', '=', '&'] := fun c control listed =>
    foreign c control (List.mem_append_left _ listed)
  have inHosts : ∀ c, isControl c = true → c ∉ ['%', ','] := fun c control listed =>
    foreign c control (List.mem_append_right _ listed)
  have part : ∀ text, (escaped text).any isControl = false := fun text =>
    List.any_eq_false.mpr fun c member control =>
      not_mem_escaped (isUnreserved_of_isControl control)
        (fun same => inHosts c control (by simp [same])) text member
  have hosts : (Text.join ',' (content.endpoints.map formatEndpoint)).any isControl = false :=
    List.any_eq_false.mpr fun c member control =>
      not_mem_join_endpoints (isUnreserved_of_isControl control) (inHosts c control) _ member
  have query : (Text.join '&' (content.parameters.map formatParameter)).any isControl = false :=
    List.any_eq_false.mpr fun c member control =>
      not_mem_join_parameters (isUnreserved_of_isControl control) (inQuery c control) _ member
  have first : longScheme.any isControl = false := by decide
  have separators : isControl ':' = false ∧ isControl '@' = false ∧ isControl '/' = false ∧
      isControl '?' = false := by decide
  simp only [Content.format, Content.body, List.any_append, List.any_cons, first, part, hosts, query,
    separators, Bool.or_self]

/-! ### Reading what was written -/

theorem decode_escaped (component : Component) (text : Text) :
    decode component (escaped text) = .ok text := by
  rw [decode, escaped, Text.Percent.decode_encode rfl]
  rfl

theorem escaped_ne_nil {text : Text} (nonempty : text ≠ []) : escaped text ≠ [] := by
  intro empty
  have read := decode_escaped .host text
  rw [empty] at read
  cases read
  exact nonempty rfl

theorem reserved_of_endsAuthority {c : Char} (ends : endsAuthority c = true) :
    Text.Percent.isUnreserved c = false ∧ c ≠ '%' ∧ c ∉ ['%', ','] := by
  obtain rfl | rfl | rfl : c = '/' ∨ c = '?' ∨ c = '#' := by
    simpa [endsAuthority, or_assoc] using ends
  all_goals decide

theorem endsAuthority_escaped (text : Text) : ∀ c ∈ escaped text, endsAuthority c = false := by
  intro c member
  rw [Bool.eq_false_iff]
  intro ends
  obtain ⟨reserved, percent, _⟩ := reserved_of_endsAuthority ends
  exact not_mem_escaped reserved percent text member

theorem endsAuthority_join_endpoints {endpoints : List (Text × Text)} :
    ∀ c ∈ Text.join ',' (endpoints.map formatEndpoint), endsAuthority c = false := by
  intro c member
  rw [Bool.eq_false_iff]
  intro ends
  obtain ⟨reserved, _, foreign⟩ := reserved_of_endsAuthority ends
  exact not_mem_join_endpoints reserved foreign endpoints member

/-- The separators stand between the parts and nowhere else. -/
theorem ofText_format (content : Content) :
    Parts.ofText content.format =
      ⟨some (escaped content.user ++ ':' :: escaped content.password),
        Text.join ',' (content.endpoints.map formatEndpoint), '/' :: escaped content.database,
        Text.join '&' (content.parameters.map formatParameter)⟩ := by
  let hosts := Text.join ',' (content.endpoints.map formatEndpoint)
  let query := Text.join '&' (content.parameters.map formatParameter)
  let path := '/' :: escaped content.database
  have userInfo : ∀ c ∈ escaped content.user ++ ':' :: escaped content.password,
      endsAuthority c = false := by
    intro c member
    rcases List.mem_append.mp member with user | later
    · exact endsAuthority_escaped _ c user
    · rcases List.mem_cons.mp later with rfl | password
      · rfl
      · exact endsAuthority_escaped _ c password
  have inHosts : ∀ c ∈ hosts, endsAuthority c = false := endsAuthority_join_endpoints
  have at_sign : '@' ∉ hosts := not_mem_join_endpoints (by decide) (by decide) _
  obtain ⟨_, question, number⟩ :=
    not_mem_of_endsAuthority (endsAuthority_escaped content.database)
  have inQuery : '#' ∉ query := not_mem_join_parameters (by decide) (by decide) _
  have body : content.body = escaped content.user ++ ':' :: escaped content.password ++
      '@' :: (hosts ++ (path ++ '?' :: query)) := by
    simp [Content.body, hosts, path, query]
  have authority : authorityOf (hosts ++ (path ++ '?' :: query)) = hosts := by
    rw [authorityOf_append inHosts, List.cons_append, authorityOf_cons rfl, List.append_nil]
  have pathPart : pathOf (hosts ++ (path ++ '?' :: query)) = path := by
    rw [pathOf_append inHosts, pathOf_slash question number]
  have queryPart : queryOf (hosts ++ (path ++ '?' :: query)) = query := by
    obtain ⟨_, noQuestion, noNumber⟩ := not_mem_of_endsAuthority inHosts
    rw [queryOf_append noQuestion noNumber, queryOf_append (by simp [path, question])
      (by simp [path, number]), queryOf_question inQuery]
  rw [Content.format, longScheme_eq, body, Parts.ofText_userInfo (by decide) userInfo
    (by rwa [authority]), authority, pathPart, queryPart]

theorem readUserInfo_escaped (user password : Text) :
    readUserInfo (escaped user ++ ':' :: escaped password) =
      .ok [(userName, user), (passwordName, password)] := by
  have absent : ':' ∉ escaped user := not_mem_escaped (by decide) (by decide) user
  rw [readUserInfo, Text.cut_eq_some.mpr ⟨rfl, absent⟩]
  simp only [decode_escaped]
  rfl

theorem readEntry_formatEndpoint {endpoint : Text × Text}
    (host : endpoint.1 ≠ [] ∧ '[' ∉ endpoint.1 ∧ ']' ∉ endpoint.1)
    (port : endpoint.2 ≠ [] ∧ ∀ c ∈ endpoint.2, c.isDigit = true) :
    readEntry (formatEndpoint endpoint) = .ok ⟨some endpoint.1, some endpoint.2⟩ := by
  rw [readEntry, formatEndpoint, decode_escaped]
  exact readDecodedEntry_join host.1 host.2.1 host.2.2 port.2 port.1

theorem readHostList_join {endpoints : List (Text × Text)}
    (host : ∀ endpoint ∈ endpoints, endpoint.1 ≠ [] ∧ '[' ∉ endpoint.1 ∧ ']' ∉ endpoint.1)
    (port : ∀ endpoint ∈ endpoints, endpoint.2 ≠ [] ∧ ∀ c ∈ endpoint.2, c.isDigit = true) :
    readHostList (Text.join ',' (endpoints.map formatEndpoint)) =
      .ok (endpoints.map fun endpoint => ⟨some endpoint.1, some endpoint.2⟩) := by
  have clean : ∀ piece ∈ endpoints.map formatEndpoint, ',' ∉ piece := by
    intro piece member
    obtain ⟨endpoint, _, rfl⟩ := List.mem_map.mp member
    exact not_mem_escaped (by decide) (by decide) _
  have nonempty : ∀ piece ∈ endpoints.map formatEndpoint, piece ≠ [] := by
    intro piece member
    obtain ⟨endpoint, _, rfl⟩ := List.mem_map.mp member
    apply escaped_ne_nil
    unfold Network.Endpoint.join
    split <;> simp
  rw [readHostList, Text.filter_splitOn_join clean nonempty]
  clear clean nonempty
  induction endpoints with
  | nil => rfl
  | cons endpoint rest ih =>
    have first := readEntry_formatEndpoint (host endpoint List.mem_cons_self)
      (port endpoint List.mem_cons_self)
    have later := ih (fun other member => host other (List.mem_cons_of_mem _ member))
      (fun other member => port other (List.mem_cons_of_mem _ member))
    rw [List.map_cons, List.mapM_cons, first]
    simp only [bind, Except.bind, later]
    rfl

theorem hostSettings_endpoints (endpoints : List (Text × Text)) :
    hostSettings (endpoints.map fun endpoint => ⟨some endpoint.1, some endpoint.2⟩) =
      if endpoints = [] then []
      else
        [(hostName, Text.join ',' (endpoints.map Prod.fst)),
          (portName, Text.join ',' (endpoints.map Prod.snd))] := by
  have hosts : (endpoints.map fun endpoint => (⟨some endpoint.1, some endpoint.2⟩ : Entry)).filterMap
      Entry.host = endpoints.map Prod.fst := by
    rw [List.filterMap_map]
    exact congrFun List.filterMap_eq_map endpoints
  have ports : (endpoints.map fun endpoint => (⟨some endpoint.1, some endpoint.2⟩ : Entry)).filterMap
      Entry.port = endpoints.map Prod.snd := by
    rw [List.filterMap_map]
    exact congrFun List.filterMap_eq_map endpoints
  rw [hostSettings, hosts, ports]
  cases endpoints <;> rfl

theorem readPath_escaped {database : Text} (nonempty : database ≠ [])
    (slash : database.head? ≠ some '/') :
    readPath ('/' :: escaped database) = .ok [(databaseName, database)] := by
  have octets : Text.Percent.octets .component ('/' :: escaped database) =
      .ok (Text.Utf8.encode ('/' :: database)) := by
    rw [Text.Percent.octets_plain _ (by decide), escaped, Text.Percent.octets_encode rfl]
    rfl
  have read : decode .path ('/' :: escaped database) = .ok ('/' :: database) := by
    rw [decode, Text.Percent.decode, octets]
    exact congrArg Except.ok (Text.Utf8.decode_encode _)
  have stripped : ('/' :: database).dropWhile (· = '/') = database := by
    rw [List.dropWhile_cons_of_pos (by simp)]
    apply Text.dropWhile_of_head
    intro c first
    apply decide_eq_false
    rintro rfl
    exact slash first
  rw [readPath, read]
  simp only [bind, Except.bind, stripped, if_neg nonempty]
  rfl

theorem readParameter_formatParameter (parameter : Text × Text) :
    readParameter (formatParameter parameter) =
      some (canonicalName parameter.1, parameter.2) := by
  have equals : '=' ∉ Text.Percent.encodeField parameter.1 := by
    intro member
    exact absurd (Text.Percent.mem_encodeField member) (by decide)
  rw [readParameter, formatParameter, Text.divide_append equals]
  simp only [Text.Percent.decode_encodeField]

theorem parameters_join (parameters : List (Text × Text)) :
    ((Text.join '&' (parameters.map formatParameter)).splitOn '&').filter (· ≠ []) =
      parameters.map formatParameter := by
  apply Text.filter_splitOn_join
  · intro piece member
    obtain ⟨parameter, _, rfl⟩ := List.mem_map.mp member
    exact not_mem_formatParameter (by decide) (by decide) parameter
  · intro piece member
    obtain ⟨parameter, _, rfl⟩ := List.mem_map.mp member
    simp [formatParameter]

/-- Every written parameter is read, so none is skipped. -/
theorem parameters_written (parameters : List (Text × Text)) :
    (parameters.map formatParameter).filterMap readParameter =
        parameters.map (fun parameter => (canonicalName parameter.1, parameter.2)) ∧
      (parameters.map formatParameter).filter (fun text => (readParameter text).isNone) = [] := by
  constructor
  · rw [List.filterMap_map, ← List.filterMap_eq_map]
    congr 1
    funext parameter
    exact readParameter_formatParameter parameter
  · apply List.filter_eq_nil_iff.mpr
    intro piece member
    obtain ⟨parameter, _, rfl⟩ := List.mem_map.mp member
    simp [readParameter_formatParameter]

/-- What is written is read back as what it says, and nothing is noted on the way. -/
theorem readUrl_format {content : Content} (wellFormed : content.WellFormed) :
    readUrl content.format = ⟨.ok content.table, [], []⟩ := by
  have parts : (Parts.ofText content.format).settings = .ok content.settings := by
    rw [ofText_format, Parts.settings]
    simp only [bind, Except.bind, readUserInfo_escaped,
      readHostList_join wellFormed.host wellFormed.port,
      readPath_escaped wellFormed.database wellFormed.slash, hostSettings_endpoints]
    rfl
  have parameters : (Parts.ofText content.format).parameters =
      content.parameters.map formatParameter := by
    rw [ofText_format, Parts.parameters]
    exact parameters_join content.parameters
  obtain ⟨taken, skipped⟩ := parameters_written content.parameters
  have read : parse content.format = .ok ⟨content.table, []⟩ := by
    rw [parse_eq (any_isControl_format content), parts, parameters, taken, skipped]
    rfl
  rw [readUrl, read]
  rfl

/-- A URL with separators of all kinds in all its parts. -/
def crowdedContent : Content where
  user := "a@b:c/d".toList
  password := "p@ss:w/rd?#%".toList
  endpoints := [("fe80::1%,x".toList, "5432".toList), ("ü db".toList, "007".toList)]
  database := "x/y?z=#&".toList
  parameters :=
    [("dbname".toList, "a&b=c".toList), ("host".toList, []), ([], "+ %".toList),
      ("dbname".toList, "last".toList)]

theorem readUrl_format_crowded :
    crowdedContent.WellFormed ∧
      readUrl crowdedContent.format = ⟨.ok crowdedContent.table, [], []⟩ ∧
      crowdedContent.table.entries =
        [("user".toList, "a@b:c/d".toList), ("password".toList, "p@ss:w/rd?#%".toList),
          ("host".toList, []), ("port".toList, "5432,007".toList),
          ("database".toList, "last".toList), ([], "+ %".toList)] := by
  have wellFormed : crowdedContent.WellFormed := by
    refine ⟨?_, ?_, ?_, ?_⟩
    · decide
    · have numerals : (crowdedContent.endpoints.all fun endpoint =>
          !endpoint.2.isEmpty && endpoint.2.all Char.isDigit) = true := by decide
      intro endpoint member
      simpa using List.all_eq_true.mp numerals endpoint member
    · decide
    · decide
  exact ⟨wellFormed, readUrl_format wellFormed, by decide⟩

end DataSource.Postgres.Url
