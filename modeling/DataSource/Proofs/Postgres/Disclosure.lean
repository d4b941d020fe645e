import DataSource.Proofs.Postgres.Secrecy

/-! Which URLs are reported. A URL is left out exactly when its settings have a password, and they
have one when the user information has a colon or when the query has a parameter that is read as a
password. A parameter with a bad escape is not read at all: when its value has one it hides
nothing, and the URL is reported as it stands. -/
namespace DataSource.Postgres

/-- No second name stands for the password. -/
theorem canonicalName_eq_passwordName (name : Text) :
    canonicalName name = passwordName ↔ name = passwordName := by
  have different : databaseAlias ≠ passwordName ∧ databaseName ≠ passwordName := by decide
  unfold canonicalName
  split
  · rename_i aliased
    rw [aliased]
    exact ⟨fun same => absurd same different.2, fun same => absurd same different.1⟩
  · exact Iff.rfl

namespace Url

/-! ## Passwords in front of the query -/

/-- A colon begins a password, also an empty one. -/
theorem password_mem_readUserInfo {text : Text} {credentials : List (Text × Text)}
    (read : readUserInfo text = .ok credentials) :
    passwordName ∈ credentials.map Prod.fst ↔ ':' ∈ text := by
  have different : passwordName ≠ userName := by decide
  unfold readUserInfo at read
  cases colon : Text.cut ':' text with
  | none =>
    rw [colon] at read
    obtain ⟨user, _, made⟩ := exists_of_bind_eq_ok read
    cases made
    simp [different, Text.cut_eq_none.mp colon]
  | some parts =>
    obtain ⟨before, after⟩ := parts
    obtain ⟨rfl, _⟩ := Text.cut_eq_some.mp colon
    rw [colon] at read
    obtain ⟨user, _, read⟩ := exists_of_bind_eq_ok read
    obtain ⟨password, _, made⟩ := exists_of_bind_eq_ok read
    cases made
    simp

theorem name_of_listSetting {name : Text} {values : List Text} {entry : Text × Text}
    (member : entry ∈ listSetting name values) : entry.1 = name := by
  unfold listSetting at member
  split at member
  · cases member
  · rw [List.mem_singleton.mp member]

/-- A host list gives a host and a port only. -/
theorem not_mem_hostSettings {name : Text} (host : name ≠ hostName) (port : name ≠ portName)
    (entries : List Entry) : name ∉ (hostSettings entries).map Prod.fst := by
  intro member
  obtain ⟨entry, inside, named⟩ := List.mem_map.mp member
  rcases List.mem_append.mp inside with inHost | inPort
  · exact host (named.symm.trans (name_of_listSetting inHost))
  · exact port (named.symm.trans (name_of_listSetting inPort))

/-- A path gives a database only. -/
theorem not_mem_readPath {name text : Text} (different : name ≠ databaseName)
    {database : List (Text × Text)} (read : readPath text = .ok database) :
    name ∉ database.map Prod.fst := by
  obtain ⟨path, _, made⟩ := exists_of_bind_eq_ok read
  cases made
  split <;> simp [different]

theorem password_mem_credentials {parts : Parts} {credentials : List (Text × Text)}
    (read : parts.credentials = .ok credentials) :
    passwordName ∈ credentials.map Prod.fst ↔
      ∃ userInfo, parts.userInfo = some userInfo ∧ ':' ∈ userInfo := by
  unfold Parts.credentials at read
  cases given : parts.userInfo with
  | none =>
    rw [given] at read
    cases read
    simp
  | some userInfo =>
    rw [given] at read
    simp [password_mem_readUserInfo read]

/-- Of the parts before the query only the user information can give a password. -/
theorem password_mem_settings {parts : Parts} {settings : List (Text × Text)}
    (read : parts.settings = .ok settings) :
    passwordName ∈ settings.map Prod.fst ↔
      ∃ userInfo, parts.userInfo = some userInfo ∧ ':' ∈ userInfo := by
  rw [Parts.settings_eq] at read
  obtain ⟨credentials, user, read⟩ := exists_of_bind_eq_ok read
  obtain ⟨entries, _, read⟩ := exists_of_bind_eq_ok read
  obtain ⟨database, path, made⟩ := exists_of_bind_eq_ok read
  cases made
  have later : passwordName ∉ (hostSettings entries ++ database).map Prod.fst := by
    rw [List.map_append, List.mem_append, not_or]
    exact ⟨not_mem_hostSettings (by decide) (by decide) entries, not_mem_readPath (by decide) path⟩
  rw [List.append_assoc, List.map_append, List.mem_append, or_iff_left later,
    password_mem_credentials user]

/-! ## Passwords in the query -/

/-- The name of a parameter is that of the password. -/
def NamesPassword (pair : Text) : Prop :=
  Text.Percent.decode .field (Text.divide '=' pair).1 = .ok passwordName

instance (pair : Text) : Decidable (NamesPassword pair) :=
  inferInstanceAs (Decidable (_ = _))

/-- The value of a parameter has no bad escape. -/
def HasReadableValue (pair : Text) : Prop :=
  Text.Percent.IsWellEscaped (Text.divide '=' pair).2

instance (pair : Text) : Decidable (HasReadableValue pair) :=
  inferInstanceAs (Decidable (Text.Percent.IsWellEscaped _))

/-- A parameter gives a password if its name says so and its value can be read. -/
theorem exists_readParameter_password (pair : Text) :
    (∃ value, readParameter pair = some (passwordName, value)) ↔
      NamesPassword pair ∧ HasReadableValue pair := by
  unfold NamesPassword HasReadableValue readParameter
  obtain ⟨name, value⟩ := Text.divide '=' pair
  dsimp only
  rw [← Text.Percent.exists_decode_iff .field]
  cases Text.Percent.decode .field name with
  | error bad => simp
  | ok name =>
    cases Text.Percent.decode .field value with
    | error bad => simp
    | ok value => simp [canonicalName_eq_passwordName]

/-- An empty parameter gives no password, so it does not matter that it is left out. -/
theorem not_namesPassword_nil : ¬ NamesPassword [] := by
  intro named
  have empty : passwordName ≠ [] := by decide
  exact empty (Except.ok.inj named).symm

theorem password_mem_parameters (parts : Parts) :
    passwordName ∈ (parts.parameters.filterMap readParameter).map Prod.fst ↔
      ∃ pair ∈ parts.query.splitOn '&', NamesPassword pair ∧ HasReadableValue pair := by
  constructor
  · intro member
    obtain ⟨⟨_, value⟩, inside, rfl⟩ := List.mem_map.mp member
    obtain ⟨pair, written, read⟩ := List.mem_filterMap.mp inside
    exact ⟨pair, List.mem_of_mem_filter written, (exists_readParameter_password pair).mp ⟨value, read⟩⟩
  · rintro ⟨pair, written, named, readable⟩
    obtain ⟨value, read⟩ := (exists_readParameter_password pair).mpr ⟨named, readable⟩
    have nonempty : pair ≠ [] := by
      rintro rfl
      exact not_namesPassword_nil named
    have kept : pair ∈ parts.parameters := List.mem_filter.mpr ⟨written, decide_eq_true nonempty⟩
    exact List.mem_map.mpr ⟨_, List.mem_filterMap.mpr ⟨pair, kept, read⟩, rfl⟩

/-! ## Passwords in a URL -/

theorem exists_of_isUrl {source : Text} (url : isUrl source = true) :
    ∃ scheme ∈ ["postgres".toList, "postgresql".toList], ∃ body,
      source = scheme ++ "://".toList ++ body := by
  obtain ⟨marked, member, begins⟩ := List.any_eq_true.mp url
  obtain ⟨body, rfl⟩ := List.isPrefixOf_iff_prefix.mp begins
  rcases List.mem_cons.mp member with short | long
  · refine ⟨"postgres".toList, List.mem_cons_self, body, ?_⟩
    rw [short, ← shortScheme_eq]
    rfl
  · refine ⟨"postgresql".toList, List.mem_cons_of_mem _ List.mem_cons_self, body, ?_⟩
    rw [List.mem_singleton.mp long, ← longScheme_eq]
    rfl

/-- No section of a URL begins in its scheme, so the query is that of the whole text. -/
theorem query_ofText_of_isUrl {source : Text} (url : isUrl source = true) :
    (Parts.ofText source).query = queryOf source := by
  have plain : ∀ scheme ∈ ["postgres".toList, "postgresql".toList],
      ':' ∉ scheme ∧ '?' ∉ scheme ∧ '#' ∉ scheme := by decide
  obtain ⟨scheme, member, body, rfl⟩ := exists_of_isUrl url
  obtain ⟨colon, question, number⟩ := plain scheme member
  exact Parts.query_ofText colon question number body

theorem exists_of_readUrl {source : Text} {settings : Table}
    (read : (readUrl source).result = .ok settings) :
    ∃ reading, parse source = .ok reading ∧ settings = reading.settings := by
  unfold readUrl at read
  split at read
  · rename_i reading found
    cases read
    exact ⟨reading, found, rfl⟩
  · cases read

/-- The settings of a URL have a password exactly when its user information has a colon or a
parameter gives one. -/
theorem contains_password_parse {source : Text} (url : isUrl source = true) {reading : Reading}
    (read : parse source = .ok reading) :
    reading.settings.contains passwordName = true ↔
      (∃ userInfo, (Parts.ofText source).userInfo = some userInfo ∧ ':' ∈ userInfo) ∨
        ∃ pair ∈ (queryOf source).splitOn '&', NamesPassword pair ∧ HasReadableValue pair := by
  cases control : source.any isControl with
  | true =>
    rw [parse_of_control control] at read
    cases read
  | false =>
    rw [parse_eq control] at read
    obtain ⟨settings, found, rfl⟩ := exists_of_map_eq_ok read
    rw [Table.contains_update, Table.contains_ofList, password_mem_settings found,
      password_mem_parameters, query_ofText_of_isUrl url]

end Url

/-- A URL is left out of its report exactly when its user information has a colon or a parameter
with the name of the password has a value without bad escapes. -/
theorem describe_url_conceals_iff {source : Text} (url : isUrl source = true) {defaults : Defaults}
    {made : Report} (accepted : (describe "postgres".toList defaults source).result = .ok made) :
    "db.connection_string".toList ∉ made.attributes.entries.map Prod.fst ↔
      (∃ userInfo, (Url.Parts.ofText source).userInfo = some userInfo ∧ ':' ∈ userInfo) ∨
        ∃ pair ∈ (Url.queryOf source).splitOn '&',
          Url.NamesPassword pair ∧ Url.HasReadableValue pair := by
  have nonempty : source ≠ [] := by
    rintro rfl
    exact absurd url (by decide)
  rw [describe_postgres] at accepted
  obtain ⟨given, read, reported⟩ := connectionString_of_report nonempty accepted
  rw [readSettings, if_pos url] at read
  obtain ⟨reading, found, rfl⟩ := Url.exists_of_readUrl read
  rw [Attributes.mem_entries_connectionString, not_not, reported,
    ← Url.contains_password_parse url found]
  simp

/-- A URL with the password `100%secret`, in which the percent sign is escaped. -/
def escapedUrl : Text :=
  "postgres://db/app?password=100%25secret".toList

theorem describe_url_conceals_iff_escaped :
    isUrl escapedUrl = true ∧
      ∃ made,
        (describe "postgres".toList appDefaults escapedUrl).result = .ok made ∧
          "db.connection_string".toList ∉ made.attributes.entries.map Prod.fst := by
  have url : isUrl escapedUrl = true := by decide
  have database : ((describe "postgres".toList appDefaults escapedUrl).result.map fun made =>
      made.database) = .ok "app".toList := by decide +kernel
  obtain ⟨made, accepted, _⟩ := exists_of_map_eq_ok database
  have concealed := (describe_url_conceals_iff url accepted).mpr (Or.inr (by decide +kernel))
  exact ⟨url, made, accepted, concealed⟩

/-- The same URL, in which the percent sign stands for itself. -/
def unescapedUrl : Text :=
  "postgres://db/app?password=100%secret".toList

/-- The parameter is passed over, and the password in it is reported with the URL. -/
theorem describe_url_reveals_password :
    isUrl unescapedUrl = true ∧
      (∃ pair ∈ (Url.queryOf unescapedUrl).splitOn '&', Url.NamesPassword pair) ∧
      ((describe "postgres".toList appDefaults unescapedUrl).result.map fun made =>
          made.attributes.entries) =
        .ok [("db.system".toList, .text "postgresql".toList),
          ("db.name".toList, .text "app".toList),
          ("db.connection_string".toList, .text unescapedUrl),
          ("db.user".toList, .text "app".toList),
          ("net.transport".toList, .text "ip_tcp".toList),
          ("net.peer.name".toList, .text "db".toList),
          ("net.peer.port".toList, .integer 5432)] := by
  refine ⟨?_, ?_, ?_⟩
  · decide
  · decide +kernel
  · decide +kernel

end DataSource.Postgres
