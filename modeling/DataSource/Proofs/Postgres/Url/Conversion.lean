import DataSource.Proofs.Postgres.KeywordValue
import DataSource.Proofs.Postgres.Peer
import DataSource.Proofs.Postgres.Url.Query

/-! Which URLs can be written in keyword/value form. Every value can be, since it is put in quotes;
but a name is written as it is, and the name of a parameter may have any character that an escape
can bring in. So the settings of a URL are read back from their written form exactly when the name
of each parameter is one that stands before an equals sign. The other settings of a URL have names
that do. -/
namespace DataSource.Postgres.Url
open KeywordValue

/-! ## Names -/

/-- A name is kept under a keyword exactly when it could stand before an equals sign: there it would
end at the first such sign and lose the blanks at its ends. -/
theorem isKeyword_canonicalName_iff {name : Text} :
    IsKeyword (canonicalName name) ↔
      name ≠ [] ∧ '=' ∉ name ∧ Text.trim Text.isBlank name = name := by
  unfold canonicalName
  split
  case isTrue aliased =>
    subst aliased
    exact iff_of_true isKeyword_databaseName (by decide)
  case isFalse other =>
    rw [Text.trim_eq_self_iff]
    constructor
    · intro keyword
      exact ⟨keyword.nonempty, keyword.no_equals, keyword.first_kept, keyword.last_kept⟩
    · rintro ⟨nonempty, no_equals, first, last⟩
      exact ⟨nonempty, no_equals, first, last, other⟩

/-- The parts in front of the query give settings of five names, and these are keywords. -/
theorem isKeyword_of_settings {parts : Parts} {settings : List (Text × Text)}
    (made : parts.settings = .ok settings) {name : Text} (member : name ∈ settings.map Prod.fst) :
    IsKeyword name := by
  have keywords : ∀ known ∈ [userName, passwordName, hostName, portName, databaseName],
      IsKeyword known := by decide
  by_contra other
  have foreign : ∀ known ∈ [userName, passwordName, hostName, portName, databaseName],
      name ≠ known := by
    rintro known listed rfl
    exact other (keywords name listed)
  rw [Parts.settings_eq] at made
  obtain ⟨credentials, user, made⟩ := exists_of_bind_eq_ok made
  obtain ⟨entries, _, made⟩ := exists_of_bind_eq_ok made
  obtain ⟨database, path, made⟩ := exists_of_bind_eq_ok made
  cases made
  rw [List.map_append, List.mem_append, List.map_append, List.mem_append] at member
  rcases member with (inUser | inHosts) | inPath
  · exact not_mem_credentials (foreign _ (by simp)) (foreign _ (by simp)) user inUser
  · exact not_mem_hostSettings (foreign _ (by simp)) (foreign _ (by simp)) entries inHosts
  · exact not_mem_readPath (foreign _ (by simp)) path inPath

/-! ## Parameters -/

/-- The name of a parameter is one that could stand before an equals sign. -/
def NamesKeyword (piece : Text) : Prop :=
  ∃ name, Text.Percent.decode .field (Text.divide '=' piece).1 = .ok name ∧
    name ≠ [] ∧ '=' ∉ name ∧ Text.trim Text.isBlank name = name

instance (piece : Text) : Decidable (NamesKeyword piece) :=
  decidable_of_iff
    ((Text.Percent.decode .field (Text.divide '=' piece).1).toOption.any fun name =>
      decide (name ≠ [] ∧ '=' ∉ name ∧ Text.trim Text.isBlank name = name)) <| by
    unfold NamesKeyword
    cases Text.Percent.decode .field (Text.divide '=' piece).1 <;> simp [Except.toOption]

theorem namesKeyword_iff_of_denotes {piece : Text} {setting : Text × Text}
    (denotes : Denotes piece setting) : NamesKeyword piece ↔ IsKeyword setting.1 := by
  obtain ⟨name, decoded, named, -⟩ := denotes
  rw [named, isKeyword_canonicalName_iff]
  constructor
  · rintro ⟨other, found, plain⟩
    obtain rfl : name = other := Except.ok.inj (decoded.symm.trans found)
    exact plain
  · intro plain
    exact ⟨name, decoded, plain⟩

/-- The settings of a URL have keywords as names exactly when the readable parameters have. -/
theorem keywords_parse_iff {source : Text} {reading : Reading}
    (read : parse source = .ok reading) :
    (∀ name ∈ reading.settings.names, IsKeyword name) ↔
      ∀ piece ∈ (Parts.ofText source).parameters, IsReadable piece → NamesKeyword piece := by
  cases control : source.any isControl with
  | true => cases (parse_of_control control).symm.trans read
  | false =>
    rw [parse_eq control] at read
    obtain ⟨settings, made, rfl⟩ := exists_of_map_eq_ok read
    constructor
    · intro keywords piece written readable
      have present := isSome_readParameter piece
      rw [decide_eq_true readable] at present
      obtain ⟨setting, found⟩ := Option.isSome_iff_exists.mp present
      refine (namesKeyword_iff_of_denotes (readParameter_eq_some.mp found)).mpr (keywords _ ?_)
      have assigned := List.mem_filterMap.mpr ⟨piece, written, found⟩
      exact Table.mem_names_update.mpr (Or.inr (List.mem_map_of_mem assigned))
    · intro keywords name member
      rcases Table.mem_names_update.mp member with before | assigned
      · exact isKeyword_of_settings made (Table.mem_of_mem_names_ofList before)
      · obtain ⟨setting, given, rfl⟩ := List.mem_map.mp assigned
        obtain ⟨piece, written, found⟩ := List.mem_filterMap.mp given
        have readable := isSome_readParameter piece
        rw [found, Option.isSome_some, eq_comm, decide_eq_true_eq] at readable
        exact (namesKeyword_iff_of_denotes (readParameter_eq_some.mp found)).mp
          (keywords piece written readable)

/-! ## Settings -/

/-- The settings of a URL are read back from their written form in keyword/value form, in their
order, exactly when each parameter that can be read has a name that could stand there. -/
theorem parse_format_readUrl_iff {source : Text} {settings : Table}
    (read : (readUrl source).result = .ok settings) :
    KeywordValue.parse (KeywordValue.format settings) = .ok settings ↔
      ∀ piece ∈ (Parts.ofText source).parameters, IsReadable piece → NamesKeyword piece := by
  obtain ⟨reading, found, rfl⟩ := exists_of_readUrl read
  rw [← keywords_parse_iff found]
  constructor
  · intro again name member
    exact isKeyword_of_parse again member
  · intro keywords
    exact parse_format_of_isKeyword keywords

/-- A URL whose parameters have quotes, blanks and backslashes wherever these do no harm, and one
bad escape in a parameter whose name would. -/
def quotedUrl : Text :=
  "postgres://o'b:p%20'%5C@[::1]:5432/o%5C'?dbname=a='%20b&x%20'y=+&%5C+z=%5C%27&%3D=%zz&k".toList

/-- The settings of that URL. -/
def quotedSettings : Table :=
  .ofList [("user".toList, "o'b".toList), ("password".toList, "p '\\".toList),
    ("host".toList, "::1".toList), ("port".toList, "5432".toList),
    ("database".toList, "a=' b".toList), ("x 'y".toList, " ".toList),
    ("\\ z".toList, "\\'".toList), ("k".toList, [])]

theorem parse_format_readUrl_iff_quoted :
    (readUrl quotedUrl).result = .ok quotedSettings ∧
      KeywordValue.parse (KeywordValue.format quotedSettings) = .ok quotedSettings := by
  have read : (readUrl quotedUrl).result = .ok quotedSettings := by decide +kernel
  exact ⟨read, (parse_format_readUrl_iff read).mpr (by decide +kernel)⟩

/-- A URL with a parameter whose name has an escaped equals sign. -/
def equalsUrl : Text :=
  "postgres://db/app?a%3Db=c".toList

/-- The settings of that URL. -/
def equalsSettings : Table :=
  .ofList [("host".toList, "db".toList), ("database".toList, "app".toList),
    ("a=b".toList, "c".toList)]

/-- The name is cut at its equals sign, and the rest of it is read as the value. -/
theorem parse_format_cuts_name :
    (readUrl equalsUrl).result = .ok equalsSettings ∧
      KeywordValue.parse (KeywordValue.format equalsSettings) =
        .ok (.ofList [("host".toList, "db".toList), ("database".toList, "app".toList),
          ("a".toList, "b='c'".toList)]) ∧
      KeywordValue.parse (KeywordValue.format equalsSettings) ≠ .ok equalsSettings := by
  refine ⟨?_, ?_, ?_⟩
  · decide +kernel
  · decide +kernel
  · decide +kernel

end DataSource.Postgres.Url
