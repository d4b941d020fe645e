import DataSource.Postgres.KeywordValue
import DataSource.Proofs.Table
import DataSource.Proofs.Text.Separators
import Mathlib.Control.Monad.Basic

/-! The keyword/value form is lossless. Reading yields tables whose names are keywords, and every
table whose names are keywords, whatever its values, is read back from its written form with its
entries in their order. -/
namespace DataSource.Postgres.KeywordValue

/-- A name that a setting can have after it was read: neither an equals sign nor a blank at one of
its ends can belong to it, and the second name of the database is never kept. -/
structure IsKeyword (name : Text) : Prop where
  nonempty : name ≠ []
  no_equals : '=' ∉ name
  first_kept : ∀ c ∈ name.head?, Text.isBlank c = false
  last_kept : ∀ c ∈ name.getLast?, Text.isBlank c = false
  not_alias : name ≠ databaseAlias

instance (name : Text) : Decidable (IsKeyword name) :=
  decidable_of_iff
    (name ≠ [] ∧ '=' ∉ name ∧ (name.head?.all fun c => !Text.isBlank c) = true ∧
      (name.getLast?.all fun c => !Text.isBlank c) = true ∧ name ≠ databaseAlias) <| by
    simp only [Option.all_eq_true, Bool.not_eq_true']
    exact ⟨fun ⟨nonempty, equals, first, last, other⟩ => ⟨nonempty, equals, first, last, other⟩,
      fun ⟨nonempty, equals, first, last, other⟩ => ⟨nonempty, equals, first, last, other⟩⟩

/-! ## Values -/

theorem unescape_cons_of_ne {c : Char} (plain : c ≠ '\\') (rest : Text) :
    unescape (c :: rest) = c :: unescape rest := by
  cases rest with
  | nil => rfl
  | cons next rest => rw [unescape, if_neg (fun both => plain both.1)]

theorem escape_cons (c : Char) (value : Text) :
    escape (c :: value) = (if c = '\\' ∨ c = '\'' then ['\\', c] else [c]) ++ escape value :=
  List.flatMap_cons

/-- Dropping backslashes undoes writing them. -/
theorem unescape_escape (value : Text) : unescape (escape value) = value := by
  induction value with
  | nil => rfl
  | cons c value ih =>
    rw [escape_cons]
    by_cases special : c = '\\' ∨ c = '\''
    · rw [if_pos special, List.cons_append, List.singleton_append, unescape,
        if_pos ⟨rfl, special⟩, ih]
    · rw [if_neg special, List.singleton_append,
        unescape_cons_of_ne (fun same => special (Or.inl same)), ih]

theorem scan_stop {stops : Char → Bool} {c : Char} (stop : stops c = true) (rest : Text) :
    scan stops (c :: rest) = ([], .stopped rest) := by
  rw [scan.eq_def]
  exact if_pos stop

/-- A backslash takes the next character in, whatever it is. -/
theorem scan_taken {stops : Char → Bool} (stays : stops '\\' = false) (c : Char) (rest : Text) :
    scan stops ('\\' :: c :: rest) =
      ('\\' :: c :: (scan stops rest).1, (scan stops rest).2) := by
  rw [scan.eq_def]
  simp [stays]

theorem scan_plain {stops : Char → Bool} {c : Char} (stays : stops c = false) (plain : c ≠ '\\')
    (rest : Text) : scan stops (c :: rest) = (c :: (scan stops rest).1, (scan stops rest).2) := by
  rw [scan.eq_def]
  simp [stays, plain]

/-- An escaped value is scanned to the quote after it: no quote of its own ends it, and no
backslash of its own takes that quote in. -/
theorem scan_escape (value rest : Text) :
    scan (· = '\'') (escape value ++ '\'' :: rest) = (escape value, .stopped rest) := by
  induction value with
  | nil => exact scan_stop (decide_eq_true rfl) rest
  | cons c value ih =>
    rw [escape_cons]
    by_cases special : c = '\\' ∨ c = '\''
    · rw [if_pos special, List.append_assoc, List.cons_append, List.singleton_append,
        scan_taken (by decide), ih]
      rfl
    · rw [if_neg special, List.append_assoc, List.singleton_append,
        scan_plain (decide_eq_false fun same => special (Or.inr same))
          (fun same => special (Or.inl same)), ih]
      rfl

theorem readValue_quoted (value rest : Text) :
    readValue ('\'' :: (escape value ++ '\'' :: rest)) = .ok (value, rest) := by
  simp [readValue, scan_escape, unescape_escape]

/-! ## Settings -/

theorem isKeyword_databaseName : IsKeyword databaseName := by decide

theorem canonicalName_of_isKeyword {name : Text} (keyword : IsKeyword name) :
    canonicalName name = name :=
  if_neg keyword.not_alias

/-- The name of a setting that was read is a keyword. -/
theorem isKeyword_of_readSetting {text rest name value : Text}
    (read : readSetting text = .ok ((name, value), rest)) : IsKeyword name := by
  unfold readSetting at read
  split at read
  · cases read
  · rename_i before after found
    have absent := (Text.cut_eq_some.mp found).2
    split at read
    · cases read
    · dsimp only at read
      split at read
      · cases read
      · rename_i nonempty
        cases read
        unfold canonicalName at nonempty ⊢
        split
        · exact isKeyword_databaseName
        · rename_i other
          rw [if_neg other] at nonempty
          exact {
            nonempty
            no_equals := fun member => absent (Text.mem_of_mem_trim member)
            first_kept := fun _ first => Text.head_trim first
            last_kept := fun _ last => Text.getLast_trim last
            not_alias := other }

theorem readSettings_nil : readSettings [] = .ok [] := by
  rw [readSettings, if_pos rfl]

theorem readSettings_of_error {text : Text} {error : Error} (nonempty : text ≠ [])
    (failed : readSetting text = .error error) : readSettings text = .error error := by
  rw [readSettings, if_neg nonempty]
  split
  · rename_i found
    rw [failed] at found
    cases found
    rfl
  · rename_i found
    rw [failed] at found
    cases found

theorem readSettings_of_ok {text rest : Text} {setting : Text × Text}
    (read : readSetting text = .ok (setting, rest)) :
    readSettings text = (readSettings rest).map (setting :: ·) := by
  have nonempty : text ≠ [] := by
    rintro rfl
    cases read
  rw [readSettings, if_neg nonempty]
  split
  · rename_i found
    rw [read] at found
    cases found
  · rename_i found
    rw [read] at found
    cases found
    cases readSettings rest <;> rfl

theorem isKeyword_of_readSettings {text : Text} {settings : List (Text × Text)}
    (read : readSettings text = .ok settings) {name : Text}
    (member : name ∈ settings.map Prod.fst) : IsKeyword name := by
  induction text using readSettings.induct generalizing settings with
  | case1 =>
    rw [readSettings_nil] at read
    cases read
    cases member
  | case2 text nonempty error failed =>
    rw [readSettings_of_error nonempty failed] at read
    cases read
  | case3 text nonempty setting rest first error failed ih =>
    rw [readSettings_of_ok first, failed] at read
    cases read
  | case4 text nonempty setting rest first more later ih =>
    rw [readSettings_of_ok first, later] at read
    cases read
    rcases List.mem_cons.mp member with rfl | elsewhere
    · exact isKeyword_of_readSetting first
    · exact ih later elsewhere

/-- A written setting is read back, and what follows it is left. -/
theorem readSetting_formatSetting {name : Text} (keyword : IsKeyword name) (value rest : Text) :
    readSetting (formatSetting (name, value) ++ rest) =
      .ok ((name, value), rest.dropWhile Text.isBlank) := by
  have cut : Text.cut '=' (formatSetting (name, value) ++ rest) =
      some (name, '\'' :: (escape value ++ '\'' :: rest)) :=
    Text.cut_eq_some.mpr ⟨by simp [formatSetting], keyword.no_equals⟩
  have quote : ('\'' :: (escape value ++ '\'' :: rest)).dropWhile Text.isBlank =
      '\'' :: (escape value ++ '\'' :: rest) :=
    List.dropWhile_cons_of_neg (by decide)
  simp only [readSetting, cut, quote, readValue_quoted,
    Text.trim_of_ends keyword.first_kept keyword.last_kept, canonicalName_of_isKeyword keyword,
    if_neg keyword.nonempty]

theorem head_formatSetting {setting : Text × Text} (keyword : IsKeyword setting.1) (rest : Text)
    {c : Char} (first : (formatSetting setting ++ rest).head? = some c) :
    Text.isBlank c = false := by
  obtain ⟨name, value⟩ := setting
  obtain ⟨head, tail, rfl⟩ := List.exists_cons_of_ne_nil keyword.nonempty
  exact keyword.first_kept c first

/-- No blank begins a text of written settings. -/
theorem head_join_formatSetting {settings : List (Text × Text)}
    (keywords : ∀ name ∈ settings.map Prod.fst, IsKeyword name) {c : Char}
    (first : (Text.join ' ' (settings.map formatSetting)).head? = some c) :
    Text.isBlank c = false := by
  cases settings with
  | nil => cases first
  | cons setting rest =>
    have keyword := keywords setting.1 List.mem_cons_self
    cases rest with
    | nil =>
      apply head_formatSetting keyword []
      simpa [Text.join] using first
    | cons next rest =>
      apply head_formatSetting keyword (' ' :: Text.join ' ' ((next :: rest).map formatSetting))
      simpa [Text.join, List.intercalate_cons_cons] using first

theorem readSettings_join {settings : List (Text × Text)}
    (keywords : ∀ name ∈ settings.map Prod.fst, IsKeyword name) :
    readSettings (Text.join ' ' (settings.map formatSetting)) = .ok settings := by
  induction settings with
  | nil => exact readSettings_nil
  | cons setting rest ih =>
    obtain ⟨name, value⟩ := setting
    have keyword := keywords name List.mem_cons_self
    have keywordsRest : ∀ other ∈ rest.map Prod.fst, IsKeyword other :=
      fun other member => keywords other (List.mem_cons_of_mem _ member)
    -- What follows the first setting: nothing, or a blank and the other settings.
    obtain ⟨tail, written, stripped⟩ : ∃ tail,
        Text.join ' ' (((name, value) :: rest).map formatSetting) =
            formatSetting (name, value) ++ tail ∧
          tail.dropWhile Text.isBlank = Text.join ' ' (rest.map formatSetting) := by
      cases rest with
      | nil => exact ⟨[], by simp [Text.join], rfl⟩
      | cons next rest =>
        refine ⟨' ' :: Text.join ' ' ((next :: rest).map formatSetting), ?_, ?_⟩
        · simp [Text.join, List.intercalate_cons_cons]
        · rw [List.dropWhile_cons_of_pos (by decide)]
          exact Text.dropWhile_of_head fun _ => head_join_formatSetting keywordsRest
    rw [written, readSettings_of_ok (readSetting_formatSetting keyword value tail), stripped,
      ih keywordsRest]
    rfl

/-! ## Connection strings -/

theorem isKeyword_of_parse {text : Text} {settings : Table} (read : parse text = .ok settings)
    {name : Text} (member : name ∈ settings.names) : IsKeyword name := by
  unfold parse at read
  cases found : readSettings (text.dropWhile Text.isBlank) with
  | error error => simp [found, Except.map] at read
  | ok assignments =>
    simp only [found, Except.map, Except.ok.injEq] at read
    subst read
    exact isKeyword_of_readSettings found (Table.mem_of_mem_names_ofList member)

theorem parse_format_of_isKeyword {settings : Table}
    (keywords : ∀ name ∈ settings.names, IsKeyword name) :
    parse (format settings) = .ok settings := by
  have unchanged : (format settings).dropWhile Text.isBlank = format settings :=
    Text.dropWhile_of_head fun _ => head_join_formatSetting keywords
  rw [parse, unchanged, format, readSettings_join keywords]
  exact congrArg Except.ok (Table.ofList_entries settings)

/-- Names that were read are keywords, and keywords are all that the written form needs: such a
table is read back with its names, its values and their order. So whatever reading yields survives
being written and read again. -/
theorem parse_format_keywords :
    (∀ text settings, parse text = .ok settings → ∀ name ∈ settings.names, IsKeyword name) ∧
      (∀ settings : Table, (∀ name ∈ settings.names, IsKeyword name) →
        parse (format settings) = .ok settings) ∧
      ∀ text settings, parse text = .ok settings → parse (format settings) = .ok settings :=
  ⟨fun _ _ read _ member => isKeyword_of_parse read member,
    fun _ keywords => parse_format_of_isKeyword keywords,
    fun _ _ read => parse_format_of_isKeyword fun _ member => isKeyword_of_parse read member⟩

/-- A text in which quotes, backslashes and blanks stand wherever they may. -/
def crowdedText : Text :=
  "dbname = 'a\\'b' x 'y=c\\ d\\\\ user=''".toList

/-- The settings of the crowded text. -/
def crowdedSettings : Table :=
  .ofList [("database".toList, "a'b".toList), ("x 'y".toList, "c\\ d\\".toList), ("user".toList, [])]

theorem parse_format_keywords_crowded :
    parse crowdedText = .ok crowdedSettings ∧
      (∀ name ∈ crowdedSettings.names, IsKeyword name) ∧
      parse (format crowdedSettings) = .ok crowdedSettings :=
  have read : parse crowdedText = .ok crowdedSettings := by decide +kernel
  have keywords := parse_format_keywords.1 crowdedText crowdedSettings read
  ⟨read, keywords, parse_format_keywords.2.1 crowdedSettings keywords⟩

end DataSource.Postgres.KeywordValue
