import DataSource.Proofs.Postgres.KeywordValue
import DataSource.Proofs.Trace

/-! A connection string in keyword/value form may be continued. Nothing separates settings but that
a value has come to its end, so what is read of a text is read of its continuation too, as long as a
blank stands between the two and the text does not end where a value was still to come. -/
namespace DataSource.Postgres.KeywordValue

/-! ## Values -/

/-- A value that ends within a text ends there whatever follows. -/
theorem scan_append_of_stopped {stops : Char → Bool} {text rest : Text}
    (stopped : (scan stops text).2 = .stopped rest) (more : Text) :
    scan stops (text ++ more) = ((scan stops text).1, .stopped (rest ++ more)) := by
  fun_induction scan stops text with
  | case1 => cases stopped
  | case2 c left stop =>
    cases stopped
    exact scan_stop stop _
  | case3 => cases stopped
  | case4 taken left parts stays ih =>
    rw [List.cons_append, List.cons_append, scan_taken (Bool.eq_false_iff.mpr stays), ih stopped]
  | case5 c left stays plain parts ih =>
    rw [List.cons_append, scan_plain (Bool.eq_false_iff.mpr stays) plain, ih stopped]

/-- A value that ends with its text ends at a stop that follows it. -/
theorem scan_append_of_ended {stops : Char → Bool} {text : Text}
    (ended : (scan stops text).2 = .ended) {stop : Char} (stopping : stops stop = true)
    (more : Text) :
    scan stops (text ++ stop :: more) = ((scan stops text).1, .stopped more) := by
  fun_induction scan stops text with
  | case1 => exact scan_stop stopping more
  | case2 => cases ended
  | case3 => cases ended
  | case4 taken left parts stays ih =>
    rw [List.cons_append, List.cons_append, scan_taken (Bool.eq_false_iff.mpr stays), ih ended]
  | case5 c left stays plain parts ih =>
    rw [List.cons_append, scan_plain (Bool.eq_false_iff.mpr stays) plain, ih ended]

/-- A value without quotes ends at a blank or with the text. -/
theorem readValue_unquoted {first : Char} (unquoted : first ≠ '\'') (later : Text) :
    readValue (first :: later) =
      match scan Text.isBlank (first :: later) with
      | (raw, .stopped rest) => .ok (unescape raw, rest)
      | (raw, .ended) => .ok (unescape raw, [])
      | (_, .dangling) => .error .danglingBackslash := by
  unfold readValue
  split
  · rename_i same
    exact absurd (List.cons.inj same).1 unquoted
  · rfl

/-- A value that is there is read alike when a blank follows, and so is what follows the blanks
after it. -/
theorem readValue_append {text value rest : Text} (given : text ≠ [])
    (read : readValue text = .ok (value, rest)) (more : Text) :
    ∃ left, readValue (text ++ ' ' :: more) = .ok (value, left) ∧
      left.dropWhile Text.isBlank = (rest ++ ' ' :: more).dropWhile Text.isBlank := by
  obtain ⟨first, later, rfl⟩ := List.exists_cons_of_ne_nil given
  by_cases quote : first = '\''
  · subst quote
    simp only [readValue, List.cons_append] at read ⊢
    split at read
    · rename_i raw left scanned
      cases read
      have found := scan_append_of_stopped (congrArg Prod.snd scanned) (' ' :: more)
      rw [found, scanned]
      exact ⟨_, rfl, rfl⟩
    · cases read
  · rw [readValue_unquoted quote] at read
    rw [List.cons_append, readValue_unquoted quote]
    split at read
    · rename_i raw left scanned
      cases read
      have found := scan_append_of_stopped (congrArg Prod.snd scanned) (' ' :: more)
      rw [← List.cons_append, found, scanned]
      exact ⟨_, rfl, rfl⟩
    · rename_i raw scanned
      cases read
      have blank : Text.isBlank ' ' = true := rfl
      have found := scan_append_of_ended (congrArg Prod.snd scanned) blank more
      rw [← List.cons_append, found, scanned]
      exact ⟨more, rfl, rfl⟩
    · cases read

/-! ## Settings -/

/-- Whether nothing but blanks follows the equals sign of the setting that begins the text. -/
def lacksValue (text : Text) : Bool :=
  match Text.cut '=' text with
  | some (_, after) => after.all Text.isBlank
  | none => false

/-- Whether the last setting of a text lacks its value: there is neither a quote nor any other
character for it. -/
def endsWithoutValue (text : Text) : Bool :=
  match _ : readSetting text with
  | .error _ => false
  | .ok (_, rest) => if rest = [] then lacksValue text else endsWithoutValue rest
termination_by text.length
decreasing_by exact length_lt_of_readSetting ‹_›

theorem endsWithoutValue_of_ok {text rest : Text} {setting : Text × Text}
    (read : readSetting text = .ok (setting, rest)) :
    endsWithoutValue text = if rest = [] then lacksValue text else endsWithoutValue rest := by
  rw [endsWithoutValue]
  split
  · rename_i failed
    rw [read] at failed
    cases failed
  · rename_i found
    rw [read] at found
    cases found
    rfl

theorem endsWithoutValue_nil : endsWithoutValue [] = false := by
  rw [endsWithoutValue]
  split
  · rfl
  · rename_i found
    cases found

/-- Only the last setting can lack its value: an earlier one would take the next for it. -/
theorem rest_eq_nil_of_lacksValue {text rest : Text} {setting : Text × Text}
    (read : readSetting text = .ok (setting, rest)) (lacks : lacksValue text = true) :
    rest = [] := by
  unfold readSetting at read
  unfold lacksValue at lacks
  split at read
  · cases read
  · rename_i before after found
    rw [found] at lacks
    have stripped : after.dropWhile Text.isBlank = [] :=
      List.dropWhile_eq_nil_iff.mpr (List.all_eq_true.mp lacks)
    have empty : readValue [] = .ok ([], []) := rfl
    rw [stripped, empty] at read
    dsimp only at read
    split at read
    · cases read
    · cases read
      rfl

/-- A setting with a value is read alike when a blank and more text follow. -/
theorem readSetting_append {text rest : Text} {setting : Text × Text}
    (read : readSetting text = .ok (setting, rest)) (valued : lacksValue text = false)
    (more : Text) :
    readSetting (text ++ ' ' :: more) =
      .ok (setting, (rest ++ ' ' :: more).dropWhile Text.isBlank) := by
  unfold readSetting at read
  unfold lacksValue at valued
  split at read
  · cases read
  · rename_i before after found
    rw [found] at valued
    have given : after.dropWhile Text.isBlank ≠ [] := by
      intro stripped
      have blank := List.all_eq_true.mpr (List.dropWhile_eq_nil_iff.mp stripped)
      dsimp only at valued
      rw [blank] at valued
      cases valued
    have cut : Text.cut '=' (text ++ ' ' :: more) = some (before, after ++ ' ' :: more) := by
      obtain ⟨whole, absent⟩ := Text.cut_eq_some.mp found
      exact Text.cut_eq_some.mpr ⟨by rw [whole]; simp, absent⟩
    have kept : (after ++ ' ' :: more).dropWhile Text.isBlank =
        after.dropWhile Text.isBlank ++ ' ' :: more := by
      rw [List.dropWhile_append, if_neg (by simpa using given)]
    split at read
    · cases read
    · rename_i value left valueRead
      obtain ⟨beyond, valueFound, same⟩ := readValue_append given valueRead more
      dsimp only at read
      split at read
      · cases read
      · rename_i nonempty
        cases read
        rw [readSetting, cut]
        simp only [kept, valueFound, if_neg nonempty, same, Text.dropWhile_dropWhile_append]

theorem stripped_of_readSetting {text rest : Text} {setting : Text × Text}
    (read : readSetting text = .ok (setting, rest)) : rest.dropWhile Text.isBlank = rest := by
  unfold readSetting at read
  split at read
  · cases read
  · split at read
    · cases read
    · dsimp only at read
      split at read
      · cases read
      · cases read
        exact List.dropWhile_idempotent Text.isBlank _

/-- The settings of a text that no blank begins are followed by those of its continuation. -/
theorem readSettings_append_of_stripped {text : Text} {settings : List (Text × Text)}
    (stripped : text.dropWhile Text.isBlank = text) (read : readSettings text = .ok settings)
    (valued : endsWithoutValue text = false) (more : Text) :
    readSettings ((text ++ ' ' :: more).dropWhile Text.isBlank) =
      (readSettings (more.dropWhile Text.isBlank)).map (settings ++ ·) := by
  induction text using readSettings.induct generalizing settings with
  | case1 =>
    rw [readSettings_nil] at read
    cases read
    rw [List.nil_append, List.dropWhile_cons_of_pos (by decide)]
    cases readSettings (more.dropWhile Text.isBlank) <;> rfl
  | case2 text nonempty error failed =>
    rw [readSettings_of_error nonempty failed] at read
    cases read
  | case3 text nonempty setting rest first error failed ih =>
    rw [readSettings_of_ok first, failed] at read
    cases read
  | case4 text nonempty setting rest first later found ih =>
    rw [readSettings_of_ok first, found] at read
    cases read
    rw [endsWithoutValue_of_ok first] at valued
    have here : lacksValue text = false := by
      rw [Bool.eq_false_iff]
      intro lacks
      rw [if_pos (rest_eq_nil_of_lacksValue first lacks), lacks] at valued
      cases valued
    have elsewhere : endsWithoutValue rest = false := by
      split at valued
      · rename_i last
        rw [last, endsWithoutValue_nil]
      · exact valued
    have unchanged : (text ++ ' ' :: more).dropWhile Text.isBlank = text ++ ' ' :: more := by
      rw [List.dropWhile_append, stripped, if_neg (by simpa using nonempty)]
    rw [unchanged, readSettings_of_ok (readSetting_append first here more),
      ih (stripped_of_readSetting first) found elsewhere]
    cases readSettings (more.dropWhile Text.isBlank) <;> rfl

/-- After the settings of a text come those of its continuation. -/
theorem readSettings_append {text : Text} {settings : List (Text × Text)}
    (read : readSettings (text.dropWhile Text.isBlank) = .ok settings)
    (valued : endsWithoutValue (text.dropWhile Text.isBlank) = false) (more : Text) :
    readSettings ((text ++ ' ' :: more).dropWhile Text.isBlank) =
      (readSettings (more.dropWhile Text.isBlank)).map (settings ++ ·) := by
  rw [← Text.dropWhile_dropWhile_append]
  exact readSettings_append_of_stripped (List.dropWhile_idempotent Text.isBlank text) read valued more

/-! ## Connection strings -/

/-- A connection string whose last setting does not lack its value may be continued after a blank.
The whole is refused, with the same error, when its continuation is; otherwise the settings of the
continuation are assigned to those of the first text. -/
theorem parse_append {text : Text} {settings : Table} (read : parse text = .ok settings)
    (valued : endsWithoutValue (text.dropWhile Text.isBlank) = false) (more : Text) :
    parse (text ++ ' ' :: more) =
      (parse more).map fun added => settings.update added.entries := by
  obtain ⟨assignments, found, rfl⟩ := exists_of_map_eq_ok read
  rw [parse, parse, readSettings_append found valued more]
  cases readSettings (more.dropWhile Text.isBlank) with
  | error error => rfl
  | ok later =>
    have whole : Table.ofList (assignments ++ later) =
        (Table.ofList assignments).update (Table.ofList later).entries := by
      rw [Table.ofList_append, Table.update_entries_ofList]
    exact congrArg Except.ok whole

/-- Settings for two names that the crowded text has too, and for one that it has not. -/
def continuingText : Text :=
  "user= \\t\\' dbname='=' port = 1".toList

theorem parse_append_crowded :
    parse crowdedText = .ok crowdedSettings ∧
      endsWithoutValue (crowdedText.dropWhile Text.isBlank) = false ∧
      parse (crowdedText ++ ' ' :: continuingText) =
        .ok (.ofList [("database".toList, "=".toList), ("x 'y".toList, "c\\ d\\".toList),
          ("user".toList, "\\t'".toList), ("port".toList, "1".toList)]) :=
  have read : parse crowdedText = .ok crowdedSettings := by decide +kernel
  have valued : endsWithoutValue (crowdedText.dropWhile Text.isBlank) = false := by decide +kernel
  ⟨read, valued, (parse_append read valued continuingText).trans (by decide +kernel)⟩

end DataSource.Postgres.KeywordValue
