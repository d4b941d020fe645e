import DataSource.Postgres.Settings
import DataSource.Text.Blank

/-!
The keyword/value form of a connection string: settings such as `host=db user='o\'brien'`, one
after the other. Blanks may stand around a keyword, before a value and between settings. A value
in quotes ends at the next quote, a value without quotes at the next blank; a backslash takes the
character after it into the value, whatever it is. A backslash that precedes a backslash or a
quote is then dropped, any other stays.

Reading a value takes two steps accordingly: `scan` finds its end, and `unescape` drops the
backslashes. Writing puts every value in quotes. The two directions are `parse_keyword_value` and
`format_keyword_value`.
-/
namespace DataSource.Postgres.KeywordValue

/-- Why a text is not in keyword/value form. -/
inductive Error where
  /-- A keyword is not followed by an equals sign. -/
  | missingEquals
  /-- A setting has no keyword. -/
  | emptyKeyword
  /-- The text ends in a backslash that belongs to a value without quotes. -/
  | danglingBackslash
  /-- The text ends within a quoted value. -/
  | unterminatedQuote
  deriving DecidableEq

/-- What is wrong with the text. -/
def Error.message : Error → Text
  | .missingEquals => "invalid dsn".toList
  | .emptyKeyword => "invalid dsn".toList
  | .danglingBackslash => "invalid backslash".toList
  | .unterminatedQuote => "unterminated quoted string in connection info string".toList

/-- How a value that is being scanned comes to its end. -/
inductive Ending where
  /-- At a character that ends it; the text after that character is left. -/
  | stopped (rest : Text)
  /-- At the end of the text. -/
  | ended
  /-- At the end of the text, in a backslash that takes nothing in. -/
  | dangling
  deriving DecidableEq

/-- Scans a value up to the first character that ends it and that no backslash takes in. -/
def scan (stops : Char → Bool) : Text → Text × Ending
  | [] => ([], .ended)
  | c :: rest =>
    if stops c then ([], .stopped rest)
    else if c = '\\' then
      match rest with
      | [] => ([c], .dangling)
      | taken :: rest =>
        let scanned := scan stops rest
        (c :: taken :: scanned.1, scanned.2)
    else
      let scanned := scan stops rest
      (c :: scanned.1, scanned.2)

/-- Drops each backslash that precedes a backslash or a quote (`_unescape_value`). -/
def unescape : Text → Text
  | [] => []
  | [c] => [c]
  | c :: next :: rest =>
    if c = '\\' ∧ (next = '\\' ∨ next = '\'') then next :: unescape rest
    else c :: unescape (next :: rest)

/-- Puts a backslash before each backslash and each quote. -/
def escape (value : Text) : Text :=
  value.flatMap fun c => if c = '\\' ∨ c = '\'' then ['\\', c] else [c]

/-- Reads a value that begins the text, and drops the character that ends it: with quotes as
`_read_quoted`, without them as `_read_unquoted`. -/
def readValue (text : Text) : Except Error (Text × Text) :=
  match text with
  | '\'' :: quoted =>
    match scan (· = '\'') quoted with
    | (raw, .stopped rest) => .ok (unescape raw, rest)
    | (_, _) => .error .unterminatedQuote
  | _ =>
    match scan Text.isBlank text with
    | (raw, .stopped rest) => .ok (unescape raw, rest)
    | (raw, .ended) => .ok (unescape raw, [])
    | (_, .dangling) => .error .danglingBackslash

/-- Reads the setting that begins the text, and drops the blanks after it: one turn of the loop in
`parse_keyword_value`. The value is looked at before the keyword is. -/
def readSetting (text : Text) : Except Error ((Text × Text) × Text) :=
  match Text.cut '=' text with
  | none => .error .missingEquals
  | some (before, after) =>
    match readValue (after.dropWhile Text.isBlank) with
    | .error error => .error error
    | .ok (value, rest) =>
      let keyword := canonicalName (Text.trim Text.isBlank before)
      if keyword = [] then .error .emptyKeyword
      else .ok ((keyword, value), rest.dropWhile Text.isBlank)

theorem length_lt_of_scan {stops : Char → Bool} {text rest : Text}
    (scanned : (scan stops text).2 = .stopped rest) : rest.length < text.length := by
  fun_induction scan stops text with
  | case1 => cases scanned
  | case2 => cases scanned; exact Nat.lt_succ_self _
  | case3 => cases scanned
  | case4 taken more stays parts ih => exact Nat.lt_succ_of_lt (Nat.lt_succ_of_lt (ih scanned))
  | case5 c more stays plain parts ih => exact Nat.lt_succ_of_lt (ih scanned)

theorem length_le_of_readValue {text value rest : Text}
    (read : readValue text = .ok (value, rest)) : rest.length ≤ text.length := by
  unfold readValue at read
  split at read
  · split at read
    · rename_i scanned
      have shorter := length_lt_of_scan (congrArg Prod.snd scanned)
      cases read
      exact Nat.le_succ_of_le (Nat.le_of_lt shorter)
    · cases read
  · split at read
    · rename_i scanned
      have shorter := length_lt_of_scan (congrArg Prod.snd scanned)
      cases read
      exact Nat.le_of_lt shorter
    · cases read
      exact Nat.zero_le _
    · cases read

theorem length_lt_of_readSetting {text rest : Text} {setting : Text × Text}
    (read : readSetting text = .ok (setting, rest)) : rest.length < text.length := by
  unfold readSetting at read
  split at read
  · cases read
  · rename_i before after found
    split at read
    · cases read
    · rename_i value left valueRead
      have whole := congrArg List.length (Text.cut_eq_some.1 found).1
      have dropped := (List.dropWhile_sublist Text.isBlank (l := after)).length_le
      have valueEnd := length_le_of_readValue valueRead
      have trailing := (List.dropWhile_sublist Text.isBlank (l := left)).length_le
      simp only [List.length_append, List.length_cons] at whole
      dsimp only at read
      split at read
      · cases read
      · cases read
        omega

/-- Reads the settings of a text that no blank begins, from the first to the last. -/
def readSettings (text : Text) : Except Error (List (Text × Text)) :=
  if text = [] then .ok []
  else
    match _ : readSetting text with
    | .error error => .error error
    | .ok (setting, rest) =>
      match readSettings rest with
      | .error error => .error error
      | .ok more => .ok (setting :: more)
termination_by text.length
decreasing_by exact length_lt_of_readSetting ‹_›

/-- Reads a connection string (`parse_keyword_value`). A keyword that is given again has its last
value. -/
def parse (text : Text) : Except Error Table :=
  (readSettings (text.dropWhile Text.isBlank)).map .ofList

/-- Writes one setting, its value in quotes. -/
def formatSetting (setting : Text × Text) : Text :=
  setting.1 ++ '=' :: '\'' :: escape setting.2 ++ ['\'']

/-- Writes settings as a connection string (`format_keyword_value`). -/
def format (settings : Table) : Text :=
  Text.join ' ' (settings.entries.map formatSetting)

end DataSource.Postgres.KeywordValue
