import DataSource.Proofs.Postgres.Concatenation

/-! The keyword/value form can be read in one pass, by a scanner that takes one character after the
other and decodes a value while it reads it. Reading finds the end of a value first and drops its
backslashes afterwards; both steps pair every backslash with the same character, so the outcome is
the same, down to which of several errors is found. -/
namespace DataSource.Postgres.KeywordValue

/-! ## The scanner -/

/-- Where in a text a scanner stands. -/
inductive Place where
  /-- Between settings. -/
  | between
  /-- In a keyword, of which some characters have been read. -/
  | keyword (read : Text)
  /-- Behind the equals sign, where the value has not begun. -/
  | equals (keyword : Text)
  /-- In a value, of which some characters have been decoded. -/
  | value (keyword decoded : Text) (quoted : Bool)
  /-- In a value, behind a backslash that takes in what follows. -/
  | backslash (keyword decoded : Text) (quoted : Bool)

/-- A scanner has stored some settings and stands somewhere in the text. -/
structure Scanner where
  /-- The settings that have come to their end. -/
  settings : Table
  /-- Where the scanner stands. -/
  place : Place

/-- The characters that end a value with quotes and a value without. -/
def stops : Bool → Char → Bool
  | true => (· = '\'')
  | false => Text.isBlank

/-- What a backslash and the character after it stand for. -/
def decodePair (c : Char) : Text :=
  if c = '\\' ∨ c = '\'' then [c] else ['\\', c]

theorem unescape_taken (c : Char) (raw : Text) :
    unescape ('\\' :: c :: raw) = decodePair c ++ unescape raw := by
  unfold decodePair
  by_cases special : c = '\\' ∨ c = '\''
  · rw [unescape, if_pos ⟨rfl, special⟩, if_pos special, List.singleton_append]
  · rw [unescape, if_neg fun both => special both.2, if_neg special,
      unescape_cons_of_ne fun same => special (Or.inl same), List.cons_append,
      List.singleton_append]

/-- Stores a setting. -/
def store (settings : Table) (keyword value : Text) : Except Error Table :=
  if keyword = [] then .error .emptyKeyword
  else .ok (settings.insert (canonicalName keyword) value)

theorem canonicalName_eq_nil {name : Text} : canonicalName name = [] ↔ name = [] := by
  unfold canonicalName
  split
  · rename_i renamed
    rw [renamed]
    decide
  · exact Iff.rfl

namespace Scanner

/-- The place behind one more character of a keyword. -/
def afterKeyword (read : Text) (c : Char) : Place :=
  if c = '=' then .equals (Text.trim Text.isBlank read) else .keyword (read ++ [c])

/-- The place behind one more character of a value that does not end it. -/
def afterValue (keyword decoded : Text) (quoted : Bool) (c : Char) : Place :=
  if c = '\\' then .backslash keyword decoded quoted
  else .value keyword (decoded ++ [c]) quoted

/-- Takes one character. -/
def step (scanner : Scanner) (c : Char) : Except Error Scanner :=
  match scanner.place with
  | .between =>
    if Text.isBlank c then .ok scanner
    else .ok { scanner with place := afterKeyword [] c }
  | .keyword read => .ok { scanner with place := afterKeyword read c }
  | .equals keyword =>
    if Text.isBlank c then .ok scanner
    else if c = '\'' then .ok { scanner with place := .value keyword [] true }
    else .ok { scanner with place := afterValue keyword [] false c }
  | .value keyword decoded quoted =>
    if stops quoted c then
      (store scanner.settings keyword decoded).map fun settings => ⟨settings, .between⟩
    else .ok { scanner with place := afterValue keyword decoded quoted c }
  | .backslash keyword decoded quoted =>
    .ok { scanner with place := .value keyword (decoded ++ decodePair c) quoted }

/-- Takes the end of the text. -/
def finish (scanner : Scanner) : Except Error Table :=
  match scanner.place with
  | .between => .ok scanner.settings
  | .keyword _ => .error .missingEquals
  | .equals keyword => store scanner.settings keyword []
  | .value keyword decoded quoted =>
    if quoted then .error .unterminatedQuote else store scanner.settings keyword decoded
  | .backslash _ _ quoted =>
    .error (if quoted then .unterminatedQuote else .danglingBackslash)

/-- Takes a text, character by character, and its end. -/
def run (scanner : Scanner) (text : Text) : Except Error Table :=
  text.foldlM step scanner >>= finish

/-- The scanner that has not taken anything. -/
def start : Scanner := ⟨.empty, .between⟩

variable (settings : Table) {scanner next : Scanner} {c : Char}

theorem run_nil (scanner : Scanner) : scanner.run [] = scanner.finish := rfl

theorem run_cons (scanner : Scanner) (c : Char) (rest : Text) :
    scanner.run (c :: rest) = scanner.step c >>= (·.run rest) := by
  simp only [run, List.foldlM_cons, bind_assoc]

theorem run_cons_of_ok (taken : scanner.step c = .ok next) (rest : Text) :
    scanner.run (c :: rest) = next.run rest := by
  rw [run_cons, taken]
  rfl

/-! ## Values -/

/-- Goes on from the end of a value. -/
def conclude (settings : Table) (keyword value : Text) (quoted : Bool) :
    Ending → Except Error Table
  | .stopped rest => store settings keyword value >>= fun settings => run ⟨settings, .between⟩ rest
  | .ended => if quoted then .error .unterminatedQuote else store settings keyword value
  | .dangling => .error (if quoted then .unterminatedQuote else .danglingBackslash)

/-- A value is decoded while it is scanned. By induction along the scan: what was decoded so far
stands before what the characters still to be scanned stand for. -/
theorem run_value (keyword decoded : Text) (quoted : Bool) (text : Text) :
    run ⟨settings, .value keyword decoded quoted⟩ text =
      conclude settings keyword (decoded ++ unescape (scan (stops quoted) text).1) quoted
        (scan (stops quoted) text).2 := by
  fun_induction scan (stops quoted) text generalizing decoded with
  | case1 =>
    rw [run_nil, unescape, List.append_nil]
    rfl
  | case2 c rest stop =>
    simp only [run_cons, step, if_pos stop, conclude, unescape, List.append_nil]
    cases store settings keyword decoded <;> rfl
  | case3 stays =>
    have taken : step ⟨settings, .value keyword decoded quoted⟩ '\\' =
        .ok ⟨settings, .backslash keyword decoded quoted⟩ := if_neg stays
    rw [run_cons_of_ok taken]
    rfl
  | case4 c rest scanned stays ih =>
    have first : step ⟨settings, .value keyword decoded quoted⟩ '\\' =
        .ok ⟨settings, .backslash keyword decoded quoted⟩ := if_neg stays
    have second : step ⟨settings, .backslash keyword decoded quoted⟩ c =
        .ok ⟨settings, .value keyword (decoded ++ decodePair c) quoted⟩ := rfl
    rw [run_cons_of_ok first, run_cons_of_ok second, ih, unescape_taken, List.append_assoc]
  | case5 c rest stays plain scanned ih =>
    have taken : step ⟨settings, .value keyword decoded quoted⟩ c =
        .ok ⟨settings, .value keyword (decoded ++ [c]) quoted⟩ := by
      simp only [step, if_neg stays, afterValue, if_neg plain]
    rw [run_cons_of_ok taken, ih, unescape_cons_of_ne plain, List.append_assoc,
      List.singleton_append]

/-- Goes on from a value that was read. -/
def proceed (settings : Table) (keyword : Text) : Text × Text → Except Error Table
  | (value, rest) =>
    store settings keyword value >>= fun settings => run ⟨settings, .between⟩ rest

theorem run_quoted (keyword text : Text) :
    run ⟨settings, .value keyword [] true⟩ text =
      readValue ('\'' :: text) >>= proceed settings keyword := by
  rw [run_value, readValue]
  have same : stops true = fun c => decide (c = '\'') := rfl
  rw [same, List.nil_append]
  cases scan (fun c => decide (c = '\'')) text with
  | mk raw ending => cases ending <;> rfl

theorem run_unquoted {first : Char} (unquoted : first ≠ '\'') (keyword later : Text) :
    run ⟨settings, .value keyword [] false⟩ (first :: later) =
      readValue (first :: later) >>= proceed settings keyword := by
  rw [run_value, readValue_unquoted unquoted]
  have same : stops false = Text.isBlank := rfl
  rw [same, List.nil_append]
  cases scan Text.isBlank (first :: later) with
  | mk raw ending =>
    cases ending with
    | stopped rest => rfl
    | ended => exact (bind_pure (store settings keyword (unescape raw))).symm
    | dangling => rfl

/-- Behind the equals sign, blanks are skipped and a value is read. -/
theorem run_equals (keyword text : Text) :
    run ⟨settings, .equals keyword⟩ text =
      readValue (text.dropWhile Text.isBlank) >>= proceed settings keyword := by
  induction text with
  | nil => exact (bind_pure (store settings keyword [])).symm
  | cons c rest ih =>
    by_cases blank : Text.isBlank c = true
    · have skipped : step ⟨settings, .equals keyword⟩ c = .ok ⟨settings, .equals keyword⟩ :=
        if_pos blank
      rw [run_cons_of_ok skipped, List.dropWhile_cons_of_pos blank, ih]
    · rw [List.dropWhile_cons_of_neg blank]
      by_cases quote : c = '\''
      · subst quote
        have opened : step ⟨settings, .equals keyword⟩ '\'' =
            .ok ⟨settings, .value keyword [] true⟩ := rfl
        rw [run_cons_of_ok opened, run_quoted]
      · have begun : step ⟨settings, .equals keyword⟩ c =
            step ⟨settings, .value keyword [] false⟩ c := by
          simp [step, stops, blank, quote]
        rw [run_cons, begun, ← run_cons, run_unquoted settings quote]

/-! ## Settings -/

theorem run_keyword (read text : Text) :
    run ⟨settings, .keyword read⟩ text =
      match Text.cut '=' text with
      | none => .error .missingEquals
      | some (before, after) =>
        run ⟨settings, .equals (Text.trim Text.isBlank (read ++ before))⟩ after := by
  induction text generalizing read with
  | nil => rfl
  | cons c rest ih =>
    rw [Text.cut]
    by_cases equals : c = '='
    · have ended : step ⟨settings, .keyword read⟩ c =
          .ok ⟨settings, .equals (Text.trim Text.isBlank read)⟩ := by
        simp only [step, afterKeyword, if_pos equals]
      rw [run_cons_of_ok ended, if_pos equals]
      simp only [List.append_nil]
    · have longer : step ⟨settings, .keyword read⟩ c =
          .ok ⟨settings, .keyword (read ++ [c])⟩ := by
        simp only [step, afterKeyword, if_neg equals]
      rw [run_cons_of_ok longer, if_neg equals, ih]
      cases Text.cut '=' rest with
      | none => rfl
      | some parts => simp only [List.append_assoc, List.singleton_append]

/-- Blanks between settings are skipped. -/
theorem run_between (text : Text) :
    run ⟨settings, .between⟩ text = run ⟨settings, .between⟩ (text.dropWhile Text.isBlank) := by
  induction text with
  | nil => rfl
  | cons c rest ih =>
    by_cases blank : Text.isBlank c = true
    · have skipped : step ⟨settings, .between⟩ c = .ok ⟨settings, .between⟩ := if_pos blank
      rw [run_cons_of_ok skipped, List.dropWhile_cons_of_pos blank, ih]
    · rw [List.dropWhile_cons_of_neg blank]

/-- A keyword is looked at when its value has been read, by the scanner as by the reader. -/
theorem run_setting {text : Text} (nonempty : text ≠ [])
    (stripped : text.dropWhile Text.isBlank = text) :
    run ⟨settings, .between⟩ text =
      readSetting text >>= fun (setting, rest) =>
        run ⟨settings.insert setting.1 setting.2, .between⟩ rest := by
  obtain ⟨first, later, rfl⟩ := List.exists_cons_of_ne_nil nonempty
  have unblank : ¬Text.isBlank first = true := by
    intro blank
    rw [List.dropWhile_cons_of_pos blank] at stripped
    have shorter := (List.dropWhile_sublist Text.isBlank (l := later)).length_le
    rw [stripped, List.length_cons] at shorter
    omega
  have begun : step ⟨settings, .between⟩ first = step ⟨settings, .keyword []⟩ first :=
    if_neg unblank
  rw [run_cons, begun, ← run_cons, run_keyword, readSetting]
  cases Text.cut '=' (first :: later) with
  | none => rfl
  | some parts =>
    obtain ⟨before, after⟩ := parts
    simp only [run_equals, List.nil_append]
    cases readValue (after.dropWhile Text.isBlank) with
    | error error => rfl
    | ok found =>
      obtain ⟨value, rest⟩ := found
      show store settings (Text.trim Text.isBlank before) value >>= _ = _
      simp only [store, canonicalName_eq_nil]
      split
      · rfl
      · exact run_between _ rest

/-- By induction on the settings of the text: what the scanner stores is assigned in their order. -/
theorem run_settings {text : Text} (stripped : text.dropWhile Text.isBlank = text) :
    run ⟨settings, .between⟩ text = (readSettings text).map settings.update := by
  induction text using readSettings.induct generalizing settings with
  | case1 =>
    rw [readSettings_nil]
    rfl
  | case2 text nonempty error failed =>
    rw [run_setting settings nonempty stripped, failed, readSettings_of_error nonempty failed]
    rfl
  | case3 text nonempty setting rest first error failed ih =>
    rw [run_setting settings nonempty stripped, readSettings_of_ok first, first, failed]
    exact (ih _ (stripped_of_readSetting first)).trans (by rw [failed]; rfl)
  | case4 text nonempty setting rest first more later ih =>
    rw [run_setting settings nonempty stripped, readSettings_of_ok first, first, later]
    exact (ih _ (stripped_of_readSetting first)).trans (by rw [later]; rfl)

end Scanner

/-- Reading a text is scanning it: the same settings in the same order, or the same error. -/
theorem parse_eq_run (text : Text) : parse text = Scanner.start.run text := by
  have stripped := List.dropWhile_idempotent Text.isBlank text
  rw [parse, Scanner.start, Scanner.run_between, Scanner.run_settings .empty stripped]
  rfl

end DataSource.Postgres.KeywordValue
