import DataSource.Dialect
import DataSource.Proofs.Postgres.Concatenation
import DataSource.Proofs.Postgres.Report
import DataSource.Proofs.Postgres.Url.Parts
import DataSource.Proofs.Text.Percent

/-! The password of a PostgreSQL connection string is not observed. In either form the text around
it is read in the same way for all passwords, so the settings are the same but for one value, and
the report is made without that value. A connection string is reported only when its settings have
no password; a parameter of a URL that is skipped leaves none behind. -/
namespace DataSource.Postgres

theorem describe_postgres (defaults : Defaults) (source : Text) :
    describe "postgres".toList defaults source = report defaults source := by
  have dialect : Dialect.ofDriver? "postgres".toList = some .postgres := by decide
  rw [describe, dialect]
  rfl

/-- Two texts that are read alike but for the password make the same report, in which neither of
them is told. -/
theorem describe_of_password {left right password other : Text} {around : Traced Surroundings}
    (leftNonempty : left ≠ []) (rightNonempty : right ≠ [])
    (leftRead : readSettings left = (fun settings => settings.withPassword password) <$> around)
    (rightRead : readSettings right = (fun settings => settings.withPassword other) <$> around)
    (defaults : Defaults) :
    describe "postgres".toList defaults left = describe "postgres".toList defaults right ∧
      ∀ made, (describe "postgres".toList defaults left).result = .ok made →
        "db.connection_string".toList ∉ made.attributes.entries.map Prod.fst := by
  rw [describe_postgres, describe_postgres]
  constructor
  · rw [report_of_password leftNonempty leftRead, report_of_password rightNonempty rightRead]
  · intro made reached
    rw [Attributes.mem_entries_connectionString, not_not]
    exact connectionString_of_password leftNonempty leftRead reached

/-- Defaults of a user on a machine that is not asked for directories. -/
def appDefaults : Defaults :=
  ⟨[], false, ⟨fun _ => .ok false, .ok (some "app".toList)⟩⟩

/-! ## Keyword/value form -/

namespace KeywordValue

/-- A connection string in which a quoted password stands between two texts. -/
def withPassword (front password back : Text) : Text :=
  front ++ " password='".toList ++ escape password ++ "' ".toList ++ back

theorem withPassword_eq (front password back : Text) :
    withPassword front password back =
      front ++ ' ' :: (formatSetting (passwordName, password) ++ ' ' :: back) := by
  have opened : " password='".toList = ' ' :: passwordName ++ ['=', '\''] := by decide
  have closed : "' ".toList = ['\'', ' '] := by decide
  rw [withPassword, opened, closed, formatSetting]
  simp only [List.append_assoc, List.cons_append, List.nil_append]

theorem isKeyword_passwordName : IsKeyword passwordName := by decide

/-- The text before the password and the text after it are read for themselves. -/
theorem readSettings_withPassword {front : Text} {before : List (Text × Text)}
    (accepted : readSettings (front.dropWhile Text.isBlank) = .ok before)
    (valued : endsWithoutValue (front.dropWhile Text.isBlank) = false) (password back : Text) :
    readSettings ((withPassword front password back).dropWhile Text.isBlank) =
      (readSettings (back.dropWhile Text.isBlank)).map fun after =>
        before ++ (passwordName, password) :: after := by
  have unblank : (formatSetting (passwordName, password) ++ ' ' :: back).dropWhile Text.isBlank =
      formatSetting (passwordName, password) ++ ' ' :: back :=
    Text.dropWhile_of_head fun _ => head_formatSetting isKeyword_passwordName _
  have secret := readSetting_formatSetting isKeyword_passwordName password (' ' :: back)
  rw [List.dropWhile_cons_of_pos (by decide)] at secret
  rw [withPassword_eq, readSettings_append accepted valued, unblank, readSettings_of_ok secret]
  cases readSettings (back.dropWhile Text.isBlank) <;> rfl

/-- The scheme of a URL has no blank, so what follows one makes no URL of a text. -/
theorem isUrl_withPassword (front password back : Text) :
    isUrl (withPassword front password back) = isUrl front := by
  have plain : ∀ scheme ∈ urlSchemes, ' ' ∉ scheme := by decide
  rw [withPassword_eq, isUrl, isUrl]
  apply Bool.eq_iff_iff.mpr
  simp only [List.any_eq_true]
  refine exists_congr fun scheme => and_congr_right fun member => ?_
  rw [Text.isPrefixOf_append_cons (plain scheme member)]

/-- Whatever the password is, it is read between the same settings. -/
theorem exists_readSettings_withPassword {front : Text} {given : Table}
    (accepted : parse front = .ok given) (other : isUrl front = false)
    (valued : endsWithoutValue (front.dropWhile Text.isBlank) = false) (back : Text) :
    ∃ around : Traced Surroundings, ∀ password,
      Postgres.readSettings (withPassword front password back) =
        (fun settings => settings.withPassword password) <$> around := by
  obtain ⟨before, read, _⟩ := exists_of_map_eq_ok accepted
  refine ⟨.ofExcept (((readSettings (back.dropWhile Text.isBlank)).map fun after =>
    ⟨before, after⟩).mapError .keywordValue), fun password => ?_⟩
  rw [Postgres.readSettings, isUrl_withPassword, other, if_neg Bool.false_ne_true,
    readKeywordValue, parse, readSettings_withPassword read valued]
  cases readSettings (back.dropWhile Text.isBlank) <;> rfl

end KeywordValue

/-- Two connection strings that differ in a quoted password alone give the same report, or they fail
with the same error, with the same questions and notes on the way; and the connection string is not
reported. -/
theorem describe_quoted_password_unobserved {front : Text} {given : Table}
    (accepted : KeywordValue.parse front = .ok given) (keywordValue : isUrl front = false)
    (valued : KeywordValue.endsWithoutValue (front.dropWhile Text.isBlank) = false)
    (password other back : Text) (defaults : Defaults) :
    describe "postgres".toList defaults (KeywordValue.withPassword front password back) =
        describe "postgres".toList defaults (KeywordValue.withPassword front other back) ∧
      ∀ made,
        (describe "postgres".toList defaults
            (KeywordValue.withPassword front password back)).result = .ok made →
          "db.connection_string".toList ∉ made.attributes.entries.map Prod.fst := by
  obtain ⟨around, read⟩ :=
    KeywordValue.exists_readSettings_withPassword accepted keywordValue valued back
  have nonempty : ∀ secret, KeywordValue.withPassword front secret back ≠ [] := by
    intro secret
    simp [KeywordValue.withPassword_eq]
  exact describe_of_password (nonempty password) (nonempty other) (read password) (read other)
    defaults

/-- Settings with an escaped quote, with blanks around an equals sign and with a password. -/
def crowdedFront : Text :=
  "host = db user='o\\'brien' password=one ".toList

/-- The password has what would end a value, and another password follows it. -/
theorem describe_quoted_password_unobserved_crowded :
    KeywordValue.parse crowdedFront =
        .ok (.ofList [(hostName, "db".toList), (userName, "o'brien".toList),
          (passwordName, "one".toList)]) ∧
      isUrl crowdedFront = false ∧
      KeywordValue.endsWithoutValue (crowdedFront.dropWhile Text.isBlank) = false ∧
      describe "postgres".toList appDefaults
          (KeywordValue.withPassword crowdedFront "p' w=\\".toList
            "dbname=orders password = 'three'".toList) =
        describe "postgres".toList appDefaults
          (KeywordValue.withPassword crowdedFront "two".toList
            "dbname=orders password = 'three'".toList) := by
  have accepted : KeywordValue.parse crowdedFront =
      .ok (.ofList [(hostName, "db".toList), (userName, "o'brien".toList),
        (passwordName, "one".toList)]) := by decide +kernel
  have keywordValue : isUrl crowdedFront = false := by decide
  have valued : KeywordValue.endsWithoutValue (crowdedFront.dropWhile Text.isBlank) = false := by
    decide +kernel
  exact ⟨accepted, keywordValue, valued,
    (describe_quoted_password_unobserved accepted keywordValue valued _ _ _ appDefaults).1⟩

/-! ## URLs -/

namespace Url

/-- A URL with a user and a password in front of the rest. -/
def withPassword (user password rest : Text) : Text :=
  shortScheme ++ (user ++ ':' :: password ++ '@' :: rest)

/-- A password as it may stand in a URL: no character ends the authority or is a control character,
and every percent sign begins an escape. -/
structure IsPassword (password : Text) : Prop where
  inside : ∀ c ∈ password, endsAuthority c = false
  printable : ∀ c ∈ password, isControl c = false
  escaped : Text.Percent.IsWellEscaped password

section Reading
variable {user rest password : Text}

theorem any_isControl_withPassword (secret : IsPassword password) :
    (withPassword user password rest).any isControl = (user ++ rest).any isControl := by
  have scheme : shortScheme.any isControl = false := by decide
  have hidden : password.any isControl = false := Text.any_eq_false_iff.mpr secret.printable
  have separators : isControl ':' = false ∧ isControl '@' = false := by decide
  rw [withPassword, List.any_append, scheme]
  simp only [List.any_append, List.any_cons, hidden, separators, Bool.false_or, Bool.or_false]

/-- The colon before the password is the first one, and the at sign after it is the last one. -/
theorem ofText_withPassword (plain : ∀ c ∈ user, endsAuthority c = false)
    (no_at : '@' ∉ authorityOf rest) (secret : IsPassword password) :
    Parts.ofText (withPassword user password rest) =
      ⟨some (user ++ ':' :: password), authorityOf rest, pathOf rest, queryOf rest⟩ := by
  have inside : ∀ c ∈ user ++ ':' :: password, endsAuthority c = false := by
    intro c member
    rcases List.mem_append.mp member with inUser | later
    · exact plain c inUser
    · rcases List.mem_cons.mp later with rfl | inPassword
      · rfl
      · exact secret.inside c inPassword
  rw [withPassword, shortScheme_eq, Parts.ofText_userInfo (by decide) inside no_at]

theorem readUserInfo_password (colon : ':' ∉ user) (secret : IsPassword password) :
    ∃ read, readUserInfo (user ++ ':' :: password) =
      (decode .userInfo user).map fun name => [(userName, name), (passwordName, read)] := by
  obtain ⟨read, decoded⟩ := (Text.Percent.exists_decode_iff .component password).mpr secret.escaped
  refine ⟨read, ?_⟩
  have known : decode .userInfo password = .ok read := by
    rw [decode, decoded]
    rfl
  rw [readUserInfo, Text.cut_eq_some.mpr ⟨rfl, colon⟩]
  simp only [known]
  cases decode .userInfo user <;> rfl

/-- The settings around a password, the query apart. -/
def surroundings (user rest : Text) : Except Error Surroundings := do
  let name ← decode .userInfo user
  let entries ← readHostList (authorityOf rest)
  let database ← readPath (pathOf rest)
  return ⟨[(userName, name)], hostSettings entries ++ database⟩

/-- Only the value of the password is read from it. -/
theorem settings_password (rest : Text) (colon : ':' ∉ user) (secret : IsPassword password) :
    ∃ read, Parts.settings
        ⟨some (user ++ ':' :: password), authorityOf rest, pathOf rest, queryOf rest⟩ =
      (surroundings user rest).map fun around =>
        around.before ++ (passwordName, read) :: around.after := by
  obtain ⟨read, credentials⟩ := readUserInfo_password colon secret
  refine ⟨read, ?_⟩
  simp only [Parts.settings, surroundings, credentials]
  cases decode .userInfo user with
  | error error => rfl
  | ok name =>
    cases readHostList (authorityOf rest) with
    | error error => rfl
    | ok entries => cases readPath (pathOf rest) <;> rfl

end Reading

theorem isUrl_withPassword (user password rest : Text) :
    isUrl (withPassword user password rest) = true := by
  apply List.any_eq_true.mpr
  refine ⟨shortScheme, List.mem_cons_self, ?_⟩
  rw [withPassword, List.isPrefixOf_iff_prefix]
  exact List.prefix_append _ _

/-- Whatever the password is, what it is read as stands between the same settings. -/
theorem exists_readSettings_withPassword {user rest : Text}
    (plain : ∀ c ∈ user, c ≠ ':' ∧ endsAuthority c = false) (no_at : '@' ∉ authorityOf rest) :
    ∃ around : Traced Surroundings, ∀ password, IsPassword password → ∃ secret,
      Postgres.readSettings (withPassword user password rest) =
        (fun settings => settings.withPassword secret) <$> around := by
  have colon : ':' ∉ user := fun member => (plain ':' member).1 rfl
  have inside : ∀ c ∈ user, endsAuthority c = false := fun c member => (plain c member).2
  by_cases control : (user ++ rest).any isControl = true
  · refine ⟨.ofExcept (.error (.url .controlCharacter)), fun password secret => ⟨[], ?_⟩⟩
    rw [Postgres.readSettings, isUrl_withPassword, if_pos rfl, readUrl,
      parse_of_control ((any_isControl_withPassword secret).trans control)]
    rfl
  · let parts : Parts := ⟨none, authorityOf rest, pathOf rest, queryOf rest⟩
    let notes := (parts.parameters.filter fun text => (readParameter text).isNone).map fun _ =>
      Note.skippedParameter
    refine ⟨match surroundings user rest with
      | .ok around => ⟨.ok (around.extend (parts.parameters.filterMap readParameter)), [], notes⟩
      | .error error => .ofExcept (.error (.url error)), fun password secret => ?_⟩
    obtain ⟨read, settings⟩ := settings_password rest colon secret
    have printable : (withPassword user password rest).any isControl = false := by
      rw [any_isControl_withPassword secret]
      exact Bool.eq_false_iff.mpr control
    refine ⟨read, ?_⟩
    rw [Postgres.readSettings, isUrl_withPassword, if_pos rfl, readUrl, parse_eq printable,
      ofText_withPassword inside no_at secret, settings]
    cases surroundings user rest with
    | error error => rfl
    | ok around =>
      simp only [Except.map]
      rw [← Surroundings.withPassword, Surroundings.withPassword_update, Traced.map_eq]
      rfl

end Url

/-- Two URLs that differ in the password alone give the same report, or they fail with the same
error, with the same questions and notes on the way; and the URL is not reported. -/
theorem describe_url_password_unobserved {user rest : Text}
    (plain : ∀ c ∈ user, c ≠ ':' ∧ Url.endsAuthority c = false)
    (no_at : '@' ∉ Url.authorityOf rest) {password other : Text} (secret : Url.IsPassword password)
    (otherSecret : Url.IsPassword other) (defaults : Defaults) :
    describe "postgres".toList defaults (Url.withPassword user password rest) =
        describe "postgres".toList defaults (Url.withPassword user other rest) ∧
      ∀ made,
        (describe "postgres".toList defaults (Url.withPassword user password rest)).result =
            .ok made →
          "db.connection_string".toList ∉ made.attributes.entries.map Prod.fst := by
  obtain ⟨around, read⟩ := Url.exists_readSettings_withPassword plain no_at
  obtain ⟨_, readPassword⟩ := read password secret
  obtain ⟨_, readOther⟩ := read other otherSecret
  have nonempty : ∀ secret, Url.withPassword user secret rest ≠ [] := by
    intro secret
    simp [Url.withPassword]
  exact describe_of_password (nonempty password) (nonempty other) readPassword readOther defaults

/-- The user and the password have separators that they may have, and the password an escape. -/
theorem describe_url_password_unobserved_separators :
    (∀ c ∈ "a@b".toList, c ≠ ':' ∧ Url.endsAuthority c = false) ∧
      '@' ∉ Url.authorityOf "db:5432,other/orders?host=x".toList ∧
      Url.IsPassword "p@s:s,%2F".toList ∧ Url.IsPassword [] ∧
      describe "postgres".toList appDefaults
          (Url.withPassword "a@b".toList "p@s:s,%2F".toList "db:5432,other/orders?host=x".toList) =
        describe "postgres".toList appDefaults
          (Url.withPassword "a@b".toList [] "db:5432,other/orders?host=x".toList) := by
  have colon : ':' ∉ "a@b".toList := by decide
  have inside : "a@b".toList.any Url.endsAuthority = false := by decide
  have plain : ∀ c ∈ "a@b".toList, c ≠ ':' ∧ Url.endsAuthority c = false := fun c member =>
    ⟨ne_of_mem_of_not_mem member colon, Text.any_eq_false_iff.mp inside c member⟩
  have no_at : '@' ∉ Url.authorityOf "db:5432,other/orders?host=x".toList := by decide
  have secret : Url.IsPassword "p@s:s,%2F".toList :=
    ⟨Text.any_eq_false_iff.mp (by decide), Text.any_eq_false_iff.mp (by decide), by decide +kernel⟩
  have empty : Url.IsPassword [] :=
    ⟨List.forall_mem_nil _, List.forall_mem_nil _, Text.Percent.isWellEscaped_nil⟩
  exact ⟨plain, no_at, secret, empty,
    (describe_url_password_unobserved plain no_at secret empty appDefaults).1⟩

end DataSource.Postgres
