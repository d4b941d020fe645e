import DataSource.Postgres.Url
import DataSource.Proofs.Text.Separators

/-! URLs are taken apart at their separators. The authority ends at the first slash, question mark
or number sign, and its last at sign ends the user information; the query follows the first question
mark, and a fragment is cut off before anything else. -/
namespace DataSource.Postgres.Url

/-! ## Schemes -/

/-- The short scheme with its mark. -/
def shortScheme : Text := "postgres://".toList

/-- The long scheme with its mark. -/
def longScheme : Text := "postgresql://".toList

theorem shortScheme_eq : shortScheme = "postgres".toList ++ "://".toList := by
  decide

theorem longScheme_eq : longScheme = "postgresql".toList ++ "://".toList := by
  decide

/-! ## Sections -/

/-- Whether a character ends the authority. -/
def endsAuthority (c : Char) : Bool :=
  c = '/' || c = '?' || c = '#'

/-- What precedes the first slash, question mark or number sign. -/
def authorityOf (text : Text) : Text :=
  text.takeWhile fun c => !endsAuthority c

/-- What stands between the authority and the query. -/
def pathOf (text : Text) : Text :=
  (Text.divide '?' (text.takeWhile (· ≠ '#'))).1.dropWhile (· ≠ '/')

/-- What follows the first question mark after the fragment is cut off at the first number sign. -/
def queryOf (text : Text) : Text :=
  (Text.divide '?' (text.takeWhile (· ≠ '#'))).2

theorem not_mem_of_endsAuthority {text : Text} (inside : ∀ c ∈ text, endsAuthority c = false) :
    '/' ∉ text ∧ '?' ∉ text ∧ '#' ∉ text := by
  have absent : ∀ c, endsAuthority c = true → c ∉ text := by
    intro c ends member
    rw [inside c member] at ends
    cases ends
  exact ⟨absent '/' rfl, absent '?' rfl, absent '#' rfl⟩

/-- The authority precedes each of the three separators, so it does not matter in which order they
are looked for. -/
theorem authorityOf_eq (text : Text) :
    (Text.divide '?' (text.takeWhile (· ≠ '#'))).1.takeWhile (· ≠ '/') = authorityOf text := by
  rw [Text.divide_eq, List.takeWhile_takeWhile, List.takeWhile_takeWhile, authorityOf]
  congr 1
  funext c
  simp [endsAuthority, Bool.and_assoc]

theorem authorityOf_append {front : Text} (inside : ∀ c ∈ front, endsAuthority c = false)
    (rest : Text) : authorityOf (front ++ rest) = front ++ authorityOf rest := by
  apply List.takeWhile_append_of_pos
  intro c member
  rw [inside c member]
  rfl

theorem authorityOf_cons {c : Char} (ends : endsAuthority c = true) (rest : Text) :
    authorityOf (c :: rest) = [] := by
  simp [authorityOf, ends]

theorem queryOf_append {front : Text} (question : '?' ∉ front) (number : '#' ∉ front)
    (rest : Text) : queryOf (front ++ rest) = queryOf rest := by
  rw [queryOf, List.takeWhile_append_of_pos (Text.ne_of_not_mem number),
    Text.divide_append_of_not_mem question]
  rfl

theorem pathOf_append {front : Text} (inside : ∀ c ∈ front, endsAuthority c = false)
    (rest : Text) : pathOf (front ++ rest) = pathOf rest := by
  obtain ⟨slash, question, number⟩ := not_mem_of_endsAuthority inside
  rw [pathOf, List.takeWhile_append_of_pos (Text.ne_of_not_mem number),
    Text.divide_append_of_not_mem question,
    List.dropWhile_append_of_pos (Text.ne_of_not_mem slash)]
  rfl

theorem pathOf_slash {path : Text} (question : '?' ∉ path) (number : '#' ∉ path) (rest : Text) :
    pathOf ('/' :: path ++ '?' :: rest) = '/' :: path := by
  have marked : '#' ∉ '/' :: path ++ ['?'] := by simp [number]
  have asked : '?' ∉ '/' :: path := by simp [question]
  have split : '/' :: path ++ '?' :: rest = ('/' :: path ++ ['?']) ++ rest := by simp
  rw [pathOf, split, List.takeWhile_append_of_pos (Text.ne_of_not_mem marked), List.append_assoc,
    List.singleton_append, Text.divide_append asked]
  rfl

theorem queryOf_question {query : Text} (number : '#' ∉ query) :
    queryOf ('?' :: query) = query := by
  have marked : '#' ∉ '?' :: query := by simp [number]
  have cut : Text.divide '?' ('?' :: query) = ([], query) :=
    Text.divide_append List.not_mem_nil query
  rw [queryOf, List.takeWhile_eq_self_iff.mpr (Text.ne_of_not_mem marked), cut]

/-! ## Parts -/

namespace Parts
variable {scheme : Text}

/-- The parts of a URL, by the sections of what follows its scheme. -/
theorem ofText_eq (plain : ':' ∉ scheme) (body : Text) :
    ofText (scheme ++ "://".toList ++ body) =
      match Text.cutLast '@' (authorityOf body) with
      | some (userInfo, hostList) => ⟨some userInfo, hostList, pathOf body, queryOf body⟩
      | none => ⟨none, authorityOf body, pathOf body, queryOf body⟩ := by
  have rest : Text.after "://".toList (scheme ++ "://".toList ++ body) = body :=
    Text.after_append plain "//".toList body
  unfold ofText
  rw [rest, ← authorityOf_eq]
  rfl

theorem query_ofText (colon : ':' ∉ scheme) (question : '?' ∉ scheme) (number : '#' ∉ scheme)
    (body : Text) :
    (ofText (scheme ++ "://".toList ++ body)).query = queryOf (scheme ++ "://".toList ++ body) := by
  have mark : '?' ∉ "://".toList ∧ '#' ∉ "://".toList := by decide
  have front : '?' ∉ scheme ++ "://".toList ∧ '#' ∉ scheme ++ "://".toList := by
    rw [List.mem_append, List.mem_append, not_or, not_or]
    exact ⟨⟨question, mark.1⟩, number, mark.2⟩
  rw [ofText_eq colon, queryOf_append front.1 front.2]
  split <;> rfl

/-- User information is taken off the front of an authority that has no other at sign. -/
theorem ofText_userInfo (plain : ':' ∉ scheme) {userInfo rest : Text}
    (inside : ∀ c ∈ userInfo, endsAuthority c = false) (no_at : '@' ∉ authorityOf rest) :
    ofText (scheme ++ "://".toList ++ (userInfo ++ '@' :: rest)) =
      ⟨some userInfo, authorityOf rest, pathOf rest, queryOf rest⟩ := by
  have front : ∀ c ∈ userInfo ++ ['@'], endsAuthority c = false := by
    intro c member
    rcases List.mem_append.mp member with user | at_sign
    · exact inside c user
    · rw [List.mem_singleton.mp at_sign]
      rfl
  obtain ⟨_, question, number⟩ := not_mem_of_endsAuthority front
  have body : userInfo ++ '@' :: rest = (userInfo ++ ['@']) ++ rest := by simp
  have last : Text.cutLast '@' (userInfo ++ ['@'] ++ authorityOf rest) =
      some (userInfo, authorityOf rest) :=
    Text.cutLast_eq_some.mpr ⟨by simp, no_at⟩
  rw [ofText_eq plain, body, authorityOf_append front, pathOf_append front,
    queryOf_append question number, last]

/-- Without user information the authority is the host list. -/
theorem ofText_hostList (plain : ':' ∉ scheme) {hostList : Text}
    (inside : ∀ c ∈ hostList, endsAuthority c = false) (no_at : '@' ∉ hostList) (rest : Text) :
    ofText (scheme ++ "://".toList ++ (hostList ++ '/' :: rest)) =
      ⟨none, hostList, pathOf ('/' :: rest), queryOf ('/' :: rest)⟩ := by
  obtain ⟨_, question, number⟩ := not_mem_of_endsAuthority inside
  rw [ofText_eq plain, authorityOf_append inside, authorityOf_cons rfl, List.append_nil,
    pathOf_append inside, queryOf_append question number, Text.cutLast_eq_none.mpr no_at]

/-- The settings in the user information, where there is any. -/
def credentials (parts : Parts) : Except Error (List (Text × Text)) :=
  match parts.userInfo with
  | some userInfo => readUserInfo userInfo
  | none => .ok []

theorem settings_eq (parts : Parts) :
    parts.settings = parts.credentials >>= fun credentials =>
      readHostList parts.hostList >>= fun entries =>
        readPath parts.path >>= fun database =>
          .ok (credentials ++ hostSettings entries ++ database) := by
  unfold settings credentials
  cases parts.userInfo <;> rfl

end Parts

theorem parameters_of_query_nil {parts : Parts} (plain : parts.query = []) :
    parts.parameters = [] := by
  rw [Parts.parameters, plain]
  rfl

theorem parse_of_control {text : Text} (control : text.any isControl = true) :
    parse text = .error .controlCharacter := by
  rw [parse, control]
  rfl

/-- A URL without control characters is read part by part; the query cannot make it fail. -/
theorem parse_eq {text : Text} (printable : text.any isControl = false) :
    parse text = (Parts.ofText text).settings.map fun settings =>
      { settings := (Table.ofList settings).update
          ((Parts.ofText text).parameters.filterMap readParameter)
        skipped := (Parts.ofText text).parameters.filter fun text =>
          (readParameter text).isNone } := by
  rw [parse, printable, if_neg Bool.false_ne_true]
  dsimp only
  cases (Parts.ofText text).settings <;> rfl

end DataSource.Postgres.Url
