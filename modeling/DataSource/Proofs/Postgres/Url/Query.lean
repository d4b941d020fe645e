import DataSource.Postgres.ConnectionString
import DataSource.Proofs.Postgres.Url.Parts
import DataSource.Proofs.Table
import DataSource.Proofs.Text.Percent
import DataSource.Proofs.Trace

/-! The query and the fragment of a URL are separate from the rest. Whatever separators the query
has, what precedes it is read as if it stood alone; and whatever precedes it, each of its parameters
is a setting of its own, unless an escape in it is bad, and then it is passed over with a note. The
fragment says nothing. -/
namespace DataSource.Postgres.Url

/-! ## Parameters -/

/-- The parameters of a query as they are written. What is empty is none. -/
def piecesOf (query : Text) : List Text :=
  (query.splitOn '&').filter (· ≠ [])

/-- The name and the value of a parameter, around its first equals sign, have no bad escape. -/
def IsReadable (piece : Text) : Prop :=
  Text.Percent.IsWellEscaped (Text.divide '=' piece).1 ∧
    Text.Percent.IsWellEscaped (Text.divide '=' piece).2

instance (piece : Text) : Decidable (IsReadable piece) :=
  inferInstanceAs (Decidable (_ ∧ _))

/-- A parameter stands for a setting: its name, which may be the second name of the database, and
its value are decoded as fields of a form. -/
def Denotes (piece : Text) (setting : Text × Text) : Prop :=
  ∃ name, Text.Percent.decode .field (Text.divide '=' piece).1 = .ok name ∧
    setting.1 = canonicalName name ∧
    Text.Percent.decode .field (Text.divide '=' piece).2 = .ok setting.2

theorem readParameter_eq_some {piece : Text} {setting : Text × Text} :
    readParameter piece = some setting ↔ Denotes piece setting := by
  obtain ⟨keyword, value⟩ := setting
  unfold readParameter Denotes
  obtain ⟨before, after⟩ := Text.divide '=' piece
  dsimp only
  cases Text.Percent.decode .field before with
  | error bad => simp
  | ok name =>
    cases Text.Percent.decode .field after with
    | error bad => simp
    | ok text => simp [eq_comm]

/-- The readable parameters are those that stand for a setting. -/
theorem isSome_readParameter (piece : Text) :
    (readParameter piece).isSome = decide (IsReadable piece) := by
  apply Bool.eq_iff_iff.mpr
  rw [decide_eq_true_eq, Option.isSome_iff_exists]
  unfold IsReadable
  rw [← Text.Percent.exists_decode_iff .field, ← Text.Percent.exists_decode_iff .field]
  constructor
  · rintro ⟨setting, read⟩
    obtain ⟨name, before, _, after⟩ := readParameter_eq_some.mp read
    exact ⟨⟨name, before⟩, setting.2, after⟩
  · rintro ⟨⟨name, before⟩, value, after⟩
    exact ⟨(canonicalName name, value), readParameter_eq_some.mpr ⟨name, before, rfl, after⟩⟩

theorem forall₂_denotes (pieces : List Text) :
    List.Forall₂ Denotes (pieces.filter (IsReadable ·)) (pieces.filterMap readParameter) := by
  induction pieces with
  | nil => exact List.Forall₂.nil
  | cons piece rest ih =>
    have readable := isSome_readParameter piece
    cases read : readParameter piece with
    | none =>
      rw [read] at readable
      rw [List.filter_cons_of_neg (by simp [← readable]), List.filterMap_cons_none read]
      exact ih
    | some setting =>
      rw [read] at readable
      rw [List.filter_cons_of_pos (by simp [← readable]), List.filterMap_cons_some read]
      exact List.Forall₂.cons (readParameter_eq_some.mp read) ih

theorem filter_isNone_readParameter (pieces : List Text) :
    (pieces.filter fun piece => (readParameter piece).isNone) =
      pieces.filter (¬IsReadable ·) := by
  congr 1
  funext piece
  rw [← Option.not_isSome, isSome_readParameter, decide_not]

/-! ## Parts -/

variable {base query fragment : Text}

/-- A query and a fragment change nothing in the parts of the URL in front of them. -/
theorem Parts.ofText_query (scheme : "://".toList <:+: base) (question : '?' ∉ base)
    (number : '#' ∉ base) (unmarked : '#' ∉ query) (fragment : Text) :
    ofText (base ++ '?' :: query ++ '#' :: fragment) = { ofText base with query } := by
  have kept := (Text.after_suffix "://".toList base).subset
  have address : '?' ∉ Text.after "://".toList base := fun member => question (kept member)
  have plain : '#' ∉ Text.after "://".toList base := fun member => number (kept member)
  have whole : '#' ∉ Text.after "://".toList base ++ '?' :: query := by
    rw [List.mem_append, List.mem_cons, not_or, not_or]
    exact ⟨plain, by decide, unmarked⟩
  have long : Text.after "://".toList (base ++ '?' :: query ++ '#' :: fragment) =
      Text.after "://".toList base ++ '?' :: query ++ '#' :: fragment := by
    rw [List.append_assoc, Text.after_append_of_infix scheme, List.append_assoc]
  have body : (Text.after "://".toList (base ++ '?' :: query ++ '#' :: fragment)).takeWhile
      (· ≠ '#') = Text.after "://".toList base ++ '?' :: query := by
    rw [long, List.takeWhile_append_of_pos (Text.ne_of_not_mem whole),
      List.takeWhile_cons_of_neg (by decide), List.append_nil]
  simp only [ofText, body, List.takeWhile_eq_self_iff.mpr (Text.ne_of_not_mem plain),
    Text.divide_append address, Text.divide_of_not_mem address]
  split <;> rfl

theorem Parts.query_ofText_of_not_mem (question : '?' ∉ base) : (ofText base).query = [] := by
  have address : '?' ∉ (Text.after "://".toList base).takeWhile (· ≠ '#') := fun member =>
    question ((Text.after_suffix "://".toList base).subset (List.takeWhile_subset _ member))
  simp only [ofText, Text.divide_of_not_mem address]
  split <;> rfl

theorem any_isControl_query (printable : ∀ c ∈ query ++ fragment, isControl c = false) :
    (base ++ '?' :: query ++ '#' :: fragment).any isControl = base.any isControl := by
  have separators : isControl '?' = false ∧ isControl '#' = false := by decide
  have first : query.any isControl = false := Text.any_eq_false_iff.mpr fun c member =>
    printable c (List.mem_append_left _ member)
  have second : fragment.any isControl = false := Text.any_eq_false_iff.mpr fun c member =>
    printable c (List.mem_append_right _ member)
  simp [separators, first, second]

/-! ## URLs -/

/-- What is in front of a query is read alone, and the query is read after it. -/
theorem parse_query (scheme : "://".toList <:+: base) (question : '?' ∉ base) (number : '#' ∉ base)
    (unmarked : '#' ∉ query) (printable : ∀ c ∈ query ++ fragment, isControl c = false) :
    parse (base ++ '?' :: query ++ '#' :: fragment) =
      (parse base).map fun reading =>
        { settings := reading.settings.update ((piecesOf query).filterMap readParameter)
          skipped := (piecesOf query).filter fun piece => (readParameter piece).isNone } := by
  have control : (base ++ '?' :: query ++ '#' :: fragment).any isControl = base.any isControl :=
    any_isControl_query printable
  cases given : base.any isControl with
  | true =>
    rw [parse_of_control (control.trans given), parse_of_control given]
    rfl
  | false =>
    have none : (Parts.ofText base).parameters = [] :=
      parameters_of_query_nil (Parts.query_ofText_of_not_mem question)
    have settings : ({ Parts.ofText base with query } : Parts).settings =
        (Parts.ofText base).settings := rfl
    have parameters : ({ Parts.ofText base with query } : Parts).parameters = piecesOf query := rfl
    rw [parse_eq (control.trans given), parse_eq given,
      Parts.ofText_query scheme question number unmarked fragment, settings, parameters, none]
    cases (Parts.ofText base).settings <;> rfl

/-- The query and the fragment of a URL are separate from the rest: with them it is refused, with
the same error, when it is refused without them. Otherwise the readable parameters are assigned to
the settings of the rest in their order, and each of the others is noted. -/
theorem readUrl_query (scheme : "://".toList <:+: base) (question : '?' ∉ base)
    (number : '#' ∉ base) (unmarked : '#' ∉ query)
    (printable : ∀ c ∈ query ++ fragment, isControl c = false) :
    (∀ error, (readUrl base).result = .error error →
        readUrl (base ++ '?' :: query ++ '#' :: fragment) = ⟨.error error, [], []⟩) ∧
      ∀ settings, (readUrl base).result = .ok settings → ∃ assignments,
        List.Forall₂ Denotes ((piecesOf query).filter (IsReadable ·)) assignments ∧
          readUrl (base ++ '?' :: query ++ '#' :: fragment) =
            ⟨.ok (settings.update assignments), [],
              ((piecesOf query).filter (¬IsReadable ·)).map fun _ => .skippedParameter⟩ := by
  have whole := parse_query scheme question number unmarked printable
  unfold readUrl
  rw [whole]
  cases parse base with
  | error error =>
    refine ⟨?_, nofun⟩
    rintro _ ⟨⟩
    rfl
  | ok reading =>
    refine ⟨nofun, ?_⟩
    rintro _ ⟨⟩
    refine ⟨(piecesOf query).filterMap readParameter, forall₂_denotes _, ?_⟩
    rw [← filter_isNone_readParameter]
    rfl

/-- A URL with two marks, the second of them in its path. -/
def crowdedBase : Text :=
  "x:y://u:p%40@[::1]:5432,db/o://z".toList

/-- Parameters with separators of all kinds, of which two have bad escapes. -/
def crowdedQuery : Text :=
  "dbname=a%26b&&bad=%zz&k&host=@:/,?://+&%4=v&port=1=2".toList

theorem readUrl_query_crowded :
    ("://".toList <:+: crowdedBase ∧ '?' ∉ crowdedBase ∧ '#' ∉ crowdedBase ∧ '#' ∉ crowdedQuery ∧
      ∀ c ∈ crowdedQuery ++ "#?a=%".toList, isControl c = false) ∧
      ∃ settings assignments, (readUrl crowdedBase).result = .ok settings ∧
        List.Forall₂ Denotes
          ["dbname=a%26b".toList, "k".toList, "host=@:/,?://+".toList, "port=1=2".toList]
          assignments ∧
        readUrl (crowdedBase ++ '?' :: crowdedQuery ++ '#' :: "#?a=%".toList) =
          ⟨.ok (settings.update assignments), [], [.skippedParameter, .skippedParameter]⟩ := by
  have scheme : "://".toList <:+: crowdedBase :=
    ⟨"x:y".toList, "u:p%40@[::1]:5432,db/o://z".toList, rfl⟩
  have question : '?' ∉ crowdedBase := by decide
  have number : '#' ∉ crowdedBase := by decide
  have unmarked : '#' ∉ crowdedQuery := by decide
  have printable : ∀ c ∈ crowdedQuery ++ "#?a=%".toList, isControl c = false :=
    Text.any_eq_false_iff.mp (by decide)
  have accepted : (readUrl crowdedBase).result.map (·.names) =
      .ok ["user".toList, "password".toList, "host".toList, "port".toList, "database".toList] := by
    decide +kernel
  obtain ⟨settings, read, -⟩ := exists_of_map_eq_ok accepted
  obtain ⟨assignments, denoted, whole⟩ :=
    (readUrl_query scheme question number unmarked printable).2 settings read
  have readable : (piecesOf crowdedQuery).filter (IsReadable ·) =
      ["dbname=a%26b".toList, "k".toList, "host=@:/,?://+".toList, "port=1=2".toList] := by
    decide +kernel
  have skipped : (piecesOf crowdedQuery).filter (¬IsReadable ·) =
      ["bad=%zz".toList, "%4=v".toList] := by
    decide +kernel
  rw [readable] at denoted
  rw [skipped] at whole
  exact ⟨⟨scheme, question, number, unmarked, printable⟩, settings, assignments, read, denoted,
    whole⟩

end DataSource.Postgres.Url
