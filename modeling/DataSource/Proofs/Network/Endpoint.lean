import DataSource.Network.Endpoint
import DataSource.Proofs.Text.Separators
import DataSource.Proofs.Trace

/-! Endpoints that are put together from a host and a port: what they consist of, and that they are
longer than both. Splitting accepts the endpoints and no other text, so it gives back what was put
together exactly if neither part has a character that would end it in another place. -/
namespace DataSource.Network.Endpoint

theorem mem_join {host port : Text} {c : Char} (member : c ∈ join host port) :
    c ∈ host ∨ c ∈ port ∨ c = '[' ∨ c = ']' ∨ c = ':' := by
  unfold join at member
  split at member
  · simp only [List.cons_append, List.mem_cons, List.mem_append] at member
    rcases member with opened | inside | closed | colon | inside
    · exact Or.inr (Or.inr (Or.inl opened))
    · exact Or.inl inside
    · exact Or.inr (Or.inr (Or.inr (Or.inl closed)))
    · exact Or.inr (Or.inr (Or.inr (Or.inr colon)))
    · exact Or.inr (Or.inl inside)
  · rcases List.mem_append.mp member with inside | later
    · exact Or.inl inside
    · rcases List.mem_cons.mp later with colon | inside
      · exact Or.inr (Or.inr (Or.inr (Or.inr colon)))
      · exact Or.inr (Or.inl inside)

theorem length_lt_join (host port : Text) :
    host.length + port.length < (join host port).length := by
  unfold join
  split <;> simp only [List.length_append, List.length_cons] <;> omega

/-! ## What is split -/

/-- There is no bracket in a text. -/
def HasNoBracket (text : Text) : Prop :=
  '[' ∉ text ∧ ']' ∉ text

instance (text : Text) : Decidable (HasNoBracket text) :=
  inferInstanceAs (Decidable (_ ∧ _))

/-- A text is the endpoint of a host and a port: a colon joins the two, and it is the only one
unless the host is put between brackets. No other brackets are in it. -/
structure IsEndpoint (text host port : Text) : Prop where
  plainHost : HasNoBracket host
  plainPort : ':' ∉ port ∧ HasNoBracket port
  joined : (text = host ++ ':' :: port ∧ ':' ∉ host) ∨ text = '[' :: host ++ ']' :: ':' :: port

/-- What begins with a bracket does not begin with a host. -/
theorem bracket_ne_plain {inner host port : Text} (absent : '[' ∉ host) :
    '[' :: inner ≠ host ++ ':' :: port := by
  intro same
  cases host with
  | nil => exact absurd (List.cons.inj same).1 (by decide)
  | cons c host =>
    obtain ⟨rfl, -⟩ := List.cons.inj same
    exact absent List.mem_cons_self

/-- What follows an opening bracket is split exactly where a closing bracket and a colon meet. -/
theorem splitBracketed_eq_ok_iff {inner host port : Text} :
    splitBracketed inner = .ok (host, port) ↔
      inner = host ++ ']' :: ':' :: port ∧ HasNoBracket host ∧
        ':' ∉ port ∧ HasNoBracket port := by
  constructor
  · intro accepted
    unfold splitBracketed at accepted
    split at accepted
    case h_1 => cases accepted
    rename_i before after found
    obtain ⟨rfl, closed⟩ := Text.cut_eq_some.mp found
    split at accepted
    case h_1 => cases accepted
    rename_i c rest
    split at accepted
    case isTrue => cases accepted
    rename_i same
    obtain rfl : c = ':' := Decidable.not_not.mp same
    split at accepted
    case isTrue => cases accepted
    rename_i colon
    split at accepted
    case isTrue => cases accepted
    rename_i opened
    split at accepted
    case isTrue => cases accepted
    rename_i portClosed
    cases accepted
    simp only [List.mem_append, List.mem_cons, not_or] at opened
    exact ⟨rfl, ⟨opened.1, closed⟩, colon, ⟨opened.2.2.2, portClosed⟩⟩
  · rintro ⟨rfl, ⟨opened, closed⟩, colon, ⟨portOpened, portClosed⟩⟩
    have first : Text.cut ']' (host ++ ']' :: ':' :: port) = some (host, ':' :: port) :=
      Text.cut_eq_some.mpr ⟨rfl, closed⟩
    simp [splitBracketed, first, colon, opened, portOpened, portClosed]

theorem splitPlain_eq_ok_iff {before after host port : Text} :
    splitPlain before after = .ok (host, port) ↔
      (before = host ∧ after = port) ∧ ':' ∉ host ∧ HasNoBracket host ∧ HasNoBracket port := by
  grind [splitPlain, HasNoBracket]

/-- Splitting accepts the endpoints and nothing else. -/
theorem split_eq_ok_iff {text host port : Text} :
    split text = .ok (host, port) ↔ IsEndpoint text host port := by
  unfold split
  split
  · rename_i absent
    refine iff_of_false (by simp) ?_
    rintro ⟨-, -, ⟨rfl, -⟩ | rfl⟩ <;> exact Text.cutLast_eq_none.mp absent (by simp)
  rename_i before after found
  obtain ⟨parts, colon⟩ := Text.cutLast_eq_some.mp found
  dsimp only
  rw [mapError_eq_ok_iff]
  split
  · rename_i inner
    rw [splitBracketed_eq_ok_iff]
    constructor
    · rintro ⟨rfl, hostClean, portClean⟩
      exact ⟨hostClean, portClean, Or.inr rfl⟩
    · rintro ⟨hostClean, portClean, ⟨plain, -⟩ | bracketed⟩
      · exact absurd plain (bracket_ne_plain hostClean.1)
      · exact ⟨(List.cons.inj bracketed).2, hostClean, portClean⟩
  · rename_i unbracketed
    rw [splitPlain_eq_ok_iff]
    constructor
    · rintro ⟨⟨rfl, rfl⟩, single, hostClean, portClean⟩
      exact ⟨hostClean, ⟨colon, portClean⟩, Or.inl ⟨parts, single⟩⟩
    · rintro ⟨hostClean, ⟨portColon, portClean⟩, ⟨plain, single⟩ | bracketed⟩
      · rw [Text.cutLast_eq_some.mpr ⟨plain, portColon⟩] at found
        cases found
        exact ⟨⟨rfl, rfl⟩, single, hostClean, portClean⟩
      · exact absurd bracketed (unbracketed _)

/-- A host and a port without brackets are split again, as long as the port has no colon. -/
theorem split_join {host port : Text} (opened : '[' ∉ host) (closed : ']' ∉ host)
    (colon : ':' ∉ port) (portOpened : '[' ∉ port) (portClosed : ']' ∉ port) :
    split (join host port) = .ok (host, port) := by
  rw [split_eq_ok_iff]
  refine ⟨⟨opened, closed⟩, ⟨colon, ⟨portOpened, portClosed⟩⟩, ?_⟩
  unfold join
  split
  · exact Or.inr rfl
  · exact Or.inl ⟨rfl, ‹_›⟩

/-- A host and a plain port make an endpoint if there are no brackets in the host, or if there is one
pair around it and no colon in it, which would put a second pair around it. -/
theorem exists_split_join_iff {host port : Text} (plainPort : ':' ∉ port ∧ HasNoBracket port) :
    (∃ parts, split (join host port) = .ok parts) ↔
      HasNoBracket host ∨
        ∃ inner, host = '[' :: inner ++ [']'] ∧ HasNoBracket inner ∧ ':' ∉ inner := by
  obtain ⟨colon, portOpened, portClosed⟩ := plainPort
  constructor
  · rintro ⟨⟨before, after⟩, accepted⟩
    obtain ⟨plain, ⟨single, -⟩, joined⟩ := split_eq_ok_iff.mp accepted
    unfold join at joined
    split at joined
    · rcases joined with ⟨unbracketed, -⟩ | bracketed
      · exact absurd unbracketed (bracket_ne_plain plain.1)
      · have parts : host ++ [']'] ++ ':' :: port = before ++ [']'] ++ ':' :: after := by
          simpa using bracketed
        obtain rfl := List.append_cancel_right (Text.eq_of_append_cons colon single parts).1
        exact Or.inl plain
    · rename_i colonless
      rcases joined with ⟨unbracketed, -⟩ | bracketed
      · obtain ⟨rfl, -⟩ := Text.eq_of_append_cons colon single unbracketed
        exact Or.inl plain
      · have parts : host ++ ':' :: port = ('[' :: before ++ [']']) ++ ':' :: after := by
          simpa using bracketed
        obtain ⟨rfl, -⟩ := Text.eq_of_append_cons colon single parts
        exact Or.inr ⟨before, rfl, plain, fun inside => colonless (by simp [inside])⟩
  · rintro (plain | ⟨inner, rfl, plain, colonless⟩)
    · exact ⟨_, split_join plain.1 plain.2 colon portOpened portClosed⟩
    · have outside : ':' ∉ '[' :: inner ++ [']'] := by simp [colonless]
      have written : join ('[' :: inner ++ [']']) port = '[' :: inner ++ ']' :: ':' :: port := by
        rw [join, if_neg outside]
        simp
      refine ⟨(inner, port), split_eq_ok_iff.mpr ?_⟩
      exact ⟨plain, ⟨colon, portOpened, portClosed⟩, Or.inr written⟩

/-- Whatever is wrong with a text, the text is named. -/
theorem text_of_split_eq_error {text : Text} {malformed : Malformed}
    (refused : split text = .error malformed) : malformed.text = text := by
  unfold split at refused
  split at refused
  · cases refused
    rfl
  · obtain ⟨_, -, rfl⟩ := mapError_eq_error_iff.mp refused
    rfl

theorem exists_split_eq_error_iff {text : Text} :
    (∃ flaw, split text = .error ⟨flaw, text⟩) ↔ ∀ host port, ¬ IsEndpoint text host port := by
  simp only [← split_eq_ok_iff]
  cases found : split text with
  | ok parts => exact iff_of_false (by simp) fun none => none parts.1 parts.2 rfl
  | error malformed =>
    obtain rfl := text_of_split_eq_error found
    exact iff_of_true ⟨malformed.flaw, rfl⟩ (by simp)

/-- Splitting takes a text for the endpoint of a host and a port exactly when it is one, and refuses
every text that is none. So a host and a port come back from the text that joins them exactly if
there are no brackets in them and no colon in the port. -/
theorem split_accepts_endpoints :
    (∀ text host port, split text = .ok (host, port) ↔ IsEndpoint text host port) ∧
      (∀ text, (∃ flaw, split text = .error ⟨flaw, text⟩) ↔
        ∀ host port, ¬ IsEndpoint text host port) ∧
      ∀ host port, split (join host port) = .ok (host, port) ↔
        HasNoBracket host ∧ ':' ∉ port ∧ HasNoBracket port := by
  refine ⟨fun _ _ _ => split_eq_ok_iff, fun _ => exists_split_eq_error_iff, fun host port => ?_⟩
  constructor
  · intro accepted
    have endpoint := split_eq_ok_iff.mp accepted
    exact ⟨endpoint.plainHost, endpoint.plainPort⟩
  · rintro ⟨⟨opened, closed⟩, colon, ⟨portOpened, portClosed⟩⟩
    exact split_join opened closed colon portOpened portClosed

end DataSource.Network.Endpoint
