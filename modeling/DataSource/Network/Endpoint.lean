import DataSource.Text.Quoted

/-!
Endpoints, a host and a port in one text. The host comes first and a colon separates the two; a
host that itself has colons is put between brackets. `split` and `join` are inverse to each other
on hosts and ports that have no bracket, as long as the port has no colon. They are
`split_host_port` and `join_host_port`.
-/
namespace DataSource.Network.Endpoint

/-- Why a text is no endpoint. -/
inductive Flaw where
  | missingPort
  | missingCloseBracket
  | tooManyColons
  | unexpectedOpenBracket
  | unexpectedCloseBracket
  deriving DecidableEq

/-- What is wrong, without the text. -/
def Flaw.describe : Flaw → Text
  | .missingPort => "missing port".toList
  | .missingCloseBracket => "missing ']'".toList
  | .tooManyColons => "too many colons".toList
  | .unexpectedOpenBracket => "unexpected '['".toList
  | .unexpectedCloseBracket => "unexpected ']'".toList

/-- A text that is no endpoint. -/
structure Malformed where
  /-- What is wrong. -/
  flaw : Flaw
  /-- The text. -/
  text : Text
  deriving DecidableEq

/-- What is wrong with the text. -/
def Malformed.message (malformed : Malformed) : Text :=
  malformed.flaw.describe ++ " in address ".toList ++ Text.quoted malformed.text

/-- Splits what follows an opening bracket. The first closing bracket ends the host, and the last
colon has to follow it at once. -/
def splitBracketed (inner : Text) : Except Flaw (Text × Text) :=
  match Text.cut ']' inner with
  | none => .error .missingCloseBracket
  | some (host, after) =>
    match after with
    | [] => .error .missingPort
    | c :: port =>
      if c ≠ ':' then .error .missingPort
      else if ':' ∈ port then .error .tooManyColons
      else if '[' ∈ inner then .error .unexpectedOpenBracket
      else if ']' ∈ port then .error .unexpectedCloseBracket
      else .ok (host, port)

/-- Splits at a colon that has to be the only one. -/
def splitPlain (host port : Text) : Except Flaw (Text × Text) :=
  if ':' ∈ host then .error .tooManyColons
  else if '[' ∈ host ++ port then .error .unexpectedOpenBracket
  else if ']' ∈ host ++ port then .error .unexpectedCloseBracket
  else .ok (host, port)

/-- Splits an endpoint into its host and its port (`split_host_port`). -/
def split (text : Text) : Except Malformed (Text × Text) :=
  match Text.cutLast ':' text with
  | none => .error ⟨.missingPort, text⟩
  | some (before, after) =>
    let parts :=
      match text with
      | '[' :: inner => splitBracketed inner
      | _ => splitPlain before after
    parts.mapError fun flaw => ⟨flaw, text⟩

/-- Joins a host and a port (`join_host_port`). -/
def join (host port : Text) : Text :=
  if ':' ∈ host then '[' :: host ++ ']' :: ':' :: port else host ++ ':' :: port

end DataSource.Network.Endpoint
