import DataSource.Error

/-!
Results together with the way to them: which questions were put to the machine, and which notes
were taken for whoever looks into a surprising result. Both are kept in order, and both are kept
when the result is an error.
-/
namespace DataSource

/-- A question to the machine. -/
inductive Query where
  /-- Whether a path exists. -/
  | path (path : Text)
  /-- Who the current user is. -/
  | user
  deriving DecidableEq

/-- Something that was passed over, and is told to `_logger.debug`. -/
inductive Note where
  /-- A parameter has a bad escape. -/
  | skippedParameter
  /-- The machine fails to tell whether a path exists. -/
  | probeFailed (path : Text) (fault : Fault)
  /-- The machine fails to tell who the user is. -/
  | userUnknown (fault : Fault)
  /-- A driver has no dialect. -/
  | unknownDriver (driver : Text)
  deriving DecidableEq

/-- A note in words. -/
def Note.message : Note → Text
  | .skippedParameter => "Ignoring query parameter with invalid escape".toList
  | .probeFailed path fault =>
    "Unable to probe ".toList ++ path ++ ": ".toList ++ fault.message
  | .userUnknown fault => "Unable to resolve the current OS user: ".toList ++ fault.message
  | .unknownDriver driver => "No connection string parser for driver ".toList ++ driver

/-- A result with the questions and the notes on the way to it. -/
structure Traced (α : Type) where
  result : Except Error α
  queries : List Query
  notes : List Note

namespace Traced

variable {α β : Type}

/-- A result to which no question and no note led. -/
def ofExcept (result : Except Error α) : Traced α :=
  ⟨result, [], []⟩

/-- A result that is known. -/
def pure (value : α) : Traced α :=
  ofExcept (.ok value)

/-- Goes on from a result. After an error nothing more happens. -/
def bind (first : Traced α) (next : α → Traced β) : Traced β :=
  match first.result with
  | .error error => ⟨.error error, first.queries, first.notes⟩
  | .ok value =>
    let second := next value
    ⟨second.result, first.queries ++ second.queries, first.notes ++ second.notes⟩

instance : Monad Traced where
  pure := pure
  bind := bind

/-- Takes notes. -/
def note (notes : List Note) : Traced Unit :=
  ⟨.ok (), [], notes⟩

/-- Puts a question to the machine and goes on with its answer, whatever it is. -/
def ask (query : Query) (answer : Except Fault α) : Traced (Except Fault α) :=
  ⟨.ok answer, [query], []⟩

instance : LawfulMonad Traced := LawfulMonad.mk' Traced
  (by
    intro α first
    obtain ⟨result, queries, notes⟩ := first
    cases result <;> simp [Functor.map, bind, pure, ofExcept])
  (by
    intro α β value next
    simp [Bind.bind, Pure.pure, bind, pure, ofExcept])
  (by
    intro α β γ first next last
    obtain ⟨result, queries, notes⟩ := first
    cases result with
    | error error => rfl
    | ok value =>
      simp only [Bind.bind, bind]
      cases (next value).result <;> simp)

end Traced

end DataSource
