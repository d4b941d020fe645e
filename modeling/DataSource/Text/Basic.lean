/-!
Text is a list of characters, so that every reader below is a recursion on its input. The
connection strings of both dialects are taken apart by cutting at one separator, either its first
or its last occurrence, and `cut_eq_some` and `cutLast_eq_some` say exactly which cut that is.

A character is a Unicode scalar value, so no text has a lone surrogate: what is said of every text
is said of every string without lone surrogates.
-/
namespace DataSource

/-- A text is the list of its characters. -/
abbrev Text := List Char

namespace Text

/-- Cuts at the first `c`, which belongs to neither part. -/
def cut (c : Char) : Text → Option (Text × Text)
  | [] => none
  | x :: rest =>
    if x = c then some ([], rest)
    else
      match cut c rest with
      | some (before, after) => some (x :: before, after)
      | none => none

/-- Cuts at the last `c`, which belongs to neither part. -/
def cutLast (c : Char) : Text → Option (Text × Text)
  | [] => none
  | x :: rest =>
    match cutLast c rest with
    | some (before, after) => some (x :: before, after)
    | none => if x = c then some ([], rest) else none

/-- The two parts around the first `c`; without one the second part is empty. -/
def divide (c : Char) (text : Text) : Text × Text :=
  (cut c text).getD (text, [])

/-- What follows the first occurrence of `mark`; without one nothing does. -/
def after (mark : Text) : Text → Text
  | [] => []
  | x :: rest =>
    if mark.isPrefixOf (x :: rest) then (x :: rest).drop mark.length else after mark rest

/-- The pieces joined by one separating character. -/
def join (separator : Char) (pieces : List Text) : Text :=
  [separator].intercalate pieces

/-- Drops the characters of a class from the end. -/
def trimEnd (drop : Char → Bool) (text : Text) : Text :=
  (text.reverse.dropWhile drop).reverse

/-- Drops the characters of a class from both ends. -/
def trim (drop : Char → Bool) (text : Text) : Text :=
  trimEnd drop (text.dropWhile drop)

/-- The text itself, unless it is empty. -/
def nonempty? (text : Text) : Option Text :=
  if text = [] then none else some text

/-- Orders texts by the code points of their characters, a text before its extensions. -/
def precedes : Text → Text → Bool
  | [], _ => true
  | _ :: _, [] => false
  | x :: left, y :: right => x < y || (x = y && precedes left right)

/-- The cut at the first separator is the one whose first part has none. -/
theorem cut_eq_some {c : Char} {text before after : Text} :
    cut c text = some (before, after) ↔ text = before ++ c :: after ∧ c ∉ before := by
  induction text generalizing before after with
  | nil => simp [cut]
  | cons x rest ih =>
    cases before with
    | nil => grind [cut]
    | cons y before => grind [cut]

/-- There is no cut exactly when the separator does not occur. -/
theorem cut_eq_none {c : Char} {text : Text} : cut c text = none ↔ c ∉ text := by
  induction text with
  | nil => simp [cut]
  | cons x rest ih => grind [cut]

/-- There is no last cut exactly when the separator does not occur. -/
theorem cutLast_eq_none {c : Char} {text : Text} : cutLast c text = none ↔ c ∉ text := by
  induction text with
  | nil => simp [cutLast]
  | cons x rest ih => grind [cutLast]

/-- The cut at the last separator is the one whose second part has none. -/
theorem cutLast_eq_some {c : Char} {text before after : Text} :
    cutLast c text = some (before, after) ↔ text = before ++ c :: after ∧ c ∉ after := by
  induction text generalizing before after with
  | nil => simp [cutLast]
  | cons x rest ih =>
    cases before with
    | nil => grind [cutLast, cutLast_eq_none]
    | cons y before => grind [cutLast, cutLast_eq_none]

theorem precedes_trans {first second third : Text} (left : precedes first second = true)
    (right : precedes second third = true) : precedes first third = true := by
  induction first generalizing second third with
  | nil => rfl
  | cons x first ih =>
    match second, third with
    | y :: second, z :: third =>
      simp only [precedes, Bool.or_eq_true, Bool.and_eq_true, decide_eq_true_eq] at left right ⊢
      rcases left with less | ⟨rfl, left⟩
      · rcases right with more | ⟨rfl, _⟩
        · exact Or.inl (Char.lt_trans less more)
        · exact Or.inl less
      · rcases right with more | ⟨rfl, right⟩
        · exact Or.inl more
        · exact Or.inr ⟨rfl, ih left right⟩

theorem precedes_total (left right : Text) :
    precedes left right = true ∨ precedes right left = true := by
  induction left generalizing right with
  | nil => exact Or.inl rfl
  | cons x left ih =>
    cases right with
    | nil => exact Or.inr rfl
    | cons y right =>
      simp only [precedes, Bool.or_eq_true, Bool.and_eq_true, decide_eq_true_eq]
      rcases Nat.lt_trichotomy x.toNat y.toNat with less | same | more
      · exact Or.inl (Or.inl less)
      · obtain rfl := Char.toNat_inj.mp same
        rcases ih right with before | after
        · exact Or.inl (Or.inr ⟨rfl, before⟩)
        · exact Or.inr (Or.inr ⟨rfl, after⟩)
      · exact Or.inr (Or.inl more)

/-- Texts that precede each other are the same, so the order is linear. -/
theorem precedes_antisymm {left right : Text} (before : precedes left right = true)
    (after : precedes right left = true) : left = right := by
  induction left generalizing right with
  | nil =>
    cases right with
    | nil => rfl
    | cons y right => cases after
  | cons x left ih =>
    match right with
    | y :: right =>
      simp only [precedes, Bool.or_eq_true, Bool.and_eq_true, decide_eq_true_eq] at before after
      rcases before with less | ⟨rfl, before⟩
      · rcases after with more | ⟨rfl, _⟩
        · exact absurd more (Char.lt_asymm less)
        · exact absurd less (Char.lt_irrefl _)
      · rcases after with more | ⟨_, after⟩
        · exact absurd more (Char.lt_irrefl _)
        · rw [ih before after]

end Text

end DataSource
