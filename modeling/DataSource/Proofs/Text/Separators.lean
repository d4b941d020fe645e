import DataSource.Text.Basic
import Mathlib.Data.List.DropRight

/-! What cutting and trimming leave. A text that was put together around a separator is taken
apart at that very separator, and a trimmed text has kept characters at both of its ends. -/
namespace DataSource.Text

theorem any_eq_false_iff {p : Char → Bool} {text : Text} :
    text.any p = false ↔ ∀ c ∈ text, p c = false := by
  simp [List.any_eq_false]

theorem divide_append {c : Char} {before : Text} (absent : c ∉ before) (after : Text) :
    divide c (before ++ c :: after) = (before, after) := by
  rw [divide, cut_eq_some.mpr ⟨rfl, absent⟩]
  rfl

theorem divide_of_not_mem {c : Char} {text : Text} (absent : c ∉ text) :
    divide c text = (text, []) := by
  rw [divide, cut_eq_none.mpr absent]
  rfl

/-- The first part has no separator, and neither part has a character that the text lacks. -/
theorem divide_parts (c : Char) (text : Text) :
    c ∉ (divide c text).1 ∧ (∀ x ∈ (divide c text).1, x ∈ text) ∧
      ∀ x ∈ (divide c text).2, x ∈ text := by
  cases found : cut c text with
  | none =>
    have absent := cut_eq_none.mp found
    rw [divide_of_not_mem absent]
    exact ⟨absent, fun _ member => member, fun _ member => nomatch member⟩
  | some parts =>
    obtain ⟨before, after⟩ := parts
    obtain ⟨rfl, absent⟩ := cut_eq_some.mp found
    rw [divide_append absent]
    exact ⟨absent, fun x member => by simp [member], fun x member => by simp [member]⟩

theorem ne_of_not_mem {c : Char} {text : Text} (absent : c ∉ text) :
    ∀ x ∈ text, decide (x ≠ c) = true := by
  intro x member
  exact decide_eq_true fun same => absent (same ▸ member)

/-- Dividing takes what precedes the first separator, and what follows it. -/
theorem divide_eq (c : Char) (text : Text) :
    divide c text = (text.takeWhile (· ≠ c), (text.dropWhile (· ≠ c)).tail) := by
  cases found : cut c text with
  | none =>
    have absent := cut_eq_none.mp found
    have kept := ne_of_not_mem absent
    rw [divide_of_not_mem absent, List.takeWhile_eq_self_iff.mpr kept,
      List.dropWhile_eq_nil_iff.mpr kept, List.tail_nil]
  | some parts =>
    obtain ⟨rfl, absent⟩ := cut_eq_some.mp found
    have kept := ne_of_not_mem absent
    rw [divide_append absent, List.takeWhile_append_of_pos kept, List.dropWhile_append_of_pos kept,
      List.takeWhile_cons_of_neg (by simp), List.dropWhile_cons_of_neg (by simp), List.append_nil,
      List.tail_cons]

/-- A text has one last separator. -/
theorem eq_of_append_cons {c : Char} {before before' after after' : Text} (absent : c ∉ after)
    (absent' : c ∉ after') (same : before ++ c :: after = before' ++ c :: after') :
    before = before' ∧ after = after' := by
  have cut := cutLast_eq_some.mpr ⟨same, absent'⟩
  rw [cutLast_eq_some.mpr ⟨rfl, absent⟩] at cut
  cases cut
  exact ⟨rfl, rfl⟩

/-- A separator outside the first of two texts is looked for in the second. -/
theorem divide_append_of_not_mem {c : Char} {before : Text} (absent : c ∉ before) (rest : Text) :
    divide c (before ++ rest) = (before ++ (divide c rest).1, (divide c rest).2) := by
  have kept := ne_of_not_mem absent
  rw [divide_eq, divide_eq, List.takeWhile_append_of_pos kept, List.dropWhile_append_of_pos kept]

/-- A mark is found at its first character when that does not occur before it. -/
theorem after_append {c : Char} {front : Text} (absent : c ∉ front) (mark rest : Text) :
    after (c :: mark) (front ++ (c :: mark) ++ rest) = rest := by
  induction front with
  | nil => simp [after]
  | cons x front ih =>
    simp only [List.mem_cons, not_or] at absent
    have elsewhere : (c :: mark).isPrefixOf (x :: (front ++ (c :: mark) ++ rest)) = false := by
      simp [List.isPrefixOf, absent.1]
    rw [List.cons_append, List.cons_append, after, elsewhere]
    exact ih absent.2

/-- What follows a mark is the end of a text. -/
theorem after_suffix (mark text : Text) : after mark text <:+ text := by
  induction text with
  | nil => exact List.suffix_rfl
  | cons x rest ih =>
    rw [after]
    split
    · exact List.drop_suffix _ _
    · exact ih.trans (List.suffix_cons x rest)

/-- A mark in the first of two texts is found there. -/
theorem after_append_of_infix {mark text : Text} (inside : mark <:+: text) (more : Text) :
    after mark (text ++ more) = after mark text ++ more := by
  induction text with
  | nil =>
    rw [List.infix_nil.mp inside]
    cases more <;> simp [after]
  | cons x rest ih =>
    rw [List.cons_append, after, after]
    by_cases begins : mark <+: x :: rest
    · have longer : mark <+: x :: (rest ++ more) := begins.trans (List.prefix_append _ _)
      rw [if_pos (List.isPrefixOf_iff_prefix.mpr begins),
        if_pos (List.isPrefixOf_iff_prefix.mpr longer), ← List.cons_append,
        List.drop_append_of_le_length begins.length_le]
    · have later : mark <:+: rest := (List.infix_cons_iff.mp inside).resolve_left begins
      have short : ¬mark <+: x :: (rest ++ more) := by
        intro longer
        apply begins
        exact List.prefix_of_prefix_length_le longer (List.prefix_append (x :: rest) more)
          (Nat.le_succ_of_le later.length_le)
      rw [if_neg (mt List.isPrefixOf_iff_prefix.mp begins),
        if_neg (mt List.isPrefixOf_iff_prefix.mp short), ih later]

/-- A word without a separator begins a text as soon as it begins what precedes the separator. -/
theorem isPrefixOf_append_cons {c : Char} {word : Text} (absent : c ∉ word) (front rest : Text) :
    word.isPrefixOf (front ++ c :: rest) = word.isPrefixOf front := by
  induction word generalizing front with
  | nil => simp
  | cons x word ih =>
    simp only [List.mem_cons, not_or] at absent
    cases front with
    | nil => simp [List.isPrefixOf, Ne.symm absent.1]
    | cons y front => simp [List.isPrefixOf, ih absent.2]

/-- A piece between separators has none, and only characters of the text. -/
theorem mem_splitOn {c : Char} {text piece : Text} (member : piece ∈ text.splitOn c) :
    c ∉ piece ∧ ∀ x ∈ piece, x ∈ text := by
  induction text generalizing piece with
  | nil =>
    obtain rfl : piece = [] := by simpa using member
    exact ⟨List.not_mem_nil, fun _ none => nomatch none⟩
  | cons head tail ih =>
    rw [List.splitOn_cons_eq_if_modifyHead] at member
    split at member
    · rcases List.mem_cons.mp member with rfl | later
      · exact ⟨List.not_mem_nil, fun _ none => nomatch none⟩
      · exact ⟨(ih later).1, fun x inside => List.mem_cons_of_mem _ ((ih later).2 x inside)⟩
    · rename_i other
      cases pieces : tail.splitOn c with
      | nil => exact absurd pieces (List.splitOn_ne_nil c tail)
      | cons first rest =>
        rw [pieces, List.modifyHead_cons] at member
        rcases List.mem_cons.mp member with rfl | later
        · obtain ⟨absent, inside⟩ := ih (pieces ▸ List.mem_cons_self : first ∈ tail.splitOn c)
          refine ⟨?_, fun x found => ?_⟩
          · simpa [absent] using fun same : c = head => other (by simp [same])
          · rcases List.mem_cons.mp found with rfl | found
            · exact List.mem_cons_self
            · exact List.mem_cons_of_mem _ (inside x found)
        · obtain ⟨absent, inside⟩ := ih (pieces ▸ List.mem_cons_of_mem _ later)
          exact ⟨absent, fun x found => List.mem_cons_of_mem _ (inside x found)⟩

theorem join_singleton (separator : Char) (piece : Text) : join separator [piece] = piece :=
  List.intercalate_singleton

theorem join_cons (separator : Char) (first : Text) {rest : List Text} (more : rest ≠ []) :
    join separator (first :: rest) = first ++ separator :: join separator rest := by
  rw [join, List.intercalate_cons_of_ne_nil more, List.append_assoc]
  rfl

theorem head?_join (separator : Char) {first : Text} (nonempty : first ≠ []) (rest : List Text) :
    (join separator (first :: rest)).head? = first.head? := by
  by_cases last : rest = []
  · rw [last, join_singleton]
  · rw [join_cons separator first last, List.head?_append_of_ne_nil first nonempty]

theorem mem_join {separator c : Char} {pieces : List Text} (member : c ∈ join separator pieces) :
    c = separator ∨ ∃ piece ∈ pieces, c ∈ piece := by
  induction pieces with
  | nil => cases member
  | cons piece rest ih =>
    by_cases last : rest = []
    · subst last
      rw [join_singleton] at member
      exact Or.inr ⟨piece, List.mem_cons_self, member⟩
    · rw [join_cons separator piece last] at member
      rcases List.mem_append.mp member with first | later
      · exact Or.inr ⟨piece, List.mem_cons_self, first⟩
      · rcases List.mem_cons.mp later with mark | later
        · exact Or.inl mark
        · rcases ih later with mark | ⟨other, inside, found⟩
          · exact Or.inl mark
          · exact Or.inr ⟨other, List.mem_cons_of_mem _ inside, found⟩

/-- The first of the joined pieces is what precedes the first separator, unless it has one itself. -/
theorem takeWhile_join (separator : Char) (first : Text) (rest : List Text) :
    (join separator (first :: rest)).takeWhile (· ≠ separator) =
      first.takeWhile (· ≠ separator) := by
  by_cases last : rest = []
  · rw [last, join_singleton]
  · rw [join_cons separator first last, List.takeWhile_append,
      List.takeWhile_cons_of_neg (by simp), List.append_nil]
    split
    · rename_i whole
      exact ((List.takeWhile_prefix _).eq_of_length whole).symm
    · rfl

theorem head?_splitOn (separator : Char) (text : Text) :
    (text.splitOn separator).head? = some (text.takeWhile (· ≠ separator)) := by
  obtain ⟨first, rest, pieces⟩ := List.exists_cons_of_ne_nil (List.splitOn_ne_nil separator text)
  have absent : separator ∉ first := (mem_splitOn (pieces ▸ List.mem_cons_self)).1
  have joined : join separator (text.splitOn separator) = text := List.intercalate_splitOn separator
  rw [pieces] at joined
  rw [pieces, ← joined, takeWhile_join, List.takeWhile_eq_self_iff.mpr (ne_of_not_mem absent),
    List.head?_cons]

/-- A character of a text is the separator or in one of the pieces. -/
theorem exists_mem_splitOn (separator : Char) {c : Char} {text : Text} (member : c ∈ text) :
    c = separator ∨ ∃ piece ∈ text.splitOn separator, c ∈ piece := by
  apply mem_join
  rwa [join, List.intercalate_splitOn]

/-- What was joined is taken apart, empty pieces aside; no pieces at all leave one empty piece. -/
theorem filter_splitOn_join {separator : Char} {pieces : List Text}
    (clean : ∀ piece ∈ pieces, separator ∉ piece) (nonempty : ∀ piece ∈ pieces, piece ≠ []) :
    ((join separator pieces).splitOn separator).filter (· ≠ []) = pieces := by
  by_cases none : pieces = []
  · subst none
    rfl
  · rw [join, List.splitOn_intercalate separator clean none]
    apply List.filter_eq_self.mpr
    intro piece member
    exact decide_eq_true (nonempty piece member)

theorem dropWhile_of_head {drop : Char → Bool} {text : Text}
    (kept : ∀ c, text.head? = some c → drop c = false) : text.dropWhile drop = text := by
  cases text with
  | nil => rfl
  | cons c rest => rw [List.dropWhile_cons_of_neg (by simp [kept c rfl])]

/-- Dropping from the first of two texts beforehand changes nothing. -/
theorem dropWhile_dropWhile_append (drop : Char → Bool) (text rest : Text) :
    (text.dropWhile drop ++ rest).dropWhile drop = (text ++ rest).dropWhile drop := by
  rw [List.dropWhile_append, List.dropWhile_append, List.dropWhile_idempotent]

/-- A text that neither begins nor ends with a dropped character is trimmed already. -/
theorem trim_of_ends {drop : Char → Bool} {text : Text}
    (first : ∀ c, text.head? = some c → drop c = false)
    (last : ∀ c, text.getLast? = some c → drop c = false) : trim drop text = text := by
  have reversed : ∀ c, text.reverse.head? = some c → drop c = false := by
    simpa using last
  rw [trim, trimEnd, dropWhile_of_head first, dropWhile_of_head reversed, List.reverse_reverse]

/-- Trimming takes away a beginning and an end. -/
theorem exists_trim_append (drop : Char → Bool) (text : Text) :
    ∃ dropped, text.dropWhile drop = trim drop text ++ dropped := by
  obtain ⟨dropped, parts⟩ := List.dropWhile_suffix drop (l := (text.dropWhile drop).reverse)
  refine ⟨dropped.reverse, ?_⟩
  rw [trim, trimEnd, ← List.reverse_append, parts, List.reverse_reverse]

theorem mem_of_mem_trim {drop : Char → Bool} {text : Text} {c : Char}
    (member : c ∈ trim drop text) : c ∈ text := by
  obtain ⟨dropped, parts⟩ := exists_trim_append drop text
  apply (List.dropWhile_sublist drop).subset
  rw [parts]
  exact List.mem_append_left _ member

theorem head_trim {drop : Char → Bool} {text : Text} {c : Char}
    (first : (trim drop text).head? = some c) : drop c = false := by
  obtain ⟨dropped, parts⟩ := exists_trim_append drop text
  have kept := List.head?_dropWhile_not drop text
  rw [parts, List.head?_append, first] at kept
  exact kept

theorem getLast_trimEnd {drop : Char → Bool} {text : Text} {c : Char}
    (last : (trimEnd drop text).getLast? = some c) : drop c = false := by
  have kept := List.head?_dropWhile_not drop text.reverse
  rw [trimEnd, List.getLast?_reverse] at last
  rw [last] at kept
  exact kept

theorem getLast_trim {drop : Char → Bool} {text : Text} {c : Char}
    (last : (trim drop text).getLast? = some c) : drop c = false :=
  getLast_trimEnd last

theorem trim_eq_self_iff {drop : Char → Bool} {text : Text} :
    trim drop text = text ↔
      (∀ c, text.head? = some c → drop c = false) ∧
        ∀ c, text.getLast? = some c → drop c = false := by
  constructor
  · intro trimmed
    exact ⟨fun c first => head_trim (trimmed ▸ first), fun c last => getLast_trim (trimmed ▸ last)⟩
  · rintro ⟨first, last⟩
    exact trim_of_ends first last

theorem trim_of_forall {drop : Char → Bool} {text : Text} (kept : ∀ c ∈ text, drop c = false) :
    trim drop text = text :=
  trim_of_ends (fun c first => kept c (List.mem_of_head? first))
    fun c last => kept c (List.mem_of_getLast? last)

/-- Characters at the ends that are dropped make no difference. -/
theorem trim_cons_concat {drop : Char → Bool} {first last : Char} (firstDropped : drop first = true)
    (lastDropped : drop last = true) (text : Text) :
    trim drop (first :: text ++ [last]) = trim drop text := by
  rw [trim, trim, List.cons_append, List.dropWhile_cons_of_pos firstDropped, List.dropWhile_append]
  split
  · rename_i nothing
    rw [List.isEmpty_iff.mp nothing, List.dropWhile_cons_of_pos lastDropped, List.dropWhile_nil]
  · rw [trimEnd, List.reverse_append, List.reverse_singleton, List.singleton_append,
      List.dropWhile_cons_of_pos lastDropped, trimEnd]

/-- What is trimmed off the end is a run of the dropped character. -/
theorem exists_trimEnd_append (c : Char) (text : Text) :
    ∃ n, text = trimEnd (· = c) text ++ List.replicate n c := by
  have dropped : ∀ x ∈ text.reverse.takeWhile (fun x => decide (x = c)), x = c := fun x member =>
    of_decide_eq_true (List.all_eq_true.mp List.all_takeWhile x member)
  refine ⟨(text.reverse.takeWhile (fun x => decide (x = c))).length, ?_⟩
  rw [← List.reverse_replicate, ← List.eq_replicate_of_mem dropped, trimEnd, ← List.reverse_append,
    List.takeWhile_append_dropWhile, List.reverse_reverse]

end DataSource.Text
