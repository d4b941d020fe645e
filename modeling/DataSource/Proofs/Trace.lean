import DataSource.Trace

/-! What a result is made of when one step follows another, and what is read off it. A sequence of
steps fails with the error of the first step that fails, after all the steps before it have
succeeded. -/
namespace DataSource

section Outcomes
variable {α β ε : Type}

theorem exists_of_map_eq_ok {f : α → β} {outcome : Except ε α} {result : β}
    (same : outcome.map f = .ok result) : ∃ value, outcome = .ok value ∧ result = f value := by
  cases outcome with
  | error error => cases same
  | ok value =>
    cases same
    exact ⟨value, rfl, rfl⟩

theorem exists_of_bind_eq_ok {outcome : Except ε α} {next : α → Except ε β} {result : β}
    (same : outcome >>= next = .ok result) :
    ∃ value, outcome = .ok value ∧ next value = .ok result := by
  cases outcome with
  | error error => cases same
  | ok value => exact ⟨value, rfl, same⟩

theorem bind_eq_error_iff {outcome : Except ε α} {next : α → Except ε β} {error : ε} :
    outcome >>= next = .error error ↔
      outcome = .error error ∨ ∃ value, outcome = .ok value ∧ next value = .error error := by
  cases outcome with
  | error other => simp [Bind.bind, Except.bind]
  | ok value => simp [Bind.bind, Except.bind]

theorem map_eq_error_iff {f : α → β} {outcome : Except ε α} {error : ε} :
    outcome.map f = .error error ↔ outcome = .error error := by
  cases outcome <;> simp [Except.map]

/-- By induction on the list: a fold fails at the first element that fails. -/
theorem foldlM_eq_error_iff {f : β → α → Except ε β} {list : List α} {start : β} {error : ε} :
    list.foldlM f start = .error error ↔
      ∃ earlier element later reached, list = earlier ++ element :: later ∧
        earlier.foldlM f start = .ok reached ∧ f reached element = .error error := by
  induction list generalizing start with
  | nil => simp [Pure.pure, Except.pure]
  | cons first rest ih =>
    rw [List.foldlM_cons, bind_eq_error_iff]
    constructor
    · rintro (here | ⟨next, read, later⟩)
      · exact ⟨[], first, rest, start, rfl, rfl, here⟩
      · obtain ⟨earlier, element, more, reached, rfl, before, failed⟩ := ih.mp later
        refine ⟨first :: earlier, element, more, reached, rfl, ?_, failed⟩
        rw [List.foldlM_cons, read]
        exact before
    · rintro ⟨earlier, element, later, reached, parts, before, failed⟩
      cases earlier with
      | nil =>
        cases parts
        cases before
        exact Or.inl failed
      | cons head earlier =>
        cases parts
        rw [List.foldlM_cons] at before
        obtain ⟨next, read, before⟩ := exists_of_bind_eq_ok before
        exact Or.inr ⟨next, read, ih.mpr ⟨earlier, element, later, reached, rfl, before, failed⟩⟩

/-- By induction on the list: what every step preserves holds of what a fold reaches. -/
theorem invariant_of_foldlM {f : β → α → Except ε β} {list : List α} {start reached : β}
    {Invariant : β → Prop} (folded : list.foldlM f start = .ok reached) (holds : Invariant start)
    (step : ∀ element ∈ list, ∀ before after, Invariant before → f before element = .ok after →
      Invariant after) : Invariant reached := by
  induction list generalizing start with
  | nil =>
    cases folded
    exact holds
  | cons first rest ih =>
    rw [List.foldlM_cons] at folded
    obtain ⟨next, read, later⟩ := exists_of_bind_eq_ok folded
    refine ih later (step first List.mem_cons_self start next holds read) ?_
    exact fun element member => step element (List.mem_cons_of_mem _ member)

/-- By induction on the list: each of the results comes from an element. -/
theorem exists_of_mem_mapM {f : α → Except ε β} {list : List α} {results : List β}
    (reached : list.mapM f = .ok results) {result : β} (member : result ∈ results) :
    ∃ element ∈ list, f element = .ok result := by
  induction list generalizing results with
  | nil =>
    cases reached
    cases member
  | cons first rest ih =>
    rw [List.mapM_cons] at reached
    obtain ⟨head, here, reached⟩ := exists_of_bind_eq_ok reached
    obtain ⟨tail, later, made⟩ := exists_of_bind_eq_ok reached
    cases made
    rcases List.mem_cons.mp member with rfl | inTail
    · exact ⟨first, List.mem_cons_self, here⟩
    · obtain ⟨element, inside, found⟩ := ih later inTail
      exact ⟨element, List.mem_cons_of_mem _ inside, found⟩

theorem mapError_eq_error_iff {δ : Type} {f : ε → δ} {outcome : Except ε α} {error : δ} :
    outcome.mapError f = .error error ↔ ∃ cause, outcome = .error cause ∧ f cause = error := by
  constructor
  · intro same
    cases outcome with
    | error cause =>
      cases same
      exact ⟨cause, rfl, rfl⟩
    | ok value => cases same
  · rintro ⟨cause, rfl, rfl⟩
    rfl

theorem mapError_eq_ok_iff {δ : Type} {f : ε → δ} {outcome : Except ε α} {result : α} :
    outcome.mapError f = .ok result ↔ outcome = .ok result := by
  constructor
  · intro same
    cases outcome with
    | error cause => cases same
    | ok value =>
      cases same
      rfl
  · rintro rfl
    rfl

end Outcomes

namespace Traced
variable {α β : Type}

theorem result_bind (first : Traced α) (next : α → Traced β) :
    (first >>= next).result = first.result >>= fun value => (next value).result := by
  obtain ⟨result, queries, notes⟩ := first
  cases result <;> rfl

theorem ok_bind (value : α) (queries : List Query) (notes : List Note) (next : α → Traced β) :
    ((⟨.ok value, queries, notes⟩ : Traced α) >>= next) =
      ⟨(next value).result, queries ++ (next value).queries, notes ++ (next value).notes⟩ := rfl

theorem ask_bind (query : Query) (answer : Except Fault α) (next : Except Fault α → Traced β) :
    (ask query answer >>= next) =
      ⟨(next answer).result, query :: (next answer).queries, (next answer).notes⟩ := rfl

theorem note_bind (notes : List Note) (next : Unit → Traced β) :
    (note notes >>= next) = ⟨(next ()).result, (next ()).queries, notes ++ (next ()).notes⟩ := rfl

/-- A result that follows another came from a value of that one. -/
theorem exists_of_result_bind {first : Traced α} {next : α → Traced β} {value : β}
    (reached : (first >>= next).result = .ok value) :
    ∃ before, first.result = .ok before ∧ (next before).result = .ok value := by
  rw [result_bind] at reached
  exact exists_of_bind_eq_ok reached

/-- A function of the result leaves the way to it as it is. -/
theorem map_eq (f : α → β) (first : Traced α) :
    f <$> first = ⟨first.result.map f, first.queries, first.notes⟩ := by
  obtain ⟨result, queries, notes⟩ := first
  cases result <;> simp [Functor.map, bind, ofExcept, pure, Except.map]

theorem exists_of_result_map {first : Traced α} {f : α → β} {value : β}
    (reached : (f <$> first).result = .ok value) :
    ∃ before, first.result = .ok before ∧ f before = value := by
  rw [map_eq] at reached
  obtain ⟨before, found, same⟩ := exists_of_map_eq_ok reached
  exact ⟨before, found, same.symm⟩

/-- What follows a result may be replaced by what agrees with it on that result. -/
theorem bind_congr_of_result {first : Traced α} {next other : α → Traced β}
    (same : ∀ value, first.result = .ok value → next value = other value) :
    (first >>= next) = (first >>= other) := by
  obtain ⟨result, queries, notes⟩ := first
  cases result with
  | error error => rfl
  | ok value => simp only [Bind.bind, bind, same value rfl]

end Traced

end DataSource
