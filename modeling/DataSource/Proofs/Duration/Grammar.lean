import DataSource.Duration
import DataSource.Proofs.Numeral
import DataSource.Proofs.Text.Separators

/-! The texts that are taken apart into components. A component is spelled by the digits of its
number, at least one of them, with at most one point among them, and by a symbol of its unit after
them. A text has components exactly when it consists of their spellings. They cannot be told apart
in two ways: every spelling begins with a digit or a point, so an `m` before it is a minute. -/
namespace DataSource.Duration

/-- The symbols with which a unit may be written. There are two letters mu, and `u` for both. -/
def TimeUnit.symbols : TimeUnit → List Text
  | .microsecond => [['u', 's'], ['\u00b5', 's'], ['\u03bc', 's']]
  | unit => [unit.symbol]

/-- A text spells a component: there is a digit in its number, its digits stand around the point if
it has a fraction, and a symbol of its unit follows them. -/
structure Component.IsSpelledBy (component : Component) (text : Text) : Prop where
  nonempty : component.digits ≠ []
  digital : ∀ c ∈ component.digits, c.isDigit = true
  written : ∃ symbol ∈ component.unit.symbols,
    text = component.whole ++ component.fraction.elim [] (fun digits => '.' :: digits) ++ symbol

/-- A text spells components: it consists of their spellings, one after the other. -/
inductive SpelledBy : List Component → Text → Prop where
  | nil : SpelledBy [] []
  | cons {component : Component} {components : List Component} {text rest : Text}
      (first : component.IsSpelledBy text) (more : SpelledBy components rest) :
      SpelledBy (component :: components) (text ++ rest)

/-! ## Units -/

theorem TimeUnit.symbol_mem_symbols (unit : TimeUnit) : unit.symbol ∈ unit.symbols := by
  cases unit <;> decide

theorem TimeUnit.head_symbol {unit : TimeUnit} {symbol : Text} (known : symbol ∈ unit.symbols) :
    ∃ c rest, symbol = c :: rest ∧ c.isDigit = false ∧ c ≠ '.' := by
  have listed : ∀ unit : TimeUnit, ∀ symbol ∈ unit.symbols,
      (symbol.head?.any fun c => !c.isDigit && c ≠ '.') = true := by
    intro unit
    cases unit <;> decide
  obtain ⟨c, first, other⟩ := Option.any_eq_true _ _ |>.mp (listed unit symbol known)
  obtain ⟨rest, rfl⟩ := List.head?_eq_some_iff.mp first
  exact ⟨c, rest, rfl, by simpa using other⟩

theorem exists_symbol_of_readUnit {text rest : Text} {unit : TimeUnit}
    (read : readUnit text = some (unit, rest)) : ∃ symbol ∈ unit.symbols, text = symbol ++ rest := by
  unfold readUnit at read
  split at read
  case h_9 => cases read
  all_goals
    cases read
    simp [TimeUnit.symbols, TimeUnit.symbol]

/-- Only before an `s` is an `m` not a minute. -/
theorem readUnit_append {unit : TimeUnit} {symbol : Text} (known : symbol ∈ unit.symbols)
    {rest : Text} (next : rest.head? ≠ some 's') :
    readUnit (symbol ++ rest) = some (unit, rest) := by
  cases unit with
  | microsecond =>
    simp only [TimeUnit.symbols, List.mem_cons, List.not_mem_nil, or_false] at known
    rcases known with rfl | rfl | rfl <;> rfl
  | minute =>
    obtain rfl := List.mem_singleton.mp known
    cases rest with
    | nil => rfl
    | cons c more =>
      have other : c ≠ 's' := fun same => next (congrArg some same)
      show readUnit ('m' :: c :: more) = _
      unfold readUnit
      split <;> simp_all
  | _ =>
    obtain rfl := List.mem_singleton.mp known
    rfl

/-! ## Components -/

theorem takeWhile_isDigit {digits rest : Text} (all : ∀ c ∈ digits, c.isDigit = true)
    (stop : ∀ c, rest.head? = some c → c.isDigit = false) :
    (digits ++ rest).takeWhile Char.isDigit = digits ∧
      (digits ++ rest).dropWhile Char.isDigit = rest := by
  rw [List.takeWhile_append_of_pos all, List.dropWhile_append_of_pos all,
    Text.dropWhile_of_head stop]
  refine ⟨?_, rfl⟩
  cases rest with
  | nil => rw [List.takeWhile_nil, List.append_nil]
  | cons c more => rw [List.takeWhile_cons_of_neg (by simp [stop c rfl]), List.append_nil]

theorem readFraction_append {fraction : Option Text}
    (all : ∀ c ∈ fraction.getD [], c.isDigit = true) (rest : Text)
    (stop : ∀ c, rest.head? = some c → c.isDigit = false ∧ c ≠ '.') :
    readFraction (fraction.elim [] (fun digits => '.' :: digits) ++ rest) = (fraction, rest) := by
  cases fraction with
  | none =>
    show readFraction rest = (none, rest)
    unfold readFraction
    split
    · exact absurd rfl (stop '.' rfl).2
    · rfl
  | some digits =>
    have digital : ∀ c ∈ digits, c.isDigit = true := all
    obtain ⟨taken, left⟩ := takeWhile_isDigit digital (fun c first => (stop c first).1)
    show (some ((digits ++ rest).takeWhile Char.isDigit), (digits ++ rest).dropWhile Char.isDigit) =
      (some digits, rest)
    rw [taken, left]

/-- What is read as a fraction is a point and the digits after it. -/
theorem eq_readFraction_append (text : Text) :
    text = (readFraction text).1.elim [] (fun digits => '.' :: digits) ++ (readFraction text).2 ∧
      ∀ c ∈ (readFraction text).1.getD [], c.isDigit = true := by
  unfold readFraction
  split
  · rename_i rest
    refine ⟨?_, fun c => List.all_eq_true.mp List.all_takeWhile c⟩
    rw [Option.elim_some, List.cons_append, List.takeWhile_append_dropWhile]
  · exact ⟨rfl, fun c none => nomatch none⟩

/-- A component is read off its spelling, whatever follows that. -/
theorem exists_spelling_of_readComponent {text rest : Text} {component : Component}
    (read : readComponent text = some (component, rest)) :
    ∃ front, component.IsSpelledBy front ∧ text = front ++ rest := by
  obtain ⟨parts, decimals⟩ := eq_readFraction_append (text.dropWhile Char.isDigit)
  have whole := List.takeWhile_append_dropWhile (p := Char.isDigit) (l := text)
  unfold readComponent at read
  dsimp only at read
  split at read
  · cases read
  rename_i nonempty
  split at read
  · rename_i unit left found
    cases read
    obtain ⟨symbol, known, ending⟩ := exists_symbol_of_readUnit found
    refine ⟨_, ⟨nonempty, fun c member => ?_, symbol, known, rfl⟩, ?_⟩
    · rcases List.mem_append.mp member with first | later
      · exact List.all_eq_true.mp List.all_takeWhile c first
      · exact decimals c later
    · rw [ending] at parts
      rw [List.append_assoc, List.append_assoc, ← parts, whole]
  · cases read

/-- A spelling is read off the front of a text, unless it ends in an `m` and an `s` follows. -/
theorem readComponent_append {component : Component} {front rest : Text}
    (spelled : component.IsSpelledBy front) (next : rest.head? ≠ some 's') :
    readComponent (front ++ rest) = some (component, rest) := by
  obtain ⟨nonempty, digital, symbol, known, rfl⟩ := spelled
  obtain ⟨c, tail, begins, other⟩ := TimeUnit.head_symbol known
  have stop : ∀ x, (symbol ++ rest).head? = some x → x.isDigit = false ∧ x ≠ '.' := by
    rintro x first
    rw [begins] at first
    cases first
    exact other
  have fraction := readFraction_append
    (fun c member => digital c (List.mem_append_right _ member)) (symbol ++ rest) stop
  have ends : ∀ x, (component.fraction.elim [] (fun digits => '.' :: digits) ++
      (symbol ++ rest)).head? = some x → x.isDigit = false := by
    intro x first
    cases decimals : component.fraction with
    | none => exact (stop x (by simpa [decimals] using first)).1
    | some digits =>
      obtain rfl : '.' = x := by simpa [decimals] using first
      decide
  obtain ⟨taken, left⟩ := takeWhile_isDigit
    (fun c member => digital c (List.mem_append_left _ member)) ends
  have number : component.whole ++ component.fraction.getD [] ≠ [] := nonempty
  simp only [readComponent, List.append_assoc, taken, left, fraction, if_neg number,
    readUnit_append known next]

/-! ## Texts -/

/-- A spelling begins with a digit or with a point. -/
theorem head_of_isSpelledBy {component : Component} {text : Text}
    (spelled : component.IsSpelledBy text) :
    ∃ c rest, text = c :: rest ∧ (c.isDigit = true ∨ c = '.') := by
  obtain ⟨nonempty, digital, symbol, known, rfl⟩ := spelled
  obtain ⟨whole, fraction, unit⟩ := component
  cases whole with
  | cons c rest => exact ⟨c, _, rfl, Or.inl (digital c List.mem_cons_self)⟩
  | nil =>
    cases fraction with
    | none => exact absurd rfl nonempty
    | some digits => exact ⟨'.', _, rfl, Or.inr rfl⟩

theorem head_of_spelledBy {components : List Component} {text : Text}
    (spelled : SpelledBy components text) {c : Char} (first : text.head? = some c) :
    c.isDigit = true ∨ c = '.' := by
  cases spelled with
  | nil => cases first
  | cons here more =>
    obtain ⟨head, rest, rfl, kind⟩ := head_of_isSpelledBy here
    cases first
    exact kind

theorem components?_nil : components? [] = some [] := by
  rw [components?, if_pos rfl]

theorem components?_of_readComponent {text rest : Text} {component : Component}
    (read : readComponent text = some (component, rest)) :
    components? text = (components? rest).map (component :: ·) := by
  have nonempty : text ≠ [] := by
    rintro rfl
    exact absurd (length_lt_of_readComponent read) (Nat.not_lt_zero _)
  rw [components?, if_neg nonempty]
  split
  · rename_i found
    cases read.symm.trans found
    cases components? rest <;> rfl
  · rename_i none
    cases read.symm.trans none

/-- A text is taken apart into components exactly when it spells them. -/
theorem components?_eq_some_iff {text : Text} {components : List Component} :
    components? text = some components ↔ SpelledBy components text := by
  constructor
  · intro read
    induction text using components?.induct generalizing components with
    | case1 =>
      cases components?_nil.symm.trans read
      exact .nil
    | case2 text nonempty component rest first more later ih =>
      rw [components?_of_readComponent first, later] at read
      cases read
      obtain ⟨front, spelled, rfl⟩ := exists_spelling_of_readComponent first
      exact .cons spelled (ih later)
    | case3 text nonempty component rest first failed ih =>
      rw [components?_of_readComponent first, failed] at read
      cases read
    | case4 text nonempty failed =>
      rw [components?, if_neg nonempty] at read
      split at read
      · rename_i found
        cases failed.symm.trans found
      · cases read
  · intro spelled
    induction spelled with
    | nil => exact components?_nil
    | cons first more ih =>
      rename_i component components front rest
      have next : rest.head? ≠ some 's' := by
        intro begins
        exact absurd (head_of_spelledBy more begins) (by decide)
      rw [components?_of_readComponent (readComponent_append first next), ih]
      rfl

/-- A spelling has a digit and a symbol, so it is no lone zero. -/
theorem two_le_length_of_spelledBy {components : List Component} {text : Text}
    (spelled : SpelledBy components text) (nonempty : components ≠ []) : 2 ≤ text.length := by
  cases spelled with
  | nil => exact absurd rfl nonempty
  | cons first more =>
    rename_i component components front rest
    obtain ⟨digits, -, symbol, known, rfl⟩ := first
    obtain ⟨c, tail, rfl, -⟩ := TimeUnit.head_symbol known
    have number : 1 ≤ (component.whole ++
        component.fraction.elim [] (fun digits => '.' :: digits)).length := by
      rw [List.length_append]
      have digits := List.length_pos_iff.mpr digits
      rw [Component.digits, List.length_append] at digits
      cases decimals : component.fraction with
      | none =>
        rw [decimals] at digits
        exact digits
      | some digits =>
        simp only [Option.elim_some, List.length_cons]
        omega
    simp only [List.length_append, List.length_cons] at number ⊢
    omega

/-! ## Magnitudes -/

/-- A magnitude is a lone zero, or the sum of the components that are spelled if it is not too
great. -/
theorem magnitude?_eq_some_iff {text : Text} {micros : Nat} :
    magnitude? text = some micros ↔
      (text = ['0'] ∧ micros = 0) ∨
        ∃ components, components ≠ [] ∧ SpelledBy components text ∧
          ¬ greatest < total components ∧ (total components).round = micros := by
  constructor
  · intro read
    unfold magnitude? at read
    split at read
    · rename_i zero
      exact Or.inl ⟨zero, (Option.some.inj read).symm⟩
    split at read
    · cases read
    rename_i nonempty
    split at read
    · rename_i components found
      have spelled := components?_eq_some_iff.mp found
      split at read
      · cases read
      rename_i small
      refine Or.inr ⟨components, ?_, spelled, small, Option.some.inj read⟩
      rintro rfl
      cases spelled
      exact nonempty rfl
    · cases read
  · rintro (⟨rfl, rfl⟩ | ⟨components, nonempty, spelled, small, rfl⟩)
    · rfl
    · have long := two_le_length_of_spelledBy spelled nonempty
      have number : text ≠ ['0'] := by
        rintro rfl
        exact absurd long (by decide)
      have present : text ≠ [] := by
        rintro rfl
        exact absurd long (by decide)
      rw [magnitude?, if_neg number, if_neg present, components?_eq_some_iff.mpr spelled]
      exact if_neg small

/-! ## Signs -/

/-- No spelling begins with a sign. -/
theorem sign_of_spelledBy {components : List Component} {text : Text}
    (spelled : SpelledBy components text) : Numeral.sign text = (false, text) := by
  cases text with
  | nil => rfl
  | cons c rest =>
    have first := head_of_spelledBy spelled rfl
    apply Numeral.sign_of_ne
    · rintro rfl
      exact absurd first (by decide)
    · rintro rfl
      exact absurd first (by decide)

/-- A duration is its magnitude with the sign that the text begins with. -/
theorem parse_eq_ok_iff {text : Text} {duration : Duration} :
    parse text = .ok duration ↔
      ∃ micros, magnitude? (Numeral.sign text).2 = some micros ∧
        duration.micros = if (Numeral.sign text).1 then -(micros : Int) else micros := by
  obtain ⟨n⟩ := duration
  unfold parse
  dsimp only
  cases magnitude? (Numeral.sign text).2 with
  | none => exact iff_of_false nofun (by simp)
  | some micros =>
    rw [Except.ok.injEq, Duration.mk.injEq]
    constructor
    · intro same
      exact ⟨micros, rfl, same.symm⟩
    · rintro ⟨_, ⟨⟩, same⟩
      exact same.symm

/-- A magnitude is read after a sign as well as without one. -/
theorem parse_sign_append {mark text : Text} (known : mark ∈ Numeral.signs)
    (unsigned : Numeral.sign text = (false, text)) {micros : Nat}
    (magnitude : magnitude? text = some micros) :
    parse (mark ++ text) = .ok ⟨if mark = ['-'] then -(micros : Int) else micros⟩ := by
  refine parse_eq_ok_iff.mpr ⟨micros, ?_, ?_⟩
  · rw [Numeral.sign_append known unsigned]
    exact magnitude
  · simp only [Numeral.sign_append known unsigned, decide_eq_true_eq]

theorem magnitude?_of_parse {text : Text} {duration : Duration}
    (read : parse text = .ok duration) :
    magnitude? (Numeral.sign text).2 = some duration.micros.natAbs := by
  obtain ⟨micros, found, signed⟩ := parse_eq_ok_iff.mp read
  rw [found, signed]
  split <;> simp

end DataSource.Duration
