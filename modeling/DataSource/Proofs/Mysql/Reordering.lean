import DataSource.Proofs.Mysql.RoundTrip

/-! The order of the parameters does not matter, as long as no name is given twice. A parameter sets
one option or one entry of the table, whatever was set before, so two parameters with different
names may change places, and what has no equals sign sets nothing. Only the order of the table tells
in which order they came, and that order is not seen in what is written, since entries are written
in the order of their names. -/
namespace DataSource.Mysql.Descriptor

/-! ## Agreement -/

theorem Agrees.refl (descriptor : Descriptor) : descriptor.Agrees descriptor :=
  ⟨rfl, Table.Agrees.refl _⟩

theorem Agrees.trans {first second third : Descriptor} (left : first.Agrees second)
    (right : second.Agrees third) : first.Agrees third :=
  ⟨left.1.trans right.1, left.2.trans right.2⟩

/-- Descriptors that agree differ in their parameters alone. -/
theorem Agrees.eq_withParameters {left right : Descriptor} (agree : left.Agrees right) :
    left = { right with parameters := left.parameters } :=
  congrArg (fun next => { next with parameters := left.parameters }) agree.1

/-- Two readings have the same outcome: both fail, or they give descriptors that agree. -/
def OutcomesAgree : Except Error Descriptor → Except Error Descriptor → Prop
  | .ok left, .ok right => left.Agrees right
  | .error _, .error _ => True
  | _, _ => False

namespace OutcomesAgree
variable {first second third : Except Error Descriptor} {f g : Descriptor → Except Error Descriptor}

theorem trans (left : OutcomesAgree first second) (right : OutcomesAgree second third) :
    OutcomesAgree first third := by
  match first, second, third with
  | .ok _, .ok _, .ok _ => exact Agrees.trans left right
  | .error _, .error _, .error _ => trivial

theorem bind (outcomes : OutcomesAgree first second)
    (later : ∀ left right, left.Agrees right → OutcomesAgree (f left) (g right)) :
    OutcomesAgree (first >>= f) (second >>= g) := by
  match first, second with
  | .ok left, .ok right => exact later left right outcomes
  | .error _, .error _ => trivial

/-- What neither looks at the parameters nor changes them has the same outcome for descriptors that
agree. -/
theorem of_withParameters (f : Descriptor → Except Error Descriptor)
    (unread : ∀ (descriptor : Descriptor) parameters,
      f { descriptor with parameters } = (f descriptor).map fun next => { next with parameters })
    {left right : Descriptor} (agree : left.Agrees right) : OutcomesAgree (f left) (f right) := by
  have here := unread right left.parameters
  have there := unread right right.parameters
  rw [← agree.eq_withParameters] at here
  rw [here, there]
  cases f right with
  | error error => trivial
  | ok next => exact ⟨rfl, agree.2⟩

end OutcomesAgree

/-! ## Single parameters -/

/-- The descriptor with what a name sets taken over from another: an option or an entry of the
table. -/
def takeOver (descriptor source : Descriptor) (name : Text) : Descriptor :=
  match OptionName.ofText? name with
  | some option => descriptor.adopt source option
  | none =>
    { descriptor with
      parameters := descriptor.parameters.insert name ((source.parameters.find? name).getD []) }

/-- Whether the value of an option is accepted, and as what, does not depend on the descriptor. -/
theorem readOption_eq (descriptor : Descriptor) (option : OptionName) (value : Text) :
    descriptor.readOption option value =
      (readOption {} option value).map (descriptor.adopt · option) := by
  cases option with
  | flag flag =>
    simp only [readOption]
    cases truth? value <;> simp [Except.map, adopt, setFlag]
  | timeout timeout =>
    simp only [readOption]
    cases Duration.parse value <;> simp [Except.map, adopt, setTimeout]
  | collation => rfl
  | connectionAttributes =>
    simp only [readOption]
    cases readField OptionName.connectionAttributes.text value <;> rfl
  | location =>
    simp only [readOption]
    cases readLocation value <;> rfl
  | maxAllowedPacket =>
    simp only [readOption]
    rcases Numeral.toInt? value with long | (_ | size) <;> rfl
  | serverPublicKey =>
    simp only [readOption]
    cases readField OptionName.serverPublicKey.text value <;> rfl
  | tls =>
    simp only [readOption]
    cases readTls value <;> rfl

/-- A parameter is accepted by every descriptor or by none, and it sets the same in all. -/
theorem readAssignment_cases (name value : Text) :
    (∃ error, ∀ descriptor : Descriptor, descriptor.readAssignment name value = .error error) ∨
      ∃ source, ∀ descriptor : Descriptor,
        descriptor.readAssignment name value = .ok (descriptor.takeOver source name) := by
  unfold readAssignment takeOver
  cases OptionName.ofText? name with
  | some option =>
    cases read : readOption {} option value with
    | error error =>
      refine Or.inl ⟨error, fun descriptor => ?_⟩
      dsimp only
      rw [readOption_eq, read]
      rfl
    | ok source =>
      refine Or.inr ⟨source, fun descriptor => ?_⟩
      dsimp only
      rw [readOption_eq, read]
      rfl
  | none =>
    cases readField name value with
    | error error => exact Or.inl ⟨error, fun _ => rfl⟩
    | ok text =>
      refine Or.inr ⟨{ parameters := Table.empty.insert name text }, fun descriptor => ?_⟩
      simp [Except.map, Table.find?_insert]

theorem Agrees.takeOver {left right : Descriptor} (agree : left.Agrees right) (source : Descriptor)
    (name : Text) : (left.takeOver source name).Agrees (right.takeOver source name) := by
  unfold Descriptor.takeOver
  cases OptionName.ofText? name with
  | some option =>
    have skeleton : ∀ descriptor : Descriptor,
        (descriptor.adopt source option).skeleton = descriptor.skeleton.adopt source option := by
      intro descriptor
      cases option <;> rfl
    have parameters : ∀ descriptor : Descriptor,
        (descriptor.adopt source option).parameters = descriptor.parameters := by
      intro descriptor
      cases option <;> rfl
    refine ⟨?_, ?_⟩
    · rw [skeleton, skeleton, agree.1]
    · rw [parameters, parameters]
      exact agree.2
  | none => exact ⟨agree.1, agree.2.insert name _⟩

theorem adopt_comm {first second : OptionName} (different : first ≠ second)
    (descriptor source other : Descriptor) :
    (descriptor.adopt source first).adopt other second =
      (descriptor.adopt other second).adopt source first := by
  apply ext_options
  · simp only [withoutOptions_adopt]
  · intro option
    simp only [option_adopt]
    by_cases here : option = first
    · subst here
      simp [different]
    · simp [here]

theorem text_of_ofText? {name : Text} {option : OptionName}
    (found : OptionName.ofText? name = some option) : option.text = name := by
  simpa using List.find?_some found

/-- Two names may change places: they are different options, different entries of the table, or an
option and an entry. -/
theorem agrees_takeOver_comm {name other : Text} (different : name ≠ other)
    (descriptor first second : Descriptor) :
    ((descriptor.takeOver first name).takeOver second other).Agrees
      ((descriptor.takeOver second other).takeOver first name) := by
  unfold takeOver
  cases here : OptionName.ofText? name with
  | some option =>
    cases there : OptionName.ofText? other with
    | some next =>
      have options : option ≠ next := by
        rintro rfl
        exact different ((text_of_ofText? here).symm.trans (text_of_ofText? there))
      dsimp only
      rw [adopt_comm options]
      exact Agrees.refl _
    | none => cases option <;> exact Agrees.refl _
  | none =>
    cases OptionName.ofText? other with
    | some next => cases next <;> exact Agrees.refl _
    | none => exact ⟨rfl, Table.agrees_insert_comm different _ _ _⟩

/-! ## Lists of parameters -/

/-- Reads parameters that are cut at their equals signs, from the first to the last. -/
def readAssignments (descriptor : Descriptor) (assignments : List (Text × Text)) :
    Except Error Descriptor :=
  assignments.foldlM (fun next assignment => next.readAssignment assignment.1 assignment.2)
    descriptor

theorem readAssignments_cons (descriptor : Descriptor) (assignment : Text × Text)
    (rest : List (Text × Text)) :
    descriptor.readAssignments (assignment :: rest) =
      descriptor.readAssignment assignment.1 assignment.2 >>= (·.readAssignments rest) :=
  List.foldlM_cons

theorem outcomesAgree_readAssignment {left right : Descriptor} (agree : left.Agrees right)
    (name value : Text) :
    OutcomesAgree (left.readAssignment name value) (right.readAssignment name value) := by
  rcases readAssignment_cases name value with ⟨error, failed⟩ | ⟨source, read⟩
  · rw [failed, failed]
    trivial
  · rw [read, read]
    exact agree.takeOver source name

/-- Two parameters with different names may change places; where one of them is not accepted, both
orders fail. -/
theorem outcomesAgree_swap {left right : Descriptor} (agree : left.Agrees right)
    {name other : Text} (different : name ≠ other) (value new : Text) :
    OutcomesAgree (left.readAssignment name value >>= (·.readAssignment other new))
      (right.readAssignment other new >>= (·.readAssignment name value)) := by
  rcases readAssignment_cases name value with ⟨error, failed⟩ | ⟨first, read⟩
  · rcases readAssignment_cases other new with ⟨_, failedToo⟩ | ⟨_, readToo⟩
    · rw [failed, failedToo]
      trivial
    · rw [failed, readToo]
      show OutcomesAgree (.error error) (readAssignment _ name value)
      rw [failed]
      trivial
  · rcases readAssignment_cases other new with ⟨error, failed⟩ | ⟨second, readToo⟩
    · rw [read, failed]
      show OutcomesAgree (readAssignment _ other new) (.error error)
      rw [failed]
      trivial
    · rw [read, readToo]
      show OutcomesAgree (readAssignment _ other new) (readAssignment _ name value)
      rw [readToo, read]
      exact (agrees_takeOver_comm different left first second).trans
        ((agree.takeOver second other).takeOver first name)

theorem outcomesAgree_readAssignments (assignments : List (Text × Text)) {left right : Descriptor}
    (agree : left.Agrees right) :
    OutcomesAgree (left.readAssignments assignments) (right.readAssignments assignments) := by
  induction assignments generalizing left right with
  | nil => exact agree
  | cons assignment rest ih =>
    rw [readAssignments_cons, readAssignments_cons]
    exact (outcomesAgree_readAssignment agree _ _).bind fun _ _ => ih

/-- By induction on the permutation: parameters with distinct names may be read in any order. -/
theorem outcomesAgree_of_perm {first second : List (Text × Text)} (reordered : first.Perm second)
    (distinct : (first.map Prod.fst).Nodup) {left right : Descriptor} (agree : left.Agrees right) :
    OutcomesAgree (left.readAssignments first) (right.readAssignments second) := by
  induction reordered generalizing left right with
  | nil => exact agree
  | cons assignment _ ih =>
    rw [readAssignments_cons, readAssignments_cons]
    exact (outcomesAgree_readAssignment agree _ _).bind fun _ _ =>
      ih (List.nodup_cons.mp distinct).2
  | swap assignment other rest =>
    have different : other.1 ≠ assignment.1 := by
      rintro same
      simp [same] at distinct
    simp only [readAssignments_cons, ← bind_assoc]
    exact (outcomesAgree_swap agree different _ _).bind fun _ _ =>
      outcomesAgree_readAssignments rest
  | trans before _ one two =>
    have kept := (before.map Prod.fst).nodup_iff.mp distinct
    exact (one distinct (Agrees.refl left)).trans (two kept agree)

/-! ## Texts of parameters -/

/-- The parameters that a text gives, cut at their first equals signs. A piece without one gives
none. -/
def assignments (text : Text) : List (Text × Text) :=
  (text.splitOn '&').filterMap (Text.cut '=')

theorem readParameters_eq (descriptor : Descriptor) (text : Text) :
    descriptor.readParameters text = descriptor.readAssignments (assignments text) := by
  rw [readParameters, readAssignments, assignments, List.foldlM_filterMap]
  congr 1
  funext next piece
  unfold readParameter
  cases Text.cut '=' piece <;> rfl

/-- Joined pieces give what each of them gives. -/
theorem assignments_join (pieces : List Text) :
    assignments (Text.join '&' pieces) = pieces.flatMap assignments := by
  induction pieces with
  | nil => rfl
  | cons piece rest ih =>
    by_cases last : rest = []
    · simp [last, Text.join]
    · have split : (Text.join '&' (piece :: rest)).splitOn '&' =
          piece.splitOn '&' ++ (Text.join '&' rest).splitOn '&' := by
        rw [Text.join_cons '&' piece last, List.splitOn_append_cons_self]
      rw [assignments, split, List.filterMap_append, List.flatMap_cons, ← ih]
      rfl

theorem assignments_of_not_mem {piece : Text} (equals : '=' ∉ piece) : assignments piece = [] := by
  apply List.filterMap_eq_nil_iff.mpr
  intro part member
  exact Text.cut_eq_none.mpr fun inside => equals ((Text.mem_splitOn member).2 _ inside)

/-- A parameter whose separators are where they are to be. -/
structure IsPlain (parameter : Text × Text) : Prop where
  equals : '=' ∉ parameter.1
  name : '&' ∉ parameter.1
  value : '&' ∉ parameter.2

instance (parameter : Text × Text) : Decidable (IsPlain parameter) :=
  decidable_of_iff ('=' ∉ parameter.1 ∧ '&' ∉ parameter.1 ∧ '&' ∉ parameter.2)
    ⟨fun ⟨equals, name, value⟩ => ⟨equals, name, value⟩,
      fun ⟨equals, name, value⟩ => ⟨equals, name, value⟩⟩

theorem assignments_parameterText {parameter : Text × Text} (plain : IsPlain parameter) :
    assignments (parameterText parameter) = [parameter] := by
  have whole : '&' ∉ parameterText parameter := by
    simp [parameterText, plain.name, plain.value]
  have cut : Text.cut '=' (parameterText parameter) = some parameter :=
    Text.cut_eq_some.mpr ⟨rfl, plain.equals⟩
  rw [assignments, List.splitOn_eq_singleton whole, List.filterMap_cons_some cut,
    List.filterMap_nil]

theorem flatMap_assignments_parameterText {parameters : List (Text × Text)}
    (plain : ∀ parameter ∈ parameters, IsPlain parameter) :
    (parameters.map parameterText).flatMap assignments = parameters := by
  induction parameters with
  | nil => rfl
  | cons parameter rest ih =>
    rw [List.map_cons, List.flatMap_cons,
      assignments_parameterText (plain parameter List.mem_cons_self),
      ih fun other member => plain other (List.mem_cons_of_mem _ member), List.singleton_append]

/-- Pieces without an equals sign may be left out. -/
theorem flatMap_assignments_filter (pieces : List Text) :
    (pieces.filter fun piece => '=' ∈ piece).flatMap assignments = pieces.flatMap assignments := by
  induction pieces with
  | nil => rfl
  | cons piece rest ih =>
    rw [List.filter_cons, List.flatMap_cons, ← ih]
    by_cases equals : '=' ∈ piece
    · rw [if_pos (decide_eq_true equals), List.flatMap_cons]
    · rw [if_neg (by simpa using equals), assignments_of_not_mem equals, List.nil_append]

/-- The pieces are some parameters in whatever order, and among them are any pieces that have no
equals sign. No piece has a slash. -/
structure Arranges (pieces : List Text) (parameters : List (Text × Text)) : Prop where
  parameters : (pieces.filter fun piece => '=' ∈ piece).Perm (parameters.map parameterText)
  slash : ∀ piece ∈ pieces, '/' ∉ piece

/-- However they are arranged, the parameters are found, each as it was given. -/
theorem Arranges.perm_assignments {pieces : List Text} {parameters : List (Text × Text)}
    (arranged : Arranges pieces parameters)
    (plain : ∀ parameter ∈ parameters, IsPlain parameter) :
    (assignments (Text.join '&' pieces)).Perm parameters := by
  have reordered := arranged.parameters.flatMap_right assignments
  rw [flatMap_assignments_filter, flatMap_assignments_parameterText plain] at reordered
  rw [assignments_join]
  exact reordered

theorem Arranges.slash_not_mem_join {pieces : List Text} {parameters : List (Text × Text)}
    (arranged : Arranges pieces parameters) : '/' ∉ Text.join '&' pieces := by
  intro member
  rcases Text.mem_join member with mark | ⟨piece, listed, inside⟩
  · exact absurd mark (by decide)
  · exact arranged.slash piece listed inside

/-! ## Written forms -/

theorem pairwise_sortedParameters (descriptor : Descriptor) :
    descriptor.sortedParameters.Pairwise fun first second =>
      Text.precedes first.1 second.1 = true := by
  apply List.pairwise_mergeSort
  · intro first second third
    exact Text.precedes_trans
  · intro first second
    exact Bool.or_eq_true_iff.mpr (Text.precedes_total first.1 second.1)

/-- Parameters that agree are the same when they are sorted. -/
theorem sortedParameters_congr {left right : Descriptor}
    (agree : left.parameters.Agrees right.parameters) :
    left.sortedParameters = right.sortedParameters := by
  have reordered : left.sortedParameters.Perm right.sortedParameters :=
    left.sortedParameters_perm.trans (agree.perm_entries.trans right.sortedParameters_perm.symm)
  have value : ∀ {entry}, entry ∈ right.sortedParameters →
      right.parameters.find? entry.1 = some entry.2 := fun member =>
    (Table.value?_eq_some_iff right.parameters.names_nodup).mpr
      (right.sortedParameters_perm.mem_iff.mp member)
  refine List.Perm.eq_of_pairwise ?_ left.pairwise_sortedParameters
    right.pairwise_sortedParameters reordered
  -- Two entries with one name are the same, since the table has one value for it.
  rintro ⟨name, text⟩ ⟨other, new⟩ first second before after
  obtain rfl : name = other := Text.precedes_antisymm before after
  have here := value (reordered.mem_iff.mp first)
  rw [value second] at here
  cases here
  rfl

/-- Descriptors that agree are written alike. -/
theorem Agrees.format_eq {left right : Descriptor} (agree : left.Agrees right) :
    left.format = right.format := by
  have others : left.otherParameters = right.otherParameters :=
    congrArg (List.map fun entry : Text × Text => (entry.1, Text.Percent.encodeField entry.2))
      (sortedParameters_congr agree.2)
  obtain ⟨parameters, rfl⟩ : ∃ parameters, left = { right with parameters } :=
    ⟨_, agree.eq_withParameters⟩
  unfold format allParameters
  rw [others]
  rfl

/-! ## Data source names -/

theorem complete_withParameters (descriptor : Descriptor) (parameters : Table) :
    ({ descriptor with parameters } : Descriptor).complete =
      descriptor.complete.map fun next => { next with parameters } := by
  unfold complete
  dsimp only
  generalize (if descriptor.network = [] then standardNetwork else descriptor.network) = network
  split
  · rfl
  · split
    · cases standardAddress? network <;> rfl
    · split <;> rfl

theorem readDatabase_withParameters (text : Text) (descriptor : Descriptor) (parameters : Table) :
    ({ descriptor with parameters } : Descriptor).readDatabase text =
      (descriptor.readDatabase text).map fun next => { next with parameters } := by
  unfold readDatabase
  split <;> rfl

theorem parse_parameters {front database query : Text} (slash : '/' ∉ database ++ '?' :: query)
    (question : '?' ∉ database) :
    parse (front ++ '/' :: database ++ '?' :: query) =
      readAuthority {} front >>= fun descriptor =>
        descriptor.readParameters query >>= fun descriptor =>
          descriptor.readDatabase database >>= complete := by
  have cut : Text.cutLast '/' (front ++ '/' :: database ++ '?' :: query) =
      some (front, database ++ '?' :: query) :=
    Text.cutLast_eq_some.mpr ⟨by simp, slash⟩
  rw [parse, cut]
  simp only [Text.divide_append question]

theorem outcomesAgree_parse {front database : Text} (slash : '/' ∉ database)
    (question : '?' ∉ database) {parameters : List (Text × Text)}
    (plain : ∀ parameter ∈ parameters, IsPlain parameter)
    (distinct : (parameters.map Prod.fst).Nodup) {first second : List Text}
    (here : Arranges first parameters) (there : Arranges second parameters) :
    OutcomesAgree (parse (front ++ '/' :: database ++ '?' :: Text.join '&' first))
      (parse (front ++ '/' :: database ++ '?' :: Text.join '&' second)) := by
  have clean : ∀ {pieces}, Arranges pieces parameters →
      '/' ∉ database ++ '?' :: Text.join '&' pieces := fun arranged => by
    simp [slash, arranged.slash_not_mem_join]
  have reordered := (here.perm_assignments plain).trans (there.perm_assignments plain).symm
  have names := ((here.perm_assignments plain).map Prod.fst).nodup_iff.mpr distinct
  rw [parse_parameters (clean here) question, parse_parameters (clean there) question]
  cases readAuthority {} front with
  | error error => trivial
  | ok start =>
    have configured : OutcomesAgree (start.readParameters (Text.join '&' first))
        (start.readParameters (Text.join '&' second)) := by
      rw [readParameters_eq, readParameters_eq]
      exact outcomesAgree_of_perm reordered names (Agrees.refl start)
    refine configured.bind fun left right agree => ?_
    have named := OutcomesAgree.of_withParameters (·.readDatabase database)
      (readDatabase_withParameters database) agree
    exact named.bind fun left right agree =>
      OutcomesAgree.of_withParameters complete complete_withParameters agree

/-- Two data source names that give the same parameters in different orders, with any pieces that
say nothing among them, are both refused or both accepted; and then they are read as descriptors that
agree and are written alike. -/
theorem parse_reordered {front database : Text} (slash : '/' ∉ database) (question : '?' ∉ database)
    {parameters : List (Text × Text)} (plain : ∀ parameter ∈ parameters, IsPlain parameter)
    (distinct : (parameters.map Prod.fst).Nodup) {first second : List Text}
    (here : Arranges first parameters) (there : Arranges second parameters) :
    ((∃ error, parse (front ++ '/' :: database ++ '?' :: Text.join '&' first) = .error error) ↔
        ∃ error, parse (front ++ '/' :: database ++ '?' :: Text.join '&' second) = .error error) ∧
      ∀ left right, parse (front ++ '/' :: database ++ '?' :: Text.join '&' first) = .ok left →
        parse (front ++ '/' :: database ++ '?' :: Text.join '&' second) = .ok right →
          left.Agrees right ∧ left.format = right.format := by
  have outcomes : OutcomesAgree (parse (front ++ '/' :: database ++ '?' :: Text.join '&' first))
      (parse (front ++ '/' :: database ++ '?' :: Text.join '&' second)) :=
    outcomesAgree_parse slash question plain distinct here there
  generalize parse (front ++ '/' :: database ++ '?' :: Text.join '&' first) = one at outcomes
  generalize parse (front ++ '/' :: database ++ '?' :: Text.join '&' second) = two at outcomes
  match one, two with
  | .error _, .error _ => simp
  | .ok left, .ok right =>
    refine ⟨by simp, ?_⟩
    rintro _ _ ⟨⟩ ⟨⟩
    exact ⟨outcomes, Agrees.format_eq outcomes⟩

/-- Parameters of several kinds, two of them without a type. -/
def shuffledParameters : List (Text × Text) :=
  [("interpolateParams".toList, "true".toList), ("collation".toList, "utf8_bin".toList),
    ("b".toList, "x=y".toList), ("a".toList, "%26".toList), ("timeout".toList, "1m30s".toList)]

/-- The parameters in another order, with pieces that say nothing among them. -/
def shuffledPieces : List Text :=
  ["a=%26".toList, [], "timeout=1m30s".toList, "b=x=y".toList, "tls&?".toList,
    "collation=utf8_bin".toList, "interpolateParams=true".toList]

theorem parse_reordered_shuffled :
    Arranges (shuffledParameters.map parameterText) shuffledParameters ∧
      Arranges shuffledPieces shuffledParameters ∧
      ∃ left right,
        parse ("app:pw@tcp(db)".toList ++ '/' :: "orders".toList ++
          '?' :: Text.join '&' (shuffledParameters.map parameterText)) = .ok left ∧
        parse ("app:pw@tcp(db)".toList ++ '/' :: "orders".toList ++
          '?' :: Text.join '&' shuffledPieces) = .ok right ∧
        left.Agrees right ∧ left.format = right.format := by
  have here : Arranges (shuffledParameters.map parameterText) shuffledParameters :=
    ⟨by decide, by decide⟩
  have there : Arranges shuffledPieces shuffledParameters := ⟨by decide, by decide⟩
  have reordered := @parse_reordered "app:pw@tcp(db)".toList "orders".toList (by decide)
    (by decide) shuffledParameters (by decide) (by decide) _ _ here there
  have accepted : (parse ("app:pw@tcp(db)".toList ++ '/' :: "orders".toList ++
      '?' :: Text.join '&' (shuffledParameters.map parameterText))).map (·.database) =
        .ok "orders".toList := by
    decide +kernel
  have acceptedToo : (parse ("app:pw@tcp(db)".toList ++ '/' :: "orders".toList ++
      '?' :: Text.join '&' shuffledPieces)).map (·.database) = .ok "orders".toList := by
    decide +kernel
  obtain ⟨left, one, -⟩ := exists_of_map_eq_ok accepted
  obtain ⟨right, two, -⟩ := exists_of_map_eq_ok acceptedToo
  exact ⟨here, there, left, right, one, two, reordered.2 left right one two⟩

end DataSource.Mysql.Descriptor
