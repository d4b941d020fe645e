import DataSource.Mysql.Format
import DataSource.Proofs.Mysql.Legible
import DataSource.Proofs.Numeral
import DataSource.Proofs.Text.Percent

/-! What becomes of options and parameters that are written and read again. Every option but two is
read back as it was. A timeout that is not positive is left out, so it is read as none at all; and a
name for encryption that has a meaning of its own is read in its usual spelling. -/
namespace DataSource.Mysql

/-! ## Names for encryption -/

/-- A name for encryption that is read as another one, although it is written as it is: a truth
value but for the two usual ones, or one of two words with a letter in upper case. -/
def IsTlsAlias (name : Text) : Prop :=
  name ∈ ["1".toList, "TRUE".toList, "True".toList, "0".toList, "FALSE".toList, "False".toList] ∨
    ∃ word ∈ ["skip-verify".toList, "preferred".toList], name.map Char.toLower = word ∧ name ≠ word

instance (name : Text) : Decidable (IsTlsAlias name) :=
  inferInstanceAs (Decidable (_ ∨ _))

/-- The name for encryption as which a written one is read. -/
def settledTls (name : Text) : Text :=
  match truth? name with
  | some true => "true".toList
  | some false => "false".toList
  | none =>
    if name.map Char.toLower = "skip-verify".toList then "skip-verify".toList
    else if name.map Char.toLower = "preferred".toList then "preferred".toList
    else name

theorem truth?_encodeField (name : Text) : truth? (Text.Percent.encodeField name) = truth? name := by
  have word : ∀ word : Text, word.all Text.Percent.isUnreserved = true →
      (Text.Percent.encodeField name = word ↔ name = word) := fun _ =>
    Text.Percent.encodeField_eq_iff
  simp only [truth?, word ['1'] (by decide), word "true".toList (by decide),
    word "TRUE".toList (by decide), word "True".toList (by decide), word ['0'] (by decide),
    word "false".toList (by decide), word "FALSE".toList (by decide),
    word "False".toList (by decide)]

theorem isUnreserved_of_isAlphanum {c : Char} (letter : c.isAlphanum = true) :
    Text.Percent.isUnreserved c = true := by
  simp [Text.Percent.isUnreserved, letter]

/-- A character whose lower case is an ASCII letter or a hyphen needs no escape. -/
theorem isUnreserved_of_toLower {c : Char} (letter : c.toLower.isLower = true ∨ c.toLower = '-') :
    Text.Percent.isUnreserved c = true := by
  by_cases upper : c.val ≥ 'A'.val ∧ c.val ≤ 'Z'.val
  · have capital : c.isUpper = true := decide_eq_true upper
    apply isUnreserved_of_isAlphanum
    show ((c.isUpper || c.isLower) || c.isDigit) = true
    rw [capital, Bool.true_or, Bool.true_or]
  · have same : c.toLower = c := dif_neg upper
    rw [same] at letter
    rcases letter with small | rfl
    · apply isUnreserved_of_isAlphanum
      show ((c.isUpper || c.isLower) || c.isDigit) = true
      rw [small, Bool.or_true, Bool.true_or]
    · decide

theorem lowerToAscii_of_isUnreserved {c : Char} (unreserved : Text.Percent.isUnreserved c = true) :
    Text.lowerToAscii c = c.toLower := by
  refine if_neg ?_
  rintro rfl
  exact absurd unreserved (by decide)

/-- A word in lower case is spelled by what is written for a name exactly when it is the name in
lower case. -/
theorem spells_encodeField (word : Text) (lower : (word.all fun c => c.isLower || c = '-') = true)
    (name : Text) :
    Text.spells word (Text.Percent.encodeField name) = true ↔ name.map Char.toLower = word := by
  have letters : ∀ c ∈ word, c.isLower = true ∨ c = '-' := by simpa using lower
  rw [Text.spells, decide_eq_true_iff]
  constructor
  · intro spelled
    have unreserved : ∀ c ∈ Text.Percent.encodeField name, Text.Percent.isUnreserved c = true := by
      intro c member
      have letter := letters (Text.lowerToAscii c) (spelled ▸ List.mem_map_of_mem member)
      rcases Text.Percent.mem_encodeField member with unreserved | rfl | rfl
      · exact unreserved
      · exact absurd letter (by decide)
      · exact absurd letter (by decide)
    have same := Text.Percent.encodeField_of_unreserved unreserved
    rw [same] at spelled unreserved
    rw [← spelled]
    apply List.map_congr_left
    intro c member
    exact (lowerToAscii_of_isUnreserved (unreserved c member)).symm
  · intro lowered
    have unreserved : ∀ c ∈ name, Text.Percent.isUnreserved c = true := fun c member =>
      isUnreserved_of_toLower (letters c.toLower (lowered ▸ List.mem_map_of_mem member))
    rw [Text.Percent.encodeField_eq_self unreserved, ← lowered]
    exact List.map_congr_left fun c member => lowerToAscii_of_isUnreserved (unreserved c member)

theorem readTls_encodeField (name : Text) :
    readTls (Text.Percent.encodeField name) = .ok (settledTls name) := by
  have unverified := spells_encodeField "skip-verify".toList (by decide) name
  have preferred := spells_encodeField "preferred".toList (by decide) name
  simp only [readTls, settledTls, truth?_encodeField, unverified, preferred, readField,
    Text.Percent.decode_encodeField]
  cases truth? name with
  | some on => cases on <;> rfl
  | none =>
    dsimp only
    split
    · rfl
    · split <;> rfl

/-- A name for encryption is kept exactly when it is no alias. -/
theorem settledTls_eq_iff (name : Text) : settledTls name = name ↔ ¬ IsTlsAlias name := by
  by_cases yes : name = ['1'] ∨ name = "true".toList ∨ name = "TRUE".toList ∨ name = "True".toList
  · rcases yes with rfl | rfl | rfl | rfl <;> decide
  by_cases no : name = ['0'] ∨ name = "false".toList ∨ name = "FALSE".toList ∨ name = "False".toList
  · rcases no with rfl | rfl | rfl | rfl <;> decide
  have unknown : truth? name = none := by
    rw [truth?, if_neg yes, if_neg no]
  have no_truth : name ∉ ["1".toList, "TRUE".toList, "True".toList, "0".toList, "FALSE".toList,
      "False".toList] := by
    intro member
    simp only [not_or] at yes no
    simp only [List.mem_cons, List.not_mem_nil, or_false] at member
    rcases member with one | upper | capital | zero | upper | capital
    · exact yes.1 one
    · exact yes.2.2.1 upper
    · exact yes.2.2.2 capital
    · exact no.1 zero
    · exact no.2.2.1 upper
    · exact no.2.2.2 capital
  simp only [settledTls, unknown, IsTlsAlias, no_truth, false_or, List.mem_cons, List.not_mem_nil,
    or_false, exists_eq_or_imp, exists_eq_left]
  generalize name.map Char.toLower = lowered
  generalize "skip-verify".toList = unverified
  generalize "preferred".toList = preferred
  grind

namespace Descriptor

/-! ## Single options -/

/-- The descriptor as which a written one is read: there is no password without a user, an address
gets its port, and encryption and the timeouts are settled. -/
def reread (descriptor : Descriptor) : Descriptor :=
  { descriptor with
    password := if descriptor.user = [] then [] else descriptor.password
    address :=
      if descriptor.network = standardNetwork then ensurePort descriptor.address
      else descriptor.address
    tls := settledTls descriptor.tls
    timeouts := fun timeout =>
      if 0 < (descriptor.timeouts timeout).micros then descriptor.timeouts timeout else ⟨0⟩ }

theorem truth?_flagText (on : Bool) : truth? (flagText on) = some on := by
  cases on <;> rfl

theorem readField_encodeField (name value : Text) :
    readField name (Text.Percent.encodeField value) = .ok value := by
  rw [readField, Text.Percent.decode_encodeField]
  rfl

theorem fieldText?_eq_none {value : Text} (left_out : fieldText? value = none) : value = [] := by
  unfold fieldText? Text.nonempty? at left_out
  split at left_out
  · assumption
  · cases left_out

theorem readLocation_encodeField {zone : Text}
    (legible : (OptionValue.text zone).IsLegible .location) :
    readLocation (Text.Percent.encodeField zone) = .ok zone := by
  have nonempty : zone ≠ [] := by
    rintro rfl
    rcases legible with standard | machine | known
    · exact absurd standard (by decide)
    · exact absurd machine (by decide)
    · exact absurd known (by decide)
  rw [readLocation, readField_encodeField]
  dsimp only
  by_cases standard : zone = standardLocation
  · rw [if_pos (Or.inr standard), standard]
  · rw [if_neg (fun either => either.elim nonempty standard), if_pos (legible.resolve_left standard)]

/-- The value of an option as it would be written, were it not left out. -/
def valueText (descriptor : Descriptor) : OptionName → Text
  | .flag flag => flagText (descriptor.flags flag)
  | .timeout timeout => (descriptor.timeouts timeout).format
  | .collation => descriptor.collation
  | .connectionAttributes => Text.Percent.encodeField descriptor.connectionAttributes
  | .location => Text.Percent.encodeField descriptor.location
  | .maxAllowedPacket => Numeral.ofInt descriptor.maxAllowedPacket
  | .serverPublicKey => Text.Percent.encodeField descriptor.serverPublicKey
  | .tls => Text.Percent.encodeField descriptor.tls

theorem eq_valueText_of_written {descriptor : Descriptor} {option : OptionName} {value : Text}
    (written : descriptor.written? option = some value) : value = descriptor.valueText option := by
  cases option <;>
    simp only [written?, fieldText?, Text.nonempty?] at written <;>
    split at written <;> cases written <;> rfl

theorem micros_pos_of_written {descriptor : Descriptor} {timeout : Timeout} {value : Text}
    (written : descriptor.written? (.timeout timeout) = some value) :
    0 < (descriptor.timeouts timeout).micros := by
  simp only [written?] at written
  split at written
  · assumption
  · cases written

/-- A written option is read as the option it was written for, but for what is settled. -/
theorem readOption_written {descriptor : Descriptor} {option : OptionName} {value : Text}
    (legible : (descriptor.option option).IsLegible option)
    (written : descriptor.written? option = some value) (other : Descriptor) :
    other.readOption option value = .ok (other.adopt descriptor.reread option) := by
  rw [eq_valueText_of_written written]
  cases option with
  | flag flag =>
    simp only [readOption, valueText, truth?_flagText]
    rfl
  | timeout timeout =>
    have read : Duration.parse (descriptor.timeouts timeout).format =
      .ok (descriptor.timeouts timeout) := legible
    have positive := micros_pos_of_written written
    simp only [readOption, valueText, read, adopt, reread, if_pos positive]
  | collation => rfl
  | connectionAttributes =>
    simp only [readOption, valueText, readField_encodeField]
    rfl
  | location =>
    simp only [readOption, valueText, readLocation_encodeField legible]
    rfl
  | maxAllowedPacket =>
    simp only [readOption, valueText, Numeral.toInt?_ofInt legible]
    rfl
  | serverPublicKey =>
    simp only [readOption, valueText, readField_encodeField]
    rfl
  | tls =>
    simp only [readOption, valueText, readTls_encodeField]
    rfl

/-- An option that is left out is settled at its standard value. -/
theorem option_reread_of_unwritten {descriptor : Descriptor} {option : OptionName}
    (left_out : descriptor.written? option = none) :
    descriptor.reread.option option = ({} : Descriptor).option option := by
  cases option with
  | flag flag =>
    simp only [written?] at left_out
    split at left_out
    · rename_i standard
      exact congrArg OptionValue.truth standard
    · cases left_out
  | timeout timeout =>
    simp only [written?] at left_out
    split at left_out
    · cases left_out
    · rename_i nonpositive
      exact congrArg OptionValue.wait (if_neg nonpositive)
  | collation =>
    simp only [written?] at left_out
    split at left_out
    · rename_i standard
      exact congrArg OptionValue.text standard
    · cases left_out
  | connectionAttributes => exact congrArg OptionValue.text (fieldText?_eq_none left_out)
  | location =>
    simp only [written?] at left_out
    split at left_out
    · rename_i standard
      exact congrArg OptionValue.text standard
    · cases left_out
  | maxAllowedPacket =>
    simp only [written?] at left_out
    split at left_out
    · rename_i standard
      exact congrArg OptionValue.number standard
    · cases left_out
  | serverPublicKey => exact congrArg OptionValue.text (fieldText?_eq_none left_out)
  | tls =>
    have empty : descriptor.tls = [] := fieldText?_eq_none left_out
    show OptionValue.text (settledTls descriptor.tls) = .text []
    rw [empty]
    rfl

theorem encodeField_clean (text : Text) :
    '&' ∉ Text.Percent.encodeField text ∧ '/' ∉ Text.Percent.encodeField text := by
  constructor
  · intro member
    exact absurd (Text.Percent.mem_encodeField member) (by decide)
  · intro member
    exact absurd (Text.Percent.mem_encodeField member) (by decide)

/-- No option is written with a separator. -/
theorem valueText_clean {descriptor : Descriptor} {option : OptionName}
    (legible : (descriptor.option option).IsLegible option) :
    '&' ∉ descriptor.valueText option ∧ '/' ∉ descriptor.valueText option := by
  cases option with
  | flag flag =>
    simp only [valueText]
    cases descriptor.flags flag <;> decide
  | timeout timeout =>
    constructor
    · intro member
      exact absurd (Duration.mem_format member) (by decide)
    · intro member
      exact absurd (Duration.mem_format member) (by decide)
  | collation => exact legible
  | maxAllowedPacket =>
    constructor
    · intro member
      exact absurd (Numeral.mem_ofInt member) (by decide)
    · intro member
      exact absurd (Numeral.mem_ofInt member) (by decide)
  | _ => exact encodeField_clean _

/-! ## Lists of parameters -/

/-- A parameter as it is written. -/
def parameterText (entry : Text × Text) : Text :=
  entry.1 ++ '=' :: entry.2

theorem readParameter_parameterText {name : Text} (equals : '=' ∉ name) (descriptor : Descriptor)
    (value : Text) :
    descriptor.readParameter (parameterText (name, value)) =
      descriptor.readAssignment name value := by
  rw [readParameter, parameterText, Text.cut_eq_some.mpr ⟨rfl, equals⟩]

theorem ofText?_text (option : OptionName) : OptionName.ofText? option.text = some option := by
  have all : ∀ option ∈ OptionName.all, OptionName.ofText? option.text = some option := by decide
  exact all option (OptionName.mem_all option)

theorem text_clean (option : OptionName) :
    '=' ∉ option.text ∧ '&' ∉ option.text ∧ '/' ∉ option.text := by
  have all : ∀ option ∈ OptionName.all,
      '=' ∉ option.text ∧ '&' ∉ option.text ∧ '/' ∉ option.text := by decide
  exact all option (OptionName.mem_all option)

/-- The written ones among some options, with their values. -/
def writtenOptions (descriptor : Descriptor) (options : List OptionName) : List (Text × Text) :=
  options.filterMap fun option => (descriptor.written? option).map fun value => (option.text, value)

/-- The descriptor with the written ones among some options taken over. -/
def adoptWritten (descriptor source : Descriptor) (options : List OptionName) : Descriptor :=
  options.foldl
    (fun next option =>
      if (source.written? option).isSome then next.adopt source.reread option else next)
    descriptor

theorem foldlM_writtenOptions {source : Descriptor} (settings : source.HasLegibleOptions)
    (options : List OptionName) (descriptor : Descriptor) :
    ((source.writtenOptions options).map parameterText).foldlM readParameter descriptor =
      .ok (descriptor.adoptWritten source options) := by
  induction options generalizing descriptor with
  | nil => rfl
  | cons option rest ih =>
    cases written : source.written? option with
    | none =>
      have same : source.writtenOptions (option :: rest) = source.writtenOptions rest := by
        simp [writtenOptions, written]
      rw [same, ih, adoptWritten, adoptWritten, List.foldl_cons, written]
      rfl
    | some value =>
      have more : source.writtenOptions (option :: rest) =
          (option.text, value) :: source.writtenOptions rest := by
        simp [writtenOptions, written]
      have first : descriptor.readParameter (parameterText (option.text, value)) =
          .ok (descriptor.adopt source.reread option) := by
        rw [readParameter_parameterText (text_clean option).1, readAssignment, ofText?_text]
        exact readOption_written (settings.options option) written descriptor
      rw [more, List.map_cons, List.foldlM_cons, first, adoptWritten, List.foldl_cons, written]
      exact ih _

theorem withoutOptions_adoptWritten (descriptor source : Descriptor) (options : List OptionName) :
    (descriptor.adoptWritten source options).withoutOptions = descriptor.withoutOptions := by
  induction options generalizing descriptor with
  | nil => rfl
  | cons option rest ih =>
    rw [adoptWritten, List.foldl_cons, ← adoptWritten, ih]
    split
    · exact withoutOptions_adopt descriptor source.reread option
    · rfl

theorem option_adoptWritten (descriptor source : Descriptor) (options : List OptionName)
    (option : OptionName) :
    (descriptor.adoptWritten source options).option option =
      if option ∈ options ∧ (source.written? option).isSome then source.reread.option option
      else descriptor.option option := by
  induction options generalizing descriptor with
  | nil => simp [adoptWritten]
  | cons first rest ih =>
    rw [adoptWritten, List.foldl_cons, ← adoptWritten, ih]
    by_cases same : option = first
    · subst same
      by_cases written : (source.written? option).isSome
      · simp [written, option_adopt]
      · simp [written]
    · by_cases written : (source.written? first).isSome
      · simp [written, option_adopt, same]
      · simp [written, same]

/-- Where all options are standard, to take over the written ones is to take over all as they are
reread. -/
theorem adoptWritten_all {descriptor : Descriptor} (source : Descriptor)
    (standard : ∀ option, descriptor.option option = ({} : Descriptor).option option) :
    descriptor.adoptWritten source OptionName.all = descriptor.withOptionsOf source.reread := by
  apply ext_options
  · rw [withoutOptions_adoptWritten, withoutOptions_withOptionsOf]
  · intro option
    rw [option_adoptWritten, option_withOptionsOf]
    cases written : source.written? option with
    | none => simp [standard, option_reread_of_unwritten written]
    | some value => simp [OptionName.mem_all]

theorem foldlM_parameters {entries : List (Text × Text)}
    (names : ∀ entry ∈ entries, IsParameterName entry.1) (descriptor : Descriptor) :
    ((entries.map fun entry => (entry.1, Text.Percent.encodeField entry.2)).map
        parameterText).foldlM readParameter descriptor =
      .ok { descriptor with parameters := descriptor.parameters.update entries } := by
  induction entries generalizing descriptor with
  | nil => rfl
  | cons entry rest ih =>
    have name := names entry List.mem_cons_self
    have first : descriptor.readParameter
        (parameterText (entry.1, Text.Percent.encodeField entry.2)) =
          .ok { descriptor with parameters := descriptor.parameters.insert entry.1 entry.2 } := by
      rw [readParameter_parameterText name.equals, readAssignment, ofText?_eq_none.mpr name.untyped]
      simp only [readField_encodeField]
      rfl
    rw [List.map_cons, List.map_cons, List.foldlM_cons, first]
    exact ih (fun other member => names other (List.mem_cons_of_mem _ member)) _

end Descriptor

end DataSource.Mysql
