import DataSource.Mysql.Parse

/-! The options of a descriptor, one at a time. A descriptor is the same as another when each of its
options is, and all that is no option; and to take one option over from another descriptor changes
nothing else. -/
namespace DataSource.Mysql

/-- The value of an option. -/
inductive OptionValue where
  | truth (on : Bool)
  | wait (duration : Duration)
  | number (n : Int)
  | text (text : Text)
  deriving DecidableEq

namespace Descriptor

/-- The value of an option of a descriptor. -/
def option (descriptor : Descriptor) : OptionName → OptionValue
  | .flag flag => .truth (descriptor.flags flag)
  | .timeout timeout => .wait (descriptor.timeouts timeout)
  | .collation => .text descriptor.collation
  | .connectionAttributes => .text descriptor.connectionAttributes
  | .location => .text descriptor.location
  | .maxAllowedPacket => .number descriptor.maxAllowedPacket
  | .serverPublicKey => .text descriptor.serverPublicKey
  | .tls => .text descriptor.tls

/-- The descriptor with all options of another. -/
def withOptionsOf (descriptor source : Descriptor) : Descriptor :=
  { source with
    user := descriptor.user
    password := descriptor.password
    network := descriptor.network
    address := descriptor.address
    database := descriptor.database
    parameters := descriptor.parameters
    redacted := descriptor.redacted }

/-- The descriptor with every option at its standard value. -/
def withoutOptions (descriptor : Descriptor) : Descriptor :=
  descriptor.withOptionsOf {}

/-- The descriptor with one option taken over from another. -/
def adopt (descriptor source : Descriptor) : OptionName → Descriptor
  | .flag flag => descriptor.setFlag flag (source.flags flag)
  | .timeout timeout => descriptor.setTimeout timeout (source.timeouts timeout)
  | .collation => { descriptor with collation := source.collation }
  | .connectionAttributes =>
    { descriptor with connectionAttributes := source.connectionAttributes }
  | .location => { descriptor with location := source.location }
  | .maxAllowedPacket => { descriptor with maxAllowedPacket := source.maxAllowedPacket }
  | .serverPublicKey => { descriptor with serverPublicKey := source.serverPublicKey }
  | .tls => { descriptor with tls := source.tls }

theorem option_withOptionsOf (descriptor source : Descriptor) (option : OptionName) :
    (descriptor.withOptionsOf source).option option = source.option option := by
  cases option <;> rfl

theorem withoutOptions_withOptionsOf (descriptor source : Descriptor) :
    (descriptor.withOptionsOf source).withoutOptions = descriptor.withoutOptions := rfl

theorem withoutOptions_adopt (descriptor source : Descriptor) (option : OptionName) :
    (descriptor.adopt source option).withoutOptions = descriptor.withoutOptions := by
  cases option <;> rfl

theorem option_adopt (descriptor source : Descriptor) (option other : OptionName) :
    (descriptor.adopt source option).option other =
      if other = option then source.option other else descriptor.option other := by
  by_cases same : other = option
  · subst same
    rw [if_pos rfl]
    cases other <;> simp [adopt, Descriptor.option, setFlag, setTimeout]
  · rw [if_neg same]
    cases option with
    | flag flag =>
      cases other with
      | flag else_flag =>
        have different : else_flag ≠ flag := fun equal => same (congrArg OptionName.flag equal)
        simp [adopt, Descriptor.option, setFlag, different]
      | _ => rfl
    | timeout timeout =>
      cases other with
      | timeout else_timeout =>
        have different : else_timeout ≠ timeout := fun equal =>
          same (congrArg OptionName.timeout equal)
        simp [adopt, Descriptor.option, setTimeout, different]
      | _ => rfl
    | _ => cases other <;> first | rfl | exact absurd rfl same

/-- Descriptors with the same options are equal if all else is. -/
theorem ext_options {left right : Descriptor} (rest : left.withoutOptions = right.withoutOptions)
    (options : ∀ option, left.option option = right.option option) : left = right := by
  rw [eq_iff] at rest ⊢
  obtain ⟨authority, ⟨parameters, -, -, -, -, -, -, redacted⟩, -, -⟩ := rest
  refine ⟨authority, ⟨parameters, ?_, ?_, ?_, ?_, ?_, ?_, redacted⟩, ?_, ?_⟩
  · exact OptionValue.text.inj (options .collation)
  · exact OptionValue.text.inj (options .location)
  · exact OptionValue.number.inj (options .maxAllowedPacket)
  · exact OptionValue.text.inj (options .serverPublicKey)
  · exact OptionValue.text.inj (options .tls)
  · exact OptionValue.text.inj (options .connectionAttributes)
  · exact fun timeout _ => OptionValue.wait.inj (options (.timeout timeout))
  · exact fun flag _ => OptionValue.truth.inj (options (.flag flag))

end Descriptor

end DataSource.Mysql
