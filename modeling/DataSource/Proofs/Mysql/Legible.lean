import DataSource.Proofs.Duration
import DataSource.Proofs.Mysql.Options
import DataSource.Proofs.Network.Endpoint
import DataSource.Proofs.Table
import DataSource.Proofs.Text.Separators
import DataSource.Proofs.Trace

/-! Legible descriptors. Each part of such a descriptor lacks the separators that would end it too
early, and each option has a value that its reader accepts. Reading gives no other descriptors: what
precedes the slash makes the authority legible, every parameter after it keeps the options legible,
and completion fills in the network and the address. -/
namespace DataSource.Mysql

/-- A value that the option can be read as, given back by what is written for it. -/
def OptionValue.IsLegible : OptionName → OptionValue → Prop
  | .timeout _, .wait duration => Duration.parse duration.format = .ok duration
  | .collation, .text collation => '&' ∉ collation ∧ '/' ∉ collation
  | .location, .text zone =>
    zone = standardLocation ∨ zone = "Local".toList ∨ TimeZone.isKnown zone = true
  | .maxAllowedPacket, .number size => Numeral.fits size = true
  | _, _ => True

/-- A name under which a parameter is kept and found again. -/
structure IsParameterName (name : Text) : Prop where
  untyped : ∀ option : OptionName, option.text ≠ name
  equals : '=' ∉ name
  ampersand : '&' ∉ name
  slash : '/' ∉ name

theorem ofText?_eq_none {name : Text} :
    OptionName.ofText? name = none ↔ ∀ option : OptionName, option.text ≠ name := by
  simp [OptionName.ofText?, OptionName.mem_all]

namespace Descriptor

/-- The user, the network and the address end where they have to. -/
structure HasLegibleAuthority (descriptor : Descriptor) : Prop where
  user : ':' ∉ descriptor.user
  network : '(' ∉ descriptor.network ∧ '@' ∉ descriptor.network
  address : '@' ∉ descriptor.address
  redacted : descriptor.redacted = false

/-- The options and the other parameters can be read. -/
structure HasLegibleOptions (descriptor : Descriptor) : Prop where
  options : ∀ option, (descriptor.option option).IsLegible option
  parameters : ∀ name ∈ descriptor.parameters.names, IsParameterName name

/-- A descriptor that can be read after it is written. -/
structure Legible (descriptor : Descriptor) : Prop where
  authority : descriptor.HasLegibleAuthority
  settings : descriptor.HasLegibleOptions
  network : descriptor.network ≠ []
  address : descriptor.address ≠ []
  collation :
    ¬ (descriptor.flags .interpolateParams = true ∧ isUnsafeCollation descriptor.collation = true)

/-! ## Options -/

theorem isLegible_of_readLocation {value zone : Text} (read : readLocation value = .ok zone) :
    (OptionValue.text zone).IsLegible .location := by
  unfold readLocation at read
  split at read
  · cases read
  · rename_i decoded _
    split at read
    · cases read
      exact Or.inl rfl
    · split at read
      · rename_i known
        cases read
        exact Or.inr known
      · cases read

/-- What is read for an option is legible. -/
theorem isLegible_of_readOption {descriptor next : Descriptor} {option : OptionName} {value : Text}
    (ampersand : '&' ∉ value) (slash : '/' ∉ value)
    (read : descriptor.readOption option value = .ok next) :
    (next.option option).IsLegible option := by
  cases option with
  | timeout timeout =>
    simp only [readOption] at read
    cases duration : Duration.parse value with
    | error invalid => simp [duration] at read
    | ok parsed =>
      rw [duration] at read
      cases read
      have again := Duration.parse_format (Duration.readable_of_parse duration)
      simpa [Descriptor.option, OptionValue.IsLegible, setTimeout] using again
  | collation =>
    cases read
    exact ⟨ampersand, slash⟩
  | location =>
    obtain ⟨zone, located, rfl⟩ := exists_of_map_eq_ok read
    exact isLegible_of_readLocation located
  | maxAllowedPacket =>
    simp only [readOption] at read
    split at read
    · rename_i size found
      cases read
      exact Numeral.fits_of_toInt? found
    · cases read
    · cases read
  | _ => trivial

/-- Reading an option changes nothing else. -/
theorem eq_adopt_of_readOption {descriptor next : Descriptor} {option : OptionName} {value : Text}
    (read : descriptor.readOption option value = .ok next) :
    next = descriptor.adopt next option := by
  cases option with
  | flag flag =>
    simp only [readOption] at read
    split at read
    · cases read
      simp [adopt, setFlag]
    · cases read
  | timeout timeout =>
    simp only [readOption] at read
    split at read
    · cases read
      simp [adopt, setTimeout]
    · cases read
  | collation =>
    cases read
    rfl
  | maxAllowedPacket =>
    simp only [readOption] at read
    split at read
    · cases read
      rfl
    · cases read
    · cases read
  | _ =>
    obtain ⟨text, -, rfl⟩ := exists_of_map_eq_ok read
    rfl

theorem HasLegibleAuthority.adopt {descriptor : Descriptor}
    (authority : descriptor.HasLegibleAuthority) (source : Descriptor) (option : OptionName) :
    (descriptor.adopt source option).HasLegibleAuthority := by
  cases option <;>
    exact ⟨authority.user, authority.network, authority.address, authority.redacted⟩

theorem HasLegibleOptions.congr {descriptor next : Descriptor}
    (settings : descriptor.HasLegibleOptions)
    (options : ∀ option, next.option option = descriptor.option option)
    (parameters : next.parameters = descriptor.parameters) : next.HasLegibleOptions where
  options := fun option => options option ▸ settings.options option
  parameters := parameters ▸ settings.parameters

theorem hasLegibleOptions_of_readOption {descriptor next : Descriptor} {option : OptionName}
    {value : Text} (settings : descriptor.HasLegibleOptions) (ampersand : '&' ∉ value)
    (slash : '/' ∉ value) (read : descriptor.readOption option value = .ok next) :
    next.HasLegibleOptions := by
  have adopted := eq_adopt_of_readOption read
  refine ⟨fun other => ?_, ?_⟩
  · by_cases same : other = option
    · exact same ▸ isLegible_of_readOption ampersand slash read
    · have kept := option_adopt descriptor next option other
      rw [← adopted, if_neg same] at kept
      exact kept ▸ settings.options other
  · have kept := congrArg Descriptor.parameters (withoutOptions_adopt descriptor next option)
    rw [← adopted] at kept
    exact (kept : next.parameters = _) ▸ settings.parameters

/-! ## Parameters -/

/-- One parameter keeps a descriptor legible. -/
theorem legible_of_readParameter {descriptor next : Descriptor} {text : Text}
    (authority : descriptor.HasLegibleAuthority) (settings : descriptor.HasLegibleOptions)
    (ampersand : '&' ∉ text) (slash : '/' ∉ text)
    (read : descriptor.readParameter text = .ok next) :
    next.HasLegibleAuthority ∧ next.HasLegibleOptions := by
  unfold readParameter at read
  split at read
  · cases read
    exact ⟨authority, settings⟩
  rename_i name value found
  obtain ⟨rfl, equals⟩ := Text.cut_eq_some.mp found
  simp only [List.mem_append, List.mem_cons, not_or] at ampersand slash
  unfold readAssignment at read
  split at read
  · rename_i option _
    have same := authority.adopt next option
    rw [← eq_adopt_of_readOption read] at same
    exact ⟨same, hasLegibleOptions_of_readOption settings ampersand.2.2 slash.2.2 read⟩
  · rename_i untyped
    obtain ⟨decoded, -, rfl⟩ := exists_of_map_eq_ok read
    refine ⟨⟨authority.user, authority.network, authority.address, authority.redacted⟩,
      fun option => ?_, fun other member => ?_⟩
    · have kept := settings.options option
      cases option <;> exact kept
    · rw [Table.names_insert] at member
      split at member
      · exact settings.parameters other member
      · rcases List.mem_append.mp member with old | new
        · exact settings.parameters other old
        · obtain rfl := List.mem_singleton.mp new
          exact ⟨ofText?_eq_none.mp untyped, equals, ampersand.1, slash.1⟩

/-- A whole list of parameters keeps a descriptor legible. -/
theorem legible_of_foldlM_readParameter {pieces : List Text} {descriptor next : Descriptor}
    (authority : descriptor.HasLegibleAuthority) (settings : descriptor.HasLegibleOptions)
    (clean : ∀ piece ∈ pieces, '&' ∉ piece ∧ '/' ∉ piece)
    (read : pieces.foldlM readParameter descriptor = .ok next) :
    next.HasLegibleAuthority ∧ next.HasLegibleOptions := by
  apply invariant_of_foldlM read ⟨authority, settings⟩
  intro piece member before after legible step
  obtain ⟨ampersand, slash⟩ := clean piece member
  exact legible_of_readParameter legible.1 legible.2 ampersand slash step

/-! ## The authority -/

theorem exists_of_readNetwork {descriptor next : Descriptor} {text : Text}
    (fresh : descriptor.address = []) (read : descriptor.readNetwork text = .ok next) :
    ∃ network address, next = { descriptor with network, address } ∧ '(' ∉ network ∧
      (∀ c ∈ network, c ∈ text) ∧ ∀ c ∈ address, c ∈ text := by
  unfold readNetwork at read
  split at read
  · rename_i absent
    cases read
    refine ⟨text, [], by rw [← fresh], Text.cut_eq_none.mp absent, ?_, ?_⟩
    · exact fun _ member => member
    · exact fun _ none => nomatch none
  · rename_i network rest found
    obtain ⟨rfl, absent⟩ := Text.cut_eq_some.mp found
    split at read
    · cases read
      refine ⟨network, rest.dropLast, rfl, absent, fun c member => List.mem_append_left _ member,
        fun c member => ?_⟩
      have inside := List.dropLast_subset rest member
      exact List.mem_append_right _ (List.mem_cons_of_mem _ inside)
    · split at read <;> cases read

theorem hasLegibleOptions_standard : ({} : Descriptor).HasLegibleOptions where
  options := by
    intro option
    cases option with
    | timeout timeout =>
      exact Duration.parse_format ⟨Nat.zero_le _, Binary64.representable_of_le (Nat.zero_le _)⟩
    | collation => exact ⟨by decide, by decide⟩
    | location => exact Or.inl rfl
    | maxAllowedPacket =>
      show Numeral.fits standardPacket = true
      decide
    | _ => trivial
  parameters := fun _ none => nomatch none

/-- What precedes the last slash makes a legible authority, and touches no option. -/
theorem legible_of_readAuthority {descriptor : Descriptor} {text : Text}
    (read : readAuthority {} text = .ok descriptor) :
    descriptor.HasLegibleAuthority ∧ descriptor.HasLegibleOptions := by
  have connected : ∀ user password front, ':' ∉ user → '@' ∉ front →
      readNetwork { user, password } front = .ok descriptor →
      descriptor.HasLegibleAuthority ∧ descriptor.HasLegibleOptions := by
    intro user password front colon at_sign read
    obtain ⟨network, address, rfl, paren, inNetwork, inAddress⟩ := exists_of_readNetwork rfl read
    exact ⟨⟨colon, ⟨paren, fun member => at_sign (inNetwork _ member)⟩,
      fun member => at_sign (inAddress _ member), rfl⟩,
      hasLegibleOptions_standard.congr (fun option => by cases option <;> rfl) rfl⟩
  unfold readAuthority at read
  split at read
  · rename_i absent
    exact connected [] [] text List.not_mem_nil (Text.cutLast_eq_none.mp absent) read
  · rename_i credentials front found
    have colon := (Text.divide_parts ':' credentials).1
    exact connected _ _ front colon (Text.cutLast_eq_some.mp found).2 read

/-! ## Completion -/

theorem mem_ensurePort {address : Text} {c : Char} (member : c ∈ ensurePort address) :
    c ∈ address ∨ c ∈ standardPort ∨ c = '[' ∨ c = ']' ∨ c = ':' := by
  unfold ensurePort at member
  split at member
  · exact Or.inl member
  · rcases Network.Endpoint.mem_join member with host | others
    · left
      unfold withoutBrackets at host
      split at host
      · exact List.mem_of_mem_tail (List.dropLast_subset _ host)
      · exact host
    · exact Or.inr others

theorem ensurePort_ne_nil {address : Text} (nonempty : address ≠ []) : ensurePort address ≠ [] := by
  unfold ensurePort
  split
  · exact nonempty
  · exact List.ne_nil_of_length_pos
      (Nat.lt_of_le_of_lt (Nat.zero_le _) (Network.Endpoint.length_lt_join _ standardPort))

theorem standardAddress?_legible {network address : Text}
    (found : standardAddress? network = some address) : address ≠ [] ∧ '@' ∉ address := by
  unfold standardAddress? at found
  split at found
  · cases found
    decide
  · split at found
    · cases found
      decide
    · cases found

/-- What completion makes of a descriptor: the network is the standard one if none is given, and so
is the address, to which the port is added on the standard network. -/
theorem exists_of_complete {descriptor next : Descriptor} (read : descriptor.complete = .ok next) :
    ∃ network address, next = { descriptor with network, address } ∧
      ¬ (descriptor.flags .interpolateParams = true ∧
        isUnsafeCollation descriptor.collation = true) ∧
      network = (if descriptor.network = [] then standardNetwork else descriptor.network) ∧
      ((descriptor.address = [] ∧ standardAddress? network = some address) ∨
        (descriptor.address ≠ [] ∧ network = standardNetwork ∧
          address = ensurePort descriptor.address) ∨
        (descriptor.address ≠ [] ∧ network ≠ standardNetwork ∧ address = descriptor.address)) := by
  unfold complete at read
  split at read
  · cases read
  rename_i safe
  generalize (if descriptor.network = [] then standardNetwork else descriptor.network) = network
    at read ⊢
  dsimp only at read
  split at read
  · rename_i empty
    split at read
    · rename_i address found
      cases read
      exact ⟨_, _, rfl, safe, rfl, Or.inl ⟨empty, found⟩⟩
    · cases read
  · rename_i present
    split at read
    · rename_i standard
      cases read
      exact ⟨_, _, rfl, safe, rfl, Or.inr (Or.inl ⟨present, standard, rfl⟩)⟩
    · rename_i other
      cases read
      exact ⟨_, _, rfl, safe, rfl, Or.inr (Or.inr ⟨present, other, rfl⟩)⟩

/-- A completed descriptor is legible if its parts were. -/
theorem legible_of_complete {descriptor next : Descriptor}
    (authority : descriptor.HasLegibleAuthority) (settings : descriptor.HasLegibleOptions)
    (read : descriptor.complete = .ok next) : next.Legible := by
  obtain ⟨network, address, rfl, safe, given, completed⟩ := exists_of_complete read
  have network_legible : ('(' ∉ network ∧ '@' ∉ network) ∧ network ≠ [] := by
    rw [given]
    split
    · decide
    · rename_i nonempty
      exact ⟨authority.network, nonempty⟩
  have address_legible : address ≠ [] ∧ '@' ∉ address := by
    rcases completed with ⟨-, found⟩ | ⟨present, -, rfl⟩ | ⟨present, -, rfl⟩
    · exact standardAddress?_legible found
    · refine ⟨ensurePort_ne_nil present, fun member => ?_⟩
      rcases mem_ensurePort member with inside | others
      · exact authority.address inside
      · exact absurd others (by decide)
    · exact ⟨present, authority.address⟩
  exact ⟨⟨authority.user, network_legible.1, address_legible.2, authority.redacted⟩,
    settings.congr (fun option => by cases option <;> rfl) rfl, network_legible.2,
    address_legible.1, safe⟩

/-- The ways in which a text is read: the empty one is completed at once, and in any other one the
parameters follow the authority, and the database name comes last. -/
theorem exists_stages_of_parse {text : Text} {descriptor : Descriptor}
    (read : parse text = .ok descriptor) :
    (text = [] ∧ complete {} = .ok descriptor) ∨
      ∃ before after connected configured database,
        Text.cutLast '/' text = some (before, after) ∧
        readAuthority {} before = .ok connected ∧
        connected.readParameters (Text.divide '?' after).2 = .ok configured ∧
        complete { configured with database } = .ok descriptor := by
  unfold parse at read
  split at read
  · split at read
    · rename_i empty
      exact Or.inl ⟨empty, read⟩
    · cases read
  rename_i before after found
  obtain ⟨connected, first, read⟩ := exists_of_bind_eq_ok read
  obtain ⟨configured, second, read⟩ := exists_of_bind_eq_ok read
  obtain ⟨named, third, read⟩ := exists_of_bind_eq_ok read
  unfold readDatabase at third
  split at third
  · cases third
    exact Or.inr ⟨before, after, connected, configured, _, found, first, second, read⟩
  · cases third

/-- Every descriptor that is read off a text is legible. -/
theorem legible_of_parse {text : Text} {descriptor : Descriptor}
    (read : parse text = .ok descriptor) : descriptor.Legible := by
  rcases exists_stages_of_parse read with
    ⟨-, read⟩ | ⟨before, after, connected, configured, database, found, first, second, read⟩
  · have authority : ({} : Descriptor).HasLegibleAuthority :=
      ⟨by decide, by decide, by decide, rfl⟩
    exact legible_of_complete authority hasLegibleOptions_standard read
  have slash := (Text.cutLast_eq_some.mp found).2
  obtain ⟨-, -, inside⟩ := Text.divide_parts '?' after
  obtain ⟨authority, settings⟩ := legible_of_readAuthority first
  have clean : ∀ piece ∈ (Text.divide '?' after).2.splitOn '&', '&' ∉ piece ∧ '/' ∉ piece := by
    intro piece member
    obtain ⟨ampersand, letters⟩ := Text.mem_splitOn member
    exact ⟨ampersand, fun found => slash (inside _ (letters _ found))⟩
  obtain ⟨authority, settings⟩ := legible_of_foldlM_readParameter authority settings clean second
  refine legible_of_complete ?_ ?_ read
  · exact ⟨authority.user, authority.network, authority.address, authority.redacted⟩
  · exact settings.congr (fun option => by cases option <;> rfl) rfl

end Descriptor

end DataSource.Mysql
