import DataSource.Proofs.Mysql.RoundTrip

/-! What holds of every descriptor that was read off a text. Its parts have no separator that would
end them too early, its options have values that their readers accept, and it is written with no
name given twice: the typed options have distinct names, the other parameters have the names of a
table, and none of these is the name of a typed option. -/
namespace DataSource.Mysql.Descriptor

/-! ## Names that are written -/

/-- No typed option is written twice. -/
theorem nodup_names_typedOptions (descriptor : Descriptor) :
    (descriptor.typedOptions.map Prod.fst).Nodup := by
  rw [List.Nodup, List.pairwise_map]
  apply OptionName.pairwise_all.filterMap
  rintro first second ⟨different, -⟩ entry found other otherFound
  obtain ⟨_, -, rfl⟩ := Option.map_eq_some_iff.mp found
  obtain ⟨_, -, rfl⟩ := Option.map_eq_some_iff.mp otherFound
  exact different

theorem exists_option_of_typedOptions {descriptor : Descriptor} {name : Text}
    (member : name ∈ descriptor.typedOptions.map Prod.fst) :
    ∃ option : OptionName, option.text = name := by
  obtain ⟨entry, typed, rfl⟩ := List.mem_map.mp member
  obtain ⟨option, -, found⟩ := List.mem_filterMap.mp typed
  obtain ⟨_, -, rfl⟩ := Option.map_eq_some_iff.mp found
  exact ⟨option, rfl⟩

/-- The other parameters are written under the names of their table. -/
theorem names_otherParameters_perm (descriptor : Descriptor) :
    (descriptor.otherParameters.map Prod.fst).Perm descriptor.parameters.names := by
  have sorted : descriptor.otherParameters.map Prod.fst =
      descriptor.sortedParameters.map Prod.fst := by
    rw [otherParameters, List.map_map]
    rfl
  rw [sorted]
  exact descriptor.sortedParameters_perm.map Prod.fst

/-- A name is written once, as long as no parameter has taken that of a typed option. -/
theorem nodup_names_allParameters {descriptor : Descriptor}
    (untyped : ∀ name ∈ descriptor.parameters.names, ∀ option : OptionName, option.text ≠ name) :
    (descriptor.allParameters.map Prod.fst).Nodup := by
  have others := descriptor.names_otherParameters_perm
  rw [allParameters, List.map_append, List.nodup_append]
  refine ⟨descriptor.nodup_names_typedOptions,
    others.nodup_iff.mpr descriptor.parameters.names_nodup, ?_⟩
  rintro name typed _ other rfl
  obtain ⟨option, named⟩ := exists_option_of_typedOptions typed
  exact untyped name (others.mem_iff.mp other) option named

/-! ## Legible options -/

section Legible
variable {descriptor : Descriptor}

theorem HasLegibleOptions.collation (settings : descriptor.HasLegibleOptions) :
    '&' ∉ descriptor.collation ∧ '/' ∉ descriptor.collation :=
  settings.options .collation

theorem HasLegibleOptions.location (settings : descriptor.HasLegibleOptions) :
    descriptor.location = standardLocation ∨ descriptor.location = "Local".toList ∨
      TimeZone.isKnown descriptor.location = true :=
  settings.options .location

theorem HasLegibleOptions.maxAllowedPacket (settings : descriptor.HasLegibleOptions) :
    Numeral.fits descriptor.maxAllowedPacket = true :=
  settings.options .maxAllowedPacket

end Legible

/-- Whatever text a descriptor was read off: it has a network and an address, none of its parts has
a separator that would end it too early, its options fit, parameters are not interpolated in a
collation in which that is unsafe, and no name is written twice. -/
theorem invariant_of_parse {text : Text} {descriptor : Descriptor}
    (read : parse text = .ok descriptor) :
    ':' ∉ descriptor.user ∧
      (descriptor.network ≠ [] ∧ '(' ∉ descriptor.network ∧ '@' ∉ descriptor.network) ∧
      (descriptor.address ≠ [] ∧ '@' ∉ descriptor.address) ∧
      (∀ name ∈ descriptor.parameters.names, IsParameterName name) ∧
      ('&' ∉ descriptor.collation ∧ '/' ∉ descriptor.collation) ∧
      ¬ (descriptor.flags .interpolateParams = true ∧
        isUnsafeCollation descriptor.collation = true) ∧
      Numeral.fits descriptor.maxAllowedPacket = true ∧
      (descriptor.location = standardLocation ∨ descriptor.location = "Local".toList ∨
        TimeZone.isKnown descriptor.location = true) ∧
      descriptor.redacted = false ∧
      (descriptor.allParameters.map Prod.fst).Nodup := by
  have legible := legible_of_parse read
  have names := legible.settings.parameters
  exact ⟨legible.authority.user, ⟨legible.network, legible.authority.network⟩,
    ⟨legible.address, legible.authority.address⟩, names, legible.settings.collation,
    legible.collation, legible.settings.maxAllowedPacket, legible.settings.location,
    legible.authority.redacted,
    nodup_names_allParameters fun name member => (names name member).untyped⟩

/-- A text in which a later parameter corrects an unsafe collation, and in which the same names are
given twice. -/
def correctedText : Text :=
  ("a:b@c@tcp(::1)/x?collation=gbk_bin&interpolateParams=1&collation=utf8_bin&loc=Europe%2FParis" ++
    "&(z=1&maxAllowedPacket=-9223372036854775808&(z=%26&Tls=0&tls=false").toList

/-- What that text describes. -/
def corrected : Descriptor :=
  setFlag
    { user := "a".toList
      password := "b@c".toList
      network := "tcp".toList
      address := "[::1]:3306".toList
      database := "x".toList
      parameters := .ofList [("(z".toList, "&".toList), ("Tls".toList, "0".toList)]
      collation := "utf8_bin".toList
      location := "Europe/Paris".toList
      maxAllowedPacket := -9223372036854775808
      tls := "false".toList }
    .interpolateParams true

theorem invariant_of_parse_corrected :
    parse correctedText = .ok corrected ∧
      ¬ (corrected.flags .interpolateParams = true ∧
        isUnsafeCollation corrected.collation = true) ∧
      (corrected.allParameters.map Prod.fst).Nodup := by
  have read : parse correctedText = .ok corrected := by decide +kernel
  obtain ⟨-, -, -, -, -, safe, -, -, -, names⟩ := invariant_of_parse read
  exact ⟨read, safe, names⟩

end DataSource.Mysql.Descriptor
