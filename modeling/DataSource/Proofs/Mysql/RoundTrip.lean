import DataSource.Proofs.Mysql.WrittenOptions
import Mathlib.Control.Monad.Basic

/-! Reading a data source name undoes writing it. Wherever separators occur in a password, an
address, a database name or a value, each part of a written descriptor is found again: the last
slash is the one that was written before the database name, the last at sign the one after the
credentials, and no parameter has a separator of its own. -/
namespace DataSource.Mysql.Descriptor

/-! ## The authority -/

theorem readNetwork_formatNetwork {descriptor : Descriptor} (paren : '(' ∉ descriptor.network)
    (network : descriptor.network ≠ []) (address : descriptor.address ≠ []) (other : Descriptor) :
    other.readNetwork descriptor.formatNetwork =
      .ok { other with network := descriptor.network, address := descriptor.address } := by
  have cut : Text.cut '(' descriptor.formatNetwork =
      some (descriptor.network, descriptor.address ++ [')']) := by
    rw [formatNetwork, if_neg network, if_neg address, Text.cut_eq_some]
    exact ⟨by simp, paren⟩
  rw [readNetwork, cut]
  simp

/-- The authority is read back, but for a password that has no user. -/
theorem readAuthority_written {descriptor : Descriptor} (legible : descriptor.Legible) :
    readAuthority {} (descriptor.formatCredentials ++ descriptor.formatNetwork) =
      .ok
        { user := descriptor.user
          password := if descriptor.user = [] then [] else descriptor.password
          network := descriptor.network
          address := descriptor.address } := by
  have connect := readNetwork_formatNetwork legible.authority.network.1 legible.network
    legible.address
  have at_sign : '@' ∉ descriptor.formatNetwork := by
    have network := legible.authority.network.2
    have address := legible.authority.address
    rw [formatNetwork, if_neg legible.network, if_neg legible.address]
    simp [network, address]
  by_cases anonymous : descriptor.user = []
  · rw [formatCredentials, if_pos anonymous, List.nil_append, readAuthority,
      Text.cutLast_eq_none.mpr at_sign, if_pos anonymous]
    dsimp only
    rw [connect, anonymous]
  · rw [if_neg anonymous]
    by_cases open_door : descriptor.password = []
    · have cut : Text.cutLast '@' (descriptor.formatCredentials ++ descriptor.formatNetwork) =
          some (descriptor.user, descriptor.formatNetwork) := by
        rw [formatCredentials, if_neg anonymous, if_pos open_door, Text.cutLast_eq_some]
        exact ⟨by simp, at_sign⟩
      rw [readAuthority, cut, open_door]
      simp only [Text.divide_of_not_mem legible.authority.user]
      exact connect _
    · have cut : Text.cutLast '@' (descriptor.formatCredentials ++ descriptor.formatNetwork) =
          some (descriptor.user ++ ':' :: descriptor.password, descriptor.formatNetwork) := by
        rw [formatCredentials, if_neg anonymous, if_neg open_door, Text.cutLast_eq_some]
        exact ⟨by simp, at_sign⟩
      rw [readAuthority, cut]
      simp only [Text.divide_append legible.authority.user]
      exact connect _

/-! ## The parameters -/

theorem formatParameters_eq (parameters : List (Text × Text)) :
    formatParameters parameters =
      if parameters = [] then [] else '?' :: Text.join '&' (parameters.map parameterText) := rfl

theorem mem_otherParameters {descriptor : Descriptor} {entry : Text × Text}
    (member : entry ∈ descriptor.otherParameters) :
    entry.1 ∈ descriptor.parameters.names ∧ ∃ value, entry.2 = Text.Percent.encodeField value := by
  obtain ⟨original, sorted, rfl⟩ := List.mem_map.mp member
  have entry : original ∈ descriptor.parameters.entries := List.mem_mergeSort.mp sorted
  exact ⟨List.mem_map.mpr ⟨original, entry, rfl⟩, original.2, rfl⟩

/-- A written parameter has no separator. -/
theorem parameterText_clean {descriptor : Descriptor} (settings : descriptor.HasLegibleOptions)
    {entry : Text × Text} (member : entry ∈ descriptor.allParameters) :
    '&' ∉ parameterText entry ∧ '/' ∉ parameterText entry := by
  have parts : ('&' ∉ entry.1 ∧ '/' ∉ entry.1) ∧ ('&' ∉ entry.2 ∧ '/' ∉ entry.2) := by
    rcases List.mem_append.mp member with typed | other
    · obtain ⟨option, -, found⟩ := List.mem_filterMap.mp typed
      obtain ⟨value, written, rfl⟩ := Option.map_eq_some_iff.mp found
      have clean := valueText_clean (settings.options option)
      rw [← eq_valueText_of_written written] at clean
      exact ⟨(text_clean option).2, clean⟩
    · obtain ⟨named, value, encoded⟩ := mem_otherParameters other
      have name := settings.parameters entry.1 named
      exact ⟨⟨name.ampersand, name.slash⟩, encoded ▸ encodeField_clean value⟩
  simp [parameterText, parts]

/-- What was joined is taken apart; without any parameter there is one empty piece, which says
nothing. -/
theorem readParameters_join {pieces : List Text} (clean : ∀ piece ∈ pieces, '&' ∉ piece)
    (descriptor : Descriptor) :
    descriptor.readParameters (Text.join '&' pieces) =
      pieces.foldlM readParameter descriptor := by
  by_cases none : pieces = []
  · subst none
    rfl
  · rw [readParameters, Text.join, List.splitOn_intercalate '&' clean none]

/-- The parameters of a descriptor in the order in which they are written. -/
def sortedParameters (descriptor : Descriptor) : List (Text × Text) :=
  descriptor.parameters.entries.mergeSort fun left right => Text.precedes left.1 right.1

theorem sortedParameters_perm (descriptor : Descriptor) :
    descriptor.sortedParameters.Perm descriptor.parameters.entries :=
  List.mergeSort_perm _ _

/-- The parameters are read back, the options as they are settled. -/
theorem readParameters_written {source descriptor : Descriptor}
    (settings : source.HasLegibleOptions)
    (standard : ∀ option, descriptor.option option = ({} : Descriptor).option option) :
    descriptor.readParameters (Text.join '&' (source.allParameters.map parameterText)) =
      .ok { descriptor.withOptionsOf source.reread with
        parameters := descriptor.parameters.update source.sortedParameters } := by
  have names : ∀ entry ∈ source.sortedParameters, IsParameterName entry.1 := fun entry member =>
    settings.parameters entry.1
      (List.mem_map_of_mem (source.sortedParameters_perm.mem_iff.mp member))
  have clean : ∀ piece ∈ source.allParameters.map parameterText, '&' ∉ piece := by
    intro piece member
    obtain ⟨entry, inside, rfl⟩ := List.mem_map.mp member
    exact (parameterText_clean settings inside).1
  have typed := foldlM_writtenOptions settings OptionName.all descriptor
  rw [adoptWritten_all source standard] at typed
  have both : source.allParameters = source.writtenOptions OptionName.all ++
      source.sortedParameters.map fun entry => (entry.1, Text.Percent.encodeField entry.2) := rfl
  rw [readParameters_join clean, both, List.map_append, List.foldlM_append, typed]
  exact foldlM_parameters names _

/-! ## The whole text -/

theorem encode_isSafeInDatabase_clean (database : Text) :
    '/' ∉ Text.Percent.encode isSafeInDatabase database ∧
      '?' ∉ Text.Percent.encode isSafeInDatabase database := by
  constructor
  · intro member
    exact absurd (Text.Percent.mem_encode member) (by decide)
  · intro member
    exact absurd (Text.Percent.mem_encode member) (by decide)

/-- What is escaped is read back as it was, and none of the separators around it is in its escaped
form: around the name of a database, or around the value of a parameter. -/
theorem decode_escaped_parts (text : Text) :
    (Text.Percent.decode .component (Text.Percent.encode isSafeInDatabase text) = .ok text ∧
      '/' ∉ Text.Percent.encode isSafeInDatabase text ∧
        '?' ∉ Text.Percent.encode isSafeInDatabase text) ∧
      Text.Percent.decode .field (Text.Percent.encodeField text) = .ok text ∧
        '&' ∉ Text.Percent.encodeField text ∧ '=' ∉ Text.Percent.encodeField text ∧
          '/' ∉ Text.Percent.encodeField text ∧ '?' ∉ Text.Percent.encodeField text := by
  refine ⟨⟨Text.Percent.decode_encode rfl text, encode_isSafeInDatabase_clean text⟩,
    Text.Percent.decode_encodeField text, ?_, ?_, ?_, ?_⟩
  all_goals
    intro member
    exact absurd (Text.Percent.mem_encodeField member) (by decide)

/-- The text is cut where its parts were put together. -/
theorem cutLast_format {descriptor : Descriptor} (settings : descriptor.HasLegibleOptions) :
    Text.cutLast '/' descriptor.format =
      some (descriptor.formatCredentials ++ descriptor.formatNetwork,
        Text.Percent.encode isSafeInDatabase descriptor.database ++
          formatParameters descriptor.allParameters) := by
  rw [Text.cutLast_eq_some]
  refine ⟨by rw [format, List.append_assoc, List.cons_append], fun member => ?_⟩
  rcases List.mem_append.mp member with database | parameters
  · exact (encode_isSafeInDatabase_clean _).1 database
  · rw [formatParameters_eq] at parameters
    split at parameters
    · cases parameters
    · rcases List.mem_cons.mp parameters with mark | inside
      · exact absurd mark (by decide)
      · rcases Text.mem_join inside with ampersand | ⟨piece, written, slash⟩
        · exact absurd ampersand (by decide)
        · obtain ⟨entry, listed, rfl⟩ := List.mem_map.mp written
          exact (parameterText_clean settings listed).2 slash

theorem divide_format (descriptor : Descriptor) :
    Text.divide '?' (Text.Percent.encode isSafeInDatabase descriptor.database ++
        formatParameters descriptor.allParameters) =
      (Text.Percent.encode isSafeInDatabase descriptor.database,
        Text.join '&' (descriptor.allParameters.map parameterText)) := by
  have clean := (encode_isSafeInDatabase_clean descriptor.database).2
  rw [formatParameters_eq]
  split
  · rename_i none
    rw [none, List.append_nil, Text.divide_of_not_mem clean]
    rfl
  · exact Text.divide_append clean _

theorem complete_of_full {descriptor : Descriptor}
    (safe : ¬ (descriptor.flags .interpolateParams = true ∧
      isUnsafeCollation descriptor.collation = true))
    (network : descriptor.network ≠ []) (address : descriptor.address ≠ []) :
    descriptor.complete =
      .ok { descriptor with
        address :=
          if descriptor.network = standardNetwork then ensurePort descriptor.address
          else descriptor.address } := by
  rw [complete, if_neg safe]
  simp only [if_neg network, if_neg address]
  split <;> rfl

/-- A legible descriptor is read back from its written form, but for what is settled. -/
theorem parse_format_eq {descriptor : Descriptor} (legible : descriptor.Legible) :
    parse descriptor.format =
      .ok { descriptor.reread with
        parameters := .ofList descriptor.sortedParameters } := by
  have decoded : Text.Percent.decode .component
      (Text.Percent.encode isSafeInDatabase descriptor.database) = .ok descriptor.database :=
    Text.Percent.decode_encode rfl descriptor.database
  rw [parse, cutLast_format legible.settings]
  dsimp only
  rw [divide_format, readAuthority_written legible]
  dsimp only [bind, Except.bind]
  rw [readParameters_written legible.settings (fun option => by cases option <;> rfl)]
  simp only [readDatabase, decoded]
  have unredacted : descriptor.reread.redacted = false := legible.authority.redacted
  rw [complete_of_full, unredacted]
  · rfl
  · exact legible.collation
  · exact legible.network
  · exact legible.address

/-! ## What is settled -/

/-- A port is added to every address but an endpoint. -/
theorem ensurePort_eq_iff (address : Text) :
    ensurePort address = address ↔ ∃ parts, Network.Endpoint.split address = .ok parts := by
  unfold ensurePort
  cases found : Network.Endpoint.split address with
  | ok parts => simp
  | error malformed =>
    have longer := Network.Endpoint.length_lt_join (withoutBrackets address) standardPort
    have port : standardPort.length = 4 := by decide
    have inner : address.length ≤ (withoutBrackets address).length + 2 := by
      unfold withoutBrackets
      split
      · rw [List.length_dropLast, List.length_tail]
        omega
      · omega
    have different : Network.Endpoint.join (withoutBrackets address) standardPort ≠ address := by
      intro same
      rw [same] at longer
      omega
    simp [different]

/-- The settings of a descriptor that are read as they are written, where reading may settle them
otherwise. -/
structure IsSettled (descriptor : Descriptor) : Prop where
  password : descriptor.user = [] → descriptor.password = []
  endpoint : descriptor.network = standardNetwork →
    ∃ parts, Network.Endpoint.split descriptor.address = .ok parts
  timeouts : ∀ timeout, 0 ≤ (descriptor.timeouts timeout).micros
  tls : ¬ IsTlsAlias descriptor.tls

theorem reread_eq_iff (descriptor : Descriptor) :
    descriptor.reread = descriptor ↔ descriptor.IsSettled := by
  constructor
  · intro same
    constructor
    · intro anonymous
      have kept := congrArg Descriptor.password same
      simp only [reread, if_pos anonymous] at kept
      exact kept.symm
    · intro internet
      have kept := congrArg Descriptor.address same
      simp only [reread, if_pos internet] at kept
      exact (ensurePort_eq_iff _).mp kept
    · intro timeout
      have kept := congrArg (fun next => next.timeouts timeout) same
      simp only [reread] at kept
      split at kept
      · omega
      · rw [← kept]
    · exact (settledTls_eq_iff _).mp (congrArg Descriptor.tls same)
  · intro settled
    have password : (if descriptor.user = [] then [] else descriptor.password) =
        descriptor.password := by
      split
      · exact (settled.password ‹_›).symm
      · rfl
    have address : (if descriptor.network = standardNetwork then ensurePort descriptor.address
        else descriptor.address) = descriptor.address := by
      split
      · exact (ensurePort_eq_iff _).mpr (settled.endpoint ‹_›)
      · rfl
    have timeouts : (fun timeout => if 0 < (descriptor.timeouts timeout).micros then
        descriptor.timeouts timeout else ⟨0⟩) = descriptor.timeouts := by
      funext timeout
      split
      · rfl
      · have nonnegative := settled.timeouts timeout
        have zero : (descriptor.timeouts timeout).micros = 0 := by omega
        exact congrArg Duration.mk zero.symm
    rw [reread, password, address, timeouts, (settledTls_eq_iff _).mpr settled.tls]

/-- What is read again agrees with a legible descriptor exactly when nothing had to be settled. -/
theorem agrees_parse_format_iff {descriptor : Descriptor} (legible : descriptor.Legible) :
    ∃ again, parse descriptor.format = .ok again ∧
      (again.Agrees descriptor ↔ descriptor.IsSettled) := by
  refine ⟨_, parse_format_eq legible, ?_⟩
  have names : (descriptor.sortedParameters.map Prod.fst).Nodup :=
    (descriptor.sortedParameters_perm.map Prod.fst).nodup_iff.mpr descriptor.parameters.names_nodup
  have parameters : (Table.ofList descriptor.sortedParameters).Agrees descriptor.parameters :=
    Table.agrees_of_perm ((Table.entries_ofList names).symm ▸ descriptor.sortedParameters_perm)
  rw [← reread_eq_iff]
  constructor
  · intro agrees
    exact congrArg (fun next => { next with parameters := descriptor.parameters }) agrees.1
  · intro same
    exact ⟨(congrArg skeleton same : descriptor.reread.skeleton = _), parameters⟩

/-! ## Reading after writing -/

/-- A descriptor that can be written: no part has a separator that would end it too early, every
option has a value that its reader accepts, and nothing would have to be settled. -/
structure Writable (descriptor : Descriptor) : Prop where
  user : ':' ∉ descriptor.user ∧ (descriptor.password ≠ [] → descriptor.user ≠ [])
  network : descriptor.network ≠ [] ∧ '(' ∉ descriptor.network ∧ '@' ∉ descriptor.network
  address : descriptor.address ≠ [] ∧ '@' ∉ descriptor.address ∧
    (descriptor.network = standardNetwork →
      ∃ parts, Network.Endpoint.split descriptor.address = .ok parts)
  parameters : ∀ name ∈ descriptor.parameters.names, IsParameterName name
  collation : '&' ∉ descriptor.collation ∧ '/' ∉ descriptor.collation ∧
    ¬ (descriptor.flags .interpolateParams = true ∧ isUnsafeCollation descriptor.collation = true)
  location : descriptor.location = standardLocation ∨ descriptor.location = "Local".toList ∨
    TimeZone.isKnown descriptor.location = true
  packet : Numeral.fits descriptor.maxAllowedPacket = true
  timeouts : ∀ timeout, 0 ≤ (descriptor.timeouts timeout).micros ∧
    Duration.parse (descriptor.timeouts timeout).format = .ok (descriptor.timeouts timeout)
  tls : ¬ IsTlsAlias descriptor.tls
  redacted : descriptor.redacted = false

theorem Writable.legible {descriptor : Descriptor} (writable : descriptor.Writable) :
    descriptor.Legible where
  authority := ⟨writable.user.1, writable.network.2, writable.address.2.1, writable.redacted⟩
  settings := by
    refine ⟨fun option => ?_, writable.parameters⟩
    cases option with
    | timeout timeout => exact (writable.timeouts timeout).2
    | collation => exact ⟨writable.collation.1, writable.collation.2.1⟩
    | location => exact writable.location
    | maxAllowedPacket => exact writable.packet
    | _ => trivial
  network := writable.network.1
  address := writable.address.1
  collation := writable.collation.2.2

theorem Writable.isSettled {descriptor : Descriptor} (writable : descriptor.Writable) :
    descriptor.IsSettled where
  password := fun anonymous => by
    by_contra secret
    exact writable.user.2 secret anonymous
  endpoint := writable.address.2.2
  timeouts := fun timeout => (writable.timeouts timeout).1
  tls := writable.tls

/-- A writable descriptor is read back from its written form, in every field; only the order of its
parameters may be another. -/
theorem parse_format_of_writable {descriptor : Descriptor} (writable : descriptor.Writable) :
    ∃ again, parse descriptor.format = .ok again ∧ again.Agrees descriptor := by
  obtain ⟨again, read, agrees⟩ := agrees_parse_format_iff writable.legible
  exact ⟨again, read, agrees.mpr writable.isSettled⟩

/-- A descriptor with separators in all the places where they may be. -/
def crowded : Descriptor where
  user := "app/(1)".toList
  password := "p@ss:w/rd?(a=b&c)".toList
  network := "tcp".toList
  address := "[fe80::1%25(/)]:3306".toList
  database := "a/b?c&d=ü %".toList
  parameters := .ofList [("zeit".toList, "a&b=c/d?".toList), ("?name (x)".toList, "ü +%".toList)]
  location := "Europe/Paris".toList
  maxAllowedPacket := -1
  tls := "cüstom/1&2".toList
  timeouts := fun
    | .connect => ⟨5430500001⟩
    | .read => ⟨1500⟩
    | .write => ⟨0⟩
  flags := fun flag => !flag.standard

theorem parse_format_of_writable_crowded :
    crowded.Writable ∧ ∃ again, parse crowded.format = .ok again ∧ again.Agrees crowded := by
  have readable : ∀ timeout, (crowded.timeouts timeout).Readable := fun timeout => by
    cases timeout <;> exact ⟨by decide, Binary64.representable_of_le (by decide)⟩
  have name : ∀ name ∈ crowded.parameters.names, IsParameterName name := by
    intro name member
    have names : crowded.parameters.names = ["zeit".toList, "?name (x)".toList] := by decide
    rw [names] at member
    simp only [List.mem_cons, List.not_mem_nil, or_false] at member
    rcases member with rfl | rfl <;>
      exact ⟨ofText?_eq_none.mp (by decide), by decide, by decide, by decide⟩
  have writable : crowded.Writable :=
    { user := by decide
      network := by decide
      address := ⟨by decide, by decide, fun _ => ⟨_, rfl⟩⟩
      parameters := name
      collation := by decide
      location := Or.inr (Or.inr (by decide))
      packet := by decide
      timeouts := fun timeout =>
        ⟨by cases timeout <;> decide, Duration.parse_format (readable timeout)⟩
      tls := by decide
      redacted := rfl }
  exact ⟨writable, parse_format_of_writable writable⟩

/-- Whatever text a descriptor was read off, its written form is read again; and it is read as the
same descriptor exactly when there is no password without a user, no negative timeout, no alias for
encryption and no address on the standard network that still is no endpoint. -/
theorem reparse_agrees_iff {text : Text} {descriptor : Descriptor}
    (read : parse text = .ok descriptor) :
    ∃ again, parse descriptor.format = .ok again ∧
      (again.Agrees descriptor ↔ descriptor.IsSettled) :=
  agrees_parse_format_iff (legible_of_parse read)

/-- A descriptor of which four settings are settled when it is read again. -/
def unsettled : Descriptor :=
  setTimeout
    { password := "pw".toList
      network := "tcp".toList
      address := "[[::1]:3306".toList
      database := "db".toList
      tls := "1".toList }
    .connect ⟨-5000000⟩

theorem reparse_agrees_iff_unsettled :
    parse ":pw@tcp([::1)/db?timeout=-5s&tls=%31".toList = .ok unsettled ∧
      ∃ again, parse unsettled.format = .ok again ∧
        (again.Agrees unsettled ↔ unsettled.IsSettled) := by
  have read : parse ":pw@tcp([::1)/db?timeout=-5s&tls=%31".toList = .ok unsettled := by
    decide +kernel
  exact ⟨read, reparse_agrees_iff read⟩

/-- The connection of a data source name that says nothing but the database. -/
def patient : Descriptor where
  network := "tcp".toList
  address := "127.0.0.1:3306".toList
  database := "db".toList

/-- A negative timeout is lost when what was read is written. -/
theorem reparse_loses_timeout :
    parse "/db?timeout=-5s".toList = .ok (patient.setTimeout .connect ⟨-5000000⟩) ∧
      parse (patient.setTimeout .connect ⟨-5000000⟩).format = .ok patient ∧
      ¬ patient.Agrees (patient.setTimeout .connect ⟨-5000000⟩) := by
  refine ⟨?_, ?_, ?_⟩
  · decide +kernel
  · decide +kernel
  · decide +kernel

end DataSource.Mysql.Descriptor
