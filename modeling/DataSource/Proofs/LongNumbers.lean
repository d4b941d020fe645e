import DataSource.Dialect
import DataSource.Proofs.Mysql.Secrecy
import DataSource.Proofs.Mysql.WrittenOptions
import DataSource.Proofs.Numeral
import DataSource.Proofs.Postgres.Filling
import DataSource.Proofs.Postgres.KeywordValue
import DataSource.Proofs.Postgres.Report

/-! When a connection string fails for another reason than its form. A machine that fails in the
usual ways cannot make it fail, and each reader reports what it does not accept as a fault of form,
with one exception: a numeral with more digits than are read. Such a numeral may be given as the
packet size or as the port of a data source name, or as the port of PostgreSQL settings. -/
namespace DataSource

/-! ## Data source names -/

namespace Mysql

/-- A parameter that gives the packet size as a numeral with too many digits. -/
def IsLongPacket (piece : Text) : Prop :=
  ∃ value, piece = OptionName.maxAllowedPacket.text ++ '=' :: value ∧ Numeral.IsLong value

/-- The first parameter that is not accepted gives the packet size as a numeral with too many
digits, and what precedes the last slash is accepted. -/
def HasLongPacket (source : Text) : Prop :=
  ∃ before after start earlier piece later reached,
    Text.cutLast '/' source = some (before, after) ∧
      Descriptor.readAuthority {} before = .ok start ∧
      (Text.divide '?' after).2.splitOn '&' = earlier ++ piece :: later ∧
      earlier.foldlM Descriptor.readParameter start = .ok reached ∧ IsLongPacket piece

/-- The address of an internet network has a port with too many digits. -/
def HasLongPort (source : Text) : Prop :=
  ∃ descriptor host port, Descriptor.parse source = .ok descriptor ∧
    transport? descriptor.network = some .tcp ∧
      Network.Endpoint.split descriptor.address = .ok (host, port) ∧ Numeral.IsLong port

section Readers
variable {long : Numeral.TooLong}

theorem readField_ne_packetTooLong (name value : Text) :
    readField name value ≠ .error (.packetTooLong long) := by
  simp [readField, mapError_eq_error_iff]

theorem readLocation_ne_packetTooLong (value : Text) :
    readLocation value ≠ .error (.packetTooLong long) := by
  intro failed
  unfold readLocation at failed
  split at failed
  · rename_i field
    cases failed
    exact readField_ne_packetTooLong _ _ field
  · split at failed
    · cases failed
    · split at failed <;> cases failed

theorem readTls_ne_packetTooLong (value : Text) : readTls value ≠ .error (.packetTooLong long) := by
  intro failed
  unfold readTls at failed
  split at failed
  · cases failed
  · cases failed
  · dsimp only at failed
    split at failed
    · cases failed
    · split at failed
      · cases failed
      · exact readField_ne_packetTooLong _ _ failed

namespace Descriptor
variable {descriptor : Descriptor}

/-- Of all options the packet size alone fails in this way. -/
theorem readOption_packetTooLong_iff {option : OptionName} {value : Text} :
    descriptor.readOption option value = .error (.packetTooLong long) ↔
      option = .maxAllowedPacket ∧ Numeral.toInt? value = .error long := by
  cases option with
  | flag flag =>
    simp only [readOption]
    cases truth? value <;> simp
  | timeout timeout =>
    simp only [readOption]
    cases Duration.parse value <;> simp
  | collation => simp [readOption]
  | connectionAttributes => simp [readOption, map_eq_error_iff, readField_ne_packetTooLong]
  | location => simp [readOption, map_eq_error_iff, readLocation_ne_packetTooLong]
  | maxAllowedPacket =>
    simp only [readOption]
    rcases Numeral.toInt? value with other | (_ | size) <;> simp
  | serverPublicKey => simp [readOption, map_eq_error_iff, readField_ne_packetTooLong]
  | tls => simp [readOption, map_eq_error_iff, readTls_ne_packetTooLong]

theorem readAssignment_packetTooLong_iff {name value : Text} :
    descriptor.readAssignment name value = .error (.packetTooLong long) ↔
      name = OptionName.maxAllowedPacket.text ∧ Numeral.toInt? value = .error long := by
  unfold readAssignment
  split
  · rename_i option found
    have named : option.text = name := by simpa using List.find?_some found
    rw [readOption_packetTooLong_iff]
    apply and_congr_left'
    constructor
    · rintro rfl
      exact named.symm
    · rintro rfl
      rw [ofText?_text] at found
      exact (Option.some.inj found).symm
  · rename_i untyped
    apply iff_of_false
    · rw [map_eq_error_iff]
      exact readField_ne_packetTooLong name value
    · rintro ⟨named, -⟩
      exact ofText?_eq_none.mp untyped .maxAllowedPacket named.symm

/-- A parameter fails in this way exactly when it gives a packet size with too many digits. -/
theorem readParameter_packetTooLong_iff {piece : Text} :
    (∃ long, descriptor.readParameter piece = .error (.packetTooLong long)) ↔
      IsLongPacket piece := by
  have plain := (text_clean .maxAllowedPacket).1
  unfold readParameter IsLongPacket
  split
  · rename_i absent
    refine iff_of_false (by simp) ?_
    rintro ⟨value, rfl, -⟩
    exact Text.cut_eq_none.mp absent (List.mem_append_right _ List.mem_cons_self)
  · rename_i name value found
    obtain ⟨rfl, -⟩ := Text.cut_eq_some.mp found
    simp only [readAssignment_packetTooLong_iff, exists_and_left, Numeral.exists_toInt?_error_iff]
    constructor
    · rintro ⟨rfl, long⟩
      exact ⟨value, rfl, long⟩
    · rintro ⟨other, same, long⟩
      rw [same, Text.cut_eq_some.mpr ⟨rfl, plain⟩] at found
      cases found
      exact ⟨rfl, long⟩

theorem readAuthority_ne_packetTooLong (text : Text) :
    readAuthority descriptor text ≠ .error (.packetTooLong long) := by
  have network : ∀ (start : Descriptor) front,
      start.readNetwork front ≠ .error (.packetTooLong long) := by
    intro start front failed
    unfold readNetwork at failed
    split at failed
    · cases failed
    · split at failed
      · cases failed
      · split at failed <;> cases failed
  unfold readAuthority
  split
  · exact network _ _
  · exact network _ _

theorem readDatabase_ne_packetTooLong (text : Text) :
    descriptor.readDatabase text ≠ .error (.packetTooLong long) := by
  unfold readDatabase
  split <;> simp

theorem complete_ne_packetTooLong : descriptor.complete ≠ .error (.packetTooLong long) := by
  intro failed
  unfold complete at failed
  split at failed
  · cases failed
  · generalize (if descriptor.network = [] then standardNetwork else descriptor.network) = network
      at failed
    dsimp only at failed
    split at failed
    · split at failed <;> cases failed
    · split at failed <;> cases failed

end Descriptor

end Readers

/-- A data source name is refused because of a number with too many digits exactly when its first
parameter that is not accepted gives such a packet size. -/
theorem parse_packetTooLong_iff {source : Text} :
    (∃ long, Descriptor.parse source = .error (.packetTooLong long)) ↔ HasLongPacket source := by
  unfold Descriptor.parse HasLongPacket
  cases cut : Text.cutLast '/' source with
  | none =>
    refine iff_of_false ?_ (by simp)
    rintro ⟨long, failed⟩
    dsimp only at failed
    split at failed
    · exact Descriptor.complete_ne_packetTooLong failed
    · cases failed
  | some parts =>
    obtain ⟨before, after⟩ := parts
    simp only [bind_eq_error_iff, Descriptor.readAuthority_ne_packetTooLong,
      Descriptor.readDatabase_ne_packetTooLong, Descriptor.complete_ne_packetTooLong,
      Descriptor.readParameters, foldlM_eq_error_iff, false_or, or_false, and_false, exists_false]
    constructor
    · rintro ⟨long, start, authority, earlier, piece, later, reached, pieces, read, failed⟩
      exact ⟨before, after, start, earlier, piece, later, reached, rfl, authority, pieces, read,
        Descriptor.readParameter_packetTooLong_iff.mp ⟨long, failed⟩⟩
    · rintro ⟨_, _, start, earlier, piece, later, reached, same, authority, pieces, read, packet⟩
      cases same
      obtain ⟨long, failed⟩ := Descriptor.readParameter_packetTooLong_iff.mpr packet
      exact ⟨long, start, authority, earlier, piece, later, reached, pieces, read, failed⟩

theorem attributes_fails_iff {descriptor : Descriptor} :
    (∃ long, descriptor.attributes = .error long) ↔
      transport? descriptor.network = some .tcp ∧
        ∃ host port, Network.Endpoint.split descriptor.address = .ok (host, port) ∧
          Numeral.IsLong port := by
  unfold Descriptor.attributes
  by_cases internet : transport? descriptor.network = some .tcp
  · simp only [internet, ↓reduceIte, true_and, ← Numeral.exists_toInt?_error_iff, peer]
    cases Network.Endpoint.split descriptor.address with
    | error malformed => simp [Bind.bind, Except.bind, Pure.pure, Except.pure]
    | ok parts =>
      obtain ⟨host, port⟩ := parts
      cases outcome : Numeral.toInt? port <;>
        simp [Bind.bind, Except.bind, Pure.pure, Except.pure, Except.map, outcome]
  · simp [internet, Bind.bind, Except.bind, Pure.pure, Except.pure]

/-- A report on a data source name fails for another reason than its form exactly when the packet
size or the port has too many digits. -/
theorem report_fails_otherwise_iff {source : Text} :
    (∃ error, (report source).result = .error error ∧ error.isMalformed = false) ↔
      HasLongPacket source ∨ HasLongPort source := by
  rw [← parse_packetTooLong_iff]
  simp only [HasLongPort, exists_and_left, ← attributes_fails_iff, report, Traced.result_bind,
    Traced.ofExcept, bind_eq_error_iff, mapError_eq_error_iff, mapError_eq_ok_iff]
  constructor
  · rintro ⟨error, failed, other⟩
    rcases failed with ⟨cause, refused, rfl⟩ | ⟨descriptor, read, ⟨long, tooLong, -⟩ | ⟨_, _, made⟩⟩
    · cases cause with
      | packetTooLong long => exact Or.inl ⟨long, refused⟩
      | _ => cases other
    · exact Or.inr ⟨descriptor, read, long, tooLong⟩
    · cases made
  · rintro (⟨long, refused⟩ | ⟨descriptor, read, long, tooLong⟩)
    · exact ⟨_, Or.inl ⟨_, refused, rfl⟩, rfl⟩
    · exact ⟨_, Or.inr ⟨descriptor, read, Or.inl ⟨long, tooLong, rfl⟩⟩, rfl⟩

end Mysql

/-! ## PostgreSQL settings -/

namespace Postgres

/-- The first port in the settings that a connection string gives has too many digits. -/
def HasLongPort (source : Text) : Prop :=
  ∃ given port, (readSettings source).result = .ok given ∧
    firstEntry given portName = some port ∧ Numeral.IsLong port

theorem attributes_fails_iff (source : Text) {settings : Table} :
    (∃ long, attributes source settings = .error long) ↔
      ∃ port, firstEntry settings portName = some port ∧ Numeral.IsLong port := by
  simp only [attributes, bind_eq_error_iff, port?, ← Numeral.exists_toInt?_error_iff]
  cases firstEntry settings portName with
  | none => simp [Pure.pure, Except.pure]
  | some port => simp [Pure.pure, Except.pure]

/-- The standard port is short, so a port is long after defaults are added exactly when it was
before. -/
theorem exists_long_port_update_missing {defaults : Defaults} {given : Table}
    {added : List (Text × Text)} (reached : (defaults.missing given).result = .ok added) :
    (∃ port, firstEntry (given.update added) portName = some port ∧ Numeral.IsLong port) ↔
      ∃ port, firstEntry given portName = some port ∧ Numeral.IsLong port := by
  unfold firstEntry
  rw [Defaults.find?_port_update_missing reached]
  cases given.find? portName with
  | some port => rfl
  | none =>
    refine iff_of_false ?_ (by simp)
    rintro ⟨port, standard, long⟩
    have same : firstEntry (.ofList [(portName, defaultPort)]) portName = some defaultPort := by
      decide
    obtain rfl := Option.some.inj (same.symm.trans standard)
    exact absurd long.2 (by decide)

theorem isMalformed_of_readSettings {source : Text} {error : Error}
    (failed : (readSettings source).result = .error error) : error.isMalformed = true := by
  unfold readSettings at failed
  split at failed
  · unfold readUrl at failed
    split at failed <;> cases failed
    rfl
  · obtain ⟨cause, -, rfl⟩ := mapError_eq_error_iff.mp failed
    rfl

/-- A report on PostgreSQL settings fails for another reason than their form exactly when the port
that is reported has too many digits. -/
theorem report_fails_otherwise_iff {defaults : Defaults} (soft : defaults.machine.FailsSoftly)
    {source : Text} :
    (∃ error, (report defaults source).result = .error error ∧ error.isMalformed = false) ↔
      HasLongPort source := by
  by_cases nonempty : source = []
  · subst nonempty
    have silent : (readSettings []).result = .ok .empty := by decide +kernel
    have portless : firstEntry .empty portName = none := by decide
    apply iff_of_false
    · rintro ⟨error, failed, -⟩
      cases failed
    · rintro ⟨given, port, read, first, -⟩
      cases silent.symm.trans read
      cases portless.symm.trans first
  · have filled : ∀ given, (defaults.missing given).result = .ok (defaults.added given) := by
      intro given
      rw [Defaults.missing_eq soft]
    rw [report_eq nonempty]
    simp only [Traced.result_bind, bind_eq_error_iff, reportOn, Traced.ofExcept,
      mapError_eq_error_iff, HasLongPort]
    constructor
    · rintro ⟨error, failed, other⟩
      rcases failed with refused | ⟨given, read, failed⟩
      · rw [isMalformed_of_readSettings refused] at other
        cases other
      · rcases failed with unfilled | ⟨added, reached, ⟨long, tooLong, rfl⟩ | ⟨_, _, made⟩⟩
        · cases (filled given).symm.trans unfilled
        · obtain ⟨port, first, long⟩ :=
            (exists_long_port_update_missing reached).mp
              ((attributes_fails_iff source).mp ⟨long, tooLong⟩)
          exact ⟨given, port, read, first, long⟩
        · cases made
    · rintro ⟨given, port, read, first, long⟩
      obtain ⟨cause, tooLong⟩ := (attributes_fails_iff source).mpr
        ((exists_long_port_update_missing (filled given)).mpr ⟨port, first, long⟩)
      exact ⟨.tooLong cause, Or.inr ⟨given, read, Or.inr ⟨_, filled given,
        Or.inl ⟨cause, tooLong, rfl⟩⟩⟩, rfl⟩

end Postgres

/-! ## Drivers -/

/-- The connection string of a driver has a number with too many digits where one is read. -/
def HasLongNumber (driver source : Text) : Prop :=
  match Dialect.ofDriver? driver with
  | some .mysql => Mysql.HasLongPacket source ∨ Mysql.HasLongPort source
  | some .postgres => Postgres.HasLongPort source
  | none => False

/-- On a machine that fails softly, a connection string is described or refused for its form, unless
it has a number with too many digits where one is read; and then it always fails otherwise. -/
theorem describe_fails_otherwise_iff {defaults : Postgres.Defaults}
    (soft : defaults.machine.FailsSoftly) (driver source : Text) :
    (∃ error, (describe driver defaults source).result = .error error ∧
        error.isMalformed = false) ↔
      HasLongNumber driver source := by
  unfold describe HasLongNumber
  cases Dialect.ofDriver? driver with
  | none =>
    refine iff_of_false ?_ not_false
    rintro ⟨error, failed, -⟩
    cases failed
  | some dialect =>
    cases dialect with
    | mysql => exact Mysql.report_fails_otherwise_iff
    | postgres => exact Postgres.report_fails_otherwise_iff soft

/-- Many digits. -/
def sevens : Text := List.replicate 4301 '7'

theorem toInt?_sevens : Numeral.toInt? sevens = .error ⟨4301⟩ :=
  Numeral.toInt?_replicate (by decide) (by decide)

theorem not_mem_sevens {c : Char} (other : c ≠ '7') : c ∉ sevens := fun member =>
  other (List.eq_of_mem_replicate member)

namespace Postgres

/-- Settings with a port. -/
def portSettings (port : Text) : Table :=
  .ofList [(hostName, "db".toList), (portName, port)]

/-- A port is found again in the written form of its settings. -/
theorem hasLongPort_format {port : Text} (long : Numeral.IsLong port) (single : ',' ∉ port) :
    HasLongPort (KeywordValue.format (portSettings port)) := by
  have nonempty : port ≠ [] := by
    rintro rfl
    exact absurd long.2 (by decide)
  have keywords : ∀ name ∈ (portSettings port).names, KeywordValue.IsKeyword name := by
    intro name member
    have listed := Table.mem_of_mem_names_ofList member
    simp only [List.map_cons, List.map_nil, List.mem_cons, List.not_mem_nil, or_false] at listed
    rcases listed with rfl | rfl <;> decide
  have other : isUrl (KeywordValue.format (portSettings port)) = false := rfl
  refine ⟨portSettings port, port, ?_, ?_, long⟩
  · rw [readSettings, other, if_neg Bool.false_ne_true, readKeywordValue,
      KeywordValue.parse_format_of_isKeyword keywords]
    rfl
  · have found : (portSettings port).find? portName = some port := rfl
    rw [firstEntry, found, Option.bind_some,
      List.takeWhile_eq_self_iff.mpr (Text.ne_of_not_mem single), Text.nonempty?, if_neg nonempty]

end Postgres

theorem describe_fails_otherwise_iff_sevens :
    Postgres.guardedDefaults.machine.FailsSoftly ∧
      ∃ error,
        (describe "pgx".toList Postgres.guardedDefaults
            (Postgres.KeywordValue.format (Postgres.portSettings sevens))).result = .error error ∧
          error.isMalformed = false := by
  have soft : Postgres.guardedDefaults.machine.FailsSoftly := Postgres.failsSoftly_guardedMachine
  have long := Postgres.hasLongPort_format (Numeral.exists_toInt?_error_iff.mp ⟨_, toInt?_sevens⟩)
    (not_mem_sevens (by decide))
  exact ⟨soft, (describe_fails_otherwise_iff soft "pgx".toList _).mpr long⟩

namespace Mysql

/-- A data source name with a packet size. -/
def packetName (size : Text) : Text :=
  "/db?".toList ++ (OptionName.maxAllowedPacket.text ++ '=' :: size)

/-- A packet size that is too long is what the data source name fails for. -/
theorem parse_packetName {size : Text} (ampersand : '&' ∉ size) (slash : '/' ∉ size)
    {long : Numeral.TooLong} (tooLong : Numeral.toInt? size = .error long) :
    Descriptor.parse (packetName size) = .error (.packetTooLong long) := by
  let piece := OptionName.maxAllowedPacket.text ++ '=' :: size
  obtain ⟨equals, clean⟩ := Descriptor.text_clean .maxAllowedPacket
  have cut : Text.cutLast '/' (packetName size) = some ([], "db?".toList ++ piece) :=
    Text.cutLast_eq_some.mpr ⟨rfl, by simp [piece, clean, slash]⟩
  have parts : Text.divide '?' ("db?".toList ++ piece) = ("db".toList, piece) :=
    Text.divide_append (show '?' ∉ "db".toList by decide) piece
  have pieces : piece.splitOn '&' = [piece] := by
    have whole : '&' ∉ piece := by simp [piece, clean, ampersand]
    have only : (['&'].intercalate [piece]).splitOn '&' = [piece] :=
      List.splitOn_intercalate '&' (by simpa using whole) (by simp)
    rwa [List.intercalate_singleton] at only
  have named : Text.cut '=' piece = some (OptionName.maxAllowedPacket.text, size) :=
    Text.cut_eq_some.mpr ⟨rfl, equals⟩
  have refused : ∀ descriptor : Descriptor,
      descriptor.readParameters piece = .error (.packetTooLong long) := by
    intro descriptor
    rw [Descriptor.readParameters, pieces, List.foldlM_cons, Descriptor.readParameter, named]
    simp only [Descriptor.readAssignment, Descriptor.ofText?_text, Descriptor.readOption, tooLong]
    rfl
  rw [Descriptor.parse, cut]
  dsimp only
  simp only [parts, refused]
  rfl

end Mysql

/-- The packet size is no fault of form, and it is not caught. -/
theorem describe_fails_on_long_packet :
    Mysql.silentDefaults.machine.FailsSoftly ∧
      (describe "mysql".toList Mysql.silentDefaults (Mysql.packetName sevens)).result =
        .error (.mysql (.packetTooLong ⟨4301⟩)) ∧
      (Error.mysql (.packetTooLong ⟨4301⟩)).isMalformed = false := by
  have soft : Mysql.silentDefaults.machine.FailsSoftly := by
    constructor
    · intro path failure failed
      cases failed
    · intro failure failed
      cases failed
  have refused := Mysql.parse_packetName (not_mem_sevens (by decide)) (not_mem_sevens (by decide))
    toInt?_sevens
  refine ⟨soft, ?_, rfl⟩
  simp only [Mysql.describe_mysql, Mysql.report, refused]
  rfl

end DataSource
