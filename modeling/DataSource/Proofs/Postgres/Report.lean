import DataSource.Postgres.Attributes
import DataSource.Proofs.Attributes
import DataSource.Proofs.Postgres.Defaults

/-! What a report depends on. It sees the settings by name, and of the password only whether there
is one; where there is one the connection string is left out. So settings that differ in the
password alone make the same report, whatever text they were read from. -/
namespace DataSource

namespace Postgres

/-! ## Attributes -/

/-- With a password, attributes depend on the other settings only, and not on the text. -/
theorem attributes_congr {left right : Table}
    (same : ∀ name, passwordName ≠ name → left.find? name = right.find? name)
    (leftSecret : left.contains passwordName = true)
    (rightSecret : right.contains passwordName = true) (source other : Text) :
    attributes source left = attributes other right := by
  have entry : ∀ name, passwordName ≠ name → firstEntry left name = firstEntry right name := by
    intro name different
    rw [firstEntry, firstEntry, same name different]
  unfold attributes port?
  rw [entry hostAddressName (by decide), entry hostName (by decide), entry portName (by decide),
    same databaseName (by decide), same userName (by decide), leftSecret, rightSecret]
  rfl

theorem connectionString_of_attributes {source : Text} {settings : Table} {made : Attributes}
    (reached : attributes source settings = .ok made) :
    made.connectionString =
      if settings.contains passwordName then none else Text.nonempty? source := by
  obtain ⟨port, _, made⟩ := exists_of_bind_eq_ok reached
  cases made
  rfl

/-- The peer, the way to reach it and the port come from three settings alone. -/
theorem fields_of_attributes {source : Text} {settings : Table} {made : Attributes}
    (reached : attributes source settings = .ok made) :
    (made.transport, made.peer) =
        peer (firstEntry settings hostAddressName) (firstEntry settings hostName) ∧
      port? settings = .ok made.port := by
  obtain ⟨port, read, made⟩ := exists_of_bind_eq_ok reached
  cases made
  exact ⟨rfl, read⟩

theorem peer_of_attributes {source : Text} {settings : Table} {made : Attributes}
    (reached : attributes source settings = .ok made) :
    made.peer =
        (peer (firstEntry settings hostAddressName) (firstEntry settings hostName)).2 ∧
      port? settings = .ok made.port := by
  obtain ⟨told, read⟩ := fields_of_attributes reached
  exact ⟨congrArg Prod.snd told, read⟩

/-! ## Reports -/

/-- The report on settings, defaults included. -/
def reportOn (source : Text) (settings : Table) : Traced Report := do
  let attributes ← Traced.ofExcept ((attributes source settings).mapError .tooLong)
  return ⟨(settings.find? databaseName).getD [], attributes⟩

/-- A text is read, then defaults are added, then the report is made. -/
theorem report_eq {source : Text} (nonempty : source ≠ []) (defaults : Defaults) :
    report defaults source =
      readSettings source >>= fun given =>
        defaults.missing given >>= fun added => reportOn source (given.update added) := by
  unfold report settings
  rw [if_neg nonempty, bind_assoc]
  congr 1
  funext given
  rw [Defaults.apply_eq, bind_map_left]
  rfl

/-- A report is made from the settings that are given and those that are added. -/
theorem exists_of_report {source : Text} (nonempty : source ≠ []) {defaults : Defaults}
    {made : Report} (reached : (report defaults source).result = .ok made) :
    ∃ given added, (readSettings source).result = .ok given ∧
      (defaults.missing given).result = .ok added ∧
        attributes source (given.update added) = .ok made.attributes := by
  rw [report_eq nonempty] at reached
  obtain ⟨given, read, reached⟩ := Traced.exists_of_result_bind reached
  obtain ⟨added, filled, reached⟩ := Traced.exists_of_result_bind reached
  obtain ⟨derived, found, reached⟩ := Traced.exists_of_result_bind reached
  cases reached
  exact ⟨given, added, read, filled, mapError_eq_ok_iff.mp found⟩

/-- The connection string is reported exactly when the settings that it gives have no password:
defaults never bring one in. -/
theorem connectionString_of_report {source : Text} (nonempty : source ≠ []) {defaults : Defaults}
    {made : Report} (reached : (report defaults source).result = .ok made) :
    ∃ given, (readSettings source).result = .ok given ∧
      made.attributes.connectionString =
        if given.contains passwordName then none else some source := by
  obtain ⟨given, added, read, filled, found⟩ := exists_of_report nonempty reached
  refine ⟨given, read, ?_⟩
  have unnamed : passwordName ∉ added.map Prod.fst := Defaults.not_mem_missing filled (by decide)
  rw [connectionString_of_attributes found, Table.contains_update_of_not_mem unnamed,
    Text.nonempty?, if_neg nonempty]

/-! ## Passwords -/

/-- The settings before a password and those after it. -/
structure Surroundings where
  before : List (Text × Text)
  after : List (Text × Text)

namespace Surroundings

/-- The table of all settings. -/
def withPassword (around : Surroundings) (password : Text) : Table :=
  .ofList (around.before ++ (passwordName, password) :: around.after)

/-- The surroundings with settings after them. -/
def extend (around : Surroundings) (added : List (Text × Text)) : Surroundings :=
  { around with after := around.after ++ added }

theorem contains_withPassword (around : Surroundings) (password : Text) :
    (around.withPassword password).contains passwordName = true := by
  simp [withPassword, Table.contains_ofList]

/-- Under any other name there is the same value for all passwords. -/
theorem find?_withPassword (around : Surroundings) (password other : Text) {name : Text}
    (different : passwordName ≠ name) :
    (around.withPassword password).find? name = (around.withPassword other).find? name := by
  rw [withPassword, withPassword, Table.find?_ofList_cons_of_ne different,
    Table.find?_ofList_cons_of_ne different]

theorem withPassword_update (around : Surroundings) (password : Text)
    (added : List (Text × Text)) :
    (around.withPassword password).update added = (around.extend added).withPassword password := by
  rw [withPassword, withPassword, extend, ← Table.ofList_append, List.append_assoc,
    List.cons_append]

/-- The report on settings with a password, made without the password and without the text. -/
def report (defaults : Defaults) (around : Surroundings) : Traced Report := do
  let added ← defaults.missing (around.withPassword [])
  reportOn [] ((around.extend added).withPassword [])

theorem reportOn_withPassword (around : Surroundings) (source password : Text) :
    reportOn source (around.withPassword password) = reportOn [] (around.withPassword []) := by
  have same : ∀ name, passwordName ≠ name →
      (around.withPassword password).find? name = (around.withPassword []).find? name :=
    fun _ different => around.find?_withPassword password [] different
  rw [reportOn, reportOn, attributes_congr same (around.contains_withPassword password)
    (around.contains_withPassword []) source [], same databaseName (by decide)]

end Surroundings

/-- A text that is read as settings with a password is reported on without the password and without
the text. -/
theorem report_of_password {source password : Text} {around : Traced Surroundings}
    (nonempty : source ≠ [])
    (read : readSettings source = (fun settings => settings.withPassword password) <$> around)
    (defaults : Defaults) :
    report defaults source = around >>= Surroundings.report defaults := by
  rw [report_eq nonempty, read, bind_map_left]
  congr 1
  funext settings
  have same : ∀ name ∈ [hostName, portName, userName],
      (settings.withPassword password).contains name = (settings.withPassword []).contains name := by
    intro name member
    have different : passwordName ≠ name := by
      rintro rfl
      exact absurd member (by decide)
    rw [Table.contains, Table.contains, settings.find?_withPassword password [] different]
  rw [Surroundings.report, Defaults.missing_congr defaults same]
  congr 1
  funext added
  rw [settings.withPassword_update, Surroundings.reportOn_withPassword]

theorem connectionString_of_password {source password : Text} {around : Traced Surroundings}
    (nonempty : source ≠ [])
    (read : readSettings source = (fun settings => settings.withPassword password) <$> around)
    {defaults : Defaults} {made : Report} (reached : (report defaults source).result = .ok made) :
    made.attributes.connectionString = none := by
  obtain ⟨given, found, left⟩ := connectionString_of_report nonempty reached
  rw [read] at found
  obtain ⟨settings, _, rfl⟩ := Traced.exists_of_result_map found
  rw [left, if_pos (settings.contains_withPassword password)]

end Postgres

end DataSource
