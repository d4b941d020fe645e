import DataSource.Postgres.ConnectionString
import DataSource.Proofs.Postgres.Defaults
import Mathlib.Control.Monad.Basic

/-! What defaults add, ask and note. The settings that a connection string gives stay as they are,
and a host, a port and a user follow them where they are missing. The machine is asked about one
directory after the other up to the first that exists, and about the user, and each question that it
fails to answer leaves one note; about what is given it is not asked at all. -/
namespace DataSource

/-! ## Machines -/

namespace Machine
variable (machine : Machine)

/-- Failures that defaults pass over: the operating system fails to tell whether a path exists, or
the user cannot be told for any reason but that the question is not acceptable. -/
structure FailsSoftly : Prop where
  path : ∀ path fault, machine.pathExists path = .error fault →
    fault.kind = .system ∨ fault.kind = .denied
  user : ∀ fault, machine.currentUser = .error fault → fault.kind ≠ .invalid

/-- Whether the machine tells that a path exists. -/
def hasPath (path : Text) : Bool :=
  match machine.pathExists path with
  | .ok there => there
  | .error _ => false

/-- The note on a path about which the machine fails to answer. -/
def pathNote? (path : Text) : Option Note :=
  match machine.pathExists path with
  | .ok _ => none
  | .error fault => some (.probeFailed path fault)

/-- The name of the user, where the machine tells one that is not empty. -/
def knownUser? : Option Text :=
  match machine.currentUser with
  | .ok name => name.bind Text.nonempty?
  | .error _ => none

/-- The note on a user whom the machine fails to tell. -/
def userNotes : List Note :=
  match machine.currentUser with
  | .ok _ => []
  | .error fault => [.userUnknown fault]

end Machine

/-! ## Additions to a table -/

namespace Table

/-- A value for a name that a table does not have, where there is one. -/
def addition (table : Table) (name : Text) (value : Option Text) : List (Text × Text) :=
  if table.contains name then [] else (value.map fun value => (name, value)).toList

theorem names_addition_sublist (table : Table) (name : Text) (value : Option Text) :
    ((table.addition name value).map Prod.fst).Sublist [name] := by
  unfold addition
  split
  · exact List.nil_sublist _
  · cases value with
    | none => exact List.nil_sublist _
    | some value => exact List.Sublist.refl _

theorem not_mem_names_of_addition {table : Table} {name other : Text} {value : Option Text}
    (member : other ∈ (table.addition name value).map Prod.fst) : other ∉ table.names := by
  obtain rfl := List.mem_singleton.mp ((table.names_addition_sublist name value).subset member)
  unfold addition at member
  split at member
  · cases member
  · rename_i lacking
    apply find?_eq_none.mp
    simpa [contains] using lacking

end Table

namespace Postgres

namespace Defaults
variable (defaults : Defaults)

/-! ## What is expected -/

/-- The directories about which the machine is asked: all from the first one on, up to and including
the first that exists. -/
def probed : List Text :=
  if defaults.probeEnabled then
    defaults.socketDirs.take (defaults.socketDirs.findIdx defaults.machine.hasPath + 1)
  else []

/-- The first directory that exists, or else the local host. -/
def chosenHost : Text :=
  if defaults.probeEnabled then
    (defaults.socketDirs.find? defaults.machine.hasPath).getD localHost
  else localHost

/-- The settings that are added, in their order. -/
def added (given : Table) : List (Text × Text) :=
  given.addition hostName (some defaults.chosenHost) ++
    given.addition portName (some defaultPort) ++
    given.addition userName defaults.machine.knownUser?

/-- The questions to the machine, in their order. -/
def asked (given : Table) : List Query :=
  (if given.contains hostName then [] else defaults.probed.map .path) ++
    (if given.contains userName then [] else [.user])

/-- The notes, in their order. -/
def noted (given : Table) : List Note :=
  (if given.contains hostName then [] else defaults.probed.filterMap defaults.machine.pathNote?) ++
    (if given.contains userName then [] else defaults.machine.userNotes)

/-! ## Host and user -/

/-- By induction on the directories: every one is asked about until one exists, and each failure on
the way is noted. -/
theorem probe_eq {machine : Machine} (soft : machine.FailsSoftly) (paths : List Text) :
    probe machine paths =
      ⟨.ok ((paths.find? machine.hasPath).getD localHost),
        (paths.take (paths.findIdx machine.hasPath + 1)).map .path,
        (paths.take (paths.findIdx machine.hasPath + 1)).filterMap machine.pathNote?⟩ := by
  induction paths with
  | nil => rfl
  | cons path rest ih =>
    unfold probe
    cases found : machine.pathExists path with
    | ok there =>
      have silent : machine.pathNote? path = none := by simp [Machine.pathNote?, found]
      cases there with
      | true =>
        have here : machine.hasPath path = true := by simp [Machine.hasPath, found]
        rw [List.find?_cons_of_pos here, List.findIdx_cons, here]
        simp [silent, Traced.ask_bind, Pure.pure, Traced.pure, Traced.ofExcept]
      | false =>
        have absent : machine.hasPath path = false := by simp [Machine.hasPath, found]
        simp [silent, absent, ih, Traced.ask_bind, List.findIdx_cons]
    | error fault =>
      have absent : machine.hasPath path = false := by simp [Machine.hasPath, found]
      have noted : machine.pathNote? path = some (.probeFailed path fault) := by
        simp [Machine.pathNote?, found]
      have passedOver : fault.kind.isSystem = true := by
        rcases soft.path path fault found with system | denied
        · rw [system]; rfl
        · rw [denied]; rfl
      simp [noted, absent, ih, passedOver, Traced.ask_bind, Traced.note_bind, List.findIdx_cons]

theorem host_eq {defaults : Defaults} (soft : defaults.machine.FailsSoftly) :
    defaults.host =
      ⟨.ok defaults.chosenHost, defaults.probed.map .path,
        defaults.probed.filterMap defaults.machine.pathNote?⟩ := by
  unfold host chosenHost probed
  split
  · exact probe_eq soft defaults.socketDirs
  · rfl

theorem user_eq {defaults : Defaults}
    (soft : ∀ fault, defaults.machine.currentUser = .error fault → fault.kind ≠ .invalid) :
    defaults.user = ⟨.ok defaults.machine.knownUser?, [.user], defaults.machine.userNotes⟩ := by
  unfold user Machine.knownUser? Machine.userNotes
  rw [Traced.ask_bind]
  cases found : defaults.machine.currentUser with
  | ok name => rfl
  | error fault =>
    have passedOver : leavesUserOut fault.kind = true := by
      have acceptable := soft fault found
      cases kind : fault.kind <;> first | rfl | exact absurd kind acceptable
    simp only [passedOver, ↓reduceIte, Traced.note_bind]
    rfl

/-! ## All that is missing -/

theorem missingHost_eq {defaults : Defaults} (soft : defaults.machine.FailsSoftly) (given : Table) :
    defaults.missingHost given =
      ⟨.ok (given.addition hostName (some defaults.chosenHost)),
        if given.contains hostName then [] else defaults.probed.map .path,
        if given.contains hostName then []
        else defaults.probed.filterMap defaults.machine.pathNote?⟩ := by
  unfold missingHost Table.addition
  split
  · rfl
  · rw [host_eq soft, Traced.map_eq]
    rfl

theorem missingPort_eq (given : Table) :
    missingPort given = given.addition portName (some defaultPort) := by
  unfold missingPort Table.addition
  split <;> rfl

theorem missingUser_eq {defaults : Defaults}
    (soft : ∀ fault, defaults.machine.currentUser = .error fault → fault.kind ≠ .invalid)
    (given : Table) :
    defaults.missingUser given =
      ⟨.ok (given.addition userName defaults.machine.knownUser?),
        if given.contains userName then [] else [.user],
        if given.contains userName then [] else defaults.machine.userNotes⟩ := by
  unfold missingUser Table.addition
  split
  · rfl
  · rw [user_eq soft, Traced.map_eq]
    rfl

theorem missing_eq {defaults : Defaults} (soft : defaults.machine.FailsSoftly) (given : Table) :
    defaults.missing given =
      ⟨.ok (defaults.added given), defaults.asked given, defaults.noted given⟩ := by
  rw [missing, missingHost_eq soft, missingUser_eq soft.user, missingPort_eq]
  simp only [Traced.ok_bind, Pure.pure, Traced.pure, Traced.ofExcept, List.append_nil]
  rfl

/-- With a host the machine is asked about the user only. -/
theorem exists_missing_of_host {defaults : Defaults}
    (soft : ∀ fault, defaults.machine.currentUser = .error fault → fault.kind ≠ .invalid)
    {given : Table} (host : given.contains hostName = true) :
    ∃ added, (defaults.missing given).result = .ok added := by
  rw [missing, missingHost, if_pos host, pure_bind, missingUser_eq soft]
  exact ⟨_, rfl⟩

/-- A host, a port and a user are three different names. -/
theorem names_added_sublist (defaults : Defaults) (given : Table) :
    ((defaults.added given).map Prod.fst).Sublist [hostName, portName, userName] := by
  rw [added, List.map_append, List.map_append]
  have host := given.names_addition_sublist hostName (some defaults.chosenHost)
  have port := given.names_addition_sublist portName (some defaultPort)
  have user := given.names_addition_sublist userName defaults.machine.knownUser?
  exact (host.append port).append user

theorem not_mem_names_of_added {defaults : Defaults} {given : Table} {name : Text}
    (member : name ∈ (defaults.added given).map Prod.fst) : name ∉ given.names := by
  simp only [added, List.map_append, List.mem_append] at member
  rcases member with (host | port) | user
  · exact Table.not_mem_names_of_addition host
  · exact Table.not_mem_names_of_addition port
  · exact Table.not_mem_names_of_addition user

/-- So what is given stays in its place, and what is added follows. -/
theorem entries_update_added (defaults : Defaults) (given : Table) :
    (given.update (defaults.added given)).entries = given.entries ++ defaults.added given := by
  have different : [hostName, portName, userName].Nodup := by decide
  apply Table.entries_update
  rw [List.map_append, List.nodup_append]
  refine ⟨given.names_nodup, different.sublist (defaults.names_added_sublist given), ?_⟩
  rintro name inside _ new rfl
  exact not_mem_names_of_added new inside

end Defaults

/-- Reading a connection string puts no question to the machine. -/
theorem queries_readSettings (source : Text) : (readSettings source).queries = [] := by
  unfold readSettings readUrl
  split
  · split <;> rfl
  · rfl

/-- Defaults are filled in exactly and no further. All settings of the connection string keep their
values and their places; a host, a port and a user are appended in this order where they are
missing; and the questions and the notes on the way are those that the missing ones need. -/
theorem settings_filled {source : Text} (nonempty : source ≠ []) {given : Table}
    (read : (readSettings source).result = .ok given) {defaults : Defaults}
    (soft : defaults.machine.FailsSoftly) :
    ∃ filled,
      settings defaults source =
        ⟨.ok filled, defaults.asked given, (readSettings source).notes ++ defaults.noted given⟩ ∧
      filled.entries = given.entries ++ defaults.added given := by
  refine ⟨given.update (defaults.added given), ?_, defaults.entries_update_added given⟩
  have parts : readSettings source = ⟨.ok given, [], (readSettings source).notes⟩ := by
    rw [← read, ← queries_readSettings source]
  have filled : defaults.apply given =
      ⟨.ok (given.update (defaults.added given)), defaults.asked given, defaults.noted given⟩ := by
    rw [Defaults.apply_eq, Defaults.missing_eq soft, Traced.map_eq]
    rfl
  rw [settings, if_neg nonempty, parts, Traced.ok_bind, filled, List.nil_append]

/-- A machine that may not look into one directory, has another one and knows no user. -/
def guardedMachine : Machine where
  pathExists path :=
    if path = "/root".toList then .error ⟨.denied, "denied".toList⟩
    else .ok (path = "/tmp".toList)
  currentUser := .error ⟨.missing, "uid".toList⟩

theorem failsSoftly_guardedMachine : guardedMachine.FailsSoftly where
  path := by
    intro path fault failed
    simp only [guardedMachine] at failed
    split at failed
    · cases failed
      exact Or.inr rfl
    · cases failed
  user := by
    intro fault failed
    cases failed
    decide

/-- Defaults with a directory that is not there and one behind the directory that is chosen. -/
def guardedDefaults : Defaults :=
  ⟨["/root".toList, "/run".toList, "/root".toList, "/tmp".toList, "/var".toList], true,
    guardedMachine⟩

/-- A URL without a host and with a parameter that is skipped. -/
def hostlessUrl : Text :=
  "postgres://:6432/orders?a=%&b=1".toList

/-- The settings that it gives. -/
def hostlessSettings : Table :=
  .ofList [(portName, "6432".toList), (databaseName, "orders".toList), ("b".toList, "1".toList)]

theorem settings_filled_guarded :
    hostlessUrl ≠ [] ∧ (readSettings hostlessUrl).result = .ok hostlessSettings ∧
      guardedDefaults.machine.FailsSoftly ∧
      ∃ filled,
        settings guardedDefaults hostlessUrl =
          ⟨.ok filled,
            [.path "/root".toList, .path "/run".toList, .path "/root".toList, .path "/tmp".toList,
              .user],
            [.skippedParameter, .probeFailed "/root".toList ⟨.denied, "denied".toList⟩,
              .probeFailed "/root".toList ⟨.denied, "denied".toList⟩,
              .userUnknown ⟨.missing, "uid".toList⟩]⟩ ∧
        filled.entries = hostlessSettings.entries ++ [(hostName, "/tmp".toList)] := by
  have nonempty : hostlessUrl ≠ [] := by decide
  have read : (readSettings hostlessUrl).result = .ok hostlessSettings := by decide +kernel
  have skipped : (readSettings hostlessUrl).notes = [.skippedParameter] := by decide +kernel
  have asked : guardedDefaults.asked hostlessSettings =
      [.path "/root".toList, .path "/run".toList, .path "/root".toList, .path "/tmp".toList,
        .user] := by decide +kernel
  have noted : guardedDefaults.noted hostlessSettings =
      [.probeFailed "/root".toList ⟨.denied, "denied".toList⟩,
        .probeFailed "/root".toList ⟨.denied, "denied".toList⟩,
        .userUnknown ⟨.missing, "uid".toList⟩] := by decide +kernel
  have added : guardedDefaults.added hostlessSettings = [(hostName, "/tmp".toList)] := by
    decide +kernel
  have soft : guardedDefaults.machine.FailsSoftly := failsSoftly_guardedMachine
  obtain ⟨filled, made, entries⟩ := settings_filled nonempty read soft
  rw [asked, noted, skipped] at made
  rw [added] at entries
  exact ⟨nonempty, read, soft, filled, made, entries⟩

end Postgres

end DataSource
