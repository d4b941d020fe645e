import DataSource.Postgres.Defaults
import DataSource.Proofs.Table
import DataSource.Proofs.Trace

/-! Defaults add settings and change none. Which they add depends only on whether a host, a port
and a user are given, so it never depends on the password. -/
namespace DataSource.Postgres.Defaults

/-- The host, where the settings have none. -/
def missingHost (defaults : Defaults) (settings : Table) : Traced (List (Text × Text)) :=
  if settings.contains hostName then pure []
  else (fun host => [(hostName, host)]) <$> defaults.host

/-- The port, where the settings have none. -/
def missingPort (settings : Table) : List (Text × Text) :=
  if settings.contains portName then [] else [(portName, defaultPort)]

/-- The user, where the settings have none and one is known. -/
def missingUser (defaults : Defaults) (settings : Table) : Traced (List (Text × Text)) :=
  if settings.contains userName then pure []
  else (fun user => (user.map fun name => (userName, name)).toList) <$> defaults.user

/-- The settings that are added, in the order in which they are. -/
def missing (defaults : Defaults) (settings : Table) : Traced (List (Text × Text)) := do
  let host ← defaults.missingHost settings
  let user ← defaults.missingUser settings
  return host ++ missingPort settings ++ user

section Steps
variable (defaults : Defaults) (settings : Table)

theorem withHost_eq :
    defaults.withHost settings = settings.update <$> defaults.missingHost settings := by
  unfold withHost missingHost
  split
  · rw [map_pure]
    rfl
  · rw [Functor.map_map, map_eq_pure_bind]
    rfl

theorem withPort_eq : withPort settings = settings.update (missingPort settings) := by
  unfold withPort missingPort
  split <;> rfl

theorem withUser_eq :
    defaults.withUser settings = settings.update <$> defaults.missingUser settings := by
  unfold withUser missingUser
  split
  · rw [map_pure]
    rfl
  · rw [Functor.map_map, map_eq_pure_bind]
    congr 1
    funext user
    cases user <;> rfl

/-! ## Which names are added -/

variable {settings} {added : List (Text × Text)} {entry : Text × Text}

theorem of_mem_missingHost {defaults : Defaults}
    (reached : (defaults.missingHost settings).result = .ok added) (member : entry ∈ added) :
    entry.1 = hostName ∧ settings.contains hostName = false := by
  unfold missingHost at reached
  split at reached
  · cases reached
    cases member
  · rename_i lacking
    obtain ⟨host, _, rfl⟩ := Traced.exists_of_result_map reached
    rw [List.mem_singleton.mp member]
    exact ⟨rfl, Bool.eq_false_iff.mpr lacking⟩

theorem of_mem_missingPort (member : entry ∈ missingPort settings) :
    entry.1 = portName ∧ settings.contains portName = false := by
  unfold missingPort at member
  split at member
  · cases member
  · rename_i lacking
    rw [List.mem_singleton.mp member]
    exact ⟨rfl, Bool.eq_false_iff.mpr lacking⟩

theorem of_mem_missingUser {defaults : Defaults}
    (reached : (defaults.missingUser settings).result = .ok added) (member : entry ∈ added) :
    entry.1 = userName ∧ settings.contains userName = false := by
  unfold missingUser at reached
  split at reached
  · cases reached
    cases member
  · rename_i lacking
    obtain ⟨user, _, rfl⟩ := Traced.exists_of_result_map reached
    cases user with
    | none => cases member
    | some name =>
      rw [List.mem_singleton.mp member]
      exact ⟨rfl, Bool.eq_false_iff.mpr lacking⟩

/-- Defaults give a value to a host, a port or a user only, and only to one that is not given. -/
theorem of_mem_missing {defaults : Defaults}
    (reached : (defaults.missing settings).result = .ok added) (member : entry ∈ added) :
    entry.1 ∈ [hostName, portName, userName] ∧ settings.contains entry.1 = false := by
  obtain ⟨host, hostReached, reached⟩ := Traced.exists_of_result_bind reached
  obtain ⟨user, userReached, reached⟩ := Traced.exists_of_result_bind reached
  cases reached
  simp only [List.mem_append] at member
  rcases member with (inHost | inPort) | inUser
  · obtain ⟨name, lacking⟩ := of_mem_missingHost hostReached inHost
    simp [name, lacking]
  · obtain ⟨name, lacking⟩ := of_mem_missingPort inPort
    simp [name, lacking]
  · obtain ⟨name, lacking⟩ := of_mem_missingUser userReached inUser
    simp [name, lacking]

theorem not_mem_missing {defaults : Defaults}
    (reached : (defaults.missing settings).result = .ok added) {name : Text}
    (other : name ∉ [hostName, portName, userName]) : name ∉ added.map Prod.fst := by
  intro member
  obtain ⟨entry, inside, rfl⟩ := List.mem_map.mp member
  exact other (of_mem_missing reached inside).1

/-! ## What settings amount to -/

/-- What is given keeps its value. -/
theorem find?_update_missing {defaults : Defaults}
    (reached : (defaults.missing settings).result = .ok added) {name : Text}
    (given : settings.contains name = true) :
    (settings.update added).find? name = settings.find? name := by
  apply Table.find?_update_of_not_mem
  intro member
  obtain ⟨entry, inside, rfl⟩ := List.mem_map.mp member
  rw [(of_mem_missing reached inside).2] at given
  cases given

/-- Every connection has a port: the one that is given, or the standard one. -/
theorem find?_port_update_missing {defaults : Defaults}
    (reached : (defaults.missing settings).result = .ok added) :
    (settings.update added).find? portName =
      some ((settings.find? portName).getD defaultPort) := by
  cases given : settings.contains portName with
  | true =>
    rw [find?_update_missing reached given]
    obtain ⟨port, found⟩ := Option.isSome_iff_exists.mp given
    rw [found]
    rfl
  | false =>
    obtain ⟨host, hostReached, reached⟩ := Traced.exists_of_result_bind reached
    obtain ⟨user, userReached, reached⟩ := Traced.exists_of_result_bind reached
    cases reached
    have other : portName ∉ user.map Prod.fst := by
      intro member
      obtain ⟨entry, inside, name⟩ := List.mem_map.mp member
      rw [(of_mem_missingUser userReached inside).1] at name
      exact absurd name (by decide)
    have none : settings.find? portName = none := by
      simpa [Table.contains] using given
    have port : missingPort settings = [(portName, defaultPort)] := by
      rw [missingPort, given]
      rfl
    rw [Table.update_append, Table.find?_update_of_not_mem other, port, Table.update_append,
      Table.update_cons, none]
    simp [Table.update, Table.find?_insert]

end Steps

section Congruence
variable {left right : Table}

theorem missingHost_congr (defaults : Defaults)
    (same : left.contains hostName = right.contains hostName) :
    defaults.missingHost left = defaults.missingHost right := by
  rw [missingHost, missingHost, same]

theorem missingPort_congr (same : left.contains portName = right.contains portName) :
    missingPort left = missingPort right := by
  rw [missingPort, missingPort, same]

theorem missingUser_congr (defaults : Defaults)
    (same : left.contains userName = right.contains userName) :
    defaults.missingUser left = defaults.missingUser right := by
  rw [missingUser, missingUser, same]

/-- What is added depends on which of the three names are given, and on nothing else. -/
theorem missing_congr (defaults : Defaults)
    (same : ∀ name ∈ [hostName, portName, userName], left.contains name = right.contains name) :
    defaults.missing left = defaults.missing right := by
  unfold missing
  rw [missingHost_congr defaults (same hostName (by simp)), missingPort_congr (same portName (by simp)),
    missingUser_congr defaults (same userName (by simp))]

end Congruence

/-- The steps amount to one update: none of them hides from a later one that a name is missing. -/
theorem apply_eq (defaults : Defaults) (settings : Table) :
    defaults.apply settings = settings.update <$> defaults.missing settings := by
  have later : ∀ host, (defaults.missingHost settings).result = .ok host →
      defaults.withUser (withPort (settings.update host)) =
        (fun user => settings.update (host ++ missingPort settings ++ user)) <$>
          defaults.missingUser settings := by
    intro host reached
    have unnamed : ∀ name, hostName ≠ name → name ∉ host.map Prod.fst := by
      intro name different member
      obtain ⟨entry, inside, rfl⟩ := List.mem_map.mp member
      exact different (of_mem_missingHost reached inside).1.symm
    have port : missingPort (settings.update host) = missingPort settings :=
      missingPort_congr (Table.contains_update_of_not_mem (unnamed portName (by decide)) settings)
    have unported : userName ∉ (missingPort settings).map Prod.fst := by
      intro member
      obtain ⟨entry, inside, name⟩ := List.mem_map.mp member
      rw [(of_mem_missingPort inside).1] at name
      exact absurd name (by decide)
    have user : defaults.missingUser ((settings.update host).update (missingPort settings)) =
        defaults.missingUser settings := by
      apply missingUser_congr
      rw [Table.contains_update_of_not_mem unported,
        Table.contains_update_of_not_mem (unnamed userName (by decide))]
    rw [withPort_eq, port, withUser_eq, user]
    congr 1
    funext added
    rw [Table.update_append, Table.update_append]
  calc defaults.apply settings
      = defaults.missingHost settings >>= fun host =>
          defaults.withUser (withPort (settings.update host)) := by
        rw [apply, withHost_eq, bind_map_left]
    _ = defaults.missingHost settings >>= fun host =>
          (fun user => settings.update (host ++ missingPort settings ++ user)) <$>
            defaults.missingUser settings := Traced.bind_congr_of_result later
    _ = settings.update <$> defaults.missing settings := by
        simp only [missing, map_eq_pure_bind, bind_assoc, pure_bind]

end DataSource.Postgres.Defaults
