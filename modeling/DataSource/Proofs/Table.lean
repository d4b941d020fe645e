import DataSource.Table

/-! Tables as lists of assignments. Carrying out the entries of a table one after the other gives
the table back, and two tables with the same entries in different orders agree. -/
namespace DataSource.Table

theorem write_of_not_mem {name value : Text} {entries : List (Text × Text)}
    (new : name ∉ entries.map Prod.fst) : write name value entries = entries ++ [(name, value)] := by
  induction entries with
  | nil => rfl
  | cons entry rest ih =>
    obtain ⟨other, old⟩ := entry
    simp only [List.map_cons, List.mem_cons, not_or] at new
    simp only [write, if_neg (Ne.symm new.1), ih new.2, List.cons_append]

/-- Assignments to new names, each given once, are appended as they stand. -/
theorem entries_update {table : Table} {assignments : List (Text × Text)}
    (distinct : ((table.entries ++ assignments).map Prod.fst).Nodup) :
    (table.update assignments).entries = table.entries ++ assignments := by
  induction assignments generalizing table with
  | nil => simp [update]
  | cons assignment rest ih =>
    obtain ⟨name, value⟩ := assignment
    have new : name ∉ table.entries.map Prod.fst := by
      intro member
      rw [List.map_append, List.nodup_append] at distinct
      exact distinct.2.2 name member name (by simp) rfl
    have inserted : (table.insert name value).entries = table.entries ++ [(name, value)] :=
      write_of_not_mem new
    have step : (table.insert name value).update rest = table.update ((name, value) :: rest) := rfl
    rw [← step, ih (by simpa [inserted] using distinct), inserted, List.append_assoc,
      List.singleton_append]

theorem ext_entries {left right : Table} (same : left.entries = right.entries) : left = right := by
  cases left
  cases right
  cases same
  rfl

theorem entries_ofList {assignments : List (Text × Text)}
    (distinct : (assignments.map Prod.fst).Nodup) : (ofList assignments).entries = assignments := by
  have fresh : ((empty.entries ++ assignments).map Prod.fst).Nodup := distinct
  exact entries_update fresh

/-- The entries of a table, carried out in their order, are the table. -/
theorem ofList_entries (table : Table) : ofList table.entries = table :=
  ext_entries (entries_ofList table.names_nodup)

theorem mem_names_insert (table : Table) (name value other : Text) :
    other ∈ (table.insert name value).names ↔ other = name ∨ other ∈ table.names := by
  rw [names_insert]
  split
  · rename_i known
    exact ⟨Or.inr, fun given => given.elim (fun same => same ▸ known) id⟩
  · rw [List.mem_append, List.mem_singleton, or_comm]

/-- Assignments bring their own names into a table and no others. -/
theorem mem_names_update {table : Table} {assignments : List (Text × Text)} {name : Text} :
    name ∈ (table.update assignments).names ↔
      name ∈ table.names ∨ name ∈ assignments.map Prod.fst := by
  induction assignments generalizing table with
  | nil => simp [update]
  | cons assignment rest ih =>
    show name ∈ ((table.insert assignment.1 assignment.2).update rest).names ↔ _
    rw [ih, mem_names_insert, List.map_cons, List.mem_cons, or_assoc, or_left_comm]

theorem mem_of_mem_names_ofList {assignments : List (Text × Text)} {name : Text}
    (member : name ∈ (ofList assignments).names) : name ∈ assignments.map Prod.fst := by
  rcases mem_names_update.mp member with none | found
  · cases none
  · exact found

theorem value?_eq_some_iff {name value : Text} {entries : List (Text × Text)}
    (distinct : (entries.map Prod.fst).Nodup) :
    value? name entries = some value ↔ (name, value) ∈ entries := by
  induction entries with
  | nil => simp [value?]
  | cons entry rest ih =>
    obtain ⟨other, old⟩ := entry
    obtain ⟨absent, restDistinct⟩ := List.nodup_cons.mp distinct
    by_cases same : other = name
    · subst same
      have elsewhere : (other, value) ∉ rest := fun member =>
        absent (List.mem_map.mpr ⟨(other, value), member, rfl⟩)
      simp [value?, elsewhere, eq_comm]
    · simp [value?, same, ih restDistinct, Ne.symm same]

/-- The order of the entries does not matter to the values. -/
theorem agrees_of_perm {left right : Table} (reordered : left.entries.Perm right.entries) :
    left.Agrees right := by
  intro name
  apply Option.ext
  intro value
  simp only [find?, value?_eq_some_iff left.names_nodup, value?_eq_some_iff right.names_nodup]
  exact reordered.mem_iff

theorem update_append (table : Table) (first second : List (Text × Text)) :
    table.update (first ++ second) = (table.update first).update second :=
  List.foldl_append

theorem update_cons (table : Table) (assignment : Text × Text) (rest : List (Text × Text)) :
    table.update (assignment :: rest) = (table.insert assignment.1 assignment.2).update rest :=
  rfl

theorem ofList_append (first second : List (Text × Text)) :
    ofList (first ++ second) = (ofList first).update second :=
  update_append empty first second

/-- Assignments keep two tables equal at a name at which they were equal before. -/
theorem find?_update_congr {left right : Table} {name : Text}
    (same : left.find? name = right.find? name) (assignments : List (Text × Text)) :
    (left.update assignments).find? name = (right.update assignments).find? name := by
  induction assignments generalizing left right with
  | nil => exact same
  | cons assignment rest ih =>
    rw [update_cons, update_cons]
    apply ih
    rw [find?_insert, find?_insert, same]

/-- An assignment to one name is not seen at another, whatever is assigned after it. -/
theorem find?_ofList_cons_of_ne {name other : Text} (different : other ≠ name)
    (before after : List (Text × Text)) (value : Text) :
    (ofList (before ++ (other, value) :: after)).find? name =
      (ofList (before ++ after)).find? name := by
  rw [ofList_append, ofList_append, update_cons]
  apply find?_update_congr
  rw [find?_insert, if_neg different]

theorem find?_update_of_not_mem {assignments : List (Text × Text)} {name : Text}
    (absent : name ∉ assignments.map Prod.fst) (table : Table) :
    (table.update assignments).find? name = table.find? name := by
  induction assignments generalizing table with
  | nil => rfl
  | cons assignment rest ih =>
    simp only [List.map_cons, List.mem_cons, not_or] at absent
    rw [update_cons, ih absent.2, find?_insert, if_neg (Ne.symm absent.1)]

theorem contains_insert (table : Table) (name value other : Text) :
    (table.insert name value).contains other = (decide (name = other) || table.contains other) := by
  by_cases same : name = other <;> simp [contains, find?_insert, same]

/-- A name has a value after some assignments if it had one before or they give it one. -/
theorem contains_update (table : Table) (assignments : List (Text × Text)) (name : Text) :
    (table.update assignments).contains name = true ↔
      table.contains name = true ∨ name ∈ assignments.map Prod.fst := by
  induction assignments generalizing table with
  | nil => simp [update]
  | cons assignment rest ih =>
    rw [update_cons, ih, contains_insert]
    simp only [Bool.or_eq_true, decide_eq_true_eq, List.map_cons, List.mem_cons,
      eq_comm (a := assignment.1), or_assoc]
    exact or_left_comm

theorem contains_update_of_not_mem {assignments : List (Text × Text)} {name : Text}
    (absent : name ∉ assignments.map Prod.fst) (table : Table) :
    (table.update assignments).contains name = table.contains name := by
  apply Bool.eq_iff_iff.mpr
  simp [contains_update, absent]

theorem contains_ofList (assignments : List (Text × Text)) (name : Text) :
    (ofList assignments).contains name = true ↔ name ∈ assignments.map Prod.fst := by
  rw [ofList, contains_update]
  simp [contains, find?, empty, value?]

/-! ## Updates by a table -/

theorem write_write_self (name old value : Text) (entries : List (Text × Text)) :
    write name value (write name old entries) = write name value entries := by
  induction entries with
  | nil => simp [write]
  | cons entry rest ih => by_cases same : entry.1 = name <;> simp [write, same, ih]

/-- A name that is there keeps its place, so it does not matter what else is written first. -/
theorem write_comm_of_mem {name other : Text} (different : other ≠ name)
    {entries : List (Text × Text)} (known : name ∈ entries.map Prod.fst) (value new : Text) :
    write name value (write other new entries) = write other new (write name value entries) := by
  induction entries with
  | nil => cases known
  | cons entry rest ih =>
    by_cases here : entry.1 = name
    · simp [write, here, Ne.symm different]
    · have later := ih ((List.mem_cons.mp known).resolve_left (Ne.symm here))
      by_cases there : entry.1 = other
      · simp [write, there, different]
      · simp [write, here, there, later]

theorem insert_insert_self (table : Table) (name old value : Text) :
    (table.insert name old).insert name value = table.insert name value :=
  ext_entries (write_write_self name old value table.entries)

/-- A new value for a name that is there may be given before assignments to other names. -/
theorem insert_update_of_mem {table : Table} {name : Text} (known : name ∈ table.names)
    {assignments : List (Text × Text)} (absent : name ∉ assignments.map Prod.fst) (value : Text) :
    (table.update assignments).insert name value = (table.insert name value).update assignments := by
  induction assignments generalizing table with
  | nil => rfl
  | cons assignment rest ih =>
    simp only [List.map_cons, List.mem_cons, not_or] at absent
    have still : name ∈ (table.insert assignment.1 assignment.2).names := by
      rw [names_insert]
      split
      · exact known
      · exact List.mem_append_left _ known
    have swapped : (table.insert assignment.1 assignment.2).insert name value =
        (table.insert name value).insert assignment.1 assignment.2 :=
      ext_entries (write_comm_of_mem (Ne.symm absent.1) known value assignment.2)
    rw [update_cons, update_cons, ih still absent.2, swapped]

/-- Writing into a list of assignments is as good as an assignment after all of them. -/
theorem update_write {entries : List (Text × Text)} (distinct : (entries.map Prod.fst).Nodup)
    (table : Table) (name value : Text) :
    table.update (write name value entries) = (table.update entries).insert name value := by
  induction entries generalizing table with
  | nil => rfl
  | cons entry rest ih =>
    obtain ⟨other, old⟩ := entry
    obtain ⟨absent, distinct⟩ := List.nodup_cons.mp distinct
    by_cases same : other = name
    · subst same
      have known : other ∈ (table.insert other old).names := by
        rw [names_insert]
        split
        · assumption
        · simp
      rw [write, if_pos rfl, update_cons, update_cons, insert_update_of_mem known absent,
        insert_insert_self]
    · rw [write, if_neg same, update_cons, update_cons]
      exact ih distinct _

/-- Assignments may be collected in a table before they are carried out. -/
theorem update_entries_update (table other : Table) (assignments : List (Text × Text)) :
    table.update (other.update assignments).entries =
      (table.update other.entries).update assignments := by
  induction assignments generalizing other with
  | nil => rfl
  | cons assignment rest ih =>
    have first : table.update (other.insert assignment.1 assignment.2).entries =
        (table.update other.entries).insert assignment.1 assignment.2 :=
      update_write other.names_nodup table assignment.1 assignment.2
    rw [update_cons, ih, first, update_cons]

theorem update_entries_ofList (table : Table) (assignments : List (Text × Text)) :
    table.update (ofList assignments).entries = table.update assignments :=
  update_entries_update table empty assignments

/-! ## Agreement -/

theorem Agrees.refl (table : Table) : table.Agrees table := fun _ => rfl

theorem Agrees.trans {first second third : Table} (left : first.Agrees second)
    (right : second.Agrees third) : first.Agrees third := fun name => (left name).trans (right name)

theorem Agrees.insert {left right : Table} (agree : left.Agrees right) (name value : Text) :
    (left.insert name value).Agrees (right.insert name value) := by
  intro other
  rw [find?_insert, find?_insert, agree other]

/-- The order in which two names get their values does not matter to the values. -/
theorem agrees_insert_comm {name other : Text} (different : name ≠ other) (table : Table)
    (value new : Text) :
    ((table.insert name value).insert other new).Agrees
      ((table.insert other new).insert name value) := by
  intro probe
  simp only [find?_insert]
  by_cases here : name = probe
  · subst here
    simp [Ne.symm different]
  · simp [here]

theorem entries_nodup (table : Table) : table.entries.Nodup :=
  List.Pairwise.of_map Prod.fst
    (fun _ _ different same => different (congrArg Prod.fst same)) table.names_nodup

/-- Tables that agree have the same entries, in whatever order. -/
theorem Agrees.perm_entries {left right : Table} (agree : left.Agrees right) :
    left.entries.Perm right.entries := by
  refine (List.perm_ext_iff_of_nodup left.entries_nodup right.entries_nodup).mpr fun entry => ?_
  rw [← value?_eq_some_iff left.names_nodup, ← value?_eq_some_iff right.names_nodup]
  show left.find? entry.1 = some entry.2 ↔ right.find? entry.1 = some entry.2
  rw [agree entry.1]

end DataSource.Table
