import DataSource.Attributes

/-! The list of the attributes that are present. Each of them comes from a field, under a name that
is this field's own; only the peer has two names, one for an address and one for a name. So what
the list gives under a name is what the field holds, and no name is in the list twice. -/
namespace DataSource

theorem Transport.name_injective : Function.Injective Transport.name := by
  intro left right same
  cases left <;> cases right <;> first | rfl | exact absurd same (by decide)

namespace Attributes

/-- The names of the attributes that are present. -/
def names (attributes : Attributes) : List Text :=
  attributes.entries.map Prod.fst

theorem exists_peer_iff {holds : Peer → Prop} :
    (∃ peer, holds peer) ↔ (∃ text, holds (.address text)) ∨ ∃ text, holds (.name text) := by
  constructor
  · rintro ⟨peer | peer, here⟩
    · exact Or.inl ⟨peer, here⟩
    · exact Or.inr ⟨peer, here⟩
  · rintro (⟨text, here⟩ | ⟨text, here⟩) <;> exact ⟨_, here⟩

theorem exists_value_iff {α : Type} {field : Option α} {value : α → Value} :
    (∃ entry content, field = some content ∧ value content = entry) ↔ field ≠ none := by
  cases field <;> simp

variable {attributes : Attributes} {value : Value}

/-- Each attribute comes from the field that it is listed for. -/
theorem mem_entries_iff {entry : Text × Value} :
    entry ∈ attributes.entries ↔
      entry = ("db.system".toList, .text attributes.system.name) ∨
      (∃ text, attributes.database = some text ∧ ("db.name".toList, .text text) = entry) ∨
      (∃ text, attributes.connectionString = some text ∧
        ("db.connection_string".toList, .text text) = entry) ∨
      (∃ text, attributes.user = some text ∧ ("db.user".toList, .text text) = entry) ∨
      (∃ transport, attributes.transport = some transport ∧
        ("net.transport".toList, .text transport.name) = entry) ∨
      (∃ text, attributes.peer = some (.address text) ∧
        ("net.peer.ip".toList, .text text) = entry) ∨
      (∃ text, attributes.peer = some (.name text) ∧
        ("net.peer.name".toList, .text text) = entry) ∨
      ∃ n, attributes.port = some n ∧ ("net.peer.port".toList, .integer n) = entry := by
  simp only [entries, List.mem_append, List.mem_singleton, List.mem_map, Option.mem_toList,
    exists_peer_iff, or_assoc]
  -- what is left to see is the entry of either kind of peer
  rfl

theorem address_mem_entries_iff :
    ("net.peer.ip".toList, value) ∈ attributes.entries ↔
      ∃ text, attributes.peer = some (.address text) ∧ .text text = value := by
  simp only [mem_entries_iff, Prod.mk.injEq, String.toList_inj, String.reduceEq, false_and,
    and_false, exists_false, true_and, false_or, or_false]

theorem name_mem_entries_iff :
    ("net.peer.name".toList, value) ∈ attributes.entries ↔
      ∃ text, attributes.peer = some (.name text) ∧ .text text = value := by
  simp only [mem_entries_iff, Prod.mk.injEq, String.toList_inj, String.reduceEq, false_and,
    and_false, exists_false, true_and, false_or, or_false]

theorem port_mem_entries_iff :
    ("net.peer.port".toList, value) ∈ attributes.entries ↔
      ∃ n, attributes.port = some n ∧ .integer n = value := by
  simp only [mem_entries_iff, Prod.mk.injEq, String.toList_inj, String.reduceEq, false_and,
    and_false, exists_false, true_and, false_or]

theorem mem_names_iff {name : Text} :
    name ∈ attributes.names ↔ ∃ value, (name, value) ∈ attributes.entries := by
  simp [names]

theorem transport_mem_entries_iff (transport : Transport) :
    ("net.transport".toList, .text transport.name) ∈ attributes.entries ↔
      attributes.transport = some transport := by
  simp only [mem_entries_iff, Prod.mk.injEq, String.toList_inj, String.reduceEq, false_and,
    and_false, exists_false, true_and, false_or, or_false, Value.text.injEq,
    Transport.name_injective.eq_iff, exists_eq_right]

theorem transport_mem_names_iff :
    "net.transport".toList ∈ attributes.names ↔ attributes.transport ≠ none := by
  simp only [mem_names_iff, mem_entries_iff, Prod.mk.injEq, String.toList_inj, String.reduceEq,
    false_and, and_false, exists_false, true_and, false_or, or_false, exists_value_iff]

theorem mem_entries_connectionString (attributes : Attributes) :
    "db.connection_string".toList ∈ attributes.entries.map Prod.fst ↔
      attributes.connectionString ≠ none := by
  rw [← names]
  simp only [mem_names_iff, mem_entries_iff, Prod.mk.injEq, String.toList_inj, String.reduceEq,
    false_and, and_false, exists_false, true_and, false_or, or_false, exists_value_iff]

theorem names_of_field_sublist {α : Type} (field : Option α) (name : Text) (value : α → Value) :
    ((field.toList.map fun content => (name, value content)).map Prod.fst).Sublist [name] := by
  cases field with
  | none => exact List.nil_sublist [name]
  | some content => exact List.Sublist.refl [name]

/-- A peer is listed under one of two names, never under both. -/
theorem exists_name_of_peer (peer : Option Peer) :
    ∃ name ∈ ["net.peer.ip".toList, "net.peer.name".toList],
      ((peer.toList.map Peer.entry).map Prod.fst).Sublist [name] := by
  match peer with
  | none => exact ⟨_, List.mem_cons_self, List.nil_sublist _⟩
  | some (.address _) => exact ⟨_, List.mem_cons_self, List.Sublist.refl _⟩
  | some (.name _) => exact ⟨_, List.mem_cons_of_mem _ List.mem_cons_self, List.Sublist.refl _⟩

/-- With the name of the peer in its place, the names are among seven different ones, in the same
order. -/
theorem nodup_names (attributes : Attributes) : attributes.names.Nodup := by
  obtain ⟨name, known, peer⟩ := exists_name_of_peer attributes.peer
  have distinct : ∀ name ∈ ["net.peer.ip".toList, "net.peer.name".toList],
      (["db.system".toList] ++ ["db.name".toList] ++ ["db.connection_string".toList] ++
        ["db.user".toList] ++ ["net.transport".toList] ++ [name] ++
          ["net.peer.port".toList]).Nodup := by decide
  refine (distinct name known).sublist ?_
  simp only [names, entries, List.map_append]
  refine .append (.append (.append (.append (.append (.append (.refl _) ?_) ?_) ?_) ?_) peer) ?_
  all_goals exact names_of_field_sublist _ _ _

end Attributes

end DataSource
