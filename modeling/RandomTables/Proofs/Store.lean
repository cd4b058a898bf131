import RandomTables.Proofs.Name
import RandomTables.Store

/-!
What a store holds, seen through the look-up of a name.
-/

namespace RandomTables.Store

variable {store : Store} {name : String} {table : Table}

theorem name_of_get? (h : store.get? name = some table) : table.name = name :=
  store.named name table h

theorem mem_tables_iff : table ∈ store.tables ↔ store.get? table.name = some table := by
  simp only [tables, List.mem_map, Prod.exists]
  constructor
  · rintro ⟨name, other, hmem, rfl⟩
    have hget : store.get? name = some other :=
      Std.ExtTreeMap.mem_toList_iff_getElem?_eq_some.1 hmem
    rwa [name_of_get? hget]
  · intro hget
    exact ⟨table.name, table, Std.ExtTreeMap.mem_toList_iff_getElem?_eq_some.2 hget, rfl⟩

theorem mem_names_of_get? (h : store.get? name = some table) : name ∈ store.names := by
  rw [names, Std.ExtTreeMap.mem_keys]
  exact (Std.ExtTreeMap.getElem?_eq_some_iff.1 h).1

theorem merge_empty (store : Store) : store.merge empty = store := by
  refine ext_get? fun name => ?_
  rw [get?_merge, get?_empty, Option.none_or]

theorem empty_merge (store : Store) : empty.merge store = store := by
  refine ext_get? fun name => ?_
  rw [get?_merge, get?_empty, Option.or_none]

theorem merge_assoc (store first second : Store) :
    (store.merge first).merge second = store.merge (first.merge second) := by
  refine ext_get? fun name => ?_
  simp only [get?_merge, Option.or_assoc]

/-- Tables of different names can be merged in either order. -/
theorem merge_right_comm {first second : Store}
    (h : ∀ name, first.get? name = none ∨ second.get? name = none) (store : Store) :
    (store.merge first).merge second = (store.merge second).merge first := by
  refine ext_get? fun name => ?_
  simp only [get?_merge]
  rcases h name with hnone | hnone <;> simp only [hnone, Option.none_or]

theorem length_names : store.names.length = store.size :=
  Std.ExtTreeMap.length_keys

theorem contains_iff_isSome_get? : store.contains name ↔ (store.get? name).isSome := by
  rw [contains, get?, Std.ExtTreeMap.contains_eq_isSome_getElem?]

theorem mem_names_iff : name ∈ store.names ↔ (store.get? name).isSome := by
  rw [← contains_iff_isSome_get?, names, Std.ExtTreeMap.mem_keys, contains,
    Std.ExtTreeMap.contains_iff_mem]

theorem sorted_names (store : Store) : store.names.Pairwise (· < ·) :=
  Name.pairwise_lt_of_compare Std.ExtTreeMap.ordered_keys

theorem nodup_names (store : Store) : store.names.Nodup := by
  refine List.Pairwise.imp (fun hlt heq => ?_) store.sorted_names
  subst heq
  exact String.lt_irrefl _ hlt

theorem sorted_visibleNames (store : Store) : store.visibleNames.Pairwise (· < ·) :=
  store.sorted_names.filter _

theorem mem_visibleNames_iff :
    name ∈ store.visibleNames ↔ store.contains name ∧ '.' ∉ name.toList := by
  rw [visibleNames, List.mem_filter, mem_names_iff, contains_iff_isSome_get?]
  simp [Name.isVisible, Name.isQualified]

end RandomTables.Store
