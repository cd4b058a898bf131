import RandomTables.Proofs.Name
import RandomTables.Proofs.Store

/-!
The tables of a store in any order. A look-up through them, their sorted names and the store that
they are added to are the same whatever the order is.
-/

namespace RandomTables.Store

/-- The tables of a store in whatever order they come. -/
structure Listing (store : Store) where
  tables : List Table
  perm : tables.Perm store.tables

instance (store : Store) : Inhabited store.Listing := ⟨store.tables, .refl _⟩

variable {store : Store} {name : String}

theorem map_name_tables (store : Store) : store.tables.map Table.name = store.names := by
  rw [tables, List.map_map, names, ← Std.ExtTreeMap.map_fst_toList_eq_keys]
  refine List.map_congr_left fun entry hentry => ?_
  exact store.named entry.1 entry.2 (Std.ExtTreeMap.mem_toList_iff_getElem?_eq_some.1 hentry)

theorem filterMap_get?_names (store : Store) : store.names.filterMap store.get? = store.tables := by
  have hget : ∀ table ∈ store.tables, (store.get? ∘ Table.name) table = some table :=
    fun table hmem => mem_tables_iff.1 hmem
  rw [← map_name_tables, List.filterMap_map, List.filterMap_congr hget, List.filterMap_some]

namespace Listing

variable (listing : store.Listing)

def get? (name : String) : Option Table :=
  listing.tables.find? (·.name == name)

def names : List String :=
  Name.sort (listing.tables.map Table.name)

def visibleNames : List String :=
  Name.sort ((listing.tables.map Table.name).filter Name.isVisible)

/-- Adds the tables to another store, one after another. -/
def addTo (other : Store) : Store :=
  listing.tables.foldl insert other

theorem perm_names : (listing.tables.map Table.name).Perm store.names :=
  store.map_name_tables ▸ listing.perm.map Table.name

theorem nodup_names : (listing.tables.map Table.name).Nodup :=
  listing.perm_names.nodup_iff.2 store.nodup_names

theorem names_eq : listing.names = store.names :=
  Name.sort_eq_of_perm listing.perm_names store.sorted_names

theorem visibleNames_eq : listing.visibleNames = store.visibleNames :=
  Name.sort_eq_of_perm (listing.perm_names.filter _) store.sorted_visibleNames

theorem get?_of_mem {table : Table} (h : table ∈ listing.tables) :
    store.get? table.name = some table :=
  mem_tables_iff.1 (listing.perm.mem_iff.1 h)

theorem get?_eq (name : String) : listing.get? name = store.get? name := by
  rw [get?]
  cases hget : store.get? name with
  | none =>
      rw [List.find?_eq_none]
      intro table hmem hname
      rw [← beq_iff_eq.1 hname, listing.get?_of_mem hmem] at hget
      cases hget
  | some table =>
      obtain rfl := name_of_get? hget
      have hmem : table ∈ listing.tables := listing.perm.mem_iff.2 (mem_tables_iff.2 hget)
      have hsome : (listing.tables.find? (·.name == table.name)).isSome :=
        List.find?_isSome.2 ⟨table, hmem, beq_self_eq_true table.name⟩
      obtain ⟨found, hfound⟩ := Option.isSome_iff_exists.1 hsome
      have hname : found.name = table.name := by simpa using List.find?_some hfound
      have hstored := listing.get?_of_mem (List.mem_of_find?_eq_some hfound)
      rw [hname, hget] at hstored
      rw [hfound, hstored]

end Listing

theorem get?_foldl_insert {tables : List Table} (h : (tables.map Table.name).Nodup) (store : Store)
    (name : String) :
    (tables.foldl insert store).get? name =
      (tables.find? (·.name == name)).or (store.get? name) := by
  induction tables generalizing store with
  | nil => rfl
  | cons table tables ih =>
      rw [List.map_cons, List.nodup_cons] at h
      rw [List.foldl_cons, ih h.2, get?_insert, List.find?_cons]
      by_cases hname : table.name = name
      · have hnone : tables.find? (·.name == name) = none := by
          rw [List.find?_eq_none]
          intro other hother hsame
          refine h.1 (List.mem_map.2 ⟨other, hother, ?_⟩)
          rw [beq_iff_eq.1 hsame, hname]
        rw [if_pos hname, hnone, beq_iff_eq.2 hname]
        rfl
      · rw [if_neg hname, beq_eq_false_iff_ne.2 hname]

theorem Listing.addTo_eq_merge (listing : store.Listing) (other : Store) :
    listing.addTo other = other.merge store := by
  refine ext_get? fun name => ?_
  rw [addTo, get?_foldl_insert listing.nodup_names, get?_merge, ← listing.get?_eq, Listing.get?]

end RandomTables.Store
