import Std.Data.ExtTreeMap
import RandomTables.Name
import RandomTables.Table

/-!
All loaded tables by name. A table is only ever added or replaced, and it is stored under the name
that it bears itself. Two stores with the same tables are equal, whatever the order in which they
were filled.
-/

namespace RandomTables

namespace Store

/-- Each table bears the name that it is stored under. -/
def Named (entries : Std.ExtTreeMap String Table) : Prop :=
  ∀ (name : String) (table : Table), entries[name]? = some table → table.name = name

variable {entries others : Std.ExtTreeMap String Table}

theorem named_empty : Named ∅ := by
  intro name table hget
  rw [Std.ExtTreeMap.getElem?_empty] at hget
  cases hget

theorem Named.insert (h : Named entries) (table : Table) :
    Named (entries.insert table.name table) := by
  intro name other hget
  rw [Std.ExtTreeMap.getElem?_insert] at hget
  split at hget
  · next hname =>
      cases hget
      exact Std.LawfulEqCmp.eq_of_compare hname
  · exact h name other hget

/-- A table that is taken over keeps its key, and so its name still is the key. -/
theorem Named.union (h : Named entries) (hothers : Named others) : Named (entries ∪ others) := by
  intro name table hget
  rw [Std.ExtTreeMap.getElem?_union, Option.or_eq_some_iff] at hget
  rcases hget with hget | ⟨_, hget⟩
  · exact hothers name table hget
  · exact h name table hget

end Store

structure Store where
  entries : Std.ExtTreeMap String Table
  named : Store.Named entries

namespace Store

def empty : Store := ⟨∅, named_empty⟩

def insert (store : Store) (table : Table) : Store :=
  ⟨store.entries.insert table.name table, store.named.insert table⟩

def get? (store : Store) (name : String) : Option Table :=
  store.entries[name]?

def contains (store : Store) (name : String) : Bool :=
  store.entries.contains name

def size (store : Store) : Nat :=
  store.entries.size

def isEmpty (store : Store) : Bool :=
  store.entries.isEmpty

def names (store : Store) : List String :=
  store.entries.keys

def visibleNames (store : Store) : List String :=
  store.names.filter Name.isVisible

/-- Every table, in the order of the names. -/
def tables (store : Store) : List Table :=
  store.entries.toList.map Prod.snd

/-- Tables of `other` replace tables of the same name. -/
def merge (store other : Store) : Store :=
  ⟨store.entries ∪ other.entries, store.named.union other.named⟩

theorem get?_empty (name : String) : empty.get? name = none :=
  Std.ExtTreeMap.getElem?_empty

theorem get?_insert (store : Store) (table : Table) (name : String) :
    (store.insert table).get? name = if table.name = name then some table else store.get? name := by
  rw [get?, insert, Std.ExtTreeMap.getElem?_insert]
  simp only [Std.LawfulEqCmp.compare_eq_iff_eq, get?]

theorem get?_merge (store other : Store) (name : String) :
    (store.merge other).get? name = (other.get? name).or (store.get? name) :=
  Std.ExtTreeMap.getElem?_union

theorem ext_get? {store other : Store} (h : ∀ name, store.get? name = other.get? name) :
    store = other := by
  cases store
  cases other
  congr
  exact Std.ExtTreeMap.ext_getElem? h

end Store

end RandomTables
