import RandomTables.Lint
import RandomTables.Proofs.ReferenceGraph.Walk
import RandomTables.Proofs.Store.Listing
import RandomTables.Proofs.Store.Load
import RandomTables.Proofs.TableFile

/-!
Files that are loaded in either order. The tables of a file have the scope of its name, so files of
different names without dots have no table in common, and it does not matter which of them is loaded
first. Nor does it matter in which order the tables are kept: what is seen of a store is the same
from any listing of its tables.
-/

namespace RandomTables

/-! ### What is seen of a store -/

namespace Lint

/-- The tables in the order of their names, each looked up by its name. -/
def tablesIn (expander : Expander) (listing : expander.tables.Listing) : List Table :=
  listing.names.filterMap listing.get?

def errorsIn (expander : Expander) (listing : expander.tables.Listing) : List Problem :=
  (tablesIn expander listing).flatMap (tableErrors expander)

def warningsIn (expander : Expander) (listing : expander.tables.Listing)
    (order : (graph expander).Order) : List Problem :=
  (tablesIn expander listing).flatMap (tableWarnings expander) ++ order.cycles.map Problem.cycle

theorem tablesIn_eq (expander : Expander) (listing : expander.tables.Listing) :
    tablesIn expander listing = expander.tables.tables := by
  rw [tablesIn, listing.names_eq, funext listing.get?_eq, Store.filterMap_get?_names]

theorem errorsIn_eq (expander : Expander) (listing : expander.tables.Listing) :
    errorsIn expander listing = errors expander := by
  rw [errorsIn, tablesIn_eq, errors]

theorem warningsIn_eq (expander : Expander) (listing : expander.tables.Listing)
    (order : (graph expander).Order) : warningsIn expander listing order = warnings expander := by
  rw [warningsIn, tablesIn_eq, order.cycles_eq, warnings]

end Lint

namespace Store

variable {store : Store} {file other contents otherContents name : String}

/-- A listing shows what the store shows: look-ups, names, problems and expansions. -/
structure Listing.Shows (listing : store.Listing) : Prop where
  get? : ∀ name, listing.get? name = store.get? name
  names : listing.names = store.names
  visibleNames : listing.visibleNames = store.visibleNames
  merged : ∀ other : Store, listing.addTo other = other.merge store
  errors : ∀ dice standardFaces maxDepth,
    Lint.errorsIn ⟨store, dice, standardFaces, maxDepth⟩ listing =
      Lint.errors ⟨store, dice, standardFaces, maxDepth⟩
  warnings : ∀ dice standardFaces maxDepth,
    ∀ order : (Lint.graph ⟨store, dice, standardFaces, maxDepth⟩).Order,
      Lint.warningsIn ⟨store, dice, standardFaces, maxDepth⟩ listing order =
        Lint.warnings ⟨store, dice, standardFaces, maxDepth⟩
  expansions : ∀ (σ : Type) [RandomSource σ] (dice : Dice.Registry) (standardFaces : Faces)
    (maxDepth : Nat) (text : String) (scope : Option String),
    ((Expander.mk (listing.addTo empty) dice standardFaces maxDepth).expand text scope :
        Expansion σ String) = (Expander.mk store dice standardFaces maxDepth).expand text scope ∧
      ((Expander.mk (listing.addTo empty) dice standardFaces maxDepth).expandText text scope :
        Expansion σ String) = (Expander.mk store dice standardFaces maxDepth).expandText text scope

theorem Listing.shows (listing : store.Listing) : listing.Shows where
  get? := listing.get?_eq
  names := listing.names_eq
  visibleNames := listing.visibleNames_eq
  merged := listing.addTo_eq_merge
  errors := fun dice standardFaces maxDepth =>
    Lint.errorsIn_eq ⟨store, dice, standardFaces, maxDepth⟩ listing
  warnings := fun dice standardFaces maxDepth =>
    Lint.warningsIn_eq ⟨store, dice, standardFaces, maxDepth⟩ listing
  expansions := by
    intro σ _ dice standardFaces maxDepth text scope
    rw [listing.addTo_eq_merge, empty_merge]
    exact ⟨rfl, rfl⟩

/-! ### Loads -/

/-- Loads one file after another and says of each how it went. -/
def loadTexts : List (String × String) → Store → List (Except LoadError Nat) × Store
  | [], store => ([], store)
  | (file, contents) :: later, store =>
      let (loaded, result) := (Load.text file contents).on store
      let (results, after) := loadTexts later loaded
      (result :: results, after)

/-- Each file adds the tables that it adds to an empty store, and tells what it tells there. -/
theorem loadTexts_cons (file contents : String) (later : List (String × String)) (store : Store) :
    loadTexts ((file, contents) :: later) store =
      let (results, after) := loadTexts later (store.merge ((Load.text file contents).on empty).1)
      (((Load.text file contents).on empty).2 :: results, after) := by
  rw [loadTexts, Load.adds_text]

theorem topLevel_of_get?_text (hfile : '.' ∉ file.toList)
    (h : (((Load.text file contents).on empty).1.get? name).isSome) :
    Name.topLevel name = file := by
  obtain ⟨read, hreads, hparse⟩ := Load.exists_reads_text file contents
  rw [hreads] at h
  cases read with
  | error error => simp [get?_empty] at h
  | ok tables =>
      simp only [empty_merge] at h
      obtain ⟨table, hget⟩ := Option.isSome_iff_exists.1 h
      rw [TableFile.topLevel_of_get? hparse.symm hget, Name.topLevel_eq_self hfile]

theorem merge_text_comm (hdistinct : file ≠ other) (hfile : '.' ∉ file.toList)
    (hother : '.' ∉ other.toList) (store : Store) (contents otherContents : String) :
    (store.merge ((Load.text file contents).on empty).1).merge
        ((Load.text other otherContents).on empty).1 =
      (store.merge ((Load.text other otherContents).on empty).1).merge
        ((Load.text file contents).on empty).1 := by
  refine merge_right_comm (fun name => ?_) store
  rw [← Option.not_isSome_iff_eq_none, ← Option.not_isSome_iff_eq_none, ← not_and_or]
  rintro ⟨hfirst, hsecond⟩
  exact hdistinct ((topLevel_of_get?_text hfile hfirst).symm.trans
    (topLevel_of_get?_text hother hsecond))

/-- Files of different names without dots can be loaded in either order: each load tells the same,
and the same store comes of it, which any listing of its tables shows. -/
theorem loadTexts_comm (store : Store) (hdistinct : file ≠ other) (hfile : '.' ∉ file.toList)
    (hother : '.' ∉ other.toList) (contents otherContents : String) :
    ∃ result otherResult after,
      loadTexts [(file, contents), (other, otherContents)] store =
        ([result, otherResult], after) ∧
      loadTexts [(other, otherContents), (file, contents)] store =
        ([otherResult, result], after) ∧
      ∀ listing : after.Listing, listing.Shows := by
  refine ⟨((Load.text file contents).on empty).2, ((Load.text other otherContents).on empty).2,
    (store.merge ((Load.text file contents).on empty).1).merge
      ((Load.text other otherContents).on empty).1, ?_, ?_, fun listing => listing.shows⟩
  · rw [loadTexts_cons, loadTexts_cons, loadTexts]
  · rw [loadTexts_cons, loadTexts_cons, loadTexts, merge_text_comm hdistinct hfile hother]

/-- Both files have a section `sign`, and each main section is written in its own way. -/
theorem loadTexts_comm_inn :
    "inn" ≠ "ruin" ∧ '.' ∉ "inn".toList ∧ '.' ∉ "ruin".toList ∧
      ∃ result otherResult after,
        loadTexts [("inn", ";MAIN\nThe [sign]\n;sign\nRed Ox"),
          ("ruin", ";\nAn arch\n;sign\nMoss")] empty = ([result, otherResult], after) ∧
        loadTexts [("ruin", ";\nAn arch\n;sign\nMoss"),
          ("inn", ";MAIN\nThe [sign]\n;sign\nRed Ox")] empty = ([otherResult, result], after) ∧
        ∀ listing : after.Listing, listing.Shows := by
  have hdistinct : "inn" ≠ "ruin" := by decide
  have hfile : '.' ∉ "inn".toList := by decide
  have hother : '.' ∉ "ruin".toList := by decide
  exact ⟨hdistinct, hfile, hother, loadTexts_comm empty hdistinct hfile hother _ _⟩

end Store

end RandomTables
