import Mathlib
import RandomTables.Proofs.Choice
import RandomTables.Proofs.Expansion.Meaning
import RandomTables.Proofs.Store.Load
import RandomTables.Proofs.TableFile
import RandomTables.Proofs.Template
import RandomTables.Random.Scripted

/-!
References from one section of a file to another. The name of the file is the scope of all its
tables as long as it has no dot. The scope ends at the first dot: from a file whose own name has
one, its sections are out of reach.
-/

namespace RandomTables

namespace Name

variable {file heading : String}

theorem ofSection_of_not_isMain (h : isMain heading = false) :
    ofSection file heading = file ++ "." ++ heading := by
  rw [ofSection, h]
  rfl

/-- In the scope of its file a section is looked up under its stored name, if the file is its own
scope. -/
theorem qualify_topLevel_eq_ofSection (named : file ≠ "") (undotted : '.' ∉ file.toList)
    (hmain : isMain heading = false) (hdot : '.' ∉ heading.toList) :
    qualify (some (topLevel file)) heading = ofSection file heading := by
  rw [topLevel_eq_self undotted, qualify_of_not_mem named hdot, ofSection_of_not_isMain hmain]

/-- No local name stands for a section of a file with a dot in its name: the scope has none. -/
theorem qualify_topLevel_ne_ofSection (dotted : '.' ∈ file.toList)
    (hmain : isMain heading = false) :
    qualify (some (topLevel file)) heading ≠ ofSection file heading ∧
      heading ≠ ofSection file heading := by
  rw [ofSection_of_not_isMain hmain]
  have hlonger : heading ≠ file ++ "." ++ heading := by
    intro heq
    have hlength := congrArg String.length heq
    simp only [String.length_append] at hlength
    have hdot : ".".length = 1 := rfl
    omega
  refine ⟨?_, hlonger⟩
  rcases qualify_eq_or (topLevel file) heading with heq | heq
  · rw [heq]
    -- Only a file that is its own scope would give the qualified name.
    intro hsame
    have hfile : topLevel file = file := by
      have hlists := congrArg String.toList hsame
      simp only [String.toList_append, List.append_cancel_right_eq] at hlists
      exact String.toList_inj.1 hlists
    rw [← hfile] at dotted
    exact not_mem_topLevel dotted
  · rw [heq]
    exact hlonger

end Name

namespace Expander

variable {store tables : Store} {file contents heading : String} {table : Table}

def resolveIn {σ : Type} [RandomSource σ] (expander : Expander) (remaining : Nat) (table : Table)
    (name : String) : Expansion σ String :=
  expander.expandWithin remaining name (some (Name.topLevel table.name))

theorem get?_of_loadText {count : Nat} {loaded : Store}
    (hparse : TableFile.parse? file contents = some tables)
    (hload : store.loadText file contents = .ok (loaded, count)) (name : String) :
    loaded.get? name = (tables.get? name).or (store.get? name) := by
  obtain ⟨parsed, hparsed, rfl, -⟩ := Store.loadText_eq_ok_iff.1 hload
  obtain rfl : tables = parsed := Option.some.inj (hparse.symm.trans hparsed)
  exact Store.get?_merge store tables name

/-- Where a file without a dot in its name has been loaded, the name of one of its sections finds
the table of that section from any table of the file, and a reference to it in any of their texts is
replaced by an entry of that table. -/
theorem findTable_section (σ : Type) [RandomSource σ] (expander : Expander)
    (named : file ≠ "") (undotted : '.' ∉ file.toList)
    (parsed : TableFile.parse? file contents = some tables) (count : Nat)
    (loaded : store.loadText file contents = .ok (expander.tables, count))
    (within : table ∈ tables.tables) (secondary : Name.isMain heading = false)
    (entries : TableFile.sectionEntries file contents heading ≠ [])
    (plain : ∀ c ∈ heading.toList, c ≠ '.' ∧ c ≠ '[' ∧ c ≠ ']') :
    expander.findTable heading (some (Name.topLevel table.name)) =
        some (TableFile.sectionTable file contents heading) ∧
      ∀ (remaining : Nat) (before after : String),
        (Template.substitute (expander.resolveIn (remaining + 1) table)
          (before ++ "[" ++ heading ++ "]" ++ after) : Expansion σ String) = (do
            let left ← Template.substitute (expander.resolveIn (remaining + 1) table) before
            let middle ← expandPicked (expander.expandWithin remaining)
              (TableFile.sectionTable file contents heading)
            let right ← Template.substitute (expander.resolveIn (remaining + 1) table) after
            pure (left ++ middle ++ right)) := by
  have hscope : Name.topLevel table.name = Name.topLevel file :=
    TableFile.topLevel_of_get? parsed (Store.mem_tables_iff.1 within)
  have hdot : '.' ∉ heading.toList := fun hmem => (plain '.' hmem).1 rfl
  have hown : tables.get? (Name.ofSection file heading) =
      some (TableFile.sectionTable file contents heading) :=
    TableFile.get?_ofSection_of_parse? parsed entries
  have hfound : expander.findTable heading (some (Name.topLevel table.name)) =
      some (TableFile.sectionTable file contents heading) := by
    rw [findTable, hscope, Name.qualify_topLevel_eq_ofSection named undotted secondary hdot,
      get?_of_loadText parsed loaded, hown, Option.some_or, Option.some_or]
  refine ⟨hfound, ?_⟩
  intro remaining before after
  have hbrackets : ∀ c ∈ heading.toList, Template.isBracket c = false := by
    intro c hc
    simp [Template.isBracket, plain c hc]
  have hpicked : (expander.resolveIn (remaining + 1) table heading : Expansion σ String) =
      expandPicked (expander.expandWithin remaining)
        (TableFile.sectionTable file contents heading) := by
    rw [resolveIn, expandWithin, expandWith_of_findTable hfound]
  rw [Template.substitute_reference _ hbrackets, hpicked]

def innFile : String := ";\nan [ale]\n;ale\n2,stout"

/-- The inn, where the table of another file is known by the same name. -/
def inn : Expander where
  tables := (Store.empty.insert ⟨"ale", [.literal "old ale"]⟩).merge
    ((TableFile.parse? "inn" innFile).getD Store.empty)
  dice := Dice.Registry.empty
  standardFaces := .standard
  maxDepth := 2

theorem findTable_section_inn :
    '.' ∉ "inn".toList ∧ Name.isMain "ale" = false ∧
      (∀ c ∈ "ale".toList, c ≠ '.' ∧ c ≠ '[' ∧ c ≠ ']') ∧
      inn.findTable "ale" (some "inn") = some ⟨"inn.ale", [.weighted "stout" 2]⟩ := by
  have hentries : TableFile.sectionEntries "inn" innFile "ale" = [.weighted "stout" 2] := by cbv
  have hmain : TableFile.sectionEntries "inn" innFile "main" = [.literal "an [ale]"] := by cbv
  obtain ⟨tables, hparse⟩ : ∃ tables, TableFile.parse? "inn" innFile = some tables := by
    rw [← Option.isSome_iff_exists]
    cbv
  have hload : (Store.empty.insert ⟨"ale", [.literal "old ale"]⟩).loadText "inn" innFile =
      .ok (inn.tables, tables.size) := by
    rw [Store.loadText_eq_ok_iff]
    exact ⟨tables, hparse, by rw [inn, hparse, Option.getD_some], rfl⟩
  have hget : tables.get? (Name.ofSection "inn" "main") =
      some (TableFile.sectionTable "inn" innFile "main") :=
    TableFile.get?_ofSection_of_parse? hparse (by simp [hmain])
  have hwithin : TableFile.sectionTable "inn" innFile "main" ∈ tables.tables :=
    Store.mem_tables_iff.2 hget
  have undotted : '.' ∉ "inn".toList := by decide
  have secondary : Name.isMain "ale" = false := by decide
  have plain : ∀ c ∈ "ale".toList, c ≠ '.' ∧ c ≠ '[' ∧ c ≠ ']' := by simp
  have hfound := (findTable_section Scripted inn (by decide) undotted hparse _ hload hwithin
    secondary (by simp [hentries]) plain).1
  have hown : TableFile.sectionTable "inn" innFile "ale" =
      ⟨"inn.ale", [.weighted "stout" 2]⟩ := by
    rw [TableFile.sectionTable, hentries]
    rfl
  rw [hown] at hfound
  exact ⟨undotted, secondary, plain, hfound⟩

theorem findTable_ne_section (expander : Expander) (dotted : '.' ∈ file.toList)
    (parsed : TableFile.parse? file contents = some tables) (within : table ∈ tables.tables)
    (secondary : Name.isMain heading = false) :
    expander.findTable heading (some (Name.topLevel table.name)) ≠
      some (TableFile.sectionTable file contents heading) := by
  have hscope : Name.topLevel table.name = Name.topLevel file :=
    TableFile.topLevel_of_get? parsed (Store.mem_tables_iff.1 within)
  obtain ⟨hqualified, hbare⟩ := Name.qualify_topLevel_ne_ofSection dotted secondary
  rw [hscope]
  intro hfound
  rw [findTable, Option.or_eq_some_iff] at hfound
  rcases hfound with hget | ⟨-, hget⟩
  · exact hqualified (Store.name_of_get? hget).symm
  · exact hbare (Store.name_of_get? hget).symm

def secondInn : Expander where
  tables := (TableFile.parse? "inn.v2" innFile).getD Store.empty
  dice := Dice.Registry.empty
  standardFaces := .standard
  maxDepth := 2

/-- The section is there and has entries, but no table of the file finds it, and the reference to it
is kept as text. -/
theorem findTable_ne_section_secondInn :
    Path.stem "inn.v2.txt" = "inn.v2" ∧
      TableFile.sectionEntries "inn.v2" innFile "ale" = [.weighted "stout" 2] ∧
      (∀ table ∈ secondInn.tables.tables,
        secondInn.findTable "ale" (some (Name.topLevel table.name)) ≠
          some (TableFile.sectionTable "inn.v2" innFile "ale")) ∧
      (secondInn.expand "inn.v2" none : Expansion Scripted String).run (Scripted.ofWords []) =
        .ok (.ok "an ale", ⟨[], 1⟩) := by
  have hentries : TableFile.sectionEntries "inn.v2" innFile "ale" =
      [.weighted "stout" 2] := by cbv
  obtain ⟨tables, hparse⟩ : ∃ tables, TableFile.parse? "inn.v2" innFile = some tables := by
    rw [← Option.isSome_iff_exists]
    cbv
  have htables : secondInn.tables = tables := by
    rw [secondInn, hparse, Option.getD_some]
  refine ⟨by cbv, hentries, ?_, by cbv⟩
  intro table htable
  rw [htables] at htable
  exact findTable_ne_section secondInn (by decide) hparse htable (by decide)

end Expander

end RandomTables
