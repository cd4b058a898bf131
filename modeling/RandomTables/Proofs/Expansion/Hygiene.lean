import Mathlib
import RandomTables.Proofs.Expansion.Ensures
import RandomTables.Proofs.Store.Load
import RandomTables.Proofs.TableFile
import RandomTables.Random.Scripted

/-!
A self-contained file expands to the same texts whatever other files are loaded. Its references are
looked up under its own names first, and the scope of what they find is the file once more, so that
no table of another file comes in between.
-/

namespace RandomTables

def Store.AgreesOn (store other : Store) (file : String) : Prop :=
  ∀ name, Name.topLevel name = file → other.get? name = store.get? name

theorem Store.agreesOn_of_loadText {store loaded : Store} {file named contents : String}
    {count : Nat} (load : store.loadText named contents = .ok (loaded, count))
    (distinct : Name.topLevel named ≠ file) : store.AgreesOn loaded file := by
  obtain ⟨tables, hparse, rfl, -⟩ := Store.loadText_eq_ok_iff.1 load
  intro name hname
  have hnone : tables.get? name = none := by
    rw [Option.eq_none_iff_forall_ne_some]
    intro table hget
    exact distinct ((TableFile.topLevel_of_get? hparse hget).symm.trans hname)
  rw [Store.get?_merge, hnone, Option.none_or]

namespace Expander

/-- Each reference in a table of the file finds a table of the file, or else no table, with `other`
as the store either. -/
def SelfContained (expander : Expander) (other : Store) (file : String) : Prop :=
  ∀ table ∈ expander.tables.tables, Name.topLevel table.name = file →
    ∀ alternative ∈ table.alternatives, ∀ reference ∈ Template.references alternative.text,
      (∃ inner, expander.findTable reference (some file) = some inner ∧
          Name.topLevel inner.name = file) ∨
        expander.findTable reference (some file) = none ∧
          { expander with tables := other }.findTable reference (some file) = none

/-- With either store the name finds the same table, one of the file, or it finds none. -/
structure FindsWithin (expander : Expander) (other : Store) (file name : String)
    (scope : Option String) : Prop where
  same : { expander with tables := other }.findTable name scope = expander.findTable name scope
  own : ∀ table, expander.findTable name scope = some table → Name.topLevel table.name = file

variable {expander : Expander} {other : Store} {file name : String} {scope : Option String}
  {table : Table}

theorem get?_eq_of_agreesOn (agree : expander.tables.AgreesOn other file)
    (hget : expander.tables.get? name = some table) (hfile : Name.topLevel table.name = file) :
    other.get? name = some table := by
  have hname : Name.topLevel name = file := by
    rw [← Store.name_of_get? hget, hfile]
  rw [agree name hname, hget]

/-- A table of the file is found again. If it was found under the bare name, then for want of one
under the qualified name, and that is a name of the file too. -/
theorem findTable_eq_of_agreesOn (agree : expander.tables.AgreesOn other file)
    (hfound : expander.findTable name (some file) = some table)
    (hfile : Name.topLevel table.name = file) :
    { expander with tables := other }.findTable name (some file) = some table := by
  rw [findTable, Option.or_eq_some_iff] at hfound ⊢
  rcases hfound with hqualified | ⟨hnone, hbare⟩
  · exact Or.inl (get?_eq_of_agreesOn agree hqualified hfile)
  · refine Or.inr ⟨?_, get?_eq_of_agreesOn agree hbare hfile⟩
    rcases Name.qualify_eq_or file name with heq | heq
    · rw [heq] at hnone ⊢
      have hscope : Name.topLevel file = file := by
        rw [← hfile]
        exact Name.topLevel_eq_self Name.not_mem_topLevel
      have hqualified : Name.topLevel (file ++ "." ++ name) = file := by
        rw [Name.topLevel_append, hscope]
      rw [agree _ hqualified, hnone]
    · rw [heq, hbare] at hnone
      cases hnone

theorem SelfContained.findsWithin (contained : expander.SelfContained other file)
    (agree : expander.tables.AgreesOn other file)
    (stored : expander.tables.get? table.name = some table)
    (hfile : Name.topLevel table.name = file) {alternative : Alternative}
    (halternative : alternative ∈ table.alternatives) {reference : String}
    (hreference : reference ∈ Template.references alternative.text) :
    expander.FindsWithin other file reference (some file) := by
  have hstored := Store.mem_tables_iff.2 stored
  rcases contained table hstored hfile alternative halternative reference hreference with
    ⟨inner, hinner, hown⟩ | ⟨hnone, hother⟩
  · refine ⟨?_, ?_⟩
    · rw [findTable_eq_of_agreesOn agree hinner hown, hinner]
    · intro found hfound
      obtain rfl : inner = found := Option.some.inj (hinner.symm.trans hfound)
      exact hown
  · refine ⟨?_, ?_⟩
    · rw [hother, hnone]
    · intro found hfound
      rw [hnone] at hfound
      cases hfound

theorem findsWithin_of_agreesOn (agree : expander.tables.AgreesOn other file)
    (stored : table ∈ expander.tables.tables) (within : Name.topLevel table.name = file) :
    expander.FindsWithin other file table.name none := by
  refine ⟨?_, ?_⟩
  · rw [findTable_none, findTable_none]
    exact agree table.name within
  · intro found hfound
    rw [findTable_none, Store.mem_tables_iff.1 stored] at hfound
    obtain rfl : table = found := Option.some.inj hfound
    exact within

variable {σ : Type} [RandomSource σ]

theorem expandWith_eq_of_findTable_eq
    (same : { expander with tables := other }.findTable name scope =
      expander.findTable name scope)
    {expandTable expandTable' : Table → Expansion σ String}
    (htable : ∀ table, expander.findTable name scope = some table →
      expandTable' table = expandTable table) :
    { expander with tables := other }.expandWith expandTable' name scope =
      expander.expandWith expandTable name scope := by
  have hmeaning : { expander with tables := other }.meaning name scope =
      expander.meaning name scope := by
    rw [meaning, same]
    rfl
  rw [expandWith, hmeaning, expandWith]
  split
  · next table hstands => exact htable table (meaning_eq_table_iff.1 hstands)
  · rfl
  · rfl
  · rfl

theorem expandPicked_congr {resolve resolve' : String → Option String → Expansion σ String}
    (h : ∀ alternative ∈ table.alternatives, ∀ reference ∈ Template.references alternative.text,
      resolve reference (some (Name.topLevel table.name)) =
        resolve' reference (some (Name.topLevel table.name))) :
    expandPicked resolve table = expandPicked resolve' table := by
  rw [expandPicked, expandPicked]
  refine Expansion.lift_bind_congr (Choice.ensures_choose table.alternatives) ?_
  intro picked hselectable
  cases picked with
  | none => rfl
  | some alternative => exact Template.substitute_congr (h alternative hselectable.mem)

theorem expandWithin_eq_of_selfContained (agree : expander.tables.AgreesOn other file)
    (contained : expander.SelfContained other file) (remaining : Nat)
    (hname : expander.FindsWithin other file name scope) :
    ({ expander with tables := other }.expandWithin remaining name scope : Expansion σ String) =
      expander.expandWithin remaining name scope := by
  induction remaining generalizing name scope with
  | zero => exact expandWith_eq_of_findTable_eq hname.same fun _ _ => rfl
  | succ remaining ih =>
      refine expandWith_eq_of_findTable_eq hname.same ?_
      intro table hfound
      -- The table found is one of the file, so the scope of its references is the file again.
      have hfile := hname.own table hfound
      refine expandPicked_congr ?_
      intro alternative halternative reference hreference
      rw [hfile]
      exact ih (contained.findsWithin agree (get?_of_findTable hfound) hfile halternative
        hreference)

/-- A table of a self-contained file expands to the same result with any store that has the same
tables of that file, and it leaves the random source in the same state. -/
theorem expand_eq_of_selfContained (expander : Expander) (other : Store) (file : String)
    (agree : expander.tables.AgreesOn other file) (contained : expander.SelfContained other file)
    (table : Table) (stored : table ∈ expander.tables.tables)
    (within : Name.topLevel table.name = file) (source : σ) :
    ({ expander with tables := other }.expand table.name none : Expansion σ String).run source =
      (expander.expand table.name none : Expansion σ String).run source := by
  have hname := findsWithin_of_agreesOn agree stored within
  have hsame : ({ expander with tables := other }.expand table.name none : Expansion σ String) =
      expander.expand table.name none :=
    expandWithin_eq_of_selfContained agree contained expander.maxDepth hname
  rw [hsame]

def people : Expander where
  tables := (Store.empty.insert ⟨"npc", [.literal "[name], aged [2d6]"]⟩).insert
    ⟨"npc.name", [.literal "Mara", .literal "heir of [npc.name]"]⟩
  dice := Dice.Registry.empty
  standardFaces := .standard
  maxDepth := 3

/-- With another table that bears the name of a reference. -/
def peopleAndNames : Store :=
  people.tables.insert ⟨"name", [.literal "nobody"]⟩

theorem expand_eq_of_selfContained_people :
    people.tables.AgreesOn peopleAndNames "npc" ∧ people.SelfContained peopleAndNames "npc" ∧
      ({ people with tables := peopleAndNames }.expand "npc" none : Expansion Scripted String).run
        (Scripted.ofWords [0, 1#64 <<< 63]) = .ok (.ok "heir of Mara, aged 2", ⟨[], 5⟩) := by
  have htables : people.tables.tables = [⟨"npc", [.literal "[name], aged [2d6]"]⟩,
      ⟨"npc.name", [.literal "Mara", .literal "heir of [npc.name]"]⟩] := by cbv
  have agree : people.tables.AgreesOn peopleAndNames "npc" := by
    intro name hname
    rw [peopleAndNames, Store.get?_insert, if_neg]
    rintro rfl
    revert hname
    decide
  have contained : people.SelfContained peopleAndNames "npc" := by
    intro table hstored _ alternative halternative reference hreference
    have hreferences : (people.tables.tables.flatMap Table.alternatives).flatMap
        (fun alternative => Template.references alternative.text) =
          ["name", "2d6", "npc.name"] := by cbv
    have hmem : reference ∈ ["name", "2d6", "npc.name"] := by
      rw [← hreferences]
      exact List.mem_flatMap.2
        ⟨alternative, List.mem_flatMap.2 ⟨table, hstored, halternative⟩, hreference⟩
    simp only [List.mem_cons, List.not_mem_nil, or_false] at hmem
    rcases hmem with rfl | rfl | rfl
    · exact Or.inl ⟨⟨"npc.name", [.literal "Mara", .literal "heir of [npc.name]"]⟩, by cbv, by cbv⟩
    · exact Or.inr ⟨by cbv, by cbv⟩
    · exact Or.inl ⟨⟨"npc.name", [.literal "Mara", .literal "heir of [npc.name]"]⟩, by cbv, by cbv⟩
  have hrun : (people.expand "npc" none : Expansion Scripted String).run
      (Scripted.ofWords [0, 1#64 <<< 63]) = .ok (.ok "heir of Mara, aged 2", ⟨[], 5⟩) := by cbv
  refine ⟨agree, contained, ?_⟩
  have hstored : ⟨"npc", [.literal "[name], aged [2d6]"]⟩ ∈ people.tables.tables := by
    simp [htables]
  exact (expand_eq_of_selfContained people peopleAndNames "npc" agree contained _ hstored rfl
    _).trans hrun

/-- Loading a file does not change what the tables of another file expand to. -/
theorem expand_eq_of_loadText {named contents : String} {count : Nat}
    (load : expander.tables.loadText named contents = .ok (other, count))
    (distinct : Name.topLevel named ≠ file) (contained : expander.SelfContained other file)
    (stored : table ∈ expander.tables.tables) (within : Name.topLevel table.name = file) :
    ({ expander with tables := other }.expand table.name none : Expansion σ String) =
      expander.expand table.name none := by
  have agree := Store.agreesOn_of_loadText load distinct
  have hname := findsWithin_of_agreesOn agree stored within
  exact expandWithin_eq_of_selfContained agree contained expander.maxDepth hname

end Expander

end RandomTables
