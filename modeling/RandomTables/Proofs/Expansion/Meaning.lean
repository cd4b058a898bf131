import RandomTables.Expansion
import RandomTables.Proofs.Store

/-!
When a name stands for a table, for dice, for a range or for itself.
-/

namespace RandomTables.Expander

variable {expander : Expander} {name : String} {scope : Option String} {table : Table}

/-- Whatever name it is found by, a table is stored under its own. -/
theorem get?_of_findTable (h : expander.findTable name scope = some table) :
    expander.tables.get? table.name = some table := by
  rcases Option.or_eq_some_iff.1 h with hget | ⟨_, hget⟩
  · rwa [Store.name_of_get? hget]
  · rwa [Store.name_of_get? hget]

theorem findTable_none : expander.findTable name none = expander.tables.get? name := by
  simp [findTable, Name.qualify]

theorem meaning_eq_table_iff :
    expander.meaning name scope = .table table ↔ expander.findTable name scope = some table := by
  unfold meaning
  split
  · simp_all
  · simp_all only [reduceCtorEq, iff_false]
    split <;> try split
    all_goals simp

theorem expandWith_of_findTable {σ : Type} [RandomSource σ]
    (hfound : expander.findTable name scope = some table)
    (expandTable : Table → Expansion σ String) :
    expander.expandWith expandTable name scope = expandTable table := by
  rw [expandWith, meaning_eq_table_iff.2 hfound]

theorem meaning_eq_dice_iff {spec : Dice.Spec} :
    expander.meaning name scope = .dice spec ↔
      expander.findTable name scope = none ∧
        Dice.Spec.parse expander.standardFaces name = .ok spec := by
  unfold meaning
  split
  · simp_all
  · split
    · simp_all
    · split <;> simp_all

theorem meaning_eq_range_iff {spec : Range.Spec} :
    expander.meaning name scope = .range spec ↔
      expander.findTable name scope = none ∧
        (∃ error, Dice.Spec.parse expander.standardFaces name = .error error) ∧
        Range.Spec.parse name = .ok spec := by
  unfold meaning
  split
  · simp_all
  · split
    · simp_all
    · split <;> simp_all

theorem meaning_eq_text_iff :
    expander.meaning name scope = .text ↔
      expander.findTable name scope = none ∧
        (∃ error, Dice.Spec.parse expander.standardFaces name = .error error) ∧
        ∃ error, Range.Spec.parse name = .error error := by
  unfold meaning
  split
  · simp_all
  · split
    · simp_all
    · split <;> simp_all

end RandomTables.Expander
