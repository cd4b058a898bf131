import RandomTables.Proofs.Choice
import RandomTables.Proofs.Expansion.Meaning
import RandomTables.Proofs.Template

/-!
Texts that an expansion can be made to return by the right random words.
-/

namespace RandomTables

namespace Expansion

variable {α β : Type}

/-- Some words make the expansion return the value without an error. -/
def Attains (expansion : Expansion Scripted α) (value : α) : Prop :=
  Draw.Attains expansion.run (.ok value)

theorem attains_pure (value : α) : Attains (pure value) value :=
  Draw.attains_pure (Except.ok value)

theorem attains_lift {draw : Draw Scripted α} {value : α} (h : draw.Attains value) :
    Attains (ExceptT.lift draw) value := by
  rw [Attains, ExceptT.run_lift, map_eq_pure_bind]
  exact h.bind (Draw.attains_pure _)

theorem Attains.bind {expansion : Expansion Scripted α} {next : α → Expansion Scripted β}
    {value : α} {result : β} (h : expansion.Attains value) (hnext : (next value).Attains result) :
    Attains (expansion >>= next) result :=
  Draw.Attains.bind h hnext

theorem attains_mapM {f : α → Expansion Scripted β} {items : List α} {values : List β}
    (h : List.Forall₂ (fun item value => (f item).Attains value) items values) :
    Attains (items.mapM f) values := by
  induction h with
  | nil => exact attains_pure []
  | cons hfirst _ ih =>
      rw [List.mapM_cons]
      exact hfirst.bind (ih.bind (attains_pure _))

theorem attains_substitute {resolve : String → Expansion Scripted String} {text out : String}
    (h : Template.Substituted (fun name part => (resolve name).Attains part) text out) :
    Attains (Template.substitute resolve text) out := by
  obtain ⟨parts, hparts, rfl⟩ := h
  refine (attains_mapM (hparts.imp fun token part hpart => ?_)).bind (attains_pure _)
  cases token with
  | char c =>
      obtain rfl : part = String.singleton c := hpart
      exact attains_pure _
  | reference name => exact hpart

end Expansion

namespace Expander

theorem attains_expandPicked {resolve : String → Option String → Expansion Scripted String}
    {table : Table} {alternative : Alternative} {out : String}
    (htotal : table.totalWeight ≤ wordCount)
    (hselectable : Choice.Selectable table.alternatives alternative)
    (hout : Expansion.Attains (Template.substitute
      (fun name => resolve name (some (Name.topLevel table.name))) alternative.text) out) :
    (expandPicked resolve table).Attains out :=
  (Expansion.attains_lift (Choice.attains_choose htotal hselectable)).bind hout

theorem attains_expandPicked_nil {resolve : String → Option String → Expansion Scripted String}
    {table : Table} (hempty : table.alternatives = []) :
    (expandPicked resolve table).Attains "" := by
  rw [expandPicked, hempty]
  exact (Expansion.attains_lift Choice.attains_choose_nil).bind (Expansion.attains_pure "")

end Expander

end RandomTables
