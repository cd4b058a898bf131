import Mathlib
import RandomTables.Proofs.Expansion.Ensures
import RandomTables.Proofs.Lint.References
import RandomTables.Random.Scripted

/-!
A table that is reported to be endless has no end: each of its entries refers to the table itself,
in the very scope in which the entry is expanded, so that whatever is picked the same table is
nested once more, up to the limit.
-/

namespace RandomTables

variable {expander : Expander} {table : Table} {name : String} {scope : Option String}

/-- There are entries, and each holds a reference that finds the table itself. -/
def Expander.SelfReferring (expander : Expander) (table : Table) : Prop :=
  table.alternatives ≠ [] ∧ ∀ alternative ∈ table.alternatives,
    ∃ reference ∈ Template.references alternative.text,
      expander.findTable reference (some (Name.topLevel table.name)) = some table

namespace Lint

theorem mem_tableErrors_endless_iff :
    .endless name ∈ tableErrors expander table ↔
      table.name = name ∧ table.alternatives ≠ [] ∧
        ∀ alternative ∈ table.alternatives, name ∈ tableTargets expander name alternative := by
  have hunselectable : Problem.endless name ∉
      (if table.totalWeight = 0 then [Problem.unselectable table.name] else []) := by
    split <;> simp
  rw [tableErrors, List.mem_append, or_iff_right hunselectable]
  constructor
  · intro hmem
    split at hmem
    · next hself =>
        simp only [List.mem_singleton, Problem.endless.injEq] at hmem
        subst hmem
        simpa [refersToSelf] using hself
    · cases hmem
  · rintro ⟨rfl, hself⟩
    rw [if_pos (by simpa [refersToSelf] using hself)]
    exact List.mem_singleton_self _

theorem selfReferring_of_endless (hget : expander.tables.get? table.name = some table)
    (h : .endless table.name ∈ errors expander) : expander.SelfReferring table := by
  obtain ⟨reported, hreported, hmem⟩ := List.mem_flatMap.1 h
  obtain ⟨hname, hnonempty, hself⟩ := mem_tableErrors_endless_iff.1 hmem
  obtain rfl : reported = table := by
    rw [Store.mem_tables_iff, hname, hget] at hreported
    exact (Option.some.inj hreported).symm
  refine ⟨hnonempty, fun alternative halternative => ?_⟩
  obtain ⟨reference, hreference, found, hfound, heq⟩ :=
    mem_tableTargets_iff.1 (hself alternative halternative)
  -- The reference finds a table of this name, and only one is stored under it.
  have hsame : some found = some reported := by
    rw [← hget, ← heq, Expander.get?_of_findTable hfound]
  exact ⟨reference, hreference, hfound.trans hsame⟩

end Lint

namespace Expander

variable {σ : Type} [RandomSource σ]

theorem ensures_expandWithin_of_selfReferring (hself : expander.SelfReferring table)
    (hfound : expander.findTable name scope = some table) (remaining : Nat) :
    Expansion.Ensures (expander.expandWithin remaining name scope : Expansion σ String)
      (fun _ => False) fun error => ∃ inner, error = .recursionLimit expander.maxDepth inner := by
  induction remaining generalizing name scope with
  | zero =>
      rw [expandWithin, expandWith_of_findTable hfound]
      exact Expansion.ensures_throw ⟨table.name, rfl⟩
  | succ remaining ih =>
      rw [expandWithin, expandWith_of_findTable hfound]
      refine ensures_expandPicked (fun hempty => hself.1 hempty) ?_
      intro alternative hselectable
      obtain ⟨reference, hreference, hagain⟩ := hself.2 alternative hselectable.mem
      -- Any other reference may end as it likes; the one that leads back gives no text.
      exact Expansion.ensures_substitute_of_mem hreference (ih hagain) fun other _ =>
        ensures_expandWithin_error remaining other _

/-- Whatever the limit, a name that finds a table reported to be endless runs into it. -/
theorem expand_error_of_endless (expander : Expander) (table : Table)
    (reported : .endless table.name ∈ Lint.errors expander) (depth : Nat) (name : String)
    (scope : Option String) (found : expander.findTable name scope = some table) (source : σ)
    (result : Except ExpansionError String) (rest : σ)
    (run : ({ expander with maxDepth := depth }.expand name scope : Expansion σ String).run source =
      .ok (result, rest)) :
    ∃ inner, result = .error (.recursionLimit depth inner) := by
  have hself := Lint.selfReferring_of_endless (get?_of_findTable found) reported
  have hself' : { expander with maxDepth := depth }.SelfReferring table := hself
  obtain ⟨error, hresult, inner, rfl⟩ :=
    (ensures_expandWithin_of_selfReferring hself' found depth).exists_error run
  exact ⟨inner, hresult⟩

def rumors : Expander where
  tables := Store.empty.insert ⟨"rumor", [.literal "[rumor]", .literal "[d6] [rumor]s"]⟩
  dice := Dice.Registry.empty
  standardFaces := .standard
  maxDepth := 100

theorem expand_error_of_endless_rumors :
    .endless "rumor" ∈ Lint.errors rumors ∧
      ∃ inner, ({ rumors with maxDepth := 3 }.expand "rumor" none : Expansion Scripted String).run
        (Scripted.ofWords []) = .ok (.error (.recursionLimit 3 inner), ⟨[], 3⟩) := by
  have reported : .endless "rumor" ∈ Lint.errors rumors := by
    have herrors : Lint.errors rumors = [.endless "rumor"] := by cbv
    simp [herrors]
  have hrun : ({ rumors with maxDepth := 3 }.expand "rumor" none : Expansion Scripted String).run
      (Scripted.ofWords []) = .ok (.error (.recursionLimit 3 "rumor"), ⟨[], 3⟩) := by cbv
  obtain ⟨inner, hinner⟩ := expand_error_of_endless rumors
    ⟨"rumor", [.literal "[rumor]", .literal "[d6] [rumor]s"]⟩ reported 3 "rumor" none
    (by cbv) (Scripted.ofWords []) _ _ hrun
  exact ⟨reported, inner, hinner ▸ hrun⟩

end Expander

end RandomTables
