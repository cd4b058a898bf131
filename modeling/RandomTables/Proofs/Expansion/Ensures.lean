import RandomTables.Proofs.Choice
import RandomTables.Proofs.Expansion.Meaning
import RandomTables.Proofs.Template

/-!
What holds of every expansion that returns: one condition on its text, and one on its error. Each
operation of the expander has its rule, so that a property of all runs is shown along the recursion
of the expander alone.
-/

namespace RandomTables

namespace Expansion

variable {σ α β : Type}

/-- Every text that the expansion returns satisfies `P`, and every error `E`. -/
def Ensures (expansion : Expansion σ α) (P : α → Prop) (E : ExpansionError → Prop) : Prop :=
  Draw.Ensures expansion.run fun result =>
    match result with
    | .ok value => P value
    | .error error => E error

variable {expansion : Expansion σ α} {P : α → Prop} {E : ExpansionError → Prop}

theorem ensures_pure {value : α} (h : P value) : Ensures (pure value : Expansion σ α) P E :=
  Draw.ensures_pure h

theorem ensures_throw {error : ExpansionError} (h : E error) :
    Ensures (throw error : Expansion σ α) P E :=
  Draw.ensures_pure h

theorem ensures_lift {draw : Draw σ α} (h : draw.Ensures P) :
    Ensures (ExceptT.lift draw : Expansion σ α) P E := by
  rw [Ensures, ExceptT.run_lift, map_eq_pure_bind]
  exact h.bind fun _ hvalue => Draw.ensures_pure hvalue

/-- Only what is done after the values that a draw can return counts, whatever errors there are. -/
theorem lift_bind_congr {ε : Type} {draw : Draw σ α} {f g : α → ExceptT ε (Draw σ) β}
    (h : draw.Ensures P) (hnext : ∀ value, P value → f value = g value) :
    ExceptT.lift draw >>= f = ExceptT.lift draw >>= g := by
  apply ExceptT.ext
  simp only [ExceptT.run_bind, ExceptT.run_lift, bind_map_left]
  exact h.bind_congr fun value hvalue => congrArg ExceptT.run (hnext value hvalue)

theorem Ensures.mono {Q : α → Prop} (h : expansion.Ensures P E)
    (himp : ∀ value, P value → Q value) : expansion.Ensures Q E := by
  refine Draw.Ensures.mono h ?_
  intro result hresult
  cases result with
  | error error => exact hresult
  | ok value => exact himp value hresult

theorem Ensures.bind {next : α → Expansion σ β} {Q : β → Prop} (h : expansion.Ensures P E)
    (hnext : ∀ value, P value → (next value).Ensures Q E) : Ensures (expansion >>= next) Q E := by
  refine Draw.Ensures.bind h ?_
  intro result hresult
  cases result with
  | error error => exact Draw.ensures_pure hresult
  | ok value => exact hnext value hresult

theorem Ensures.exists_ok {source rest : σ} {result : Except ExpansionError α}
    (h : expansion.Ensures P fun _ => False) (hrun : expansion.run source = .ok (result, rest)) :
    ∃ value, result = .ok value ∧ P value := by
  have hresult := h source result rest hrun
  cases result with
  | ok value => exact ⟨value, rfl, hresult⟩
  | error error => exact hresult.elim

theorem Ensures.exists_error {source rest : σ} {result : Except ExpansionError α}
    (h : expansion.Ensures (fun _ => False) E) (hrun : expansion.run source = .ok (result, rest)) :
    ∃ error, result = .error error ∧ E error := by
  have hresult := h source result rest hrun
  cases result with
  | ok value => exact hresult.elim
  | error error => exact ⟨error, rfl, hresult⟩

theorem ensures_mapM {f : α → Expansion σ β} {R : α → β → Prop} {items : List α}
    (h : ∀ item ∈ items, (f item).Ensures (R item) E) :
    Ensures (items.mapM f) (List.Forall₂ R items) E := by
  induction items with
  | nil => exact ensures_pure .nil
  | cons item items ih =>
      rw [List.mapM_cons]
      refine (h item List.mem_cons_self).bind ?_
      intro value hvalue
      refine (ih fun other hother => h other (List.mem_cons_of_mem _ hother)).bind ?_
      exact fun values hvalues => ensures_pure (.cons hvalue hvalues)

theorem ensures_substitute {resolve : String → Expansion σ String} {R : String → String → Prop}
    {text : String} (h : ∀ name ∈ Template.references text, (resolve name).Ensures (R name) E) :
    Ensures (Template.substitute resolve text) (Template.Substituted R text) E := by
  refine Ensures.bind (ensures_mapM (R := Template.Token.Becomes R) ?_) fun parts hparts =>
    ensures_pure ⟨parts, hparts, rfl⟩
  intro token htoken
  cases token with
  | char c => exact ensures_pure rfl
  | reference name => exact h name (Template.mem_references_iff.2 htoken)

/-- A text that refers to a name without an outcome has no outcome, whatever its other references
come to. -/
theorem ensures_substitute_of_mem {resolve : String → Expansion σ String} {text name : String}
    (hname : name ∈ Template.references text) (hnever : (resolve name).Ensures (fun _ => False) E)
    (hothers : ∀ other ∈ Template.references text, (resolve other).Ensures (fun _ => True) E) :
    Ensures (Template.substitute resolve text) (fun _ => False) E := by
  have hparts : ∀ other ∈ Template.references text,
      (resolve other).Ensures (fun _ => other ≠ name) E := by
    intro other hother
    by_cases heq : other = name
    · subst heq
      exact hnever.mono fun _ => False.elim
    · exact (hothers other hother).mono fun _ _ => heq
  refine (ensures_substitute hparts).mono ?_
  intro out hout
  obtain ⟨_, hne⟩ := hout.exists_of_mem hname
  exact hne rfl

end Expansion

namespace Expander

variable {σ : Type} [RandomSource σ] {expander : Expander} {name : String} {scope : Option String}
  {P : String → Prop} {E : ExpansionError → Prop}

theorem ensures_expandWith {expandTable : Table → Expansion σ String}
    (htable : ∀ table, expander.findTable name scope = some table →
      (expandTable table).Ensures P E)
    (hdice : ∀ spec, expander.meaning name scope = .dice spec →
      Draw.Ensures (spec.roll expander.dice : Draw σ _) fun roll => P (toString roll.total))
    (hrange : ∀ spec, expander.meaning name scope = .range spec →
      Draw.Ensures (spec.roll : Draw σ _) fun roll => P (toString roll.value))
    (htext : expander.meaning name scope = .text → P name) :
    (expander.expandWith expandTable name scope).Ensures P E := by
  unfold expandWith
  split
  · next table hmeaning => exact htable table (meaning_eq_table_iff.1 hmeaning)
  · next spec hmeaning =>
      exact (Expansion.ensures_lift (hdice spec hmeaning)).bind fun _ => Expansion.ensures_pure
  · next spec hmeaning =>
      exact (Expansion.ensures_lift (hrange spec hmeaning)).bind fun _ => Expansion.ensures_pure
  · next hmeaning => exact Expansion.ensures_pure (htext hmeaning)

theorem ensures_expandPicked {resolve : String → Option String → Expansion σ String} {table : Table}
    (hempty : table.alternatives = [] → P "")
    (hpicked : ∀ alternative, Choice.Selectable table.alternatives alternative →
      Expansion.Ensures (Template.substitute
        (fun name => resolve name (some (Name.topLevel table.name))) alternative.text) P E) :
    (expandPicked resolve table).Ensures P E := by
  refine (Expansion.ensures_lift (Choice.ensures_choose table.alternatives)).bind ?_
  intro picked hselectable
  cases picked with
  | none => exact Expansion.ensures_pure (hempty hselectable)
  | some alternative => exact hpicked alternative hselectable

/-- Only the expansion of a table can end in an error. -/
theorem ensures_expandWith_error {expandTable : Table → Expansion σ String}
    (htable : ∀ table, expander.findTable name scope = some table →
      (expandTable table).Ensures (fun _ => True) E) :
    (expander.expandWith expandTable name scope).Ensures (fun _ => True) E :=
  ensures_expandWith htable (fun _ _ => Draw.ensures_true) (fun _ _ => Draw.ensures_true)
    fun _ => trivial

theorem ensures_expandPicked_error {resolve : String → Option String → Expansion σ String}
    {table : Table}
    (hreference : ∀ alternative ∈ table.alternatives,
      ∀ reference ∈ Template.references alternative.text,
        (resolve reference (some (Name.topLevel table.name))).Ensures (fun _ => True) E) :
    (expandPicked resolve table).Ensures (fun _ => True) E := by
  refine ensures_expandPicked (fun _ => trivial) ?_
  intro alternative hselectable
  have hout := Expansion.ensures_substitute (hreference alternative hselectable.mem)
  exact hout.mono fun _ _ => trivial

/-- The only error is the one of the limit. -/
theorem ensures_expandWithin_error (remaining : Nat) (name : String) (scope : Option String) :
    Expansion.Ensures (expander.expandWithin remaining name scope : Expansion σ String)
      (fun _ => True) fun error => ∃ table, error = .recursionLimit expander.maxDepth table := by
  induction remaining generalizing name scope with
  | zero => exact ensures_expandWith_error fun table _ => Expansion.ensures_throw ⟨table.name, rfl⟩
  | succ remaining ih =>
      refine ensures_expandWith_error ?_
      intro table _
      refine ensures_expandPicked_error ?_
      exact fun _ _ reference _ => ih reference _

end Expander

end RandomTables
