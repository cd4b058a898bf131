import Mathlib
import RandomTables.Proofs.Expansion.Ensures
import RandomTables.Proofs.Text.Decimal
import RandomTables.Random.Scripted

/-!
Expansion leaves nothing to expand. Where every reference that is opened is closed, no step brings
an opening bracket back, neither a number nor a name that stands for itself, so that what comes out
is expanded to itself.
-/

namespace RandomTables

/-- Every entry of every table closes the references that it opens. -/
def Store.Closed (store : Store) : Prop :=
  ∀ table ∈ store.tables, ∀ alternative ∈ table.alternatives,
    Template.hasUnclosed alternative.text = false

theorem not_mem_toString (n : Int) : '[' ∉ (toString n).toList := by
  intro hmem
  rcases Text.eq_or_isDigit_of_mem_toString hmem with hdash | hdigit
  · exact absurd hdash (by decide)
  · exact absurd hdigit (by decide)

/-- No text with an opening bracket comes out. -/
def Expansion.Plain {σ : Type} (expansion : Expansion σ String) : Prop :=
  expansion.Ensures (fun out => '[' ∉ out.toList) fun _ => True

namespace Expander

/-- There is no opening bracket in the text, and expansion gives it back without a draw. -/
structure FullyExpanded (expander : Expander) (out : String) : Prop where
  plain : '[' ∉ out.toList
  stays : ∀ (τ : Type) [RandomSource τ] (scope : Option String) (source : τ),
    (expander.expandText out scope : Expansion τ String).run source = .ok (.ok out, source)

variable {expander : Expander} {name : String} {scope : Option String}

theorem fullyExpanded_of_not_mem {out : String} (h : '[' ∉ out.toList) :
    expander.FullyExpanded out := by
  refine ⟨h, ?_⟩
  intro τ _ scope source
  rw [expandText, Template.substitute_of_not_mem _ h]
  rfl

variable {σ : Type}

theorem plain_substitute {resolve : String → Expansion σ String} {text : String}
    (closed : Template.hasUnclosed text = false)
    (h : ∀ name, '[' ∉ name.toList → (resolve name).Plain) :
    Expansion.Plain (Template.substitute resolve text) := by
  have hnames : ∀ name ∈ Template.references text, (resolve name).Plain :=
    fun name hname => h name (Template.not_mem_of_mem_references hname)
  refine (Expansion.ensures_substitute hnames).mono ?_
  intro out hout
  exact hout.not_mem closed

variable [RandomSource σ]

theorem plain_expandWith (hname : '[' ∉ name.toList)
    {expandTable : Table → Expansion σ String}
    (htable : ∀ table, expander.findTable name scope = some table → (expandTable table).Plain) :
    (expander.expandWith expandTable name scope).Plain := by
  refine ensures_expandWith htable (fun _ _ => ?_) (fun _ _ => ?_) fun _ => hname
  · exact Draw.ensures_true.mono fun _ _ => not_mem_toString _
  · exact Draw.ensures_true.mono fun _ _ => not_mem_toString _

theorem plain_expandWithin (closed : expander.tables.Closed) (remaining : Nat)
    (hname : '[' ∉ name.toList) :
    Expansion.Plain (expander.expandWithin remaining name scope : Expansion σ String) := by
  induction remaining generalizing name scope with
  | zero =>
      refine plain_expandWith hname ?_
      intro table _
      exact Expansion.ensures_throw trivial
  | succ remaining ih =>
      refine plain_expandWith hname ?_
      intro table hfound
      refine ensures_expandPicked (by simp) ?_
      intro alternative hselectable
      have hstored := Store.mem_tables_iff.2 (get?_of_findTable hfound)
      have hclosed := closed table hstored alternative hselectable.mem
      -- The names in a text have no bracket, whatever the text, so the induction goes on to them.
      exact plain_substitute hclosed fun _ => ih

/-- Where every entry closes its references, neither a text that does so nor a name without an
opening bracket comes to a text in which anything is left to expand. -/
theorem expand_fullyExpanded (expander : Expander) (closed : expander.tables.Closed)
    (scope : Option String) (source : σ) :
    (∀ text out rest, Template.hasUnclosed text = false →
      (expander.expandText text scope : Expansion σ String).run source = .ok (.ok out, rest) →
        expander.FullyExpanded out) ∧
    (∀ name out rest, '[' ∉ name.toList →
      (expander.expand name scope : Expansion σ String).run source = .ok (.ok out, rest) →
        expander.FullyExpanded out) := by
  constructor
  · intro text out rest htext hrun
    have htexts : Expansion.Plain (expander.expandText text scope : Expansion σ String) :=
      plain_substitute htext fun _ => plain_expandWithin closed _
    exact fullyExpanded_of_not_mem (htexts source _ _ hrun)
  · intro name out rest hname hrun
    have hnames : Expansion.Plain (expander.expand name scope : Expansion σ String) :=
      plain_expandWithin closed _ hname
    exact fullyExpanded_of_not_mem (hnames source _ _ hrun)

/-- A closing bracket alone is no reference, and `x` is not stored. -/
def signs : Expander where
  tables := (Store.empty.insert ⟨"sign", [.literal "[w]] [x]"]⟩).insert
    ⟨"sign.w", [.literal "[dF-1]"]⟩
  dice := Dice.Registry.builtin
  standardFaces := .standard
  maxDepth := 2

theorem expand_fullyExpanded_signs :
    signs.tables.Closed ∧ Template.hasUnclosed "a [sign]" = false ∧ '[' ∉ "sign".toList ∧
      signs.FullyExpanded "a -2] x" ∧ signs.FullyExpanded "-2] x" := by
  have htables : signs.tables.tables = [⟨"sign", [.literal "[w]] [x]"]⟩,
      ⟨"sign.w", [.literal "[dF-1]"]⟩] := by cbv
  have closed : signs.tables.Closed := by
    rw [Store.Closed, htables]
    simp only [List.mem_cons, List.not_mem_nil, or_false, forall_eq_or_imp, forall_eq]
    exact ⟨by cbv, by cbv⟩
  have htext : Template.hasUnclosed "a [sign]" = false := by cbv
  have hname : '[' ∉ "sign".toList := by decide
  have hrunText : (signs.expandText "a [sign]" none : Expansion Scripted String).run
      (Scripted.ofWords []) = .ok (.ok "a -2] x", ⟨[], 3⟩) := by cbv
  have hrunName : (signs.expand "sign" none : Expansion Scripted String).run
      (Scripted.ofWords []) = .ok (.ok "-2] x", ⟨[], 3⟩) := by cbv
  obtain ⟨htexts, hnames⟩ := expand_fullyExpanded signs closed none (Scripted.ofWords [])
  exact ⟨closed, htext, hname, htexts _ _ _ htext hrunText, hnames _ _ _ hname hrunName⟩

end Expander

end RandomTables
