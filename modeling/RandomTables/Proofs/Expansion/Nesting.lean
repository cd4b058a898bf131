import RandomTables.Proofs.Expansion.Meaning
import RandomTables.Proofs.Expansion.Outcome

/-!
The tables that are nested in an expansion. Expansion without a limit is a relation, which says of
every run which tables it comes to, and which of them inside of which. What an expander with a limit
does with a name and with a row of tokens is read off rule by rule.
-/

namespace RandomTables

/-- The tables that a run comes to one after another, each with the tables that are nested inside
of it. -/
inductive Nesting where
  | none
  | table (name : String) (inside after : Nesting)

/-- The largest number of tables that are nested inside one another. -/
def Nesting.depth : Nesting → Nat
  | none => 0
  | table _ inside after => max (inside.depth + 1) after.depth

variable {σ : Type} [RandomSource σ]

/-- What a name that finds no table gives, with the source before and after. -/
inductive Shows (expander : Expander) (name : String) (scope : Option String) (source : σ) :
    String → σ → Prop
  | dice {spec roll rest} :
      expander.meaning name scope = .dice spec →
      spec.roll expander.dice source = .ok (roll, rest) →
      Shows expander name scope source (toString roll.total) rest
  | range {spec : Range.Spec} {roll rest} :
      expander.meaning name scope = .range spec → spec.roll source = .ok (roll, rest) →
      Shows expander name scope source (toString roll.value) rest
  | itself : expander.meaning name scope = .text → Shows expander name scope source name source

/-- The tokens of what is picked from a table; nothing is picked if it has no alternatives. -/
def pickedTokens (picked : Option Alternative) : List Template.Token :=
  picked.elim [] fun alternative => Template.tokens alternative.text.toList

/-- A run without a limit. It expands each token to a part, goes through the tables of the nesting,
and takes the source from the first state to the second. -/
inductive Expands (expander : Expander) :
    Option String → List Template.Token → σ → Nesting → List String → σ → Prop
  | nil {scope source} : Expands expander scope [] source .none [] source
  | char {scope c tokens source nesting parts rest} :
      Expands expander scope tokens source nesting parts rest →
      Expands expander scope (.char c :: tokens) source nesting (String.singleton c :: parts) rest
  | shown {scope name tokens source part between nesting parts rest} :
      expander.findTable name scope = none → Shows expander name scope source part between →
      Expands expander scope tokens between nesting parts rest →
      Expands expander scope (.reference name :: tokens) source nesting (part :: parts) rest
  | table {scope name tokens source table picked drawn inside inner between after parts rest} :
      expander.findTable name scope = some table →
      Choice.choose table.alternatives source = .ok (picked, drawn) →
      Expands expander (some (Name.topLevel table.name)) (pickedTokens picked) drawn inside inner
        between →
      Expands expander scope tokens between after parts rest →
      Expands expander scope (.reference name :: tokens) source (.table table.name inside after)
        (String.join inner :: parts) rest

/-- A run without a limit comes to `table`, inside of the enclosing tables from the outermost on,
while the source is at the second state. What comes before it has been expanded. -/
inductive Reaches (expander : Expander) :
    Option String → List Template.Token → σ → List String → Table → σ → Prop
  | here {scope name tokens source table} :
      expander.findTable name scope = some table →
      Reaches expander scope (.reference name :: tokens) source [] table source
  | inside {scope name tokens source outer picked drawn enclosing table rest} :
      expander.findTable name scope = some outer →
      Choice.choose outer.alternatives source = .ok (picked, drawn) →
      Reaches expander (some (Name.topLevel outer.name)) (pickedTokens picked) drawn enclosing table
        rest →
      Reaches expander scope (.reference name :: tokens) source (outer.name :: enclosing) table rest
  | after {scope token tokens source nesting parts between enclosing table rest} :
      Expands expander scope [token] source nesting parts between →
      Reaches expander scope tokens between enclosing table rest →
      Reaches expander scope (token :: tokens) source enclosing table rest

namespace Expander

open Expansion

/-- The same expander with another limit. -/
def withLimit (expander : Expander) (limit : Nat) : Expander :=
  { expander with maxDepth := limit }

/-- The parts of a text where `remaining` more tables may be nested. -/
def expandTokens (expander : Expander) (remaining : Nat) (scope : Option String)
    (tokens : List Template.Token) : Expansion σ (List String) :=
  tokens.mapM fun token =>
    match token with
    | .char c => pure (String.singleton c)
    | .reference name => expander.expandWithin remaining name scope

variable {expander : Expander} {limit remaining : Nat} {name : String} {scope : Option String}
  {tokens : List Template.Token} {table : Table} {source rest : σ} {part : String}
  {parts : List String} {error : ExpansionError} {nesting : Nesting}

/-! ### One name -/

theorem substitute_eq_expandTokens (text : String) :
    Template.substitute (fun name => expander.expandWithin remaining name scope) text =
      (do
        let parts ← expander.expandTokens remaining scope (Template.tokens text.toList)
        pure (String.join parts) : Expansion σ String) := rfl

theorem expandPicked_eq_expandTokens :
    (expandPicked (expander.expandWithin remaining) table : Expansion σ String) = (do
      let picked ← ExceptT.lift (Choice.choose table.alternatives)
      let parts ← expander.expandTokens remaining (some (Name.topLevel table.name))
        (pickedTokens picked)
      pure (String.join parts)) := by
  unfold expandPicked
  congr 1
  funext picked
  cases picked with
  | none => rfl
  | some alternative => exact substitute_eq_expandTokens _

theorem returns_expandWith_iff (hnone : expander.findTable name scope = none)
    {expandTable : Table → Expansion σ String} :
    Returns (expander.expandWith expandTable name scope) source part rest ↔
      Shows expander name scope source part rest := by
  unfold expandWith
  constructor
  · intro h
    split at h
    · next hmeaning => simp [meaning_eq_table_iff.1 hmeaning] at hnone
    · next hmeaning =>
        obtain ⟨roll, between, hroll, hpart⟩ := returns_lift_bind_iff.1 h
        obtain ⟨rfl, rfl⟩ := returns_pure_iff.1 hpart
        exact .dice hmeaning hroll
    · next hmeaning =>
        obtain ⟨roll, between, hroll, hpart⟩ := returns_lift_bind_iff.1 h
        obtain ⟨rfl, rfl⟩ := returns_pure_iff.1 hpart
        exact .range hmeaning hroll
    · next hmeaning =>
        obtain ⟨rfl, rfl⟩ := returns_pure_iff.1 h
        exact .itself hmeaning
  · intro h
    cases h with
    | dice hmeaning hroll =>
        rw [hmeaning]
        exact returns_lift_bind_iff.2 ⟨_, _, hroll, returns_pure_iff.2 ⟨rfl, rfl⟩⟩
    | range hmeaning hroll =>
        rw [hmeaning]
        exact returns_lift_bind_iff.2 ⟨_, _, hroll, returns_pure_iff.2 ⟨rfl, rfl⟩⟩
    | itself hmeaning =>
        rw [hmeaning]
        exact returns_pure_iff.2 ⟨rfl, rfl⟩

theorem not_fails_expandWith (hnone : expander.findTable name scope = none)
    {expandTable : Table → Expansion σ String} :
    ¬ Fails (expander.expandWith expandTable name scope) source error rest := by
  unfold expandWith
  split
  · next hmeaning => simp [meaning_eq_table_iff.1 hmeaning] at hnone
  · exact fun h => not_fails_lift (fails_bind_pure_iff.1 h)
  · exact fun h => not_fails_lift (fails_bind_pure_iff.1 h)
  · exact not_fails_pure

theorem returns_expandWithin_iff_shows (hnone : expander.findTable name scope = none) :
    Returns ((expander.withLimit limit).expandWithin remaining name scope) source part rest ↔
      Shows expander name scope source part rest := by
  cases remaining <;> exact returns_expandWith_iff hnone

theorem not_fails_expandWithin (hnone : expander.findTable name scope = none) :
    ¬ Fails ((expander.withLimit limit).expandWithin remaining name scope) source error rest := by
  cases remaining
  · exact not_fails_expandWith hnone
  · exact not_fails_expandWith hnone

theorem expandWithin_zero (hfound : expander.findTable name scope = some table) :
    ((expander.withLimit limit).expandWithin 0 name scope : Expansion σ String) =
      throw (.recursionLimit limit table.name) :=
  expandWith_of_findTable hfound _

theorem not_returns_expandWithin_zero (hfound : expander.findTable name scope = some table) :
    ¬ Returns ((expander.withLimit limit).expandWithin 0 name scope) source part rest := by
  rw [expandWithin_zero hfound]
  exact not_returns_throw

theorem fails_expandWithin_zero_iff (hfound : expander.findTable name scope = some table) :
    Fails ((expander.withLimit limit).expandWithin 0 name scope) source error rest ↔
      .recursionLimit limit table.name = error ∧ source = rest := by
  rw [expandWithin_zero hfound]
  exact fails_throw_iff

theorem expandWithin_succ (hfound : expander.findTable name scope = some table) :
    ((expander.withLimit limit).expandWithin (remaining + 1) name scope : Expansion σ String) =
      expandPicked ((expander.withLimit limit).expandWithin remaining) table :=
  expandWith_of_findTable hfound _

theorem returns_expandWithin_succ_iff (hfound : expander.findTable name scope = some table) :
    Returns ((expander.withLimit limit).expandWithin (remaining + 1) name scope) source part rest ↔
      ∃ picked drawn, Choice.choose table.alternatives source = .ok (picked, drawn) ∧
        ∃ inner, ((expander.withLimit limit).expandTokens remaining
          (some (Name.topLevel table.name)) (pickedTokens picked)).Returns drawn inner rest ∧
            part = String.join inner := by
  rw [expandWithin_succ hfound, expandPicked_eq_expandTokens]
  simp only [returns_lift_bind_iff, returns_bind_pure_iff]

theorem fails_expandWithin_succ_iff (hfound : expander.findTable name scope = some table) :
    Fails ((expander.withLimit limit).expandWithin (remaining + 1) name scope) source error rest ↔
      ∃ picked drawn, Choice.choose table.alternatives source = .ok (picked, drawn) ∧
        ((expander.withLimit limit).expandTokens remaining (some (Name.topLevel table.name))
          (pickedTokens picked)).Fails drawn error rest := by
  rw [expandWithin_succ hfound, expandPicked_eq_expandTokens]
  simp only [fails_lift_bind_iff, fails_bind_pure_iff]

/-! ### Tokens in a row -/

theorem returns_expandTokens_nil_iff :
    Returns (expander.expandTokens remaining scope []) source parts rest ↔
      parts = [] ∧ source = rest := by
  rw [expandTokens, List.mapM_nil, returns_pure_iff, eq_comm]

theorem not_fails_expandTokens_nil :
    ¬ Fails (expander.expandTokens remaining scope []) source error rest := by
  rw [expandTokens, List.mapM_nil]
  exact not_fails_pure

theorem returns_expandTokens_char_iff {c : Char} :
    Returns (expander.expandTokens remaining scope (.char c :: tokens)) source parts rest ↔
      ∃ others, (expander.expandTokens remaining scope tokens).Returns source others rest ∧
        parts = String.singleton c :: others := by
  rw [expandTokens, List.mapM_cons, pure_bind]
  exact returns_bind_pure_iff

theorem fails_expandTokens_char_iff {c : Char} :
    Fails (expander.expandTokens remaining scope (.char c :: tokens)) source error rest ↔
      (expander.expandTokens remaining scope tokens).Fails source error rest := by
  rw [expandTokens, List.mapM_cons, pure_bind]
  exact fails_bind_pure_iff

theorem returns_expandTokens_reference_iff :
    Returns (expander.expandTokens remaining scope (.reference name :: tokens)) source parts rest ↔
      ∃ part between, (expander.expandWithin remaining name scope).Returns source part between ∧
        ∃ others, (expander.expandTokens remaining scope tokens).Returns between others rest ∧
          parts = part :: others := by
  rw [expandTokens, List.mapM_cons]
  refine returns_bind_iff.trans (exists_congr fun part => exists_congr fun between => ?_)
  exact and_congr_right fun _ => returns_bind_pure_iff

theorem fails_expandTokens_reference_iff :
    Fails (expander.expandTokens remaining scope (.reference name :: tokens)) source error rest ↔
      (expander.expandWithin remaining name scope).Fails source error rest ∨
        ∃ part between, (expander.expandWithin remaining name scope).Returns source part between ∧
          (expander.expandTokens remaining scope tokens).Fails between error rest := by
  rw [expandTokens, List.mapM_cons]
  refine fails_bind_iff.trans (or_congr_right ?_)
  refine exists_congr fun part => exists_congr fun between => ?_
  exact and_congr_right fun _ => fails_bind_pure_iff

/-- Where no table is allowed, the first one stops the run with nothing drawn for it. -/
theorem fails_expandTokens_zero (hfound : expander.findTable name scope = some table) :
    Fails ((expander.withLimit limit).expandTokens 0 scope (.reference name :: tokens)) source
      (.recursionLimit limit table.name) source :=
  fails_expandTokens_reference_iff.2 (Or.inl ((fails_expandWithin_zero_iff hfound).2 ⟨rfl, rfl⟩))

theorem fails_expandTokens_append_iff {others : List Template.Token} :
    Fails (expander.expandTokens remaining scope (tokens ++ others)) source error rest ↔
      (expander.expandTokens remaining scope tokens).Fails source error rest ∨
        ∃ parts between,
          (expander.expandTokens remaining scope tokens).Returns source parts between ∧
            (expander.expandTokens remaining scope others).Fails between error rest := by
  rw [expandTokens, List.mapM_append]
  refine fails_bind_iff.trans (or_congr_right ?_)
  refine exists_congr fun parts => exists_congr fun between => ?_
  exact and_congr_right fun _ => fails_bind_pure_iff

end Expander

end RandomTables
