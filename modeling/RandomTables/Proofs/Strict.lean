import RandomTables.Proofs.Expansion.Ensures

/-!
Strict expansion: it fails where expansion falls back, that is on a name that stands for nothing but
itself and on a die that is not registered. In all else the two agree, and an expansion that takes
neither fallback is a strict one: with its own error in place of the other it is the same program.
-/

namespace RandomTables

inductive StrictError where
  | expansion (error : ExpansionError)
  | unmatched (name : String)
  | unknownDie (name : String)
deriving DecidableEq

abbrev StrictExpansion (σ : Type) := ExceptT StrictError (Draw σ)

namespace Expander

variable {σ : Type} [RandomSource σ]

def rollFaceStrictly (registry : Dice.Registry) : Faces → StrictExpansion σ Face
  | .numbered count => ExceptT.lift (Dice.rollNumbered count)
  | .named name =>
      match registry.get? name with
      | some die => ExceptT.lift die.roll
      | none => throw (.unknownDie name)

def rollStrictly (registry : Dice.Registry) (spec : Dice.Spec) : StrictExpansion σ Dice.Roll := do
  let faces ← (List.replicate spec.count ()).mapM fun _ => rollFaceStrictly registry spec.faces
  pure ⟨spec, faces⟩

def expandWithStrictly (expander : Expander) (expandTable : Table → StrictExpansion σ String)
    (name : String) (scope : Option String) : StrictExpansion σ String :=
  match expander.meaning name scope with
  | .table table => expandTable table
  | .dice spec => do
      let roll ← rollStrictly expander.dice spec
      pure (toString roll.total)
  | .range spec => do
      let roll ← ExceptT.lift spec.roll
      pure (toString roll.value)
  | .text => throw (.unmatched name)

def expandPickedStrictly (resolve : String → Option String → StrictExpansion σ String)
    (table : Table) : StrictExpansion σ String := do
  match ← ExceptT.lift (Choice.choose table.alternatives) with
  | none => pure ""
  | some picked =>
      Template.substitute (fun name => resolve name (some (Name.topLevel table.name))) picked.text

def expandWithinStrictly (expander : Expander) :
    Nat → String → Option String → StrictExpansion σ String
  | 0 => expander.expandWithStrictly fun table =>
      throw (.expansion (.recursionLimit expander.maxDepth table.name))
  | remaining + 1 =>
      expander.expandWithStrictly (expandPickedStrictly (expander.expandWithinStrictly remaining))

def expandStrictly (expander : Expander) (name : String) (scope : Option String) :
    StrictExpansion σ String :=
  expander.expandWithinStrictly expander.maxDepth name scope

end Expander

/-! ### Expansions as strict expansions -/

namespace Expansion

variable {σ α β : Type}

/-- The same program, with its error as one of a strict expansion. -/
def asStrict (expansion : Expansion σ α) : StrictExpansion σ α :=
  ExceptT.adapt .expansion expansion

theorem run_asStrict (expansion : Expansion σ α) (source : σ) :
    expansion.asStrict.run source = (expansion.run source).map fun (result, rest) =>
      (result.mapError .expansion, rest) := by
  rw [asStrict, ExceptT.run_adapt]
  change Except.bind (expansion.run source)
    (fun step => .ok (step.1.mapError StrictError.expansion, step.2)) = _
  cases expansion.run source <;> rfl

theorem asStrict_pure (value : α) : asStrict (pure value : Expansion σ α) = pure value := rfl

theorem asStrict_throw (error : ExpansionError) :
    asStrict (throw error : Expansion σ α) = throw (.expansion error) := rfl

theorem asStrict_lift (draw : Draw σ α) : asStrict (ExceptT.lift draw) = ExceptT.lift draw := by
  apply ExceptT.ext
  rw [asStrict, ExceptT.run_adapt, ExceptT.run_lift, ExceptT.run_lift, Functor.map_map]
  rfl

theorem asStrict_bind (expansion : Expansion σ α) (next : α → Expansion σ β) :
    asStrict (expansion >>= next) = asStrict expansion >>= fun value => asStrict (next value) := by
  apply ExceptT.ext
  simp only [asStrict, ExceptT.run_adapt, ExceptT.run_bind, map_bind, bind_map_left]
  congr
  funext result
  cases result <;> rfl

theorem asStrict_mapM (f : α → Expansion σ β) (items : List α) :
    asStrict (items.mapM f) = items.mapM fun item => asStrict (f item) := by
  induction items with
  | nil => rfl
  | cons item items ih =>
      simp only [List.mapM_cons, asStrict_bind, ih, asStrict_pure]

theorem asStrict_substitute (resolve : String → Expansion σ String) (text : String) :
    asStrict (Template.substitute resolve text) =
      Template.substitute (fun name => asStrict (resolve name)) text := by
  simp only [Template.substitute, asStrict_bind, asStrict_mapM, asStrict_pure]
  congr
  funext token
  cases token <;> rfl

theorem lift_bind (draw : Draw σ α) (next : α → Draw σ β) :
    (ExceptT.lift (draw >>= next) : StrictExpansion σ β) =
      ExceptT.lift draw >>= fun value => ExceptT.lift (next value) := by
  apply ExceptT.ext
  simp only [ExceptT.run_bind, ExceptT.run_lift, map_bind, bind_map_left]

theorem lift_mapM (f : α → Draw σ β) (items : List α) :
    (ExceptT.lift (items.mapM f) : StrictExpansion σ (List β)) =
      items.mapM fun item => ExceptT.lift (f item) := by
  induction items with
  | nil => rfl
  | cons item items ih =>
      simp only [List.mapM_cons, lift_bind, ih]
      rfl

end Expansion

namespace Expander

variable {σ : Type} [RandomSource σ] {expander : Expander} {name : String} {scope : Option String}

theorem rollFaceStrictly_eq {registry : Dice.Registry} {faces : Faces}
    (registered : ∀ die, faces = .named die → registry.contains die) :
    (rollFaceStrictly registry faces : StrictExpansion σ _) =
      ExceptT.lift (Dice.rollFace registry faces) := by
  cases faces with
  | numbered count => rfl
  | named name =>
      obtain ⟨die, hdie⟩ : ∃ die, registry.get? name = some die := by
        rw [← Option.isSome_iff_exists, Dice.Registry.get?,
          ← Std.ExtTreeMap.contains_eq_isSome_getElem?]
        exact registered name rfl
      simp only [rollFaceStrictly, Dice.rollFace, Dice.Registry.roll, hdie]

theorem rollStrictly_eq {registry : Dice.Registry} {spec : Dice.Spec}
    (registered : ∀ die, spec.faces = .named die → registry.contains die) :
    (rollStrictly registry spec : StrictExpansion σ _) = ExceptT.lift (spec.roll registry) := by
  rw [rollStrictly, rollFaceStrictly_eq registered, Dice.Spec.roll, Draw.times,
    Expansion.lift_bind, Expansion.lift_mapM]
  rfl

/-- Expansion of the name takes no fallback, the texts of tables aside. -/
structure Settled (expander : Expander) (name : String) (scope : Option String) : Prop where
  matched : expander.meaning name scope ≠ .text
  registered : ∀ spec die, expander.meaning name scope = .dice spec → spec.faces = .named die →
    expander.dice.contains die

theorem expandWithStrictly_eq (settled : expander.Settled name scope)
    {expandTable : Table → Expansion σ String}
    {expandTableStrictly : Table → StrictExpansion σ String}
    (htable : ∀ table, expander.findTable name scope = some table →
      expandTableStrictly table = (expandTable table).asStrict) :
    expander.expandWithStrictly expandTableStrictly name scope =
      (expander.expandWith expandTable name scope).asStrict := by
  unfold expandWithStrictly expandWith
  cases hmeaning : expander.meaning name scope with
  | table table => exact htable table (meaning_eq_table_iff.1 hmeaning)
  | dice spec =>
      simp only [rollStrictly_eq fun die => settled.registered spec die hmeaning,
        Expansion.asStrict_bind, Expansion.asStrict_lift, Expansion.asStrict_pure]
  | range spec =>
      simp only [Expansion.asStrict_bind, Expansion.asStrict_lift, Expansion.asStrict_pure]
  | text => exact absurd hmeaning settled.matched

theorem expandPickedStrictly_eq {table : Table}
    {resolve : String → Option String → Expansion σ String}
    {resolveStrictly : String → Option String → StrictExpansion σ String}
    (hresolve : ∀ alternative ∈ table.alternatives,
      ∀ reference ∈ Template.references alternative.text,
        resolveStrictly reference (some (Name.topLevel table.name)) =
          (resolve reference (some (Name.topLevel table.name))).asStrict) :
    expandPickedStrictly resolveStrictly table = (expandPicked resolve table).asStrict := by
  rw [expandPicked, expandPickedStrictly, Expansion.asStrict_bind, Expansion.asStrict_lift]
  refine Expansion.lift_bind_congr (Choice.ensures_choose table.alternatives) ?_
  intro picked hselectable
  cases picked with
  | none => rfl
  | some alternative =>
      rw [Expansion.asStrict_substitute]
      exact Template.substitute_congr (hresolve alternative hselectable.mem)

theorem expandWithinStrictly_eq
    (settled : ∀ table, expander.tables.get? table.name = some table →
      ∀ alternative ∈ table.alternatives, ∀ reference ∈ Template.references alternative.text,
        expander.Settled reference (some (Name.topLevel table.name)))
    (remaining : Nat) (hname : expander.Settled name scope) :
    (expander.expandWithinStrictly remaining name scope : StrictExpansion σ String) =
      (expander.expandWithin remaining name scope).asStrict := by
  induction remaining generalizing name scope with
  | zero => exact expandWithStrictly_eq hname fun _ _ => (Expansion.asStrict_throw _).symm
  | succ remaining ih =>
      refine expandWithStrictly_eq hname ?_
      intro table hfound
      refine expandPickedStrictly_eq ?_
      intro alternative hpicked reference hreference
      exact ih (settled table (get?_of_findTable hfound) alternative hpicked reference hreference)

end Expander

end RandomTables
