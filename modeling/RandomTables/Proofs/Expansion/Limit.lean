import Mathlib
import RandomTables.Proofs.Expansion.Nesting
import RandomTables.Random.Scripted

/-!
What the limit makes of a run. An expander with a limit does the same run as one without as long as
no more tables are nested than the limit allows. Otherwise it stops at the first table that is one
too many, before anything is drawn for that table.
-/

namespace RandomTables

/-- What is expanded: a name, or a text for the names in it. -/
inductive Subject where
  | name (name : String)
  | text (text : String)

def Subject.tokens : Subject → List Template.Token
  | .name reference => [.reference reference]
  | .text template => Template.tokens template.toList

namespace Expander

open Expansion

variable {σ : Type} [RandomSource σ] {expander : Expander} {limit remaining : Nat}
  {scope : Option String} {tokens : List Template.Token} {table : Table} {source rest : σ}
  {parts : List String} {error : ExpansionError} {nesting : Nesting} {subject : Subject}
  {out : String}

/-- A limit that is not below the depth of the run allows it. -/
theorem returns_of_expands (limit : Nat)
    (h : Expands expander scope tokens source nesting parts rest)
    (hdepth : nesting.depth ≤ remaining) :
    ((expander.withLimit limit).expandTokens remaining scope tokens).Returns source parts rest := by
  induction h generalizing remaining with
  | nil => exact returns_expandTokens_nil_iff.2 ⟨rfl, rfl⟩
  | char _ ih => exact returns_expandTokens_char_iff.2 ⟨_, ih hdepth, rfl⟩
  | shown hnone hshows _ ih =>
      refine returns_expandTokens_reference_iff.2 ⟨_, _, ?_, _, ih hdepth, rfl⟩
      exact (returns_expandWithin_iff_shows hnone).2 hshows
  | table hfound hpicked _ _ ihinside ihafter =>
      rw [Nesting.depth, Nat.max_le] at hdepth
      cases remaining with
      | zero => exact absurd hdepth.1 (Nat.not_succ_le_zero _)
      | succ remaining =>
          have hinside := ihinside (Nat.le_of_succ_le_succ hdepth.1)
          refine returns_expandTokens_reference_iff.2 ⟨_, _, ?_, _, ihafter hdepth.2, rfl⟩
          exact (returns_expandWithin_succ_iff hfound).2 ⟨_, _, hpicked, _, hinside, rfl⟩

/-- What an expander with a limit returns comes of a run that is no deeper than the limit. -/
theorem exists_expands_of_returns
    (h : ((expander.withLimit limit).expandTokens remaining scope tokens).Returns source parts
      rest) :
    ∃ nesting : Nesting, nesting.depth ≤ remaining ∧
      Expands expander scope tokens source nesting parts rest := by
  induction remaining using Nat.strongRecOn generalizing scope tokens source parts rest with
  | ind remaining ihinside =>
  induction tokens generalizing source parts with
  | nil =>
      obtain ⟨rfl, rfl⟩ := returns_expandTokens_nil_iff.1 h
      exact ⟨.none, Nat.zero_le _, .nil⟩
  | cons token tokens ih =>
      cases token with
      | char c =>
          obtain ⟨others, hothers, rfl⟩ := returns_expandTokens_char_iff.1 h
          obtain ⟨nesting, hdepth, hexpands⟩ := ih hothers
          exact ⟨nesting, hdepth, .char hexpands⟩
      | reference name =>
          obtain ⟨part, between, hpart, others, hothers, rfl⟩ :=
            returns_expandTokens_reference_iff.1 h
          obtain ⟨after, hdepth, hexpands⟩ := ih hothers
          cases hfound : expander.findTable name scope with
          | none =>
              have hshows := (returns_expandWithin_iff_shows hfound).1 hpart
              exact ⟨after, hdepth, .shown hfound hshows hexpands⟩
          | some table =>
              cases remaining with
              | zero => exact absurd hpart (not_returns_expandWithin_zero hfound)
              | succ remaining =>
                  obtain ⟨picked, drawn, hpicked, inner, hinner, rfl⟩ :=
                    (returns_expandWithin_succ_iff hfound).1 hpart
                  obtain ⟨inside, hinside, hexpandsInside⟩ :=
                    ihinside remaining (Nat.lt_succ_self _) hinner
                  exact ⟨.table table.name inside after,
                    Nat.max_le.2 ⟨Nat.succ_le_succ hinside, hdepth⟩,
                    .table hfound hpicked hexpandsInside hexpands⟩

/-- A run that is deeper than the limit is stopped on its way. -/
theorem exists_fails_of_expands (limit : Nat)
    (h : Expands expander scope tokens source nesting parts rest)
    (hdepth : remaining < nesting.depth) :
    ∃ table between, ((expander.withLimit limit).expandTokens remaining scope tokens).Fails source
      (.recursionLimit limit table) between := by
  induction h generalizing remaining with
  | nil => exact absurd hdepth (Nat.not_lt_zero _)
  | char _ ih =>
      obtain ⟨table, between, hfails⟩ := ih hdepth
      exact ⟨table, between, fails_expandTokens_char_iff.2 hfails⟩
  | shown hnone hshows _ ih =>
      obtain ⟨table, between, hfails⟩ := ih hdepth
      refine ⟨table, between, fails_expandTokens_reference_iff.2 (Or.inr ?_)⟩
      exact ⟨_, _, (returns_expandWithin_iff_shows hnone).2 hshows, hfails⟩
  | @table _ _ _ _ table _ _ inside _ _ after _ _ hfound hpicked hinside _ ihinside ihafter =>
      cases remaining with
      | zero =>
          exact ⟨table.name, _, fails_expandTokens_zero hfound⟩
      | succ remaining =>
          by_cases hdeep : remaining < inside.depth
          · obtain ⟨inner, between, hfails⟩ := ihinside hdeep
            refine ⟨inner, between, fails_expandTokens_reference_iff.2 (Or.inl ?_)⟩
            exact (fails_expandWithin_succ_iff hfound).2 ⟨_, _, hpicked, hfails⟩
          · have hafter : remaining + 1 < after.depth := by
              rw [Nesting.depth] at hdepth
              omega
            obtain ⟨inner, between, hfails⟩ := ihafter hafter
            refine ⟨inner, between, fails_expandTokens_reference_iff.2 (Or.inr ?_)⟩
            have hreturns := returns_of_expands limit hinside (Nat.le_of_not_lt hdeep)
            exact ⟨_, _, (returns_expandWithin_succ_iff hfound).2
              ⟨_, _, hpicked, _, hreturns, rfl⟩, hfails⟩

/-- The error names the table that was reached inside of as many tables as were allowed. -/
theorem exists_reaches_of_fails
    (h : ((expander.withLimit limit).expandTokens remaining scope tokens).Fails source error
      rest) :
    ∃ enclosing table, error = .recursionLimit limit table.name ∧ enclosing.length = remaining ∧
      Reaches expander scope tokens source enclosing table rest := by
  induction remaining using Nat.strongRecOn generalizing scope tokens source rest with
  | ind remaining ihinside =>
  induction tokens generalizing source with
  | nil => exact absurd h not_fails_expandTokens_nil
  | cons token tokens ih =>
      cases token with
      | char c =>
          obtain ⟨enclosing, table, herror, hlength, hreaches⟩ :=
            ih (fails_expandTokens_char_iff.1 h)
          exact ⟨enclosing, table, herror, hlength, .after (.char .nil) hreaches⟩
      | reference name =>
          rcases fails_expandTokens_reference_iff.1 h with hfails | ⟨part, between, hpart, hfails⟩
          · cases hfound : expander.findTable name scope with
            | none => exact absurd hfails (not_fails_expandWithin hfound)
            | some table =>
                cases remaining with
                | zero =>
                    obtain ⟨rfl, rfl⟩ := (fails_expandWithin_zero_iff hfound).1 hfails
                    exact ⟨[], table, rfl, rfl, .here hfound⟩
                | succ remaining =>
                    obtain ⟨picked, drawn, hpicked, hinner⟩ :=
                      (fails_expandWithin_succ_iff hfound).1 hfails
                    obtain ⟨enclosing, inner, herror, hlength, hreaches⟩ :=
                      ihinside remaining (Nat.lt_succ_self _) hinner
                    exact ⟨table.name :: enclosing, inner, herror, congrArg Nat.succ hlength,
                      .inside hfound hpicked hreaches⟩
          · -- The reference came to an end, so the run of it alone is a run before the table.
            have hrow : ((expander.withLimit limit).expandTokens remaining scope
                [.reference name]).Returns source [part] between :=
              returns_expandTokens_reference_iff.2
                ⟨part, between, hpart, [], returns_expandTokens_nil_iff.2 ⟨rfl, rfl⟩, rfl⟩
            obtain ⟨nesting, -, hexpands⟩ := exists_expands_of_returns hrow
            obtain ⟨enclosing, table, herror, hlength, hreaches⟩ := ih hfails
            exact ⟨enclosing, table, herror, hlength, .after hexpands hreaches⟩

/-- Whatever limit does not allow a table that is reached stops the run, there or before. -/
theorem exists_fails_of_reaches (limit : Nat) {enclosing : List String}
    (h : Reaches expander scope tokens source enclosing table rest)
    (hlength : remaining ≤ enclosing.length) :
    ∃ table between, ((expander.withLimit limit).expandTokens remaining scope tokens).Fails source
      (.recursionLimit limit table) between := by
  induction h generalizing remaining with
  | @here _ _ _ _ table hfound =>
      obtain rfl : remaining = 0 := Nat.le_zero.1 hlength
      exact ⟨table.name, _, fails_expandTokens_zero hfound⟩
  | @inside _ _ _ _ outer _ _ _ _ _ hfound hpicked _ ih =>
      cases remaining with
      | zero =>
          exact ⟨outer.name, _, fails_expandTokens_zero hfound⟩
      | succ remaining =>
          obtain ⟨inner, between, hfails⟩ := ih (Nat.le_of_succ_le_succ hlength)
          refine ⟨inner, between, fails_expandTokens_reference_iff.2 (Or.inl ?_)⟩
          exact (fails_expandWithin_succ_iff hfound).2 ⟨_, _, hpicked, hfails⟩
  | @after _ token tokens _ nesting _ _ _ _ _ hexpands _ ih =>
      rw [← List.singleton_append]
      by_cases hdepth : nesting.depth ≤ remaining
      · obtain ⟨inner, between, hfails⟩ := ih hlength
        refine ⟨inner, between, fails_expandTokens_append_iff.2 (Or.inr ?_)⟩
        exact ⟨_, _, returns_of_expands limit hexpands hdepth, hfails⟩
      · obtain ⟨inner, between, hfails⟩ :=
          exists_fails_of_expands limit hexpands (Nat.lt_of_not_le hdepth)
        exact ⟨inner, between, fails_expandTokens_append_iff.2 (Or.inl hfails)⟩

/-! ### Names and texts -/

def expandSubject (expander : Expander) (subject : Subject) (scope : Option String) :
    Expansion σ String :=
  match subject with
  | .name name => expander.expand name scope
  | .text text => expander.expandText text scope

theorem expandSubject_eq_expandTokens :
    (expander.expandSubject subject scope : Expansion σ String) = (do
      let parts ← expander.expandTokens expander.maxDepth scope subject.tokens
      pure (String.join parts)) := by
  cases subject with
  | name name =>
      rw [expandSubject, expandTokens, Subject.tokens, List.mapM_cons, List.mapM_nil]
      simp [expand]
  | text text => rfl

theorem returns_expandSubject_iff :
    Returns ((expander.withLimit limit).expandSubject subject scope) source out rest ↔
      ∃ parts, ((expander.withLimit limit).expandTokens limit scope subject.tokens).Returns source
        parts rest ∧ out = String.join parts := by
  rw [expandSubject_eq_expandTokens, returns_bind_pure_iff]
  rfl

theorem fails_expandSubject_iff :
    Fails ((expander.withLimit limit).expandSubject subject scope) source error rest ↔
      ((expander.withLimit limit).expandTokens limit scope subject.tokens).Fails source error
        rest := by
  rw [expandSubject_eq_expandTokens, fails_bind_pure_iff]
  rfl

theorem mem_tables_of_reaches {enclosing : List String}
    (h : Reaches expander scope tokens source enclosing table rest) :
    table ∈ expander.tables.tables := by
  induction h with
  | here hfound => exact Store.mem_tables_iff.2 (get?_of_findTable hfound)
  | inside _ _ _ ih => exact ih
  | after _ _ ih => exact ih

/-- A run that returns has a depth, the least limit that allows it, and with every limit that allows
it the run is the same. A run that fails names the stored table that it reached inside of as many
tables as the limit allows, and it fails with every smaller limit. -/
theorem expandSubject_withLimit (expander : Expander) (subject : Subject) (scope : Option String)
    (source : σ) (limit : Nat) :
    (∀ out rest, Returns ((expander.withLimit limit).expandSubject subject scope) source out rest →
      ∃ nesting parts, Expands expander scope subject.tokens source nesting parts rest ∧
        out = String.join parts ∧ nesting.depth ≤ limit ∧
        (∀ other, nesting.depth ≤ other →
          Returns ((expander.withLimit other).expandSubject subject scope) source out rest) ∧
        ∀ other < nesting.depth, ∃ table between,
          Fails ((expander.withLimit other).expandSubject subject scope) source
            (.recursionLimit other table) between) ∧
    (∀ error rest,
      Fails ((expander.withLimit limit).expandSubject subject scope) source error rest →
      ∃ enclosing table, error = .recursionLimit limit table.name ∧
        table ∈ expander.tables.tables ∧ enclosing.length = limit ∧
        Reaches expander scope subject.tokens source enclosing table rest ∧
        ∀ other ≤ limit, ∃ table between,
          Fails ((expander.withLimit other).expandSubject subject scope) source
            (.recursionLimit other table) between) := by
  constructor
  · intro out rest hreturns
    obtain ⟨parts, hparts, rfl⟩ := returns_expandSubject_iff.1 hreturns
    obtain ⟨nesting, hdepth, hexpands⟩ := exists_expands_of_returns hparts
    refine ⟨nesting, parts, hexpands, rfl, hdepth, fun other hother => ?_, fun other hother => ?_⟩
    · exact returns_expandSubject_iff.2 ⟨parts, returns_of_expands other hexpands hother, rfl⟩
    · obtain ⟨table, between, hfails⟩ := exists_fails_of_expands other hexpands hother
      exact ⟨table, between, fails_expandSubject_iff.2 hfails⟩
  · intro error rest hfails
    obtain ⟨enclosing, table, herror, hlength, hreaches⟩ :=
      exists_reaches_of_fails (fails_expandSubject_iff.1 hfails)
    refine ⟨enclosing, table, herror, mem_tables_of_reaches hreaches, hlength, hreaches, ?_⟩
    intro other hother
    obtain ⟨inner, between, hstopped⟩ := exists_fails_of_reaches other hreaches (hlength ▸ hother)
    exact ⟨inner, between, fails_expandSubject_iff.2 hstopped⟩

def hostel : Expander where
  tables := ((Store.empty.insert ⟨"inn", [.literal "[bed], [room]"]⟩).insert
    ⟨"inn.room", [.literal "[bed] and [bed]"]⟩).insert ⟨"inn.bed", [.literal "straw"]⟩
  dice := Dice.Registry.empty
  standardFaces := .standard
  maxDepth := 100

/-- Five tables are expanded, but no more than three of them inside one another. -/
theorem expandSubject_withLimit_hostel :
    (∃ nesting parts, Expands hostel none (Subject.name "inn").tokens (Scripted.ofWords []) nesting
      parts ⟨[], 5⟩ ∧ "straw, straw and straw" = String.join parts ∧ nesting.depth = 3) ∧
    ∃ enclosing table, table.name = "inn.bed" ∧ enclosing.length = 2 ∧
      Reaches hostel none (Subject.name "inn").tokens (Scripted.ofWords []) enclosing table
        ⟨[], 3⟩ := by
  have hreturns : Returns ((hostel.withLimit 3).expandSubject (.name "inn") none)
      (Scripted.ofWords []) "straw, straw and straw" ⟨[], 5⟩ := by
    unfold Returns
    cbv
  have hfails : Fails ((hostel.withLimit 2).expandSubject (.name "inn") none) (Scripted.ofWords [])
      (.recursionLimit 2 "inn.bed") ⟨[], 3⟩ := by
    unfold Fails
    cbv
  constructor
  · obtain ⟨nesting, parts, hexpands, hout, hdepth, hsame, -⟩ :=
      (expandSubject_withLimit hostel (.name "inn") none (Scripted.ofWords []) 3).1 _ _ hreturns
    refine ⟨nesting, parts, hexpands, hout, ?_⟩
    have htwo : ¬ nesting.depth ≤ 2 := by
      intro hless
      cases (hsame 2 hless).symm.trans hfails
    omega
  · obtain ⟨enclosing, table, herror, -, hlength, hreaches, -⟩ :=
      (expandSubject_withLimit hostel (.name "inn") none (Scripted.ofWords []) 2).2 _ _ hfails
    injection herror with hlimit hname
    exact ⟨enclosing, table, hname.symm, hlength, hreaches⟩

end Expander

end RandomTables
