import Mathlib
import RandomTables.Proofs.Dice.Roll
import RandomTables.Proofs.Expansion.Attains
import RandomTables.Proofs.Expansion.Ensures
import RandomTables.Proofs.Range.Roll

/-!
The language of the tables: what can be derived from a name by their entries as rules. An expansion
returns nothing but derivable texts, and every derivable text for some random words.
-/

namespace RandomTables

/-- What a text is derived from: a name, or the rest of a text with references. -/
inductive Phrase where
  | name (name : String)
  | text (tokens : List Template.Token)

/-- The texts that come of a phrase in a scope, below `depth` nested tables. -/
inductive Derives (expander : Expander) : Nat → Option String → Phrase → String → Prop
  | entry {depth scope name table alternative out} :
      expander.findTable name scope = some table → depth < expander.maxDepth →
      Choice.Selectable table.alternatives alternative →
      Derives expander (depth + 1) (some (Name.topLevel table.name))
        (.text (Template.tokens alternative.text.toList)) out →
      Derives expander depth scope (.name name) out
  | noEntry {depth scope name table} :
      expander.findTable name scope = some table → depth < expander.maxDepth →
      table.alternatives = [] →
      Derives expander depth scope (.name name) ""
  | dice {depth scope name spec faces} :
      expander.findTable name scope = none →
      Dice.Spec.parse expander.standardFaces name = .ok spec →
      expander.dice.ShowsAll spec faces →
      Derives expander depth scope (.name name) (toString (Dice.Roll.mk spec faces).total)
  | range {depth scope name error spec} {value : Int} :
      expander.findTable name scope = none →
      Dice.Spec.parse expander.standardFaces name = .error error →
      Range.Spec.parse name = .ok spec →
      spec.low ≤ value → value ≤ spec.high →
      Derives expander depth scope (.name name) (toString value)
  | itself {depth scope name diceError rangeError} :
      expander.findTable name scope = none →
      Dice.Spec.parse expander.standardFaces name = .error diceError →
      Range.Spec.parse name = .error rangeError →
      Derives expander depth scope (.name name) name
  | nil {depth scope} : Derives expander depth scope (.text []) ""
  | char {depth scope c tokens out} :
      Derives expander depth scope (.text tokens) out →
      Derives expander depth scope (.text (.char c :: tokens)) (String.singleton c ++ out)
  | reference {depth scope name tokens part out} :
      Derives expander depth scope (.name name) part →
      Derives expander depth scope (.text tokens) out →
      Derives expander depth scope (.text (.reference name :: tokens)) (part ++ out)

/-- The numbers of the tables and the dice fit into the words that are drawn for them. -/
structure Expander.WordSized (expander : Expander) : Prop where
  tables : ∀ table ∈ expander.tables.tables, table.totalWeight < wordCount
  standardFaces : expander.standardFaces.WordSized
  dice : expander.dice.WordSized

variable {expander : Expander} {depth : Nat} {name : String} {scope : Option String} {out : String}

theorem derives_text_iff {tokens : List Template.Token} :
    Derives expander depth scope (.text tokens) out ↔
      ∃ parts, List.Forall₂ (Template.Token.Becomes fun name part =>
        Derives expander depth scope (.name name) part) tokens parts ∧ out = String.join parts := by
  constructor
  · intro h
    induction tokens generalizing out with
    | nil =>
        cases h
        exact ⟨[], .nil, rfl⟩
    | cons token tokens ih =>
        cases h with
        | char hrest =>
            obtain ⟨parts, hparts, rfl⟩ := ih hrest
            exact ⟨_, .cons rfl hparts, String.join_cons.symm⟩
        | reference hname hrest =>
            obtain ⟨parts, hparts, rfl⟩ := ih hrest
            exact ⟨_, .cons hname hparts, String.join_cons.symm⟩
  · rintro ⟨parts, hparts, rfl⟩
    induction hparts with
    | nil => exact .nil
    | @cons token part _ _ hfirst _ ih =>
        rw [String.join_cons]
        cases token with
        | char c =>
            obtain rfl : part = String.singleton c := hfirst
            exact .char ih
        | reference name => exact .reference hfirst ih

namespace Expander

section Soundness

variable {σ : Type} [RandomSource σ]

theorem ensures_expandWith_derives {expandTable : Table → Expansion σ String}
    (htable : ∀ table, expander.findTable name scope = some table →
      (expandTable table).Ensures (Derives expander depth scope (.name name)) fun _ => True) :
    (expander.expandWith expandTable name scope).Ensures
      (Derives expander depth scope (.name name)) fun _ => True := by
  refine ensures_expandWith htable (fun spec hmeaning => ?_) (fun spec hmeaning => ?_) ?_
  · obtain ⟨hfound, hparse⟩ := meaning_eq_dice_iff.1 hmeaning
    refine (Dice.ensures_roll spec).mono ?_
    intro roll hroll
    obtain ⟨rfl, hfaces⟩ := hroll
    exact .dice hfound hparse hfaces
  · obtain ⟨hfound, ⟨error, herror⟩, hparse⟩ := meaning_eq_range_iff.1 hmeaning
    refine (Range.ensures_roll (Range.wordSized_of_parse hparse).withinWords).mono ?_
    intro roll hroll
    exact .range hfound herror hparse hroll.1 hroll.2
  · intro hmeaning
    obtain ⟨hfound, ⟨diceError, hdice⟩, rangeError, hrange⟩ := meaning_eq_text_iff.1 hmeaning
    exact .itself hfound hdice hrange

theorem ensures_expandWithin_derives (remaining : Nat)
    (hdepth : depth + remaining = expander.maxDepth) (name : String) (scope : Option String) :
    Expansion.Ensures (expander.expandWithin remaining name scope : Expansion σ String)
      (Derives expander depth scope (.name name)) fun _ => True := by
  induction remaining generalizing depth name scope with
  | zero =>
      exact ensures_expandWith_derives fun table _ => Expansion.ensures_throw trivial
  | succ remaining ih =>
      refine ensures_expandWith_derives ?_
      intro table hfound
      have hless : depth < expander.maxDepth := by omega
      have hdeeper : depth + 1 + remaining = expander.maxDepth := by omega
      refine ensures_expandPicked (.noEntry hfound hless) ?_
      intro alternative hselectable
      refine (Expansion.ensures_substitute fun reference _ =>
        ih hdeeper reference _).mono fun out hout => ?_
      exact .entry hfound hless hselectable (derives_text_iff.2 hout)

end Soundness

theorem attains_expandWith_of_findTable_eq_none (sized : expander.WordSized)
    (hfound : expander.findTable name scope = none)
    (h : Derives expander depth scope (.name name) out)
    (expandTable : Table → Expansion Scripted String) :
    (expander.expandWith expandTable name scope).Attains out := by
  rw [expandWith]
  cases h with
  | entry htable | noEntry htable => simp [hfound] at htable
  | dice _ hparse hfaces =>
      rw [meaning_eq_dice_iff.2 ⟨hfound, hparse⟩]
      have hsized := Dice.wordSized_of_parse hparse sized.standardFaces
      have hroll := Dice.attains_roll hsized sized.dice hfaces
      exact (Expansion.attains_lift hroll).bind (Expansion.attains_pure _)
  | range _ herror hparse hlow hhigh =>
      rw [meaning_eq_range_iff.2 ⟨hfound, ⟨_, herror⟩, hparse⟩]
      obtain ⟨roll, hroll, rfl⟩ :=
        Range.exists_attains_roll (Range.wordSized_of_parse hparse) hlow hhigh
      exact (Expansion.attains_lift hroll).bind (Expansion.attains_pure _)
  | itself _ hdice hrange =>
      rw [meaning_eq_text_iff.2 ⟨hfound, ⟨_, hdice⟩, _, hrange⟩]
      exact Expansion.attains_pure _

theorem attains_expandWithin (sized : expander.WordSized) (remaining : Nat)
    (hdepth : depth + remaining = expander.maxDepth)
    (h : Derives expander depth scope (.name name) out) :
    (expander.expandWithin remaining name scope).Attains out := by
  induction remaining generalizing depth name scope out with
  | zero =>
      rw [expandWithin]
      refine attains_expandWith_of_findTable_eq_none sized ?_ h _
      cases h with
      | entry _ hless | noEntry _ hless => omega
      | dice hfound | range hfound | itself hfound => exact hfound
  | succ remaining ih =>
      rw [expandWithin]
      cases hfound : expander.findTable name scope with
      | none => exact attains_expandWith_of_findTable_eq_none sized hfound h _
      | some table =>
          rw [expandWith_of_findTable hfound]
          have hstored := Store.mem_tables_iff.2 (get?_of_findTable hfound)
          have htotal := Nat.le_of_lt (sized.tables table hstored)
          have hdeeper : depth + 1 + remaining = expander.maxDepth := by omega
          cases h with
          | entry hother _ hselectable htext =>
              obtain rfl : table = _ := Option.some.inj (hfound.symm.trans hother)
              have hparts :=
                Template.Substituted.mono (fun _ _ => ih hdeeper) (derives_text_iff.1 htext)
              exact attains_expandPicked htotal hselectable (Expansion.attains_substitute hparts)
          | noEntry hother _ hempty =>
              obtain rfl : table = _ := Option.some.inj (hfound.symm.trans hother)
              exact attains_expandPicked_nil hempty
          | dice hnone | range hnone | itself hnone => simp [hfound] at hnone

/-- A name expands to a text for some random words if and only if it derives the text. -/
theorem exists_words_iff_derives (expander : Expander) (sized : expander.WordSized) (name : String)
    (scope : Option String) (out : String) :
    (∃ words rest, (expander.expand name scope : Expansion Scripted String).run
      (Scripted.ofWords words) = .ok (.ok out, rest)) ↔
      Derives expander 0 scope (.name name) out := by
  constructor
  · rintro ⟨words, rest, hrun⟩
    exact ensures_expandWithin_derives expander.maxDepth (Nat.zero_add _) name scope _ _ _ hrun
  · intro h
    obtain ⟨words, hwords⟩ := attains_expandWithin sized expander.maxDepth (Nat.zero_add _) h
    obtain ⟨used, hrun⟩ := hwords [] 0
    rw [List.append_nil] at hrun
    exact ⟨words, _, hrun⟩

/-- The first gem has no weight, so that only the second is found. -/
def loot : Expander where
  tables := (Store.empty.insert ⟨"loot", [.literal "[gem][dF]"]⟩).insert
    ⟨"loot.gem", [.weighted "mud" 0, .literal "ruby"]⟩
  dice := Dice.Registry.builtin
  standardFaces := .standard
  maxDepth := 2

theorem exists_words_iff_derives_loot :
    loot.WordSized ∧ Derives loot 0 none (.name "loot") "ruby-1" := by
  have htables : loot.tables.tables = [⟨"loot", [.literal "[gem][dF]"]⟩,
      ⟨"loot.gem", [.weighted "mud" 0, .literal "ruby"]⟩] := by cbv
  have sized : loot.WordSized := by
    refine ⟨?_, (by decide : 6 ≤ Dice.mostFaces), Dice.Registry.wordSized_builtin⟩
    rw [htables]
    decide
  have hrun : (loot.expand "loot" none : Expansion Scripted String).run (Scripted.ofWords []) =
      .ok (.ok "ruby-1", ⟨[], 3⟩) := by cbv
  exact ⟨sized, (exists_words_iff_derives loot sized "loot" none "ruby-1").1 ⟨_, _, hrun⟩⟩

end Expander

end RandomTables
