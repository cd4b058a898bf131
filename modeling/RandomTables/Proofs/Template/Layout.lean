import Mathlib
import RandomTables.Expansion
import RandomTables.Proofs.Template

/-!
Where the references of a text stand. A layout cuts a text at all the places where a bracket-free
name stands between brackets; every text has one layout and no other. A substitution fills the
places of the names from left to right, and the rest of the text stays as it is.
-/

namespace RandomTables

namespace Template

/-- A text without references, or what stands in front of the first one, its name, and what stands
behind it. -/
inductive Layout where
  | plain (text : String)
  | reference (before name : String) (rest : Layout)
deriving DecidableEq

namespace Layout

variable {layout other : Layout} {text name : String}

def names : Layout → List String
  | plain _ => []
  | reference _ name rest => name :: rest.names

/-- The text itself, where each name stands between its brackets. -/
def spelling : Layout → String
  | plain text => text
  | reference before name rest => before ++ "[" ++ name ++ "]" ++ rest.spelling

/-- Puts a text in the place of each reference, from left to right. -/
def fill {m : Type → Type} [Monad m] (resolve : String → m String) : Layout → m String
  | plain text => pure text
  | reference before name rest => do
      let part ← resolve name
      let later ← rest.fill resolve
      pure (before ++ part ++ later)

/-- A layout with more text in front. -/
def cons (front : String) : Layout → Layout
  | plain text => plain (front ++ text)
  | reference before name rest => reference (front ++ before) name rest

/-- Two layouts with a reference between them. -/
def around : Layout → String → Layout → Layout
  | plain before, name, right => reference before name right
  | reference before first rest, name, right => reference before first (rest.around name right)

theorem cons_empty (layout : Layout) : layout.cons "" = layout := by
  cases layout <;> simp [cons]

theorem cons_cons (front next : String) (layout : Layout) :
    (layout.cons next).cons front = layout.cons (front ++ next) := by
  cases layout <;> simp [cons, String.append_assoc]

theorem names_cons (front : String) (layout : Layout) :
    (layout.cons front).names = layout.names := by
  cases layout <;> rfl

theorem spelling_cons (front : String) (layout : Layout) :
    (layout.cons front).spelling = front ++ layout.spelling := by
  cases layout with
  | plain text => rfl
  | reference before name rest => simp only [cons, spelling, String.append_assoc]

theorem fill_cons {m : Type → Type} [Monad m] [LawfulMonad m] (resolve : String → m String)
    (front : String) (layout : Layout) :
    (layout.cons front).fill resolve = (do
      let later ← layout.fill resolve
      pure (front ++ later)) := by
  cases layout with
  | plain text => simp only [cons, fill, pure_bind]
  | reference before name rest =>
      simp only [cons, fill, bind_assoc, pure_bind, String.append_assoc]

/-- A layout has all the references of a text: wherever a bracket-free name stands between brackets,
the layout has this name with a layout of what is in front of it and one of what is behind it. -/
structure IsOf (layout : Layout) (text : String) : Prop where
  spelled : layout.spelling = text
  bracketFree : ∀ name ∈ layout.names, ∀ c ∈ name.toList, isBracket c = false
  complete : ∀ before name after : String, (∀ c ∈ name.toList, isBracket c = false) →
    text = before ++ "[" ++ name ++ "]" ++ after →
      ∃ left right : Layout, layout = left.around name right ∧
        left.spelling = before ∧ right.spelling = after

/-! ### Every text has one layout at most -/

theorem length_lt_spelling_reference (before name : String) (rest : Layout) :
    before.length < (reference before name rest).spelling.length := by
  have hopen : "[".length = 1 := rfl
  simp only [spelling, String.length_append, hopen]
  omega

/-- What follows a reference is cut as it would be alone. -/
theorem IsOf.rest {before : String} (h : (reference before name layout).IsOf text) :
    layout.IsOf layout.spelling := by
  refine ⟨rfl, fun other hother => h.bracketFree other (List.mem_cons_of_mem _ hother), ?_⟩
  intro front word after hword hspelling
  have htext : text = (before ++ "[" ++ name ++ "]" ++ front) ++ "[" ++ word ++ "]" ++ after := by
    rw [← h.spelled, spelling, hspelling]
    simp only [String.append_assoc]
  obtain ⟨left, right, hlayout, hleft, hright⟩ := h.complete _ word after hword htext
  cases left with
  | plain head =>
      -- The reference at the front would be left out.
      cases hlayout
      have hlength := length_lt_spelling_reference before name (plain front)
      rw [spelling, spelling, ← hleft, spelling] at hlength
      exact absurd hlength (Nat.lt_irrefl _)
  | reference head first left =>
      cases hlayout
      refine ⟨left, right, rfl, ?_, hright⟩
      simpa only [spelling, String.append_right_inj] using hleft

theorem IsOf.unique (h : layout.IsOf text) (hother : other.IsOf text) : layout = other := by
  induction layout generalizing other text with
  | plain head =>
      cases other with
      | plain otherHead => rw [← h.spelled] at hother; exact congrArg plain hother.spelled.symm
      | reference before name rest =>
          obtain ⟨left, right, hleft, -, -⟩ := h.complete before name rest.spelling
            (hother.bracketFree name List.mem_cons_self) hother.spelled.symm
          cases left <;> cases hleft
  | reference before name rest ih =>
      obtain ⟨left, right, rfl, hbefore, hrest⟩ := hother.complete before name rest.spelling
        (h.bracketFree name List.mem_cons_self) h.spelled.symm
      cases left with
      | plain head =>
          cases hbefore
          have hright := hother.rest
          rw [hrest] at hright
          rw [ih h.rest hright]
          rfl
      | reference head first left =>
          -- Each of the two layouts would begin with a reference in front of that of the other.
          have hotherFirst := length_lt_spelling_reference head first left
          rw [hbefore] at hotherFirst
          obtain ⟨front, after, hlayout, hfront, -⟩ := h.complete head first _
            (hother.bracketFree first List.mem_cons_self) hother.spelled.symm
          cases front with
          | plain front =>
              cases hlayout
              obtain rfl : before = head := hfront
              omega
          | reference front word inner =>
              cases hlayout
              have hfirst := length_lt_spelling_reference before name inner
              rw [hfront] at hfirst
              omega

/-! ### The layout of a text -/

/-- The layout that a sequence of tokens stands for. -/
def ofTokens : List Token → Layout
  | [] => plain ""
  | .char c :: rest => (ofTokens rest).cons (String.singleton c)
  | .reference name :: rest => reference "" name (ofTokens rest)

theorem names_ofTokens (items : List Token) :
    (ofTokens items).names = items.filterMap Token.name? := by
  induction items with
  | nil => rfl
  | cons token items ih =>
      cases token with
      | char c => rw [ofTokens, names_cons, ih]; rfl
      | reference name => rw [ofTokens, names, ih]; rfl

theorem spelling_ofTokens (items : List Token) :
    (ofTokens items).spelling.toList = items.flatMap Token.spelling := by
  induction items with
  | nil => rfl
  | cons token items ih =>
      cases token with
      | char c => simp [ofTokens, spelling_cons, ih, Token.spelling]
      | reference name => simp [ofTokens, spelling, ih, Token.spelling]

theorem ofTokens_append_reference (items later : List Token) (name : String) :
    ofTokens (items ++ .reference name :: later) =
      (ofTokens items).around name (ofTokens later) := by
  induction items with
  | nil => rfl
  | cons token items ih =>
      rw [List.cons_append]
      cases token with
      | char c =>
          rw [ofTokens, ofTokens, ih]
          cases ofTokens items <;> rfl
      | reference other => rw [ofTokens, ih]; rfl

theorem fill_ofTokens {m : Type → Type} [Monad m] [LawfulMonad m] (resolve : String → m String)
    (text : String) : (ofTokens (tokens text.toList)).fill resolve = substitute resolve text := by
  rw [substitute]
  generalize tokens text.toList = items
  induction items with
  | nil => simp [ofTokens, fill]
  | cons token items ih =>
      cases token with
      | char c => simp [ofTokens, fill_cons, ih, String.join_cons]
      | reference name => simp [ofTokens, fill, ih, String.join_cons]

end Layout

/-- The layout of a text, as its tokens give it. -/
def layout (text : String) : Layout :=
  .ofTokens (tokens text.toList)

theorem names_layout (text : String) : (layout text).names = references text :=
  Layout.names_ofTokens _

theorem spelling_layout (text : String) : (layout text).spelling = text := by
  rw [← String.toList_inj, layout, Layout.spelling_ofTokens, flatMap_spelling_tokens]

theorem isOf_layout (text : String) : (layout text).IsOf text where
  spelled := spelling_layout text
  bracketFree := by
    intro name hname c hc
    rw [names_layout, mem_references_iff] at hname
    exact not_isBracket_of_mem_tokens hname hc
  complete := by
    rintro before name after hname rfl
    refine ⟨layout before, layout after, ?_, spelling_layout before, spelling_layout after⟩
    rw [layout, tokens_append_reference hname, Layout.ofTokens_append_reference]
    rfl

example : Layout.ofTokens (tokens "[[a] b]]x".toList) = .reference "[" "a" (.plain " b]]x") := by
  cbv

end Template

end RandomTables
