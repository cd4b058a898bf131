import Mathlib.Data.List.Forall2
import Mathlib.Data.List.TakeWhile
import RandomTables.Template

/-!
What a substitution makes of a text: the characters stay as they are, and every reference gives way
to what stands for its name. A text without an opening bracket has no references.
-/

namespace RandomTables.Template

variable {text name : String}

/-- A reference starts with the bracket-free name in front of the first closing bracket. -/
theorem nameAtStart?_eq_some_iff {text word rest : List Char} :
    nameAtStart? text = some (word, rest) ↔
      text = word ++ ']' :: rest ∧ ∀ c ∈ word, isBracket c = false := by
  unfold nameAtStart?
  constructor
  · intro h
    split at h
    · next hdrop =>
        cases h
        refine ⟨?_, fun c hc => by simpa using List.mem_takeWhile_imp hc⟩
        rw [← hdrop, List.takeWhile_append_dropWhile]
    · cases h
  · rintro ⟨rfl, hword⟩
    have hkept : ∀ c ∈ word, (!isBracket c) = true := fun c hc => by rw [hword c hc]; rfl
    rw [List.dropWhile_append_of_pos hkept, List.takeWhile_append_of_pos hkept]
    simp [isBracket]

theorem nameAtStart?_append {text word rest : List Char}
    (h : nameAtStart? text = some (word, rest)) (after : List Char) :
    nameAtStart? (text ++ after) = some (word, rest ++ after) := by
  rw [nameAtStart?_eq_some_iff] at h ⊢
  obtain ⟨rfl, hword⟩ := h
  exact ⟨by simp, hword⟩

theorem nameAtStart?_append_open {text : List Char} (h : nameAtStart? text = none)
    (after : List Char) : nameAtStart? (text ++ '[' :: after) = none := by
  rw [Option.eq_none_iff_forall_ne_some] at h ⊢
  rintro ⟨word, rest⟩ hsome
  obtain ⟨hsplit, hword⟩ := nameAtStart?_eq_some_iff.1 hsome
  -- The closing bracket of the name stands behind the opening one, which is then in the name, or
  -- before it, and then the name was there already.
  rcases List.append_eq_append_iff.1 hsplit with
    ⟨between, hbefore, hafter⟩ | ⟨between, hbefore, hafter⟩
  · cases between with
    | nil => simp at hafter
    | cons c between =>
        obtain rfl : '[' = c := by simpa using congrArg List.head? hafter
        have hopen := hword '[' (by simp [hbefore])
        simp [isBracket] at hopen
  · cases between with
    | nil => simp at hafter
    | cons c between =>
        obtain rfl : ']' = c := by simpa using congrArg List.head? hafter
        exact h (word, between) (nameAtStart?_eq_some_iff.2 ⟨hbefore, hword⟩)

theorem tokens_open_of_eq_some {text word rest : List Char}
    (h : nameAtStart? text = some (word, rest)) :
    tokens ('[' :: text) = .reference (String.ofList word) :: tokens rest := by
  rw [tokens, if_pos rfl]
  split
  · next hother =>
      rw [h] at hother
      cases hother
      rfl
  · next hnone =>
      rw [h] at hnone
      cases hnone

theorem tokens_open_of_eq_none {text : List Char} (h : nameAtStart? text = none) :
    tokens ('[' :: text) = .char '[' :: tokens text := by
  rw [tokens, if_pos rfl]
  split
  · next hother =>
      rw [h] at hother
      cases hother
  · rfl

/-- Before an opening bracket a text reads as it does alone. -/
theorem tokens_append_open (before after : List Char) :
    tokens (before ++ '[' :: after) = tokens before ++ tokens ('[' :: after) := by
  fun_induction tokens before with
  | case1 => rfl
  | case2 text word rest hname ih =>
      rw [List.cons_append, tokens_open_of_eq_some (nameAtStart?_append hname _), ih,
        List.cons_append]
  | case3 text hname ih =>
      rw [List.cons_append, tokens_open_of_eq_none (nameAtStart?_append_open hname _), ih,
        List.cons_append]
  | case4 c text hopen ih =>
      rw [List.cons_append, tokens, if_neg hopen, ih, List.cons_append]

theorem tokens_reference {word : List Char} (hword : ∀ c ∈ word, isBracket c = false)
    (after : List Char) :
    tokens ('[' :: (word ++ ']' :: after)) = .reference (String.ofList word) :: tokens after :=
  tokens_open_of_eq_some (nameAtStart?_eq_some_iff.2 ⟨rfl, hword⟩)

theorem tokens_append_reference (hname : ∀ c ∈ name.toList, isBracket c = false)
    (before after : String) :
    tokens (before ++ "[" ++ name ++ "]" ++ after).toList =
      tokens before.toList ++ .reference name :: tokens after.toList := by
  have htext : (before ++ "[" ++ name ++ "]" ++ after).toList =
      before.toList ++ '[' :: (name.toList ++ ']' :: after.toList) := by
    simp
  rw [htext, tokens_append_open, tokens_reference hname, String.ofList_toList]

theorem flatMap_spelling_tokens (text : List Char) :
    (tokens text).flatMap Token.spelling = text := by
  fun_induction tokens text with
  | case1 => rfl
  | case2 text word rest hname ih =>
      rw [List.flatMap_cons, ih, (nameAtStart?_eq_some_iff.1 hname).1]
      simp [Token.spelling]
  | case3 text hname ih =>
      rw [List.flatMap_cons, ih]
      rfl
  | case4 c text hopen ih =>
      rw [List.flatMap_cons, ih]
      rfl

/-- An opening bracket that stays is one that starts no reference. -/
theorem char_open_mem_tokens_iff {text : List Char} :
    .char '[' ∈ tokens text ↔
      ∃ before after, text = before ++ '[' :: after ∧ nameAtStart? after = none := by
  constructor
  · intro h
    fun_induction tokens text with
    | case1 => simp at h
    | case2 text word rest hname ih =>
        obtain ⟨before, after, rfl, hnone⟩ := ih (by simpa using h)
        obtain ⟨rfl, -⟩ := nameAtStart?_eq_some_iff.1 hname
        exact ⟨'[' :: (word ++ ']' :: before), after, by simp, hnone⟩
    | case3 text hname ih => exact ⟨[], text, rfl, hname⟩
    | case4 c text hopen ih =>
        have hne : Token.char '[' ≠ .char c := fun heq => hopen (Token.char.inj heq).symm
        obtain ⟨before, after, rfl, hnone⟩ := ih ((List.mem_cons.1 h).resolve_left hne)
        exact ⟨c :: before, after, rfl, hnone⟩
  · rintro ⟨before, after, rfl, hnone⟩
    rw [tokens_append_open, tokens_open_of_eq_none hnone]
    exact List.mem_append_right _ List.mem_cons_self

theorem hasUnclosed_iff :
    hasUnclosed text = true ↔ ∃ before after : String, text = before ++ "[" ++ after ∧
      ∀ name rest : String, (∀ c ∈ name.toList, isBracket c = false) →
        after ≠ name ++ "]" ++ rest := by
  rw [hasUnclosed, List.contains_iff_mem, char_open_mem_tokens_iff]
  constructor
  · rintro ⟨before, after, htext, hnone⟩
    refine ⟨String.ofList before, String.ofList after, ?_, ?_⟩
    · rw [← String.toList_inj]
      simpa using htext
    · rintro name rest hname hafter
      have hlist : after = name.toList ++ ']' :: rest.toList := by
        simpa using congrArg String.toList hafter
      rw [nameAtStart?_eq_some_iff.2 ⟨hlist, hname⟩] at hnone
      cases hnone
  · rintro ⟨before, after, rfl, hnone⟩
    refine ⟨before.toList, after.toList, by simp, ?_⟩
    rw [Option.eq_none_iff_forall_ne_some]
    rintro ⟨word, rest⟩ hsome
    obtain ⟨hlist, hword⟩ := nameAtStart?_eq_some_iff.1 hsome
    refine hnone (String.ofList word) (String.ofList rest) (by simpa using hword) ?_
    rw [← String.toList_inj]
    simpa using hlist

theorem mem_references_iff : name ∈ references text ↔ .reference name ∈ tokens text.toList := by
  simp only [references, List.mem_filterMap]
  constructor
  · rintro ⟨token, htoken, hname⟩
    cases token with
    | char c => cases hname
    | reference other =>
        cases hname
        exact htoken
  · exact fun htoken => ⟨_, htoken, rfl⟩

theorem not_isBracket_of_mem_tokens {text : List Char} (h : .reference name ∈ tokens text)
    {c : Char} (hc : c ∈ name.toList) : isBracket c = false := by
  fun_induction tokens text with
  | case1 => simp at h
  | case2 text word rest hname ih =>
      rcases List.mem_cons.1 h with heq | hrest
      · cases heq
        rw [String.toList_ofList] at hc
        exact (nameAtStart?_eq_some_iff.1 hname).2 c hc
      · exact ih hrest
  | case3 text hname ih => exact ih (by simpa using h)
  | case4 c text hopen ih => exact ih (by simpa using h)

theorem not_mem_of_mem_references (h : name ∈ references text) : '[' ∉ name.toList := by
  intro hopen
  have hbracket := not_isBracket_of_mem_tokens (mem_references_iff.1 h) hopen
  simp [isBracket] at hbracket

theorem tokens_of_not_mem {text : List Char} (h : '[' ∉ text) : tokens text = text.map .char := by
  induction text with
  | nil => rw [tokens, List.map_nil]
  | cons c text ih =>
      rw [List.mem_cons, not_or] at h
      rw [tokens, if_neg (Ne.symm h.1), ih h.2, List.map_cons]

/-- What a token may become: a character stays, and a reference gives way to a text that `P` allows
for its name. -/
def Token.Becomes (P : String → String → Prop) : Token → String → Prop
  | .char c, part => part = String.singleton c
  | .reference name, part => P name part

theorem Token.Becomes.mono {P Q : String → String → Prop} {token : Token} {part : String}
    (himp : ∀ name part, P name part → Q name part) (h : token.Becomes P part) :
    token.Becomes Q part := by
  cases token with
  | char c => exact h
  | reference name => exact himp name part h

def Substituted (P : String → String → Prop) (text out : String) : Prop :=
  ∃ parts, List.Forall₂ (Token.Becomes P) (tokens text.toList) parts ∧ out = String.join parts

theorem Substituted.mono {P Q : String → String → Prop} {out : String}
    (himp : ∀ name part, P name part → Q name part) (h : Substituted P text out) :
    Substituted Q text out := by
  obtain ⟨parts, hparts, hout⟩ := h
  exact ⟨parts, hparts.imp fun _ _ => Token.Becomes.mono himp, hout⟩

theorem Substituted.exists_of_mem {P : String → String → Prop} {out : String}
    (h : Substituted P text out) (hname : name ∈ references text) : ∃ part, P name part := by
  obtain ⟨parts, hparts, -⟩ := h
  rw [mem_references_iff] at hname
  generalize tokens text.toList = items at hparts hname
  induction hparts with
  | nil => simp at hname
  | cons hfirst _ ih =>
      rcases List.mem_cons.1 hname with rfl | hrest
      · exact ⟨_, hfirst⟩
      · exact ih hrest

/-- Only an opening bracket that starts no reference can come through a substitution. -/
theorem Substituted.not_mem {out : String} (closed : hasUnclosed text = false)
    (h : Substituted (fun _ part => '[' ∉ part.toList) text out) : '[' ∉ out.toList := by
  obtain ⟨parts, hparts, rfl⟩ := h
  have hopen : .char '[' ∉ tokens text.toList := by
    simpa [hasUnclosed] using closed
  generalize tokens text.toList = items at hopen hparts
  induction hparts with
  | nil => simp
  | @cons token part items parts hfirst _ ih =>
      rw [List.mem_cons, not_or] at hopen
      have hpart : '[' ∉ part.toList := by
        cases token with
        | char c =>
            obtain rfl : part = String.singleton c := hfirst
            intro hmem
            rw [String.toList_singleton, List.mem_singleton] at hmem
            exact hopen.1 (congrArg Token.char hmem)
        | reference name => exact hfirst
      rw [String.join_cons, String.toList_append, List.mem_append, not_or]
      exact ⟨hpart, ih hopen.2⟩

theorem substitute_of_not_mem {m : Type → Type} [Monad m] [LawfulMonad m]
    (resolve : String → m String) (h : '[' ∉ text.toList) :
    substitute resolve text = pure text := by
  have hjoin : String.join (text.toList.map String.singleton) = text := by
    rw [← String.toList_inj, String.toList_join, List.flatMap_map]
    simp
  rw [substitute, tokens_of_not_mem h, List.mapM_map]
  change ((text.toList.mapM fun c => pure (String.singleton c)) >>= fun parts =>
    pure (String.join parts)) = pure text
  rw [List.mapM_pure, pure_bind, hjoin]

/-- A reference is replaced where it stands, after what is in front of it and before what comes
behind it. -/
theorem substitute_reference {m : Type → Type} [Monad m] [LawfulMonad m]
    (resolve : String → m String) (hname : ∀ c ∈ name.toList, isBracket c = false)
    (before after : String) :
    substitute resolve (before ++ "[" ++ name ++ "]" ++ after) = (do
      let left ← substitute resolve before
      let middle ← resolve name
      let right ← substitute resolve after
      pure (left ++ middle ++ right)) := by
  rw [substitute, tokens_append_reference hname]
  simp only [substitute, List.mapM_append, List.mapM_cons, bind_assoc, pure_bind,
    String.join_append, String.join_cons, String.append_assoc]

theorem substitute_congr {m : Type → Type} [Monad m] [LawfulMonad m] {f g : String → m String}
    (h : ∀ name ∈ references text, f name = g name) : substitute f text = substitute g text := by
  simp only [mem_references_iff] at h
  unfold substitute
  congr 1
  generalize tokens text.toList = items at h
  induction items with
  | nil => rfl
  | cons token items ih =>
      rw [List.mapM_cons, List.mapM_cons,
        ih fun name hname => h name (List.mem_cons_of_mem _ hname)]
      cases token with
      | char c => rfl
      | reference name => simp only [h name List.mem_cons_self]

end RandomTables.Template
