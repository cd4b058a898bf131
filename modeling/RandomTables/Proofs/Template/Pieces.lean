import RandomTables.Proofs.Template.Layout
import RandomTables.Proofs.Text.Cut

/-!
References found in one pass. Cut a text at every opening bracket, and each piece behind one at its
first closing bracket: a piece that can be cut starts with a name, and the bracket of any other
piece is left open. Substitution, the list of the references and the search for an open bracket can
all be read off the pieces. They agree with one another and with the layout of the text.
-/

namespace RandomTables

namespace Template

/-- What is in front of the first opening bracket, and what follows each one up to the next. -/
def pieces (text : List Char) : List Char × List (List Char) :=
  ((text.splitOn '[').headD [], (text.splitOn '[').tail)

/-- The name that a piece starts with, and what is left of the piece. -/
def closed? (piece : List Char) : Option (List Char × List Char) :=
  Text.cutFirst? (· == ']') piece

def pieceTokens (piece : List Char) : List Token :=
  match closed? piece with
  | some (name, rest) => .reference (String.ofList name) :: rest.map .char
  | none => .char '[' :: piece.map .char

/-- Adds a piece to what is written: the name that it starts with gives way to a text, and a bracket
that is left open stays. -/
def writePiece {m : Type → Type} [Monad m] (resolve : String → m String) (out : String)
    (piece : List Char) : m String :=
  match closed? piece with
  | some (name, rest) => do
      let part ← resolve (String.ofList name)
      pure (out ++ part ++ String.ofList rest)
  | none => pure (out ++ "[" ++ String.ofList piece)

def substitutePieces {m : Type → Type} [Monad m] (resolve : String → m String) (text : String) :
    m String :=
  (pieces text.toList).2.foldlM (writePiece resolve) (String.ofList (pieces text.toList).1)

def pieceReferences (text : String) : List String :=
  (pieces text.toList).2.filterMap fun piece =>
    (closed? piece).map fun (name, _) => String.ofList name

def hasOpenPiece (text : String) : Bool :=
  (pieces text.toList).2.any fun piece => !piece.contains ']'

variable {piece name rest : List Char}

theorem closed?_eq_some_iff :
    closed? piece = some (name, rest) ↔ ']' ∉ name ∧ piece = name ++ ']' :: rest := by
  rw [closed?, Text.cutFirst?_eq_some_iff]
  simp [← List.forall_mem_ne']

theorem closed?_eq_none_iff : closed? piece = none ↔ ']' ∉ piece := by
  rw [closed?, Text.cutFirst?_eq_none_iff]
  simp [← List.forall_mem_ne']

theorem isBracket_eq_false_iff {c : Char} : isBracket c = false ↔ c ≠ '[' ∧ c ≠ ']' := by
  simp [isBracket]

theorem nameAtStart?_intercalate (h : ']' ∉ piece) (later : List (List Char)) :
    nameAtStart? (['['].intercalate (piece :: later)) = none := by
  have hpiece : nameAtStart? piece = none := by
    rw [Option.eq_none_iff_forall_ne_some]
    rintro ⟨name, rest⟩ hsome
    rw [(nameAtStart?_eq_some_iff.1 hsome).1] at h
    exact h (List.mem_append_right _ List.mem_cons_self)
  cases later with
  | nil => rwa [List.intercalate_singleton]
  | cons next later =>
      rw [List.intercalate_cons_cons, List.append_assoc]
      exact nameAtStart?_append_open hpiece _

theorem intercalate_append_cons (front : List Char) (later : List (List Char)) :
    ['['].intercalate ((front ++ rest) :: later) = front ++ ['['].intercalate (rest :: later) := by
  cases later with
  | nil => simp only [List.intercalate_singleton]
  | cons next later => simp only [List.intercalate_cons_cons, List.append_assoc]

theorem tokens_intercalate {head : List Char} {later : List (List Char)} (hhead : '[' ∉ head)
    (hlater : ∀ piece ∈ later, '[' ∉ piece) :
    tokens (['['].intercalate (head :: later)) = head.map .char ++ later.flatMap pieceTokens := by
  induction later generalizing head with
  | nil => simpa using tokens_of_not_mem hhead
  | cons piece later ih =>
      rw [List.forall_mem_cons] at hlater
      obtain ⟨hpiece, hlater⟩ := hlater
      rw [List.intercalate_cons_cons, List.append_assoc, List.singleton_append, tokens_append_open,
        tokens_of_not_mem hhead, List.flatMap_cons, pieceTokens]
      congr 1
      cases hclosed : closed? piece with
      | some cut =>
          obtain ⟨name, rest⟩ := cut
          obtain ⟨hclose, rfl⟩ := closed?_eq_some_iff.1 hclosed
          rw [List.mem_append, List.mem_cons, not_or, not_or] at hpiece
          have hname : ∀ c ∈ name, isBracket c = false := fun c hc =>
            isBracket_eq_false_iff.2
              ⟨ne_of_mem_of_not_mem hc hpiece.1, ne_of_mem_of_not_mem hc hclose⟩
          have hsplit : ['['].intercalate ((name ++ ']' :: rest) :: later) =
              name ++ ']' :: ['['].intercalate (rest :: later) := by
            rw [intercalate_append_cons, List.intercalate_cons_cons_left]
          rw [hsplit, tokens_reference hname, ih hpiece.2.2 hlater, List.cons_append]
      | none =>
          have hopen := nameAtStart?_intercalate (closed?_eq_none_iff.1 hclosed) later
          rw [tokens_open_of_eq_none hopen, ih hpiece hlater, List.cons_append]

/-- The pieces have no opening bracket left, and they read as the text does. -/
structure Reads (head : List Char) (later : List (List Char)) (text : List Char) : Prop where
  head_open : '[' ∉ head
  later_open : ∀ piece ∈ later, '[' ∉ piece
  tokens : tokens text = head.map .char ++ later.flatMap pieceTokens

theorem reads_pieces (text : List Char) : Reads (pieces text).1 (pieces text).2 text := by
  rcases hsplit : text.splitOn '[' with _ | ⟨head, later⟩
  · exact absurd hsplit (List.splitOn_ne_nil _ _)
  · have hopen : ∀ piece ∈ head :: later, '[' ∉ piece := fun piece hpiece =>
      Text.not_mem_of_mem_splitOn (hsplit ▸ hpiece)
    rw [List.forall_mem_cons] at hopen
    have htokens := tokens_intercalate hopen.1 hopen.2
    rw [← hsplit, List.intercalate_splitOn] at htokens
    simp only [pieces, hsplit, List.headD_cons, List.tail_cons]
    exact ⟨hopen.1, hopen.2, htokens⟩

/-! ### The three readers -/

theorem filterMap_name?_char (text : List Char) :
    (text.map Token.char).filterMap Token.name? = [] := by
  rw [List.filterMap_map]
  exact List.filterMap_eq_nil_iff.2 fun _ _ => rfl

theorem filterMap_name?_pieceTokens (piece : List Char) :
    (pieceTokens piece).filterMap Token.name? =
      ((closed? piece).map fun (name, _) => String.ofList name).toList := by
  unfold pieceTokens
  split
  · next name rest hclosed =>
      have hname : Token.name? (.reference (String.ofList name)) = some (String.ofList name) := rfl
      rw [List.filterMap_cons_some hname, filterMap_name?_char, hclosed]
      rfl
  · next hclosed =>
      rw [List.filterMap_cons_none rfl, filterMap_name?_char, hclosed]
      rfl

theorem references_eq_pieces (text : String) : references text = pieceReferences text := by
  rw [pieceReferences, references, (reads_pieces _).tokens, List.filterMap_append,
    filterMap_name?_char, List.nil_append, List.filterMap_flatMap, List.filterMap_eq_flatMap_toList]
  simp only [filterMap_name?_pieceTokens]

theorem char_open_mem_pieceTokens_iff (h : '[' ∉ piece) :
    .char '[' ∈ pieceTokens piece ↔ ']' ∉ piece := by
  unfold pieceTokens
  split
  · next name rest hclosed =>
      obtain ⟨-, rfl⟩ := closed?_eq_some_iff.1 hclosed
      have hrest : '[' ∉ rest := fun hmem =>
        h (List.mem_append_right _ (List.mem_cons_of_mem _ hmem))
      simpa using hrest
  · next hclosed => simpa using closed?_eq_none_iff.1 hclosed

theorem hasUnclosed_eq_pieces (text : String) : hasUnclosed text = hasOpenPiece text := by
  obtain ⟨hhead, hlater, htokens⟩ := reads_pieces text.toList
  have hopen : .char '[' ∉ (pieces text.toList).1.map Token.char := by simpa using hhead
  rw [Bool.eq_iff_iff, hasOpenPiece, hasUnclosed, htokens, List.contains_iff_mem, List.mem_append,
    or_iff_right hopen, List.mem_flatMap, List.any_eq_true]
  refine exists_congr fun piece => and_congr_right fun hpiece => ?_
  rw [char_open_mem_pieceTokens_iff (hlater piece hpiece)]
  simp

theorem ofTokens_char_append (text : List Char) (items : List Token) :
    Layout.ofTokens (text.map .char ++ items) =
      (Layout.ofTokens items).cons (String.ofList text) := by
  induction text with
  | nil => exact (Layout.cons_empty _).symm
  | cons c text ih =>
      rw [List.map_cons, List.cons_append, Layout.ofTokens, ih, Layout.cons_cons]
      congr 1
      simp

theorem fill_pieceTokens {m : Type → Type} [Monad m] [LawfulMonad m]
    (resolve : String → m String) (later : List (List Char)) (out : String) :
    ((Layout.ofTokens (later.flatMap pieceTokens)).cons out).fill resolve =
      later.foldlM (writePiece resolve) out := by
  induction later generalizing out with
  | nil => simp [Layout.ofTokens, Layout.cons, Layout.fill]
  | cons piece later ih =>
      rw [List.foldlM_cons, List.flatMap_cons, pieceTokens, writePiece]
      cases hclosed : closed? piece with
      | some cut =>
          obtain ⟨name, rest⟩ := cut
          rw [List.cons_append, Layout.ofTokens, ofTokens_char_append, Layout.cons, Layout.fill,
            String.append_empty]
          simp only [← ih, bind_assoc, pure_bind, Layout.fill_cons, String.append_assoc]
      | none =>
          rw [List.cons_append, Layout.ofTokens, ofTokens_char_append, Layout.cons_cons,
            Layout.cons_cons]
          simp only [← ih, pure_bind]
          rfl

theorem substitute_eq_pieces {m : Type → Type} [Monad m] [LawfulMonad m]
    (resolve : String → m String) (text : String) :
    substitute resolve text = substitutePieces resolve text := by
  rw [← Layout.fill_ofTokens, (reads_pieces _).tokens, ofTokens_char_append]
  exact fill_pieceTokens resolve _ _

end Template

namespace Expander

/-- Every text has exactly one layout, which has the references of the text. Expanding the text puts
the expansion of each name in its place, from left to right. A bracket is left open if it starts no
reference. One pass over the pieces of the text finds the same each time. -/
theorem expandText_replaces_references (expander : Expander) (text : String) :
    ∃ layout : Template.Layout, layout.IsOf text ∧
      (∀ other : Template.Layout, other.IsOf text → other = layout) ∧
      (∀ (σ : Type) [RandomSource σ] (scope : Option String),
        (expander.expandText text scope : Expansion σ String) =
            layout.fill (fun name => expander.expand name scope) ∧
          (expander.expandText text scope : Expansion σ String) =
            Template.substitutePieces (fun name => expander.expand name scope) text) ∧
      Template.references text = layout.names ∧
      Template.references text = Template.pieceReferences text ∧
      (Template.hasUnclosed text = true ↔
        ∃ before after : String, text = before ++ "[" ++ after ∧
          ∀ name rest : String, (∀ c ∈ name.toList, Template.isBracket c = false) →
            after ≠ name ++ "]" ++ rest) ∧
      Template.hasUnclosed text = Template.hasOpenPiece text := by
  refine ⟨Template.layout text, Template.isOf_layout text, ?_, ?_,
    (Template.names_layout text).symm, Template.references_eq_pieces text,
    Template.hasUnclosed_iff, Template.hasUnclosed_eq_pieces text⟩
  · exact fun other hother => hother.unique (Template.isOf_layout text)
  · intro σ _ scope
    exact ⟨(Template.Layout.fill_ofTokens _ text).symm, Template.substitute_eq_pieces _ text⟩

end Expander

end RandomTables
