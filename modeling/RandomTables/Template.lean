/-!
Text with references. A reference is a name between square brackets that has no bracket in it; any
other bracket is text. A text reads as a sequence of tokens, and the tokens spell the text.
-/

namespace RandomTables.Template

inductive Token where
  | char (c : Char)
  | reference (name : String)
deriving DecidableEq

def Token.spelling : Token → List Char
  | .char c => [c]
  | .reference name => '[' :: name.toList ++ [']']

def isBracket (c : Char) : Bool :=
  c == '[' || c == ']'

/-- The name that a reference starts with just after its opening bracket, and what follows it. -/
def nameAtStart? (text : List Char) : Option (List Char × List Char) :=
  match text.dropWhile (!isBracket ·) with
  | ']' :: rest => some (text.takeWhile (!isBracket ·), rest)
  | _ => none

theorem length_lt_of_nameAtStart? {text name rest : List Char}
    (h : nameAtStart? text = some (name, rest)) : rest.length < text.length := by
  unfold nameAtStart? at h
  split at h
  · next hdrop =>
    simp only [Option.some.injEq, Prod.mk.injEq] at h
    have hsuffix := (List.dropWhile_suffix (l := text) (!isBracket ·)).length_le
    rw [hdrop, h.2, List.length_cons] at hsuffix
    omega
  · simp at h

def tokens : List Char → List Token
  | [] => []
  | c :: text =>
      if c = '[' then
        match _h : nameAtStart? text with
        | some (name, rest) => .reference (String.ofList name) :: tokens rest
        | none => .char c :: tokens text
      else
        .char c :: tokens text
termination_by text => text.length
decreasing_by
  · exact Nat.lt_succ_of_lt (length_lt_of_nameAtStart? _h)
  · simp
  · simp

def Token.name? : Token → Option String
  | .char _ => none
  | .reference name => some name

def references (text : String) : List String :=
  (tokens text.toList).filterMap Token.name?

/-- Whether some opening bracket starts no reference. -/
def hasUnclosed (text : String) : Bool :=
  (tokens text.toList).contains (.char '[')

/-- The text with every reference replaced by what `resolve` makes of it, from left to right. -/
def substitute {m : Type → Type} [Monad m] (resolve : String → m String) (text : String) :
    m String := do
  let parts ← (tokens text.toList).mapM fun token =>
    match token with
    | .char c => pure (String.singleton c)
    | .reference name => resolve name
  pure (String.join parts)

end RandomTables.Template
