/-!
Why a text is not a dice spec or not a range spec.
-/

namespace RandomTables

inductive SpecError where
  | empty
  | noMatch (text : String)
  /-- The text has the shape, but a number in it is too large. -/
  | outOfRange (text : String)
  | zeroFaces
  | emptyRange (low high : Int)
deriving DecidableEq

def SpecError.message : SpecError → String
  | .empty => "empty spec"
  | .noMatch text => s!"'{text}' does not match the grammar"
  | .outOfRange text => s!"number out of range in '{text}'"
  | .zeroFaces => "a die needs at least one face"
  | .emptyRange low high => s!"empty range: {low} is not below {high}"

end RandomTables
