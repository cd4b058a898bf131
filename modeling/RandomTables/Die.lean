/-!
The faces of a die. A face adds its value to a sum and is shown by its label.
-/

namespace RandomTables

structure Face where
  value : Int
  label : String
deriving DecidableEq

/-- A plain face, labelled with its own value. -/
def Face.numbered (value : Int) : Face := ⟨value, toString value⟩

/-- Rolled in place of a die that is not known. -/
def Face.unknown : Face := ⟨0, "?"⟩

structure Die where
  faces : List Face
  nonempty : faces ≠ []

def Die.ofFaces? (faces : List Face) : Option Die :=
  if nonempty : faces = [] then none else some ⟨faces, nonempty⟩

theorem Die.length_pos (die : Die) : 0 < die.faces.length :=
  List.length_pos_iff.2 die.nonempty

/-- What stands after the `d` of a dice spec. -/
inductive Faces where
  | numbered (count : Nat)
  | named (name : String)
deriving DecidableEq

namespace Faces

def text : Faces → String
  | .numbered count => toString count
  | .named name => name

def standard : Faces := .numbered 6

/-- A plain die without a face cannot be rolled. -/
def isRollable (faces : Faces) : Bool :=
  faces != .numbered 0

end Faces

end RandomTables
