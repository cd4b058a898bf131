/-!
One entry of a table. An entry written without a weight has weight 1.
-/

namespace RandomTables

inductive Alternative where
  | literal (text : String)
  | weighted (text : String) (weight : Nat)
deriving DecidableEq

namespace Alternative

/-- A weight of 1 is not written. -/
def ofWeight (text : String) (weight : Nat) : Alternative :=
  if weight = 1 then .literal text else .weighted text weight

def text : Alternative → String
  | .literal text => text
  | .weighted text _ => text

def weight : Alternative → Nat
  | .literal _ => 1
  | .weighted _ weight => weight

@[simp] theorem text_ofWeight (text : String) (weight : Nat) :
    (ofWeight text weight).text = text := by
  unfold ofWeight; split <;> rfl

@[simp] theorem weight_ofWeight (text : String) (weight : Nat) :
    (ofWeight text weight).weight = weight := by
  unfold ofWeight; split <;> simp_all [Alternative.weight]

end Alternative

end RandomTables
