import RandomTables.Alternative
import RandomTables.Random.Weighted
import RandomTables.Text.Blank

/-!
One alternative of several: those of a table, or those of a list written with commas.
-/

namespace RandomTables.Choice

variable {σ : Type} [RandomSource σ]

def choose (alternatives : List Alternative) : Draw σ (Option Alternative) := do
  let position ← chooseIndex (alternatives.map Alternative.weight)
  pure (position.bind fun position => alternatives[position]?)

/-- The items between the commas, trimmed, each of weight 1. Blank items are dropped. -/
def ofList (list : String) : List Alternative :=
  ((list.toList.splitOn ',').map Text.trim).filter (!·.isEmpty) |>.map fun item =>
    .literal (String.ofList item)

def chooseFromList (list : String) : Draw σ (Option String) := do
  let picked ← choose (ofList list)
  pure (picked.map Alternative.text)

end RandomTables.Choice
