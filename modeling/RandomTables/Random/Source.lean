/-!
Random words and what is drawn from them. A draw is a function of the state of its source, so that
equal states give equal results.
-/

namespace RandomTables

class RandomSource (σ : Type) where
  next32 : σ → BitVec 32 × σ
  next64 : σ → BitVec 64 × σ
  /-- How many words one draw may refuse before it is given up. -/
  patience : σ → Nat

inductive DrawFault where
  | emptyRange
  /-- More words were refused than the source allows. -/
  | stalled
deriving DecidableEq

abbrev Draw (σ : Type) := StateT σ (Except DrawFault)

def Draw.times {σ α : Type} (count : Nat) (draw : Draw σ α) : Draw σ (List α) :=
  (List.replicate count ()).mapM fun _ => draw

end RandomTables
