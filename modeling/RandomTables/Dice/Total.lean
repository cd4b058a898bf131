/-!
Totals are signed words of 64 bits. A sum that would leave them stays at the limit it reached, and
the next summand is added from there.
-/

namespace RandomTables.Dice

def leastTotal : Int := -9223372036854775808

def greatestTotal : Int := 9223372036854775807

def clamp (n : Int) : Int :=
  if n < leastTotal then leastTotal else if greatestTotal < n then greatestTotal else n

def sumClamped (start : Int) (values : List Int) : Int :=
  values.foldl (fun total value => clamp (total + value)) start

end RandomTables.Dice
