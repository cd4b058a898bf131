import RandomTables.Alternative
import RandomTables.Weights

namespace RandomTables

structure Table where
  name : String
  alternatives : List Alternative
deriving DecidableEq

def Table.totalWeight (table : Table) : Nat :=
  Weights.total (table.alternatives.map Alternative.weight)

end RandomTables
