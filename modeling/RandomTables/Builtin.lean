import RandomTables.TableFile

/-!
Tables that need no file: a deck of playing cards.
-/

namespace RandomTables.Builtin

def cardFile : String :=
"# A standard deck of playing cards.
;main
[rank] of [suit]

;rank
Ace
2
3
4
5
6
7
8
9
10
Jack
Queen
King

;suit
Spades
Hearts
Diamonds
Clubs
"

def files : List (String × String) := [("card", cardFile)]

def tables : Store :=
  files.foldl (fun store (name, contents) =>
    store.merge ((TableFile.parse? name contents).getD Store.empty)) Store.empty

end RandomTables.Builtin
