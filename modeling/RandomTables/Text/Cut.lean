/-!
Cutting a text at separators.
-/

namespace RandomTables.Text

/-- What stands before and after the first character that satisfies `isCut`, if there is one. -/
def cutFirst? (isCut : Char → Bool) (text : List Char) : Option (List Char × List Char) :=
  match text.dropWhile (fun c => !isCut c) with
  | [] => none
  | _ :: rest => some (text.takeWhile fun c => !isCut c, rest)

/-- What stands before and after the last `separator`, if there is one. -/
def cutLast? (separator : Char) (text : List Char) : Option (List Char × List Char) :=
  (cutFirst? (· == separator) text.reverse).map fun (after, before) =>
    (before.reverse, after.reverse)

end RandomTables.Text
