import RandomTables.Text.Cut

/-!
Table names. A name with a dot is qualified: what stands before its first dot is its scope, the
name of the file that holds the table. A file's main table bears the file's own name.
-/

namespace RandomTables.Name

def isQualified (name : String) : Bool :=
  name.toList.contains '.'

def isVisible (name : String) : Bool :=
  !isQualified name

/-- The name that a local name stands for within `scope`. -/
def qualify (scope : Option String) (name : String) : String :=
  match scope with
  | some scope => if scope.isEmpty || isQualified name then name else scope ++ "." ++ name
  | none => name

def topLevel (name : String) : String :=
  match Text.cutFirst? (· == '.') name.toList with
  | some (scope, _) => String.ofList scope
  | none => name

def mainSection : String := "main"

/-- Letter case of the ASCII letters does not count. -/
def isMain (heading : String) : Bool :=
  heading.toList.map Char.toLower == mainSection.toList

def ofSection (file heading : String) : String :=
  if isMain heading then file else file ++ "." ++ heading

end RandomTables.Name
