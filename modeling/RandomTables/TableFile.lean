import RandomTables.Store
import RandomTables.Text.Blank
import RandomTables.Text.Decimal

/-!
The text of a table file. A line that starts with a semicolon opens a section; the lines after it
are the entries of its table, up to the next such line. A section without a name is the main one,
and a section may be opened again. Lines that are blank or start with `#` do not count.
-/

namespace RandomTables.TableFile

inductive Line where
  /-- Opens the section that is stored under this name. -/
  | header (table : String)
  | entry (alternative : Alternative)
  | skipped
deriving DecidableEq

/-- The largest weight that is read. A larger one counts as this one. -/
def mostWeight : Nat := 4294967295

def readWeight (digits : List Char) : Nat :=
  if Text.decimal digits = 0 then 1
  else if mostWeight < Text.decimal digits then mostWeight
  else Text.decimal digits

/-- An entry with a weight has digits and a comma in front of its text. -/
def readEntry (line : List Char) : Alternative :=
  match Text.cutFirst? (· == ',') line with
  | some (digits, text) =>
      if Text.isDigits digits then
        Alternative.ofWeight (String.ofList (Text.trim text)) (readWeight digits)
      else .literal (String.ofList line)
  | none => .literal (String.ofList line)

def sectionName (file : String) (heading : List Char) : String :=
  if heading.isEmpty then Name.ofSection file Name.mainSection
  else Name.ofSection file (String.ofList heading)

def readTrimmed (file : String) : List Char → Line
  | [] => .skipped
  | ';' :: heading => .header (sectionName file (Text.trim heading))
  | '#' :: _ => .skipped
  | line => .entry (readEntry line)

def lines (file : String) (contents : String) : List Line :=
  (contents.toList.splitOn '\n').map fun line => readTrimmed file (Text.trim line)

def Line.isHeader : Line → Bool
  | .header _ => true
  | _ => false

/-- The entries with the tables they belong to, in order; `current` is the table of the section that
is open. Entries before the first header belong to no table. -/
def assign (current : Option String) : List Line → List (String × Alternative)
  | [] => []
  | .header table :: rest => assign (some table) rest
  | .skipped :: rest => assign current rest
  | .entry alternative :: rest =>
      match current with
      | some table => (table, alternative) :: assign current rest
      | none => assign current rest

def prepend (name : String) (alternative : Alternative) (store : Store) : Store :=
  store.insert ⟨name, alternative :: ((store.get? name).map Table.alternatives).getD []⟩

/-- The tables that the entries make up, each with its alternatives in order. -/
def collect (entries : List (String × Alternative)) : Store :=
  entries.foldr (fun (name, alternative) store => prepend name alternative store) Store.empty

/-- The tables of the file `file`; none if it has no header. Sections without entries are
dropped. -/
def parse? (file contents : String) : Option Store :=
  if (lines file contents).any Line.isHeader then
    some (collect (assign none (lines file contents)))
  else none

end RandomTables.TableFile
