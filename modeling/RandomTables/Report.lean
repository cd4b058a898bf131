import RandomTables.Text.Cut
import Std.Data.ExtTreeSet

/-!
The report on checked tables: the errors, the warnings and a tally.
-/

namespace RandomTables.Report

def tableMark : List Char := "Table '".toList

/-- The table that a problem begins with, up to the next quote. -/
def tableOf? (problem : String) : Option String :=
  if tableMark.isPrefixOf problem.toList then
    (Text.cutFirst? (· == '\x27') (problem.toList.drop tableMark.length)).map fun (name, _) =>
      String.ofList name
  else none

def countTables (problems : List String) : Nat :=
  ((problems.filterMap tableOf?).foldl (fun set name => set.insert name)
    (∅ : Std.ExtTreeSet String)).size

def listing (heading : String) (items : List String) : String :=
  if items.isEmpty then ""
  else
    let lines := String.join (items.map fun item => s!"  - {item}\n")
    s!"\n{items.length} {heading}:\n{lines}"

def tally (checked : Nat) (errors warnings : List String) : String :=
  if errors.isEmpty && warnings.isEmpty then
    "No problems found.\n"
  else
    let clean := checked - countTables (errors ++ warnings)
    s!"\n{clean} of {checked} tables clean, {errors.length} errors, {warnings.length} warnings\n"

def render (checked : Nat) (errors warnings : List String) : String :=
  let errorList := listing "errors" errors
  let warningList := listing "warnings" warnings
  let summary := tally checked errors warnings
  s!"\nChecked {checked} tables\n{errorList}{warningList}{summary}"

end RandomTables.Report
