import RandomTables.Expansion
import RandomTables.ReferenceGraph

/-!
Problems of tables that can be seen without expanding them. Each reference is looked at in the scope
of its table.
-/

namespace RandomTables

inductive Problem where
  /-- No entry can be picked. -/
  | unselectable (table : String)
  | unclosed (table text : String)
  | unknownDie (table reference die : String)
  | unmatched (table reference : String)
  | endless (table : String)
  | cycle (path : List String)
deriving DecidableEq

def Problem.message : Problem → String
  | .unselectable table => s!"Table '{table}' has no selectable entries"
  | .unclosed table text => s!"Table '{table}' has an unclosed '[' in: {text}"
  | .unknownDie table reference die =>
      s!"Table '{table}' reference '[{reference}]' rolls unknown custom die '{die}'"
  | .unmatched table reference =>
      s!"Table '{table}' reference '[{reference}]' matches no table and is kept as text"
  | .endless table => s!"Table '{table}' has no non-recursive entry (infinite recursion)"
  | .cycle path =>
      let path := " -> ".intercalate path
      s!"Reference cycle: {path}"

namespace Lint

/-- What a reference would be replaced by. -/
inductive Target where
  | table (name : String)
  | dice (spec : Dice.Spec)
  | range
  | text
deriving DecidableEq

def classify (expander : Expander) (reference scope : String) : Target :=
  match expander.findTable reference (some scope) with
  | some table => .table table.name
  | none =>
      match Dice.Spec.parse expander.standardFaces reference with
      | .ok spec => .dice spec
      | .error _ => if (Range.Spec.parse reference).isOk then .range else .text

/-- The tables that an alternative of the table `name` refers to. -/
def tableTargets (expander : Expander) (name : String) (alternative : Alternative) :
    List String :=
  (Template.references alternative.text).filterMap fun reference =>
    match classify expander reference (Name.topLevel name) with
    | .table target => some target
    | _ => none

def referenceWarning? (expander : Expander) (name reference : String) : Option Problem :=
  match classify expander reference (Name.topLevel name) with
  | .dice ⟨_, .named die, _⟩ =>
      if expander.dice.contains die then none else some (.unknownDie name reference die)
  | .text => some (.unmatched name reference)
  | _ => none

def alternativeWarnings (expander : Expander) (name : String) (alternative : Alternative) :
    List Problem :=
  (if Template.hasUnclosed alternative.text then [.unclosed name alternative.text] else []) ++
    (Template.references alternative.text).filterMap (referenceWarning? expander name)

def tableWarnings (expander : Expander) (table : Table) : List Problem :=
  table.alternatives.flatMap (alternativeWarnings expander table.name)

def refersToSelf (expander : Expander) (name : String) (alternative : Alternative) : Bool :=
  (tableTargets expander name alternative).contains name

def tableErrors (expander : Expander) (table : Table) : List Problem :=
  (if table.totalWeight = 0 then [.unselectable table.name] else []) ++
    (if !table.alternatives.isEmpty &&
        table.alternatives.all (refersToSelf expander table.name) then
      [.endless table.name]
    else [])

def graph (expander : Expander) : ReferenceGraph :=
  expander.tables.tables.foldl (fun graph table =>
    graph.addTargets table.name
      (table.alternatives.flatMap (tableTargets expander table.name))) ReferenceGraph.empty

def errors (expander : Expander) : List Problem :=
  expander.tables.tables.flatMap (tableErrors expander)

def warnings (expander : Expander) : List Problem :=
  expander.tables.tables.flatMap (tableWarnings expander) ++
    (graph expander).cycles.map Problem.cycle

end Lint

end RandomTables
