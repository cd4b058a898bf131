import RandomTables.Engine
import RandomTables.Text.Blank

/-!
The commands of the shell. The first word of a line is the command, in any letter case; a line that
starts with no command is a name to expand.
-/

namespace RandomTables

inductive Command where
  | quit
  | help
  | expand (name : String)
  | expandNothing
  | text (template : String)
  | roll (spec : String)
  | range (spec : String)
  | choose (list : String)
  | list
  | dice
  | load (path : String)
  | loadNothing
  | showSeed
  | reseed (seed : UInt64)
  /-- A seed is given that is not a number of 64 bits. -/
  | badSeed (text : String)
deriving DecidableEq

namespace Command

/-- The first word of a line and the trimmed rest. -/
def split (line : List Char) : String × String :=
  match Text.cutFirst? Text.isBlank line with
  | some (word, rest) => (String.ofList word, String.ofList (Text.trim rest))
  | none => (String.ofList line, "")

def ofSeed (text : String) : Command :=
  match Seeded.readSeed? text with
  | some seed => .reseed seed
  | none => .badSeed text

def parse (line : String) : Command :=
  let (word, rest) := split line.toList
  let word := Text.lowercase word
  if word ∈ ["quit", "exit", "q"] then .quit
  else if word ∈ ["help", "h", "?"] then .help
  else if word ∈ ["table", "t"] then
    if rest.isEmpty then .expandNothing else .expand rest
  else if word = "text" then .text rest
  else if word ∈ ["roll", "r"] then .roll (if rest.isEmpty then "d" else rest)
  else if word = "range" then .range rest
  else if word ∈ ["choose", "c"] then .choose rest
  else if word ∈ ["list", "ls"] then .list
  else if word = "dice" then .dice
  else if word = "load" then
    if rest.isEmpty then .loadNothing else .load rest
  else if word = "seed" then
    if rest.isEmpty then .showSeed else ofSeed rest
  else .expand line

def path? : Command → Option String
  | .load path => some path
  | _ => none

end Command

namespace Shell

def helpLines : List String := [
  "Commands:",
  "  table <name>      Expand a table (or dice/range/literal)",
  "  text <template>   Substitute [references] in free text",
  "  roll <dice>       Roll dice, e.g. 3d6+2, 4dF",
  "  range <spec>      Roll a range, e.g. 1-100, 1>>>20",
  "  choose <a, b, c>  Pick one item from a list",
  "  list              List top-level tables",
  "  dice              List custom dice",
  "  load <path>       Load another table file",
  "  seed <n>          Restart the random sequence",
  "  help              Show this help",
  "  quit              Exit"]

def tableLines (engine : Engine) : List String :=
  if engine.tables.visibleNames.isEmpty then ["  (no tables loaded)"]
  else engine.tables.visibleNames.map fun name => s!"  {name}"

def diceLines (engine : Engine) : List String :=
  engine.dice.dice.toList.map fun (name, die) =>
    let labels := " ".intercalate (die.faces.map Face.label)
    s!"  {name}: {labels}"

def seedText (engine : Engine) : String :=
  match engine.seed with
  | some seed => toString seed.toNat
  | none => "random"

def errorLine (error : EngineError) : String :=
  s!"ERROR: {error.message}"

def resultLine {α : Type} (render : α → String) : Except EngineError α → String
  | .ok value => render value
  | .error error => errorLine error

def perform (disk : Disk) : Command → Engine.Request (List String)
  | .quit => pure []
  | .help => pure helpLines
  | .expand name => do
      let result ← Engine.expand name none
      pure [resultLine id result]
  | .expandNothing => do
      let engine ← get
      pure ("Usage: table <name>" :: tableLines engine)
  | .text template => do
      let result ← Engine.expandText template
      pure [resultLine id result]
  | .roll spec => do
      let result ← Engine.rollDice spec
      pure [resultLine (fun roll => s!"{roll.spec.text}: {roll.description}") result]
  | .range spec => do
      let result ← Engine.rollRange spec
      pure [resultLine Range.Roll.description result]
  | .choose list => do
      let picked ← Engine.chooseFromList list
      pure [picked.getD "Usage: choose <a, b, c>"]
  | .list => do
      let engine ← get
      pure (tableLines engine)
  | .dice => do
      let engine ← get
      pure (diceLines engine)
  | .load path => do
      let result ← Engine.loadFile disk path
      pure [resultLine (fun count => s!"Loaded {count} tables from {path}") result]
  | .loadNothing => pure ["Usage: load <path>"]
  | .showSeed => do
      let engine ← get
      pure [s!"Current seed: {seedText engine}"]
  | .reseed seed => do
      Engine.reseed seed
      pure [s!"Seed set to {seed.toNat}"]
  | .badSeed text => pure [s!"Invalid seed: {text}"]

def printed (lines : List String) : String :=
  String.join (lines.map (· ++ "\n"))

/-- What one line gets: the printed text, and whether the shell goes on. -/
structure Reply where
  output : String
  goesOn : Bool
deriving DecidableEq

def run (disk : Disk) (line : String) : Engine.Request Reply := do
  let lines ← perform disk (Command.parse line)
  pure ⟨printed lines, Command.parse line ≠ .quit⟩

/-! A session greets, then prompts for one line after another until a line ends it. -/

def greeting (engine : Engine) : String :=
  printed [s!"Loaded {engine.tables.size} tables", s!"Seed: {seedText engine}",
    "Type 'help' for commands.", ""]

def prompt : String := "tables> "

/-- The reply to a line as it was typed. A blank line is passed over. -/
def answer (disk : Disk) (line : String) : Engine.Request Reply :=
  let line := String.ofList (Text.trim line.toList)
  if line.isEmpty then
    pure ⟨"", true⟩
  else do
    let reply ← run disk line
    if reply.goesOn then pure reply
    else pure ⟨reply.output ++ printed ["Goodbye."], false⟩

def converse (disk : Disk) : List String → Engine.Request String
  | [] => pure prompt
  | line :: rest => do
      let reply ← answer disk line
      if reply.goesOn then
        let later ← converse disk rest
        pure (prompt ++ reply.output ++ later)
      else
        pure (prompt ++ reply.output)

/-- The lines that are typed; nothing after the last line end is no line. -/
def typedLines (input : String) : List String :=
  let lines := input.toList.splitOn '\n'
  (if lines.getLast? = some [] then lines.dropLast else lines).map String.ofList

def session (disk : Disk) (input : String) : Engine.Request String := do
  let engine ← get
  let output ← converse disk (typedLines input)
  pure (greeting engine ++ output)

end Shell

end RandomTables
