import RandomTables.Engine.Setup
import RandomTables.Lint
import RandomTables.Report
import RandomTables.Shell

/-!
The command lines of the two tools: the shell, and the linter of table files. Options start with two
dashes and may have their value in the next word or after an equals sign; two dashes alone end the
options.
-/

namespace RandomTables.CommandLine

/-- What a tool leaves behind: its two outputs and its exit status. -/
structure Outcome where
  output : String
  errors : String
  status : Nat
deriving DecidableEq

inductive Usage (α : Type) where
  | run (value : α)
  | help
  | misuse

/-- A word of a command line before the options end. -/
inductive Word where
  | endOfOptions
  /-- An option with the value after its equals sign, if there is one. -/
  | option (name : String) (value : Option String)
  | short (letters : List Char)
  | plain (text : String)
deriving DecidableEq

def Word.ofText (text : String) : Word :=
  match text.toList with
  | ['-', '-'] => .endOfOptions
  | '-' :: '-' :: name =>
      match Text.cutFirst? (· == '=') name with
      | some (name, value) => .option (String.ofList name) (some (String.ofList value))
      | none => .option (String.ofList name) none
  | ['-'] => .plain text
  | '-' :: letters => .short letters
  | _ => .plain text

/-- The value of an option, and the words after it. A word that looks like an option is no value. -/
def takeValue? (attached : Option String) (rest : List String) : Option (String × List String) :=
  match attached, rest with
  | some value, rest => some (value, rest)
  | none, [] => none
  | none, word :: rest =>
      match Word.ofText word with
      | .plain value => some (value, rest)
      | _ => none

theorem length_le_of_takeValue? {attached : Option String} {words rest : List String}
    {value : String} (h : takeValue? attached words = some (value, rest)) :
    rest.length ≤ words.length := by
  unfold takeValue? at h
  split at h
  · simp_all
  · simp at h
  · split at h
    · simp_all
    · simp at h

structure Grammar where
  flags : List String
  valued : List String
  /-- Whether the first word that is no option ends the options. -/
  wordEndsOptions : Bool

inductive Item where
  | flag (name : String)
  | valued (name value : String)
  | word (text : String)
deriving DecidableEq

inductive Ending where
  | complete
  | help
  | misuse
deriving DecidableEq

/-- The items of a command line up to the word that ends the reading, and how it ends. -/
def readItems (grammar : Grammar) : List String → List Item × Ending
  | [] => ([], .complete)
  | word :: words =>
      match Word.ofText word with
      | .endOfOptions => (words.map .word, .complete)
      | .plain text =>
          if grammar.wordEndsOptions then ((text :: words).map .word, .complete)
          else
            let (items, ending) := readItems grammar words
            (.word text :: items, ending)
      | .short letters => ([], if letters.head? = some 'h' then .help else .misuse)
      | .option name attached =>
          if grammar.valued.contains name then
            match _h : takeValue? attached words with
            | some (value, rest) =>
                let (items, ending) := readItems grammar rest
                (.valued name value :: items, ending)
            | none => ([], .misuse)
          else if attached.isSome then ([], .misuse)
          else if grammar.flags.contains name then
            let (items, ending) := readItems grammar words
            (.flag name :: items, ending)
          else ([], if name = "help" then .help else .misuse)
termination_by words => words.length
decreasing_by
  · simp
  · exact Nat.lt_succ_of_le (length_le_of_takeValue? _h)
  · simp

/-- Takes a command line: help is given if the items before the word that asks for it make sense,
and a complete line is run if it is also `enough`. -/
def take {α : Type} (grammar : Grammar) (ofItems? : List Item → Option α) (enough : α → Bool)
    (words : List String) : Usage α :=
  let (items, ending) := readItems grammar words
  match ofItems? items, ending with
  | some options, .complete => if enough options then .run options else .misuse
  | some _, .help => .help
  | _, _ => .misuse

namespace Item

def word? : Item → Option String
  | word text => some text
  | _ => none

def valueOf? (option : String) : Item → Option String
  | valued name value => if name = option then some value else none
  | _ => none

end Item

def words (items : List Item) : List String :=
  items.filterMap Item.word?

def values (items : List Item) (option : String) : List String :=
  items.filterMap (Item.valueOf? option)

/-- What an option that may be given once stands for, if it is given and `read` can make sense of
its value. -/
def single? {α : Type} (items : List Item) (option : String) (read : String → Option α) :
    Option (Option α) :=
  match values items option with
  | [] => some none
  | [value] => (read value).map some
  | _ => none

def readPath (text : String) : Option String :=
  if text.isEmpty then none else some text

structure ShellOptions where
  tables : List String
  settings : Option String
  seed : Option UInt64
  builtin : Bool
  command : List String

def shellGrammar : Grammar where
  flags := ["no-builtin"]
  valued := ["tables", "config", "seed"]
  wordEndsOptions := true

def ShellOptions.ofItems? (items : List Item) : Option ShellOptions := do
  let tables ← (values items "tables").mapM readPath
  let settings ← single? items "config" readPath
  let seed ← single? items "seed" Seeded.readSeed?
  let bare := items.count (.flag "no-builtin")
  if bare ≤ 1 then
    pure { tables, settings, seed, builtin := bare = 0, command := words items }
  else none

def readShell : List String → Usage ShellOptions :=
  take shellGrammar ShellOptions.ofItems? fun _ => true

structure LintOptions where
  paths : List String
  settings : Option String

def lintGrammar : Grammar where
  flags := []
  valued := ["config"]
  wordEndsOptions := false

def LintOptions.ofItems? (items : List Item) : Option LintOptions := do
  let paths ← (words items).mapM readPath
  let settings ← single? items "config" readPath
  pure { paths, settings }

def readLint : List String → Usage LintOptions :=
  take lintGrammar LintOptions.ofItems? fun options => !options.paths.isEmpty

def isDirectory (disk : Disk) (path : String) : Bool :=
  match disk path with
  | .ok place => !place.isFile
  | .error _ => false

namespace ShellOptions

def setup (options : ShellOptions) (disk : Disk) : Setup where
  builtinTables := options.builtin
  seed := options.seed
  settingsFile := options.settings
  directories := options.tables.filter (isDirectory disk)
  files := options.tables.filter (!isDirectory disk ·)

def build (options : ShellOptions) (disk : Disk) : Except EngineError Engine :=
  (options.setup disk).build disk

end ShellOptions

def failure (output message : String) : Outcome :=
  ⟨output, message ++ "\n", 1⟩

def misused : Outcome := ⟨"", "error: see --help for the usage\n", 2⟩

def shellHelp : String :=
  "Usage: table_shell [--tables <PATH>]... [--config <FILE>] [--seed <N>] [--no-builtin] [COMMAND]...\n"

def lintHelp : String := "Usage: table_linter [--config <FILE>] <PATH>...\n"

/-- A command on the line is run alone; without one there is a session. -/
def runShell (disk : Disk) (words : List String) (input : String) : Except DrawFault Outcome :=
  match readShell words with
  | .misuse => .ok misused
  | .help => .ok ⟨shellHelp, "", 0⟩
  | .run options =>
      match options.build disk with
      | .error error => .ok (failure "" s!"ERROR: {error.message}")
      | .ok engine => do
          let (output, _) ←
            if options.command.isEmpty then
              (Shell.session disk input).run engine
            else
              (Shell.Reply.output <$> Shell.run disk (" ".intercalate options.command)).run engine
          pure ⟨output, "", 0⟩

/-- Loads one path of the linter: the tables after it, and the line that is printed. -/
def loadPath (disk : Disk) (store : Store) (path : String) : Except String (Store × String) :=
  let loaded : Except String (Store × Nat) :=
    match disk path with
    | .error _ => .error s!"ERROR: Path '{path}' does not exist"
    | .ok place =>
        let result :=
          if place.isFile then store.loadFile disk path
          else
            let (store, result) := store.loadDirectory disk path
            result.map fun count => (store, count)
        result.mapError fun error => s!"  ERROR loading {path}: {error.message}"
  loaded.map fun (store, count) => (store, s!"  Loaded: {path} ({count} tables)\n")

/-- Loads paths one after another, up to the first that fails: what was printed, and the tables or
the message of the failure. -/
def loadPaths (disk : Disk) (store : Store) : List String → String × Except String Store
  | [] => ("", .ok store)
  | path :: rest =>
      match loadPath disk store path with
      | .error message => ("", .error message)
      | .ok (store, line) =>
          let (output, result) := loadPaths disk store rest
          (line ++ output, result)

def loadLintSettings (disk : Disk) (options : LintOptions) : Except String Settings :=
  match options.settings with
  | none => .ok Settings.standard
  | some path =>
      (Settings.load disk path).mapError fun error =>
        s!"ERROR: Failed to load config: {error.message}"

def lintReport (tables : Store) (dice : Dice.Registry) (settings : Settings) : String × Bool :=
  let expander : Expander := ⟨tables, dice, settings.standardFaces, settings.maxDepth⟩
  let errors := (Lint.errors expander).map Problem.message
  let warnings := (Lint.warnings expander).map Problem.message
  (Report.render tables.size errors warnings, errors.isEmpty)

def lintPaths (disk : Disk) (options : LintOptions) : Outcome :=
  match loadLintSettings disk options with
  | .error message => failure "" message
  | .ok settings =>
      match settings.registerDice Dice.Registry.builtin with
      | .error error => failure "" s!"ERROR: {error.message}"
      | .ok dice =>
          match loadPaths disk Store.empty options.paths with
          | (output, .error message) => failure output message
          | (output, .ok tables) =>
              let (report, clean) := lintReport tables dice settings
              ⟨output ++ report, "", if clean then 0 else 1⟩

def runLint (disk : Disk) (words : List String) : Outcome :=
  match readLint words with
  | .misuse => misused
  | .help => ⟨lintHelp, "", 0⟩
  | .run options => lintPaths disk options

end RandomTables.CommandLine
