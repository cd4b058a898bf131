import RandomTables.CommandLine

/-!
The program: `shell` and `lint`, each followed by the words of its command line. Only the files that
a command line or a command names are read.
-/

namespace RandomTables.Main

def readPlace (path : String) : IO FileTree := do
  let place := (← IO.currentDir) / path
  if ← place.isDir then
    let entries ← place.readDir
    let trees ← entries.toList.mapM fun entry => do
      if ← entry.path.isDir then
        pure (entry.fileName, FileTree.directory [])
      else
        pure (entry.fileName, FileTree.file (← IO.FS.readBinFile entry.path))
    pure (.directory trees)
  else
    pure (.file (← IO.FS.readBinFile place))

def observe (path : String) : IO (String × Except FileError FileTree) := do
  try
    let place ← readPlace path
    pure (path, .ok place)
  catch error =>
    match error with
    | .inappropriateType .. => pure (path, .error .notDirectory)
    | _ => pure (path, .error .notFound)

def diskAt (paths : List String) : IO Disk := do
  let places ← (paths.filter (!·.isEmpty)).mapM observe
  pure fun path => (places.lookup path).getD (.error .notFound)

def finish (outcome : CommandLine.Outcome) : IO UInt32 := do
  (← IO.getStdout).putStr outcome.output
  (← IO.getStderr).putStr outcome.errors
  pure outcome.status.toUInt32

/-- An engine without a seed starts anywhere. -/
def start (engine : Engine) : IO Engine := do
  match engine.seed with
  | some _ => pure engine
  | none =>
      let seed ← IO.rand 0 Seeded.mostSeed
      pure { engine with source := Seeded.ofSeed (UInt64.ofNat seed) }

def reply (engine : Engine) (line : String)
    (request : Disk → String → Engine.Request Shell.Reply) : IO (Shell.Reply × Engine) := do
  let trimmed := String.ofList (Text.trim line.toList)
  let disk ← diskAt (Command.parse trimmed).path?.toList
  match request disk line engine with
  | .ok answer => pure answer
  | .error _ => throw (IO.userError "a draw has no result")

partial def converse (engine : Engine) : IO Unit := do
  let output ← IO.getStdout
  output.putStr Shell.prompt
  output.flush
  let line ← (← IO.getStdin).getLine
  if line.isEmpty then
    pure ()
  else
    let (reply, engine) ← reply engine line Shell.answer
    output.putStr reply.output
    if reply.goesOn then converse engine

def shell (words : List String) : IO UInt32 := do
  match CommandLine.readShell words with
  | .misuse => finish CommandLine.misused
  | .help => finish ⟨CommandLine.shellHelp, "", 0⟩
  | .run options =>
      let disk ← diskAt (options.tables ++ options.settings.toList)
      match options.build disk with
      | .error error => finish (CommandLine.failure "" (Shell.errorLine error))
      | .ok engine =>
          let engine ← start engine
          let output ← IO.getStdout
          if options.command.isEmpty then
            output.putStr (Shell.greeting engine)
            converse engine
          else
            let (reply, _) ← reply engine (" ".intercalate options.command) Shell.run
            output.putStr reply.output
          pure 0

def lint (words : List String) : IO UInt32 := do
  match CommandLine.readLint words with
  | .misuse => finish CommandLine.misused
  | .help => finish ⟨CommandLine.lintHelp, "", 0⟩
  | .run options =>
      let disk ← diskAt (options.paths ++ options.settings.toList)
      finish (CommandLine.lintPaths disk options)

end RandomTables.Main

def main (args : List String) : IO UInt32 := do
  match args with
  | "shell" :: words => RandomTables.Main.shell words
  | "lint" :: words => RandomTables.Main.lint words
  | _ => RandomTables.Main.finish RandomTables.CommandLine.misused
