import RandomTables.Text.Cut

/-!
Files and directories, and what stands at a path. A path is a text with slashes between its parts.
What a file holds may be any bytes, but every name is taken to be a text: table files whose names
are other bytes, at which the load of their directory would end, are beyond this description.
-/

namespace RandomTables

inductive FileError where
  | notFound
  | notDirectory
  | isDirectory
  | invalidText
deriving DecidableEq

def FileError.message : FileError → String
  | .notFound => "No such file or directory (os error 2)"
  | .notDirectory => "Not a directory (os error 20)"
  | .isDirectory => "Is a directory (os error 21)"
  | .invalidText => "stream did not contain valid UTF-8"

inductive FileTree where
  | file (bytes : ByteArray)
  /-- The entries may be in any order. -/
  | directory (entries : List (String × FileTree))

/-- What stands at each path, or why nothing can be had from it. -/
abbrev Disk := String → Except FileError FileTree

namespace FileTree

def isFile : FileTree → Bool
  | .file _ => true
  | .directory _ => false

def text : FileTree → Except FileError String
  | .file bytes =>
      match String.fromUTF8? bytes with
      | some text => .ok text
      | none => .error .invalidText
  | .directory _ => .error .isDirectory

def entries : FileTree → Except FileError (List (String × FileTree))
  | .file _ => .error .notDirectory
  | .directory entries => .ok entries

/-- Follows the parts of a path. `above` are the directories around the present place, the nearest
first; there is nothing above the root. -/
def follow (above : List FileTree) (place : FileTree) : List String → Except FileError FileTree
  | [] => .ok place
  | part :: rest =>
      match place with
      | .file _ => .error .notDirectory
      | .directory entries =>
          if part = "" ∨ part = "." then follow above place rest
          else if part = ".." then
            match above with
            | [] => follow [] place rest
            | parent :: above => follow above parent rest
          else
            match entries.lookup part with
            | some inner => follow (place :: above) inner rest
            | none => .error .notFound

def disk (root : FileTree) (workingDirectory : List String) : Disk := fun path =>
  if path.isEmpty then .error .notFound
  else
    let parts := (path.toList.splitOn '/').map String.ofList
    if path.toList.head? = some '/' then follow [] root parts
    else follow [] root (workingDirectory ++ parts)

end FileTree

namespace Path

/-- The last part of a path, unless it leads upwards. -/
def fileName? (path : String) : Option String :=
  let parts := (path.toList.splitOn '/').map String.ofList |>.filter fun part =>
    part ≠ "" ∧ part ≠ "."
  match parts.getLast? with
  | some ".." => none
  | last => last

/-- A file name without what follows its last dot. A dot in front does not count. -/
def stem (name : String) : String :=
  match Text.cutLast? '.' name.toList with
  | some ([], _) => name
  | some (before, _) => String.ofList before
  | none => name

def extension? (name : String) : Option String :=
  match Text.cutLast? '.' name.toList with
  | some ([], _) => none
  | some (_, after) => some (String.ofList after)
  | none => none

end Path

end RandomTables
