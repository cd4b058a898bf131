import RandomTables.Dice.Spec
import RandomTables.Settings
import RandomTables.Settings.Lexeme

/-!
Settings as text:

    EngineConfig(
        default_faces: Numeric(20),
        max_depth: 32,
        custom_dice: \x7b
            "coin": [(0, "tails"), (1, "heads")],
        \x7d,
    )

The name in front and every field may be left out, and fields that are not known are passed over.
-/

namespace RandomTables.Settings

/-- Reads the front of a sequence of lexemes and leaves the rest. -/
abbrev Reader := StateT (List Lexeme) Option

namespace Reader

def next : Reader Lexeme := fun lexemes =>
  match lexemes with
  | first :: rest => some (first, rest)
  | [] => none

/-- Passes over the mark `c` if it comes next. Of empty parentheses the closing one stays. -/
def accept (c : Char) : Reader Bool := fun lexemes =>
  match lexemes with
  | .mark d :: rest => if d = c then some (true, rest) else some (false, lexemes)
  | .unit :: rest => if c = '(' then some (true, .mark ')' :: rest) else some (false, lexemes)
  | _ => some (false, lexemes)

def expect (c : Char) : Reader Unit := do
  if ← accept c then pure () else failure

def word : Reader String := do
  match ← next with
  | .word name => pure name
  | .rawWord name => pure name
  | _ => failure

def quoted : Reader String := do
  match ← next with
  | .quoted content => pure content
  | _ => failure

def unsigned (most : Nat) : Reader Nat := do
  match ← next with
  | .integer none size => if size ≤ most then pure size else failure
  | _ => failure

def signed : Reader Int := do
  match ← next with
  | .integer negative size =>
      if Lexeme.fitsWord (some (negative = some true)) size then
        pure (if negative = some true then -(size : Int) else size)
      else failure
  | _ => failure

/-- Items with commas between them, and perhaps one after the last, up to the mark `close`. -/
def items {α : Type} (close : Char) (item : Reader α) : Nat → Reader (List α)
  | 0 => failure
  | fuel + 1 => do
      if ← accept close then
        pure []
      else
        let first ← item
        if ← accept ',' then
          let rest ← items close item fuel
          pure (first :: rest)
        else
          expect close
          pure [first]

/-- There are never more items than lexemes. -/
def itemsUntil {α : Type} (close : Char) (item : Reader α) : Reader (List α) := do
  let lexemes ← get
  items close item (lexemes.length + 1)

def closed {α : Type} (item : Reader α) : Reader α := do
  let value ← item
  let _ ← accept ','
  expect ')'
  pure value

def single {α : Type} (item : Reader α) : Reader α := do
  expect '('
  closed item

def pair {α β : Type} (left : Reader α) (between : Char) (right : Reader β) : Reader (α × β) := do
  let left ← left
  expect between
  let right ← right
  pure (left, right)

def constants : List String := ["true", "false", "None"] ++ Lexeme.namedNumbers

/-- Whether a name and a colon come next. -/
def atField : Reader Bool := fun lexemes =>
  match lexemes with
  | .word _ :: .mark c :: _ => some (c == ':', lexemes)
  | .rawWord _ :: .mark c :: _ => some (c == ':', lexemes)
  | _ => some (false, lexemes)

/-- Passes over a group after its opening mark, if groups may stand here: items, named items, or
pairs of items. -/
def skipGroup (item : Option (Reader Unit)) (opening : Char) : Reader Unit := do
  match item, opening with
  | some item, '(' =>
      if ← atField then
        let _ ← itemsUntil ')' (pair word ':' item)
      else
        let _ ← itemsUntil ')' item
  | some item, '[' => let _ ← itemsUntil ']' item
  | some item, '\x7b' => let _ ← itemsUntil '\x7d' (pair item ':' item)
  | _, _ => failure

/-- Passes over what follows `Lexeme.presence`: a value in parentheses, which an extension allows to
leave out. -/
def skipPresent (bare : Bool) (value : Reader Unit) : Reader Unit := do
  if ← accept '(' then closed value
  else if bare then value
  else failure

def skipNamed (item : Option (Reader Unit)) : Reader Unit := do
  if ← accept '(' then skipGroup item '(' else pure ()

/-- Passes over a value of any form, with `present` for a value after `Lexeme.presence` and `item`
for one in a group. -/
def skipForm (bare : Bool) (present : Reader Unit) (item : Option (Reader Unit)) :
    Reader Unit := do
  match ← next with
  | .word name =>
      if constants.contains name then pure ()
      else if name == Lexeme.presence then skipPresent bare present
      else skipNamed item
  | .rawWord _ => skipNamed item
  | .integer _ _ => pure ()
  | .fraction => pure ()
  | .quoted _ => pure ()
  | .letter => pure ()
  | .unit => pure ()
  | .mark c => skipGroup item c

/-- Passes over a value. There is room for so many steps inwards: one into a value after
`Lexeme.presence`, one into a group, and one more to an item of the group. -/
def skipValue (bare : Bool) : Nat → Reader Unit
  | 0 => skipForm bare failure none
  | 1 => skipForm bare (skipValue bare 0) (some failure)
  | room + 2 => skipForm bare (skipValue bare (room + 1)) (some (skipValue bare room))

/-- The room in the value of a field. Of 128 steps in all, two lead to that value. -/
def valueRoom : Nat := 126

def faces : Reader Faces := do
  match ← word with
  | "Numeric" => Faces.numbered <$> single (unsigned Dice.mostFaces)
  | "Named" => Faces.named <$> single quoted
  | _ => failure

def face : Reader Face := do
  let (value, label) ← single (pair signed ',' quoted)
  pure ⟨value, label⟩

def customDie : Reader (String × List Face) :=
  pair quoted ':' do
    expect '['
    itemsUntil ']' face

/-- Of two dice with the same name the later one counts. -/
def customDice : Reader (Std.ExtTreeMap String (List Face)) := do
  expect '\x7b'
  let dice ← itemsUntil '\x7d' customDie
  pure (dice.foldl (fun dice (name, faces) => dice.insert name faces) ∅)

inductive Field where
  | standardFaces (faces : Faces)
  | maxDepth (depth : Nat)
  | customDice (dice : Std.ExtTreeMap String (List Face))
  | unknown

def Field.name? : Field → Option String
  | .standardFaces _ => some "default_faces"
  | .maxDepth _ => some "max_depth"
  | .customDice _ => some "custom_dice"
  | .unknown => none

def field (bare : Bool) : Reader Field := do
  let name ← word
  expect ':'
  match name with
  | "default_faces" => Field.standardFaces <$> faces
  | "max_depth" => Field.maxDepth <$> unsigned Lexeme.mostUnsigned
  | "custom_dice" => Field.customDice <$> customDice
  | _ =>
      skipValue bare valueRoom
      pure .unknown

def Field.set (settings : Settings) : Field → Settings
  | .standardFaces faces => { settings with standardFaces := faces }
  | .maxDepth depth => { settings with maxDepth := depth }
  | .customDice dice => { settings with customDice := dice }
  | .unknown => settings

/-- The extension that lets parentheses after `Lexeme.presence` be left out. -/
def bareValues : String := "implicit_some"

def extensions : List String := ["unwrap_newtypes", bareValues, "unwrap_variant_newtypes"]

/-- The extensions of the form that the headers switch on. -/
def headers : Nat → Reader (List String)
  | 0 => failure
  | fuel + 1 => do
      if ← accept '#' then
        expect '!'
        expect '['
        if (← next) = .word "enable" then
          expect '('
          let names ← itemsUntil ')' word
          expect ']'
          if !names.isEmpty && names.all extensions.contains then
            return names ++ (← headers fuel)
          else failure
        else failure
      else pure []

def settingsName : String := "EngineConfig"

def skipOpening : Reader Unit := do
  if ← accept '(' then pure ()
  else if (← word) == settingsName then expect '('
  else failure

/-- The whole text of settings. A field may be given once. -/
def settings : Reader Settings := do
  let lexemes ← get
  let enabled ← headers (lexemes.length + 1)
  skipOpening
  let fields ← itemsUntil ')' (field (enabled.contains bareValues))
  if (fields.filterMap Field.name?).eraseDups.length < (fields.filterMap Field.name?).length then
    failure
  else
    pure (fields.foldl Field.set Settings.standard)

end Reader

def parse (text : String) : Except SettingsError Settings :=
  match Lexeme.ofText? text.toList.length text.toList with
  | none => .error .malformed
  | some lexemes =>
      match Reader.settings lexemes with
      | some (settings, []) => settings.check.map fun () => settings
      | _ => .error .malformed

def load (disk : Disk) (path : String) : Except SettingsError Settings :=
  match disk path >>= FileTree.text with
  | .ok text => parse text
  | .error error => .error (.file error)

end RandomTables.Settings
