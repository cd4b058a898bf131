import RandomTables.Text.Decimal

/-!
The words, numbers, quoted texts and marks of which settings are written. Between them may stand
spaces, tabs, line ends, comments from `//` to the end of the line, and comments between `/*` and
`*/`, which may be nested.
-/

namespace RandomTables.Settings

inductive Lexeme where
  | word (name : String)
  /-- A word after `r#`. It is always a name. -/
  | rawWord (name : String)
  /-- A whole number that fits in a word of 64 bits; `negative` is given if a sign is written. -/
  | integer (negative : Option Bool) (size : Nat)
  | fraction
  | quoted (content : String)
  | letter
  | unit
  | mark (c : Char)
deriving DecidableEq

namespace Lexeme

def isWordStart (c : Char) : Bool := c.isAlpha || c == '_'

def isWordChar (c : Char) : Bool := c.isAlphanum || c == '_'

/-- A word after `r#` may hold these as well. -/
def isRawWordChar (c : Char) : Bool := isWordChar c || c == '.' || c == '+' || c == '-'

def hexValue? (c : Char) : Option Nat :=
  if c.isDigit then some (c.toNat - '0'.toNat)
  else if 'a' ≤ c ∧ c ≤ 'f' then some (c.toNat - 'a'.toNat + 10)
  else if 'A' ≤ c ∧ c ≤ 'F' then some (c.toNat - 'A'.toNat + 10)
  else none

def isIntegerChar (c : Char) : Bool := (hexValue? c).isSome || c == '_'

def isFractionChar (c : Char) : Bool :=
  c.isDigit || c == 'e' || c == 'E' || c == '.' || c == '+' || c == '-' || c == '_'

/-- The number that digits of the given base denote; underscores between them do not count. -/
def digitsValue? (base : Nat) (digits : List Char) : Option Nat :=
  if digits.head?.all (· == '_') then none
  else (digits.filter (· != '_')).foldlM (fun value c =>
    match hexValue? c with
    | some digit => if digit < base then some (base * value + digit) else none
    | none => none) 0

/-- The base that a number is written in, and its digits with what follows them. -/
def splitBase : List Char → Nat × List Char
  | '0' :: 'x' :: rest => (16, rest)
  | '0' :: 'b' :: rest => (2, rest)
  | '0' :: 'o' :: rest => (8, rest)
  | text => (10, text)

def dropSign : List Char → Option Bool × List Char
  | '+' :: rest => (some false, rest)
  | '-' :: rest => (some true, rest)
  | text => (none, text)

def isExponent : List Char → Bool
  | c :: rest => (c == 'e' || c == 'E') && Text.isDigits (dropSign rest).2
  | [] => true

/-- Whether a text is a decimal fraction: digits, of which some may stand after a point, and perhaps
an exponent. -/
def isFraction (text : List Char) : Bool :=
  let text := (dropSign text).2
  let whole := text.takeWhile Char.isDigit
  match text.dropWhile Char.isDigit with
  | '.' :: rest =>
      (!whole.isEmpty || (rest.head?.any Char.isDigit)) && isExponent (rest.dropWhile Char.isDigit)
  | rest => !whole.isEmpty && isExponent rest

def mostUnsigned : Nat := 18446744073709551615

/-- The largest signed word of 64 bits; the least one lies one further from zero. -/
def mostSigned : Nat := 9223372036854775807

def fitsWord (negative : Option Bool) (size : Nat) : Bool :=
  match negative with
  | none => size ≤ mostUnsigned
  | some true => size ≤ mostSigned + 1
  | some false => size ≤ mostSigned

def integer? (text : List Char) : Option (Lexeme × List Char) := do
  let (negative, unsigned) := dropSign text
  let (base, digits) := splitBase unsigned
  let size ← digitsValue? base (digits.takeWhile isIntegerChar)
  if fitsWord negative size then
    pure (.integer negative size, digits.dropWhile isIntegerChar)
  else none

def fraction? (text : List Char) : Option (Lexeme × List Char) :=
  if isFraction (text.takeWhile isFractionChar) then
    some (.fraction, text.dropWhile isFractionChar)
  else none

def namedNumbers : List String := ["inf", "NaN"]

def signedName? (text : List Char) : Option (Lexeme × List Char) :=
  match dropSign text with
  | (some _, name) =>
      if namedNumbers.contains (String.ofList (name.takeWhile isWordChar)) then
        some (.fraction, name.dropWhile isWordChar)
      else none
  | (none, _) => none

/-- A number at the start of a text, and what follows it. A whole number with an exponent, or one
that does not fit in a word, is read as a fraction. -/
def number? (text : List Char) : Option (Lexeme × List Char) :=
  let unsigned := (dropSign text).2
  if (unsigned.takeWhile isIntegerChar).length < (unsigned.takeWhile isFractionChar).length then
    fraction? text
  else
    signedName? text <|> integer? text <|> fraction? text

def charOfCode? (code : Nat) : Option Char :=
  if code.isValidChar then some (Char.ofNat code) else none

/-- The character that an escape stands for, after the backslash, and what follows it. -/
def escape? : List Char → Option (Char × List Char)
  | '\x27' :: rest => some ('\x27', rest)
  | '\x22' :: rest => some ('\x22', rest)
  | '\\' :: rest => some ('\\', rest)
  | 'n' :: rest => some ('\n', rest)
  | 'r' :: rest => some ('\r', rest)
  | 't' :: rest => some ('\t', rest)
  | '0' :: rest => some ('\x00', rest)
  | 'x' :: high :: low :: rest => do
      let high ← hexValue? high
      let low ← hexValue? low
      pure (Char.ofNat (16 * high + low), rest)
  | 'u' :: '\x7b' :: rest =>
      let digits := rest.takeWhile (· != '\x7d')
      if digits.isEmpty || 6 < digits.length then none
      else do
        let code ← digits.foldlM (fun value c => (hexValue? c).map (16 * value + ·)) 0
        let c ← charOfCode? code
        pure (c, (rest.dropWhile (· != '\x7d')).tail)
  | _ => none

/-- The content of a quoted text after its opening quote, and what follows the closing one. -/
def quoted? : Nat → List Char → Option (List Char × List Char)
  | 0, _ => none
  | _, [] => none
  | fuel + 1, c :: rest =>
      if c = '\x22' then some ([], rest)
      else if c = '\\' then do
        let (c, rest) ← escape? rest
        let (content, rest) ← quoted? fuel rest
        pure (c :: content, rest)
      else do
        let (content, rest) ← quoted? fuel rest
        pure (c :: content, rest)

/-- The content of a raw text up to `ending`, and what follows it. -/
def untilEnding? (ending : List Char) : List Char → Option (List Char × List Char)
  | [] => none
  | c :: rest =>
      if ending.isPrefixOf (c :: rest) then some ([], (c :: rest).drop ending.length)
      else (untilEnding? ending rest).map fun (content, rest) => (c :: content, rest)

/-- A raw text after its `r`: quotes with as many `#` on either side. -/
def raw? (text : List Char) : Option (Lexeme × List Char) :=
  let marks := text.takeWhile (· == '#')
  match text.dropWhile (· == '#') with
  | '\x22' :: rest =>
      (untilEnding? ('\x22' :: marks) rest).map fun (content, rest) =>
        (.quoted (String.ofList content), rest)
  | _ => none

/-- The word in front of a value that is there, where one may be missing. -/
def presence : String := "Some"

/-- A word that is not directly followed by a character that only raw words hold. After `presence`
such a character may start a number. -/
def word? (text : List Char) : Option (Lexeme × List Char) :=
  let name := String.ofList (text.takeWhile isWordChar)
  let rest := text.dropWhile isWordChar
  if rest.head?.any isRawWordChar && name != presence then none
  else some (.word name, rest)

def letter? : List Char → Option (Lexeme × List Char)
  | '\\' :: rest =>
      match escape? rest with
      | some (_, '\x27' :: rest) => some (.letter, rest)
      | _ => none
  | c :: '\x27' :: rest => if c = '\x27' then none else some (.letter, rest)
  | _ => none

/-- What follows a comment between `/*` and `*/`, after `depth` openings. -/
def afterComment? : Nat → List Char → Option (List Char)
  | depth, '/' :: '*' :: rest => afterComment? (depth + 1) rest
  | 0, rest => some rest
  | 1, '*' :: '/' :: rest => some rest
  | depth + 2, '*' :: '/' :: rest => afterComment? (depth + 1) rest
  | depth + 1, _ :: rest => afterComment? (depth + 1) rest
  | _ + 1, [] => none

def isMark (c : Char) : Bool :=
  ['(', ')', '[', ']', '\x7b', '\x7d', ',', ':', '#', '!'].contains c

def next? : List Char → Option (Lexeme × List Char)
  | [] => none
  | '\x22' :: rest =>
      (quoted? (rest.length + 1) rest).map fun (content, rest) =>
        (.quoted (String.ofList content), rest)
  | '\x27' :: rest => letter? rest
  | '(' :: ')' :: rest => some (.unit, rest)
  | 'r' :: '\x22' :: rest => raw? ('\x22' :: rest)
  | 'r' :: '#' :: rest =>
      if rest.head?.any isRawWordChar then
        some (.rawWord (String.ofList (rest.takeWhile isRawWordChar)), rest.dropWhile isRawWordChar)
      else raw? ('#' :: rest)
  | c :: rest =>
      if isWordStart c then word? (c :: rest)
      else if c.isDigit || c == '+' || c == '-' || c == '.' then number? (c :: rest)
      else if isMark c then some (.mark c, rest)
      else none

def isSpace (c : Char) : Bool := c == ' ' || c == '\t' || c == '\n' || c == '\r'

def ofText? : Nat → List Char → Option (List Lexeme)
  | _, [] => some []
  | 0, _ => none
  | fuel + 1, '/' :: '/' :: rest => ofText? fuel (rest.dropWhile (· != '\n'))
  | fuel + 1, '/' :: '*' :: rest => do
      let rest ← afterComment? 1 rest
      ofText? fuel rest
  | fuel + 1, c :: rest =>
      if isSpace c then ofText? fuel rest
      else do
        let (lexeme, rest) ← next? (c :: rest)
        let lexemes ← ofText? fuel rest
        pure (lexeme :: lexemes)

end Lexeme

end RandomTables.Settings
