/-!
Runs of decimal digits and the numbers they denote. Only the ten ASCII digits count.
-/

namespace RandomTables.Text

def decimal (digits : List Char) : Nat :=
  Nat.ofDigitChars 10 digits 0

def isDigits (text : List Char) : Bool :=
  !text.isEmpty && text.all Char.isDigit

/-- An unsigned decimal not above `most`; a plus sign may stand in front. -/
def natural? (most : Nat) (text : List Char) : Option Nat :=
  let digits := match text with
    | '+' :: rest => rest
    | _ => text
  if isDigits digits && decimal digits ≤ most then some (decimal digits) else none

def signed (n : Int) : String :=
  if n < 0 then s!"-{n.natAbs}" else s!"+{n.natAbs}"

end RandomTables.Text
