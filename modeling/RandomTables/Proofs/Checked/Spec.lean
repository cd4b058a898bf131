import Mathlib.Data.List.TakeWhile
import RandomTables.Dice.Spec
import RandomTables.Proofs.Checked.Machine
import RandomTables.Range.Spec

/-!
Reading specs from texts that are stored as bytes. Places in a text are counted in bytes, and a cut
at a place within a character is a trap; so is a modifier or a limit that does not fit its word. No
text leads to either.
-/

namespace RandomTables.Checked

/-! ### Texts as bytes -/

def bytes (text : List Char) : List UInt8 :=
  text.flatMap String.utf8EncodeChar

/-- What stands before and after a place that is counted in bytes. -/
def splitAt (place : Nat) : List Char → Except Trap (List Char × List Char)
  | [] => if place = 0 then .ok ([], []) else .error .outOfBounds
  | c :: rest =>
      if place = 0 then .ok ([], c :: rest)
      else if place < c.utf8Size then .error .splitCharacter
      else (splitAt (place - c.utf8Size) rest).map fun (before, after) => (c :: before, after)

/-- The place of the first character that is not `kept`, if there is one. -/
def endOf? (kept : Char → Bool) : List Char → Option Nat
  | [] => none
  | c :: rest => if kept c then (endOf? kept rest).map (c.utf8Size + ·) else some 0

variable {text before after : List Char} {kept : Char → Bool} {c : Char}

theorem length_bytes_cons (c : Char) (text : List Char) :
    (bytes (c :: text)).length = c.utf8Size + (bytes text).length := by
  rw [bytes, List.flatMap_cons, List.length_append, String.length_utf8EncodeChar, bytes]

theorem length_bytes_append (before after : List Char) :
    (bytes (before ++ after)).length = (bytes before).length + (bytes after).length := by
  rw [bytes, List.flatMap_append, List.length_append, bytes, bytes]

theorem length_bytes_of_forall_eq (hc : c.utf8Size = 1) (h : ∀ other ∈ text, other = c) :
    (bytes text).length = text.length := by
  induction text with
  | nil => rfl
  | cons other text ih =>
      obtain rfl : other = c := h other List.mem_cons_self
      rw [length_bytes_cons, ih fun d hd => h d (List.mem_cons_of_mem _ hd), hc, List.length_cons,
        Nat.add_comm]

/-- A cut after some characters of a text is a cut between characters. -/
theorem splitAt_length_bytes (before after : List Char) :
    splitAt (bytes before).length (before ++ after) = .ok (before, after) := by
  induction before with
  | nil => cases after <;> rfl
  | cons c before ih =>
      have hpos : 0 < c.utf8Size := Char.utf8Size_pos c
      rw [length_bytes_cons, List.cons_append, splitAt, if_neg (by omega), if_neg (by omega),
        Nat.add_sub_cancel_left, ih, Except.map]

theorem splitAt_takeWhile (kept : Char → Bool) (text : List Char) :
    splitAt (bytes (text.takeWhile kept)).length text =
      .ok (text.takeWhile kept, text.dropWhile kept) := by
  have hsplit := splitAt_length_bytes (text.takeWhile kept) (text.dropWhile kept)
  rwa [List.takeWhile_append_dropWhile] at hsplit

theorem endOf?_eq (kept : Char → Bool) (text : List Char) :
    endOf? kept text =
      if text.dropWhile kept = [] then none else some (bytes (text.takeWhile kept)).length := by
  induction text with
  | nil => rfl
  | cons c text ih =>
      rw [endOf?]
      split
      · next hkept =>
          rw [ih, List.dropWhile_cons_of_pos hkept, List.takeWhile_cons_of_pos hkept,
            length_bytes_cons]
          split <;> rfl
      · next hkept =>
          rw [List.dropWhile_cons_of_neg hkept, List.takeWhile_cons_of_neg hkept]
          rfl

theorem endOf?_getD (kept : Char → Bool) (text : List Char) :
    (endOf? kept text).getD (bytes text).length = (bytes (text.takeWhile kept)).length := by
  rw [endOf?_eq]
  split
  · next hdrop =>
      have hall := @List.takeWhile_append_dropWhile _ kept text
      rw [hdrop, List.append_nil] at hall
      rw [hall]
      rfl
  · rfl

/-- The first byte of a character is the character itself, if either of them is below 128. -/
theorem exists_firstByte (c : Char) (text : List Char) :
    ∃ byte, element (bytes (c :: text)) 0 = .ok byte ∧
      (byte.toNat < 128 ∨ c.toNat < 128 → byte.toNat = c.toNat) := by
  have hval : c.toNat = c.val.toNat := rfl
  rw [bytes, List.flatMap_cons, String.utf8EncodeChar]
  simp only [hval]
  split
  · refine ⟨_, rfl, fun _ => ?_⟩
    simp only [UInt8.toNat_ofNat']
    omega
  · split
    · refine ⟨_, rfl, ?_⟩
      simp only [UInt8.toNat_ofNat']
      omega
    · split
      · refine ⟨_, rfl, ?_⟩
        simp only [UInt8.toNat_ofNat']
        omega
      · refine ⟨_, rfl, ?_⟩
        simp only [UInt8.toNat_ofNat']
        omega

/-- A sign can be told from the first byte of a text. -/
theorem exists_firstByte_eq_iff (c : Char) (text : List Char) :
    ∃ byte, element (bytes (c :: text)) 0 = .ok byte ∧
      ∀ sign : Char, sign.toNat < 128 → (byte = sign.toUInt8 ↔ c = sign) := by
  obtain ⟨byte, hbyte, htoNat⟩ := exists_firstByte c text
  refine ⟨byte, hbyte, fun sign hsign => ?_⟩
  have hword : sign.toUInt8.toNat = sign.toNat := by
    rw [Char.toUInt8, UInt32.toNat_toUInt8]
    exact Nat.mod_eq_of_lt (Nat.lt_trans hsign (by decide))
  constructor
  · rintro rfl
    have heq := htoNat (Or.inl (by omega))
    exact Char.toNat_inj.1 (by omega)
  · rintro rfl
    have heq := htoNat (Or.inr hsign)
    exact UInt8.toNat_inj.1 (by omega)

/-! ### Dice -/

/-- The largest word of 64 bits with a sign. Digits that stand for more are read as this. -/
def greatestWord : Nat := 9223372036854775807

/-- A modifier of which at most a word is left. -/
def saturate (modifier : Int) : Int :=
  max (-greatestWord) (min modifier greatestWord)

/-- The value of the digits after a sign; no digits are worth 0. -/
def readDigits (sign : Int) (digits : List Char) : Except Trap (Option Int) :=
  if digits.isEmpty then .ok (some 0)
  else if digits.all Char.isDigit then
    (signed 64 (sign * min (Text.decimal digits : Int) greatestWord)).map some
  else .ok none

/-- The value of a written modifier, by the byte of its sign. -/
def readModifier (text : List Char) : Except Trap (Option Int) :=
  if text.isEmpty then .ok (some 0)
  else do
    let first ← element (bytes text) 0
    if first = '+'.toUInt8 then do
      let (_, digits) ← splitAt 1 text
      readDigits 1 digits
    else if first = '-'.toUInt8 then do
      let (_, digits) ← splitAt 1 text
      readDigits (-1) digits
    else pure none

def splitDice (text : List Char) : Except Trap (Option Dice.Parts) :=
  match endOf? Char.isDigit text with
  | none => .ok none
  | some countEnd => do
      let (count, rest) ← splitAt countEnd text
      match rest with
      | [] => pure none
      | letter :: rest =>
          if letter = 'd' ∨ letter = 'D' then do
            let facesEnd := (endOf? Char.isAlphanum rest).getD (bytes rest).length
            let (faces, modifier) ← splitAt facesEnd rest
            pure (some { count, faces, modifier })
          else pure none

def parseDice (standard : Faces) (input : String) : Except Trap (Except SpecError Dice.Spec) :=
  if input.toList.isEmpty then
    .ok (.error .empty)
  else do
    match ← splitDice input.toList with
    | none => pure (.error (.noMatch input))
    | some parts =>
        match ← readModifier parts.modifier with
        | none => pure (.error (.noMatch input))
        | some modifier => do
            let size ← signed 64 modifier.natAbs
            let count := if parts.count.isEmpty then 1 else Text.decimal parts.count
            if Dice.mostModifier < size ∨ Dice.mostDice < count then
              pure (.error (.outOfRange input))
            else
              pure ((Dice.readFaces input standard parts.faces).map fun faces =>
                { count, faces, modifier })

theorem signed_word {n : Int} (hlow : -(greatestWord : Int) - 1 ≤ n) (hhigh : n ≤ greatestWord) :
    signed 64 n = .ok n :=
  signed_of_le rfl hlow hhigh

theorem readDigits_eq {sign : Int} (hsign : sign = 1 ∨ sign = -1) (digits : List Char) :
    readDigits sign digits =
      .ok (if digits.all Char.isDigit then some (saturate (sign * Text.decimal digits))
        else none) := by
  cases digits with
  | nil => rcases hsign with rfl | rfl <;> rfl
  | cons digit digits =>
      rw [readDigits, if_neg (by simp)]
      split
      · have hword : sign * min (Text.decimal (digit :: digits) : Int) greatestWord =
            saturate (sign * Text.decimal (digit :: digits)) := by
          unfold saturate greatestWord
          rcases hsign with rfl | rfl <;> omega
        rw [hword, signed_word, Except.map]
        · unfold saturate
          omega
        · unfold saturate
          omega
      · rfl

theorem splitAt_one {sign : Char} (hsign : sign.utf8Size = 1) (digits : List Char) :
    splitAt 1 (sign :: digits) = .ok ([sign], digits) := by
  have hsplit := splitAt_length_bytes [sign] digits
  rwa [length_bytes_cons, hsign] at hsplit

theorem modifierValue?_of_ne {digits : List Char} (hplus : c ≠ '+') (hminus : c ≠ '-') :
    Dice.modifierValue? (c :: digits) = none := by
  unfold Dice.modifierValue?
  split
  · next h => cases h
  · next h => exact absurd (List.cons.inj h).1 hplus
  · next h => exact absurd (List.cons.inj h).1 hminus
  · rfl

theorem readModifier_eq (text : List Char) :
    readModifier text = .ok ((Dice.modifierValue? text).map saturate) := by
  cases text with
  | nil => rfl
  | cons c digits =>
      obtain ⟨byte, hbyte, hsign⟩ := exists_firstByte_eq_iff c digits
      have hplus : byte = '+'.toUInt8 ↔ c = '+' := hsign '+' (by decide)
      have hminus : byte = '-'.toUInt8 ↔ c = '-' := hsign '-' (by decide)
      rw [readModifier, if_neg (by simp), hbyte, ok_bind]
      simp only [hplus, hminus]
      split
      · next heq =>
          subst heq
          rw [splitAt_one (by decide), ok_bind, readDigits_eq (Or.inl rfl), Dice.modifierValue?,
            Int.one_mul]
          split <;> rfl
      · next hne =>
          split
          · next heq =>
              subst heq
              rw [splitAt_one (by decide), ok_bind, readDigits_eq (Or.inr rfl),
                Dice.modifierValue?, Int.neg_one_mul]
              split <;> rfl
          · next hne' =>
              rw [modifierValue?_of_ne hne hne']
              rfl

theorem splitDice_eq (text : List Char) : splitDice text = .ok (Dice.Parts.ofText? text) := by
  rw [splitDice, endOf?_eq, Dice.Parts.ofText?]
  cases hdrop : text.dropWhile Char.isDigit with
  | nil => rfl
  | cons letter rest =>
      simp only [if_neg (List.cons_ne_nil letter rest), splitAt_takeWhile, hdrop, ok_bind,
        endOf?_getD]
      split <;> rfl

theorem parseDice_eq (standard : Faces) (input : String) :
    parseDice standard input = .ok (Dice.Spec.parse standard input) := by
  unfold parseDice Dice.Spec.parse
  split
  · rfl
  · rw [splitDice_eq, ok_bind]
    cases Dice.Parts.ofText? input.toList with
    | none => rfl
    | some parts =>
        simp only [readModifier_eq, ok_bind]
        cases Dice.modifierValue? parts.modifier with
        | none => rfl
        | some modifier =>
            have hsize : signed 64 (saturate modifier).natAbs = .ok (saturate modifier).natAbs := by
              apply signed_word <;> unfold saturate greatestWord <;> omega
            simp only [Option.map_some, hsize, ok_bind]
            by_cases hmost : Dice.mostModifier < modifier.natAbs
            · rw [if_pos, if_pos (Or.inl hmost)]
              · rfl
              · left
                unfold saturate greatestWord Dice.mostModifier at *
                omega
            · have hsaturate : saturate modifier = modifier := by
                unfold saturate greatestWord Dice.mostModifier at *
                omega
              rw [hsaturate]
              simp only [Int.ofNat_lt]
              exact (apply_ite Except.ok _ _ _).symm

/-! ### Ranges -/

def splitRange (negative : Bool) (text : List Char) : Except Trap (Option Range.Parts) :=
  match (endOf? Char.isDigit text).filter (0 < ·) with
  | none => .ok none
  | some lowEnd => do
      let (low, rest) ← splitAt lowEnd text
      match rest with
      | [] => pure none
      | separator :: _ =>
          match Range.Combinator.ofSeparator? separator with
          | none => pure none
          | some combinator => do
              let high := rest.dropWhile (· == separator)
              let draws ← subtract (bytes rest).length (bytes high).length
              if Text.isDigits high then
                pure (some { negative, low, combinator, draws, high })
              else pure none

def splitSigned : List Char → Except Trap (Option Range.Parts)
  | '-' :: rest => splitRange true rest
  | text => splitRange false text

def parseRange (input : String) : Except Trap (Except SpecError Range.Spec) :=
  if input.toList.isEmpty then
    .ok (.error .empty)
  else do
    match ← splitSigned input.toList with
    | none => pure (.error (.noMatch input))
    | some parts =>
        if Range.mostLimit < Text.decimal parts.low then
          pure (.error (.outOfRange input))
        else do
          let low ← signed 64 (if parts.negative then -Text.decimal parts.low
            else Text.decimal parts.low)
          let high := Text.decimal parts.high
          if Range.mostLimit < high ∨ Range.mostDraws < parts.draws then
            pure (.error (.outOfRange input))
          else if high ≤ low then pure (.error (.emptyRange low high))
          else pure (.ok ⟨low, high, parts.combinator, parts.draws⟩)

/-- The separator is as long as it has characters, for each of them is a single byte. -/
theorem subtract_separator {combinator : Range.Combinator}
    (hc : Range.Combinator.ofSeparator? c = some combinator) (rest : List Char) :
    subtract (bytes (c :: rest)).length (bytes ((c :: rest).dropWhile (· == c))).length =
      .ok ((rest.takeWhile (· == c)).length + 1) := by
  have hsize : c.utf8Size = 1 := by
    rw [Range.Combinator.ofSeparator?_eq_some_iff] at hc
    subst hc
    cases combinator <;> decide
  have hseparator : (bytes (rest.takeWhile (· == c))).length =
      (rest.takeWhile (· == c)).length :=
    length_bytes_of_forall_eq hsize fun other hother => by
      simpa using List.mem_takeWhile_imp hother
  have hrest : (bytes rest).length =
      (bytes (rest.takeWhile (· == c))).length + (bytes (rest.dropWhile (· == c))).length := by
    rw [← length_bytes_append, List.takeWhile_append_dropWhile]
  rw [List.dropWhile_cons_of_pos (by simp), length_bytes_cons, subtract, if_pos (by omega)]
  congr 1
  omega

theorem splitRange_eq (negative : Bool) (text : List Char) :
    splitRange negative text = .ok (Range.Parts.ofUnsigned? negative text) := by
  rw [splitRange, endOf?_eq, Range.Parts.ofUnsigned?]
  cases hdrop : text.dropWhile Char.isDigit with
  | nil => rfl
  | cons separator rest =>
      rw [if_neg (List.cons_ne_nil separator rest), Option.filter_some]
      cases hlow : text.takeWhile Char.isDigit with
      | nil =>
          have hnone : ¬(([] : List Char) ≠ [] ∧
              Text.isDigits (rest.dropWhile (· == separator)) = true) := fun h => h.1 rfl
          simp only [if_neg hnone]
          cases Range.Combinator.ofSeparator? separator <;> rfl
      | cons digit digits =>
          have hcut := splitAt_takeWhile Char.isDigit text
          rw [hlow, hdrop] at hcut
          have hpos : 0 < (bytes (digit :: digits)).length := by
            rw [length_bytes_cons]
            exact Nat.add_pos_left (Char.utf8Size_pos digit) _
          simp only [decide_eq_true hpos, if_true, hcut, ok_bind]
          cases hseparator : Range.Combinator.ofSeparator? separator with
          | none => rfl
          | some combinator =>
              simp only [subtract_separator hseparator, ok_bind]
              rw [List.dropWhile_cons_of_pos (by simp)]
              split
              · next hdigits =>
                  rw [if_pos ⟨List.cons_ne_nil digit digits, hdigits⟩]
                  rfl
              · next hdigits =>
                  rw [if_neg fun h => hdigits h.2]
                  rfl

theorem splitSigned_eq (text : List Char) :
    splitSigned text = .ok (Range.Parts.ofText? text) := by
  unfold splitSigned
  split
  · exact splitRange_eq true _
  · next hsign =>
      rw [splitRange_eq, Range.Parts.ofText?]
      exact hsign

theorem parseRange_eq (input : String) : parseRange input = .ok (Range.Spec.parse input) := by
  unfold parseRange Range.Spec.parse
  split
  · rfl
  · rw [splitSigned_eq, ok_bind]
    cases Range.Parts.ofText? input.toList with
    | none => rfl
    | some parts =>
        dsimp only
        by_cases hlow : Range.mostLimit < Text.decimal parts.low
        · rw [if_pos hlow, if_pos (Or.inl hlow)]
          rfl
        · have hword : signed 64 parts.lowLimit = .ok parts.lowLimit := by
            unfold Range.mostLimit at hlow
            apply signed_word <;> unfold Range.Parts.lowLimit greatestWord <;> split <;> omega
          rw [if_neg hlow, ← Range.Parts.lowLimit, hword, ok_bind]
          simp only [hlow, false_or]
          split
          · rfl
          · exact (apply_ite Except.ok _ _ _).symm

end RandomTables.Checked
