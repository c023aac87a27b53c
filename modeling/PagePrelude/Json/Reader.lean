import PagePrelude.Json.Fault
import PagePrelude.Number.Hexadecimal
import PagePrelude.Text.Size

/-!
# Reading JSON text

A reader consumes characters from a cursor that counts lines and bytes, so that a
fault carries the position where it was noticed: either just after the characters
read so far, or one byte further where the next character is the offender.

At most `Reader.maxDepth` arrays and objects may be nested in a value that is kept;
values that are skipped may be nested at will.
-/

namespace PagePrelude.Json

/-- The text still to be read and the position reached. -/
structure Cursor where
  rest : List Char
  line : Nat := 1
  column : Nat := 0
  deriving Repr

namespace Cursor

/-- The position after the characters read so far. -/
def position (c : Cursor) : Position := ⟨c.line, c.column⟩

/-- The position one byte further, at the next character. -/
def peekPosition (c : Cursor) : Position :=
  match c.rest with
  | [] => c.position
  | x :: _ => if x = '\n' then ⟨c.line + 1, 0⟩ else ⟨c.line, c.column + 1⟩

/-- The cursor after the next character. -/
def next (c : Cursor) : Cursor :=
  match c.rest with
  | [] => c
  | x :: rest =>
    if x = '\n' then ⟨rest, c.line + 1, 0⟩ else ⟨rest, c.line, c.column + x.utf8Size⟩

end Cursor

/-- A computation that reads from a cursor. -/
abbrev Reader (α : Type) := StateT Cursor (Except Fault) α

namespace Reader

/-- How many arrays and objects may be open at once. -/
def maxDepth : Nat := 127

/-- Fails at the position reached. -/
def fail {α : Type} (cause : Cause) : Reader α :=
  fun c => .error ⟨cause, some c.position⟩

/-- Fails at the next character. -/
def failPeek {α : Type} (cause : Cause) : Reader α :=
  fun c => .error ⟨cause, some c.peekPosition⟩

/-- The next character, without reading it. -/
def peek : Reader (Option Char) := do
  return (← get).rest.head?

/-- Reads one character. -/
def skip : Reader Unit := modify Cursor.next

/-- Reads one character and gives it. -/
def next : Reader (Option Char) := do
  let c ← peek
  skip
  return c

/-- The blanks between the tokens of JSON. -/
def isBlank (c : Char) : Bool :=
  c == ' ' || c == '\n' || c == '\t' || c == '\r'

/-- Reads while the next character satisfies `p`. -/
def skipWhile (p : Char → Bool) : List Char → Reader Unit
  | [] => pure ()
  | c :: cs => if p c then do skip; skipWhile p cs else pure ()

/-- Skips blanks and gives the next character. -/
def token : Reader (Option Char) := do
  skipWhile isBlank (← get).rest
  peek

/-- Reads the given characters or fails. -/
def word : List Char → Reader Unit
  | [] => pure ()
  | expected :: more => do
    match ← next with
    | none => fail .endInValue
    | some c => if c = expected then word more else fail .expectedWord

/-- Reads the four digits of an escape. -/
def hexEscape : Reader Nat := do
  let c ← get
  let digits := c.rest.take 4
  if Text.byteSize c.rest < 4 then
    throw ⟨.endInString, some ⟨c.line, c.column + Text.byteSize c.rest⟩⟩
  else match Number.hexNumber? digits with
    | some n =>
      set { c with rest := c.rest.drop 4, column := c.column + 4 }
      return n
    | none =>
      let lines := digits.filter (· == '\n')
      if lines.isEmpty then throw ⟨.invalidEscape, some ⟨c.line, c.column + 4⟩⟩
      else
        throw ⟨.invalidEscape,
          some ⟨c.line + lines.length, ((digits.reverse.takeWhile (· != '\n')).length)⟩⟩

/-- Reads the rest of a `\u` escape, with the second half of a surrogate pair where the first
half was read. -/
def unicodeEscape : Reader Char := do
  let n ← hexEscape
  if 0xDC00 ≤ n ∧ n ≤ 0xDFFF then fail .loneSurrogate
  else if 0xD800 ≤ n ∧ n ≤ 0xDBFF then
    for mark in ['\\', 'u'] do
      match ← next with
      | none => fail .endInString
      | some c => if c ≠ mark then fail .unfinishedSurrogatePair
    let low ← hexEscape
    if 0xDC00 ≤ low ∧ low ≤ 0xDFFF then
      return Char.ofNat ((n - 0xD800) * 0x400 + (low - 0xDC00) + 0x10000)
    else fail .loneSurrogate
  else return Char.ofNat n

/-- Reads what follows a backslash. -/
def escape : Reader Char := do
  match ← next with
  | none => fail .endInString
  | some '"' => return '"'
  | some '\\' => return '\\'
  | some '/' => return '/'
  | some 'b' => return Char.ofNat 8
  | some 'f' => return Char.ofNat 12
  | some 'n' => return '\n'
  | some 'r' => return '\r'
  | some 't' => return '\t'
  | some 'u' => unicodeEscape
  | some _ => fail .invalidEscape

/-- Reads the characters of a string up to its closing quote; `fuel` bounds their number. -/
def stringTail : Nat → List Char → Reader String
  | 0, _ => fail .endInString
  | fuel + 1, read => do
    match ← peek with
    | none => fail .endInString
    | some '"' =>
      skip
      return String.ofList read.reverse
    | some '\\' =>
      skip
      stringTail fuel ((← escape) :: read)
    | some c =>
      skip
      if c.toNat < 32 then fail .controlCharacter else stringTail fuel (c :: read)

/-- Reads a string, its opening quote included. -/
def string : Reader String := do
  skip
  stringTail ((← get).rest.length + 1) []

/-- The value of a decimal digit. -/
def digitValue (c : Char) : Nat := c.toNat - 48

/-- Whether the next character is a digit. -/
def digit? : Reader (Option Nat) := do
  match ← peek with
  | some c => return if c.isDigit then some (digitValue c) else none
  | none => return none

/-- The largest integer that is kept exactly. -/
def maxNatural : Nat := Nat.pow 2 64 - 1

/-- The largest exponent that is kept. -/
def maxExponent : Nat := Nat.pow 2 31 - 1

/-- Reads digits into a significand until it would exceed `maxNatural`; gives the significand, the
number of digits read and whether digits are left that it cannot hold. -/
def significand (start : Nat) : Reader (Nat × Nat × Bool) := do
  let digits := (← get).rest.takeWhile Char.isDigit
  let step (state : Nat × Nat × Bool) (c : Char) : Nat × Nat × Bool :=
    if state.2.2 then state
    else
      let grown := state.1 * 10 + digitValue c
      if maxNatural < grown then (state.1, state.2.1, true) else (grown, state.2.1 + 1, false)
  let result := digits.foldl step (start, 0, false)
  skipWhile Char.isDigit (digits.take result.2.1)
  return result

/-- A power of ten as a binary number. -/
def powerOfTen (n : Nat) : Binary64 := (Binary64.ofRatio (Nat.pow 10 n) 1).getD .zero

/-- Scales a magnitude by a power of ten, one rounded operation at a time: a power up to 308 is
one multiplication or division, and a smaller exponent takes a division by `10 ^ 308` first. -/
def scale : Nat → Binary64 → Int → Reader Binary64
  | 0, x, _ => pure x
  | fuel + 1, x, exponent =>
    if exponent.natAbs ≤ 308 then
      if 0 ≤ exponent then
        match x.mul (powerOfTen exponent.toNat) with
        | some y => pure y
        | none => fail .numberOutOfRange
      else pure ((x.div (powerOfTen exponent.natAbs)).getD .zero)
    else if x.significand = 0 then pure x
    else if 0 ≤ exponent then fail .numberOutOfRange
    else scale fuel ((x.div (powerOfTen 308)).getD .zero) (exponent + 308)

/-- The number with the given sign, significand and decimal exponent. -/
def float (negative : Bool) (significand : Nat) (exponent : Int) : Reader Number := do
  let start := (Binary64.ofRatio significand 1).getD .zero
  return .float ((← scale 8 start exponent).withSign negative)

/-- Reads the exponent of a number. -/
def exponent (negative : Bool) (significand : Nat) (start : Int) : Reader Number := do
  skip
  let down ← do
    match ← peek with
    | some '+' => skip; pure false
    | some '-' => skip; pure true
    | _ => pure false
  match ← next with
  | none => fail .endInValue
  | some c =>
    if !c.isDigit then fail .invalidNumber
    else
      let digits := c :: (← get).rest.takeWhile Char.isDigit
      let value := digits.foldl (fun n d => n * 10 + digitValue d) 0
      if value ≤ maxExponent then
        skipWhile Char.isDigit (← get).rest
        float negative significand (if down then start - value else start + value)
      else if significand ≠ 0 && !down then
        let read := (digits.foldl (fun (state : Nat × Nat) d =>
          if maxExponent < state.1 then state
          else (state.1 * 10 + digitValue d, state.2 + 1)) (0, 0)).2
        skipWhile Char.isDigit ((← get).rest.take (read - 1))
        fail .numberOutOfRange
      else
        skipWhile Char.isDigit (← get).rest
        return .float (Binary64.zero.withSign negative)

/-- Finishes a number after its significand: an exponent may follow. -/
def afterDigits (negative : Bool) (significand : Nat) (power : Int) : Reader Number := do
  match ← peek with
  | some 'e' | some 'E' => exponent negative significand power
  | _ => float negative significand power

/-- Reads the point of a number and the digits after it. -/
def decimals (negative : Bool) (whole : Nat) (power : Int) : Reader Number := do
  skip
  let (digits, count, more) ← significand whole
  if more then
    skipWhile Char.isDigit (← get).rest
    afterDigits negative digits (power - count)
  else if count = 0 then
    match ← peek with
    | some _ => failPeek .invalidNumber
    | none => failPeek .endInValue
  else afterDigits negative digits (power - count)

/-- Finishes a number after its integer part. -/
def afterInteger (negative : Bool) (whole : Nat) : Reader Number := do
  match ← peek with
  | some '.' => decimals negative whole 0
  | some 'e' | some 'E' => exponent negative whole 0
  | _ =>
    if !negative then return .natural whole
    else if whole = 0 ∨ Nat.pow 2 63 < whole then
      return .float (((Binary64.ofRatio whole 1).getD .zero).withSign true)
    else return .negative whole

/-- Reads a number after its sign. -/
def unsigned (negative : Bool) : Reader Number := do
  match ← next with
  | none => fail .endInValue
  | some '0' =>
    if (← digit?).isSome then failPeek .invalidNumber else afterInteger negative 0
  | some c =>
    if !c.isDigit then fail .invalidNumber
    else
      let (whole, _, more) ← significand (digitValue c)
      if more then
        let dropped := ((← get).rest.takeWhile Char.isDigit).length
        skipWhile Char.isDigit (← get).rest
        match ← peek with
        | some '.' => decimals negative whole dropped
        | _ => afterDigits negative whole dropped
      else afterInteger negative whole

/-- Reads a number. -/
def number : Reader Number := do
  match ← peek with
  | some '-' =>
    skip
    unsigned true
  | _ => unsigned false

/-- Whether another item follows in an array; `first` says that none was read yet. -/
def hasItem (first : Bool) : Reader Bool := do
  match ← token with
  | none => failPeek .endInList
  | some ']' => return false
  | some c =>
    if first then return true
    else if c = ',' then
      skip
      match ← token with
      | some ']' => failPeek .trailingComma
      | some _ => return true
      | none => failPeek .endInValue
    else failPeek .expectedCommaOrBracket

/-- Whether another key follows in an object; `first` says that none was read yet. -/
def hasKey (first : Bool) : Reader Bool := do
  match ← token with
  | none => failPeek .endInObject
  | some '}' => return false
  | some c =>
    if first then
      if c = '"' then return true else failPeek .keyNotString
    else if c = ',' then
      skip
      match ← token with
      | some '"' => return true
      | some '}' => failPeek .trailingComma
      | some _ => failPeek .keyNotString
      | none => failPeek .endInValue
    else failPeek .expectedCommaOrBrace

/-- Reads the colon after a key. -/
def colon : Reader Unit := do
  match ← token with
  | some ':' => skip
  | some _ => failPeek .expectedColon
  | none => failPeek .endInObject

/-- Reads the items of an array up to its bracket; `fuel` bounds their number. -/
def items (item : Reader Value) : Nat → Bool → List Value → Reader (List Value)
  | 0, _, read => pure read.reverse
  | fuel + 1, first, read => do
    if ← hasItem first then items item fuel false ((← item) :: read)
    else
      skip
      return read.reverse

/-- Reads the fields of an object up to its brace; `fuel` bounds their number. -/
def fields (item : Reader Value) :
    Nat → Bool → List (String × Value) → Reader (List (String × Value))
  | 0, _, read => pure read
  | fuel + 1, first, read => do
    if ← hasKey first then
      let key ← string
      colon
      let value ← item
      fields item fuel false (setField read key value)
    else
      skip
      return read

/-- Reads an array, its opening bracket included. -/
def arrayOf (item : Reader Value) : Reader (List Value) := do
  skip
  items item ((← get).rest.length + 1) true []

/-- Reads an object, its opening brace included. -/
def objectOf (item : Reader Value) : Reader (List (String × Value)) := do
  skip
  fields item ((← get).rest.length + 1) true []

/-- Reads a value whose arrays and objects hold what `inner` reads. -/
def valueWith (inner : Option (Reader Value)) : Reader Value := do
  match ← token with
  | none => failPeek .endInValue
  | some 'n' => skip; word ['u', 'l', 'l']; return .null
  | some 't' => skip; word ['r', 'u', 'e']; return .bool true
  | some 'f' => skip; word ['a', 'l', 's', 'e']; return .bool false
  | some '"' => return .string (← string)
  | some '[' =>
    match inner with
    | some item => return .array (← arrayOf item)
    | none => failPeek .tooDeep
  | some '{' =>
    match inner with
    | some item => return .object (← objectOf item)
    | none => failPeek .tooDeep
  | some c =>
    if c = '-' || c.isDigit then return .number (← number) else failPeek .expectedValue

/-- Reads a value in which at most `depth` arrays and objects are nested. -/
def value : Nat → Reader Value
  | 0 => valueWith none
  | depth + 1 => valueWith (some (value depth))

/-- Reads past a run of digits. -/
def skipDigits : Reader Unit := do
  skipWhile Char.isDigit (← get).rest

/-- Reads past the exponent of a number. -/
def skipExponent : Reader Unit := do
  match ← peek with
  | some 'e' | some 'E' =>
    skip
    match ← peek with
    | some '+' | some '-' => skip
    | _ => pure ()
    match ← next with
    | some c => if c.isDigit then skipDigits else fail .invalidNumber
    | none => fail .invalidNumber
  | _ => pure ()

/-- Reads past a number. -/
def skipNumber : Reader Unit := do
  match ← peek with
  | some '-' => skip
  | _ => pure ()
  match ← next with
  | some '0' => if (← digit?).isSome then failPeek .invalidNumber
  | some c => if c.isDigit then skipDigits else fail .invalidNumber
  | none => fail .invalidNumber
  match ← peek with
  | some '.' =>
    skip
    if (← digit?).isNone then failPeek .invalidNumber
    skipDigits
  | _ => pure ()
  skipExponent

/-- Reads past the characters of a string; `fuel` bounds their number. -/
def skipStringTail : Nat → Reader Unit
  | 0 => fail .endInString
  | fuel + 1 => do
    match ← peek with
    | none => fail .endInString
    | some '"' => skip
    | some '\\' =>
      skip
      match ← next with
      | none => fail .endInString
      | some 'u' => let _ ← hexEscape
      | some c =>
        if !(['"', '\\', '/', 'b', 'f', 'n', 'r', 't'].contains c) then fail .invalidEscape
      skipStringTail fuel
    | some c =>
      if c.toNat < 32 then fail .controlCharacter
      else
        skip
        skipStringTail fuel

/-- Reads past a string, its opening quote included. -/
def skipString : Reader Unit := do
  skip
  skipStringTail ((← get).rest.length + 1)

mutual

/-- Reads past a value; `fuel` bounds the number of tokens. -/
def skipValue : Nat → Reader Unit
  | 0 => failPeek .endInValue
  | fuel + 1 => do
    match ← token with
    | none => failPeek .endInValue
    | some 'n' => skip; word ['u', 'l', 'l']
    | some 't' => skip; word ['r', 'u', 'e']
    | some 'f' => skip; word ['a', 'l', 's', 'e']
    | some '"' => skipString
    | some '[' => skip; skipItems fuel false
    | some '{' => skip; skipFields fuel false
    | some c => if c = '-' || c.isDigit then skipNumber else failPeek .expectedValue

/-- Reads past the items of an array; `more` says that one was read already. -/
def skipItems : Nat → Bool → Reader Unit
  | 0, _ => failPeek .endInList
  | fuel + 1, more => do
    match ← token with
    | none => failPeek .endInList
    | some ']' => skip
    | some c =>
      if more then
        if c = ',' then skip else failPeek .expectedCommaOrBracket
      skipValue fuel
      skipItems fuel true

/-- Reads past the fields of an object; `more` says that one was read already. -/
def skipFields : Nat → Bool → Reader Unit
  | 0, _ => failPeek .endInObject
  | fuel + 1, more => do
    match ← token with
    | none => failPeek .endInObject
    | some '}' => skip
    | some c =>
      if more then
        if c = ',' then skip else failPeek .expectedCommaOrBrace
      match ← token with
      | none => failPeek .endInObject
      | some '"' => skipString
      | some _ => failPeek .keyNotString
      colon
      skipValue fuel
      skipFields fuel true

end

/-- Reads to the end of the text, which may hold only blanks. -/
def atEnd : Reader Unit := do
  if (← token).isSome then failPeek .trailingCharacters

end Reader

/-- Reads a whole text as a value. -/
def Value.read (text : String) : Except Fault Value :=
  let reader : Reader Value := do
    let value ← Reader.value Reader.maxDepth
    Reader.atEnd
    return value
  (reader.run ⟨text.toList, 1, 0⟩).map (·.1)

end PagePrelude.Json
