import PagePrelude.Module.Token
import PagePrelude.Number.Hexadecimal
import PagePrelude.Text.Size
import PagePrelude.Text.WordStart
import PagePrelude.Text.WordPart

/-!
# Reading tokens

Tokens are read one at a time from the characters that are left, since what a `/`, a
`\x7d` or a word means depends on where the parser stands. Every reader here is a
function from characters to a piece: a token, its width, and the characters after it.
-/

namespace PagePrelude.Module

open Number (hexValue? hexNumber?)

/-! ## Character classes -/

/-- Characters that end a line. -/
def isBreak (c : Char) : Bool :=
  c == '\n' || c == '\r' || c == '\u2028' || c == '\u2029'

/-- Blank characters that end no line. -/
def isBlank (c : Char) : Bool :=
  let n := c.toNat
  c == ' ' || c == '\t' || n == 11 || n == 12 || n == 0x85 || n == 0xA0 || n == 0x1680 ||
    (0x2000 ≤ n && n ≤ 0x200B) || n == 0x202F || n == 0x205F || n == 0x3000 || n == 0xFEFF

/-- Characters that may begin a word. -/
def isWordFirst (c : Char) : Bool :=
  c == '$' || c == '_' || Text.isWordStart c

/-- Characters that may follow the first one of a word. -/
def isWordRest (c : Char) : Bool :=
  c == '$' || Text.isWordPart c || c == '\u200c' || c == '\u200d'

/-! ## Blanks and comments -/

/-- Where a reader of blanks stands. Comments know where they start. -/
inductive BlankState where
  | outside
  | lineComment (start : Nat)
  /-- Before the asterisk that opens a comment. -/
  | opening (start : Nat)
  | blockComment (start : Nat)
  /-- Before the slash that closes a comment. -/
  | closing (start : Nat)

/-- What was found before a token. -/
structure Gap where
  rest : List Char
  /-- The offset of the first character that is left. -/
  stop : Nat
  afterBreak : Bool
  /-- The first comment. -/
  comment : Option (Nat × Nat)
  /-- The start of a comment that never ends. -/
  openComment : Option Nat
  deriving Repr

/-- What is known once the text ends in a state. -/
def gapAtEnd (place : Nat) (afterBreak : Bool) (comment : Option (Nat × Nat)) : BlankState → Gap
  | .outside => ⟨[], place, afterBreak, comment, none⟩
  | .lineComment start => ⟨[], place, afterBreak, comment.or (some (start, place)), none⟩
  | .opening start | .blockComment start | .closing start =>
    ⟨[], place, afterBreak, comment, some start⟩

/-- Reads past blanks and comments. -/
def gapFrom (state : BlankState) (place : Nat) (afterBreak : Bool) (comment : Option (Nat × Nat)) :
    List Char → Gap
  | [] => gapAtEnd place afterBreak comment state
  | c :: rest =>
    let next := place + c.utf8Size
    match state with
    | .outside =>
      if isBlank c then gapFrom .outside next afterBreak comment rest
      else if isBreak c then gapFrom .outside next true comment rest
      else if c = '/' && rest.head? == some '/' then
        gapFrom (.lineComment place) next afterBreak comment rest
      else if c = '/' && rest.head? == some '*' then
        gapFrom (.opening place) next afterBreak comment rest
      else ⟨c :: rest, place, afterBreak, comment, none⟩
    | .lineComment start =>
      if isBreak c then gapFrom .outside next true (comment.or (some (start, place))) rest
      else gapFrom state next afterBreak comment rest
    | .opening start => gapFrom (.blockComment start) next afterBreak comment rest
    | .blockComment start =>
      if c = '*' && rest.head? == some '/' then
        gapFrom (.closing start) next afterBreak comment rest
      else gapFrom state next (afterBreak || isBreak c) comment rest
    | .closing start => gapFrom .outside next afterBreak (comment.or (some (start, next))) rest

/-- Reads past blanks and comments before a token. -/
def gap (place : Nat) (chars : List Char) : Gap :=
  gapFrom .outside place false none chars

/-! ## Pieces -/

/-- A token that was read, with the problems met in it. -/
structure Piece where
  lexeme : Lexeme
  stop : Nat
  rest : List Char
  problems : List Diagnostic := []
  deriving Repr

/-- A character escape by code point, after its `u`: four digits or any number in braces. -/
def codePoint? : List Char → Option (Nat × Nat × List Char)
  | '{' :: more =>
    let digits := more.takeWhile (· != '}')
    match hexNumber? digits, more.drop digits.length with
    | some n, _ :: rest => if n ≤ 0x10FFFF then some (n, digits.length + 2, rest) else none
    | _, _ => none
  | a :: b :: c :: d :: rest => (hexNumber? [a, b, c, d]).map fun n => (n, 4, rest)
  | _ => none

/-! ## Words -/

/-- The rest of a word that may hold escapes: its characters, and where it stops. -/
def wordTail : Nat → List Char → Nat → Option (List Char × Nat × List Char)
  | 0, chars, place => some ([], place, chars)
  | fuel + 1, chars, place =>
    match chars with
    | '\\' :: 'u' :: more =>
      match codePoint? more with
      | some (n, taken, rest) =>
        let c := Char.ofNat n
        if isWordRest c then
          (wordTail fuel rest (place + 2 + taken)).map fun (cs, stop, left) => (c :: cs, stop, left)
        else none
      | none => none
    | '\\' :: _ => none
    | c :: more =>
      if isWordRest c then
        (wordTail fuel more (place + c.utf8Size)).map fun (cs, stop, left) => (c :: cs, stop, left)
      else some ([], place, chars)
    | [] => some ([], place, [])

/-- The rest of a word that is spelled literally: its characters, and what follows. -/
def plainWord (chars : List Char) : List Char × List Char :=
  (chars.takeWhile isWordRest, chars.dropWhile isWordRest)

/-- A piece that is no token. -/
def Piece.wrong (problem : Problem) (start stop : Nat) (rest : List Char) : Piece :=
  ⟨.unknown, stop, rest, [⟨problem, start, stop⟩]⟩

/-- Reads a word from its first character on, and makes a lexeme of its name. -/
def wordPiece (make : String → Bool → Lexeme) (place : Nat) (chars : List Char) : Piece :=
  let (plain, rest) := plainWord chars
  match rest with
  | '\\' :: _ =>
    match wordTail (chars.length + 1) chars place with
    | some (cs, stop, left) => ⟨make (String.ofList cs) true, stop, left, []⟩
    | none =>
      let stop := place + Text.byteSize plain
      .wrong .invalidUnicodeEscape stop (stop + 1) (rest.drop 1)
  | _ => ⟨make (String.ofList plain) false, place + Text.byteSize plain, rest, []⟩

/-- Whether the characters after a backslash escape one that begins a word. -/
def escapesWordFirst : List Char → Bool
  | 'u' :: more =>
    match codePoint? more with
    | some (n, _, _) => isWordFirst (Char.ofNat n)
    | none => false
  | _ => false

/-- Reads a private name after its `#`. -/
def privatePiece (start : Nat) : List Char → Piece
  | '\\' :: more =>
    if escapesWordFirst more then
      wordPiece (fun name _ => .privateName name) (start + 1) ('\\' :: more)
    else .wrong .invalidUnicodeEscape (start + 1) (start + 2) more
  | c :: more =>
    if isWordFirst c then wordPiece (fun name _ => .privateName name) (start + 1) (c :: more)
    else .wrong (.invalidCharacter c) (start + 1) (start + 1 + c.utf8Size) more
  | [] => .wrong .unexpectedToken (start + 1) (start + 1) []

/-! ## Numbers -/

/-- The characters of digits and separators at the front, the rest, and whether every separator
stands between two digits. -/
def digitRun (isDigit : Char → Bool) (chars : List Char) : List Char × List Char × Bool :=
  let run := chars.takeWhile fun c => isDigit c || c == '_'
  let sound := run.head? != some '_' && run.getLast? != some '_' &&
    !(run.zip (run.drop 1)).any fun (a, b) => a == '_' && b == '_'
  (run, chars.drop run.length, sound)

/-- Ends a number: no word and no digit may follow. -/
def endNumber (form : NumberForm) (start : Nat) (spelling rest : List Char) : Piece :=
  let stop := start + Text.byteSize spelling
  match rest with
  | c :: _ =>
    if c.isDigit || isWordFirst c then
      let run := rest.takeWhile isWordRest
      .wrong .afterNumber stop (stop + Text.byteSize run) (rest.drop run.length)
    else ⟨.number form (String.ofList spelling), stop, rest, []⟩
  | [] => ⟨.number form (String.ofList spelling), stop, [], []⟩

/-- A number whose digits are not written as they must be. -/
def wrongNumber (start : Nat) (spelling rest : List Char) : Piece :=
  .wrong .unexpectedToken start (start + Text.byteSize spelling) rest

/-- The sign of an exponent, if it has one, and what follows. -/
def exponentSign : List Char → List Char × List Char
  | '+' :: more => (['+'], more)
  | '-' :: more => (['-'], more)
  | more => ([], more)

/-- Reads an exponent, if there is one, and ends the number. -/
def exponentPiece (form : NumberForm) (start : Nat) (spelling rest : List Char) : Piece :=
  match rest with
  | e :: more =>
    if e = 'e' || e = 'E' then
      let (sign, more) := exponentSign more
      let (digits, left, sound) := digitRun Char.isDigit more
      let spelling := spelling ++ e :: sign ++ digits
      if digits.isEmpty || !sound then wrongNumber start spelling left
      else endNumber .exponential start spelling left
    else endNumber form start spelling rest
  | [] => endNumber form start spelling rest

/-- Reads the digits after a decimal point. -/
def fractionPiece (start : Nat) (spelling rest : List Char) : Piece :=
  let (digits, left, sound) := digitRun Char.isDigit rest
  let spelling := spelling ++ digits
  if !digits.isEmpty && !sound then wrongNumber start spelling left
  else exponentPiece .float start spelling left

/-- Reads a number in a base other than ten, after the letter that names the base. -/
def basePiece (form : NumberForm) (isDigit : Char → Bool) (start : Nat)
    (spelling rest : List Char) : Piece :=
  let (digits, left, sound) := digitRun isDigit rest
  let spelling := spelling ++ digits
  if digits.isEmpty || !sound then wrongNumber start spelling left
  else match left with
    | 'n' :: more => endNumber .big start (spelling ++ ['n']) more
    | _ => endNumber form start spelling left

/-- Reads a decimal number from its first digit on. -/
def decimalPiece (start : Nat) (chars : List Char) : Piece :=
  let (digits, left, sound) := digitRun Char.isDigit chars
  if !sound then wrongNumber start digits left
  else match left with
    | '.' :: more => fractionPiece start (digits ++ ['.']) more
    | 'n' :: more => endNumber .big start (digits ++ ['n']) more
    | _ => exponentPiece .decimal start digits left

/-- Whether a character is an octal digit. -/
def isOctal (c : Char) : Bool :=
  '0' ≤ c && c ≤ '7'

/-- Reads a number that starts with a zero and another digit. -/
def zeroPiece (start : Nat) (chars : List Char) : Piece :=
  let run := chars.takeWhile Char.isDigit
  let left := chars.drop run.length
  if run.all isOctal then endNumber .octal start run left
  else match left with
    | '.' :: more => fractionPiece start (run ++ ['.']) more
    | _ => exponentPiece .decimal start run left

/-- Reads a number that starts with a digit. -/
def numberPiece (start : Nat) (chars : List Char) : Piece :=
  match chars with
  | '0' :: c :: more =>
    if c = 'x' || c = 'X' then basePiece .hex (fun d => (hexValue? d).isSome) start ['0', c] more
    else if c = 'o' || c = 'O' then basePiece .octal isOctal start ['0', c] more
    else if c = 'b' || c = 'B' then
      basePiece .binary (fun d => d == '0' || d == '1') start ['0', c] more
    else if c.isDigit then zeroPiece start chars
    else if c = '_' then endNumber .decimal start ['0'] (c :: more)
    else decimalPiece start chars
  | _ => decimalPiece start chars

/-! ## Strings -/

/-- Joins the halves of surrogate pairs. A half that stands alone becomes U+FFFD, and the result
says that there is one. -/
def joinUnits : List Nat → List Char × Bool
  | [] => ([], true)
  | [n] => if 0xD800 ≤ n ∧ n ≤ 0xDFFF then (['\uFFFD'], false) else ([Char.ofNat n], true)
  | a :: b :: rest =>
    if 0xD800 ≤ a ∧ a ≤ 0xDBFF ∧ 0xDC00 ≤ b ∧ b ≤ 0xDFFF then
      let (cs, sound) := joinUnits rest
      (Char.ofNat (0x10000 + (a - 0xD800) * 0x400 + (b - 0xDC00)) :: cs, sound)
    else
      let (cs, sound) := joinUnits (b :: rest)
      if 0xD800 ≤ a ∧ a ≤ 0xDFFF then ('\uFFFD' :: cs, false) else (Char.ofNat a :: cs, sound)

/-- The characters that single letters escape. -/
def letterEscape (c : Char) : Nat :=
  match c with
  | 'n' => 10
  | 't' => 9
  | 'r' => 13
  | 'b' => 8
  | 'v' => 11
  | 'f' => 12
  | _ => c.toNat

/-- An escape after its backslash: what it denotes, or nothing for a line break that is left out,
then its characters and the rest. -/
def escape (chars : List Char) : Except Problem (Option Nat × Nat × List Char) :=
  match chars with
  | [] => .ok (none, 0, [])
  | c :: more =>
    if c = '\r' then
      match more with
      | '\n' :: rest => .ok (none, 2, rest)
      | _ => .ok (none, 1, more)
    else if isBreak c then .ok (none, c.utf8Size, more)
    else if c = 'x' then
      match more with
      | a :: b :: rest =>
        match hexNumber? [a, b] with
        | some n => .ok (some n, 3, rest)
        | none => .error .invalidEscape
      | _ => .error .invalidEscape
    else if c = 'u' then
      match codePoint? more with
      | some (n, taken, rest) => .ok (some n, taken + 1, rest)
      | none => .error .invalidUnicodeEscape
    else if isOctal c then
      let room := if c ≤ '3' then 2 else 1
      let digits := c :: (more.take room).takeWhile isOctal
      .ok (some (digits.foldl (fun n d => n * 8 + (d.toNat - 48)) 0), digits.length,
        chars.drop digits.length)
    else .ok (some (letterEscape c), c.utf8Size, more)

/-- A string that was read up to its closing quote. -/
structure StringBody where
  units : List Nat
  stop : Nat
  rest : List Char
  problems : List Diagnostic
  closed : Bool

/-- Reads a string after its opening quote. The units denoted so far come in reverse. -/
def stringBody (quote : Char) : Nat → List Nat → List Diagnostic → Nat → List Char → StringBody
  | 0, units, problems, place, chars => ⟨units.reverse, place, chars, problems, false⟩
  | _ + 1, units, problems, place, [] => ⟨units.reverse, place, [], problems, false⟩
  | fuel + 1, units, problems, place, c :: rest =>
    if c = quote then ⟨units.reverse, place + 1, rest, problems, true⟩
    else if c = '\\' then
      match escape rest with
      | .ok (some n, taken, left) =>
        stringBody quote fuel (n :: units) problems (place + 1 + taken) left
      | .ok (none, taken, left) => stringBody quote fuel units problems (place + 1 + taken) left
      | .error problem =>
        stringBody quote fuel units (problems ++ [⟨problem, place, place + 2⟩]) (place + 1) rest
    else if c = '\n' || c = '\r' then ⟨units.reverse, place, c :: rest, problems, false⟩
    else stringBody quote fuel (c.toNat :: units) problems (place + c.utf8Size) rest

/-- Reads a string from its opening quote on. -/
def stringPiece (quote : Char) (start : Nat) (chars : List Char) : Piece :=
  let body := stringBody quote chars.length [] [] (start + 1) (chars.drop 1)
  if body.closed then
    let (value, sound) := joinUnits body.units
    let spelling := chars.take (chars.length - body.rest.length)
    ⟨.string (String.ofList value) (String.ofList spelling) sound, body.stop, body.rest,
      body.problems⟩
  else
    ⟨.unknown, body.stop, body.rest, body.problems ++ [⟨.openString, start, body.stop⟩]⟩

/-! ## Templates -/

/-- Whether the characters after a backslash form an escape that a template may hold. -/
def isTemplateEscape (chars : List Char) : Bool :=
  match chars with
  | '0' :: c :: _ => !c.isDigit
  | c :: _ => if c.isDigit then c == '0' else (escape chars).isOk
  | [] => true

/-- Reads a piece of a template after its opening mark: its spelling in reverse, whether a
substitution follows, and whether all its escapes denote something. -/
def templateBody : Bool → List Char → Nat → List Char →
    Option (List Char × Bool × Bool × Nat × List Char)
  | sound, taken, place, '`' :: rest => some (taken, false, sound, place + 1, rest)
  | sound, taken, place, '$' :: '{' :: rest => some (taken, true, sound, place + 2, rest)
  | sound, taken, place, '\\' :: c :: rest =>
    templateBody (sound && isTemplateEscape (c :: rest)) (c :: '\\' :: taken)
      (place + 1 + c.utf8Size) rest
  | sound, taken, place, c :: rest => templateBody sound (c :: taken) (place + c.utf8Size) rest
  | _, _, _, [] => none

/-- Reads a piece of a template from its opening mark on. `first` says that it opens the
template. -/
def templatePiece (first : Bool) (start : Nat) (chars : List Char) : Piece :=
  match templateBody true [] (start + 1) (chars.drop 1) with
  | some (taken, more, sound, stop, rest) =>
    let part : TemplatePart := match first, more with
      | true, true => .head
      | true, false => .whole
      | false, true => .middle
      | false, false => .tail
    ⟨.template part (String.ofList taken.reverse) sound, stop, rest, []⟩
  | none => .wrong .openString start (start + Text.byteSize chars) []

/-! ## Regular expressions -/

/-- The pattern of a regular expression after its opening slash, in reverse: its characters up to
the closing slash, which does not count inside brackets. -/
def regexBody : Bool → List Char → List Char → Option (List Char × List Char)
  | inClass, taken, '\\' :: c :: rest =>
    if isBreak c then none else regexBody inClass (c :: '\\' :: taken) rest
  | inClass, taken, c :: rest =>
    if isBreak c then none
    else if c = '/' && !inClass then some (c :: taken, rest)
    else if c = '[' then regexBody true (c :: taken) rest
    else if c = ']' then regexBody false (c :: taken) rest
    else regexBody inClass (c :: taken) rest
  | _, _, [] => none

/-- The problems of the flags of a regular expression. -/
def flagProblems : Nat → List Char → List Char → List Diagnostic
  | _, _, [] => []
  | place, seen, c :: rest =>
    let stop := place + c.utf8Size
    let more := flagProblems stop (c :: seen) rest
    let known := ['d', 'g', 'i', 'm', 's', 'u', 'v', 'y'].contains c
    if !known then ⟨.regexFlag c, place, stop⟩ :: more
    else if seen.contains c then ⟨.repeatedFlag c, place, stop⟩ :: more
    else more

/-- Reads a regular expression from its opening slash on. -/
def regexPiece (start : Nat) (chars : List Char) : Piece :=
  match regexBody false ['/'] (chars.drop 1) with
  | some (taken, rest) =>
    let pattern := taken.reverse
    let flags := rest.takeWhile isWordRest
    let stop := start + Text.byteSize pattern
    ⟨.regex (String.ofList (pattern ++ flags)), stop + Text.byteSize flags, rest.drop flags.length,
      flagProblems stop [] flags⟩
  | none =>
    let line := chars.takeWhile (!isBreak ·)
    .wrong .openRegex start (start + Text.byteSize line) (chars.drop line.length)

/-! ## Marks -/

/-- Marks of more than one character, longer ones first. No mark begins with `>`, since such marks
are put together only where an operator is expected. -/
def longMarks : List String := [
  "...", "===", "!==", "**=", "<<=", "&&=", "||=", "??=",
  "=>", "==", "!=", "<=", "&&", "||", "??", "?.", "++", "--", "+=", "-=", "*=", "/=", "%=", "&=",
  "|=", "^=", "<<", "**"]

/-- Marks of one character. -/
def shortMarks : List Char :=
  ['{', '}', '(', ')', '[', ']', '.', ';', ',', '<', '>', '+', '-', '*', '/', '%', '&', '|', '^',
    '!', '~', '?', ':', '=', '@']

/-- Operators that begin with `>`, longer ones first. -/
def rightMarks : List String := [">>>=", ">>=", ">>>", ">=", ">>"]

/-- The characters after a given text, if they begin with it. -/
def after? (text : List Char) (chars : List Char) : Option (List Char) :=
  if text.isPrefixOf chars then some (chars.drop text.length) else none

/-- The longest of some marks that the characters begin with. -/
def markOf (marks : List String) (chars : List Char) : Option (String × List Char) :=
  marks.findSome? fun mark => (after? mark.toList chars).map fun rest => (mark, rest)

/-- Whether the characters begin with a question mark, a dot and a digit, which form no mark. -/
def isChoiceOfFraction : List Char → Bool
  | '?' :: '.' :: c :: _ => c.isDigit
  | _ => false

/-- Reads a mark. -/
def markPiece (start : Nat) (chars : List Char) : Piece :=
  match chars with
  | [] => ⟨.endOfText, start, [], []⟩
  | c :: rest =>
    let long := if isChoiceOfFraction chars then none else markOf longMarks chars
    match long with
    | some (mark, left) => ⟨.mark mark, start + mark.utf8ByteSize, left, []⟩
    | none =>
      if shortMarks.contains c then ⟨.mark (String.singleton c), start + 1, rest, []⟩
      else .wrong (.invalidCharacter c) start (start + c.utf8Size) rest

/-! ## Tokens -/

/-- Reads a token from its first character on. -/
def piece (start : Nat) (chars : List Char) : Piece :=
  match chars with
  | [] => ⟨.endOfText, start, [], []⟩
  | c :: rest =>
    if isWordFirst c then wordPiece .word start chars
    else if c.isDigit then numberPiece start chars
    else if c = '"' || c = '\'' then stringPiece c start chars
    else if c = '`' then templatePiece true start chars
    else if c = '#' then privatePiece start rest
    else if c = '\\' then
      if escapesWordFirst rest then wordPiece .word start chars
      else .wrong .invalidUnicodeEscape start (start + 1) rest
    else if c = '.' then
      match rest with
      | d :: _ => if d.isDigit then fractionPiece start ['.'] rest else markPiece start chars
      | [] => markPiece start chars
    else markPiece start chars

/-- Reads the text between tags up to the next tag or substitution. The marks that close these may
not stand in it. -/
def markupTextPiece (start : Nat) (chars : List Char) : Piece :=
  let text := chars.takeWhile fun c => !(['{', '<', '}', '>'].contains c)
  let stop := start + Text.byteSize text
  match chars.drop text.length with
  | c :: rest =>
    if c = '}' || c = '>' then .wrong .unexpectedToken stop stop (c :: rest)
    else ⟨.markupText (String.ofList text), stop, c :: rest, []⟩
  | [] => ⟨.markupText (String.ofList text), stop, [], []⟩

/-- Reads the content of an element: text, or the mark that ends it. -/
def contentPiece (start : Nat) (chars : List Char) : Piece :=
  match chars with
  | [] => ⟨.endOfText, start, [], []⟩
  | '{' :: rest => ⟨.mark "\x7b", start + 1, rest, []⟩
  | '<' :: rest => ⟨.mark "<", start + 1, rest, []⟩
  | _ => markupTextPiece start chars

/-- Reads the value of an attribute. In its quotes nothing is escaped. -/
def attributePiece (start : Nat) (chars : List Char) : Piece :=
  match chars with
  | c :: rest =>
    if c = '"' || c = '\'' then
      let text := rest.takeWhile (· != c)
      let stop := start + 1 + Text.byteSize text
      match rest.drop text.length with
      | _ :: left =>
        ⟨.string (String.ofList text) (String.ofList (c :: text ++ [c])) true, stop + 1, left, []⟩
      | [] => .wrong .openString start stop []
    else piece start chars
  | [] => piece start chars

/-- Goes on with a word of markup, whose names may hold dashes. -/
def markupWordPiece (name : String) (stop : Nat) (rest : List Char) : Piece :=
  let more := rest.takeWhile fun c => c == '-' || isWordRest c
  ⟨.word (name ++ String.ofList more) false, stop + Text.byteSize more, rest.drop more.length, []⟩

end PagePrelude.Module
