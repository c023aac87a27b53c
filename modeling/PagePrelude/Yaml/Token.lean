import PagePrelude.Number.Hexadecimal
import PagePrelude.Yaml.Fault

/-!
# Tokens of YAML text
-/

namespace PagePrelude.Yaml

/-- What a token is. -/
inductive TokenKind where
  | streamStart
  | streamEnd
  | versionDirective (major minor : Nat)
  | tagDirective (handle expansion : String)
  | documentStart
  | documentEnd
  | blockSequenceStart
  | blockMappingStart
  | blockEnd
  | flowSequenceStart
  | flowSequenceEnd
  | flowMappingStart
  | flowMappingEnd
  | blockEntry
  | flowEntry
  | key
  | value
  | alias (name : String)
  | anchor (name : String)
  | tag (handle suffix : String)
  | scalar (text : String) (plain : Bool)
  deriving DecidableEq, Repr, Inhabited

/-- A token and the text it covers. -/
structure Token where
  kind : TokenKind
  start : Mark
  stop : Mark
  deriving Repr, Inhabited

/-- A place where the key of a mapping may have started, known only once a `:` follows. -/
structure SimpleKey where
  /-- Whether the block structure leaves no other reading. -/
  required : Bool
  /-- The number of the token that the key would start with. -/
  token : Nat
  mark : Mark
  deriving Repr

/-- The state of a scan. -/
structure Scan where
  rest : List Char
  mark : Mark := {}
  /-- How many flow collections are open. -/
  flowLevel : Nat := 0
  /-- The column of the innermost block collection. -/
  indent : Int := -1
  /-- The columns of the enclosing block collections. -/
  indents : List Int := []
  /-- Whether a simple key may start here. -/
  keyAllowed : Bool := true
  /-- The possible simple key of every open flow level, the innermost first. -/
  keys : List (Option SimpleKey) := [none]
  /-- Tokens that were scanned and not yet given out. -/
  queue : List Token := []
  /-- How many tokens were given out. -/
  given : Nat := 0
  /-- Whether the end of the text was reached. -/
  ended : Bool := false
  deriving Repr

/-- A computation on the state of a scan. -/
abbrev Scanner (α : Type) := StateT Scan (Except Fault) α

namespace Scanner

/-- Fails at the current mark. -/
def fail {α : Type} (problem : String) (context : Option Context := none) : Scanner α := do
  throw (.grammar problem (← get).mark context)

/-- Fails at the current mark while reading the construct that started at `start`. -/
def failIn {α : Type} (words : String) (start : Mark) (problem : String) : Scanner α :=
  fail problem (some ⟨words, start⟩)

/-- The character `n` places ahead. -/
def ahead (n : Nat := 0) : Scanner (Option Char) := do
  return (← get).rest[n]?

/-- Line breaks. -/
def isBreak (c : Char) : Bool :=
  c == '\r' || c == '\n' || c.toNat == 0x85 || c.toNat == 0x2028 || c.toNat == 0x2029

/-- Spaces and tabs. -/
def isBlank (c : Char) : Bool := c == ' ' || c == '\t'

/-- Whether a place holds a line break or the end of the text. -/
def breakOrEnd : Option Char → Bool
  | none => true
  | some c => isBreak c

/-- Whether a place holds a blank, a line break or the end of the text. -/
def blankOrEnd : Option Char → Bool
  | none => true
  | some c => isBlank c || isBreak c

/-- Characters of the names of anchors, handles and directives. -/
def isNameChar (c : Char) : Bool := c.isAlphanum || c == '_' || c == '-'

/-- Reads one character that is no line break. -/
def skip : Scanner Unit :=
  modify fun s => { s with
    rest := s.rest.drop 1
    mark := ⟨s.mark.index + 1, s.mark.line, s.mark.column + 1⟩ }

/-- Reads several characters that are no line breaks. -/
def skipN (n : Nat) : Scanner Unit :=
  modify fun s => { s with
    rest := s.rest.drop n
    mark := ⟨s.mark.index + n, s.mark.line, s.mark.column + n⟩ }

/-- Reads a line break and gives the characters it stands for. -/
def lineBreak : Scanner (List Char) := do
  let s ← get
  let (size, text) :=
    match s.rest with
    | '\r' :: '\n' :: _ => (2, ['\n'])
    | c :: _ => (1, if c.toNat == 0x2028 || c.toNat == 0x2029 then [c] else ['\n'])
    | [] => (0, [])
  set { s with
    rest := s.rest.drop size
    mark := ⟨s.mark.index + size, s.mark.line + 1, 0⟩ }
  return text

/-- Reads the characters that satisfy `p`, none of them a line break. -/
def takeWhile (p : Char → Bool) : Scanner (List Char) := do
  let taken := (← get).rest.takeWhile p
  skipN taken.length
  return taken

/-- Reads to the end of the line. -/
def skipLine : Scanner Unit := do
  let _ ← takeWhile (fun c => !isBreak c)

/-- Adds a token to the queue. -/
def enqueue (kind : TokenKind) (start stop : Mark) : Scanner Unit :=
  modify fun s => { s with queue := s.queue ++ [⟨kind, start, stop⟩] }

/-- Puts a token before the queued token with the given number. -/
def insertToken (number : Nat) (token : Token) : Scanner Unit :=
  modify fun s =>
    let place := number - s.given
    { s with queue := s.queue.take place ++ token :: s.queue.drop place }

/-- Fails for a required simple key that met no `:`. -/
def failKey {α : Type} (key : SimpleKey) : Scanner α :=
  failIn "while scanning a simple key" key.mark "could not find expected ':'"

/-- Drops one possible key that can no longer be one: keys stay on one line and are short. -/
def checkKey (mark : Mark) (key : Option SimpleKey) : Scanner (Option SimpleKey) :=
  match key with
  | some k =>
    if k.mark.line < mark.line || k.mark.index + 1024 < mark.index then
      if k.required then failKey k else pure none
    else pure key
  | none => pure none

/-- Drops the possible keys that can no longer be keys. -/
def dropStaleKeys : Scanner Unit := do
  let s ← get
  let keys ← s.keys.reverse.mapM (checkKey s.mark)
  modify fun s => { s with keys := keys.reverse }

/-- Gives up the possible key of the current level. -/
def removeKey : Scanner Unit := do
  match (← get).keys with
  | some key :: rest =>
    if key.required then failKey key else modify ({ · with keys := none :: rest })
  | _ => pure ()

/-- Notes that a simple key may start here. -/
def saveKey : Scanner Unit := do
  let s ← get
  if s.keyAllowed then
    let required := s.flowLevel == 0 && s.indent == (s.mark.column : Int)
    removeKey
    modify fun s => { s with
      keys := some ⟨required, s.given + s.queue.length, s.mark⟩ :: s.keys.drop 1 }

/-- Says whether a simple key may start next. -/
def allowKey (allowed : Bool) : Scanner Unit :=
  modify ({ · with keyAllowed := allowed })

/-- Opens a block collection where the column is deeper than the current one. -/
def rollIndent (column : Nat) (number : Option Nat) (kind : TokenKind) (mark : Mark) :
    Scanner Unit := do
  let s ← get
  if s.flowLevel == 0 && s.indent < (column : Int) then
    set { s with indents := s.indent :: s.indents, indent := column }
    match number with
    | none => enqueue kind mark mark
    | some n => insertToken n ⟨kind, mark, mark⟩

/-- Closes the block collections that are deeper than the column. -/
def closeBlocks (column : Int) (mark : Mark) :
    Int → List Int → List Token → Int × List Int × List Token
  | indent, [], queue => (indent, [], queue)
  | indent, outer :: more, queue =>
    if column < indent then
      closeBlocks column mark outer more (queue ++ [⟨.blockEnd, mark, mark⟩])
    else (indent, outer :: more, queue)

/-- Closes the block collections that are deeper than the column, outside flow collections. -/
def unrollIndent (column : Int) : Scanner Unit :=
  modify fun s =>
    if s.flowLevel != 0 then s
    else
      let (indent, indents, queue) := closeBlocks column s.mark s.indent s.indents s.queue
      { s with indent := indent, indents := indents, queue := queue }

/-- Skips blanks, comments and line breaks before the next token. Tabs are no indentation. -/
def skipToToken : Nat → Scanner Unit
  | 0 => pure ()
  | fuel + 1 => do
    let s ← get
    if s.mark.index == 0 && (s.rest.head?.map Char.toNat) == some 0xFEFF then skip
    let tabs := s.flowLevel != 0 || !s.keyAllowed
    let _ ← takeWhile fun c => c == ' ' || (tabs && c == '\t')
    if (← ahead) == some '#' then skipLine
    match ← ahead with
    | some c =>
      if isBreak c then
        let _ ← lineBreak
        if (← get).flowLevel == 0 then allowKey true
        skipToToken fuel
    | none => pure ()

/-- A token that is one character long. -/
def single (kind : TokenKind) (size : Nat := 1) : Scanner Unit := do
  let start := (← get).mark
  skipN size
  enqueue kind start (← get).mark

/-- The token for the end of the text. -/
def streamEnd : Scanner Unit := do
  let s ← get
  if s.mark.column != 0 then set { s with mark := ⟨s.mark.index, s.mark.line + 1, 0⟩ }
  unrollIndent (-1)
  removeKey
  allowKey false
  let mark := (← get).mark
  enqueue .streamEnd mark mark
  modify ({ · with ended := true })

/-- The number of a version directive. -/
def versionNumber (start : Mark) : Scanner Nat := do
  let digits ← takeWhile Char.isDigit
  if digits.length > 9 then
    failIn "while scanning a %YAML directive" start "found extremely long version number"
  else if digits.isEmpty then
    failIn "while scanning a %YAML directive" start "did not find expected version number"
  else return digits.foldl (fun n c => n * 10 + (c.toNat - 48)) 0

/-- The handle of a tag. -/
def tagHandle (directive : Bool) (start : Mark) : Scanner String := do
  if (← ahead) != some '!' then
    failIn (if directive then "while scanning a tag directive" else "while scanning a tag") start
      "did not find expected '!'"
  else
    skip
    let name ← takeWhile isNameChar
    if (← ahead) == some '!' then
      skip
      return String.ofList ('!' :: name ++ ['!'])
    else if directive && !name.isEmpty then
      failIn "while parsing a tag directive" start "did not find expected '!'"
    else return String.ofList ('!' :: name)

/-- One byte of a tag written as `%` and two digits. -/
def escapedByte (words : String) (start : Mark) : Scanner Nat := do
  match (← ahead 0), ((← ahead 1).bind Number.hexValue?), ((← ahead 2).bind Number.hexValue?) with
  | some '%', some a, some b =>
    skipN 3
    return a * 16 + b
  | _, _, _ => failIn words start "did not find URI escaped octet"

/-- Further bytes of an escaped character. -/
def escapedTail (words : String) (start : Mark) : Nat → Nat → Scanner Nat
  | 0, value => pure value
  | n + 1, value => do
    let byte ← escapedByte words start
    if byte / 64 != 2 then failIn words start "found an incorrect trailing UTF-8 octet"
    else escapedTail words start n (value * 64 + byte % 64)

/-- A character of a tag, written as its escaped bytes. -/
def escapedChar (words : String) (start : Mark) : Scanner Char := do
  let first ← escapedByte words start
  let code ←
    if first < 0x80 then pure first
    else if first / 32 == 6 then escapedTail words start 1 (first % 32)
    else if first / 16 == 14 then escapedTail words start 2 (first % 16)
    else if first / 8 == 30 then escapedTail words start 3 (first % 8)
    else failIn words start "found an incorrect leading UTF-8 octet"
  return Char.ofNat code

/-- Characters that a tag may hold. -/
def isTagChar (inBrackets : Bool) (c : Char) : Bool :=
  isNameChar c || ";/?:@&=+$.!~*'()%".toList.contains c || (inBrackets && ",[]".toList.contains c)

/-- The characters of a tag; `fuel` bounds their number. -/
def tagChars (inBrackets : Bool) (words : String) (start : Mark) :
    Nat → List Char → Scanner (List Char)
  | 0, read => pure read.reverse
  | fuel + 1, read => do
    match ← ahead with
    | some '%' => tagChars inBrackets words start fuel ((← escapedChar words start) :: read)
    | some c =>
      if isTagChar inBrackets c then
        skip
        tagChars inBrackets words start fuel (c :: read)
      else return read.reverse
    | none => return read.reverse

/-- The part of a tag after its handle; `head` is a text that turned out to be no handle. -/
def tagUri (inBrackets directive : Bool) (head : String) (start : Mark) : Scanner String := do
  let words := if directive then "while parsing a %TAG directive" else "while parsing a tag"
  let read ← tagChars inBrackets words start ((← get).rest.length + 1) []
  if head.isEmpty && read.isEmpty then failIn words start "did not find expected tag URI"
  else return String.ofList (head.toList.drop 1 ++ read)

/-- A `%YAML` or `%TAG` directive. -/
def directive : Scanner Unit := do
  unrollIndent (-1)
  removeKey
  allowKey false
  let start := (← get).mark
  let words := "while scanning a directive"
  skip
  let name := String.ofList (← takeWhile isNameChar)
  if name.isEmpty then failIn words start "could not find expected directive name"
  if !blankOrEnd (← ahead) then failIn words start "found unexpected non-alphabetical character"
  if name == "YAML" then
    let _ ← takeWhile isBlank
    let major ← versionNumber start
    if (← ahead) != some '.' then
      failIn "while scanning a %YAML directive" start
        "did not find expected digit or '.' character"
    skip
    let minor ← versionNumber start
    enqueue (.versionDirective major minor) start (← get).mark
  else if name == "TAG" then
    let _ ← takeWhile isBlank
    let handle ← tagHandle true start
    if !((← ahead).any isBlank) then
      failIn "while scanning a %TAG directive" start "did not find expected whitespace"
    let _ ← takeWhile isBlank
    let expansion ← tagUri true true "" start
    if !blankOrEnd (← ahead) then
      failIn "while scanning a %TAG directive" start
        "did not find expected whitespace or line break"
    enqueue (.tagDirective handle expansion) start (← get).mark
  else failIn words start "found unknown directive name"
  let _ ← takeWhile isBlank
  if (← ahead) == some '#' then skipLine
  if !breakOrEnd (← ahead) then
    failIn words start "did not find expected comment or line break"
  if (← ahead).isSome then
    let _ ← lineBreak

/-- A `---` or `...` line. -/
def documentMark (kind : TokenKind) : Scanner Unit := do
  unrollIndent (-1)
  removeKey
  allowKey false
  single kind 3

/-- The start of a flow collection. -/
def flowStart (kind : TokenKind) : Scanner Unit := do
  saveKey
  modify fun s => { s with flowLevel := s.flowLevel + 1, keys := none :: s.keys }
  allowKey true
  single kind

/-- The end of a flow collection. -/
def flowEnd (kind : TokenKind) : Scanner Unit := do
  removeKey
  modify fun s =>
    if s.flowLevel = 0 then s
    else { s with flowLevel := s.flowLevel - 1, keys := s.keys.drop 1 }
  allowKey false
  single kind

/-- The comma of a flow collection. -/
def flowEntry : Scanner Unit := do
  removeKey
  allowKey true
  single .flowEntry

/-- The dash of a block sequence. -/
def blockEntry : Scanner Unit := do
  let s ← get
  if s.flowLevel == 0 then
    if !s.keyAllowed then fail "block sequence entries are not allowed in this context"
    rollIndent s.mark.column none .blockSequenceStart s.mark
  removeKey
  allowKey true
  single .blockEntry

/-- The question mark of an explicit key. -/
def explicitKey : Scanner Unit := do
  let s ← get
  if s.flowLevel == 0 then
    if !s.keyAllowed then fail "mapping keys are not allowed in this context"
    rollIndent s.mark.column none .blockMappingStart s.mark
  removeKey
  allowKey (s.flowLevel == 0)
  single .key

/-- The colon between a key and its value. -/
def valueMark : Scanner Unit := do
  let s ← get
  match s.keys with
  | some key :: more =>
    insertToken key.token ⟨.key, key.mark, key.mark⟩
    rollIndent key.mark.column (some key.token) .blockMappingStart key.mark
    modify ({ · with keys := none :: more })
    allowKey false
  | _ =>
    if s.flowLevel == 0 then
      if !s.keyAllowed then fail "mapping values are not allowed in this context"
      rollIndent s.mark.column none .blockMappingStart s.mark
    allowKey (s.flowLevel == 0)
  single .value

/-- An anchor or an alias. -/
def anchorOrAlias (isAlias : Bool) : Scanner Unit := do
  saveKey
  allowKey false
  let start := (← get).mark
  skip
  let name ← takeWhile isNameChar
  let follows ← ahead
  let closed := blankOrEnd follows || follows.any fun c => "?:,]\x7d%@`".toList.contains c
  if name.isEmpty || !closed then
    failIn (if isAlias then "while scanning an alias" else "while scanning an anchor") start
      "did not find expected alphabetic or numeric character"
  let text := String.ofList name
  enqueue (if isAlias then .alias text else .anchor text) start (← get).mark

/-- A tag. -/
def tag : Scanner Unit := do
  saveKey
  allowKey false
  let start := (← get).mark
  let words := "while scanning a tag"
  let (handle, suffix) ← do
    if (← ahead 1) == some '<' then
      skipN 2
      let suffix ← tagUri true false "" start
      if (← ahead) != some '>' then failIn words start "did not find the expected '>'"
      skip
      pure ("", suffix)
    else
      let handle ← tagHandle false start
      if handle.length > 1 && handle.toList.getLast? == some '!' then
        pure (handle, ← tagUri false false "" start)
      else
        let suffix ← tagUri false false handle start
        pure (if suffix.isEmpty then ("", "!") else ("!", suffix))
  let follows ← ahead
  if !(blankOrEnd follows || ((← get).flowLevel != 0 && follows == some ',')) then
    failIn words start "did not find expected whitespace or line break"
  enqueue (.tag handle suffix) start (← get).mark

/-- Whether a line at the current place starts with `---` or `...`. -/
def atDocumentMark : Scanner Bool := do
  let s ← get
  let marked :=
    match s.rest with
    | '-' :: '-' :: '-' :: more => blankOrEnd more.head?
    | '.' :: '.' :: '.' :: more => blankOrEnd more.head?
    | _ => false
  return s.mark.column == 0 && marked

/-- Blank lines and indentation inside a block scalar: the line breaks read and the deepest
column of them. -/
def scalarBreaks (start : Mark) (indent : Nat) : Nat → Nat → List Char → Scanner (Nat × List Char)
  | 0, deepest, breaks => pure (deepest, breaks)
  | fuel + 1, deepest, breaks => do
    let column := (← get).mark.column
    let spaces := ((← get).rest.takeWhile (· == ' ')).length
    skipN (if indent = 0 then spaces else min spaces (indent - column))
    let column := (← get).mark.column
    let deepest := max deepest column
    if (indent = 0 || column < indent) && (← ahead) == some '\t' then
      failIn "while scanning a block scalar" start
        "found a tab character where an indentation space is expected"
    if (← ahead).any isBreak then
      scalarBreaks start indent fuel deepest (breaks ++ (← lineBreak))
    else return (deepest, breaks)

/-- The lines of a block scalar: the text so far, the break of the last line, the blank lines
after it and whether that line started with a blank. -/
def scalarLines (literal : Bool) (start : Mark) (indent : Nat) :
    Nat → List Char → List Char → List Char → Bool → Scanner (List Char × List Char × List Char)
  | 0, text, leading, trailing, _ => pure (text, leading, trailing)
  | fuel + 1, text, leading, trailing, afterBlank => do
    if (← get).mark.column == indent && (← ahead).isSome then
      let startsBlank := (← ahead).any isBlank
      let folded := !literal && leading.head? == some '\n' && !afterBlank && !startsBlank
      let joint := if folded then (if trailing.isEmpty then [' '] else []) else leading
      let line ← takeWhile (fun c => !isBreak c)
      let leading ← lineBreak
      let (_, breaks) ← scalarBreaks start indent ((← get).rest.length + 1) 0 []
      scalarLines literal start indent fuel (text ++ joint ++ trailing ++ line) leading breaks
        startsBlank
    else return (text, leading, trailing)

/-- How the line breaks at the end of a block scalar are kept. -/
inductive Chomp where
  | strip
  | clip
  | keep
  deriving DecidableEq, Repr

/-- The indicators after `|` or `>`. -/
def scalarHeader (start : Mark) : Scanner (Chomp × Nat) := do
  let chomp : Scanner (Option Chomp) := do
    match ← ahead with
    | some '+' => skip; return some .keep
    | some '-' => skip; return some .strip
    | _ => return none
  let increment : Scanner Nat := do
    match ← ahead with
    | some '0' =>
      failIn "while scanning a block scalar" start "found an indentation indicator equal to 0"
    | some c =>
      if c.isDigit then
        skip
        return c.toNat - 48
      else return 0
    | none => return 0
  match ← chomp with
  | some kind => return (kind, ← increment)
  | none =>
    let width ← increment
    if width = 0 then return (.clip, 0)
    else return ((← chomp).getD .clip, width)

/-- A block scalar. -/
def blockScalar (literal : Bool) : Scanner Unit := do
  removeKey
  allowKey true
  let start := (← get).mark
  skip
  let (chomp, increment) ← scalarHeader start
  let _ ← takeWhile isBlank
  if (← ahead) == some '#' then skipLine
  if !breakOrEnd (← ahead) then
    failIn "while scanning a block scalar" start "did not find expected comment or line break"
  if (← ahead).isSome then
    let _ ← lineBreak
  let s ← get
  let fuel := s.rest.length + 1
  let given := if increment = 0 then 0 else (max s.indent 0).toNat + increment
  let (deepest, breaks) ← scalarBreaks start given fuel 0 []
  let indent := if given = 0 then max (max deepest (s.indent + 1).toNat) 1 else given
  let (text, leading, trailing) ← scalarLines literal start indent fuel [] [] breaks false
  let text := if chomp = .strip then text else text ++ leading
  let text := if chomp = .keep then text ++ trailing else text
  enqueue (.scalar (String.ofList text) false) start (← get).mark

/-- Joins two runs of a scalar across blanks: a single line break becomes a space. -/
def joint (broken : Bool) (blanks leading trailing : List Char) : List Char :=
  if broken then
    if leading.head? == some '\n' then (if trailing.isEmpty then [' '] else trailing)
    else leading ++ trailing
  else blanks

/-- Blanks and line breaks inside a scalar, read after `broken` says whether a line break was
read: the blanks of the first line, the first line break and the others. -/
def blanks (tabLimit : Option (Mark × Int)) :
    Nat → Bool → List Char → List Char → List Char →
      Scanner (Bool × List Char × List Char × List Char)
  | 0, broken, space, leading, trailing => pure (broken, space, leading, trailing)
  | fuel + 1, broken, space, leading, trailing => do
    match ← ahead with
    | some c =>
      if isBlank c then
        match tabLimit with
        | some (start, limit) =>
          if broken && ((← get).mark.column : Int) < limit && c == '\t' then
            failIn "while scanning a plain scalar" start
              "found a tab character that violates indentation"
        | none => pure ()
        skip
        blanks tabLimit fuel broken (if broken then space else space ++ [c]) leading trailing
      else if isBreak c then
        let text ← lineBreak
        if broken then blanks tabLimit fuel true space leading (trailing ++ text)
        else blanks tabLimit fuel true [] text trailing
      else return (broken, space, leading, trailing)
    | none => return (broken, space, leading, trailing)

/-- The character that a simple escape of a quoted scalar stands for. -/
def simpleEscape (c : Char) : Option Char :=
  match c with
  | '0' => some (Char.ofNat 0)
  | 'a' => some (Char.ofNat 7)
  | 'b' => some (Char.ofNat 8)
  | 't' | '\t' => some '\t'
  | 'n' => some '\n'
  | 'v' => some (Char.ofNat 11)
  | 'f' => some (Char.ofNat 12)
  | 'r' => some '\r'
  | 'e' => some (Char.ofNat 27)
  | ' ' => some ' '
  | '"' => some '"'
  | '/' => some '/'
  | '\\' => some '\\'
  | 'N' => some (Char.ofNat 0x85)
  | '_' => some (Char.ofNat 0xA0)
  | 'L' => some (Char.ofNat 0x2028)
  | 'P' => some (Char.ofNat 0x2029)
  | _ => none

/-- How many digits follow a numeric escape. -/
def escapeWidth (c : Char) : Option Nat :=
  match c with
  | 'x' => some 2
  | 'u' => some 4
  | 'U' => some 8
  | _ => none

/-- The code point written by `n` hexadecimal digits from the place `i` on. -/
def hexCode (start : Mark) : Nat → Nat → Nat → Scanner Nat
  | 0, _, value => pure value
  | n + 1, i, value => do
    match (← ahead i).bind Number.hexValue? with
    | some d => hexCode start n (i + 1) (value * 16 + d)
    | none =>
      failIn "while parsing a quoted scalar" start "did not find expected hexdecimal number"

/-- Reads an escape of a double-quoted scalar. -/
def quotedEscape (start : Mark) : Scanner Char := do
  let words := "while parsing a quoted scalar"
  match ← ahead 1 with
  | none => failIn words start "found unknown escape character"
  | some c =>
    match simpleEscape c, escapeWidth c with
    | some meaning, _ =>
      skipN 2
      return meaning
    | none, some width =>
      skipN 2
      let code ← hexCode start width 0 0
      if (0xD800 ≤ code && code ≤ 0xDFFF) || 0x10FFFF < code then
        failIn words start "found invalid Unicode character escape code"
      skipN width
      return Char.ofNat code
    | none, none => failIn words start "found unknown escape character"

/-- A run of a quoted scalar up to a blank, its closing quote or an escaped line break. -/
def quotedRun (single : Bool) (start : Mark) : Nat → List Char → Scanner (List Char × Bool)
  | 0, text => pure (text, false)
  | fuel + 1, text => do
    match ← ahead with
    | none => return (text, false)
    | some c =>
      if isBlank c || isBreak c then return (text, false)
      else if single && c == '\'' && (← ahead 1) == some '\'' then
        skipN 2
        quotedRun single start fuel (text ++ [c])
      else if c == (if single then '\'' else '"') then return (text, false)
      else if !single && c == '\\' then
        if (← ahead 1).any isBreak then
          skip
          let _ ← lineBreak
          return (text, true)
        else quotedRun single start fuel (text ++ [← quotedEscape start])
      else
        skip
        quotedRun single start fuel (text ++ [c])

/-- The text of a quoted scalar after its opening quote. -/
def quotedText (single : Bool) (start : Mark) : Nat → List Char → Scanner (List Char)
  | 0, text => pure text
  | fuel + 1, text => do
    let words := "while scanning a quoted scalar"
    if ← atDocumentMark then failIn words start "found unexpected document indicator"
    if (← ahead).isNone then failIn words start "found unexpected end of stream"
    let (text, escaped) ← quotedRun single start ((← get).rest.length + 1) text
    if (← ahead) == some (if single then '\'' else '"') then
      skip
      return text
    let (broken, space, leading, trailing) ←
      blanks none ((← get).rest.length + 1) escaped [] [] []
    quotedText single start fuel (text ++ joint broken space leading trailing)

/-- A quoted scalar. -/
def quoted (single : Bool) : Scanner Unit := do
  saveKey
  allowKey false
  let start := (← get).mark
  skip
  let text ← quotedText single start ((← get).rest.length + 2) []
  enqueue (.scalar (String.ofList text) false) start (← get).mark

/-- The characters that delimit flow collections. -/
def isFlowMark (c : Char) : Bool := ",[]\x7b\x7d".toList.contains c

/-- A run of a plain scalar up to a blank or an indicator. -/
def plainRun (start : Mark) (inFlow : Bool) : Nat → List Char → Scanner (List Char)
  | 0, run => pure run.reverse
  | fuel + 1, run => do
    match ← ahead with
    | none => return run.reverse
    | some c =>
      let follows ← ahead 1
      if isBlank c || isBreak c then return run.reverse
      else if inFlow && c == ':' && follows.any (fun d => isFlowMark d || d == '?') then
        failIn "while scanning a plain scalar" start "found unexpected ':'"
      else if (c == ':' && blankOrEnd follows) || (inFlow && isFlowMark c) then
        return run.reverse
      else
        skip
        plainRun start inFlow fuel (c :: run)

/-- The text of a plain scalar: `text` ends at `stop`, and the blanks read since are to be
joined where another run follows. -/
def plainText (start : Mark) (indent : Int) :
    Nat → List Char → Mark → Bool × List Char × List Char × List Char →
      Scanner (List Char × Mark × Bool)
  | 0, text, stop, gap => pure (text, stop, gap.1)
  | fuel + 1, text, stop, gap => do
    let s ← get
    if (← atDocumentMark) || s.rest.head? == some '#' then return (text, stop, gap.1)
    else
      let run ← plainRun start (s.flowLevel != 0) (s.rest.length + 1) []
      let here := (← get).mark
      let (text, stop, gap) :=
        if run.isEmpty then (text, stop, gap)
        else (text ++ joint gap.1 gap.2.1 gap.2.2.1 gap.2.2.2 ++ run, here, (false, [], [], []))
      if !((← ahead).any fun c => isBlank c || isBreak c) then return (text, stop, gap.1)
      else
        let (broken, space, leading, trailing) := gap
        let most := (← get).rest.length + 1
        let gap ← blanks (some (start, indent)) most broken space leading trailing
        let s ← get
        if s.flowLevel == 0 && (s.mark.column : Int) < indent then return (text, stop, gap.1)
        else plainText start indent fuel text stop gap

/-- A plain scalar. -/
def plain : Scanner Unit := do
  saveKey
  allowKey false
  let s ← get
  let (text, stop, broken) ←
    plainText s.mark (s.indent + 1) (s.rest.length + 1) [] s.mark (false, [], [], [])
  enqueue (.scalar (String.ofList text) true) s.mark stop
  if broken then allowKey true

/-- Characters that start no plain scalar. -/
def isIndicator (c : Char) : Bool := "-?:,[]\x7b\x7d#&*!|>'\"%@`".toList.contains c

/-- Scans the next token, with the collection tokens that come before it. -/
def fetch : Scanner Unit := do
  skipToToken ((← get).rest.length + 1)
  dropStaleKeys
  unrollIndent (← get).mark.column
  let s ← get
  let inFlow := s.flowLevel != 0
  match s.rest with
  | [] => streamEnd
  | c :: more =>
    let apart := blankOrEnd more.head?
    if s.mark.column == 0 && c == '%' then directive
    else if ← atDocumentMark then
      documentMark (if c == '-' then .documentStart else .documentEnd)
    else if c == '[' then flowStart .flowSequenceStart
    else if c == '{' then flowStart .flowMappingStart
    else if c == ']' then flowEnd .flowSequenceEnd
    else if c == '}' then flowEnd .flowMappingEnd
    else if c == ',' then flowEntry
    else if c == '-' && apart then blockEntry
    else if c == '?' && (inFlow || apart) then explicitKey
    else if c == ':' && (inFlow || apart) then valueMark
    else if c == '*' then anchorOrAlias true
    else if c == '&' then anchorOrAlias false
    else if c == '!' then tag
    else if c == '|' && !inFlow then blockScalar true
    else if c == '>' && !inFlow then blockScalar false
    else if c == '\'' then quoted true
    else if c == '"' then quoted false
    else if !(isIndicator c || isBlank c) || (c == '-' && !(more.head?.any isBlank)) ||
        (!inFlow && (c == '?' || c == ':')) then plain
    else
      failIn "while scanning for the next token" s.mark
        "found character that cannot start any token"

/-- Whether the oldest queued token may still turn out to follow a key token. -/
def headUndecided (s : Scan) : Bool :=
  s.keys.any fun key => key.any fun k => k.token == s.given

/-- Gives out tokens, scanning further while the oldest one is undecided. -/
def stream : Nat → Scan → List Token → List Token × Option Fault
  | 0, _, out => (out.reverse, none)
  | fuel + 1, s, out =>
    match s.queue with
    | token :: queue =>
      match dropStaleKeys.run s with
      | .error fault => (out.reverse, some fault)
      | .ok (_, s) =>
        if headUndecided s && !s.ended then
          match fetch.run s with
          | .error fault => (out.reverse, some fault)
          | .ok (_, s) => stream fuel s out
        else stream fuel { s with queue := queue, given := s.given + 1 } (token :: out)
    | [] =>
      if s.ended then (out.reverse, none)
      else
        match fetch.run s with
        | .error fault => (out.reverse, some fault)
        | .ok (_, s) => stream fuel s out

end Scanner

/-- Characters that a YAML text may hold. -/
def isAllowed (c : Char) : Bool :=
  let n := c.toNat
  n == 0x09 || n == 0x0A || n == 0x0D || (0x20 ≤ n && n ≤ 0x7E) || n == 0x85 ||
    (0xA0 ≤ n && n ≤ 0xFFFD) || 0x10000 ≤ n

/-- The byte offset of the first character that is not allowed. -/
def controlOffset : Nat → List Char → Option Nat
  | _, [] => none
  | offset, c :: cs => if isAllowed c then controlOffset (offset + c.utf8Size) cs else some offset

/-- The tokens of a text, up to the fault that stops the scan if there is one. -/
def Token.ofText (text : String) : List Token × Option Fault :=
  let chars := text.toList
  match controlOffset 0 chars with
  | some offset => ([], some (.control offset))
  | none =>
    let chars := if (chars.head?.map Char.toNat) == some 0xFEFF then chars.drop 1 else chars
    let start : Token := ⟨.streamStart, {}, {}⟩
    Scanner.stream (8 * chars.length + 64) { rest := chars, queue := [start] } []

end PagePrelude.Yaml
