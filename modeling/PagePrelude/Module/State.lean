import PagePrelude.Module.Lexer

/-!
# The state of parsing

A parser looks at one token and knows the characters after it. Problems that do not
stop it are collected; the problem that does is the error of its result. A failed
attempt leaves no trace, because a state is a value.
-/

namespace PagePrelude.Module

/-- What a parser knows. -/
structure State where
  token : Token
  /-- The characters from the token on. -/
  here : List Char
  /-- The characters after the token. -/
  rest : List Char
  /-- Where the token before ended. -/
  previous : Nat
  /-- Problems met while reading tokens. -/
  lexical : List Diagnostic
  /-- Problems met since, in order. -/
  problems : List Diagnostic
  /-- Defaults of shorthand properties that no pattern has claimed. -/
  covers : List (Nat × Nat)
  /-- Exported names with their places, in order. -/
  exported : List (String × Nat × Nat)
  /-- The first comment. -/
  comment : Option (Nat × Nat)
  /-- Whether something that was only tried came to the end of the text. -/
  overran : Bool

/-- Parsers stop at the first problem that they cannot get past. -/
abbrev Parser := EStateM Diagnostic State

/-- What may stand at a place of the code. -/
structure Scope where
  /-- `await` is an operator. -/
  awaits : Bool := false
  /-- `yield` is an operator. -/
  yields : Bool := false
  /-- `return` may stand here. -/
  returns : Bool := false
  /-- `in` is an operator. -/
  hasIn : Bool := true
  deriving DecidableEq, Repr

/-- The scope of a module's items. -/
def Scope.top : Scope := { awaits := true }

/-- The scope inside brackets, where `in` is an operator again. -/
def Scope.inner (scope : Scope) : Scope := { scope with hasIn := true }

/-- The scope of a function's parameters and body. -/
def Scope.ofFunction (isAsync generator : Bool) : Scope :=
  { awaits := isAsync, yields := generator, returns := true }

namespace State

/-- Takes over a token that was read. -/
def take (state : State) (start : Nat) (afterBreak : Bool) (here : List Char)
    (piece : Piece) : State :=
  { state with
    token := ⟨piece.lexeme, start, piece.stop, afterBreak⟩
    here := here
    rest := piece.rest
    lexical := state.lexical ++ piece.problems }

/-- The state before the first token of some characters, which start at an offset. -/
def before (offset : Nat) (chars : List Char) : State :=
  { token := ⟨.endOfText, offset, offset, false⟩, here := chars, rest := chars, previous := offset,
    lexical := [], problems := [], covers := [], exported := [], comment := none, overran := false }

/-- Moves on to the next token. -/
def next (state : State) : State :=
  let state := { state with previous := state.token.stop }
  let gap := gap state.token.stop state.rest
  let state := { state with comment := state.comment.or gap.comment }
  match gap.openComment with
  | some start =>
    let state := { state with lexical := state.lexical ++ [⟨.openComment, start, gap.stop⟩] }
    take state gap.stop gap.afterBreak [] ⟨.endOfText, gap.stop, [], []⟩
  | none => take state gap.stop gap.afterBreak gap.rest (piece gap.stop gap.rest)

/-- Whether nothing is left of the text, and the current token may go on in a longer text. -/
def ended (state : State) : Bool :=
  state.rest.isEmpty && state.token.lexeme.isOpen

/-- The state after something was tried from it that came to another state. -/
def tried (state last : State) : State :=
  { state with overran := state.overran || last.overran || last.ended }

/-- The state after something was looked for from it in vain up to another state, at which the text
may have ended as it should. -/
def missed (state last : State) : State :=
  { state with overran := state.overran || last.overran || last.ended && !last.lexical.isEmpty }

/-- Passes over the rest of the text. -/
def atEnd (state : State) : State :=
  { state with token := { state.token with lexeme := .endOfText } }

/-- Takes back why the current token cannot be read, if that is known. -/
def withoutReason (state : State) : State :=
  match state.token.lexeme with
  | .endOfText | .unknown => { state with lexical := state.lexical.dropLast }
  | _ => state

end State

namespace Parser

/-- Moves on to the next token. -/
def advance : Parser Unit :=
  modify State.next

/-- Moves on to the content of an element. -/
def advanceContent : Parser Unit :=
  modify fun state =>
    State.take { state with previous := state.token.stop } state.token.stop false state.rest
      (contentPiece state.token.stop state.rest)

/-- Moves on to the value of an attribute. -/
def advanceAttribute : Parser Unit :=
  modify fun state =>
    let gap := gap state.token.stop state.rest
    State.take { state with previous := state.token.stop } gap.stop gap.afterBreak gap.rest
      (attributePiece gap.stop gap.rest)

/-- Reads the current token again in another way. -/
def reread (read : Nat → List Char → Piece) : Parser Unit :=
  modify fun state =>
    State.take state state.token.start state.token.afterBreak state.here
      (read state.token.start state.here)

/-- The current token. -/
def token : Parser Token :=
  return (← get).token

/-- The current lexeme. -/
def lexeme : Parser Lexeme :=
  return (← get).token.lexeme

/-- The start of the current token. -/
def start : Parser Nat :=
  return (← get).token.start

/-- The end of the token before. -/
def previous : Parser Nat :=
  return (← get).previous

/-- The token after the current one. -/
def peek : Parser Token := do
  let state ← get
  set (state.tried state.next)
  return state.next.token

/-- Stops with a problem. -/
def fail {α : Type} (problem : Problem) (start stop : Nat) : Parser α :=
  throw ⟨problem, start, stop⟩

/-- Notes a problem and goes on. -/
def note (problem : Problem) (start stop : Nat) : Parser Unit :=
  modify fun state => { state with problems := state.problems ++ [⟨problem, start, stop⟩] }

/-- Notes several problems of one place. -/
def noteAll (problems : List Problem) (start stop : Nat) : Parser Unit :=
  modify fun state => { state with problems := state.problems ++ problems.map (⟨·, start, stop⟩) }

/-- Stops with a problem of the current token. -/
def failToken {α : Type} (problem : Problem) : Parser α := do
  let token ← token
  fail problem token.start token.stop

/-- Stops because the current token cannot stand here. Where it could not be read, the reason for
that is the problem. -/
def unexpected {α : Type} : Parser α := do
  let state ← get
  set state.withoutReason
  match state.token.lexeme, state.lexical.getLast? with
  | .endOfText, some diagnostic | .unknown, some diagnostic => throw diagnostic
  | _, _ => failToken .unexpectedToken

/-- Whether the current token is a given mark. -/
def atMark (mark : String) : Parser Bool :=
  return (← lexeme) == .mark mark

/-- Whether the current token is a given word, spelled literally. -/
def atWord (word : String) : Parser Bool :=
  return (← lexeme) == .word word false

/-- Whether the current token is one that ends a list whatever encloses it. -/
def atUncertainEnd : Parser Bool := do
  match ← lexeme with
  | .endOfText | .unknown => return true
  | _ => return false

/-- Moves past a mark if it comes next. -/
def eat (mark : String) : Parser Bool := do
  if ← atMark mark then
    advance
    return true
  else return false

/-- Moves past a word if it comes next. -/
def eatWord (word : String) : Parser Bool := do
  if ← atWord word then
    advance
    return true
  else return false

/-- Stops because another token was required, which is looked for up to the end of the text. -/
def failExpected {α : Type} (wanted : String) : Parser α := do
  let token ← token
  modify State.atEnd
  fail (.expected wanted token.lexeme.shown) token.start token.stop

/-- Moves past a mark that must come next. -/
def expect (mark : String) : Parser Unit := do
  if !(← eat mark) then failExpected mark

/-- Moves past a word that must come next. -/
def expectWord (word : String) : Parser Unit := do
  if !(← eatWord word) then failExpected word

/-- A part that a mark closes. If it fails, the mark is looked for up to the end of the text. -/
def enclosed {α : Type} (part : Parser α) : Parser α := fun state =>
  match part state with
  | .ok value next => .ok value next
  | .error diagnostic last => .error diagnostic last.atEnd

/-- A part that something must follow. If it fails, that is missing as well, and is so for the
reason why the last token cannot be read. -/
def followed {α : Type} (part : Parser α) : Parser α := fun state =>
  match part state with
  | .ok value next => .ok value next
  | .error diagnostic last => .error diagnostic last.withoutReason

/-- Runs a parser; if it fails or finds nothing, everything is as before. -/
def attempt {α : Type} (parser : Parser (Option α)) : Parser (Option α) := fun state =>
  match parser state with
  | .ok (some value) next => .ok (some value) next
  | .ok none last => .ok none (state.missed last)
  | .error _ last => .ok none (state.tried last)

/-- What a parser finds, without moving on. -/
def lookAhead {α : Type} (parser : Parser α) : Parser (Option α) := fun state =>
  match parser state with
  | .ok value last => .ok (some value) (state.tried last)
  | .error _ last => .ok none (state.tried last)

/-- Stops because the text is too short for what is tried. -/
def exhausted {α : Type} : Parser α := do
  modify fun state => { state with overran := true }
  unexpected

/-- Repeats a step until it has a result, at most as often as there are characters left. -/
def repeatFor {α β : Type} (step : α → Parser (α ⊕ β)) : Nat → α → Parser β
  | 0, _ => exhausted
  | fuel + 1, a => do
    match ← step a with
    | .inl next => repeatFor step fuel next
    | .inr result => return result

/-- Repeats a step until it has a result. Every step but the last moves past a token. -/
def repeatStep {α β : Type} (step : α → Parser (α ⊕ β)) (first : α) : Parser β := do
  repeatFor step ((← get).rest.length + 2) first

/-- Stops because an item of a list is followed by another token than it can be. -/
def failExpectedOr {α : Type} (separator close : String) : Parser α := do
  let token ← token
  fail (.expectedOr separator close token.lexeme.shown) token.start token.stop

/-- One step of a list: the end of the list, or a separator and one more item. -/
def listStep {α : Type} (close : String) (item : Parser α) (items : List α) :
    Parser (List α ⊕ (List α × Option Nat)) := do
  if (← atMark close) || (← atUncertainEnd) then return .inr (items.reverse, none)
  else if ← eat "," then
    if ← atMark close then return .inr (items.reverse, some ((← previous) - 1))
    else return .inl ((← item) :: items)
  else failExpectedOr "," close

/-- Items separated by commas up to a mark that is left in place, and the place of a comma before
it. A text that ends, or cannot be read, ends the list as well. -/
def listUpTo {α : Type} (close : String) (item : Parser α) : Parser (List α × Option Nat) := do
  if (← atMark close) || (← atUncertainEnd) then return ([], none)
  else repeatStep (listStep close item) [← item]

/-- A list between two marks. -/
def listBetween {α : Type} (opening close : String) (item : Parser α) : Parser (List α) := do
  expect opening
  let (items, _) ← enclosed (listUpTo close item)
  expect close
  return items

/-- Ends a statement: by a semicolon, or where none is needed. -/
def endStatement : Parser Unit := do
  if ← eat ";" then return
  let state ← get
  if state.token.lexeme == .mark "\x7d" || state.token.lexeme == .endOfText ||
      state.token.afterBreak then return
  fail .noSemicolon state.previous state.previous

end Parser

end PagePrelude.Module
