import PagePrelude.Module.Statement

/-!
# Programs

Reading module code as a whole. A text is a program if reading it meets no problem at
all; otherwise the result is the list of problems.
-/

namespace PagePrelude.Module

/-- The grammar that allows nesting to a given depth. -/
def Grammar.level : Nat → Grammar
  | 0 => .empty
  | depth + 1 => {
    assignment := fun scope => Parser.assignment (level depth) scope
    target := fun scope => Parser.target (level depth) scope
    statement := fun scope inList => Parser.statement (level depth) scope inList
    construct := fun scope => Parser.construct (level depth) scope
    heritage := fun scope => Parser.chain (level depth) scope
    markup := fun scope child => Parser.markup (level depth) scope child }

/-- The grammar for a text. Nothing is nested deeper than a text is long. -/
def Grammar.ofLength (length : Nat) : Grammar :=
  .level (3 * length + 8)

/-- An item with the place where it stands. -/
structure PlacedItem where
  item : Item
  start : Nat
  stop : Nat
  deriving Repr

/-- The items of a text, from the first token on. -/
def Parser.items (g : Grammar) : Parser (List PlacedItem) :=
  repeatStep (fun (items : List PlacedItem) => do
    if (← lexeme) == .endOfText then return .inr items.reverse
    else
      let start ← start
      let item ← statement g Scope.top true
      return .inl (⟨item, start, ← previous⟩ :: items)) []

/-- Skips a first line that says how to run the text. -/
def afterShebang (chars : List Char) : List Char :=
  match chars with
  | '#' :: '!' :: rest => rest.dropWhile (!isBreak ·)
  | _ => chars

/-- The state at the first token of a text. -/
def State.ofText (text : String) : State :=
  let chars := text.toList
  let rest := afterShebang chars
  State.next (State.before (Text.byteSize chars - Text.byteSize rest) rest)

/-- The problems of names that are exported twice, each at the place of the first export. -/
def repeatedExports : List (String × Nat × Nat) → List (String × Nat × Nat) → List Diagnostic
  | _, [] => []
  | seen, (name, place) :: rest =>
    match seen.find? (·.1 == name) with
    | some (_, start, stop) => ⟨.duplicateExport name, start, stop⟩ :: repeatedExports seen rest
    | none => repeatedExports (seen ++ [(name, place)]) rest

/-- The problems that show once reading has ended. -/
def State.lateProblems (state : State) : List Diagnostic :=
  state.covers.map (fun (start, stop) => ⟨.objectAssignment, start, stop⟩) ++
    repeatedExports [] state.exported

/-- The characters of a text between two offsets. -/
def slice (text : String) (start stop : Nat) : List Char :=
  let rec go (place : Nat) : List Char → List Char
    | [] => []
    | c :: rest =>
      let more := go (place + c.utf8Size) rest
      if start ≤ place ∧ place < stop then c :: more else more
  go 0 text.toList

/-- Whether some characters stand side by side in others. -/
def occursIn (part : List Char) : List Char → Bool
  | [] => part.isEmpty
  | c :: rest => part.isPrefixOf (c :: rest) || occursIn part rest

/-- The problems to report, given all that were met. Code whose first comment names another
dialect has only that problem. -/
def reported (text : String) (state : State) (problems : List Diagnostic) : List Diagnostic :=
  match problems, state.comment with
  | _ :: _, some (start, stop) =>
    if occursIn "@flow".toList (slice text start stop) then [⟨.otherDialect, start, stop⟩]
    else problems
  | _, _ => problems

/-- All problems of a reading that came to the end, or to a problem that it could not get past. Such
a problem does not count if the reading then came to the end in search of something, and there is a
token that could not be read. -/
def State.allProblems (state : State) (fatal : Option Diagnostic) : List Diagnostic :=
  let counting := fatal.filter fun _ => state.lexical.isEmpty || state.token.lexeme != .endOfText
  state.lexical ++ state.problems ++ counting.toList ++ state.lateProblems

/-- What reads texts as module code: the items of a text, or what is wrong with it. -/
abbrev Reader := String → Except (List Diagnostic) (List Item)

/-- Reads a text as module code. -/
def readPlaced (text : String) : Except (List Diagnostic) (List PlacedItem) :=
  match Parser.items (Grammar.ofLength text.length) (State.ofText text) with
  | .ok items state =>
    match reported text state (state.allProblems none) with
    | [] => .ok items
    | problems => .error problems
  | .error diagnostic state => .error (reported text state (state.allProblems (some diagnostic)))

/-- The items of a text, if it is module code. -/
def read : Reader := fun text =>
  (readPlaced text).map (·.map PlacedItem.item)

/-- The expression that a text starts with, and the token after it. A text without tokens holds
no expression. -/
def Parser.wholeExpression (g : Grammar) : Parser (Option Code × Token) := do
  if (← lexeme) == .endOfText then return (none, ← token)
  else
    let code ← expression g Scope.top
    return (some code, ← token)

/-- Reads a text as an expression: the problems of its code, or the expression and the token
after it. -/
def readExpression (text : String) : Except (List Diagnostic) (Option Code × Token) :=
  let start := State.next (State.before 0 text.toList)
  match Parser.wholeExpression (Grammar.ofLength text.length) start with
  | .ok found state =>
    match state.allProblems none with
    | [] => .ok found
    | problems => .error problems
  | .error diagnostic state => .error (state.allProblems (some diagnostic))

end PagePrelude.Module
