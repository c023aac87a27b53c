import PagePrelude.Module.Expression

/-!
# Markup in module code

Elements and fragments among expressions. Between tags, text is read as it stands; the
closing bracket of a tag therefore decides how the characters after it are read.
-/

namespace PagePrelude.Module.Parser

/-- A name in markup, which may hold dashes. -/
def markupWord : Parser String := do
  match ← lexeme with
  | .word name _ => do
    modify fun state =>
      State.take { state with lexical := state.lexical } state.token.start state.token.afterBreak
        state.here (markupWordPiece name state.token.stop state.rest)
    match ← lexeme with
    | .word name _ => do
      advance
      return name
    | _ => unexpected
  | _ => unexpected

/-- The name of an element: a word, a namespace with a word, or a chain of accesses. -/
def elementName : Parser Code := do
  let first ← markupWord
  if ← eat ":" then
    return .node .namespaced [.name first, .name (← markupWord)]
  else
    repeatStep (fun (code : Code) => do
      if ← eat "." then return .inl (.node (.access false) [code, .word (← markupWord)])
      else return .inr code) (.name first)

/-- The text of an element's name. -/
def elementText : Code → String
  | .name text => text
  | .word text => text
  | .node .namespaced [first, second] => elementText first ++ ":" ++ elementText second
  | .node (.access _) [object, word] => elementText object ++ "." ++ elementText word
  | _ => ""

/-- The name of an attribute. -/
def attributeName : Parser Code := do
  let first ← markupWord
  if ← eat ":" then return .node .namespaced [.name first, .name (← markupWord)]
  else return .name first

/-- Moves past the mark that ends a tag or a substitution; `child` says that content follows. -/
def expectEnd (mark : String) (child : Bool) : Parser Unit := do
  if !(← atMark mark) then failExpected mark
  if child then advanceContent else advance

/-- An expression that may hold no comma outside of brackets. -/
def loneExpression (g : Grammar) (scope : Scope) : Parser Code := do
  let start ← start
  let code ← expression g scope
  match code with
  | .node .sequence _ => fail .markupSequence start (← previous)
  | _ => return code

/-- An expression in braces inside a tag or among the content. -/
def container (g : Grammar) (scope : Scope) (child : Bool) : Parser Code := do
  advance
  if ← atMark "\x7d" then
    expectEnd "\x7d" child
    return .node .container []
  if child then
    if ← eat "..." then
      let value ← expression g scope.inner
      expectEnd "\x7d" child
      return .node .spreadChild [value]
  let value ← loneExpression g scope.inner
  expectEnd "\x7d" child
  return .node .container [value]

/-- The value of an attribute, after its equals sign. -/
def attributeValue (g : Grammar) (scope : Scope) : Parser Code := do
  let token ← token
  match token.lexeme with
  | .string value spelling _ => do
    advance
    return .string value spelling
  | .mark "\x7b" => do
    let value ← container g scope false
    match value with
    | .node .container [] => note .emptyAttribute token.start (← previous)
    | _ => pure ()
    return value
  | .mark "<" => g.markup scope false
  | _ => unexpected

/-- An attribute, or several spread out. -/
def markupAttribute (g : Grammar) (scope : Scope) : Parser Code := do
  if ← eat "\x7b" then
    expect "..."
    let value ← g.assignment scope.inner
    expect "\x7d"
    return .node .spread [value]
  else
    let name ← attributeName
    if ← atMark "=" then
      advanceAttribute
      return .node .markupAttribute [name, ← attributeValue g scope]
    else return .node .markupAttribute [name, .absent]

/-- The attributes of a tag. -/
def markupAttributes (g : Grammar) (scope : Scope) : Parser (List Code) :=
  repeatStep (fun (list : List Code) => do
    match ← lexeme with
    | .endOfText | .mark "/" | .mark ">" | .mark "<" => return .inr list.reverse
    | _ => return .inl ((← markupAttribute g scope) :: list)) []

/-- Whether a closing tag starts here. -/
def atClosingTag : Parser Bool := do
  return (← atMark "<") && (← peek).lexeme == .mark "/"

/-- The content of an element, up to a closing tag. -/
def markupContent (g : Grammar) (scope : Scope) : Parser (List Code) :=
  repeatStep (fun (list : List Code) => do
    match ← lexeme with
    | .markupText text => do
      advanceContent
      return .inl (.chars text :: list)
    | .mark "\x7b" => return .inl ((← container g scope true) :: list)
    | .mark "<" => do
      if ← atClosingTag then return .inr list.reverse
      else return .inl ((← g.markup scope true) :: list)
    | _ => unexpected) []

/-- A fragment, after its opening tag. -/
def fragmentRest (g : Grammar) (scope : Scope) (child : Bool) : Parser Code := do
  let content ← markupContent g scope
  advance
  advance
  let token ← token
  if !(← atMark ">") then
    match token.lexeme with
    | .word .. => fail .closingFragment token.start token.stop
    | _ => pure ()
  expectEnd ">" child
  return .node .markupFragment content

/-- An element, after its opening bracket. -/
def elementRest (g : Grammar) (scope : Scope) (child : Bool) : Parser Code := do
  let name ← elementName
  let attributes := Code.node .attributeList (← markupAttributes g scope)
  if ← eat "/" then
    expectEnd ">" child
    return .node .element [name, attributes]
  else
    expectEnd ">" true
    let content ← markupContent g scope
    advance
    advance
    let start ← start
    if ← atMark ">" then
      let token ← token
      fail (.closingTag (elementText name)) token.start token.stop
    let closing ← elementName
    let stop ← previous
    expectEnd ">" child
    if elementText closing != elementText name then
      note (.closingTag (elementText name)) start stop
    return .node .element (name :: attributes :: content)

/-- An element or a fragment, from its opening bracket on. -/
def markup (g : Grammar) (scope : Scope) (child : Bool) : Parser Code := do
  advance
  match ← lexeme with
  | .mark ">" => do
    advanceContent
    fragmentRest g scope child
  | .word .. => elementRest g scope child
  | _ => unexpected

end PagePrelude.Module.Parser
