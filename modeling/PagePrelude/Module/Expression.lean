import PagePrelude.Module.Grammar

/-!
# Expressions

The rules from names and literals up to assignments. Each is a function of the
grammar that it calls for what is nested.
-/

namespace PagePrelude.Module.Parser

/-- Expressions separated by commas. -/
def expression (g : Grammar) (scope : Scope) : Parser Code := do
  let first ← g.assignment scope
  if !(← atMark ",") then return first
  let items ← repeatStep (fun (items : List Code) => do
    if ← eat "," then return .inl ((← g.assignment scope) :: items)
    else return .inr items.reverse) [first]
  return .node .sequence items

/-! ## Literals -/

/-- An item of an array or an argument: an expression, or several spread out. -/
def spreadable (g : Grammar) (scope : Scope) : Parser Code := do
  if ← eat "..." then return .node .spread [← g.assignment scope.inner]
  else g.assignment scope.inner

/-- A place of an array. -/
def arrayPlace (g : Grammar) (scope : Scope) : Parser Code := do
  if ← atMark "," then return .node .hole [] else spreadable g scope

/-- An array. -/
def array (g : Grammar) (scope : Scope) : Parser Code := do
  return .node .array (← listBetween "[" "]" (arrayPlace g scope))

/-- A piece of a template. `tagged` templates may hold any escape. -/
def templatePart (tagged : Bool) : Parser (Code × TemplatePart) := do
  let token ← token
  match token.lexeme with
  | .template part spelling sound => do
    if !sound && !tagged then note .invalidTemplate token.start token.stop
    advance
    return (.chars spelling, part)
  | _ => unexpected

/-- A template from its first piece on. -/
def template (g : Grammar) (scope : Scope) (tagged : Bool) : Parser Code := do
  let (first, part) ← templatePart tagged
  if part == .whole then return .node .template [first]
  let parts ← repeatStep (fun (parts : List Code) => do
    let value ← expression g scope.inner
    if !(← atMark "\x7d") then unexpected
    reread (templatePiece false)
    let (text, part) ← templatePart tagged
    let parts := text :: value :: parts
    if part == .tail then return .inr parts.reverse else return .inl parts) [first]
  return .node .template parts

/-! ## Functions -/

/-- Statements in braces. -/
def block (g : Grammar) (scope : Scope) : Parser Code := do
  expect "\x7b"
  let statements ← enclosed (repeatStep (fun (statements : List Code) => do
    if (← atMark "\x7d") || (← lexeme) == .endOfText then return .inr statements.reverse
    else return .inl ((← g.statement scope true).code :: statements)) [])
  expect "\x7d"
  return .node .block statements

/-- The parameters and the body of a function. -/
def functionRest (g : Grammar) (isAsync generator : Bool) : Parser (Code × Code) := do
  let scope := Scope.ofFunction isAsync generator
  let parameters ← parameters g scope
  return (parameters, ← block g scope)

/-- A function after its word `function`; a function expression names itself in its own scope. -/
def functionExpression (g : Grammar) (isAsync : Bool) : Parser Code := do
  let generator ← eat "*"
  let name ←
    if isName (← lexeme) then
      pure (Code.name (← boundName { awaits := isAsync, yields := generator }))
    else pure Code.absent
  let (parameters, body) ← functionRest g isAsync generator
  return .node (.function isAsync generator) [name, parameters, body]

/-- Whether a parameter stands for all arguments that are left. -/
def isRestParameter : Code → Bool
  | .node .rest _ => true
  | _ => false

/-- Notes what is wrong with the parameters of a getter or a setter. -/
def checkAccessor (form : PropertyForm) (parameters : Code) (start stop : Nat) : Parser Unit := do
  match form, parameters with
  | .getter, .node .parameters (_ :: _) => note .getterParameters start stop
  | .setter, .node .parameters parts =>
    if parts.any isRestParameter then note .setterRest start stop
    else if parts.length ≠ 1 then note .setterParameters start stop
  | _, _ => return

/-- A method, a getter or a setter after its name. -/
def methodValue (g : Grammar) (form : PropertyForm) (isAsync generator : Bool) : Parser Code := do
  let scope := Scope.ofFunction isAsync generator
  let start ← start
  let parameters ← parameters g scope
  let stop ← previous
  let body ← block g scope
  checkAccessor form parameters start stop
  return .node (.function isAsync generator) [.absent, parameters, body]

/-- Whether the current word is followed by what can be the name of a property, so that it says
something about the property rather than naming it. -/
def isModifier (sameLine : Bool) : Parser Bool := do
  let next ← peek
  if sameLine && next.afterBreak then return false
  match next.lexeme with
  | .word .. | .string .. | .number .. | .privateName _ => return true
  | .mark mark => return mark == "[" || mark == "*"
  | _ => return false

/-! ## Objects -/

/-- Whether a word stands here that says something about a property. -/
def modifies (word : String) (sameLine : Bool) : Parser Bool := do
  if ← atWord word then isModifier sameLine else return false

/-- A method, a getter or a setter of an object, if one comes next. -/
def objectMethod (g : Grammar) (scope : Scope) : Parser (Option Code) := do
  let accessor (form : PropertyForm) : Parser (Option Code) := do
    advance
    let (key, computed) ← propertyName g scope
    return some (.node (.property form computed) [key, ← methodValue g form false false])
  if ← modifies "get" false then
    if (← peek).lexeme == .mark "*" then return none else accessor .getter
  else if ← modifies "set" false then
    if (← peek).lexeme == .mark "*" then return none else accessor .setter
  else
    let isAsync ← modifies "async" true
    if isAsync then advance
    let generator ← eat "*"
    if isAsync || generator then
      let (key, computed) ← propertyName g scope
      return some (.node (.property .method computed)
        [key, ← methodValue g .method isAsync generator])
    else return none

/-- A property of an object. -/
def objectProperty (g : Grammar) (scope : Scope) : Parser Code := do
  if ← eat "..." then return .node .spread [← g.assignment scope.inner]
  match ← objectMethod g scope with
  | some method => return method
  | none =>
    let token ← token
    let (key, computed) ← propertyName g scope
    if ← eat ":" then
      return .node (.property .value computed) [key, ← g.assignment scope.inner]
    else if ← atMark "(" then
      return .node (.property .method computed) [key, ← methodValue g .method false false]
    else match token.lexeme, key with
      | .word name _, .word _ =>
        if isStrictKeyword name then failExpected ":"
        if name = "await" && scope.awaits then note (.awaitName name) token.start token.stop
        if name = "yield" && scope.yields then note (.yieldName name) token.start token.stop
        if ← eat "=" then
          let value ← g.assignment scope.inner
          let stop ← previous
          modify fun state => { state with covers := state.covers ++ [(token.start, stop)] }
          return .node (.property .shorthandDefault computed)
            [key, .node .withDefault [.name name, value]]
        else return .node (.property .shorthand computed) [key, .name name]
      | _, _ => failExpected ":"

/-- An object. -/
def object (g : Grammar) (scope : Scope) : Parser Code := do
  return .node .object (← listBetween "\x7b" "\x7d" (objectProperty g scope))

/-! ## Classes -/

/-- The scope of the initial value of a class's field. -/
def fieldScope : Scope := {}

/-- The name of a class member. -/
def memberName (g : Grammar) (scope : Scope) : Parser (Code × Bool) := do
  match ← lexeme with
  | .privateName name => do
    advance
    return (.privateName name, false)
  | _ => propertyName g scope

/-- Whether the current word is the name of a member rather than something said about it. -/
def namesMember : Parser Bool := do
  match (← peek).lexeme with
  | .mark mark => return mark == "(" || mark == "=" || mark == ";" || mark == "\x7d"
  | .endOfText => return true
  | _ => return false

/-- Moves past a word that says something about a member, if it comes next. -/
def eatModifier (word : String) (sameLine : Bool) : Parser Bool := do
  if !(← atWord word) then return false
  if ← namesMember then return false
  if sameLine then
    if (← peek).afterBreak then return false
  advance
  return true

/-- A decorator's expression, after its `@`. -/
def decorator (g : Grammar) (scope : Scope) : Parser Code := do
  advance
  if ← atMark "(" then
    advance
    let inner ← enclosed (expression g scope.inner)
    expect ")"
    return .node .parenthesized [inner]
  let base ← match ← lexeme with
    | .word name _ => do
      if isStrictKeyword name then unexpected
      advance
      pure (Code.name name)
    | _ => unexpected
  repeatStep (fun (code : Code) => do
    if ← eat "." then
      match ← lexeme with
      | .privateName name => do
        advance
        return .inl (.node (.access false) [code, .privateName name])
      | _ => return .inl (.node (.access false) [code, .word (← anyName)])
    else if ← atMark "(" then
      return .inl (.node (.call false) (code :: (← listBetween "(" ")" (spreadable g scope))))
    else return .inr code) base

/-- Decorators, as many as come next. -/
def decorators (g : Grammar) (scope : Scope) : Parser (List Code) :=
  repeatStep (fun (list : List Code) => do
    if ← atMark "@" then return .inl ((← decorator g scope) :: list)
    else return .inr list.reverse) []

/-- The name by which a class knows a member whose key is not computed. -/
def memberText : Code → Option String
  | .word text | .string text _ => some text
  | _ => none

/-- What is wrong with the name of a member. -/
def memberProblem? (form : PropertyForm) (isStatic isAsync generator : Bool) (key : Code) :
    Option Problem :=
  if key matches .privateName "constructor" then some .privateConstructor
  else if isStatic && memberText key == some "prototype" then some .staticPrototype
  else if memberText key == some "constructor" then
    if form == .value then some .constructorField
    else if isStatic then none
    else if form == .getter || form == .setter then some .constructorAccessor
    else if generator then some .constructorGenerator
    else if isAsync then some .constructorAsync
    else none
  else none

/-- Notes what is wrong with the name of a member, which stands between two places. -/
def checkMember (form : PropertyForm) (isStatic isAsync generator computed : Bool) (key : Code)
    (start stop : Nat) : Parser Unit :=
  match if computed then none else memberProblem? form isStatic isAsync generator key with
  | some problem => note problem start stop
  | none => return

/-- A field after its name. -/
def classField (g : Grammar) (isStatic computed : Bool) (key : Code) : Parser Code := do
  let value ← if ← eat "=" then g.assignment fieldScope else pure Code.absent
  endStatement
  return .node (.member .value isStatic computed) [key, value]

/-- A method, a getter or a setter of a class. -/
def classMethod (g : Grammar) (scope : Scope) (isStatic : Bool) (form : PropertyForm)
    (isAsync generator : Bool) : Parser Code := do
  let start ← start
  let (key, computed) ← memberName g scope
  checkMember form isStatic isAsync generator computed key start (← previous)
  return .node (.member form isStatic computed) [key, ← methodValue g form isAsync generator]

/-- A field of a class, or a method that no word before its name gives away. -/
def plainMember (g : Grammar) (scope : Scope) (isStatic : Bool) : Parser Code := do
  let start ← start
  let (key, computed) ← memberName g scope
  let form := if ← atMark "(" then .method else .value
  checkMember form isStatic false false computed key start (← previous)
  if form == .method then
    return .node (.member .method isStatic computed) [key, ← methodValue g .method false false]
  else classField g isStatic computed key

/-- A member of a class after its decorators and the words `static` and `accessor`. -/
def memberRest (g : Grammar) (scope : Scope) (isStatic : Bool) : Parser Code := do
  if ← eatModifier "get" false then classMethod g scope isStatic .getter false false
  else if ← eatModifier "set" false then classMethod g scope isStatic .setter false false
  else
    let isAsync ← eatModifier "async" true
    let generator ← eat "*"
    if isAsync || generator then classMethod g scope isStatic .method isAsync generator
    else plainMember g scope isStatic

/-- A member of a class. -/
def classMember (g : Grammar) (scope : Scope) : Parser Code := do
  let marks ← decorators g scope
  let isStatic ← eatModifier "static" false
  if isStatic && (← atMark "\x7b") then
    return .node .staticBlock [← block g { awaits := true }]
  let _ ← eatModifier "accessor" true
  let member ← memberRest g scope isStatic
  return if marks.isEmpty then member else .node .decorated (marks ++ [member])

/-- The members of a class, with their braces. -/
def classMembers (g : Grammar) (scope : Scope) : Parser (List Code) := do
  expect "\x7b"
  let members ← enclosed (repeatStep (fun (members : List Code) => do
    if ← eat ";" then return .inl members
    else if (← atMark "\x7d") || (← lexeme) == .endOfText then return .inr members.reverse
    else return .inl ((← classMember g scope) :: members)) [])
  expect "\x7d"
  return members

/-! ## Chains of accesses and calls -/

/-- The specifier of an import that is run, and its attributes. -/
def importParts (g : Grammar) (scope : Scope) : Parser (List Code) := do
  let specifier ← g.assignment scope.inner
  if !(← eat ",") then return [specifier]
  if ← atMark ")" then return [specifier]
  let attributes ← g.assignment scope.inner
  let _ ← eat ","
  return [specifier, attributes]

/-- What an import that is run is given, with the brackets. -/
def importArguments (g : Grammar) (scope : Scope) : Parser (List Code) := do
  expect "("
  if ← atMark ")" then failToken .importWithoutSpecifier
  let arguments ← enclosed (importParts g scope)
  if !(← eat ")") then failToken .importArguments
  return arguments

/-- What follows `import` in an expression. -/
def importExpression (g : Grammar) (scope : Scope) : Parser Code := do
  advance
  if ← eat "." then
    let token ← token
    match ← anyName with
    | "meta" => return .node (.metaProperty "import") [.word "meta"]
    | word =>
      if (word = "source" || word = "defer") && (← atMark "(") then
        return .node .importCall (← importArguments g scope)
      else fail .importMeta token.start token.stop
  else
    if !(← atMark "(") then unexpected
    return .node .importCall (← importArguments g scope)

/-- What follows `super` in an expression. -/
def superExpression : Parser Code := do
  advance
  match ← lexeme with
  | .mark "(" | .mark "." | .mark "[" => return .word "super"
  | _ => unexpected

/-- Expressions in brackets. -/
def parenthesized (g : Grammar) (scope : Scope) : Parser Code := do
  let start ← start
  expect "("
  let (items, trailing) ← enclosed (listUpTo ")" (g.assignment scope.inner))
  expect ")"
  match trailing with
  | some place => note .unexpectedToken place (place + 1)
  | none => pure ()
  match items with
  | [] => fail .emptyParentheses start (← previous)
  | [item] => return .node .parenthesized [item]
  | _ => return .node .parenthesized [.node .sequence items]

/-- Whether a word is one of the keywords that are values. -/
def isValueWord (word : String) : Bool :=
  word == "this" || word == "null" || word == "true" || word == "false"

/-- A class after its word `class`. -/
def classRest (g : Grammar) (scope : Scope) (name : Code) : Parser Code := do
  let parent ← if ← eatWord "extends" then g.heritage scope else pure Code.absent
  let members ← classMembers g scope
  return .node .classBody (name :: parent :: members)

/-- The name of a class, if it has one. -/
def className (scope : Scope) : Parser (Option String) := do
  if isName (← lexeme) then return some (← boundName scope) else return none

/-- Whether the current word is `async` and the word `function` follows it on the same line. -/
def beginsAsyncFunction (word : String) : Parser Bool := do
  if word != "async" then return false
  let next ← peek
  return next.lexeme == .word "function" false && !next.afterBreak

/-- An expression that starts with a word. -/
def wordExpression (g : Grammar) (scope : Scope) (word : String) (escaped : Bool) :
    Parser Code := do
  if escaped && isStrictKeyword word then
    let token ← token
    note .escapedKeyword token.start token.stop
  if isValueWord word then
    advance
    return .word word
  else if word = "function" then
    advance
    functionExpression g false
  else if word = "class" then
    advance
    let name ← className scope
    classRest g scope (match name with | some n => .name n | none => .absent)
  else if word = "new" then
    advance
    g.construct scope
  else if word = "super" then superExpression
  else if word = "import" then importExpression g scope
  else if isStrictKeyword word then unexpected
  else if ← beginsAsyncFunction word then
    advance
    advance
    functionExpression g true
  else
    checkName scope word
    advance
    return .name word

/-- Whether a regular expression is to be read in two ways. -/
def hasTwoModes (regex : String) : Bool :=
  let flags := regex.toList.reverse.takeWhile (· != '/')
  flags.contains 'u' && flags.contains 'v'

/-- A literal, a name, or an expression in brackets. -/
def primary (g : Grammar) (scope : Scope) : Parser Code := do
  match ← lexeme with
  | .word word escaped => wordExpression g scope word escaped
  | .number _ spelling => do
    advance
    return .number spelling
  | .string value spelling _ => do
    advance
    return .string value spelling
  | .template .. => template g scope false
  | .mark "(" => parenthesized g scope
  | .mark "[" => array g scope
  | .mark "\x7b" => object g scope
  | .mark "<" => g.markup scope false
  | .mark "@" => do
    let marks ← decorators g scope
    if !(← eatWord "class") then unexpected
    let name ← className scope
    let code ← classRest g scope (match name with | some n => .name n | none => .absent)
    return .node .decorated (marks ++ [code])
  | .mark mark => do
    if mark = "/" || mark = "/=" then
      reread regexPiece
      let token ← token
      match token.lexeme with
      | .regex spelling => do
        if hasTwoModes spelling then note .regexModes token.start token.stop
        advance
        return .regex spelling
      | _ => unexpected
    else unexpected
  | _ => unexpected

/-- The name after a dot. -/
def memberWord : Parser Code := do
  match ← lexeme with
  | .privateName name => do
    advance
    return .privateName name
  | _ => return .word (← anyName)

/-- An index after its opening bracket. -/
def indexRest (g : Grammar) (scope : Scope) : Parser Code := do
  let index ← enclosed (expression g scope.inner)
  expect "]"
  return index

/-- One step of a chain: an access, an index, a template or, where calls may stand, a call. -/
def chainStep (g : Grammar) (scope : Scope) (calls : Bool) (code : Code) :
    Parser (Code ⊕ Code) := do
  match ← lexeme with
  | .mark "." => do
    advance
    return .inl (.node (.access false) [code, ← memberWord])
  | .mark "[" => do
    advance
    return .inl (.node (.index false) [code, ← indexRest g scope])
  | .mark "?." => do
    if !calls then
      let token ← token
      fail .optionalNew token.start token.stop
    advance
    match ← lexeme with
    | .mark "(" =>
      return .inl (.node (.call true) (code :: (← listBetween "(" ")" (spreadable g scope))))
    | .mark "[" => do
      advance
      return .inl (.node (.index true) [code, ← indexRest g scope])
    | .template .. => do
      let token ← token
      fail .optionalTemplate token.start token.stop
    | _ => return .inl (.node (.access true) [code, ← memberWord])
  | .mark "(" =>
    if calls then
      return .inl (.node (.call false) (code :: (← listBetween "(" ")" (spreadable g scope))))
    else return .inr code
  | .template .. => do
    let token ← token
    if code.isOptionalChain then note .optionalTemplate token.start token.stop
    return .inl (.node .tagged [code, ← template g scope true])
  | _ => return .inr code

/-- A chain of accesses and calls. -/
def chain (g : Grammar) (scope : Scope) : Parser Code := do
  repeatStep (chainStep g scope true) (← primary g scope)

/-- What a constructor is given, which may be missing. -/
def newArguments (g : Grammar) (scope : Scope) : Parser (List Code) := do
  if ← atMark "(" then listBetween "(" ")" (spreadable g scope) else return []

/-- What follows `new`: a chain without calls, then its arguments. -/
def construct (g : Grammar) (scope : Scope) : Parser Code := do
  if ← eat "." then
    let token ← token
    match ← anyName with
    | "target" => return .node (.metaProperty "new") [.word "target"]
    | _ => fail .newTarget token.start token.stop
  else
    let start ← start
    let callee ← repeatStep (chainStep g scope false) (← primary g scope)
    match callee with
    | .node .importCall _ => note .newImport start (← previous)
    | _ => pure ()
    return .node .new (callee :: (← newArguments g scope))

/-! ## Operators -/

/-- Stops unless an expression is a variable or a property. -/
def requirePlace (code : Code) (start stop : Nat) : Parser Unit :=
  if code.isPlace then pure () else fail .cannotAssign start stop

/-- An operand without operators before it. -/
def postfixed (g : Grammar) (scope : Scope) : Parser Code := do
  let start ← start
  let code ← chain g scope
  let token ← token
  match token.lexeme with
  | .mark mark =>
    if (mark = "++" || mark = "--") && !token.afterBreak then
      requirePlace code start (← previous)
      advance
      return .node (.update mark false) [code]
    else return code
  | _ => return code

/-- The operator before an operand, if the current token is one. -/
def prefixOperator? (scope : Scope) : Parser (Option Shape) := do
  match ← lexeme with
  | .mark mark =>
    if ["!", "~", "+", "-"].contains mark then return some (.unary mark)
    else if mark = "++" || mark = "--" then return some (.update mark true)
    else return none
  | .word word false =>
    if ["typeof", "void", "delete"].contains word then return some (.unary word)
    else if word = "await" && scope.awaits then return some .await
    else return none
  | _ => return none

/-- Puts the operators that came before an operand around it, the last one first. -/
def applyOperators (operand : Code) (start : Nat) : List Shape → Parser Code
  | [] => return operand
  | shape :: shapes => do
    match shape with
    | .update .. => requirePlace operand start (← previous)
    | _ => pure ()
    applyOperators (.node shape [operand]) start shapes

/-- Notes a power of what has an operator before it. -/
def checkPower : Parser Unit := do
  if ← atMark "**" then
    let token ← token
    note .unexpectedPower token.start token.stop

/-- An operand with the operators before it. -/
def unary (g : Grammar) (scope : Scope) : Parser Code := do
  let shapes ← repeatStep (fun (shapes : List Shape) => do
    match ← prefixOperator? scope with
    | some shape => do
      advance
      return .inl (shape :: shapes)
    | none => return .inr shapes) []
  let start ← start
  let code ← applyOperators (← postfixed g scope) start shapes
  match shapes.getLast? with
  | some (.unary _) | some .await => checkPower
  | _ => pure ()
  return code

/-- An operand of an operation. Before `in` it may be a private name, but not where it belongs to an
operator before it that binds as `tight`ly. -/
def operand (g : Grammar) (scope : Scope) (tight : Bool) : Parser Code := do
  match ← lexeme with
  | .privateName name => do
    if tight || !scope.hasIn then unexpected
    advance
    if !(← atWord "in") then failExpected "in"
    return .privateName name
  | _ => unary g scope

/-- Puts an operator that begins with `>` together, if it is longer than that. -/
def joinMarks : Parser Unit := do
  if ← atMark ">" then
    match markOf rightMarks (← get).here with
    | some (mark, rest) =>
      reread fun start _ => ⟨.mark mark, start + mark.utf8ByteSize, rest, []⟩
    | none => return

/-- The binary operator that the current token is. -/
def binaryOperator? (scope : Scope) : Parser (Option String) := do
  joinMarks
  match ← lexeme with
  | .mark mark => return if (strength? mark).isSome then some mark else none
  | .word word false => do
    let isOperator := word = "instanceof" || (word = "in" && scope.hasIn) ||
      (typeWords.contains word && !(← token).afterBreak)
    return if isOperator then some word else none
  | _ => return none

/-- Keywords that are types. -/
def typeKeywords : List String :=
  ["const", "false", "null", "this", "true", "void"]

/-- A type: a literal, or words with dots between them. -/
def typeName : Parser Code := do
  match ← lexeme with
  | .word word _ => do
    if isStrictKeyword word && !typeKeywords.contains word then unexpected
    advance
    repeatStep (fun (code : Code) => do
      if ← eat "." then return .inl (.node (.access false) [code, .word (← anyName)])
      else return .inr code) (.word word)
  | .string value spelling _ => do
    advance
    return .string value spelling
  | .number _ spelling => do
    advance
    return .number spelling
  | _ => unexpected

/-- An operand, or a type, and the place where it starts. -/
structure Operand where
  operator : String
  start : Nat
  code : Code

/-- Where the left side of a word before a type starts, given the operands before it, the last one
first. The word takes as much as other operators of its strength do. -/
def typedStart (word : String) (first : Nat) : List Operand → Nat
  | [] => first
  | operand :: row =>
    if closesBefore operand.operator word then typedStart word first row else operand.start

/-- One step of a row of operands: an operator with its right side, or the end of the row. -/
def operandStep (g : Grammar) (scope : Scope) (first : Nat) (row : List Operand) :
    Parser (List Operand ⊕ List Operand) := do
  match ← binaryOperator? scope with
  | some operator => do
    advance
    let start ← start
    if typeWords.contains operator then
      let code ← typeName
      let problem : Problem := if operator = "as" then .typeAssertion else .typeSatisfaction
      note problem (typedStart operator first row) (← previous)
      return .inl (⟨operator, start, code⟩ :: row)
    else
      let tight := closesBefore operator "in"
      return .inl (⟨operator, start, ← operand g scope tight⟩ :: row)
  | none => return .inr row.reverse

/-- Operands with the operators between them. -/
def operation (g : Grammar) (scope : Scope) : Parser Code := do
  let start ← start
  let first ← operand g scope false
  let row ← repeatStep (operandStep g scope start) []
  let code := operationOf [] first (row.map fun operand => (operand.operator, operand.code))
  if code.mixesCoalesce then note .mixedCoalesce start (← previous)
  return code

/-! ## Assignments -/

/-- Whether brackets at the current token may hold the parameters of an arrow function; `sure` means
that they can hold nothing else. -/
inductive ArrowGuess where
  | no
  | maybe
  | sure
  deriving DecidableEq

/-- Guesses from the tokens after an opening bracket. -/
def guessArrow : Parser ArrowGuess := do
  advance
  match ← lexeme with
  | .mark ")" => do
    advance
    match ← lexeme with
    | .mark "=>" | .mark ":" | .mark "\x7b" => return .sure
    | _ => return .no
  | .mark "[" | .mark "\x7b" => return .maybe
  | .mark "..." => return .sure
  | .word name _ => do
    if isStrictKeyword name && name != "this" then return .no
    advance
    match ← lexeme with
    | .mark "," | .mark "=" | .mark ")" => return .maybe
    | _ => return .no
  | _ => return .no

/-- The body of an arrow function, from its arrow on. -/
def arrowRest (g : Grammar) (scope : Scope) (isAsync : Bool) (parameters : Code) :
    Parser Code := do
  let token ← token
  if token.lexeme == .mark "=>" && token.afterBreak then
    note .lineBreakBeforeArrow token.start token.stop
  expect "=>"
  let inner : Scope :=
    { awaits := scope.awaits || isAsync, yields := false, returns := true, hasIn := scope.hasIn }
  let body ←
    if ← atMark "\x7b" then block g inner.inner
    else g.assignment { inner with returns := scope.returns }
  return .node (.arrow isAsync) [parameters, body]

/-- The head of an arrow function with brackets: its parameters, if an arrow follows. -/
def arrowHead (g : Grammar) (scope : Scope) : Parser (Option Code) := do
  let parameters ← parameters g scope
  if ← atMark "=>" then return some parameters else return none

/-- An arrow function with brackets around its parameters, if one starts at the current one. -/
def bracketArrow? (g : Grammar) (scope : Scope) (isAsync : Bool) : Parser (Option Code) := do
  if !(← atMark "(") then return none
  let inner := { scope with awaits := scope.awaits || isAsync }
  match (← lookAhead guessArrow).getD .no with
  | .no => return none
  | .sure => return some (← arrowRest g scope isAsync (← parameters g inner))
  | .maybe =>
    match ← attempt (arrowHead g inner) with
    | some parameters => return some (← arrowRest g scope isAsync parameters)
    | none => return none

/-- An async arrow function, if one starts here. -/
def asyncArrow? (g : Grammar) (scope : Scope) : Parser (Option Code) := do
  if !(← atWord "async") then return none
  let next ← peek
  if next.afterBreak then return none
  match next.lexeme with
  | .mark "(" => do
    attempt do
      advance
      bracketArrow? g scope true
  | .word name _ => do
    if isStrictKeyword name then return none
    let arrowFollows ← lookAhead do
      advance
      advance
      if !(← atMark "=>") then unexpected
    if arrowFollows.isNone then return none
    advance
    let name ← boundName { scope with awaits := true }
    return some (← arrowRest g scope true (.node .parameters [.name name]))
  | _ => return none

/-- An arrow function that its first token gives away. -/
def arrow? (g : Grammar) (scope : Scope) : Parser (Option Code) := do
  match ← bracketArrow? g scope false with
  | some code => return some code
  | none => asyncArrow? g scope

/-- A yield expression. -/
def yieldExpression (g : Grammar) (scope : Scope) : Parser Code := do
  advance
  let token ← token
  if token.afterBreak then return .node (.yield false) []
  match token.lexeme with
  | .mark "*" => do
    advance
    return .node (.yield true) [← g.assignment scope]
  | .mark mark =>
    if [";", ")", "]", "\x7d", ",", ":"].contains mark then return .node (.yield false) []
    else return .node (.yield false) [← g.assignment scope]
  | .endOfText => return .node (.yield false) []
  | _ => return .node (.yield false) [← g.assignment scope]

/-- The rest of a conditional, if a question mark follows its test. -/
def conditionalRest (g : Grammar) (scope : Scope) (test : Code) : Parser Code := do
  if ← eat "?" then
    let yes ← followed do
      let yes ← enclosed (g.assignment scope.inner)
      expect ":"
      return yes
    return .node .conditional [test, yes, ← g.assignment scope]
  else return test

/-- The assignment operator that the current token is. -/
def assignmentOperator? : Parser (Option String) := do
  match ← lexeme with
  | .mark mark => return if assignmentOperators.contains mark then some mark else none
  | _ => return none

/-- Takes the defaults inside a target for those of a pattern. -/
def claimCovers (start stop : Nat) : Parser Unit :=
  modify fun state =>
    { state with covers := state.covers.filter fun (a, b) => !(start ≤ a && b ≤ stop) }

/-- Takes an expression for a pattern. -/
def requireTarget (code : Code) (start stop : Nat) : Parser Unit := do
  if code.spreadsEarly then fail .spreadNotLast start stop
  if !code.isTarget then fail .cannotAssign start stop
  claimCovers start stop

/-- An expression without a comma. -/
def assignment (g : Grammar) (scope : Scope) : Parser Code := do
  if (← atWord "yield") && scope.yields then return ← yieldExpression g scope
  match ← arrow? g scope with
  | some code => return code
  | none =>
    let start ← start
    let code ← operation g scope
    let stop ← previous
    match code, ← atMark "=>" with
    | .name name, true => arrowRest g scope false (.node .parameters [.name name])
    | _, _ =>
      match ← assignmentOperator? with
      | some operator => do
        if operator = "=" then requireTarget code start stop
        else requirePlace code start stop
        advance
        return .node (.assignment operator) [code, ← g.assignment scope]
      | none => conditionalRest g scope code

end PagePrelude.Module.Parser
