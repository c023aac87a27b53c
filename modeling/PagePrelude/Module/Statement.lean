import PagePrelude.Module.Markup

/-!
# Statements and items

Statements, declarations, imports and exports. An import or export is accepted
wherever a statement is, as a place where it may not stand is no matter of grammar
alone.
-/

namespace PagePrelude.Module.Parser

/-- Notes that the module exports a name. -/
def noteExport (name : String) (start stop : Nat) : Parser Unit :=
  modify fun state => { state with exported := state.exported ++ [(name, start, stop)] }

/-! ## Declarations -/

mutual

/-- The names that a pattern declares, in order. -/
def patternNames : Pattern → List String
  | .name text => [text]
  | .hole => []
  | .withDefault target _ => patternNames target
  | .property _ _ _ target => patternNames target
  | .rest target => patternNames target
  | .object parts => partNames parts
  | .array parts => partNames parts

/-- The names that the parts of a pattern declare. -/
def partNames : List Pattern → List String
  | [] => []
  | part :: parts => patternNames part ++ partNames parts

end

/-- Whether what a keyword declares is a resource, which is disposed of at the end of its block. -/
def declaresResource (keyword : String) : Bool :=
  keyword == "using" || keyword == "await using"

/-- Notes what is wrong with a declared resource. -/
def checkResource (pattern : Pattern) (hasValue inLoop : Bool) (start stop : Nat) :
    Parser Unit := do
  if pattern.isCompound then note .resourcePattern start stop
  if !hasValue && !inLoop then note .resourceInitializer start stop

/-- A declared variable with its initial value. `inLoop` says that a loop gives it one. -/
def declarator (g : Grammar) (scope : Scope) (keyword : String) (inLoop : Bool) :
    Parser (Pattern × Code) := do
  let start ← start
  let pattern ← g.target scope
  let stop ← previous
  if ← eat "=" then
    let value ← g.assignment scope
    if declaresResource keyword then checkResource pattern true inLoop start stop
    return (pattern, value)
  let loopFollows := inLoop && ((← atWord "of") || (← atWord "in"))
  if !loopFollows then
    if pattern.isCompound then note .missingPatternInitializer start stop
    else if keyword = "const" then note .missingInitializer start stop
  if declaresResource keyword then checkResource pattern false inLoop start stop
  return (pattern, .absent)

/-- Declared variables, after the keyword. -/
def declarators (g : Grammar) (scope : Scope) (keyword : String) (inLoop : Bool) :
    Parser (List (Pattern × Code)) := do
  let first ← declarator g scope keyword inLoop
  repeatStep (fun (list : List (Pattern × Code)) => do
    if ← eat "," then return .inl ((← declarator g scope keyword inLoop) :: list)
    else return .inr list.reverse) [first]

/-- A declaration of variables, from its keyword on. -/
def bindings (g : Grammar) (scope : Scope) (keyword : String) : Parser Declaration := do
  advance
  let list ← declarators g scope keyword false
  endStatement
  return .bindings keyword list

/-- The name of a function, if it has one. Only a default export may lack it. -/
def functionName (scope : Scope) (nameless : Bool) : Parser (Option String) := do
  if isName (← lexeme) then return some (← boundName scope)
  if !nameless then
    let token ← token
    note .missingFunctionName token.start token.stop
  return none

/-- A function after its word `function`. -/
def functionDeclaration (g : Grammar) (scope : Scope) (isAsync nameless : Bool) :
    Parser Declaration := do
  let generator ← eat "*"
  let name ← functionName scope nameless
  let (parameters, body) ← functionRest g isAsync generator
  let named := match name with | some n => Code.name n | none => .absent
  return .function (name.getD "") (.node (.function isAsync generator) [named, parameters, body])

/-- A class after its word `class`. -/
def classDeclaration (g : Grammar) (scope : Scope) (nameless : Bool) (marks : List Code) :
    Parser Declaration := do
  let name ← className scope
  if name.isNone && !nameless then
    let token ← token
    note .missingClassName token.start token.stop
  let named := match name with | some n => Code.name n | none => .absent
  let code ← classRest g scope named
  let marked := if marks.isEmpty then code else .node .decorated (marks ++ [code])
  return .classBody (name.getD "") marked

/-- Whether an asynchronous function starts here. -/
def atAsyncFunction : Parser Bool := do
  if ← atWord "async" then beginsAsyncFunction "async" else return false

/-! ## Imports -/

/-- One attribute of an import. -/
def importAttribute : Parser Code := do
  let key ← match ← lexeme with
    | .string value spelling _ => do
      advance
      pure (Code.string value spelling)
    | _ => pure (Code.word (← anyName))
  expect ":"
  match ← lexeme with
  | .string value spelling _ => do
    advance
    return .node (.property .value false) [key, .string value spelling]
  | _ => unexpected

/-- The name of an attribute. -/
def attributeKey : Code → Option String
  | .node _ (key :: _) => memberText key
  | _ => none

/-- The texts that stand in a list for another time. -/
def repeatedTexts (seen : List String) : List String → List String
  | [] => []
  | text :: texts =>
    if seen.contains text then text :: repeatedTexts seen texts
    else repeatedTexts (text :: seen) texts

/-- Attributes of an import, if there are any. -/
def importAttributes : Parser Code := do
  let token ← token
  let follows := token.lexeme == .word "with" false ||
    (token.lexeme == .word "assert" false && !token.afterBreak)
  if !follows then return .absent
  advance
  let attributes ← listBetween "\x7b" "\x7d" importAttribute
  let repeated := repeatedTexts [] (attributes.filterMap attributeKey)
  noteAll (repeated.map .repeatedAttribute) token.start (← previous)
  return .node .object attributes

/-- One name in the braces of an import. -/
def importSpecifier (scope : Scope) : Parser ImportSpecifier := do
  let first ← token
  let exported ← exportName
  if ← eatWord "as" then return .named exported (← boundName scope)
  match exported with
  | .word name =>
    if isStrictKeyword name then fail (.reservedWord name) first.start first.stop
    if name = "await" && scope.awaits then note (.awaitName name) first.start first.stop
    return .named exported name
  | .string .. => fail .identifierExpected first.start first.stop

/-- All exports under one name. -/
def importWhole (scope : Scope) : Parser ImportSpecifier := do
  advance
  expectWord "as"
  return .whole (← boundName scope)

/-- The names in the braces of an import. -/
def importList (scope : Scope) : Parser (List ImportSpecifier) :=
  listBetween "\x7b" "\x7d" (importSpecifier scope)

/-- What an import binds, up to the word `from`. -/
def importSpecifiers (scope : Scope) (bound : Option String) : Parser (List ImportSpecifier) := do
  let list ← match bound with
    | some name => do
      if ← eat "," then
        if ← atMark "*" then pure [.default name, ← importWhole scope]
        else if ← atMark "\x7b" then pure (.default name :: (← importList scope))
        else unexpected
      else pure [.default name]
    | none => do
      if ← atMark "*" then pure [← importWhole scope]
      else if ← atMark "\x7b" then importList scope
      else pure []
  expectWord "from"
  return list

/-- The default name of an import, past a word that says when the module is run. -/
def importDefault (scope : Scope) : Parser (Option String) := do
  if !isName (← lexeme) then return none
  let name ← boundName scope
  if name = "defer" && (← atMark "*") then return none
  match ← lexeme with
  | .word next _ =>
    if name = "source" && isName (.word next false) then
      if next != "from" || (← peek).lexeme == .word "from" false then
        return some (← boundName scope)
    return some name
  | _ => return some name

/-- An import, from its keyword on. -/
def importItem (scope : Scope) : Parser Item := do
  advance
  match ← lexeme with
  | .string .. => do
    let source ← source
    let attributes ← importAttributes
    endStatement
    return .imports none source attributes
  | _ => do
    let list ← followed do importSpecifiers scope (← importDefault scope)
    let source ← source
    let attributes ← importAttributes
    endStatement
    return .imports (some list) source attributes

/-! ## Exports -/

/-- Words that cannot be exported under their own name. -/
def unexportable (word : String) : Bool :=
  isStrictKeyword word || ["await", "implements", "interface", "let", "package", "private",
    "protected", "public", "static", "yield"].contains word

/-- One name in the braces of an export, with the place of its own name. -/
def exportSpecifier : Parser (ExportSpecifier × Nat × Nat) := do
  let first ← token
  let own ← exportName
  if ← eatWord "as" then
    let second ← token
    let exported ← exportName
    noteExport exported.text second.start second.stop
    return (⟨own, exported⟩, first.start, first.stop)
  else
    noteExport own.text first.start first.stop
    return (⟨own, own⟩, first.start, first.stop)

/-- Notes the names that only another module can export. -/
def checkOwnNames : List (ExportSpecifier × Nat × Nat) → Parser Unit
  | [] => return
  | (specifier, start, stop) :: more => do
    match specifier.own with
    | .string value _ => note (.exportedString value) start stop
    | .word word => if unexportable word then note (.exportedReserved word) start stop
    checkOwnNames more

/-- An export of names, from its opening brace on. -/
def exportNames : Parser Item := do
  let list ← listBetween "\x7b" "\x7d" exportSpecifier
  if ← eatWord "from" then
    let source ← source
    let attributes ← importAttributes
    endStatement
    return .exportNames (list.map (·.1)) (some source) attributes
  else
    checkOwnNames list
    endStatement
    return .exportNames (list.map (·.1)) none .absent

/-- An export of all that another module exports, from its asterisk on. -/
def exportAll : Parser Item := do
  advance
  let exported ← followed do
    let exported ←
      if ← eatWord "as" then
        let token ← token
        let name ← exportName
        noteExport name.text token.start token.stop
        pure (some name)
      else pure none
    expectWord "from"
    return exported
  let source ← source
  let attributes ← importAttributes
  endStatement
  return .exportAll exported source attributes

/-- Notes decorators before the current token, which is no class. -/
def checkMarks (marks : List Code) : Parser Unit := do
  let place ← start
  noteAll (marks.map fun _ => .strayDecorator) place place

/-- The default export, from the word `default` on. -/
def exportDefault (g : Grammar) (scope : Scope) (marks : List Code) : Parser Item := do
  let token ← token
  advance
  noteExport "default" token.start token.stop
  let marks := marks ++ (← decorators g scope)
  if ← eatWord "class" then
    return .exportDefault true (← classDeclaration g scope true marks).code
  checkMarks marks
  if ← eatWord "function" then
    return .exportDefault true (← functionDeclaration g scope false true).code
  else if ← atAsyncFunction then
    advance
    advance
    return .exportDefault true (← functionDeclaration g scope true true).code
  else
    let value ← g.assignment scope
    endStatement
    return .exportDefault false value

/-- Notes the names of a declaration as exported. The places are those of a single name; a pattern
stands for all of its names. -/
def noteNames (names : List String) (start stop : Nat) : Parser Unit :=
  names.forM fun name => noteExport name start stop

/-- A declared variable that is exported. -/
def exportVariable (g : Grammar) (scope : Scope) (keyword : String) : Parser (Pattern × Code) := do
  let start ← start
  let (pattern, value) ← declarator g scope keyword false
  match pattern with
  | .name name => noteExport name start (start + name.utf8ByteSize)
  | _ => noteNames (patternNames pattern) start start
  return (pattern, value)

/-- Declared variables that are exported. -/
def exportVariables (g : Grammar) (scope : Scope) (keyword : String) : Parser Declaration := do
  advance
  let first ← exportVariable g scope keyword
  let list ← repeatStep (fun (list : List (Pattern × Code)) => do
    if ← eat "," then return .inl ((← exportVariable g scope keyword) :: list)
    else return .inr list.reverse) [first]
  endStatement
  return .bindings keyword list

/-- Notes the name of an exported function or class, which starts at its name. -/
def noteDeclared (declaration : Declaration) (start stop : Nat) : Parser Unit :=
  match declaration with
  | .function name _ | .classBody name _ =>
    if name != "" then noteExport name start stop else pure ()
  | .bindings .. => pure ()

/-- A function or a class that is exported under its name. -/
def exportNamed (part : Parser Declaration) : Parser Declaration := do
  let token ← token
  let declaration ← part
  noteDeclared declaration token.start token.stop
  return declaration

/-- An exported declaration. -/
def exportDeclaration (g : Grammar) (scope : Scope) (marks : List Code) : Parser Declaration := do
  match ← lexeme with
  | .word "class" false => do
    advance
    exportNamed (classDeclaration g scope false marks)
  | .word "function" false => do
    checkMarks marks
    advance
    exportNamed (functionDeclaration g scope false false)
  | .word "async" false => do
    if !(← atAsyncFunction) then unexpected
    checkMarks marks
    advance
    advance
    exportNamed (functionDeclaration g scope true false)
  | .word keyword false =>
    if keyword = "var" || keyword = "let" || keyword = "const" then
      checkMarks marks
      exportVariables g scope keyword
    else unexpected
  | _ => unexpected

/-- An export, from its keyword on. -/
def exportItem (g : Grammar) (scope : Scope) (marks : List Code) : Parser Item := do
  advance
  let marks := marks ++ (← decorators g scope)
  match ← lexeme with
  | .word "default" false => exportDefault g scope marks
  | .mark "*" => do
    checkMarks marks
    exportAll
  | .mark "\x7b" => do
    checkMarks marks
    exportNames
  | _ => return .exportDeclaration (← exportDeclaration g scope marks)

/-! ## Statements -/

/-- What is wrong with a declaration that is a statement by itself. -/
def positionProblems : Declaration → List Problem
  | .bindings keyword _ => if keyword = "var" then [] else [.declarationPosition]
  | .classBody .. => [.classPosition]
  | .function _ (.node (.function isAsync generator) _) =>
    (if isAsync then [.asyncPosition] else []) ++ (if generator then [.generatorPosition] else [])
  | .function .. => []

/-- A statement that is the body of another one. -/
def body (g : Grammar) (scope : Scope) : Parser Code := do
  let start ← start
  let item ← g.statement scope false
  match item with
  | .declaration declaration => noteAll (positionProblems declaration) start (← previous)
  | _ => pure ()
  return item.code

/-- An expression in round brackets. -/
def bracketed (g : Grammar) (scope : Scope) : Parser Code := do
  expect "("
  let code ← enclosed (expression g scope.inner)
  expect ")"
  return code

/-- A conditional statement. -/
def ifStatement (g : Grammar) (scope : Scope) : Parser Code := do
  advance
  let test ← followed (bracketed g scope)
  let yes ← body g scope
  let no ← if ← eatWord "else" then body g scope else pure Code.absent
  return .node .ifElse [test, yes, no]

/-- A loop with its test at the end. -/
def doStatement (g : Grammar) (scope : Scope) : Parser Code := do
  advance
  let body ← followed do
    let body ← body g scope
    expectWord "while"
    return body
  let test ← bracketed g scope
  let _ ← eat ";"
  return .node .doLoop [body, test]

/-- The last part of the head of a loop, up to its closing bracket. The body follows it. -/
def headEnd (part : Parser Code) : Parser Code :=
  followed do
    let code ← enclosed part
    expect ")"
    return code

/-- Notes that a loop waits for values and has none. -/
def checkAwait (isAwait : Bool) : Parser Unit := do
  if isAwait then note .loopAwait (← previous) (← previous)

/-- The rest of a loop over the values or the keys of something, if one follows its variable. -/
def loopOver? (g : Grammar) (scope : Scope) (isAwait : Bool) (loopVariable : Code) :
    Parser (Option Code) := do
  if ← eatWord "of" then
    let values ← headEnd (g.assignment scope.inner)
    return some (.node (.forOf isAwait) [loopVariable, values, ← body g scope])
  else if ← eatWord "in" then
    let values ← headEnd (expression g scope.inner)
    checkAwait isAwait
    return some (.node .forIn [loopVariable, values, ← body g scope])
  else return none

/-- A part of the head of a loop that may be missing before a mark. -/
def headPart (g : Grammar) (scope : Scope) (mark : String) : Parser Code := do
  if ← atMark mark then return .absent else expression g scope.inner

/-- The rest of a loop with three parts, after the first. -/
def forRest (g : Grammar) (scope : Scope) (isAwait : Bool) (first : Code) : Parser Code := do
  let test ← followed do
    expect ";"
    let test ← enclosed (headPart g scope ";")
    expect ";"
    return test
  let step ← headEnd (headPart g scope ")")
  checkAwait isAwait
  return .node .forLoop [first, test, step, ← body g scope]

/-- The rest of a loop after the first part of its head. -/
def loopRest (g : Grammar) (scope : Scope) (isAwait : Bool) (first : Code) : Parser Code := do
  match ← loopOver? g scope isAwait first with
  | some loop => return loop
  | none => forRest g scope isAwait first

/-- Whether the word `using` declares something here. -/
def usingDeclares : Parser Bool := do
  let next ← peek
  match next.lexeme with
  | .word name _ =>
    return !next.afterBreak && !isStrictKeyword name && name != "of"
  | _ => return false

/-- Whether the words `await using` stand here and declare something. -/
def awaitUsingDeclares (scope : Scope) : Parser Bool := do
  if !scope.awaits then return false
  let found ← lookAhead do
    advance
    let token ← token
    if token.lexeme == .word "using" false && !token.afterBreak then usingDeclares
    else return false
  return found.getD false

/-- The keyword of a declaration in the head of a loop, if the word there is one. -/
def loopKeyword? (scope : Scope) (word : String) : Parser (Option String) := do
  match word with
  | "var" | "const" => return some word
  | "let" => do
    let next ← peek
    let declares := isName next.lexeme || next.lexeme == .mark "[" || next.lexeme == .mark "\x7b"
    return if declares then some word else none
  | "using" => return if ← usingDeclares then some word else none
  | "await" => return if ← awaitUsingDeclares scope then some "await using" else none
  | _ => return none

/-- A loop that declares its variable, from the keyword on. -/
def loopDeclaring (g : Grammar) (scope : Scope) (isAwait : Bool) (keyword : String) :
    Parser Code := do
  let token ← token
  if keyword = "await using" then advance
  advance
  let list ← followed (enclosed (declarators g { scope with hasIn := false } keyword true))
  let code := (Declaration.bindings keyword list).code
  if list.length != 1 && ((← atWord "of") || (← atWord "in")) then
    fail .loopDeclarations token.start (← previous)
  if declaresResource keyword && (← atWord "in") then
    note (.resourceKeys keyword) token.start (← previous)
  loopRest g scope isAwait code

/-- A loop whose head starts with an expression. -/
def loopAssigning (g : Grammar) (scope : Scope) (isAwait : Bool) : Parser Code := do
  let token ← token
  let code ← followed (enclosed (expression g { scope with hasIn := false }))
  let stop ← previous
  if (← atWord "of") || (← atWord "in") then
    let isAsync := token.lexeme == .word "async" false && code matches .name _
    if !isAwait && isAsync && (← atWord "of") then note .loopAsync token.start stop
    requireTarget code token.start stop
  loopRest g scope isAwait code

/-- A loop with a head. -/
def forStatement (g : Grammar) (scope : Scope) : Parser Code := do
  advance
  let token ← token
  let isAwait ← eatWord "await"
  if isAwait && !scope.awaits then note .strayAwait token.start token.stop
  expect "("
  if ← atMark ";" then return ← forRest g scope isAwait .absent
  match ← lexeme with
  | .word word false =>
    match ← loopKeyword? scope word with
    | some keyword => loopDeclaring g scope isAwait keyword
    | none => loopAssigning g scope isAwait
  | _ => loopAssigning g scope isAwait

/-- A loop with its test at the start. -/
def whileStatement (g : Grammar) (scope : Scope) : Parser Code := do
  advance
  let test ← followed (bracketed g scope)
  return .node .whileLoop [test, ← body g scope]

/-- A statement in the scope of an object. -/
def withStatement (g : Grammar) (scope : Scope) : Parser Code := do
  advance
  let object ← followed (bracketed g scope)
  return .node .withScope [object, ← body g scope]

/-- A jump to a label or out of a loop. -/
def jumpStatement (keyword : String) : Parser Code := do
  advance
  let next ← token
  let label ← match next.lexeme, next.afterBreak with
    | .word name _, false =>
      if isStrictKeyword name then pure Code.absent
      else do
        advance
        pure (Code.name name)
    | _, _ => pure Code.absent
  endStatement
  return .node (.jump keyword) [label]

/-- The end of a function's run. -/
def returnStatement (g : Grammar) (scope : Scope) : Parser Code := do
  let token ← token
  if !scope.returns then note .strayReturn token.start token.stop
  advance
  let next ← Parser.token
  let empty := next.afterBreak || next.lexeme == .mark ";" || next.lexeme == .mark "\x7d" ||
    next.lexeme == .endOfText
  let value ← if empty then pure Code.absent else expression g scope.inner
  endStatement
  return .node .returning [value]

/-- A thrown error. -/
def throwStatement (g : Grammar) (scope : Scope) : Parser Code := do
  advance
  let next ← token
  if next.afterBreak then note (.lineBreakAfter "throw") (← previous) next.start
  let value ← expression g scope.inner
  endStatement
  return .node .throwing [value]

/-- One case of a switch. -/
def switchCase (g : Grammar) (scope : Scope) : Parser Code := do
  let test ←
    if ← eatWord "default" then pure Code.absent
    else
      followed (expectWord "case")
      enclosed (expression g scope.inner)
  expect ":"
  let statements ← repeatStep (fun (statements : List Code) => do
    if (← atMark "\x7d") || (← atWord "case") || (← atWord "default") ||
        (← lexeme) == .endOfText then return .inr statements.reverse
    else return .inl ((← g.statement scope true).code :: statements)) []
  return .node .switchCase (test :: statements)

/-- A switch. -/
def switchStatement (g : Grammar) (scope : Scope) : Parser Code := do
  advance
  let value ← bracketed g scope
  expect "\x7b"
  let cases ← enclosed (repeatStep (fun (cases : List Code) => do
    if (← atMark "\x7d") || (← lexeme) == .endOfText then return .inr cases.reverse
    else return .inl ((← switchCase g scope) :: cases)) [])
  expect "\x7d"
  return .node .switchCases (value :: cases)

/-- What a handler binds, and its block, if there is a handler. -/
def catchClause (g : Grammar) (scope : Scope) : Parser (Code × Code) := do
  if !(← eatWord "catch") then return (.absent, .absent)
  if ← eat "(" then
    let target ← enclosed (g.target scope)
    expect ")"
    return (target.code, ← block g scope)
  else return (.absent, ← block g scope)

/-- A block with handlers. -/
def tryStatement (g : Grammar) (scope : Scope) : Parser Code := do
  let first ← start
  advance
  let tried ← block g scope
  let (caught, handler) ← catchClause g scope
  let hasHandler := match handler with | .absent => false | _ => true
  if ← eatWord "finally" then
    return .node .tryCatch [tried, caught, handler, ← block g scope]
  else
    if !hasHandler then note .missingHandler first (← previous)
    return .node .tryCatch [tried, caught, handler, .absent]

/-- An expression as a statement, or a statement with a label. -/
def expressionStatement (g : Grammar) (scope : Scope) : Parser Item := do
  let code ← expression g scope
  match code, ← atMark ":" with
  | .name label, true => do
    advance
    return .statement (.node .labeled [.name label, ← body g scope])
  | .string .., _ => do
    endStatement
    return .statement (.node .directive [code])
  | _, _ => do
    endStatement
    return .statement (.node .expressionStatement [code])

/-- Whether the word `let` declares something here. `inList` says that declarations may stand
here. -/
def letDeclares (inList : Bool) : Parser Bool := do
  match (← peek).lexeme with
  | .word name _ => return name != "instanceof" && name != "in" && inList
  | .mark "[" => return true
  | .mark "\x7b" => return inList
  | _ => return false

/-- A statement that its first word gives away. -/
def wordStatement (g : Grammar) (scope : Scope) (inList : Bool) (word : String) : Parser Item := do
  match word with
  | "if" => return .statement (← ifStatement g scope)
  | "do" => return .statement (← doStatement g scope)
  | "while" => return .statement (← whileStatement g scope)
  | "for" => return .statement (← forStatement g scope)
  | "with" => return .statement (← withStatement g scope)
  | "continue" => return .statement (← jumpStatement word)
  | "break" => return .statement (← jumpStatement word)
  | "return" => return .statement (← returnStatement g scope)
  | "throw" => return .statement (← throwStatement g scope)
  | "switch" => return .statement (← switchStatement g scope)
  | "try" => return .statement (← tryStatement g scope)
  | "debugger" => do
    advance
    endStatement
    return .statement (.node .debugger [])
  | "function" => do
    advance
    return .declaration (← functionDeclaration g scope false false)
  | "class" => do
    advance
    return .declaration (← classDeclaration g scope false [])
  | "var" | "const" => return .declaration (← bindings g scope word)
  | "let" =>
    if ← letDeclares inList then return .declaration (← bindings g scope word)
    else expressionStatement g scope
  | "using" =>
    if ← usingDeclares then return .declaration (← bindings g scope word)
    else expressionStatement g scope
  | "await" =>
    if ← awaitUsingDeclares scope then
      advance
      return .declaration (← bindings g scope "await using")
    else expressionStatement g scope
  | "async" =>
    if ← atAsyncFunction then
      advance
      advance
      return .declaration (← functionDeclaration g scope true false)
    else expressionStatement g scope
  | "export" => exportItem g scope []
  | "import" =>
    match (← peek).lexeme with
    | .mark "(" | .mark "." => expressionStatement g scope
    | _ => importItem scope
  | _ => expressionStatement g scope

/-- A statement or an item. `inList` says that it stands in a list of statements. -/
def statement (g : Grammar) (scope : Scope) (inList : Bool) : Parser Item := do
  match ← lexeme with
  | .word word false => wordStatement g scope inList word
  | .mark "\x7b" => return .statement (← block g scope)
  | .mark ";" => do
    advance
    return .statement (.node .empty [])
  | .mark "@" => do
    let marks ← decorators g scope
    if ← atWord "export" then exportItem g scope marks
    else if ← eatWord "class" then
      return .declaration (← classDeclaration g scope false marks)
    else unexpected
  | _ => expressionStatement g scope

end PagePrelude.Module.Parser
