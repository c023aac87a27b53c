import PagePrelude.Module.Code
import PagePrelude.Module.Layout

/-!
# Printing module code

Trees of module code are laid out in one way, whatever their source looked like: blocks,
objects and arrays that hold anything take a line for each part, all else stands on one
line. Names, numbers and strings are spelled as they were.
-/

namespace PagePrelude.Module

/-- What a part of module code stands for where that decides how it is written. -/
inductive Mode where
  | plain
  /-- Names are bound or assigned to. -/
  | pattern
  /-- A function that follows the name of a property. -/
  | method
  deriving DecidableEq, Repr

/-- What the part with an index stands for in a node of a shape. -/
def Shape.modeAt (shape : Shape) (mode : Mode) (index : Nat) : Mode :=
  match shape, index with
  | .parameters, _ | .declarator, 0 | .tryCatch, 1 => .pattern
  | .forIn, 0 | .forOf _, 0 => .pattern
  | .withDefault, 0 | .rest, _ | .array, _ | .object, _ => mode
  | .property .method _, 1 | .property .getter _, 1 | .property .setter _, 1 => .method
  | .member .method .., 1 | .member .getter .., 1 | .member .setter .., 1 => .method
  | .property .value _, 1 | .property .shorthand _, 1 | .property .shorthandDefault _, 1 => mode
  | _, _ => .plain

namespace Layout

/-- Whether there is nothing. -/
def isEmpty (layout : Layout) : Bool :=
  layout.first.isEmpty && layout.rest.isEmpty

/-- A layout after a space, or nothing. -/
def spaced (layout : Layout) : Layout :=
  if layout.isEmpty then {} else ofString " " ++ layout

/-- Layouts between parentheses. -/
def inParens (inside : List Layout) : Layout :=
  ofString "(" ++ sepBy ", " inside ++ ofString ")"

/-- Statements between braces. -/
def block (statements : List Layout) : Layout :=
  if statements.isEmpty then ofString "\x7b\x7d" else enclose "\x7b" "" "\x7d" statements

/-- Items between two marks, on lines of their own. -/
def listed (opening closing : String) (items : List Layout) : Layout :=
  if items.isEmpty then ofString (opening ++ closing) else enclose opening "," closing items

/-- Items between braces, on one line. -/
def braced (items : List Layout) : Layout :=
  if items.isEmpty then ofString "\x7b\x7d"
  else ofString "\x7b " ++ sepBy ", " items ++ ofString " \x7d"

/-- A statement after the head that governs it. -/
def governed (head statement : Layout) : Layout :=
  if statement.first.startsWith "\x7b" then head ++ statement else head ++ ofString " " ++ statement

end Layout

open Layout

/-- Whether a part is missing. -/
def Code.isAbsent : Code → Bool
  | .absent => true
  | _ => false

/-- Whether a part is a block. -/
def Code.isBlock : Code → Bool
  | .node .block _ => true
  | _ => false

/-- The words before the name of a function. -/
def functionHead (isAsync generator : Bool) : String :=
  (if isAsync then "async " else "") ++ "function" ++ (if generator then "*" else "")

/-- The words and marks before the name of a method. -/
def methodHead (form : PropertyForm) (value : List Code) : String :=
  match form, value with
  | .getter, _ => "get "
  | .setter, _ => "set "
  | .method, [_, .node (.function isAsync generator) _] =>
    (if isAsync then "async " else "") ++ (if generator then "*" else "")
  | _, _ => ""

/-- A key, in brackets if it is computed. -/
def keyLayout (computed : Bool) (key : Layout) : Layout :=
  if computed then ofString "[" ++ key ++ ofString "]" else key

/-- A property whose key and value are laid out. -/
def propertyLayout (form : PropertyForm) (computed : Bool) (parts : List Code)
    (key value : Layout) : Layout :=
  match form with
  | .shorthand | .shorthandDefault => value
  | .value => keyLayout computed key ++ ofString ": " ++ value
  | .method | .getter | .setter =>
    ofString (methodHead form parts) ++ keyLayout computed key ++ value

/-- A member of a class whose key and value are laid out. -/
def memberLayout (form : PropertyForm) (isStatic computed : Bool) (parts : List Code)
    (key value : Layout) : Layout :=
  let head := (if isStatic then "static " else "") ++ methodHead form parts
  let front := ofString head ++ keyLayout computed key
  match form with
  | .method | .getter | .setter => front ++ value
  | _ => if value.isEmpty then front ++ ";" else front ++ " = " ++ value ++ ";"

/-- A prefix operator and what it is applied to. Signs of one kind are kept apart. -/
def unaryLayout (operator : String) (operand : Layout) : Layout :=
  let isWord := operator.toList.any Char.isAlpha
  let clash := (operator = "-" || operator = "+") && operand.first.startsWith operator
  if isWord || clash then operator ++ " " ++ operand else operator ++ operand

/-- The content of an element between its tags. -/
def elementLayout (name : Layout) (attributes : List Layout) (content : List Layout) : Layout :=
  let opening := "<" ++ name ++ sepBy "" (attributes.map spaced)
  if content.isEmpty then opening ++ "/>"
  else opening ++ ">" ++ sepBy "" content ++ "</" ++ name ++ ">"

/-- An attribute that is laid out; a spread stands in braces. -/
def attributeLayout (code : Code) (made : Layout) : Layout :=
  match code with
  | .node .spread _ => "\x7b" ++ made ++ "\x7d"
  | _ => made

/-- Statements after each other on lines of their own, for a case. -/
def caseLayout (head : Layout) (statements : List Layout) : Layout :=
  if statements.isEmpty then head else head ++ (linesBy "" statements).nest

/-- A node whose parts are laid out. -/
def Shape.layout (shape : Shape) (mode : Mode) (parts : List Code) (made : List Layout) :
    Layout :=
  match shape, made with
  | .array, items =>
    if mode = .pattern then "[" ++ sepBy ", " items ++ "]" else listed "[" "]" items
  | .hole, _ => {}
  | .object, items => if mode = .pattern then braced items else listed "\x7b" "\x7d" items
  | .property form computed, [key, value] => propertyLayout form computed parts key value
  | .spread, [value] | .rest, [value] => "..." ++ value
  | .parenthesized, [value] => "(" ++ value ++ ")"
  | .sequence, items => sepBy ", " items
  | .function isAsync generator, [name, inputs, body] =>
    if mode = .method then inputs ++ " " ++ body
    else functionHead isAsync generator ++ name.spaced ++ inputs ++ " " ++ body
  | .parameters, items => inParens items
  | .arrow isAsync, [inputs, body] =>
    (if isAsync then "async " else "") ++ inputs ++ "=>" ++ body
  | .classBody, name :: parent :: members =>
    let heritage := if parent.isEmpty then {} else " extends " ++ parent
    let head := "class" ++ name.spaced ++ heritage ++ " "
    if members.isEmpty then head ++ "\x7b" ++ onNewLine "\x7d"
    else head ++ enclose "\x7b" "" "\x7d" members
  | .member form isStatic computed, [key, value] =>
    memberLayout form isStatic computed parts key value
  | .staticBlock, [body] => "static " ++ body
  | .decorated, items => sepBy " " items
  | .unary operator, [operand] => unaryLayout operator operand
  | .update operator before, [operand] =>
    if before then operator ++ operand else operand ++ operator
  | .binary operator, [left, right] | .assignment operator, [left, right] =>
    left ++ (" " ++ operator ++ " ") ++ right
  | .conditional, [test, yes, no] => test ++ " ? " ++ yes ++ " : " ++ no
  | .call isOptional, callee :: arguments =>
    callee ++ (if isOptional then "?." else "") ++ inParens arguments
  | .new, callee :: arguments => "new " ++ callee ++ inParens arguments
  | .access isOptional, [base, name] => base ++ (if isOptional then "?." else ".") ++ name
  | .index isOptional, [base, key] =>
    base ++ (if isOptional then "?.[" else "[") ++ key ++ "]"
  | .template, pieces => "`" ++ templateLayout false pieces ++ "`"
  | .tagged, [tag, text] => tag ++ text
  | .await, [value] => "await " ++ value
  | .yield delegate, value => (if delegate then "yield*" else "yield") ++ (sepBy "" value).spaced
  | .importCall, arguments => "import" ++ inParens arguments
  | .metaProperty keyword, [name] => (keyword ++ ".") ++ name
  | .element, name :: attributes :: content => elementLayout name [attributes] content
  | .attributeList, attributes => sepBy " " (List.zipWith attributeLayout parts attributes)
  | .markupFragment, content => "<>" ++ sepBy "" content ++ "</>"
  | .markupAttribute, [name, value] => if value.isEmpty then name else name ++ "=" ++ value
  | .container, content => "\x7b" ++ sepBy "" content ++ "\x7d"
  | .spreadChild, [value] => "\x7b..." ++ value ++ "\x7d"
  | .namespaced, [first, second] => first ++ ":" ++ second
  | .withDefault, [target, value] => target ++ " = " ++ value
  | .block, statements => Layout.block statements
  | .empty, _ => ";"
  | .expressionStatement, [value] | .directive, [value] => value ++ ";"
  | .bindings keyword, declarators => keyword ++ " " ++ sepBy ", " declarators
  | .declarator, [pattern, value] => if value.isEmpty then pattern else pattern ++ " = " ++ value
  | .ifElse, [test, yes, no] =>
    let first := "if (" ++ test ++ ") " ++ yes
    if no.isEmpty then first
    else if parts.tail.head?.any Code.isBlock then first ++ " else " ++ no
    else first ++ onNewLine ("else " ++ no)
  | .whileLoop, [test, body] => governed ("while(" ++ test ++ ")") body
  | .doLoop, [body, test] => governed "do" body ++ "while (" ++ test ++ ")"
  | .forLoop, [first, test, step, body] =>
    governed ("for(" ++ first ++ ";" ++ test.spaced ++ ";" ++ step.spaced ++ ")") body
  | .forIn, [name, values, body] => governed ("for(" ++ name ++ " in " ++ values ++ ")") body
  | .forOf isAwait, [name, values, body] =>
    governed ((if isAwait then "for await (" else "for (") ++ name ++ " of " ++ values ++ ")") body
  | .withScope, [base, body] => governed ("with(" ++ base ++ ")") body
  | .switchCases, value :: cases =>
    "switch(" ++ value ++ ")" ++
      (if cases.isEmpty then "\x7b" ++ onNewLine "\x7d" else enclose "\x7b" "" "\x7d" cases)
  | .switchCase, test :: statements =>
    caseLayout (if test.isEmpty then "default:" else "case " ++ test ++ ":") statements
  | .returning, value => "return" ++ (sepBy "" value).spaced ++ ";"
  | .throwing, [value] => "throw " ++ value ++ ";"
  | .tryCatch, [tried, caught, handler, last] =>
    let caught := if caught.isEmpty then {} else "(" ++ caught ++ ") "
    let handled := if handler.isEmpty then {} else " catch " ++ caught ++ handler
    let finished := if last.isEmpty then {} else " finally " ++ last
    "try " ++ tried ++ handled ++ finished
  | .jump keyword, label => keyword ++ (sepBy "" label).spaced ++ ";"
  | .labeled, [label, statement] => label ++ ": " ++ statement
  | .debugger, _ => "debugger;"
  | _, items => sepBy " " items
where
  /-- Pieces of text and expressions in turn; `inside` says that an expression is next. -/
  templateLayout (inside : Bool) : List Layout → Layout
    | [] => {}
    | piece :: pieces =>
      (if inside then "$\x7b" ++ piece ++ "\x7d" else piece) ++ templateLayout (!inside) pieces

/-- Whether the layout of a declaration has to be ended where it is a statement. -/
def Code.isVariables : Code → Bool
  | .node (.bindings _) _ => true
  | _ => false

/-- Whether the parts of a node are statements. -/
def Shape.holdsStatements : Shape → Bool
  | .block | .switchCase => true
  | _ => false

mutual

/-- The layout of module code. -/
def Code.layout (mode : Mode) : Code → Layout
  | .absent => {}
  | .name text | .word text => text
  | .privateName text => "#" ++ text
  | .number spelling | .string _ spelling | .regex spelling | .chars spelling => spelling
  | .node shape parts => shape.layout mode parts (layoutsOf shape mode 0 parts)

/-- The layouts of the parts of a node from an index on. -/
def layoutsOf (shape : Shape) (mode : Mode) (index : Nat) : List Code → List Layout
  | [] => []
  | part :: parts =>
    let made := part.layout (shape.modeAt mode index)
    (if shape.holdsStatements && part.isVariables then made ++ ";" else made) ::
      layoutsOf shape mode (index + 1) parts

end

/-! ## Items -/

/-- How the name of an export is written. -/
def ExportName.spelled : ExportName → String
  | .word text => text
  | .string _ spelling => spelling

/-- A name with another by which it goes, if it differs. -/
def renamed (first second : String) : String :=
  if first = second then first else first ++ " as " ++ second

/-- The parts of an import, where those that stand in braces are gathered. -/
def importClauses (specifiers : List ImportSpecifier) : List Layout :=
  let outside := specifiers.filterMap fun
    | .default bound => some (ofString bound)
    | .whole bound => some (ofString ("* as " ++ bound))
    | .named .. => none
  let inside := specifiers.filterMap fun
    | .named exported bound => some (ofString (renamed exported.spelled bound))
    | _ => none
  if inside.isEmpty then outside else outside ++ [braced inside]

/-- The end of a statement that names a module. -/
def sourceLayout (source : Source) (attributes : Code) : Layout :=
  source.spelling ++
    (if attributes.isAbsent then {} else " with " ++ attributes.layout .plain) ++ ";"

/-- The layout of a declaration. -/
def Declaration.layout (declared : Declaration) : Layout :=
  let code := declared.code
  if code.isVariables then code.layout .plain ++ ";" else code.layout .plain

/-- The layout of an item. -/
def Item.layout : Item → Layout
  | .imports (some specifiers) source attributes =>
    let clauses := importClauses specifiers
    if clauses.isEmpty then "import " ++ sourceLayout source attributes
    else "import " ++ sepBy ", " clauses ++ " from " ++ sourceLayout source attributes
  | .imports none source attributes => "import " ++ sourceLayout source attributes
  | .exportDeclaration declared => "export " ++ declared.layout
  | .exportNames specifiers source attributes =>
    let names := specifiers.map fun s => ofString (renamed s.own.spelled s.exported.spelled)
    let list : Layout := if names.isEmpty then "\x7b \x7d" else braced names
    match source with
    | some source => "export " ++ list ++ " from " ++ sourceLayout source attributes
    | none => "export " ++ list ++ ";"
  | .exportAll exported source attributes =>
    let name := exported.elim "" fun name => " as " ++ name.spelled
    ("export *" ++ name ++ " from ") ++ sourceLayout source attributes
  | .exportDefault declared value =>
    "export default " ++ value.layout .plain ++ (if declared then {} else ofString ";")
  | .declaration declared => declared.layout
  | .statement code => code.layout .plain

/-- The text of items, each on lines of its own. -/
def textOfItems (items : List Item) : String :=
  String.join (items.map fun item => item.layout.text ++ "\n")

end PagePrelude.Module
