/-!
# Trees of module code

Module code is a list of items. What matters of an item is what it imports, exports
or declares; expressions and the statements inside functions are trees of one type,
whose nodes say what they are by their shape.
-/

namespace PagePrelude.Module

/-- How a property of an object or a class comes by its value. -/
inductive PropertyForm where
  | value
  /-- The property is named like the variable that it holds. -/
  | shorthand
  /-- The same with a default, which only patterns may have. -/
  | shorthandDefault
  | method
  | getter
  | setter
  deriving DecidableEq, Repr

/-- What a node of module code is. Parts that may be missing are written as `Code.absent`. -/
inductive Shape where
  -- Expressions
  | array
  | hole
  | object
  /-- Key and value. -/
  | property (form : PropertyForm) (computed : Bool)
  | spread
  | parenthesized
  | sequence
  /-- Name, parameters and body. -/
  | function (isAsync generator : Bool)
  | parameters
  /-- Parameters and body. -/
  | arrow (isAsync : Bool)
  /-- Name, superclass and members. -/
  | classBody
  /-- Key and value. -/
  | member (form : PropertyForm) (isStatic computed : Bool)
  | staticBlock
  | decorated
  | unary (operator : String)
  | update (operator : String) (before : Bool)
  | binary (operator : String)
  | assignment (operator : String)
  | conditional
  | call (isOptional : Bool)
  | new
  /-- Object and name. -/
  | access (isOptional : Bool)
  /-- Object and index. -/
  | index (isOptional : Bool)
  /-- Pieces of text and expressions in turn. -/
  | template
  /-- Function and template. -/
  | tagged
  | await
  | yield (delegate : Bool)
  | importCall
  | metaProperty (keyword : String)
  -- Markup
  /-- Name, attributes and content. -/
  | element
  | markupFragment
  | attributeList
  /-- Name and value. -/
  | markupAttribute
  | container
  | spreadChild
  /-- Namespace and name. -/
  | namespaced
  -- Patterns
  | withDefault
  | rest
  -- Statements
  | block
  | empty
  | expressionStatement
  | directive
  | bindings (keyword : String)
  /-- Pattern and initial value. -/
  | declarator
  | ifElse
  | whileLoop
  | doLoop
  | forLoop
  | forIn
  | forOf (isAwait : Bool)
  | withScope
  | switchCases
  | switchCase
  | returning
  | throwing
  | tryCatch
  | jump (keyword : String)
  | labeled
  | debugger
  /-- An import or export that stands inside a statement. -/
  | moduleItem
  deriving DecidableEq, Repr

/-- A part of module code below the level of items. -/
inductive Code where
  /-- A part that is missing. -/
  | absent
  | name (text : String)
  /-- A word that is no variable: a keyword that is a value, or the name of a property. -/
  | word (text : String)
  | privateName (text : String)
  | number (spelling : String)
  | string (value spelling : String)
  | regex (spelling : String)
  /-- Text of a template or between tags, as it is spelled. -/
  | chars (spelling : String)
  | node (shape : Shape) (parts : List Code)
  deriving Repr, Inhabited

/-- A pattern that declares names, or a part of one. -/
inductive Pattern where
  | name (text : String)
  /-- A place of an array that is passed over. -/
  | hole
  | withDefault (target : Pattern) (value : Code)
  | property (key : Code) (computed shorthand : Bool) (target : Pattern)
  | rest (target : Pattern)
  | object (parts : List Pattern)
  | array (parts : List Pattern)
  deriving Repr, Inhabited

mutual

/-- A pattern as a tree. -/
def Pattern.code : Pattern → Code
  | .name text => .name text
  | .hole => .node .hole []
  | .withDefault target value => .node .withDefault [target.code, value]
  | .property key computed shorthand target =>
    .node (.property (if shorthand then .shorthand else .value) computed) [key, target.code]
  | .rest target => .node .rest [target.code]
  | .object parts => .node .object (patternCodes parts)
  | .array parts => .node .array (patternCodes parts)

/-- The parts of a pattern as trees. -/
def patternCodes : List Pattern → List Code
  | [] => []
  | part :: parts => part.code :: patternCodes parts

end

/-- Whether a pattern takes its value apart. -/
def Pattern.isCompound : Pattern → Bool
  | object _ | array _ => true
  | _ => false

/-- A name by which a module exports something. -/
inductive ExportName where
  | word (text : String)
  | string (value spelling : String)
  deriving DecidableEq, Repr

/-- The name itself, however it is written. -/
def ExportName.text : ExportName → String
  | word text => text
  | string value _ => value

/-- The text of a module's specifier, and its spelling. -/
structure Source where
  value : String
  spelling : String
  deriving DecidableEq, Repr

/-- A part of an import. -/
inductive ImportSpecifier where
  | default (bound : String)
  | named (exported : ExportName) (bound : String)
  | whole (bound : String)
  deriving DecidableEq, Repr

/-- The local name that a part of an import binds. -/
def ImportSpecifier.bound : ImportSpecifier → String
  | default bound | named _ bound | whole bound => bound

/-- A part of an export list. -/
structure ExportSpecifier where
  own : ExportName
  exported : ExportName
  deriving DecidableEq, Repr

/-- A declaration. -/
inductive Declaration where
  | bindings (keyword : String) (declarators : List (Pattern × Code))
  | function (name : String) (code : Code)
  | classBody (name : String) (code : Code)
  deriving Repr

/-- A declaration as a tree. -/
def Declaration.code : Declaration → Code
  | bindings keyword declarators =>
    .node (.bindings keyword)
      (declarators.map fun (pattern, value) => .node .declarator [pattern.code, value])
  | function _ code | classBody _ code => code

/-- An item of module code. -/
inductive Item where
  /-- An import; `specifiers` is missing if the module is only run. -/
  | imports (specifiers : Option (List ImportSpecifier)) (source : Source) (attributes : Code)
  | exportDeclaration (declaration : Declaration)
  | exportNames (specifiers : List ExportSpecifier) (source : Option Source) (attributes : Code)
  | exportAll (exported : Option ExportName) (source : Source) (attributes : Code)
  /-- The default export; `declared` tells a function or a class from an expression. -/
  | exportDefault (declared : Bool) (value : Code)
  | declaration (declaration : Declaration)
  | statement (code : Code)
  deriving Repr, Inhabited

/-- An item inside a statement. -/
def Item.code : Item → Code
  | declaration d => d.code
  | statement code => code
  | _ => .node .moduleItem []

end PagePrelude.Module
