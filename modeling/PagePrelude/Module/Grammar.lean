import PagePrelude.Module.Operator
import PagePrelude.Module.State

/-!
# Names and patterns

The grammar of module code refers to itself. Every rule is therefore a function of a
`Grammar`, a record of the parsers that it calls for what is nested inside; tying the
knot is left to the module that parses items.
-/

namespace PagePrelude.Module

/-- The parsers that other rules call for what they enclose. -/
structure Grammar where
  /-- An expression without a comma. -/
  assignment : Scope → Parser Code
  /-- A name, or a pattern in brackets. -/
  target : Scope → Parser Pattern
  /-- A statement, or an item where items may stand. -/
  statement : Scope → Bool → Parser Item
  /-- What follows `new`. -/
  construct : Scope → Parser Code
  /-- The superclass of a class. -/
  heritage : Scope → Parser Code
  /-- An element, from its opening bracket on; the flag says that it is the content of another. -/
  markup : Scope → Bool → Parser Code

/-- The grammar that accepts nothing. -/
def Grammar.empty : Grammar where
  assignment _ := Parser.exhausted
  target _ := Parser.exhausted
  statement _ _ := Parser.exhausted
  construct _ := Parser.exhausted
  heritage _ := Parser.exhausted
  markup _ _ := Parser.exhausted

namespace Parser

/-! ## Names -/

/-- Whether a token can be the name of a variable. -/
def isName : Lexeme → Bool
  | .word name _ => !isStrictKeyword name
  | _ => false

/-- Notes that the current word is an operator here, if it is. -/
def checkName (scope : Scope) (name : String) : Parser Unit := do
  let token ← token
  if name = "await" && scope.awaits then note (.awaitName name) token.start token.stop
  else if name = "yield" && scope.yields then note (.yieldName name) token.start token.stop

/-- The name of a variable that is declared. -/
def boundName (scope : Scope) : Parser String := do
  match ← lexeme with
  | .word name _ =>
    if isStrictKeyword name then failToken (.reservedWord name)
    checkName scope name
    advance
    return name
  | _ => unexpected

/-- A word in a place where every word is a name. -/
def anyName : Parser String := do
  match ← lexeme with
  | .word name _ => do
    advance
    return name
  | _ => unexpected

/-- A string that names a module. -/
def source : Parser Source := do
  match ← lexeme with
  | .string value spelling _ => do
    advance
    return ⟨value, spelling⟩
  | _ => unexpected

/-- The name of an export. -/
def exportName : Parser ExportName := do
  let token ← token
  match token.lexeme with
  | .string value spelling sound => do
    advance
    if !sound then note .loneSurrogate token.start token.stop
    return .string value spelling
  | _ => return .word (← anyName)

/-- The name of a property: its tree, and whether it is computed. -/
def propertyName (g : Grammar) (scope : Scope) : Parser (Code × Bool) := do
  match ← lexeme with
  | .string value spelling _ => do
    advance
    return (.string value spelling, false)
  | .number _ spelling => do
    advance
    return (.number spelling, false)
  | .mark "[" => do
    advance
    let key ← enclosed (g.assignment scope.inner)
    expect "]"
    return (key, true)
  | _ => return (.word (← anyName), false)

/-! ## Patterns -/

/-- A target with an optional default. -/
def element (g : Grammar) (scope : Scope) : Parser Pattern := do
  let target ← g.target scope
  if ← eat "=" then return .withDefault target (← g.assignment scope.inner)
  else return target

/-- A property of an object pattern. -/
def patternProperty (g : Grammar) (scope : Scope) : Parser Pattern := do
  let token ← token
  let (key, computed) ← propertyName g scope
  if ← eat ":" then return .property key computed false (← element g scope)
  else match token.lexeme, key with
    | .word name _, .word _ =>
      if isStrictKeyword name then failExpected ":"
      if name = "await" && scope.awaits then note (.awaitName name) token.start token.stop
      if name = "yield" && scope.yields then note (.yieldName name) token.start token.stop
      if ← eat "=" then
        return .property key computed true (.withDefault (.name name) (← g.assignment scope.inner))
      else return .property key computed true (.name name)
    | _, _ => failExpected ":"

/-- A place of an array pattern. -/
def patternPlace (g : Grammar) (scope : Scope) : Parser Pattern := do
  if ← atMark "," then return .hole else element g scope

/-- What the parts of a list are that may end in a rest. -/
inductive PartKind where
  | element
  | parameter
  deriving DecidableEq

/-- The problem of a rest that something follows. -/
def PartKind.notLast : PartKind → Problem
  | element => .restNotLast
  | parameter => .restParameterNotLast

/-- The problem of a rest with an initial value. -/
def PartKind.initialized : PartKind → Problem
  | element => .restInitializer
  | parameter => .restParameterInitializer

/-- One part of a pattern: the rest, or what `part` parses. A part after the rest is a problem. -/
def patternPart (g : Grammar) (scope : Scope) (kind : PartKind) (part : Parser Pattern)
    (rest : Option (Nat × Nat)) : Parser (Pattern × Option (Nat × Nat)) := do
  match rest with
  | some (start, stop) => note kind.notLast start stop
  | none => pure ()
  let start ← start
  if ← eat "..." then
    let target ← element g scope
    let stop ← previous
    match target with
    | .withDefault .. => note kind.initialized start stop
    | _ => pure ()
    return (.rest target, some (start, stop))
  else return (← part, rest)

/-- One step of a list of parts. -/
def patternStep (g : Grammar) (scope : Scope) (kind : PartKind) (close : String)
    (part : Parser Pattern) (state : List Pattern × Option (Nat × Nat)) :
    Parser ((List Pattern × Option (Nat × Nat)) ⊕ List Pattern) := do
  let (parts, rest) := state
  if (← atMark close) || (← atUncertainEnd) then return .inr parts.reverse
  if !(← eat ",") then failExpectedOr "," close
  if ← atMark close then
    if rest.isSome then note .restComma ((← previous) - 1) (← previous)
    return .inr parts.reverse
  let (next, rest) ← patternPart g scope kind part rest
  return .inl (next :: parts, rest)

/-- The parts of a pattern up to a closing mark, which is left in place. -/
def patternParts (g : Grammar) (scope : Scope) (kind : PartKind) (close : String)
    (part : Parser Pattern) : Parser (List Pattern) := do
  if (← atMark close) || (← atUncertainEnd) then return []
  let (first, rest) ← patternPart g scope kind part none
  repeatStep (patternStep g scope kind close part) ([first], rest)

/-- Whether a part of a pattern is a rest that is more than a name. -/
def restsOnPattern : Pattern → Bool
  | .rest (.name _) => false
  | .rest _ => true
  | _ => false

/-- The parts of an object pattern. -/
def objectParts (g : Grammar) (scope : Scope) : Parser (List Pattern) := do
  let start ← start
  let parts ← patternParts g scope .element "\x7d" (patternProperty g scope)
  if parts.any restsOnPattern then note .restPattern start (← previous)
  return parts

/-- A name, or a pattern in brackets. -/
def target (g : Grammar) (scope : Scope) : Parser Pattern := do
  if ← eat "\x7b" then
    let parts ← enclosed (objectParts g scope)
    expect "\x7d"
    return .object parts
  else if ← eat "[" then
    let parts ← enclosed (patternParts g scope .element "]" (patternPlace g scope))
    expect "]"
    return .array parts
  else return .name (← boundName scope)

/-- The parameters of a function, with their brackets. -/
def parameters (g : Grammar) (scope : Scope) : Parser Code := do
  expect "("
  let parts ← enclosed
    (patternParts g scope.inner .parameter ")" (element g scope.inner))
  expect ")"
  return .node .parameters (patternCodes parts)

end Parser

/-! ## Expressions as targets -/

/-- Whether an expression holds an optional access in its chain. -/
def Code.isOptionalChain : Code → Bool
  | .node (.access isOptional) (object :: _) => isOptional || object.isOptionalChain
  | .node (.index isOptional) (object :: _) => isOptional || object.isOptionalChain
  | .node (.call isOptional) (object :: _) => isOptional || object.isOptionalChain
  | _ => false

/-- Whether an expression is a variable or a property. -/
def Code.isPlace : Code → Bool
  | .name _ => true
  | .node (.access false) (object :: _) => !object.isOptionalChain
  | .node (.index false) (object :: _) => !object.isOptionalChain
  | .node .parenthesized [inner] => inner.isPlace
  | .node (.binary operator) (inner :: _) => typeWords.contains operator && inner.isPlace
  | _ => false

mutual

/-- Whether an expression can stand before `=`. -/
def Code.isTarget : Code → Bool
  | .node .object parts => areTargets parts
  | .node .array parts => areTargets parts
  | code => code.isPlace

/-- Whether an expression can be a part of a pattern. -/
def Code.isTargetPart : Code → Bool
  | .node .hole _ => true
  | .node .spread [inner] => inner.isTarget
  | .node (.assignment "=") (target :: _) => target.isTarget
  | .node (.property .shorthand _) _ => true
  | .node (.property .shorthandDefault _) _ => true
  | .node (.property .value _) [_, value] => value.isTargetPart
  | .node (.property ..) _ => false
  | .node .object parts => areTargets parts
  | .node .array parts => areTargets parts
  | code => code.isPlace

/-- Whether all expressions of a list can be parts of a pattern. -/
def areTargets : List Code → Bool
  | [] => true
  | part :: parts => part.isTargetPart && areTargets parts

end

/-- Whether an expression stands for several. -/
def Code.isSpread : Code → Bool
  | .node .spread _ => true
  | _ => false

mutual

/-- Whether in an expression that is a pattern something follows what is spread out. -/
def Code.spreadsEarly : Code → Bool
  | .node .object parts => spreadEarly parts
  | .node .array parts => spreadEarly parts
  | .node .spread [inner] => inner.spreadsEarly
  | .node (.assignment "=") (target :: _) => target.spreadsEarly
  | .node (.property .value _) [_, value] => value.spreadsEarly
  | _ => false

/-- Whether something follows what is spread out among some parts, or in one of them. -/
def spreadEarly : List Code → Bool
  | [] => false
  | part :: parts =>
    (part.isSpread && !parts.isEmpty) || part.spreadsEarly || spreadEarly parts

end

end PagePrelude.Module
