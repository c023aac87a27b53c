/-!
# Problems of module code

A problem says what is wrong with module code, and where. The words for it are
`Problem.text`; the place is a range of byte offsets.
-/

namespace PagePrelude.Module

/-- What is wrong with module code. -/
inductive Problem where
  | unexpectedToken
  /-- One token was required, another one found. -/
  | expected (wanted found : String)
  /-- An item of a list is followed by neither the separator nor the end. -/
  | expectedOr (separator close found : String)
  /-- A statement ends where no semicolon can be left out. -/
  | noSemicolon
  | identifierExpected
  | reservedWord (word : String)
  /-- `await` names something where it is a keyword. -/
  | awaitName (word : String)
  /-- `yield` names something in a generator. -/
  | yieldName (word : String)
  | missingInitializer
  /-- A declared pattern has no initializer. -/
  | missingPatternInitializer
  | missingFunctionName
  | missingClassName
  | invalidCharacter (character : Char)
  | invalidNumber (reason : String)
  /-- A number runs into a word. -/
  | afterNumber
  | openString
  | openComment
  | openRegex
  | invalidEscape
  | invalidUnicodeEscape
  | invalidTemplate
  | regexFlag (flag : Char)
  | repeatedFlag (flag : Char)
  /-- A regular expression is to be read in two ways. -/
  | regexModes
  | escapedKeyword
  | closingTag (name : String)
  | closingFragment
  | emptyAttribute
  /-- A substitution in markup holds several expressions. -/
  | markupSequence
  | duplicateExport (name : String)
  /-- An exported name is no well-formed text. -/
  | loneSurrogate
  | exportedString (name : String)
  | exportedReserved (name : String)
  | strayReturn
  | mixedCoalesce
  | unexpectedPower
  | cannotAssign
  /-- Something follows what is spread out in a pattern. -/
  | spreadNotLast
  /-- A shorthand property has an initializer outside a pattern. -/
  | objectAssignment
  | emptyParentheses
  | restNotLast
  | restParameterNotLast
  | restInitializer
  | restParameterInitializer
  /-- A comma follows the rest. -/
  | restComma
  /-- The rest of an object is taken apart. -/
  | restPattern
  | lineBreakBeforeArrow
  | lineBreakAfter (word : String)
  | missingHandler
  | declarationPosition
  | classPosition
  | asyncPosition
  | generatorPosition
  /-- A declaration that is no class is decorated. -/
  | strayDecorator
  | loopDeclarations
  /-- A loop over values starts with `async of`. -/
  | loopAsync
  /-- A loop that is not over values waits for them. -/
  | loopAwait
  /-- A loop waits for values where `await` is no operator. -/
  | strayAwait
  | newTarget
  | importMeta
  | importWithoutSpecifier
  /-- An import that is run has more than a specifier and attributes. -/
  | importArguments
  | newImport
  /-- Two attributes of an import have one name. -/
  | repeatedAttribute (name : String)
  | optionalNew
  | optionalTemplate
  /-- A getter has parameters. -/
  | getterParameters
  /-- A setter has not one parameter. -/
  | setterParameters
  | setterRest
  | constructorAccessor
  | constructorAsync
  | constructorGenerator
  | constructorField
  | privateConstructor
  | staticPrototype
  /-- A declared resource has no initial value. -/
  | resourceInitializer
  | resourcePattern
  /-- A resource is declared by a loop over keys. -/
  | resourceKeys (keyword : String)
  /-- An expression is given a type, which only another dialect allows. -/
  | typeAssertion
  | typeSatisfaction
  /-- The code says that it is written in another dialect. -/
  | otherDialect
  deriving DecidableEq, Repr

/-- The words for a problem. -/
def Problem.text : Problem → String
  | unexpectedToken => "Unexpected token"
  | expected wanted found => "Expected `" ++ wanted ++ "` but found `" ++ found ++ "`"
  | expectedOr separator close found =>
    "Expected `" ++ separator ++ "` or `" ++ close ++ "` but found `" ++ found ++ "`"
  | noSemicolon =>
    "Expected a semicolon or an implicit semicolon after a statement, but found none"
  | identifierExpected => "Identifier expected."
  | reservedWord word =>
    "Identifier expected. '" ++ word ++ "' is a reserved word that cannot be used here."
  | awaitName word => "Cannot use `" ++ word ++ "` as an identifier in an async context"
  | yieldName word => "Cannot use `" ++ word ++ "` as an identifier in a generator context"
  | missingInitializer => "Missing initializer in const declaration"
  | missingPatternInitializer => "Missing initializer in destructuring declaration"
  | missingFunctionName => "Expected function name"
  | missingClassName => "A class name is required."
  | invalidCharacter c => "Invalid Character `" ++ String.singleton c ++ "`"
  | invalidNumber reason => "Invalid Number " ++ reason
  | afterNumber => "Invalid characters after number"
  | openString => "Unterminated string"
  | openComment => "Unterminated multiline comment"
  | openRegex => "Unterminated regular expression"
  | invalidEscape => "Invalid escape sequence"
  | invalidUnicodeEscape => "Invalid Unicode escape sequence"
  | invalidTemplate => "Bad escape sequence in untagged template literal"
  | regexFlag flag =>
    "Unexpected flag " ++ String.singleton flag ++ " in regular expression literal"
  | repeatedFlag flag =>
    "Flag " ++ String.singleton flag ++ " is mentioned twice in regular expression literal"
  | regexModes =>
    "The 'u' and 'v' regular expression flags cannot be enabled at the same time"
  | escapedKeyword => "Keywords cannot contain escape characters"
  | closingTag name => "Expected corresponding JSX closing tag for '" ++ name ++ "'."
  | closingFragment => "Expected corresponding closing tag for JSX fragment."
  | emptyAttribute => "JSX attributes must only be assigned a non-empty 'expression'."
  | markupSequence => "JSX expressions may not use the comma operator"
  | duplicateExport name => "Duplicated export '" ++ name ++ "'"
  | loneSurrogate => "An export name cannot include a unicode lone surrogate"
  | exportedString _ => "A string literal cannot be used as an exported binding without `from`"
  | exportedReserved _ => "A reserved word cannot be used as an exported binding without `from`"
  | strayReturn => "A 'return' statement can only be used within a function body."
  | mixedCoalesce => "Logical expressions and coalesce expressions cannot be mixed"
  | unexpectedPower => "Unexpected exponentiation expression"
  | cannotAssign => "Cannot assign to this expression"
  | spreadNotLast => "Spread must be last element"
  | objectAssignment => "Invalid assignment in object literal"
  | emptyParentheses => "Empty parenthesized expression"
  | restNotLast => "A rest element must be last in a destructuring pattern"
  | restParameterNotLast => "A rest parameter must be last in a parameter list"
  | restInitializer => "A rest element cannot have an initializer."
  | restParameterInitializer => "A rest parameter cannot have an initializer."
  | restComma => "A rest parameter or binding pattern may not have a trailing comma."
  | restPattern => "Invalid binding rest element"
  | lineBreakBeforeArrow => "Line terminator not permitted before arrow"
  | lineBreakAfter word => "Illegal newline after " ++ word
  | missingHandler => "Missing catch or finally clause"
  | declarationPosition => "Lexical declaration cannot appear in a single-statement context"
  | classPosition => "Invalid class declaration"
  | asyncPosition =>
    "Async functions can only be declared at the top level or inside a block"
  | generatorPosition => "Generators can only be declared at the top level or inside a block"
  | strayDecorator => "Decorators are not valid here."
  | loopDeclarations => "Only a single declaration is allowed in a `for...of` statement"
  | loopAsync => "The left-hand side of a `for...of` statement may not be `async`"
  | loopAwait => "await can only be used in conjunction with `for...of` statements"
  | strayAwait =>
    "`await` is only allowed within async functions and at the top levels of modules"
  | newTarget => "The only valid meta property for new is new.target"
  | importMeta => "The only valid meta property for import is import.meta"
  | importWithoutSpecifier => "import() requires a specifier."
  | importArguments => "Dynamic imports can only accept a module specifier and an optional set " ++
    "of attributes as arguments"
  | newImport => "Cannot use new with dynamic import"
  | repeatedAttribute name => "Identifier `" ++ name ++ "` has already been declared"
  | optionalNew => "Invalid optional chain from new expression"
  | optionalTemplate => "Tagged template expressions are not permitted in an optional chain"
  | getterParameters => "A 'get' accessor must not have any formal parameters."
  | setterParameters => "A 'set' accessor must have exactly one formal parameter."
  | setterRest => "A 'set' accessor cannot have rest parameter."
  | constructorAccessor => "Constructor can't have get/set modifier"
  | constructorAsync => "Constructor can't be an async method"
  | constructorGenerator => "Constructor can't be a generator"
  | constructorField => "Classes can't have a field named 'constructor'"
  | privateConstructor => "Classes can't have an element named '#constructor'"
  | staticPrototype => "Classes may not have a static property named prototype"
  | resourceInitializer => "Using declarations must have an initializer."
  | resourcePattern => "Using declarations may not have destructuring patterns."
  | resourceKeys keyword =>
    "The left-hand side of a for...in statement cannot be an " ++ keyword ++ " declaration."
  | typeAssertion => "Type assertion expressions can only be used in TypeScript files."
  | typeSatisfaction => "Type satisfaction expressions can only be used in TypeScript files."
  | otherDialect => "Flow is not supported"

/-- A problem and the bytes of the code that show it. -/
structure Diagnostic where
  problem : Problem
  start : Nat
  stop : Nat
  deriving DecidableEq, Repr

end PagePrelude.Module
