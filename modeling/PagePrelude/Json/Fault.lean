import PagePrelude.Json.Value
import PagePrelude.Text.Shown

/-!
# Faults of JSON text and of the values it holds
-/

namespace PagePrelude.Json

/-- A line, counted from one, and the number of bytes read of it. -/
structure Position where
  line : Nat
  column : Nat
  deriving DecidableEq, Repr

/-- What stood where another kind of value was expected. -/
inductive Found where
  | null
  | bool (value : Bool)
  | number (value : Number)
  | string (value : String)
  | sequence
  | map
  deriving Repr

/-- The words for what was found. -/
def Found.text : Found → String
  | .null => "null"
  | .bool value => "boolean `" ++ (if value then "true" else "false") ++ "`"
  | .number (.float x) => "floating point `" ++ x.text ++ "`"
  | .number n => "integer `" ++ n.text ++ "`"
  | .string value => "string " ++ Text.shown value
  | .sequence => "sequence"
  | .map => "map"

/-- The kind of a value, as it is named where another kind was expected. -/
def Value.found : Value → Found
  | .null => .null
  | .bool b => .bool b
  | .number n => .number n
  | .string s => .string s
  | .array _ => .sequence
  | .object _ => .map

/-- Why a JSON text or value was refused. -/
inductive Cause where
  | endInList
  | endInObject
  | endInString
  | endInValue
  | expectedColon
  | expectedCommaOrBracket
  | expectedCommaOrBrace
  | expectedWord
  | expectedValue
  | invalidEscape
  | invalidNumber
  | numberOutOfRange
  | controlCharacter
  | keyNotString
  | loneSurrogate
  | trailingComma
  | trailingCharacters
  | unfinishedSurrogatePair
  | tooDeep
  | wrongType (found : Found) (expected : String)
  | duplicateField (name : String)
  | tooManyElements (count : Nat)
  deriving Repr

/-- The words for a cause. -/
def Cause.text : Cause → String
  | endInList => "EOF while parsing a list"
  | endInObject => "EOF while parsing an object"
  | endInString => "EOF while parsing a string"
  | endInValue => "EOF while parsing a value"
  | expectedColon => "expected `:`"
  | expectedCommaOrBracket => "expected `,` or `]`"
  | expectedCommaOrBrace => "expected `,` or `\x7d`"
  | expectedWord => "expected ident"
  | expectedValue => "expected value"
  | invalidEscape => "invalid escape"
  | invalidNumber => "invalid number"
  | numberOutOfRange => "number out of range"
  | controlCharacter => "control character (\\u0000-\\u001F) found while parsing a string"
  | keyNotString => "key must be a string"
  | loneSurrogate => "lone leading surrogate in hex escape"
  | trailingComma => "trailing comma"
  | trailingCharacters => "trailing characters"
  | unfinishedSurrogatePair => "unexpected end of hex escape"
  | tooDeep => "recursion limit exceeded"
  | wrongType found expected => "invalid type: " ++ found.text ++ ", expected " ++ expected
  | duplicateField name => "duplicate field `" ++ name ++ "`"
  | tooManyElements count =>
    "invalid length " ++ toString count ++ ", expected fewer elements in array"

/-- A cause, with the position in the text where there is one. -/
structure Fault where
  cause : Cause
  position : Option Position := none
  deriving Repr

/-- The words for a fault. -/
def Fault.text (fault : Fault) : String :=
  match fault.position with
  | none => fault.cause.text
  | some p => fault.cause.text ++ " at line " ++ toString p.line ++ " column " ++ toString p.column

end PagePrelude.Json
