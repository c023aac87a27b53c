import PagePrelude.Text.Alphabetic
import PagePrelude.Text.Numeric

/-!
# Names of imported bindings

An identifier is a text that can stand as the local name of an import. Letters and
digits are those of Unicode, so a name may be written in any script.
-/

namespace PagePrelude.Identifier

/-- Words that module code never accepts as the name of a binding. -/
def reservedWords : List String := [
  "arguments", "await", "break", "case", "catch", "class", "const", "continue", "debugger",
  "default", "delete", "do", "else", "enum", "eval", "export", "extends", "false", "finally",
  "for", "function", "if", "implements", "import", "in", "instanceof", "interface", "let",
  "new", "null", "package", "private", "protected", "public", "return", "static", "super",
  "switch", "this", "throw", "true", "try", "typeof", "var", "void", "while", "with", "yield"]

/-- Characters that may begin an identifier. -/
def isFirst (c : Char) : Bool :=
  Text.isAlphabetic c || c == '_' || c == '$'

/-- Characters that may follow the first one of an identifier. -/
def isRest (c : Char) : Bool :=
  Text.isAlphabetic c || Text.isNumeric c || c == '_' || c == '$'

/-- Whether a text has the form of an identifier, reserved or not. -/
def isShaped (name : String) : Bool :=
  match name.toList with
  | [] => false
  | c :: cs => isFirst c && cs.all isRest

/-- Whether a text can be the local name of an import. -/
def isIdentifier (name : String) : Bool :=
  isShaped name && !reservedWords.contains name

/-- The characters that every identifier may hold after its first. -/
def isPlain (c : Char) : Bool :=
  c.isAlphanum || c == '_'

/-- Drops every character other than ASCII letters, ASCII digits and `_`. -/
def sanitize (text : String) : String :=
  String.ofList (text.toList.filter isPlain)

end PagePrelude.Identifier
