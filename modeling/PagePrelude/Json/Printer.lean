import PagePrelude.Json.Value
import PagePrelude.Json.Quoted

/-!
# Compact JSON text
-/

namespace PagePrelude.Json

mutual

/-- The text of a value, without blanks. -/
def Value.text : Value → String
  | .null => "null"
  | .bool value => if value then "true" else "false"
  | .number value => value.text
  | .string value => quote value
  | .array items => "[" ++ ",".intercalate (itemTexts items) ++ "]"
  | .object fields => "\x7b" ++ ",".intercalate (fieldTexts fields) ++ "\x7d"

/-- The texts of the items of an array. -/
def itemTexts : List Value → List String
  | [] => []
  | item :: rest => item.text :: itemTexts rest

/-- The texts of the fields of an object. -/
def fieldTexts : List (String × Value) → List String
  | [] => []
  | (key, value) :: rest => (quote key ++ ":" ++ value.text) :: fieldTexts rest

end

end PagePrelude.Json
