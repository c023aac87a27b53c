import PagePrelude.Number.Shortest

/-!
# JSON values

Objects keep the order in which their keys first appear. Integers of 64 bits are
kept exactly; every other number is a binary floating point number.
-/

namespace PagePrelude.Json

/-- A JSON number. -/
inductive Number where
  /-- An integer from zero to `2 ^ 64 - 1`. -/
  | natural (value : Nat)
  /-- The negation of an integer from one to `2 ^ 63`. -/
  | negative (value : Nat)
  /-- Any other number. -/
  | float (value : Binary64)
  deriving DecidableEq, Repr

/-- The text of a number. -/
def Number.text : Number → String
  | .natural n => toString n
  | .negative n => "-" ++ toString n
  | .float x => x.text

/-- A JSON value. -/
inductive Value where
  | null
  | bool (value : Bool)
  | number (value : Number)
  | string (value : String)
  | array (items : List Value)
  | object (fields : List (String × Value))
  deriving Repr, Inhabited

/-- Sets a key of an object: the key keeps the place where it first appeared. -/
def setField (fields : List (String × Value)) (key : String) (value : Value) :
    List (String × Value) :=
  match fields with
  | [] => [(key, value)]
  | (k, v) :: rest => if k = key then (key, value) :: rest else (k, v) :: setField rest key value

/-- The value of a key. -/
def field? (fields : List (String × Value)) (key : String) : Option Value :=
  match fields with
  | [] => none
  | (k, v) :: rest => if k = key then some v else field? rest key

end PagePrelude.Json
