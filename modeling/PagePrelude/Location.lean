/-!
# Places in a document
-/

namespace PagePrelude

/-- A line and a column of a document, both counted from one. -/
structure Location where
  line : Nat
  column : Nat
  file : Option String := none
  deriving DecidableEq, Repr

/-- `file:line:column`, or `line:column` where no file is known. -/
def Location.text (place : Location) : String :=
  let point := toString place.line ++ ":" ++ toString place.column
  match place.file with
  | some file => file ++ ":" ++ point
  | none => point

end PagePrelude
