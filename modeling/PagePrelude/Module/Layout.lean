/-!
# Layouts

A text that is laid out in lines, each with the steps that it is indented by. Layouts are
put together without knowing how deep they will stand.
-/

namespace PagePrelude.Module

/-- A text in lines: the first, and the others with their indentation. -/
structure Layout where
  first : String := ""
  rest : List (Nat × String) := []
  deriving DecidableEq, Repr, Inhabited

namespace Layout

/-- A text without lines of its own. -/
def ofString (text : String) : Layout := { first := text }

instance : Coe String Layout := ⟨ofString⟩

/-- Appends a layout to the last line of lines. -/
def appendTo (second : Layout) : List (Nat × String) → List (Nat × String)
  | [] => []
  | [(depth, line)] => (depth, line ++ second.first) :: second.rest
  | line :: lines => line :: appendTo second lines

/-- A layout that goes on where another ends. -/
def append (first second : Layout) : Layout :=
  if first.rest.isEmpty then { first := first.first ++ second.first, rest := second.rest }
  else { first with rest := appendTo second first.rest }

instance : Append Layout := ⟨append⟩

/-- A layout of which all lines but the first stand one step deeper. -/
def nest (layout : Layout) : Layout :=
  { layout with rest := layout.rest.map fun (depth, line) => (depth + 1, line) }

/-- A layout on lines of its own, after a line break. -/
def onNewLine (layout : Layout) : Layout :=
  { first := "", rest := (0, layout.first) :: layout.rest }

/-- Layouts after each other with a text between them. -/
def sepBy (separator : String) : List Layout → Layout
  | [] => {}
  | [last] => last
  | first :: rest => first ++ ofString separator ++ sepBy separator rest

/-- Layouts on lines of their own, each of which but the last ends with a text. -/
def linesBy (ending : String) : List Layout → Layout
  | [] => {}
  | [last] => last.onNewLine
  | first :: rest => first.onNewLine ++ ofString ending ++ linesBy ending rest

/-- Layouts between two marks, on lines of their own that stand one step deeper. -/
def enclose (opening ending closing : String) (inside : List Layout) : Layout :=
  ofString opening ++ (linesBy ending inside).nest ++ (ofString closing).onNewLine

/-- A line with its indentation. -/
def lineText (depth : Nat) (line : String) : String :=
  String.ofList (List.replicate (4 * depth) ' ') ++ line

/-- The text of a layout. -/
def text (layout : Layout) : String :=
  "\n".intercalate (layout.first :: layout.rest.map fun (depth, line) => lineText depth line)

end Layout

end PagePrelude.Module
