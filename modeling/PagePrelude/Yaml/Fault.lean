/-!
# Faults of YAML text
-/

namespace PagePrelude.Yaml

/-- A place in a text, every part counted from zero in characters. -/
structure Mark where
  index : Nat := 0
  line : Nat := 0
  column : Nat := 0
  deriving DecidableEq, Repr, Inhabited

namespace Mark

/-- Whether a mark stands at the very start of the text; messages leave such a mark out. -/
def isOrigin (m : Mark) : Bool := m.line == 0 && m.column == 0

/-- The words for a mark, counted from one. -/
def text (m : Mark) : String :=
  "line " ++ toString (m.line + 1) ++ " column " ++ toString (m.column + 1)

/-- `" at "` and the mark, or nothing at the start of the text. -/
def suffix (m : Mark) : String :=
  if m.isOrigin then "" else " at " ++ m.text

end Mark

/-- The construct being read when a problem was met, and where it started. -/
structure Context where
  words : String
  mark : Mark
  deriving Repr

/-- Why a YAML text was refused. -/
inductive Fault where
  /-- The text does not follow the grammar. -/
  | grammar (problem : String) (mark : Mark) (context : Option Context)
  /-- A character that no YAML text may hold, at a byte offset. -/
  | control (offset : Nat)
  /-- A node cannot be read as a value. -/
  | node (problem : String) (path : String) (mark : Mark)
  | unknownAnchor (mark : Mark)
  | tooDeep (mark : Mark)
  | tooManyAliases
  | endOfStream
  | manyDocuments
  deriving Repr

/-- The words for a fault. -/
def Fault.text : Fault → String
  | grammar problem mark context =>
    let detail :=
      match context with
      | none => ""
      | some c =>
        ", " ++ c.words ++ (if c.mark = mark then "" else c.mark.suffix)
    problem ++ mark.suffix ++ detail
  | control offset =>
    "control characters are not allowed" ++
      (if offset = 0 then "" else " at position " ++ toString offset)
  | node problem path mark => (if path = "." then "" else path ++ ": ") ++ problem ++ mark.suffix
  | unknownAnchor mark => "unknown anchor" ++ mark.suffix
  | tooDeep mark => "recursion limit exceeded" ++ mark.suffix
  | tooManyAliases => "repetition limit exceeded"
  | endOfStream => "EOF while parsing a value"
  | manyDocuments =>
    "deserializing from YAML containing more than one document is not supported"

end PagePrelude.Yaml
