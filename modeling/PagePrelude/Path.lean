/-!
# Slash-separated paths

Paths are read lexically: a path denotes an optional root followed by the segments
between its slashes. Empty segments and `.` segments carry no meaning and are
skipped; `..` is a segment like any other until a path is normalised.
-/

namespace PagePrelude

/-- A path read into its segments. -/
structure Path where
  rooted : Bool
  segments : List String
  deriving DecidableEq, Repr, Inhabited

namespace Path

/-- Splits a list of characters at every slash. -/
def splitSlashes : List Char → List (List Char)
  | [] => [[]]
  | c :: cs =>
    match splitSlashes cs with
    | [] => [[c]]
    | part :: parts => if c = '/' then [] :: part :: parts else (c :: part) :: parts

/-- Segments that denote a step: everything but the empty one and `.`. -/
def isStep (segment : String) : Bool :=
  segment != "" && segment != "."

/-- The segments of a text, in order, without the empty and `.` ones. -/
def steps (text : String) : List String :=
  ((splitSlashes text.toList).map String.ofList).filter isStep

/-- Reads a text as a path. -/
def ofText (text : String) : Path :=
  { rooted := text.toList.head? == some '/', segments := steps text }

/-- Writes a path with single slashes. -/
def toText (path : Path) : String :=
  (if path.rooted then "/" else "") ++ "/".intercalate path.segments

/-- A path followed by the steps of another one. -/
def append (base : Path) (more : List String) : Path :=
  { base with segments := base.segments ++ more }

/-- One step of normalisation: `..` takes back the last segment if there is one, whatever it is,
and every other segment is kept. -/
def walk (kept : List String) (segment : String) : List String :=
  if segment = ".." then
    match kept with
    | [] => [".."]
    | _ :: rest => rest
  else segment :: kept

/-- Resolves `..` segments from left to right without consulting a file system. -/
def normalize (path : Path) : Path :=
  { path with segments := (path.segments.foldl walk []).reverse }

/-- The last segment of a text, unless it is `..`. -/
def fileName (text : String) : Option String :=
  match (steps text).getLast? with
  | none => none
  | some segment => if segment = ".." then none else some segment

/-- Splits a file name at its last dot. A dot that comes first starts no extension. -/
def splitExtension (name : String) : String × Option String :=
  let after := name.toList.reverse.takeWhile (· != '.')
  let before := (name.toList.reverse.dropWhile (· != '.')).drop 1
  if before.isEmpty then (name, none)
  else (String.ofList before.reverse, some (String.ofList after.reverse))

/-- The file name without its extension. -/
def stem (text : String) : Option String :=
  (fileName text).map fun name => (splitExtension name).1

/-- The extension of the file name. -/
def extension (text : String) : Option String :=
  (fileName text).bind fun name => (splitExtension name).2

/-- Drops trailing slashes and `.` segments from a reversed text, never its first character. -/
def trimBack : List Char → List Char
  | ['/'] => ['/']
  | '/' :: rest => trimBack rest
  | '.' :: '/' :: rest => trimBack ('/' :: rest)
  | other => other

/-- The text before the last segment, without trailing slashes; empty for a bare file name. -/
def parent (text : String) : String :=
  let back := trimBack text.toList.reverse
  String.ofList (trimBack (back.dropWhile (· != '/'))).reverse

end Path

end PagePrelude
