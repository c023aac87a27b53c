import PagePrelude.Json.Reader
import PagePrelude.Yaml.Node
import PagePrelude.Error

/-!
# Options as they are written

The options are two optional members: a list of imports and a mapping of component
overrides. They may also be written as a list of the two. Other members are ignored.
-/

namespace PagePrelude

/-- The options of a configuration, not yet validated. -/
structure Options where
  imports : List Json.Value := []
  components : List (String × Json.Value) := []
  deriving Repr, Inhabited

namespace Options

/-- The kind of value that holds options, as messages name it. -/
def structName : String := "struct AutoImportOptions"

/-- The member that lists imports. -/
def importsKey : String := "imports"

/-- The member that maps elements to components. -/
def componentsKey : String := "defaultComponents"

/-- Fails because a value of another kind was expected. -/
def mismatch {α : Type} (value : Json.Value) (expected : String) : Except Json.Fault α :=
  .error ⟨.wrongType value.found expected, none⟩

/-- The list of imports of a value. -/
def importsOf : Json.Value → Except Json.Fault (List Json.Value)
  | .array items => .ok items
  | other => mismatch other "a sequence"

/-- The mapping of components of a value. -/
def componentsOf : Json.Value → Except Json.Fault (List (String × Json.Value))
  | .object fields => .ok fields
  | other => mismatch other "a map"

/-- Takes over one member. -/
def setMember (options : Options) (key : String) (value : Json.Value) :
    Except Json.Fault Options := do
  if key = importsKey then return { options with imports := ← importsOf value }
  else if key = componentsKey then return { options with components := ← componentsOf value }
  else return options

/-- The options in a JSON value. -/
def ofValue : Json.Value → Except Json.Fault Options
  | .object fields => fields.foldlM (fun options (key, value) => options.setMember key value) {}
  | .array [] => .ok {}
  | .array [imports] => return { imports := ← importsOf imports }
  | .array [imports, components] => do
    return { imports := ← importsOf imports, components := ← componentsOf components }
  | .array (imports :: components :: more) => do
    let _ ← importsOf imports
    let _ ← componentsOf components
    .error ⟨.tooManyElements (more.length + 2), none⟩
  | other => mismatch other structName

/-! ## Reading options from JSON text -/

section

open Json Json.Reader

/-- How deep the values inside the options may be nested. -/
def valueDepth : Nat := Reader.maxDepth - 2

/-- Reads a value of another kind than the expected one, and fails. -/
def readMismatch {α : Type} (expected : String) : Reader α := do
  let wrong (found : Found) : Reader α := Reader.fail (.wrongType found expected)
  match ← peek with
  | some 'n' => skip; word ['u', 'l', 'l']; wrong .null
  | some 't' => skip; word ['r', 'u', 'e']; wrong (.bool true)
  | some 'f' => skip; word ['a', 'l', 's', 'e']; wrong (.bool false)
  | some '"' => wrong (.string (← string))
  | some '[' => wrong .sequence
  | some '{' => wrong .map
  | some c =>
    if c = '-' || c.isDigit then wrong (.number (← number)) else failPeek .expectedValue
  | none => failPeek .expectedValue

/-- Reads a list of imports. -/
def readImports : Reader (List Value) := do
  match ← token with
  | none => failPeek .endInValue
  | some '[' => arrayOf (value valueDepth)
  | some _ => readMismatch "a sequence"

/-- Reads a mapping of components. -/
def readComponents : Reader (List (String × Value)) := do
  match ← token with
  | none => failPeek .endInValue
  | some '{' => objectOf (value valueDepth)
  | some _ => readMismatch "a map"

/-- Fails because a member occurs twice. The closing brace, where it comes next, counts as read. -/
def failDuplicate {α : Type} (name : String) : Reader α := do
  match ← token with
  | some '}' => skip
  | _ => pure ()
  Reader.fail (.duplicateField name)

/-- Reads the members of options up to the closing brace. -/
def readMembers : Nat → Bool → Option (List Value) → Option (List (String × Value)) →
    Reader Options
  | 0, _, _, _ => failPeek .endInObject
  | fuel + 1, first, imports, components => do
    if ← hasKey first then
      let key ← string
      if key = importsKey then
        if imports.isSome then failDuplicate importsKey
        colon
        readMembers fuel false (some (← readImports)) components
      else if key = componentsKey then
        if components.isSome then failDuplicate componentsKey
        colon
        readMembers fuel false imports (some (← readComponents))
      else
        colon
        skipValue ((← get).rest.length + 1)
        readMembers fuel false imports components
    else
      skip
      return { imports := imports.getD [], components := components.getD [] }

/-- Reads the closing bracket of options that are written as a list. -/
def closeList : Reader Unit := do
  match ← token with
  | some ']' => skip
  | some ',' =>
    skip
    match ← token with
    | some ']' => failPeek .trailingComma
    | _ => failPeek .trailingCharacters
  | some _ => failPeek .trailingCharacters
  | none => failPeek .endInList

/-- Reads options that are written as a list, after the opening bracket. -/
def readList : Reader Options := do
  if ← hasItem true then
    let imports ← readImports
    if ← hasItem false then
      let components ← readComponents
      closeList
      return { imports := imports, components := components }
    else
      skip
      return { imports := imports }
  else
    skip
    return {}

/-- Reads options. -/
def reader : Reader Options := do
  match ← token with
  | none => failPeek .endInValue
  | some '{' =>
    skip
    readMembers ((← get).rest.length + 1) true none none
  | some '[' =>
    skip
    readList
  | some _ => readMismatch structName

/-- Reads options from JSON text. -/
def ofJson (text : String) : Except Fault Options :=
  let whole : Reader Options := do
    let options ← reader
    atEnd
    return options
  (whole.run ⟨text.toList, 1, 0⟩).map (·.1)

end

/-- Reads options from YAML text, where an empty text stands for no options. -/
def ofYaml (text : String) : Except Error Options :=
  match Yaml.Value.read text with
  | .error fault => .error (.yaml fault)
  | .ok value =>
    match value.json with
    | .error fault => .error (.json fault.text)
    | .ok .null => .ok {}
    | .ok value => (ofValue value).mapError fun fault => .json fault.text

end Options

end PagePrelude
