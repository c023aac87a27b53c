import PagePrelude.Config.Basic
import PagePrelude.Json.Quoted
import PagePrelude.Specifier

/-!
# Import statements

An import statement is data until it is written: the names it binds are read off its
clause, and `ImportStatement.text` is the only place that knows how it is spelled.
-/

namespace PagePrelude

/-- What an import statement takes from its module. -/
inductive ImportClause where
  /-- The default export. -/
  | default (name : String)
  /-- Named exports; a binding under its own name is written once. -/
  | named (bindings : List Binding)
  /-- One named export with its local name written out. -/
  | renamed (binding : Binding)
  /-- All exports as one object. -/
  | whole (name : String)
  deriving DecidableEq, Repr

/-- An import statement of module code. -/
structure ImportStatement where
  clause : ImportClause
  source : String
  deriving DecidableEq, Repr

/-- A text as a string literal of module code. -/
def literal (text : String) : String :=
  Json.quote text

/-- An exported name as an import spells it: bare where module code allows it, else quoted. -/
def exportedName (name : String) : String :=
  if name = "default" || Identifier.isIdentifier name then name else literal name

/-- A property name as an object spells it. -/
def propertyName (name : String) : String :=
  if Identifier.isIdentifier name then name else literal name

namespace ImportClause

/-- The local names that a clause binds, in order. -/
def names : ImportClause → List String
  | default name | whole name => [name]
  | named bindings => bindings.map Binding.bound
  | renamed binding => [binding.bound]

/-- A binding with both of its names. -/
def renamedText (binding : Binding) : String :=
  exportedName binding.exported ++ " as " ++ binding.bound

/-- A binding with the exported name left out where it is the local one. -/
def bindingText (binding : Binding) : String :=
  if binding.exported = binding.bound then binding.bound else renamedText binding

/-- The clause as it is written. -/
def text : ImportClause → String
  | default name => name
  | named bindings => "\x7b " ++ ", ".intercalate (bindings.map bindingText) ++ " \x7d"
  | renamed binding => "\x7b " ++ renamedText binding ++ " \x7d"
  | whole name => "* as " ++ name

end ImportClause

namespace ImportStatement

/-- The local names that a statement binds, in order. -/
def names (statement : ImportStatement) : List String :=
  statement.clause.names

/-- The statement as it is written. -/
def text (statement : ImportStatement) : String :=
  "import " ++ statement.clause.text ++ " from " ++ literal statement.source ++ ";"

/-- The clause of an entry. An entry built by hand may lack bindings or a derivable name. -/
def clauseOf : ImportEntry → Except Error ImportClause
  | .default path => do return .default (← Identifier.derive path)
  | .named path bindings =>
    if bindings.isEmpty then .error (.emptyNamedImports path) else .ok (.named bindings)
  | .whole _ name => .ok (.whole name)

/-- The statement of an entry declared in the directory `root`. -/
def ofEntry (root : String) (entry : ImportEntry) : Except Error ImportStatement := do
  return { clause := ← clauseOf entry, source := Specifier.resolve entry.path root }

end ImportStatement

end PagePrelude
