import PagePrelude.Module.Code
import PagePrelude.Module.Spelling

/-!
# Making module code

Short ways to write the trees that generated code is made of.
-/

namespace PagePrelude.Module.Code

/-- A string. -/
def ofText (text : String) : Code := .string text (spelledString text)

/-- A part of an object by its name. -/
def member (base : Code) (name : String) : Code := .node (.access false) [base, .word name]

/-- A call. -/
def callOf (callee : Code) (arguments : List Code) : Code :=
  .node (.call false) (callee :: arguments)

/-- A property of an object. -/
def propertyOf (key value : Code) : Code := .node (.property .value false) [key, value]

/-- An object. -/
def objectOf (properties : List Code) : Code := .node .object properties

/-- An object that takes over the properties of others. -/
def merged (objects : List Code) : Code := callOf (member (.name "Object") "assign") objects

/-- A property that is named like the variable that it holds. -/
def shorthand (name : String) : Code := .node (.property .shorthand false) [.name name, .name name]

/-- Constants with their values. -/
def constants (bindings : List (Code × Code)) : Code :=
  .node (.bindings "const")
    (bindings.map fun (pattern, value) => .node .declarator [pattern, value])

/-- A function with a name. -/
def functionOf (name : String) (inputs statements : List Code) : Code :=
  .node (.function false false) [.name name, .node .parameters inputs, .node .block statements]

/-- The statement that ends a function with a value. -/
def result (value : Code) : Code := .node .returning [value]

/-- One of two values. -/
def either (test yes no : Code) : Code := .node .conditional [test, yes, no]

/-- A value, or another if there is none. -/
def orElse (value fallback : Code) : Code := .node (.binary "||") [value, fallback]

/-- A sum. -/
def plus (first second : Code) : Code := .node (.binary "+") [first, second]

end PagePrelude.Module.Code
