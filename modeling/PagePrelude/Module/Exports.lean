import PagePrelude.Module.Program
import PagePrelude.Notice

/-!
# What module code imports and exports
-/

namespace PagePrelude.Module

/-- The local names that an item imports. -/
def Item.importedNames : Item → List String
  | .imports (some specifiers) _ _ => specifiers.map ImportSpecifier.bound
  | _ => []

/-- The local names that items import, in order. -/
def importedNames (items : List Item) : List String :=
  items.flatMap Item.importedNames

mutual

/-- Whether a pattern binds a name. A target with a default counts as no binding. -/
def Pattern.binds (name : String) : Pattern → Bool
  | .name text => text == name
  | .hole => false
  | .withDefault .. => false
  | .property _ _ _ target => target.binds name
  | .rest target => target.binds name
  | .object parts => somePartBinds name parts
  | .array parts => somePartBinds name parts

/-- Whether a part of a pattern binds a name. -/
def somePartBinds (name : String) : List Pattern → Bool
  | [] => false
  | part :: parts => part.binds name || somePartBinds name parts

end

/-- Whether a declaration binds a name. -/
def Declaration.binds (name : String) : Declaration → Bool
  | .bindings _ declarators => declarators.any fun (pattern, _) => pattern.binds name
  | .function own _ => own == name
  | .classBody own _ => own == name

/-- Whether an item exports a name other than `default`. -/
def Item.exports (name : String) : Item → Bool
  | .exportDeclaration declared => declared.binds name
  | .exportNames specifiers _ _ => specifiers.any fun s => s.exported.text == name
  | .exportAll (some exported) _ _ => exported.text == name
  | _ => false

/-- Whether module code exports a name, and what there is to say about the search. Code that is no
program exports nothing. -/
def exports (code name : String) (reader : Reader := read) : Bool × List Notice :=
  match reader code with
  | .ok items => (items.any (Item.exports name), [])
  | .error _ => (false, [.unreadable name])

end PagePrelude.Module
