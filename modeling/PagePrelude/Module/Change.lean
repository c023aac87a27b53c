import PagePrelude.Module.Code

/-!
# Changing the code of items

A change of expressions is carried through patterns, declarations and items. It may keep
a record of what it did on the way.
-/

namespace PagePrelude.Module

variable {m : Type → Type} [Monad m]

mutual

/-- Changes the code in a pattern: defaults and keys. -/
def Pattern.changed (change : Code → m Code) : Pattern → m Pattern
  | .name text => return .name text
  | .hole => return .hole
  | .withDefault target value => return .withDefault (← target.changed change) (← change value)
  | .property key computed shorthand target => do
    return .property (← change key) computed shorthand (← target.changed change)
  | .rest target => return .rest (← target.changed change)
  | .object parts => return .object (← partsChanged change parts)
  | .array parts => return .array (← partsChanged change parts)

/-- Changes the code in the parts of a pattern. -/
def partsChanged (change : Code → m Code) : List Pattern → m (List Pattern)
  | [] => return []
  | part :: parts => return (← part.changed change) :: (← partsChanged change parts)

end

/-- Changes the code of a declaration. -/
def Declaration.changed (change : Code → m Code) : Declaration → m Declaration
  | .bindings keyword declarators =>
    return .bindings keyword (← declarators.mapM fun (pattern, value) => do
      return (← pattern.changed change, ← change value))
  | .function name code => return .function name (← change code)
  | .classBody name code => return .classBody name (← change code)

/-- Changes the code of an item. Imports and exports of names hold none. -/
def Item.changed (change : Code → m Code) : Item → m Item
  | .exportDeclaration declared => return .exportDeclaration (← declared.changed change)
  | .exportDefault declared value => return .exportDefault declared (← change value)
  | .declaration declared => return .declaration (← declared.changed change)
  | .statement code => return .statement (← change code)
  | item => return item

end PagePrelude.Module
