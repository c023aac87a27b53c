import PagePrelude.Module.Code

/-!
# Operators

How tightly binary operators bind, and how a row of operands and operators becomes a
tree. The operator `**` groups to the right, all others to the left.
-/

namespace PagePrelude.Module

/-- Words that stand between an expression and a type. -/
def typeWords : List String :=
  ["as", "satisfies"]

/-- The strength of a binary operator. -/
def strength? (operator : String) : Option Nat :=
  if operator = "??" then some 1
  else if operator = "||" then some 2
  else if operator = "&&" then some 3
  else if operator = "|" then some 4
  else if operator = "^" then some 5
  else if operator = "&" then some 6
  else if ["==", "!=", "===", "!=="].contains operator then some 7
  else if ["<", ">", "<=", ">=", "instanceof", "in"].contains operator then some 8
  else if typeWords.contains operator then some 8
  else if ["<<", ">>", ">>>"].contains operator then some 9
  else if ["+", "-"].contains operator then some 10
  else if ["*", "/", "%"].contains operator then some 11
  else if operator = "**" then some 12
  else none

/-- The operators that assign. -/
def assignmentOperators : List String := [
  "=", "+=", "-=", "*=", "/=", "%=", "**=", "<<=", ">>=", ">>>=", "&=", "|=", "^=", "&&=", "||=",
  "??="]

/-- The strength of an operator; other texts are no operators. -/
def strength (operator : String) : Nat :=
  (strength? operator).getD 0

/-- Whether an operator on the left takes its right operand before one on its right does. -/
def closesBefore (left right : String) : Bool :=
  if left = "**" && right = "**" then false else strength right ≤ strength left

/-- Closes the pending operations that come before the operator `next`. -/
def closeBefore (next : String) : List (Code × String) → Code → List (Code × String) × Code
  | [], last => ([], last)
  | (left, operator) :: pending, last =>
    if closesBefore operator next then
      closeBefore next pending (.node (.binary operator) [left, last])
    else ((left, operator) :: pending, last)

/-- Closes all pending operations. -/
def closeAll : List (Code × String) → Code → Code
  | [], last => last
  | (left, operator) :: pending, last => closeAll pending (.node (.binary operator) [left, last])

/-- The tree of a row of operands. -/
def operationOf (pending : List (Code × String)) (last : Code) : List (String × Code) → Code
  | [] => closeAll pending last
  | (operator, operand) :: row =>
    let (pending, last) := closeBefore operator pending last
    operationOf ((last, operator) :: pending) operand row

/-- Whether an operation is one of `||` and `&&`. -/
def Code.isLogical : Code → Bool
  | .node (.binary operator) _ => operator == "||" || operator == "&&"
  | _ => false

/-- Whether an operation is `??`. -/
def Code.isCoalesce : Code → Bool
  | .node (.binary operator) _ => operator == "??"
  | _ => false

mutual

/-- Whether `??` is mixed with `||` or `&&` without brackets among nested operations. -/
def Code.mixesCoalesce : Code → Bool
  | .node (.binary operator) parts =>
    (operator == "??" && parts.any Code.isLogical) ||
      ((operator == "||" || operator == "&&") && parts.any Code.isCoalesce) || mixCoalesce parts
  | _ => false

/-- Whether some operation of a list mixes them. -/
def mixCoalesce : List Code → Bool
  | [] => false
  | part :: parts => part.mixesCoalesce || mixCoalesce parts

end

end PagePrelude.Module
