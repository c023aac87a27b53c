import PagePrelude.Markdown.Dialect

/-!
# The dialect of pages

Documents that are compiled have markup and extended Markdown. Their code is judged as it
is read: an expression ends at the first brace before which it is complete, and module
code holds nothing but imports and exports.
-/

namespace PagePrelude.Page

open Markdown

/-- Whether an item is an import or an export. -/
def isModuleItem : Module.Item → Bool
  | .declaration _ | .statement _ => false
  | _ => true

/-- The verdict on code with a fault that reaches an offset. -/
def faulty (expression : Bool) (size : Nat) (fault : CodeFault) (start stop : Nat) : Verdict :=
  if stop ≥ size then .unfinished (.compiledCode expression fault)
  else .rejected (.compiledCode expression fault) start

/-- The verdict on the code that a diagnostic tells of. `size` is where the code ends. -/
def faultyAt (expression : Bool) (size : Nat) (found : Module.Diagnostic) : Verdict :=
  let fault := if found.start ≥ size then .unfinished else .unexpected
  faulty expression size fault found.start found.stop

/-- The verdict on module code. -/
def judgeModule (code : String) : Verdict :=
  let size := Text.byteSize code.toList
  match Module.readPlaced code with
  | .ok items =>
    match items.find? (!isModuleItem ·.item) with
    | some stray => faulty false size .statement stray.start stray.stop
    | none => .accepted
  | .error [] => .accepted
  | .error (first :: _) => faultyAt false (Text.byteSize (Text.trimEnd code.toList)) first

/-- The text as which attributes are read. -/
def attributesText (code : String) : String :=
  "(\x7b" ++ code ++ "\x7d)"

/-- The verdict on the code of an expression. -/
def judgeExpression (role : ExpressionRole) (code : String) : Verdict :=
  let text := if role = .attributes then attributesText code else code
  let front := if role = .attributes then 2 else 0
  let size := Text.byteSize code.toList
  match Module.readExpression text with
  | .ok (none, _) =>
    if role = .content then .accepted else .unfinished (.compiledCode true .unfinished)
  | .ok (some _, token) =>
    if token.lexeme == .endOfText then .accepted
    else .unfinished (.compiledCode true .trailing)
  | .error [] => .accepted
  | .error (first :: _) =>
    faultyAt true size { first with start := first.start - front, stop := first.stop - front }

/-- The dialect of documents that are compiled. -/
def dialect : Dialect where
  markup := true
  extended := true
  matter := false
  judgeModule := judgeModule
  judge := some judgeExpression

end PagePrelude.Page
