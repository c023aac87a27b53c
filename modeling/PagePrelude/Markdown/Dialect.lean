import PagePrelude.Markdown.Fault
import PagePrelude.Module.Program
import PagePrelude.Text.Size
import PagePrelude.Text.Space

/-!
# Dialects

A dialect says which constructs a document can have, and how the code in it is judged.
-/

namespace PagePrelude.Markdown

/-- What there is to say about a piece of code in a document. -/
inductive Verdict where
  | accepted
  /-- The code may become right with the text that follows. -/
  | unfinished (fault : Fault)
  /-- The code is wrong at an offset, whatever follows. -/
  | rejected (fault : Fault) (offset : Nat)
  deriving DecidableEq, Repr

/-- The verdict on module code. Code whose first problem reaches its last visible character
may need more text. -/
def Verdict.ofModule (code : String) (reader : Module.Reader := Module.read) : Verdict :=
  match reader code with
  | .ok _ => .accepted
  | .error [] => .accepted
  | .error (first :: _) =>
    let fault := .moduleCode first.problem
    if first.stop ≥ Text.byteSize (Text.trimEnd code.toList) then .unfinished fault
    else .rejected fault first.start

/-- What the code between braces stands for. -/
inductive ExpressionRole where
  | content
  | attributes
  | value
  deriving DecidableEq, Repr

/-- The constructs that documents can have. -/
structure Dialect where
  /-- Module code, elements and expressions, but no HTML and no indented code. -/
  markup : Bool
  /-- Tables, footnotes, check boxes and strikethrough. -/
  extended : Bool
  /-- A data block at the start. -/
  matter : Bool
  /-- How module code is judged. -/
  judgeModule : String → Verdict
  /-- How expressions are judged. Without a judge they end at the brace that closes them. -/
  judge : Option (ExpressionRole → String → Verdict) := none

namespace Dialect

/-- Plain documents. -/
def plain (reader : Module.Reader := Module.read) : Dialect where
  markup := false
  extended := true
  matter := true
  judgeModule := fun code => Verdict.ofModule code reader

/-- Documents with module code. -/
def mdx (reader : Module.Reader := Module.read) : Dialect where
  markup := true
  extended := false
  matter := true
  judgeModule := fun code => Verdict.ofModule code reader

/-- How far a block other than code can be indented, if there is a limit. -/
def indentLimit (dialect : Dialect) : Option Nat :=
  if dialect.markup then none else some 3

/-- Whether a line is too far indented for other blocks than code. -/
def tooDeep (dialect : Dialect) (indent : Nat) : Bool :=
  dialect.indentLimit.any (· < indent)

end Dialect

end PagePrelude.Markdown
