import PagePrelude.Injector
import PagePrelude.Markdown.Read

/-!
# Documents as source text

The generated code goes in front of what the author wrote, after the data block if there
is one. The text of the author is never changed.
-/

namespace PagePrelude.Document

/-- The dialect of documents of a kind. -/
def dialect (kind : DocumentKind) (reader : Module.Reader := Module.read) : Markdown.Dialect :=
  match kind with
  | .markdown => .plain reader
  | .mdx => .mdx reader

/-- A problem as an error. -/
def errorOf (problem : Markdown.Problem) : Error :=
  .document problem.fault.text { line := problem.place.line, column := problem.place.column }

/-- Reads a document. -/
def read (kind : DocumentKind) (source : String) (reader : Module.Reader := Module.read) :
    Except Error Node :=
  (Markdown.read (dialect kind reader) source).mapError errorOf

/-- The data block of a tree and the offset where it ends. -/
def matter (tree : Node) : Option (String × Nat) :=
  tree.children.findSome? fun node =>
    match node with
    | .mk (.matter _ value) span _ => some (value, (span.map (·.stop.offset)).getD 0)
    | _ => none

/-- Characters in two parts, of which the first takes so many bytes. -/
def splitBytes : Nat → List Char → List Char × List Char
  | _, [] => ([], [])
  | size, c :: rest =>
    if size < c.utf8Size then ([], c :: rest)
    else
      let (head, tail) := splitBytes (size - c.utf8Size) rest
      (c :: head, tail)

/-- The source of a document with the generated code in it. -/
structure InjectedSource where
  code : String
  /-- The bytes before what follows the data block. -/
  bodyStart : Nat
  /-- The data block, without its fences. -/
  matter : Option String
  injection : Injection
  notices : List Notice
  deriving Repr

/-- What follows the data block. -/
def InjectedSource.body (injected : InjectedSource) : String :=
  String.ofList (splitBytes injected.bodyStart injected.code.toList).2

/-- The code that an injection has put in front of a tree. -/
def generatedCode (injected : Injected) : String :=
  "\n\n".intercalate
    ((injected.tree.children.take injected.injection.count).filterMap Node.code?)

/-- Puts generated code in front of the text that follows a data block of some bytes: the whole
text, and the bytes before the code or what follows it. -/
def splice (matterSize : Nat) (code source : String) : String × Nat :=
  let (head, tail) := splitBytes matterSize source.toList
  let separator := if head.isEmpty then "" else "\n"
  let front := String.ofList head
  if code.isEmpty then (source, matterSize)
  else
    (front ++ separator ++ code ++ "\n\n" ++ String.ofList tail,
      front.utf8ByteSize + separator.utf8ByteSize)

/-- Injects into the source of a document. Documents without module code come back as they
are. -/
def inject (injector : Injector) (kind : DocumentKind) (source : String) :
    Except Error InjectedSource := do
  let tree ← read kind source
  let (value, size) :=
    match matter tree with
    | some (value, size) => (some value, size)
    | none => (none, 0)
  if kind.hasModuleCode then
    let injected := injector.inject tree
    let (code, bodyStart) := splice size (generatedCode injected) source
    return { code, bodyStart, matter := value, injection := injected.injection
             notices := injected.notices }
  else return { code := source, bodyStart := size, matter := value, injection := {}, notices := [] }

end PagePrelude.Document
