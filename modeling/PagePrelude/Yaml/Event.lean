import PagePrelude.Yaml.Token

/-!
# Events of YAML text

The tokens of a text are turned into the events of its documents: the start and end
of collections, scalars and aliases. The grammar is run as a machine whose state says
what the next tokens may be, with the states of the enclosing collections on a stack.
-/

namespace PagePrelude.Yaml

/-- What happens at a place of a document. -/
inductive EventKind where
  | streamStart
  | streamEnd
  | documentStart
  | documentEnd
  | alias (name : String)
  | scalar (anchor tag : Option String) (text : String) (plain : Bool)
  | sequenceStart (anchor tag : Option String)
  | sequenceEnd
  | mappingStart (anchor tag : Option String)
  | mappingEnd
  deriving DecidableEq, Repr, Inhabited

/-- An event and where it starts. -/
structure Event where
  kind : EventKind
  mark : Mark
  deriving Repr, Inhabited

/-- What the grammar expects next. -/
inductive Expect where
  | streamStart
  | documentStart (first : Bool)
  | documentContent
  | documentEnd
  | blockNode
  | sequenceEntry (first : Bool)
  | indentlessEntry
  | mappingKey (first : Bool)
  | mappingValue
  | flowEntry (first : Bool)
  | flowPairKey
  | flowPairValue
  | flowPairEnd
  | flowKey (first : Bool)
  | flowValue (empty : Bool)
  | nothing
  deriving DecidableEq, Repr

/-- The state of the grammar. -/
structure Grammar where
  tokens : List Token
  /-- The fault that ended the scan after the last token. -/
  fault : Option Fault
  expect : Expect := .streamStart
  /-- What is expected after the enclosing nodes. -/
  outer : List Expect := []
  /-- Where the enclosing collections started. -/
  marks : List Mark := []
  /-- The tag handles that are known. -/
  handles : List (String × String) := []

/-- A computation on the state of the grammar. -/
abbrev Parser (α : Type) := StateT Grammar (Except Fault) α

namespace Parser

/-- The next token. -/
def peek : Parser Token := do
  let g ← get
  match g.tokens, g.fault with
  | token :: _, _ => return token
  | [], some fault => throw fault
  | [], none => throw .endOfStream

/-- Takes the next token. -/
def skip : Parser Unit := modify fun g => { g with tokens := g.tokens.drop 1 }

/-- Sets what is expected next. -/
def goto (expect : Expect) : Parser Unit := modify ({ · with expect := expect })

/-- Expects `expect` after the node that comes next. -/
def push (expect : Expect) : Parser Unit :=
  modify fun g => { g with outer := expect :: g.outer }

/-- Returns to what is expected after the node that ended. -/
def pop : Parser Unit :=
  modify fun g => { g with expect := g.outer.head?.getD .nothing, outer := g.outer.drop 1 }

/-- Notes where a collection starts. -/
def pushMark (mark : Mark) : Parser Unit :=
  modify fun g => { g with marks := mark :: g.marks }

/-- Forgets where the innermost collection started. -/
def popMark : Parser Mark := do
  let g ← get
  set { g with marks := g.marks.drop 1 }
  return g.marks.head?.getD {}

/-- Fails inside the innermost collection. -/
def failIn {α : Type} (words problem : String) (mark : Mark) : Parser α := do
  throw (.grammar problem mark (some ⟨words, ← popMark⟩))

/-- A scalar that the text leaves out. -/
def emptyScalar (mark : Mark) : Event := ⟨.scalar none none "" true, mark⟩

/-- The tag handles that every document knows. -/
def defaultHandles : List (String × String) := [("!", "!"), ("!!", "tag:yaml.org,2002:")]

/-- Reads the directives before a document. -/
def directives : Nat → Bool → List (String × String) → Parser (List (String × String))
  | 0, _, handles => pure handles
  | fuel + 1, versioned, handles => do
    let token ← peek
    match token.kind with
    | .versionDirective major minor =>
      if versioned then
        throw (.grammar "found duplicate %YAML directive" token.start none)
      else if major != 1 || (minor != 1 && minor != 2) then
        throw (.grammar "found incompatible YAML document" token.start none)
      skip
      directives fuel true handles
    | .tagDirective handle expansion =>
      if handles.any (·.1 == handle) then
        throw (.grammar "found duplicate %TAG directive" token.start none)
      skip
      directives fuel versioned (handles ++ [(handle, expansion)])
    | _ => return handles

/-- Skips the end marks before a document. -/
def skipDocumentEnds : List Token → Parser Unit
  | [] => pure ()
  | token :: more =>
    if token.kind == .documentEnd then do skip; skipDocumentEnds more else pure ()

/-- The start of a document, or the end of the text. -/
def documentStart (first : Bool) : Parser Event := do
  if !first then skipDocumentEnds (← get).tokens
  let token ← peek
  let explicitStart :=
    match token.kind with
    | .versionDirective .. | .tagDirective .. | .documentStart => true
    | _ => false
  if token.kind == .streamEnd then
    goto .nothing
    skip
    return ⟨.streamEnd, token.start⟩
  else if first && !explicitStart then
    modify ({ · with handles := defaultHandles })
    push .documentEnd
    goto .blockNode
    return ⟨.documentStart, token.start⟩
  else
    let own ← directives ((← get).tokens.length + 1) false []
    let known := own ++ defaultHandles.filter fun h => !own.any (·.1 == h.1)
    modify ({ · with handles := known })
    let mark ← peek
    if mark.kind != .documentStart then
      throw (.grammar "did not find expected <document start>" mark.start none)
    push .documentEnd
    goto .documentContent
    skip
    return ⟨.documentStart, token.start⟩

/-- The full tag of a handle and a suffix. -/
def resolveTag (start tagMark : Mark) (handle suffix : String) : Parser String := do
  if handle.isEmpty then return suffix
  else
    match (← get).handles.find? (·.1 == handle) with
    | some (_, expansion) => return expansion ++ suffix
    | none =>
      throw (.grammar "found undefined tag handle" tagMark (some ⟨"while parsing a node", start⟩))

/-- The anchor and the tag before a node, in either order. -/
def properties : Parser (Mark × Option String × Option String) := do
  let first ← peek
  match first.kind with
  | .anchor name =>
    skip
    let second ← peek
    match second.kind with
    | .tag handle suffix =>
      skip
      let _ ← peek
      return (first.start, some name, some (← resolveTag first.start second.start handle suffix))
    | _ => return (first.start, some name, none)
  | .tag handle suffix =>
    skip
    let second ← peek
    match second.kind with
    | .anchor name =>
      skip
      let _ ← peek
      return (first.start, some name, some (← resolveTag first.start first.start handle suffix))
    | _ => return (first.start, none, some (← resolveTag first.start first.start handle suffix))
  | _ => return (first.start, none, none)

/-- A node. Block collections are possible where `block` says so, and a sequence without
indentation where `indentless` does. -/
def node (block indentless : Bool) : Parser Event := do
  let token ← peek
  match token.kind with
  | .alias name =>
    pop
    skip
    return ⟨.alias name, token.start⟩
  | _ =>
    let (start, anchor, tag) ← properties
    let token ← peek
    match token.kind with
    | .scalar text plain =>
      pop
      skip
      let bare := tag == some "!"
      return ⟨.scalar anchor (if bare then none else tag) text (plain || bare), start⟩
    | .flowSequenceStart =>
      goto (.flowEntry true)
      return ⟨.sequenceStart anchor tag, start⟩
    | .flowMappingStart =>
      goto (.flowKey true)
      return ⟨.mappingStart anchor tag, start⟩
    | kind =>
      if indentless && kind == .blockEntry then
        goto .indentlessEntry
        return ⟨.sequenceStart anchor tag, start⟩
      else if block && kind == .blockSequenceStart then
        goto (.sequenceEntry true)
        return ⟨.sequenceStart anchor tag, start⟩
      else if block && kind == .blockMappingStart then
        goto (.mappingKey true)
        return ⟨.mappingStart anchor tag, start⟩
      else if anchor.isSome || tag.isSome then
        pop
        return ⟨.scalar anchor tag "" true, start⟩
      else
        throw (.grammar "did not find expected node content" token.start
          (some ⟨if block then "while parsing a block node" else "while parsing a flow node",
            start⟩))

/-- The content of an explicit document. -/
def documentContent : Parser Event := do
  let token ← peek
  match token.kind with
  | .versionDirective .. | .tagDirective .. | .documentStart | .documentEnd | .streamEnd =>
    pop
    return emptyScalar token.start
  | _ => node true false

/-- The end of a document. -/
def documentEnd : Parser Event := do
  let token ← peek
  if token.kind == .documentEnd then skip
  goto (.documentStart false)
  return ⟨.documentEnd, token.start⟩

/-- Notes the start of a collection at its first entry. -/
def enter (first : Bool) : Parser Unit := do
  if first then
    pushMark (← peek).start
    skip

/-- The end of a collection, at its closing token. -/
def leave (kind : EventKind) : Parser Event := do
  let token ← peek
  pop
  let _ ← popMark
  skip
  return ⟨kind, token.start⟩

/-- A node after an indicator, which is left out before the tokens that `closes` accepts. -/
def entryNode (again : Expect) (closes : TokenKind → Bool) (indentless : Bool) : Parser Event := do
  let stop := (← peek).stop
  skip
  if closes (← peek).kind then
    goto again
    return emptyScalar stop
  else
    push again
    node true indentless

/-- An entry of a block sequence. -/
def sequenceEntry (first : Bool) : Parser Event := do
  enter first
  let token ← peek
  match token.kind with
  | .blockEntry =>
    entryNode (.sequenceEntry false) (fun k => k == .blockEntry || k == .blockEnd) false
  | .blockEnd => leave .sequenceEnd
  | _ =>
    failIn "while parsing a block collection" "did not find expected '-' indicator" token.start

/-- An entry of a block sequence that is not indented under its key. -/
def indentlessEntry : Parser Event := do
  let token ← peek
  match token.kind with
  | .blockEntry =>
    entryNode .indentlessEntry
      (fun k => k == .blockEntry || k == .key || k == .value || k == .blockEnd) false
  | _ =>
    pop
    return ⟨.sequenceEnd, token.start⟩

/-- Tokens before which a key or a value of a block mapping is left out. -/
def closesPair (kind : TokenKind) : Bool :=
  kind == .key || kind == .value || kind == .blockEnd

/-- A key of a block mapping. -/
def mappingKey (first : Bool) : Parser Event := do
  enter first
  let token ← peek
  match token.kind with
  | .key => entryNode .mappingValue closesPair true
  | .blockEnd => leave .mappingEnd
  | _ => failIn "while parsing a block mapping" "did not find expected key" token.start

/-- A value of a block mapping. -/
def mappingValue : Parser Event := do
  let token ← peek
  match token.kind with
  | .value => entryNode (.mappingKey false) closesPair true
  | _ =>
    goto (.mappingKey false)
    return emptyScalar token.start

/-- Reads the comma between the entries of a flow collection. -/
def comma (first : Bool) (close : TokenKind) (words problem : String) : Parser Unit := do
  let token ← peek
  if !first && token.kind != close then
    if token.kind == .flowEntry then
      skip
      let _ ← peek
    else failIn words problem token.start

/-- An entry of a flow sequence. -/
def flowEntry (first : Bool) : Parser Event := do
  enter first
  comma first .flowSequenceEnd "while parsing a flow sequence" "did not find expected ',' or ']'"
  let token ← peek
  match token.kind with
  | .flowSequenceEnd => leave .sequenceEnd
  | .key =>
    goto .flowPairKey
    skip
    return ⟨.mappingStart none none, token.start⟩
  | _ =>
    push (.flowEntry false)
    node false false

/-- The key of a pair that stands in a flow sequence. -/
def flowPairKey : Parser Event := do
  let token ← peek
  match token.kind with
  | .value | .flowEntry | .flowSequenceEnd =>
    skip
    goto .flowPairValue
    return emptyScalar token.stop
  | _ =>
    push .flowPairValue
    node false false

/-- A value after its colon, left out before a comma or the given closing token. -/
def flowAfterColon (again : Expect) (close : TokenKind) : Parser Event := do
  let token ← peek
  if token.kind == .value then
    skip
    let next ← peek
    if next.kind == .flowEntry || next.kind == close then
      goto again
      return emptyScalar next.start
    else
      push again
      node false false
  else
    goto again
    return emptyScalar token.start

/-- A key of a flow mapping. -/
def flowKey (first : Bool) : Parser Event := do
  enter first
  comma first .flowMappingEnd "while parsing a flow mapping" "did not find expected ',' or '\x7d'"
  let token ← peek
  match token.kind with
  | .flowMappingEnd => leave .mappingEnd
  | .key =>
    skip
    let next ← peek
    match next.kind with
    | .value | .flowEntry | .flowMappingEnd =>
      goto (.flowValue false)
      return emptyScalar next.start
    | _ =>
      push (.flowValue false)
      node false false
  | _ =>
    push (.flowValue true)
    node false false

/-- The next event. -/
def step : Parser Event := do
  match (← get).expect with
  | .streamStart =>
    let token ← peek
    goto (.documentStart true)
    skip
    return ⟨.streamStart, token.start⟩
  | .documentStart first => documentStart first
  | .documentContent => documentContent
  | .documentEnd => documentEnd
  | .blockNode => node true false
  | .sequenceEntry first => sequenceEntry first
  | .indentlessEntry => indentlessEntry
  | .mappingKey first => mappingKey first
  | .mappingValue => mappingValue
  | .flowEntry first => flowEntry first
  | .flowPairKey => flowPairKey
  | .flowPairValue => flowAfterColon .flowPairEnd .flowSequenceEnd
  | .flowPairEnd =>
    let token ← peek
    goto (.flowEntry false)
    return ⟨.mappingEnd, token.start⟩
  | .flowKey first => flowKey first
  | .flowValue empty =>
    if empty then
      let token ← peek
      goto (.flowKey false)
      return emptyScalar token.start
    else flowAfterColon (.flowKey false) .flowMappingEnd
  | .nothing => throw .endOfStream

/-- Events up to the end of the text or the first fault. -/
def events : Nat → Grammar → List Event → List Event × Option Fault
  | 0, _, out => (out.reverse, none)
  | fuel + 1, g, out =>
    match step.run g with
    | .error fault => (out.reverse, some fault)
    | .ok (event, g) =>
      if event.kind == .streamEnd then ((event :: out).reverse, none)
      else events fuel g (event :: out)

end Parser

/-- The events of a text, up to the fault that ends them if there is one. -/
def Event.ofText (text : String) : List Event × Option Fault :=
  let (tokens, fault) := Token.ofText text
  Parser.events (4 * tokens.length + 16) { tokens := tokens, fault := fault } []

end PagePrelude.Yaml
