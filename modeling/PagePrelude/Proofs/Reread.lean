import PagePrelude.Proofs.GeneratedLines
import PagePrelude.Proofs.Splice

/-!
# Documents with code put in, read again

The text that an injection makes of a document can be read, and up to places its tree is what the
injection makes of the tree of the document (`reread`). Only a byte order mark with nothing
to hide behind is in the way: it ends up within the text.
-/

namespace PagePrelude

-- ---------------------------------------------------------------------------
-- Trees up to places
-- ---------------------------------------------------------------------------

def AttributeValue.unplaced : AttributeValue → AttributeValue
  | expression code _ => expression code default
  | other => other

def Attribute.unplaced : Attribute → Attribute
  | property name value => property name value.unplaced
  | spread code _ => spread code default

/-- A kind of node without the places in it. -/
def NodeKind.unplaced : NodeKind → NodeKind
  | element block name attributes => element block name (attributes.map Attribute.unplaced)
  | expression block code _ => expression block code default
  | other => other

mutual

/-- A node without its place and the places in it. -/
def Node.unplaced : Node → Node
  | .mk kind _ children => .mk kind.unplaced none (Node.allUnplaced children)

def Node.allUnplaced : List Node → List Node
  | [] => []
  | node :: nodes => node.unplaced :: Node.allUnplaced nodes

end

def Node.unplacedKind (node : Node) : NodeKind :=
  node.kind.unplaced

theorem Node.kind_unplaced (node : Node) : node.unplaced.kind = node.unplacedKind := by
  cases node
  rfl

theorem kinds_of_unplaced {nodes others : List Node}
    (h : nodes.map Node.unplaced = others.map Node.unplaced) :
    nodes.map Node.unplacedKind = others.map Node.unplacedKind := by
  have hkinds := congrArg (List.map Node.kind) h
  simpa [Function.comp_def, Node.kind_unplaced] using hkinds

/-- A move that changes nothing but places. -/
structure Move.Keeps (move : Move) : Prop where
  data : move.keepsData = true
  code : ∀ value, move.keepsCode value = true

section
variable {move : Move}

theorem AttributeValue.unplaced_moved (value : AttributeValue) :
    (value.moved move).unplaced = value.unplaced := by
  cases value <;> rfl

theorem Attribute.unplaced_moved (written : Attribute) :
    (written.moved move).unplaced = written.unplaced := by
  cases written with
  | property name value => exact congrArg (Attribute.property name) value.unplaced_moved
  | spread code start => rfl

theorem NodeKind.unplaced_moved (h : move.Keeps) (kind : NodeKind) :
    (kind.moved move).unplaced = kind.unplaced := by
  cases kind with
  | element block name attributes =>
    simp [NodeKind.moved, NodeKind.unplaced, Attribute.unplaced_moved]
  | moduleCode value => simp [NodeKind.moved, h.code]
  | matter language value => simp [NodeKind.moved, h.data]
  | _ => rfl

mutual

theorem Node.unplaced_moved (h : move.Keeps) (node : Node) :
    (node.moved move).unplaced = node.unplaced := by
  cases node with
  | mk kind span children =>
    rw [Node.moved, Node.unplaced, Node.unplaced, NodeKind.unplaced_moved h,
      Node.allUnplaced_moved h children]

theorem Node.allUnplaced_moved (h : move.Keeps) (nodes : List Node) :
    Node.allUnplaced (Node.allMoved move nodes) = Node.allUnplaced nodes := by
  cases nodes with
  | nil => rfl
  | cons node nodes =>
    rw [Node.allMoved, Node.allUnplaced, Node.allUnplaced, Node.unplaced_moved h node,
      Node.allUnplaced_moved h nodes]

end

end

namespace Markdown

-- ---------------------------------------------------------------------------
-- Texts of the same parts
-- ---------------------------------------------------------------------------

theorem nodesOfBlocks_stop {dialect : Dialect} {stop : Point} {blocks : List Block}
    {nodes : List Node} (h : nodesOfBlocks dialect stop blocks = .ok nodes) (other : Point) :
    nodesOfBlocks dialect other blocks = .ok nodes := by
  obtain ⟨pieces, hpieces, hnodes⟩ := bind_ok.mp h
  obtain ⟨growth, hgrowth, hfinish⟩ := bind_ok.mp hnodes
  refine bind_ok.mpr ⟨pieces, hpieces, bind_ok.mpr ⟨growth, hgrowth, ?_⟩⟩
  unfold Growth.finish at hfinish ⊢
  split at hfinish
  · cases hfinish
  · exact hfinish

/-- Lines after a data block that make blocks make a document with it. -/
theorem read_of_parts {dialect : Dialect} {text : String} {blocks : List Block} {stop : Point}
    {nodes : List Node}
    (hblocks : Outline.blocksOf dialect (partsOf dialect (Line.ofText text)).2 = .ok blocks)
    (hnodes : nodesOfBlocks dialect stop
      ((partsOf dialect (Line.ofText text)).1.map wholeBlock ++ blocks) = .ok nodes) :
    read dialect text = .ok (.mk .root (some (spanOf (Line.ofText text))) nodes) := by
  obtain ⟨pieces, hpieces, hgrown⟩ :=
    bind_ok.mp (nodesOfBlocks_stop hnodes (spanOf (Line.ofText text)).stop)
  rw [read, readBlocks_eq, hblocks]
  exact bind_ok.mpr ⟨_, rfl, bind_ok.mpr ⟨pieces, hpieces, bind_ok.mpr ⟨nodes, hgrown, rfl⟩⟩⟩

theorem partsOf_some {lines rest : List Line} {found : Matter}
    (h : Matter.take? lines = some (found, rest)) :
    partsOf .mdx lines = ([(.matter found.language found.value, found.span)], rest) := by
  have hmatter : Dialect.mdx.matter = true := rfl
  simp only [partsOf, hmatter, if_true, h]

theorem partsOf_none {lines : List Line} (h : Matter.take? lines = none) :
    partsOf .mdx lines = ([], lines) := by
  have hmatter : Dialect.mdx.matter = true := rfl
  simp only [partsOf, hmatter, if_true, h]

/-- A text with code put in: its data block, and after the code lines that stand elsewhere by
themselves, with nothing open before them. -/
structure Fronted (codes : List String) (data : List (NodeKind × Span)) (lines : List Line)
    (text : String) : Prop where
  data : (partsOf .mdx (Line.ofText text)).1 = data
  lines : ∃ (move : Move) (next : Outline) (front : List (NodeKind × Span)),
    move.Keeps ∧ next.AtRest ∧ next.blocks = front.map wholeBlock ∧
    front.map Prod.fst = codes.map NodeKind.moduleCode ∧
    (partsOf .mdx (Line.ofText text)).2.foldlM (Outline.read .mdx) {} =
      (lines.map (Line.moved move)).foldlM (Outline.read .mdx) next

theorem atRest_start : Outline.AtRest {} :=
  ⟨rfl, rfl⟩

theorem keeps_moveTo (point other : Point) : (moveTo point other).Keeps :=
  ⟨rfl, fun _ => rfl⟩

/-- Module code is no fence. -/
theorem take?_startsCode {first : Line} (h : Leaf.startsCode first = true) (lines : List Line) :
    Matter.take? (first :: lines) = none := by
  obtain ⟨cell, cells, hcells, hchar⟩ := Leaf.cells_of_startsCode h
  have hvisible {mark : Char} {marks : List Char}
      (hmarks : visibleChars first.cells = mark :: marks) : mark = cell.char := by
    obtain ⟨other, others, htrim, rfl, -⟩ := List.map_eq_cons_iff.mp hmarks
    have hprefix : trimEnd first.cells <+: first.cells := by
      simpa [trimEnd] using
        List.reverse_prefix.mpr (first.cells.reverse.dropWhile_suffix Cell.isBlank)
    rw [htrim, hcells] at hprefix
    exact congrArg Cell.char (List.cons_prefix_cons.mp hprefix).1
  have hfence : Matter.fence? first = none := by
    unfold Matter.fence?
    split
    · rename_i hmarks
      rcases hchar with hchar | hchar <;> simpa [hchar] using hvisible hmarks
    · rename_i hmarks
      rcases hchar with hchar | hchar <;> simpa [hchar] using hvisible hmarks
    · rfl
  simp [Matter.take?, hfence]

/-- Any characters are read behind code as lines of their own. -/
theorem fronted_start {codes : List String} (hne : codes ≠ [])
    (hcodes : ∀ code ∈ codes, Insertable code) (chars : List Char) :
    Fronted codes [] (Line.ofChars origin [] chars)
      (String.ofList (codesText codes ++ chars)) := by
  obtain ⟨after, next, front, hafter, hnext, hblocks, hkinds, hmore⟩ :=
    codes_run hcodes (.refl origin) atRest_start
  obtain ⟨code, others, rfl⟩ := List.exists_cons_of_ne_nil hne
  have hcode : Insertable code := hcodes code List.mem_cons_self
  obtain ⟨first, lines, blank, between, hfirst, -, -, -, -, hchars⟩ := hcode.lines (.refl origin)
  have hcons : codesText (code :: others) ++ chars =
      code.toList ++ '\n' :: '\n' :: (codesText others ++ chars) := by simp [codesText]
  have htext : Line.ofText (String.ofList (codesText (code :: others) ++ chars)) =
      Line.ofChars origin [] (codesText (code :: others) ++ chars) := by
    refine Line.ofText_ofList ?_
    rw [hcons]
    exact hcode.unmarked _
  have htake : Matter.take?
      (Line.ofText (String.ofList (codesText (code :: others) ++ chars))) = none := by
    rw [htext, hcons, hchars]
    exact take?_startsCode hfirst _
  refine ⟨by rw [partsOf_none htake], _, next, front, keeps_moveTo origin after, hnext, hblocks,
    hkinds, ?_⟩
  rw [partsOf_none htake, htext, hmore, hafter.lines_eq]

/-- Two partings of a text that take as many bytes are the same. -/
theorem parting_eq {head tail head' tail' : List Char} (h : head ++ tail = head' ++ tail')
    (hsize : (String.ofList head).utf8ByteSize = (String.ofList head').utf8ByteSize) :
    head = head' ∧ tail = tail' := by
  have hsplit := Document.splitBytes_append head tail
  rw [h, hsize, Document.splitBytes_append] at hsplit
  exact ⟨(Prod.mk.inj hsplit).1.symm, (Prod.mk.inj hsplit).2.symm⟩

/-- A document with a data block is read with code between that and the rest. -/
theorem fronted_matter {codes : List String} (hcodes : ∀ code ∈ codes, Insertable code)
    {source : String} {head tail : List Char} (hsource : source.toList = head ++ tail)
    {found : Matter} {rest : List Line}
    (hmatter : Matter.take? (Line.ofText source) = some (found, rest))
    (hsize : (String.ofList head).utf8ByteSize = found.span.stop.offset) :
    Fronted codes [(.matter found.language found.value, found.span)] rest
      (String.ofList (head ++ '\n' :: (codesText codes ++ tail))) := by
  obtain ⟨before, last, hlines, hcells, hstop, htake⟩ := Matter.take?_parted hmatter
  obtain ⟨head', tail', hsource', hparted⟩ := Line.ofText_parted hlines hcells
  obtain ⟨rfl, rfl⟩ : head = head' ∧ tail = tail' := by
    refine parting_eq (hsource.symm.trans hsource') ?_
    rw [hsize, hstop, hparted.offset]
  have hbelow : Below origin (pointAfter "\n" last.stop) :=
    ⟨rfl, Nat.le_add_left _ _, Nat.zero_le _⟩
  obtain ⟨after, next, front, hafter, hnext, hblocks, hkinds, hmore⟩ :=
    codes_run hcodes hbelow atRest_start
  have htext := hparted.instead (codesText codes ++ tail)
  refine ⟨by rw [htext, partsOf_some (htake _)], ?_⟩
  rw [htext, partsOf_some (htake _)]
  simp only [hmore]
  rcases hparted.after with ⟨rfl, rfl⟩ | ⟨more, rfl, hplace, rfl, hending⟩
  · exact ⟨_, next, front, keeps_moveTo origin origin, hnext, hblocks, hkinds, rfl⟩
  · -- The ending of the fence is an empty line behind the code.
    obtain ⟨opened, hread, hopened, hsame⟩ := Outline.blank_at_rest hnext
      ⟨[], after, last.ending, pointAfter last.ending after⟩ rfl
    have hlower : Below last.after (pointAfter last.ending after) := by
      have hline : last.stop.line + 1 ≤ after.line := hafter.lines
      have hbyte : last.stop.offset + 1 ≤ after.offset := hafter.bytes
      rw [hplace]
      exact ⟨rfl, by simp only [pointAfter]; omega, by simp only [pointAfter]; omega⟩
    refine ⟨_, opened, front, keeps_moveTo last.after (pointAfter last.ending after), hopened,
      hsame.trans hblocks, hkinds, ?_⟩
    rw [hending, List.foldlM_cons, hread, ok_bind, hlower.lines_eq]

theorem mdx_placeless {move : Move} (h : ∀ value, move.keepsCode value = true) :
    Dialect.mdx.Placeless move :=
  Document.dialect_placeless .mdx fun value _ => h value

/-- Where the lines by themselves make nodes, such a text makes them too, behind those of the data
block and of the code. -/
theorem read_fronted {codes : List String} {data : List (NodeKind × Span)} {lines : List Line}
    {text : String} (h : Fronted codes data lines text)
    (hdata : ∀ whole ∈ data, ∀ value, whole.1 ≠ .text value) {blocks : List Block} {stop : Point}
    {nodes : List Node} (hblocks : Outline.blocksOf .mdx lines = .ok blocks)
    (hnodes : nodesOfBlocks .mdx stop blocks = .ok nodes) :
    ∃ again, read .mdx text = .ok again ∧ again.children.map Node.unplaced =
      (data.map wholeNode ++ codes.map Node.ofCode ++ nodes).map Node.unplaced := by
  obtain ⟨rfl, move, next, front, hkeeps, hnext, hfront, hkinds, hfold⟩ := h
  have hlists : Block.NoOpenList (front.map wholeBlock) := by
    intro marker start gap loose span items
    rw [List.getLast?_map]
    cases front.getLast? <;> simp [wholeBlock]
  have htexts : ∀ whole ∈ (partsOf .mdx (Line.ofText text)).1 ++ front,
      ∀ value, whole.1 ≠ .text value := by
    intro whole hwhole value
    rcases List.mem_append.mp hwhole with hmem | hmem
    · exact hdata whole hmem value
    · have hkind : whole.1 ∈ front.map Prod.fst := List.mem_map_of_mem hmem
      rw [hkinds] at hkind
      obtain ⟨code, -, hcode⟩ := List.mem_map.mp hkind
      simp [← hcode]
  have hlines := Outline.blocks_moved_behind move (mdx_placeless hkeeps.code) hlists hnext hfront
    lines
  rw [← hfold, hblocks, carry_ok] at hlines
  have hgrown := nodesOfBlocks_behind move (mdx_placeless hkeeps.code) htexts stop blocks
  rw [hnodes, carry_ok, List.map_append, List.append_assoc] at hgrown
  refine ⟨_, read_of_parts hlines hgrown, ?_⟩
  have hcodes := congrArg (List.map fun kind => Node.mk kind.unplaced none []) hkinds
  rw [List.map_map, List.map_map] at hcodes
  have hmoved : Node.unplaced ∘ Node.moved move = Node.unplaced :=
    funext (Node.unplaced_moved hkeeps)
  simp only [Node.children, List.map_append, List.map_map, hmoved, List.append_assoc]
  exact congrArg (fun codes => _ ++ (codes ++ _)) hcodes

end Markdown

namespace Document

open Markdown

variable {config : Config} {injector : Injector}

theorem codesText_eq {codes : List String} (hne : codes ≠ []) :
    ("\n\n".intercalate codes ++ "\n\n").toList = codesText codes := by
  induction codes with
  | nil => exact absurd rfl hne
  | cons code codes ih =>
    cases codes with
    | nil => simp [codesText]
    | cons next codes =>
      have hmore := ih (List.cons_ne_nil next codes)
      rw [String.toList_append, String.toList_intercalate] at hmore ⊢
      rw [List.map_cons, List.map_cons, List.intercalate_cons_cons, List.append_assoc,
        ← List.map_cons, hmore]
      simp [codesText]

theorem insertion_toList (head : String) {codes : List GeneratedCode} (hne : codes ≠ []) :
    (insertion head codes).toList =
      (separator head).toList ++ codesText (codes.map GeneratedCode.text) := by
  have htexts : codes.map GeneratedCode.text ≠ [] := by simpa using hne
  rw [insertion, if_neg hne, String.append_assoc, String.toList_append, codesText_eq htexts]

/-- Code in front of a text leaves the lines of that text as they are, a mark at its start
included. -/
theorem fronted_text {codes : List GeneratedCode} (hne : codes ≠ [])
    (hcodes : ∀ code ∈ codes, Insertable code.text) (source : String) :
    Fronted (codes.map GeneratedCode.text) [] (Line.ofChars origin [] source.toList)
      ("" ++ insertion "" codes ++ source) := by
  have hlist : ("" ++ insertion "" codes ++ source).toList =
      codesText (codes.map GeneratedCode.text) ++ source.toList := by
    simp [insertion_toList "" hne, separator]
  rw [← String.ofList_toList (s := "" ++ insertion "" codes ++ source), hlist]
  exact fronted_start (by simpa using hne) (by simpa using hcodes) _

/-- The text of an injection that puts code in is that of the document with code put in. -/
theorem fronted_insertion {source head tail : String} {codes : List GeneratedCode}
    (hne : codes ≠ []) (hcodes : ∀ code ∈ codes, Insertable code.text)
    (hsource : source = head ++ tail) (hsize : head.utf8ByteSize = matterSize source)
    (hmark : source.toList.head? ≠ some '\uFEFF' ∨ head ≠ "") :
    Fronted (codes.map GeneratedCode.text) (partsOf .mdx (Line.ofText source)).1
      (partsOf .mdx (Line.ofText source)).2 (head ++ insertion head codes ++ tail) := by
  unfold matterSize at hsize
  cases hmatter : Matter.take? (Line.ofText source) with
  | none =>
    rw [hmatter] at hsize
    obtain rfl : head = "" := String.utf8ByteSize_eq_zero_iff.mp hsize
    obtain rfl : source = tail := by simpa using hsource
    rw [partsOf_none hmatter, Line.ofText_unmarked (hmark.resolve_right (by simp))]
    exact fronted_text hne hcodes source
  | some found =>
    obtain ⟨found, rest⟩ := found
    obtain ⟨-, -, -, -, hpos⟩ := matter_stop hmatter
    rw [hmatter] at hsize
    have hsize : head.utf8ByteSize = found.span.stop.offset := hsize
    have hseparator : separator head = "\n" := if_pos (hsize ▸ hpos)
    have hlist : (head ++ insertion head codes ++ tail).toList = head.toList ++
        '\n' :: (codesText (codes.map GeneratedCode.text) ++ tail.toList) := by
      simp [insertion_toList head hne, hseparator]
    rw [← String.ofList_toList (s := head ++ insertion head codes ++ tail), hlist,
      partsOf_some hmatter]
    exact fronted_matter (by simpa using hcodes) (by rw [hsource, String.toList_append]) hmatter
      (by rw [String.ofList_toList, hsize])

theorem data_cases (source : String) :
    let data := (partsOf .mdx (Line.ofText source)).1.map wholeNode
    (data = [] ∧ matterValue source = none) ∨
      ∃ language value span, data = [.mk (.matter language value) (some span) []] ∧
        matterValue source = some value := by
  unfold matterValue
  cases hmatter : Matter.take? (Line.ofText source) with
  | none => exact .inl ⟨by rw [partsOf_none hmatter]; rfl, rfl⟩
  | some found => exact .inr ⟨_, _, _, by rw [partsOf_some hmatter]; rfl, rfl⟩

theorem matter_none_of_ends {tree : Node} {value : Option String} {size : Nat}
    (h : MatterEnds tree value size) (hsize : size = 0) : value = none := by
  cases h with
  | absent => rfl
  | present _ _ _ _ _ hpos => exact absurd hsize (Nat.ne_of_gt hpos)

/-- How a document with code put in is read again: its tree is that of the document with the nodes
of the code behind the data block, up to places. -/
structure Reread (injector : Injector) (tree again : Node) (injected : InjectedSource)
    (data : List Node) (codes : List GeneratedCode) (rest : List Node) : Prop where
  parts : tree.children = data ++ rest
  matter : (data = [] ∧ injected.matter = none) ∨ ∃ language value span,
    data = [.mk (.matter language value) (some span) []] ∧ injected.matter = some value
  count : injected.injection.count = codes.length
  front : (injector.inject tree).tree.children = codes.map GeneratedCode.node ++ tree.children
  same : again.children.map Node.unplaced =
    (data ++ codes.map GeneratedCode.node ++ rest).map Node.unplaced

/-- Where validated options, or any whose code has no blank line, put code into a document, the new
text can be read, and as the document with the code in front of what follows the data block.
A byte order mark with no data block behind it is in the way. -/
theorem reread (hi : Injector.ofConfig config = .ok injector)
    (hsolid : config.Accepted ∨
      ∀ code ∈ injector.importCode.toList ++ injector.exportCode.toList,
        ∀ line ∈ Line.ofText code.text, line.isBlank = false)
    {source : String} {injected : InjectedSource}
    (h : inject injector .mdx source = .ok injected)
    (hmark : source.toList.head? = some '\uFEFF' → injected.matter = none →
      injected.injection.count = 0) :
    ∃ tree again data codes rest,
      read .mdx source = .ok tree ∧ read .mdx injected.code = .ok again ∧
      Reread injector tree again injected data codes rest := by
  obtain ⟨tree, hread, -⟩ := bind_ok.mp h
  obtain ⟨head, tail, rfl, hsize, hends⟩ := read_parted hread
  obtain ⟨span, children, rfl⟩ := read_root hread
  obtain ⟨blocks, nodes, hblocks, hnodes, hroot⟩ :=
    read_parts (mdx_placeless fun _ => rfl) (mapError_ok hread)
  have hparts := congrArg Node.children hroot
  obtain ⟨codes, hcodes, htree, hcount, hinjected⟩ := inject_front hi rfl hread hends
  obtain rfl := Except.ok.inj (hinjected.symm.trans h)
  have hfront := congrArg Node.children htree
  by_cases hne : codes = []
  · subst hne
    have htext : head ++ insertion head [] ++ tail = head ++ tail := by simp [insertion]
    refine ⟨_, _, _, [], nodes, hread, htext ▸ hread, hparts, data_cases _, hcount, hfront, ?_⟩
    rw [hparts, List.map_nil, List.append_nil]
    rfl
  · have hinsertable := insertable_all hi hsolid hcodes
    have hunmarked : (head ++ tail).toList.head? ≠ some '\uFEFF' ∨ head ≠ "" := by
      refine Classical.or_iff_not_imp_right.mpr fun hhead hfirst => hne ?_
      have hempty : head = "" := Classical.not_not.mp hhead
      have hnone := matter_none_of_ends hends (by simp [hempty])
      exact List.length_eq_zero_iff.mp (hcount.symm.trans (hmark hfirst hnone))
    obtain ⟨again, hagain, hsame⟩ := read_fronted
      (fronted_insertion hne hinsertable rfl hsize hunmarked)
      (parts_ne_text .mdx (Line.ofText (head ++ tail))) hblocks hnodes
    have hread' : read .mdx (head ++ insertion head codes ++ tail) = .ok again :=
      congrArg (Except.mapError errorOf) hagain
    refine ⟨_, again, _, codes, nodes, hread, hread', hparts, data_cases _, hcount, hfront, ?_⟩
    rw [hsame, List.map_map]
    rfl

/-- The import is read again between a data block that was the whole document and nothing. -/
theorem reread_matter :
    let config : Config := { imports := [.default "./A.js"], root := "/site" }
    config.Accepted ∧ ∃ injector injected tree again data codes rest,
      Injector.ofConfig config = .ok injector ∧
      inject injector .mdx "---\n---\n" = .ok injected ∧ codes.length = 1 ∧
      ("---\n---\n".toList.head? = some '\uFEFF' → injected.matter = none →
        injected.injection.count = 0) ∧
      read .mdx "---\n---\n" = .ok tree ∧ read .mdx injected.code = .ok again ∧
      Reread injector tree again injected data codes rest := by
  intro config
  obtain ⟨_, hread, -⟩ := read_matter_alone
  obtain ⟨haccepted, injector, injected, hi, hinjected, hcount, -⟩ := inject_import hread
  have hmark : "---\n---\n".toList.head? ≠ some '\uFEFF' := by decide
  obtain ⟨tree, again, data, codes, rest, htree, hagain, hreread⟩ :=
    reread hi (.inl haccepted) hinjected fun h => absurd h hmark
  exact ⟨haccepted, injector, injected, tree, again, data, codes, rest, hi, hinjected,
    hreread.count.symm.trans hcount, fun h => absurd h hmark, htree, hagain, hreread⟩

/-- A heading behind a byte order mark is a paragraph once an import stands in front of the mark. -/
theorem reread_mark : ∃ options config injector injected tree again,
    Config.ofOptions options "/site" = .ok config ∧ Injector.ofConfig config = .ok injector ∧
      inject injector .mdx "\uFEFF# Hi\n" = .ok injected ∧
      read .mdx "\uFEFF# Hi\n" = .ok tree ∧ tree.children.map Node.kind = [.heading 1] ∧
      read .mdx injected.code = .ok again ∧
      .paragraph ∈ again.children.map Node.unplacedKind ∧
      ∀ data codes rest, ¬ Reread injector tree again injected data codes rest := by
  let options : Options := { imports := [.string "./A.js"] }
  -- By itself the document is a heading: the mark is no part of its text.
  obtain ⟨tree, hread, htree⟩ : ∃ tree, read .mdx ("" ++ "\uFEFF# Hi\n") = .ok tree ∧
      tree.children.map Node.kind = [.heading 1] := read_of_kinds (by decide +kernel)
  obtain ⟨haccepted, injector, injected, hi, hinjected, hone, -⟩ := inject_import hread
  obtain ⟨span, children, rfl⟩ := read_root hread
  have hchildren : ∀ node ∈ children, node.kind = .heading 1 := by
    intro node hnode
    exact List.mem_singleton.mp (htree ▸ List.mem_map_of_mem hnode)
  obtain ⟨codes, hcodes, -, hcount, hfront⟩ := inject_front hi rfl hread
    (.absent fun node hnode _ _ => by simp [hchildren node hnode])
  obtain rfl := Except.ok.inj (hinjected.symm.trans hfront)
  have hne : codes ≠ [] := List.ne_nil_of_length_eq_add_one (hcount.symm.trans hone)
  have hinsertable := insertable_all hi (.inl haccepted) hcodes
  -- Behind the import the mark is text like any other.
  have hmarked : (do
      let blocks ← Outline.blocksOf .mdx (Line.ofChars origin [] "\uFEFF# Hi\n".toList)
      let nodes ← nodesOfBlocks .mdx origin blocks
      pure (nodes.map Node.unplacedKind)) = .ok [.paragraph] := by decide +kernel
  obtain ⟨blocks, hblocks, hmarked⟩ := bind_ok.mp hmarked
  obtain ⟨nodes, hnodes, hkinds⟩ := bind_ok.mp hmarked
  obtain ⟨again, hagain, hsame⟩ :=
    read_fronted (fronted_text hne hinsertable _) (by simp) hblocks hnodes
  have hparagraph : NodeKind.paragraph ∈ again.children.map Node.unplacedKind := by
    rw [kinds_of_unplaced hsame, List.map_append, pure_ok.mp hkinds]
    simp
  refine ⟨options, _, injector, _, _, again, rfl, hi, hinjected, hread, htree,
    congrArg (Except.mapError errorOf) hagain, hparagraph, fun data made rest h => ?_⟩
  -- No code is a paragraph, nor is what the document was.
  rw [kinds_of_unplaced h.same] at hparagraph
  obtain ⟨node, hnode, hkind⟩ := List.mem_map.mp hparagraph
  have hheading : node ∉ data ++ rest := by
    rw [← h.parts]
    intro hmem
    rw [Node.unplacedKind, hchildren node hmem] at hkind
    cases hkind
  have hcode : node ∉ made.map GeneratedCode.node := by
    rintro hmem
    obtain ⟨code, -, rfl⟩ := List.mem_map.mp hmem
    exact absurd hkind (by simp [Node.unplacedKind, GeneratedCode.node, Node.ofCode, Node.kind,
      NodeKind.unplaced])
  rw [List.mem_append] at hheading
  rcases List.mem_append.mp hnode with hfront | hrest
  · exact (List.mem_append.mp hfront).elim (fun hdata => hheading (.inl hdata)) hcode
  · exact hheading (.inr hrest)

end Document

end PagePrelude
