import PagePrelude.Proofs.Config
import PagePrelude.Proofs.Lines
import PagePrelude.Proofs.Moved.Documents

/-!
# Module code between blank lines

Lines of module code that are followed by a blank line make one block, whatever comes before
and after them: the first line opens it, no line but a blank one can end it, and after the blank
line nothing is open (`code_run`).
-/

namespace PagePrelude.Markdown

-- ---------------------------------------------------------------------------
-- The first line
-- ---------------------------------------------------------------------------

section
variable {reader : Module.Reader}

@[simp] theorem mdx_markup : (Dialect.mdx reader).markup = true := rfl
@[simp] theorem mdx_extended : (Dialect.mdx reader).extended = false := rfl
@[simp] theorem mdx_tooDeep (indent : Nat) : (Dialect.mdx reader).tooDeep indent = false := rfl

theorem footnote?_mdx (line : Line) : Container.footnote? (.mdx reader) line = none := by
  simp [Container.footnote?]

namespace Leaf

theorem cells_of_startsCode {line : Line} (h : startsCode line = true) :
    ∃ cell cells, line.cells = cell :: cells ∧ (cell.char = 'i' ∨ cell.char = 'e') := by
  simp only [startsCode, Bool.and_eq_true, Bool.or_eq_true, decide_eq_true_eq] at h
  cases hcells : line.cells with
  | nil => simp [hcells] at h
  | cons cell cells =>
    have hchars := h.2
    simp only [hcells, List.take_succ_cons, List.map_cons] at hchars
    exact ⟨cell, cells, rfl, hchars.imp (fun hword => (List.cons.inj hword).1)
      fun hword => (List.cons.inj hword).1⟩

section
variable {line : Line} (h : startsCode line = true)
include h

theorem indent_of_startsCode : line.indent = 0 := by
  obtain ⟨cell, cells, hcells, hchar | hchar⟩ := cells_of_startsCode h <;>
    simp [Line.indent, hcells, Cell.isBlank, hchar]

theorem isBlank_of_startsCode : line.isBlank = false := by
  obtain ⟨cell, cells, hcells, hchar | hchar⟩ := cells_of_startsCode h <;>
    simp [Line.isBlank, hcells, Cell.isBlank, hchar]

/-- A line of module code starts no container. -/
theorem container_of_startsCode (interrupts : Bool) :
    Container.start? (.mdx reader) interrupts line = none := by
  obtain ⟨cell, cells, hcells, hchar⟩ := cells_of_startsCode h
  have hindent := indent_of_startsCode h
  have hquote : Container.dropQuoteMark? (.mdx reader) line = none := by
    rcases hchar with hchar | hchar <;>
      simp [Container.dropQuoteMark?, Line.trimStart, Line.drop, hindent, hcells, hchar]
  have hitem : Container.item? (.mdx reader) interrupts line = none := by
    rcases hchar with hchar | hchar <;>
      simp [Container.item?, Container.marker?, hindent, hcells, hchar]
  rw [Container.start?, hquote, hitem, footnote?_mdx]
  rfl

theorem start?_of_startsCode :
    start? (.mdx reader) [] line = .ok (some { leaf := .code line [] }) := by
  obtain ⟨cell, cells, hcells, hchar⟩ := cells_of_startsCode h
  have hindent := indent_of_startsCode h
  have hfence : fence? (cell :: cells) = none := by
    rcases hchar with hchar | hchar <;> simp [fence?, hchar]
  have hheading : heading? (cell :: cells) = none := by
    rcases hchar with hchar | hchar <;> simp [heading?, hchar]
  rcases hchar with hchar | hchar <;>
    simp [start?, hindent, hcells, hfence, hheading, hchar, h]

theorem step_of_startsCode : idle.step (.mdx reader) line = .ok { leaf := .code line [] } := by
  simp only [step, idle, proseStep, isBlank_of_startsCode h, start?_of_startsCode h]
  rfl

end

theorem fuel_line (leaf : Leaf) (line : Line) : leaf.fuel [line] =
    (leaf.held.length + 2) * (leaf.held.length + 2) + leaf.held.length + 2 :=
  rfl

/-- A line that is read in one step. -/
theorem read_of_step {dialect : Dialect} {leaf next : Leaf} {line : Line} {blocks : List Block}
    (h : leaf.step dialect line = .ok { blocks, leaf := next }) :
    leaf.read dialect line = .ok (blocks, next) := by
  simp only [read, fuel_line, feed, h]
  change Except.ok (blocks ++ [], next) = .ok (blocks, next)
  rw [List.append_nil]

/-- A line that cannot be read in its first step. -/
theorem read_of_step_error {dialect : Dialect} {leaf : Leaf} {line : Line} {problem : Problem}
    (h : leaf.step dialect line = .error problem) : leaf.read dialect line = .error problem := by
  simp only [read, fuel_line, feed, h]
  rfl

end Leaf

-- ---------------------------------------------------------------------------
-- Lines outside of containers
-- ---------------------------------------------------------------------------

namespace Outline

variable {dialect : Dialect} {outline : Outline} {line : Line}

theorem openAll_none (h : outline.leaf.isConcrete = true ∨
    ∀ interrupts, Container.start? dialect interrupts line = none) (fuel : Nat) :
    openAll dialect fuel outline 0 line = .ok (outline, 0, line) := by
  cases fuel with
  | zero => rfl
  | succ fuel =>
    rw [openAll]
    rcases h with hconcrete | hnone
    · simp [hconcrete]
    · simp [hnone]

/-- A line that neither ends nor starts a container goes to the open block. -/
theorem read_outside_eq (hframes : outline.frames = []) (hnone : outline.leaf.isConcrete = true ∨
    ∀ interrupts, Container.start? dialect interrupts line = none) :
    outline.read dialect line = (fun found => ⟨[], outline.blocks ++ found.1, found.2, line.stop,
      line.after, line.isBlank⟩) <$> outline.leaf.read dialect line := by
  obtain ⟨frames, before, open_, stop, after, blank⟩ := outline
  obtain rfl : frames = [] := hframes
  simp only [read, List.reverse_nil, goOn, openAll_none hnone]
  change (do
      let outline ← readRest dialect ⟨[], before, open_, stop, after, blank⟩ 0 line
      return { outline with stop := line.stop, after := line.after, blank := line.isBlank }) = _
  simp only [readRest, Nat.lt_irrefl, gt_iff_lt, decide_false, Bool.false_and, if_false,
    Bool.false_eq_true, pure_bind]
  cases open_.read dialect line <;> rfl

theorem read_outside (hframes : outline.frames = []) (hnone : outline.leaf.isConcrete = true ∨
    ∀ interrupts, Container.start? dialect interrupts line = none) {blocks : List Block}
    {leaf : Leaf} (hleaf : outline.leaf.read dialect line = .ok (blocks, leaf)) :
    outline.read dialect line = .ok ⟨[], outline.blocks ++ blocks, leaf, line.stop, line.after,
      line.isBlank⟩ := by
  rw [read_outside_eq hframes hnone, hleaf]
  rfl

theorem blank_at_rest (hrest : outline.AtRest) (line : Line) (hcells : line.cells = []) :
    ∃ next, outline.read (.mdx reader) line = .ok next ∧ next.AtRest ∧
      next.blocks = outline.blocks := by
  have hblank : line.isBlank = true := by simp [Line.isBlank, hcells]
  have hnone (interrupts : Bool) : Container.start? (.mdx reader) interrupts line = none := by
    have hquote : Container.dropQuoteMark? (.mdx reader) line = none := by
      simp [Container.dropQuoteMark?, Line.trimStart, Line.drop, hcells]
    have hitem : Container.item? (.mdx reader) interrupts line = none := by
      simp [Container.item?, Container.marker?, hcells]
    rw [Container.start?, hquote, hitem, footnote?_mdx]
    rfl
  have hleaf : outline.leaf.read (.mdx reader) line = .ok ([], .idle) := by
    refine Leaf.read_of_step ?_
    simp only [hrest.leaf, Leaf.step, Leaf.idle, Leaf.proseStep, hblank]
    rfl
  exact ⟨_, read_outside hrest.frames (.inr hnone) hleaf, ⟨rfl, rfl⟩, List.append_nil _⟩

-- ---------------------------------------------------------------------------
-- Lines of module code
-- ---------------------------------------------------------------------------

/-- An outline in which module code is open, after some blocks: its last line, and the lines
before that. -/
structure InCode (blocks : List Block) (last : Line) (before : List Line) (outline : Outline) :
    Prop where
  frames : outline.frames = []
  blocks : outline.blocks = blocks
  leaf : outline.leaf = .code last before

variable {blocks : List Block} {last : Line} {before : List Line}

theorem code_first (hrest : outline.AtRest) (hline : Leaf.startsCode line = true) :
    ∃ next, outline.read (.mdx reader) line = .ok next ∧ InCode outline.blocks line [] next := by
  have hleaf : outline.leaf.read (.mdx reader) line = .ok ([], .code line []) :=
    hrest.leaf ▸ Leaf.read_of_step (Leaf.step_of_startsCode hline)
  exact ⟨_, read_outside hrest.frames (.inr (Leaf.container_of_startsCode hline)) hleaf,
    rfl, List.append_nil _, rfl⟩

theorem code_next (hcode : InCode blocks last before outline) (hline : line.isBlank = false) :
    ∃ next, outline.read (.mdx reader) line = .ok next ∧
      InCode blocks line (last :: before) next := by
  have hleaf : outline.leaf.read (.mdx reader) line = .ok ([], .code line (last :: before)) := by
    refine Leaf.read_of_step ?_
    simp [hcode.leaf, Leaf.step, hline]
  have hconcrete : outline.leaf.isConcrete = true := hcode.leaf ▸ rfl
  refine ⟨_, read_outside hcode.frames (.inl hconcrete) hleaf, rfl, ?_, rfl⟩
  rw [List.append_nil, hcode.blocks]

theorem code_more (hcode : InCode blocks last before outline) {lines : List Line}
    (hlines : ∀ line ∈ lines, line.isBlank = false) :
    ∃ next last' before', lines.foldlM (read (.mdx reader)) outline = .ok next ∧
      InCode blocks last' before' next ∧ last' :: before' = lines.reverse ++ last :: before := by
  induction lines generalizing outline last before with
  | nil => exact ⟨outline, last, before, rfl, hcode, rfl⟩
  | cons line lines ih =>
    obtain ⟨hline, hlines⟩ := List.forall_mem_cons.mp hlines
    obtain ⟨next, hread, hnext⟩ := code_next hcode hline
    obtain ⟨final, last', before', hfold, hfinal, hall⟩ := ih hnext hlines
    refine ⟨final, last', before', ?_, hfinal, by simpa using hall⟩
    rw [List.foldlM_cons, hread]
    exact hfold

/-- A blank line ends module code that is complete. -/
theorem code_end (hcode : InCode blocks last before outline) (hline : line.isBlank = true)
    (haccepted : Verdict.ofModule (Leaf.textOfLines (last :: before).reverse) reader = .accepted) :
    ∃ next, outline.read (.mdx reader) line = .ok next ∧ next.AtRest ∧
      next.blocks = blocks ++ [.leaf (.moduleCode (Leaf.textOfLines (last :: before).reverse))
        ⟨Leaf.codeStart last before, last.stop⟩] := by
  have hjudge : (Dialect.mdx reader).judgeModule (Leaf.textOfLines (last :: before).reverse) =
      .accepted :=
    haccepted
  have hleaf : outline.leaf.read (.mdx reader) line = .ok ([.leaf (.moduleCode
      (Leaf.textOfLines (last :: before).reverse)) ⟨Leaf.codeStart last before, last.stop⟩],
      .idle) := by
    refine Leaf.read_of_step ?_
    simp only [hcode.leaf, Leaf.step, hline, Leaf.judgeLines, Leaf.judgeCode, hjudge]
    rfl
  have hconcrete : outline.leaf.isConcrete = true := hcode.leaf ▸ rfl
  exact ⟨_, read_outside hcode.frames (.inl hconcrete) hleaf, ⟨rfl, rfl⟩,
    congrArg (· ++ _) hcode.blocks⟩

/-- Lines of complete module code and a blank line make one block and leave nothing open. -/
theorem code_run (hrest : outline.AtRest) {first : Line} {lines : List Line}
    (hfirst : Leaf.startsCode first = true) (hlines : ∀ line ∈ lines, line.isBlank = false)
    (hline : line.isBlank = true)
    (haccepted : Verdict.ofModule (Leaf.textOfLines (first :: lines)) reader = .accepted) :
    ∃ next span, (first :: lines ++ [line]).foldlM (read (.mdx reader)) outline = .ok next ∧
      next.AtRest ∧ next.blocks =
        outline.blocks ++ [.leaf (.moduleCode (Leaf.textOfLines (first :: lines))) span] := by
  obtain ⟨opened, hopen, hcode⟩ := code_first hrest hfirst
  obtain ⟨read, last, before, hfold, hcode, hall⟩ := code_more hcode hlines
  have hlines : (last :: before).reverse = first :: lines := by simp [hall]
  obtain ⟨next, hend, hnext, hblocks⟩ := code_end hcode hline (hlines ▸ haccepted)
  refine ⟨next, _, ?_, hnext, hlines ▸ hblocks⟩
  rw [List.cons_append, List.foldlM_cons, hopen, ok_bind, List.foldlM_append, hfold, ok_bind,
    List.foldlM_cons, hend]
  rfl

end Outline

end

-- ---------------------------------------------------------------------------
-- Module code as text
-- ---------------------------------------------------------------------------

/-- Module code that can be put on lines of its own in front of others. -/
structure Insertable (code : String) : Prop where
  begins : ∃ keyword ∈ ["import ", "export "], keyword.toList <+: code.toList
  ends : code.toList.getLast? = some ';'
  /-- A blank line could end the code early. -/
  solid : ∀ line ∈ Line.ofText code, line.isBlank = false
  accepted : Verdict.ofModule code = .accepted

/-- The first line of a text that starts with a keyword. -/
theorem keyword_first {keyword : String} (hkeyword : keyword ∈ ["import ", "export "])
    (point : Point) (chars : List Char) :
    ∃ line rest, Line.ofChars point [] (keyword.toList ++ chars) = line :: rest ∧
      line.cells ≠ [] ∧ line.start = point ∧
      (line.cells.take 7).map Cell.char = keyword.toList := by
  have hplain : Line.Plain keyword.toList ∧ keyword.toList.length = 7 := by
    rcases List.mem_pair.mp hkeyword with rfl | rfl <;> exact ⟨by simp [Line.Plain], rfl⟩
  obtain ⟨after, word, hlines, hchars, hstart⟩ := Line.ofChars_plain hplain.1 point [] chars
  have hlength : word.length = 7 := by rw [← hplain.2, ← hchars, List.length_map]
  have hword : word.reverse ≠ [] := by simp [← List.length_eq_zero_iff, hlength]
  rw [List.append_nil] at hlines
  obtain ⟨line, rest, more, hfirst, hcells⟩ := Line.ofChars_first after hword chars
  rw [List.reverse_reverse] at hcells
  refine ⟨line, rest, hlines.trans hfirst, ?_, ?_, ?_⟩
  · simp [hcells, ← List.length_eq_zero_iff, hlength]
  · obtain ⟨cell, word, rfl⟩ := List.exists_cons_of_length_eq_add_one hlength
    simpa [Line.start, hcells, startOf] using hstart
  · rw [hcells, List.take_left' hlength, hchars]

/-- A place further down in the same column. -/
structure Below (point other : Point) : Prop where
  column : other.column = point.column
  lines : point.line ≤ other.line
  bytes : point.offset ≤ other.offset

theorem Below.refl (point : Point) : Below point point :=
  ⟨rfl, Nat.le_refl _, Nat.le_refl _⟩

theorem Below.trans {point other last : Point} (h : Below point other) (hlast : Below other last) :
    Below point last :=
  ⟨hlast.column.trans h.column, Nat.le_trans h.lines hlast.lines,
    Nat.le_trans h.bytes hlast.bytes⟩

/-- The move from a place to one below. -/
def moveTo (point other : Point) : Move :=
  { lines := other.line - point.line, bytes := other.offset - point.offset }

theorem Below.moved {point other : Point} (h : Below point other) :
    point.moved (moveTo point other) = other := by
  obtain ⟨line, column, offset⟩ := other
  obtain ⟨hcolumn, hlines, hbytes⟩ := h
  simp only at hcolumn hlines hbytes
  simp [Point.moved, moveTo, hcolumn, Nat.add_sub_cancel' hlines, Nat.add_sub_cancel' hbytes]

/-- The lines of a text that starts further down. -/
theorem Below.lines_eq {point other : Point} (h : Below point other) (chars : List Char) :
    Line.ofChars other [] chars =
      (Line.ofChars point [] chars).map (Line.moved (moveTo point other)) := by
  have hmoved := Line.ofChars_moved (moveTo point other) point [] chars
  rwa [h.moved, List.map_nil] at hmoved

/-- Where a document starts. -/
def origin : Point := ⟨1, 1, 0⟩

theorem keyword_unmarked {keyword : String} (hkeyword : keyword ∈ ["import ", "export "])
    (chars : List Char) : (keyword.toList ++ chars).head? ≠ some '\uFEFF' := by
  rcases List.mem_pair.mp hkeyword with rfl | rfl <;> simp

theorem Insertable.unmarked {code : String} (h : Insertable code) (more : List Char) :
    (code.toList ++ more).head? ≠ some '\uFEFF' := by
  obtain ⟨keyword, hkeyword, chars, hcode⟩ := h.begins
  rw [← hcode, List.append_assoc]
  exact keyword_unmarked hkeyword _

theorem Insertable.isBlank {code : String} (h : Insertable code) {point : Point}
    (hpoint : Below origin point) :
    ∀ line ∈ Line.ofChars point [] code.toList, line.isBlank = false := by
  have hsolid := h.solid
  have hmark := h.unmarked []
  rw [List.append_nil] at hmark
  rw [Line.ofText_unmarked hmark] at hsolid
  rw [hpoint.lines_eq]
  intro line hline
  obtain ⟨line, hmem, rfl⟩ := List.mem_map.mp hline
  rw [Line.isBlank_moved]
  exact hsolid line hmem

theorem startsCode_of_keyword {keyword : String} (hkeyword : keyword ∈ ["import ", "export "])
    {line : Line} (hcolumn : line.start.column = 1)
    (hchars : (line.cells.take 7).map Cell.char = keyword.toList) :
    Leaf.startsCode line = true := by
  simp only [Leaf.startsCode, hcolumn, hchars]
  rcases List.mem_pair.mp hkeyword with rfl | rfl <;> rfl

/-- Code ends in the middle of a line that is not blank. -/
theorem Insertable.at_end {code : String} (h : Insertable code) {point : Point}
    (hpoint : Below origin point) {before : List Line} {last : Line}
    (hlines : Line.ofChars point [] code.toList = before ++ [last]) :
    (∀ line ∈ before ++ [last.fed], line.isBlank = false) ∧
      Leaf.textOfLines (before ++ [last]) = code ∧
      Line.Parted point [] before last [] code.toList [] := by
  have hsolid : ∀ line ∈ before ++ [last], line.isBlank = false :=
    fun line hline => h.isBlank hpoint line (hlines ▸ hline)
  have hlast : last.isBlank = false := hsolid last (by simp)
  have hcells : last.cells ≠ [] := fun hnil => by simp [Line.isBlank, hnil] at hlast
  obtain ⟨htext, hparted⟩ := Line.parted_at_end hlines hcells fun c hc => by
    obtain rfl : ';' = c := by simpa [h.ends] using hc
    decide
  refine ⟨fun line hline => ?_, by rw [htext, String.ofList_toList], hparted⟩
  rcases List.mem_append.mp hline with hmem | hmem
  · exact hsolid line (List.mem_append_left _ hmem)
  · obtain rfl := List.mem_singleton.mp hmem
    exact hlast

/-- The first line of some whose last one ends in another way: it holds what it held. -/
theorem fed_first {first last : Line} {rest before : List Line}
    (h : first :: rest = before ++ [last]) :
    ∃ opening others, before ++ [last.fed] = opening :: others ∧ opening.cells = first.cells := by
  cases before with
  | nil =>
    obtain ⟨rfl, -⟩ := List.cons.inj h
    exact ⟨first.fed, [], rfl, rfl⟩
  | cons line before =>
    exact ⟨line, before ++ [last.fed], rfl, congrArg Line.cells (List.cons.inj h).1.symm⟩

/-- Code with a blank line after it as lines, wherever it starts. -/
theorem Insertable.lines {code : String} (h : Insertable code) {point : Point}
    (hpoint : Below origin point) :
    ∃ first lines blank after, Leaf.startsCode first = true ∧
      (∀ line ∈ lines, line.isBlank = false) ∧ blank.isBlank = true ∧
      Leaf.textOfLines (first :: lines) = code ∧ Below point after ∧
      ∀ more, Line.ofChars point [] (code.toList ++ '\n' :: '\n' :: more) =
        first :: lines ++ [blank] ++ Line.ofChars after [] more := by
  obtain ⟨keyword, hkeyword, chars, hcode⟩ := h.begins
  obtain ⟨first, rest, hlines, hne, hstart, hchars⟩ := keyword_first hkeyword point chars
  rw [hcode] at hlines
  obtain ⟨before, last, hconcat⟩ : ∃ before last, first :: rest = before ++ [last] :=
    ⟨_, _, (List.dropLast_append_getLast (List.cons_ne_nil first rest)).symm⟩
  obtain ⟨hsolid, htext, hparted⟩ := h.at_end hpoint (hlines.trans hconcat)
  obtain ⟨opening, others, hfed, hcells⟩ := fed_first hconcat
  rw [hfed] at hsolid
  have hopens : Leaf.startsCode opening = true := by
    have hsame : opening.start = first.start := by
      obtain ⟨cell, cells, hfirst⟩ := List.exists_cons_of_ne_nil hne
      simp [Line.start, hcells, hfirst]
    exact startsCode_of_keyword hkeyword (by rw [hsame, hstart, hpoint.column]; rfl)
      (hcells ▸ hchars)
  let below := pointAfter "\n" last.stop
  refine ⟨opening, others, ⟨[], below, "\n", pointAfter "\n" below⟩, pointAfter "\n" below,
    hopens, fun line hline => hsolid line (List.mem_cons_of_mem _ hline), rfl, ?_, ?_,
    fun more => ?_⟩
  · rw [← hfed, Line.textOfLines_fed, htext]
  · have hoffset := hparted.offset
    have hline := hparted.lines
    refine ⟨hpoint.column.symm, ?_, ?_⟩
    · simp only [below, pointAfter]
      omega
    · simp only [below, pointAfter]
      omega
  · rw [hparted.instead, ← hfed]
    simp [Line.ofChars, below]

/-- Pieces of code, with a blank line after each. -/
def codesText (codes : List String) : List Char :=
  codes.flatMap fun code => code.toList ++ ['\n', '\n']

/-- Pieces of code in front of other text make one block each, and the text is read behind them with
nothing open. -/
theorem codes_run {codes : List String} (hcodes : ∀ code ∈ codes, Insertable code) {point : Point}
    (hpoint : Below origin point) {outline : Outline} (hrest : outline.AtRest) :
    ∃ (after : Point) (next : Outline) (front : List (NodeKind × Span)),
      Below point after ∧ next.AtRest ∧
      next.blocks = outline.blocks ++ front.map wholeBlock ∧
      front.map Prod.fst = codes.map NodeKind.moduleCode ∧
      ∀ more, (Line.ofChars point [] (codesText codes ++ more)).foldlM (Outline.read .mdx) outline =
        (Line.ofChars after [] more).foldlM (Outline.read .mdx) next := by
  induction codes generalizing point outline with
  | nil => exact ⟨point, outline, [], .refl point, hrest, by simp, rfl, fun _ => rfl⟩
  | cons code codes ih =>
    obtain ⟨hcode, hcodes⟩ := List.forall_mem_cons.mp hcodes
    obtain ⟨first, lines, blank, between, hfirst, hlines, hblank, htext, hbetween, hchars⟩ :=
      hcode.lines hpoint
    obtain ⟨next, span, hfold, hnext, hblocks⟩ :=
      Outline.code_run hrest hfirst hlines hblank (htext ▸ hcode.accepted)
    rw [htext] at hblocks
    obtain ⟨after, last, front, hafter, hlast, hfront, hkinds, hmore⟩ :=
      ih hcodes (hpoint.trans hbetween) hnext
    refine ⟨after, last, (.moduleCode code, span) :: front, hbetween.trans hafter, hlast, ?_, ?_,
      fun more => ?_⟩
    · rw [hfront, hblocks]
      simp [wholeBlock]
    · rw [List.map_cons, hkinds, List.map_cons]
    · have hcons : codesText (code :: codes) ++ more =
          code.toList ++ '\n' :: '\n' :: (codesText codes ++ more) := by simp [codesText]
      rw [hcons, hchars, List.foldlM_append, hfold, ok_bind, hmore]

end PagePrelude.Markdown
