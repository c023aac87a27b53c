import PagePrelude.Proofs.OpenCode
import PagePrelude.Proofs.Splice

/-!
# Module code of documents that can be read

Module code in a document goes on over blank lines for as long as more text may make it right, and
where it ends it can be read by itself. So whoever looks for exports in the tree of a document can
read all of its module code (`topCode_readable`).
-/

namespace PagePrelude

-- ---------------------------------------------------------------------------
-- Verdicts
-- ---------------------------------------------------------------------------

namespace Module

/-- Whether a text is module code. -/
def Readable (code : String) (reader : Reader := read) : Prop :=
  ∃ items, reader code = .ok items

/-- Whether a text may become module code with the text that follows: its first problem ends at or
after its last visible character. -/
def Unfinished (code : String) (reader : Reader := read) : Prop :=
  ∃ first more, reader code = .error (first :: more) ∧
    Text.byteSize (Text.trimEnd code.toList) ≤ first.stop

instance (code : String) (reader : Reader) : Decidable (Readable code reader) :=
  match h : reader code with
  | .ok items => isTrue ⟨items, h⟩
  | .error _ => isFalse fun ⟨_, hread⟩ => nomatch h.symm.trans hread

instance (code : String) (reader : Reader) : Decidable (Unfinished code reader) :=
  match h : reader code with
  | .error (first :: more) =>
    decidable_of_iff (Text.byteSize (Text.trimEnd code.toList) ≤ first.stop)
      ⟨fun hreaches => ⟨first, more, h, hreaches⟩, fun ⟨_, _, hread, hreaches⟩ => by
        cases h.symm.trans hread
        exact hreaches⟩
  | .error [] => isFalse fun ⟨_, _, hread, _⟩ => nomatch h.symm.trans hread
  | .ok _ => isFalse fun ⟨_, _, hread, _⟩ => nomatch h.symm.trans hread

/-- A text that is not module code has a problem. -/
theorem read_ne_error_nil (text : String) : read text ≠ .error [] := by
  intro h
  simp only [read, readPlaced] at h
  split at h
  · split at h
    · cases h
    · rename_i hproblems
      exact hproblems (Except.error.inj h)
  · rename_i diagnostic state _
    have hfatal : state.allProblems (some diagnostic) ≠ [] := by
      cases hl : state.lexical <;> simp [State.allProblems, hl]
    exact reported_ne_nil text state hfatal (Except.error.inj h)

/-- Code that can be read says nothing about a search for exports. -/
theorem exports_readable {reader : Reader} {code : String} (h : Readable code reader)
    (name : String) : (exports code name reader).2 = [] := by
  obtain ⟨items, hitems⟩ := h
  rw [exports, hitems]

end Module

theorem Node.kind_of_code? {node : Node} {code : String} (h : node.code? = some code) :
    node.kind = .moduleCode code := by
  obtain ⟨kind, span, children⟩ := node
  cases kind with
  | moduleCode value => exact congrArg NodeKind.moduleCode (Option.some.inj h)
  | _ => cases h

namespace Markdown

open PagePrelude.Module (Readable Unfinished)

section
variable {reader : Module.Reader}

/-- Code is accepted, unfinished or rejected. -/
theorem Verdict.ofModule_cases (hreasons : ∀ code, reader code ≠ .error []) (code : String) :
    (Readable code reader ∧ Verdict.ofModule code reader = .accepted) ∨
    (Unfinished code reader ∧ ∃ fault, Verdict.ofModule code reader = .unfinished fault) ∨
    ∃ fault offset, Verdict.ofModule code reader = .rejected fault offset := by
  unfold Verdict.ofModule
  cases hread : reader code with
  | ok items => exact .inl ⟨⟨items, hread⟩, rfl⟩
  | error problems =>
    cases problems with
    | nil => exact absurd hread (hreasons code)
    | cons first more =>
      dsimp only
      split
      · rename_i hreaches
        exact .inr (.inl ⟨⟨first, more, hread, hreaches⟩, _, rfl⟩)
      · exact .inr (.inr ⟨_, _, rfl⟩)

theorem readable_of_accepted (hreasons : ∀ code, reader code ≠ .error []) {code : String}
    (h : Verdict.ofModule code reader = .accepted) : Readable code reader := by
  rcases Verdict.ofModule_cases hreasons code with ⟨hread, -⟩ | ⟨-, _, hopen⟩ | ⟨_, _, hwrong⟩
  · exact hread
  · rw [hopen] at h
    cases h
  · rw [hwrong] at h
    cases h

theorem unfinished_judged {code : String} (h : Unfinished code reader) :
    ∃ fault, Verdict.ofModule code reader = .unfinished fault := by
  obtain ⟨first, more, hread, hreaches⟩ := h
  exact ⟨_, by simp [Verdict.ofModule, hread, hreaches]; rfl⟩

-- ---------------------------------------------------------------------------
-- The nodes of a document
-- ---------------------------------------------------------------------------

theorem parts_ne_moduleCode {dialect : Dialect} {lines : List Line} {whole : NodeKind × Span}
    (h : whole ∈ (partsOf dialect lines).1) (code : String) : whole.1 ≠ .moduleCode code := by
  unfold partsOf at h
  split at h
  · obtain rfl := List.mem_singleton.mp h
    exact NodeKind.noConfusion
  · cases h

/-- A move that keeps only the module code that can be read. -/
def keepReadable (reader : Module.Reader) : Move :=
  { keepsCode := fun code => decide (Readable code reader) }

/-- Every piece of module code that lines make a node of can be read. -/
theorem kind_readable {dialect : Dialect} (h : dialect.Placeless (keepReadable reader))
    {lines : List Line} {blocks : List Block} {stop : Point} {nodes : List Node}
    (hblocks : Outline.blocksOf dialect lines = .ok blocks)
    (hnodes : nodesOfBlocks dialect stop blocks = .ok nodes) {node : Node} (hnode : node ∈ nodes)
    {code : String} (hkind : node.kind = .moduleCode code) : Readable code reader := by
  have hsame := node_still ⟨rfl, rfl⟩ h hblocks hnodes hnode
  obtain ⟨kind, span, children⟩ := node
  obtain rfl : kind = .moduleCode code := hkind
  refine Classical.byContradiction fun hnot => ?_
  exact absurd (Node.mk.inj hsame).1 (by simp [NodeKind.moved, keepReadable, hnot])

-- ---------------------------------------------------------------------------
-- Module code that is open
-- ---------------------------------------------------------------------------

/-- The text of module code that is open, from its last line and the lines before that. -/
def codeText (last : Line) (before : List Line) : String :=
  Leaf.textOfLines (last :: before).reverse

/-- How module code that is open goes on in the lines after it: the code that it ends as, and the
lines that are left. Only a blank line can end it, and none does while it is unfinished. -/
inductive CodeRun (reader : Module.Reader) :
    Line → List Line → List Line → String → List Line → Prop where
  | solid {last line : Line} {before rest after : List Line} {code : String} :
    line.isBlank = false → CodeRun reader line (last :: before) rest code after →
    CodeRun reader last before (line :: rest) code after
  | blank {last line : Line} {before rest after : List Line} {code : String} :
    line.isBlank = true → Unfinished (codeText last before) reader →
    CodeRun reader line (last :: before) rest code after →
    CodeRun reader last before (line :: rest) code after
  | ended {last line : Line} {before rest : List Line} :
    line.isBlank = true → Readable (codeText last before) reader →
    CodeRun reader last before (line :: rest) (codeText last before) rest
  /-- The text ends, but for an ending of its last line. -/
  | last {last : Line} {before : List Line} :
    Readable (codeText last before) reader → CodeRun reader last before [] (codeText last before) []
  | whole {last : Line} {before : List Line} :
    Unfinished (codeText last before) reader →
    Readable (codeText last before ++ last.ending) reader →
    CodeRun reader last before [] (codeText last before ++ last.ending) []

theorem CodeRun.readable {last : Line} {before rest after : List Line} {code : String}
    (h : CodeRun reader last before rest code after) : Readable code reader := by
  induction h with
  | solid _ _ ih => exact ih
  | blank _ _ _ ih => exact ih
  | ended _ hread => exact hread
  | last hread => exact hread
  | whole _ hread => exact hread

namespace Outline

variable {outline : Outline} {blocks : List Block} {last line : Line} {before : List Line}

/-- A blank line does not end module code that is unfinished. -/
theorem code_over (hcode : InCode blocks last before outline) (hline : line.isBlank = true)
    (hopen : Unfinished (codeText last before) reader) :
    ∃ next, outline.read (.mdx reader) line = .ok next ∧
      InCode blocks line (last :: before) next := by
  obtain ⟨fault, hjudge⟩ := unfinished_judged hopen
  have hjudge : (Dialect.mdx reader).judgeModule (Leaf.textOfLines (last :: before).reverse) =
      .unfinished fault := hjudge
  have hleaf : outline.leaf.read (.mdx reader) line = .ok ([], .code line (last :: before)) := by
    refine Leaf.read_of_step ?_
    simp only [hcode.leaf, Leaf.step, hline, Leaf.judgeLines, Leaf.judgeCode, hjudge]
    rfl
  have hconcrete : outline.leaf.isConcrete = true := hcode.leaf ▸ rfl
  refine ⟨_, read_outside hcode.frames (.inl hconcrete) hleaf, rfl, ?_, rfl⟩
  rw [List.append_nil, hcode.blocks]

theorem code_refused (hcode : InCode blocks last before outline) (hline : line.isBlank = true)
    {fault : Fault} {offset : Nat}
    (hwrong : Verdict.ofModule (codeText last before) reader = .rejected fault offset) :
    ∃ problem, outline.read (.mdx reader) line = .error problem := by
  have hjudge : (Dialect.mdx reader).judgeModule (Leaf.textOfLines (last :: before).reverse) =
      .rejected fault offset := hwrong
  have hstep : outline.leaf.step (.mdx reader) line = .error
      ⟨fault, (Leaf.codeStart last before).within offset (codeText last before).toList⟩ := by
    simp only [hcode.leaf, Leaf.step, hline, Leaf.judgeLines, Leaf.judgeCode, hjudge]
    rfl
  have hconcrete : outline.leaf.isConcrete = true := hcode.leaf ▸ rfl
  have hread : outline.read (.mdx reader) line = _ := read_outside_eq hcode.frames (.inl hconcrete)
  rw [Leaf.read_of_step_error hstep] at hread
  exact ⟨_, hread⟩

theorem code_finish (hcode : InCode blocks last before outline) :
    outline.finish (.mdx reader) =
      (fun block => blocks ++ [block]) <$> Leaf.lastCode (.mdx reader) last before := by
  obtain ⟨frames, _, leaf, stop, after, blank⟩ := outline
  obtain ⟨rfl, rfl, rfl⟩ := hcode
  simp only [finish, List.reverse_nil, goOn, List.length_nil, close, Leaf.close, Leaf.finish]
  cases Leaf.lastCode (.mdx reader) last before with
  | error problem => simp
  | ok block => simp; rfl

/-- Module code that is open where the text ends. -/
theorem code_at_end (hreasons : ∀ code, reader code ≠ .error [])
    (hcode : InCode blocks last before outline) :
    (∃ problem, outline.finish (.mdx reader) = .error problem) ∨
    ∃ code span, CodeRun reader last before [] code [] ∧
      outline.finish (.mdx reader) = .ok (blocks ++ [.leaf (.moduleCode code) span]) := by
  have hjudge (code : String) :
      (Dialect.mdx reader).judgeModule code = Verdict.ofModule code reader := rfl
  rw [code_finish hcode]
  simp only [Leaf.lastCode, Leaf.judgeLines, Leaf.judgeCode, hjudge]
  rcases Verdict.ofModule_cases hreasons (codeText last before) with
    ⟨hread, hverdict⟩ | ⟨hopen, fault, hverdict⟩ | ⟨fault, offset, hverdict⟩
  all_goals
    rw [codeText] at hverdict
    rw [hverdict]
  · exact .inr ⟨_, _, .last hread, rfl⟩
  · rcases Verdict.ofModule_cases hreasons (codeText last before ++ last.ending) with
      ⟨hread, hwhole⟩ | ⟨-, fault, hwhole⟩ | ⟨fault, offset, hwhole⟩
    all_goals
      rw [codeText] at hwhole
      simp only [hwhole]
    · exact .inr ⟨_, _, .whole hopen hread, rfl⟩
    · exact .inl ⟨_, rfl⟩
    · exact .inl ⟨_, rfl⟩
  · exact .inl ⟨_, rfl⟩

/-- Module code that a blank line ends. The lines after it are read by themselves. -/
theorem code_ended (hcode : InCode blocks last before outline) (hline : line.isBlank = true)
    (haccepted : Verdict.ofModule (codeText last before) reader = .accepted) (rest : List Line) :
    (∃ problem, ((line :: rest).foldlM (read (.mdx reader)) outline >>= finish (.mdx reader)) =
      .error problem) ∨
    ∃ span more, blocksOf (.mdx reader) rest = .ok more ∧
      ((line :: rest).foldlM (read (.mdx reader)) outline >>= finish (.mdx reader)) =
        .ok (blocks ++ .leaf (.moduleCode (codeText last before)) span :: more) := by
  obtain ⟨next, hnext, hrest, hblocks⟩ := code_end hcode hline haccepted
  have hplaceless : (Dialect.mdx reader).Placeless {} :=
    Document.dialect_placeless .mdx fun _ _ => rfl
  have hbehind := blocks_moved_behind {} hplaceless (by simp [Block.NoOpenList]) hrest hblocks rest
  rw [lines_still ⟨rfl, rfl⟩] at hbehind
  rw [List.foldlM_cons, hnext, ok_bind, hbehind]
  cases hmore : blocksOf (.mdx reader) rest with
  | error problem => exact .inl ⟨_, rfl⟩
  | ok more =>
    refine .inr ⟨⟨Leaf.codeStart last before, last.stop⟩, more, rfl, ?_⟩
    rw [carry_ok, blocks_still ⟨rfl, rfl⟩ hplaceless hmore, List.append_assoc]
    rfl

/-- Module code that is open makes a block of its own that can be read, or the lines cannot be. What
the block leaves of the lines is read as if nothing had come before. -/
theorem code_ends (hreasons : ∀ code, reader code ≠ .error [])
    (hcode : InCode blocks last before outline) (rest : List Line) :
    (∃ problem, (rest.foldlM (read (.mdx reader)) outline >>= finish (.mdx reader)) =
      .error problem) ∨
    ∃ code after span more, CodeRun reader last before rest code after ∧
      blocksOf (.mdx reader) after = .ok more ∧
      (rest.foldlM (read (.mdx reader)) outline >>= finish (.mdx reader)) =
        .ok (blocks ++ .leaf (.moduleCode code) span :: more) := by
  induction rest generalizing outline last before with
  | nil =>
    rcases code_at_end hreasons hcode with hwrong | ⟨code, span, hrun, hfinish⟩
    · exact .inl hwrong
    · exact .inr ⟨code, [], span, [], hrun, rfl, hfinish⟩
  | cons line rest ih =>
    -- Only a blank line asks for a verdict on the code so far.
    by_cases hline : line.isBlank = true
    · rcases Verdict.ofModule_cases hreasons (codeText last before) with
        ⟨hread, hverdict⟩ | ⟨hopen, -⟩ | ⟨fault, offset, hverdict⟩
      · rcases code_ended hcode hline hverdict rest with hwrong | ⟨span, more, hmore, hall⟩
        · exact .inl hwrong
        · exact .inr ⟨_, rest, span, more, .ended hline hread, hmore, hall⟩
      · obtain ⟨next, hnext, hcode⟩ := code_over hcode hline hopen
        rw [List.foldlM_cons, hnext, ok_bind]
        rcases ih hcode with hwrong | ⟨code, after, span, more, hrun, hmore⟩
        · exact .inl hwrong
        · exact .inr ⟨code, after, span, more, .blank hline hopen hrun, hmore⟩
      · obtain ⟨problem, hwrong⟩ := code_refused hcode hline hverdict
        exact .inl ⟨problem, by rw [List.foldlM_cons, hwrong]; rfl⟩
    · have hsolid : line.isBlank = false := by simpa using hline
      obtain ⟨next, hnext, hcode⟩ := code_next hcode hsolid
      rw [List.foldlM_cons, hnext, ok_bind]
      rcases ih hcode with hwrong | ⟨code, after, span, more, hrun, hmore⟩
      · exact .inl hwrong
      · exact .inr ⟨code, after, span, more, .solid hsolid hrun, hmore⟩

end Outline

end

end Markdown

namespace Document

open Markdown
open PagePrelude.Module (Readable Unfinished)

section
variable {reader : Module.Reader}

/-- All module code at the top level of a document that can be read can be read by itself. -/
theorem topCode_readable (hreasons : ∀ code, reader code ≠ .error []) {kind : DocumentKind}
    {source : String} {tree : Node} (h : read kind source reader = .ok tree) {code : String}
    (hcode : code ∈ tree.topCode) : Readable code reader := by
  obtain ⟨blocks, nodes, hblocks, hnodes, rfl⟩ :=
    read_parts (dialect_placeless kind fun _ _ => rfl) (mapError_ok h)
  obtain ⟨node, hnode, hvalue⟩ := List.mem_filterMap.mp hcode
  have hkind : node.kind = .moduleCode code := Node.kind_of_code? hvalue
  rcases List.mem_append.mp hnode with hdata | hmade
  · -- The data block is the only node that no line after it makes.
    obtain ⟨whole, hwhole, rfl⟩ := List.mem_map.mp hdata
    exact absurd hkind (parts_ne_moduleCode hwhole code)
  · have hmove : (dialect kind reader).Placeless (keepReadable reader) :=
      dialect_placeless kind fun code haccepted =>
        decide_eq_true (readable_of_accepted hreasons haccepted)
    exact kind_readable hmove hblocks hnodes hmade hkind

theorem partsOf_subset {dialect : Dialect} {lines : List Line} {line : Line}
    (h : line ∈ (partsOf dialect lines).2) : line ∈ lines := by
  unfold partsOf at h
  split at h
  · rename_i found rest htake
    split at htake
    · obtain ⟨before, last, rfl, -⟩ := Matter.take?_parted htake
      exact List.mem_append_right _ (List.mem_cons_of_mem _ h)
    · cases htake
  · exact h

end

/-- Whatever reads module code and gives a reason for what it refuses: module code at the top level
of a document that can be read can be read by itself, so that no search for exports leaves it out.
While module code is open, it goes on over a blank line if it is unfinished, and it ends as code
that can be read, or the document cannot be read. -/
theorem moduleCode_ends_readable (reader : Module.Reader)
    (hreasons : ∀ code, reader code ≠ .error []) (source : String) :
    (∀ tree, read .mdx source reader = .ok tree → ∀ code ∈ tree.topCode,
      Readable code reader ∧ ∀ name, (Module.exports code name reader).2 = []) ∧
    ∀ passed rest outline last before,
      (partsOf (.mdx reader) (Line.ofText source)).2 = passed ++ rest →
      passed.foldlM (Outline.read (.mdx reader)) {} = .ok outline →
      outline.leaf = .code last before →
      (∀ line later, rest = line :: later → line.isBlank = true →
        Unfinished (codeText last before) reader →
        ∃ next, outline.read (.mdx reader) line = .ok next ∧
          next.leaf = .code line (last :: before)) ∧
      ((∃ error, read .mdx source reader = .error error) ∨
        ∃ code after span more, CodeRun reader last before rest code after ∧
          Readable code reader ∧
          Outline.blocksOf (.mdx reader) after = .ok more ∧
          Outline.blocksOf (.mdx reader) (passed ++ rest) =
            .ok (outline.blocks ++ .leaf (.moduleCode code) span :: more)) := by
  constructor
  · intro tree hread code hcode
    have hreadable := topCode_readable hreasons hread hcode
    exact ⟨hreadable, Module.exports_readable hreadable⟩
  intro passed rest outline last before hlines hpassed hleaf
  have hsource : ∀ line ∈ passed, line ∈ Line.ofText source :=
    fun line hline => partsOf_subset (hlines ▸ List.mem_append_left rest hline)
  have hcode : Outline.InCode outline.blocks last before outline :=
    ⟨Outline.frames_of_code hsource hpassed hleaf, rfl, hleaf⟩
  refine ⟨fun line later _ hline hopen => ?_, ?_⟩
  · obtain ⟨next, hnext, hstays⟩ := Outline.code_over hcode hline hopen
    exact ⟨next, hnext, hstays.leaf⟩
  cases hread : read .mdx source reader with
  | error error => exact .inl ⟨error, rfl⟩
  | ok tree =>
    refine .inr ?_
    have hall : Outline.blocksOf (.mdx reader) (passed ++ rest) =
        rest.foldlM (Outline.read (.mdx reader)) outline >>= Outline.finish (.mdx reader) := by
      rw [Outline.blocksOf, List.foldlM_append, hpassed, ok_bind]
    obtain ⟨blocks, _, hblocks, -⟩ :=
      read_parts (dialect_placeless .mdx fun _ _ => rfl) (mapError_ok hread)
    change Outline.blocksOf (.mdx reader) (partsOf (.mdx reader) (Line.ofText source)).2 = _
      at hblocks
    rw [hlines, hall] at hblocks
    rcases Outline.code_ends hreasons hcode rest with
      ⟨problem, hwrong⟩ | ⟨code, after, span, more, hrun, hmore, hmade⟩
    · rw [hwrong] at hblocks
      cases hblocks
    · exact ⟨code, after, span, more, hrun, hrun.readable, hmore, hall.trans hmade⟩

theorem read_list : ∃ tree, read .mdx "export let a = [\n\n1]\n" = .ok tree ∧
    tree.topCode = ["export let a = [\n\n1]"] := by
  have hcodes : (read .mdx "export let a = [\n\n1]\n").toOption.map Node.topCode =
      some ["export let a = [\n\n1]"] := by decide +kernel
  cases hread : read .mdx "export let a = [\n\n1]\n" with
  | error error =>
    rw [hread] at hcodes
    cases hcodes
  | ok tree =>
    rw [hread] at hcodes
    exact ⟨tree, rfl, Option.some.inj hcodes⟩

theorem lines_list : ∃ first blank last,
    Line.ofText "export let a = [\n\n1]\n" = [first, blank, last] ∧
    (partsOf .mdx [first, blank, last]).2 = [first] ++ [blank, last] ∧
    Leaf.startsCode first = true ∧ blank.isBlank = true ∧ Unfinished (codeText first []) :=
  ⟨_, _, _, rfl, rfl, by decide, by decide, by decide +kernel⟩

/-- A list goes on over a blank line in the only module code of a document. -/
theorem moduleCode_ends_readable_list :
    ∃ first blank last tree, ∃ outline next : Outline,
      Line.ofText "export let a = [\n\n1]\n" = [first, blank, last] ∧
      read .mdx "export let a = [\n\n1]\n" = .ok tree ∧
      tree.topCode = ["export let a = [\n\n1]"] ∧ (∀ code ∈ tree.topCode, Readable code) ∧
      outline.leaf = .code first [] ∧ blank.isBlank = true ∧ Unfinished (codeText first []) ∧
      outline.read .mdx blank = .ok next ∧ next.leaf = .code blank [first] ∧
      ∃ code after, CodeRun Module.read first [] [blank, last] code after ∧ Readable code := by
  obtain ⟨hreadable, hopened⟩ :=
    moduleCode_ends_readable Module.read Module.read_ne_error_nil "export let a = [\n\n1]\n"
  obtain ⟨tree, hread, htop⟩ := read_list
  obtain ⟨first, blank, last, hlines, hparts, hfirst, hblank, hopen⟩ := lines_list
  have hrest : Outline.AtRest {} := ⟨rfl, rfl⟩
  obtain ⟨outline, houtline, hcode⟩ := Outline.code_first hrest hfirst
  have hpassed : [first].foldlM (Outline.read .mdx) {} = .ok outline := by
    rw [List.foldlM_cons, houtline]
    rfl
  obtain ⟨hstays, hends⟩ := hopened [first] [blank, last] outline first []
    (by rw [hlines, hparts]) hpassed hcode.leaf
  obtain ⟨next, hnext, hleaf⟩ := hstays blank [last] rfl hblank hopen
  rcases hends with ⟨error, hwrong⟩ | ⟨code, after, _, _, hrun, hread', -⟩
  · rw [hread] at hwrong
    cases hwrong
  · exact ⟨first, blank, last, tree, outline, next, hlines, hread, htop,
      fun code hmem => (hreadable tree hread code hmem).1, hcode.leaf, hblank, hopen, hnext, hleaf,
      code, after, hrun, hread'⟩

end Document

end PagePrelude
