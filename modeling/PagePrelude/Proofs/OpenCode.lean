import PagePrelude.Proofs.CodeLines

/-!
# Where module code can be open

Module code starts in the first column, and what a container leaves of a line does not. So no
container is open while module code is (`frames_of_code`).
-/

namespace PagePrelude.Markdown

-- ---------------------------------------------------------------------------
-- Columns
-- ---------------------------------------------------------------------------

theorem cellsOf_column (c : Char) (point : Point) :
    point.column < (cellsOf c point).2.column ∧
      (∀ cell ∈ (cellsOf c point).1, point.column ≤ cell.start.column) ∧
      ∀ cell ∈ (cellsOf c point).1.tail, point.column < cell.start.column := by
  unfold cellsOf
  split
  · refine ⟨by simp; omega, ?_, ?_⟩ <;> simp <;> intros <;> omega
  · simp [Char.utf8Size_pos]

namespace Line

/-- Only the first cell of a line can stand in the first column. -/
def Spaced (line : Line) : Prop :=
  ∀ cell ∈ line.cells.tail, 1 < cell.start.column

/-- Where cells stand that are read up to a point of their line. -/
structure SpacedUpTo (point : Point) (cells : List Cell) : Prop where
  tail : ∀ cell ∈ cells.tail, 1 < cell.start.column
  column : 0 < point.column
  further : cells ≠ [] → 1 < point.column

theorem SpacedUpTo.cellsOf {point : Point} {cells : List Cell} (h : SpacedUpTo point cells)
    (c : Char) : SpacedUpTo (cellsOf c point).2 (cells ++ (cellsOf c point).1) := by
  obtain ⟨hafter, hcells, htail⟩ := cellsOf_column c point
  have hcolumn := h.column
  refine ⟨fun cell hcell => ?_, by omega, fun _ => by omega⟩
  cases cells with
  | nil => exact Nat.lt_of_le_of_lt hcolumn (htail cell hcell)
  | cons first cells =>
    rcases List.mem_append.mp hcell with hbefore | hmore
    · exact h.tail cell hbefore
    · exact Nat.lt_of_lt_of_le (h.further (List.cons_ne_nil _ _)) (hcells cell hmore)

theorem ofChars_spaced {point : Point} {cells : List Cell} (h : SpacedUpTo point cells.reverse)
    (chars : List Char) : ∀ line ∈ ofChars point cells chars, line.Spaced := by
  have hfresh (ending : String) (point : Point) : SpacedUpTo (pointAfter ending point) [] :=
    ⟨by simp, Nat.one_pos, fun hnil => absurd rfl hnil⟩
  fun_induction ofChars point cells chars with
  | case1 => simp
  | case2 => exact List.forall_mem_singleton.mpr h.tail
  | case3 point cells chars after ih | case4 point cells chars hlf after ih
  | case5 point cells chars after ih =>
    exact List.forall_mem_cons.mpr ⟨h.tail, ih (hfresh _ _)⟩
  | case6 point cells c chars hcrlf hcr hlf more after heq ih =>
    have hmore := h.cellsOf c
    rw [heq] at hmore
    exact ih (by simpa using hmore)

/-- The lines of a document start in their first column and go on behind it. -/
theorem ofText_spaced (text : String) : ∀ line ∈ ofText text, line.Spaced := by
  unfold ofText
  split
  · exact ofChars_spaced ⟨by simp, by simp, by simp⟩ _
  · exact ofChars_spaced ⟨by simp, by simp, by simp⟩ _

/-- What a container leaves of a line: module code cannot start in it. -/
structure Inner (line : Line) : Prop where
  spaced : line.Spaced
  code : Leaf.startsCode line = false

theorem Spaced.drop {line : Line} (h : line.Spaced) (count : Nat) : (line.drop count).Spaced := by
  intro cell hcell
  have htail : cell ∈ (line.cells.tail).drop count := by
    simpa [Line.drop, Nat.add_comm] using hcell
  exact h cell (List.mem_of_mem_drop htail)

theorem Spaced.inner_drop {line : Line} (h : line.Spaced) {count : Nat} (hcount : 0 < count) :
    (line.drop count).Inner := by
  refine ⟨h.drop count, Bool.eq_false_iff.mpr fun hcode => ?_⟩
  obtain ⟨cell, cells, hcells, -⟩ := Leaf.cells_of_startsCode hcode
  have hfirst : cell ∈ line.cells.tail := by
    have hmem : cell ∈ line.cells.drop count := by
      rw [show line.cells.drop count = cell :: cells from hcells]
      exact List.mem_cons_self
    obtain ⟨count, rfl⟩ := Nat.exists_eq_add_one_of_ne_zero (Nat.ne_of_gt hcount)
    rw [← List.drop_tail] at hmem
    exact List.mem_of_mem_drop hmem
  have hcolumn : cell.start.column = 1 := by
    simp only [Leaf.startsCode, Bool.and_eq_true, decide_eq_true_eq] at hcode
    simpa [Line.start, hcells] using hcode.1
  exact absurd (h cell hfirst) (by omega)

theorem Spaced.inner_blank {line : Line} (h : line.Spaced) (hblank : line.isBlank = true)
    (count : Nat) : (line.drop count).Inner := by
  refine ⟨h.drop count, Bool.eq_false_iff.mpr fun hcode => ?_⟩
  have hsolid := Leaf.isBlank_of_startsCode hcode
  have hrest : (line.drop count).isBlank = true := by
    simp only [Line.isBlank, Line.drop, List.all_eq_true] at hblank ⊢
    exact fun cell hcell => hblank cell (List.mem_of_mem_drop hcell)
  rw [hrest] at hsolid
  cases hsolid

end Line

namespace Leaf

variable {dialect : Dialect} {line : Line}

/-- A block that module code is not open in, and cannot be once its lines are read again. -/
def Inner : Leaf → Prop
  | .code .. => False
  | .markup _ lines => ∀ line ∈ lines, startsCode line = false
  | _ => True

/-- What a step makes where no module code starts. -/
structure Step.Inner (step : Step) : Prop where
  leaf : step.leaf.Inner
  again : ∀ line ∈ step.again, startsCode line = false

theorem Step.inner_of_leaf {blocks : List Block} {leaf : Leaf} (h : leaf.Inner) :
    Step.Inner { blocks, leaf } :=
  ⟨h, by simp⟩

theorem tryMarkup_inner {held lines : List Line} {step : Step}
    (hlines : ∀ line ∈ lines, startsCode line = false)
    (h : tryMarkup dialect held lines = .ok step) : step.Inner := by
  unfold tryMarkup at h
  split at h
  · cases h
    exact Step.inner_of_leaf trivial
  · cases h
    cases lines with
    | nil => exact Step.inner_of_leaf trivial
    | cons first rest =>
      exact ⟨trivial, fun line hline => hlines line (List.mem_cons_of_mem _ hline)⟩
  · cases h
    exact Step.inner_of_leaf hlines
  · cases h

theorem start?_inner {held : List Line} {step : Step} (hline : startsCode line = false)
    (h : start? dialect held line = .ok (some step)) : step.Inner := by
  unfold start? at h
  dsimp only at h
  split at h
  · split at h
    · cases h
    · cases h
      exact Step.inner_of_leaf trivial
  split at h
  · cases h
    exact Step.inner_of_leaf trivial
  split at h
  · split at h
    · cases h
      exact Step.inner_of_leaf trivial
    · cases h
      exact Step.inner_of_leaf trivial
  split at h
  · cases htry : tryMarkup dialect held [line] with
    | error problem =>
      rw [htry] at h
      cases h
    | ok tried =>
      rw [htry] at h
      cases h
      exact tryMarkup_inner (by simpa using hline) htry
  split at h
  · cases h
    exact Step.inner_of_leaf trivial
  split at h
  · rename_i hcode
    simp [hline] at hcode
  · split at h
    · cases h
      exact Step.inner_of_leaf trivial
    · cases h

theorem underlined_inner (level : Nat) (held : List Line) (line : Line) :
    (underlined level held line).Inner := by
  unfold underlined
  split
  · exact Step.inner_of_leaf trivial
  · exact Step.inner_of_leaf trivial

theorem proseStep_inner {held : List Line} {step : Step} (hline : startsCode line = false)
    (h : proseStep dialect held line = .ok step) : step.Inner := by
  unfold proseStep at h
  dsimp only at h
  split at h
  · cases h
    exact Step.inner_of_leaf trivial
  split at h
  · cases h
    exact underlined_inner _ _ _
  obtain ⟨started, hstarted, h⟩ := bind_ok.mp h
  cases started with
  | some made =>
    cases h
    exact start?_inner hline hstarted
  | none =>
    cases held with
    | nil =>
      cases h
      exact Step.inner_of_leaf trivial
    | cons header before =>
      dsimp only at h
      split at h
      · cases h
        exact Step.inner_of_leaf trivial
      · cases h
        exact Step.inner_of_leaf trivial

theorem step_inner {leaf : Leaf} {made : Step} (hleaf : leaf.Inner)
    (hline : startsCode line = false) (h : leaf.step dialect line = .ok made) : made.Inner := by
  cases leaf with
  | prose held => exact proseStep_inner hline h
  | fenced fence indent start lines =>
    simp only [step] at h
    split at h <;> cases h <;> exact Step.inner_of_leaf trivial
  | indented start lines blanks =>
    simp only [step] at h
    split at h
    · cases h
      exact Step.inner_of_leaf trivial
    · split at h
      · cases h
        exact Step.inner_of_leaf trivial
      · cases h
        exact ⟨trivial, by simpa using hline⟩
  | html ends start lines =>
    simp only [step] at h
    split at h
    · cases h
      exact Step.inner_of_leaf trivial
    · split at h <;> cases h <;> exact Step.inner_of_leaf trivial
  | markup held lines =>
    refine tryMarkup_inner (fun other hother => ?_) h
    rcases List.mem_append.mp hother with hmem | hmem
    · exact hleaf other hmem
    · exact List.mem_singleton.mp hmem ▸ hline
  | code last before => exact hleaf.elim
  | table columns span rows =>
    simp only [step] at h
    split at h
    · cases h
      exact Step.inner_of_leaf trivial
    obtain ⟨started, hstarted, h⟩ := bind_ok.mp h
    cases started with
    | some step =>
      cases h
      exact ⟨(start?_inner hline hstarted).leaf, (start?_inner hline hstarted).again⟩
    | none =>
      cases h
      exact Step.inner_of_leaf trivial

theorem feed_inner {fuel : Nat} {leaf next : Leaf} {lines : List Line} {blocks : List Block}
    (hleaf : leaf.Inner) (hlines : ∀ line ∈ lines, startsCode line = false)
    (h : feed dialect fuel leaf lines = .ok (blocks, next)) : next.Inner := by
  induction fuel generalizing leaf lines blocks with
  | zero =>
    cases h
    exact hleaf
  | succ fuel ih =>
    cases lines with
    | nil =>
      cases h
      exact hleaf
    | cons line rest =>
      simp only [feed, bind_ok, pure_ok] at h
      obtain ⟨step, hstep, ⟨more, last⟩, hmore, hlast⟩ := h
      cases hlast
      obtain ⟨hline, hrest⟩ := List.forall_mem_cons.mp hlines
      have hinner := step_inner hleaf hline hstep
      exact ih hinner.leaf (List.forall_mem_append.mpr ⟨hinner.again, hrest⟩) hmore

theorem read_inner {leaf next : Leaf} {blocks : List Block} (hleaf : leaf.Inner)
    (hline : startsCode line = false) (h : leaf.read dialect line = .ok (blocks, next)) :
    next.Inner :=
  feed_inner hleaf (List.forall_mem_singleton.mpr hline) h

end Leaf

-- ---------------------------------------------------------------------------
-- Containers
-- ---------------------------------------------------------------------------

namespace Container

variable {dialect : Dialect} {line rest : Line} {container next : Container}

/-- A container that takes something from every line that holds something. -/
def Takes : Container → Prop
  | .item _ _ size _ => 0 < size
  | _ => True

theorem dropQuoteMark?_inner (hline : line.Spaced) (h : dropQuoteMark? dialect line = some rest) :
    rest.Inner := by
  unfold dropQuoteMark? at h
  dsimp only at h
  split at h
  · cases h
  split at h
  · split at h
    · cases h
      exact (hline.drop _).inner_drop (by split <;> omega)
    · cases h
  · cases h

theorem continue?_inner (htakes : container.Takes) (hline : line.Spaced)
    (h : container.continue? dialect line = some (next, rest)) : next.Takes ∧ rest.Inner := by
  cases container with
  | quote =>
    obtain ⟨dropped, hdropped, hnext⟩ := Option.map_eq_some_iff.mp h
    cases hnext
    exact ⟨trivial, dropQuoteMark?_inner hline hdropped⟩
  | item marker number size empty =>
    simp only [continue?] at h
    split at h
    · rename_i hblank
      split at h
      · cases h
      · cases h
        exact ⟨htakes, hline.inner_blank hblank _⟩
    · split at h
      · cases h
        exact ⟨htakes, hline.inner_drop htakes⟩
      · cases h
  | footnote label =>
    simp only [continue?] at h
    split at h
    · rename_i hgoes
      cases h
      refine ⟨trivial, ?_⟩
      rcases Bool.or_eq_true_iff.mp hgoes with hblank | hdeep
      · exact hline.inner_blank hblank _
      · have hindent : tabSize ≤ line.indent := of_decide_eq_true hdeep
        exact hline.inner_drop (by simp only [tabSize] at hindent ⊢; omega)
    · cases h

theorem marker?_width {interrupts : Bool} {cells : List Cell} {marker : Char}
    {number : Option Nat} {width : Nat}
    (h : marker? interrupts cells = some (marker, number, width)) : 0 < width := by
  cases cells with
  | nil => cases h
  | cons first cells =>
    simp only [marker?] at h
    split at h
    · cases h
      exact Nat.one_pos
    split at h
    · split at h
      · obtain ⟨_, -, hfound⟩ := Option.map_eq_some_iff.mp h
        cases hfound
        exact Nat.succ_pos _
      · cases h
    · cases h

theorem item?_inner {interrupts : Bool} (hline : line.Spaced)
    (h : item? dialect interrupts line = some (container, rest)) :
    container.Takes ∧ rest.Inner := by
  simp only [item?] at h
  split at h
  · cases h
  obtain ⟨⟨marker, number, width⟩, hmarker, h⟩ := Option.bind_eq_some_iff.mp h
  have hwidth := marker?_width hmarker
  dsimp only at h
  split at h
  · split at h
    · cases h
    · cases h
      exact ⟨Nat.succ_pos _, hline.inner_drop (by omega)⟩
  · split at h
    · cases h
    · cases h
      have hsize (gap : Nat) : 0 < line.indent + width + gap := by omega
      exact ⟨hsize _, hline.inner_drop (hsize _)⟩

theorem footnote?_inner (hline : line.Spaced)
    (h : footnote? dialect line = some (container, rest)) : container.Takes ∧ rest.Inner := by
  simp only [footnote?] at h
  split at h
  · cases h
  obtain ⟨⟨label, after⟩, -, h⟩ := Option.bind_eq_some_iff.mp h
  obtain ⟨colon, -, h⟩ := Option.bind_eq_some_iff.mp h
  cases label with
  | nil => cases h
  | cons mark name =>
    dsimp only at h
    split at h
    · cases h
      exact ⟨trivial, hline.inner_drop (by omega)⟩
    · cases h

theorem start?_inner {interrupts : Bool} (hline : line.Spaced)
    (h : start? dialect interrupts line = some (container, rest)) :
    container.Takes ∧ rest.Inner := by
  rcases Option.or_eq_some_iff.mp h with hquote | ⟨-, hother⟩
  · obtain ⟨dropped, hdropped, hstarted⟩ := Option.map_eq_some_iff.mp hquote
    cases hstarted
    exact ⟨trivial, dropQuoteMark?_inner hline hdropped⟩
  · rcases Option.or_eq_some_iff.mp hother with hitem | ⟨-, hnote⟩
    · exact item?_inner hline hitem
    · exact footnote?_inner hline hnote

end Container

-- ---------------------------------------------------------------------------
-- Outlines
-- ---------------------------------------------------------------------------

namespace Outline

variable {dialect : Dialect} {outline next : Outline} {line rest : Line} {left : Nat}

/-- The open containers, innermost first. -/
def containers (outline : Outline) : List Container :=
  outline.frames.map Frame.container

/-- An outline in which module code is open only outside of containers. -/
structure KeepsCodeOut (outline : Outline) : Prop where
  takes : ∀ container ∈ outline.containers, container.Takes
  inner : outline.containers ≠ [] → outline.leaf.Inner

theorem containers_addBlocks (outline : Outline) (blocks : List Block) :
    (outline.addBlocks blocks).containers = outline.containers := by
  obtain ⟨frames, _, _, _, _, _⟩ := outline
  cases frames <;> rfl

theorem leave_open (dialect : Dialect) (outline : Outline) (stop : Point) :
    (outline.leave dialect stop).containers = outline.containers.tail ∧
      (outline.leave dialect stop).leaf = outline.leaf := by
  obtain ⟨frames, _, _, _, _, _⟩ := outline
  match frames with
  | [] | [frame] | frame :: outer :: frames => exact ⟨rfl, rfl⟩

theorem leaveMany_open (dialect : Dialect) (stop : Point) (count : Nat) (outline : Outline) :
    (leaveMany dialect stop count outline).containers = outline.containers.drop count ∧
      (leaveMany dialect stop count outline).leaf = outline.leaf := by
  induction count generalizing outline with
  | zero => exact ⟨rfl, rfl⟩
  | succ count ih =>
    obtain ⟨hcontainers, hleaf⟩ := leave_open dialect outline stop
    obtain ⟨hmany, hsame⟩ := ih (outline.leave dialect stop)
    rw [hcontainers, List.drop_tail] at hmany
    exact ⟨hmany, hsame.trans hleaf⟩

/-- Closing leaves the outer containers open, and nothing in them. -/
theorem close_open {count : Nat} {whole : Bool}
    (h : outline.close dialect count whole = .ok next) :
    next.containers = outline.containers.drop count ∧ next.leaf = .idle := by
  simp only [close, bind_ok, pure_ok] at h
  obtain ⟨blocks, -, rfl⟩ := h
  obtain ⟨hcontainers, hleaf⟩ := leaveMany_open dialect _ count
    { outline.addBlocks blocks with leaf := .idle }
  exact ⟨hcontainers.trans (congrArg _ (containers_addBlocks outline blocks)), hleaf⟩

/-- What is left of a line where some containers are left to close: module code can start in it only
if all of them are. -/
structure Reached (outline : Outline) (left : Nat) (line : Line) : Prop where
  out : outline.KeepsCodeOut
  spaced : line.Spaced
  code : left < outline.containers.length → Leaf.startsCode line = false

theorem goOn_reached {frames more : List Frame} (hline : line.Spaced)
    (htakes : ∀ frame ∈ frames, frame.container.Takes)
    (h : goOn dialect line frames = (more, left, rest)) :
    (∀ frame ∈ more, frame.container.Takes) ∧ more.length = frames.length ∧ rest.Spaced ∧
      (left < frames.length ∨ Leaf.startsCode line = false → Leaf.startsCode rest = false) := by
  induction frames generalizing line more left with
  | nil =>
    cases h
    exact ⟨by simp, rfl, hline, by simp⟩
  | cons frame frames ih =>
    obtain ⟨hframe, hframes⟩ := List.forall_mem_cons.mp htakes
    simp only [goOn] at h
    split at h
    · rename_i container taken hgoes
      obtain ⟨hnext, htaken⟩ := Container.continue?_inner hframe hline hgoes
      generalize hgone : goOn dialect taken frames = found at h
      obtain ⟨others, left', rest'⟩ := found
      cases h
      -- The first container has made the line inner, however many others go on.
      obtain ⟨hothers, hlength, hspaced, hcode⟩ := ih htaken.spaced hframes hgone
      exact ⟨List.forall_mem_cons.mpr ⟨hnext, hothers⟩, by simp [hlength], hspaced,
        fun _ => hcode (.inr htaken.code)⟩
    · cases h
      exact ⟨htakes, rfl, hline, by simp⟩

theorem openAll_reached {fuel gone : Nat} (hreached : outline.Reached left line)
    (h : openAll dialect fuel outline left line = .ok (next, gone, rest)) :
    next.Reached gone rest := by
  induction fuel generalizing outline left line with
  | zero =>
    cases h
    exact hreached
  | succ fuel ih =>
    rw [openAll] at h
    split at h
    · cases h
      exact hreached
    split at h
    · cases h
      exact hreached
    · -- What was left is closed before the new container is opened, so nothing is left after it.
      rename_i container taken hstarts
      obtain ⟨closed, hclose, hmore⟩ := bind_ok.mp h
      obtain ⟨htakes, htaken⟩ := Container.start?_inner hreached.spaced hstarts
      obtain ⟨hcontainers, hleaf⟩ := close_open hclose
      refine ih ⟨⟨?_, fun _ => ?_⟩, htaken.spaced, fun _ => htaken.code⟩ hmore
      · refine List.forall_mem_cons.mpr ⟨htakes, fun other hother => ?_⟩
        have hmem : other ∈ outline.containers.drop left := hcontainers ▸ hother
        exact hreached.out.takes other (List.mem_of_mem_drop hmem)
      · change closed.leaf.Inner
        rw [hleaf]
        trivial

/-- Reading what is left of a line, in what it has not left. -/
theorem leaf_keepsCodeOut {blocks : List Block} {leaf : Leaf} (hout : outline.KeepsCodeOut)
    (hcode : outline.containers ≠ [] → Leaf.startsCode line = false)
    (h : outline.leaf.read dialect line = .ok (blocks, leaf)) :
    KeepsCodeOut { outline.addBlocks blocks with leaf } := by
  have hsame : Outline.containers { outline.addBlocks blocks with leaf } = outline.containers :=
    containers_addBlocks outline blocks
  refine ⟨fun container hmem => hout.takes container (hsame ▸ hmem), fun hopen => ?_⟩
  rw [hsame] at hopen
  exact Leaf.read_inner (hout.inner hopen) (hcode hopen) h

theorem addLine_inner {leaf : Leaf} (h : leaf.keepsLazily dialect line = true) :
    (leaf.addLine line).Inner := by
  cases leaf with
  | prose held => trivial
  | _ => cases h

theorem readRest_keepsCodeOut (hreached : outline.Reached left line)
    (h : outline.readRest dialect left line = .ok next) : next.KeepsCodeOut := by
  unfold readRest at h
  split at h
  · rename_i hlazy
    cases h
    exact ⟨hreached.out.takes, fun _ => addLine_inner (Bool.and_eq_true_iff.mp hlazy).2⟩
  split at h
  · rename_i hleft
    dsimp only at h
    split at h
    · cases h
    simp only [bind_ok, pure_ok] at h
    obtain ⟨closed, hclose, ⟨blocks, leaf⟩, hread, rfl⟩ := h
    obtain ⟨hcontainers, hidle⟩ := close_open hclose
    have hclosed : closed.KeepsCodeOut := by
      refine ⟨fun container hmem => ?_, fun _ => hidle ▸ trivial⟩
      exact hreached.out.takes container (List.mem_of_mem_drop (hcontainers ▸ hmem))
    refine leaf_keepsCodeOut hclosed (fun hopen => hreached.code ?_) hread
    rw [hcontainers, Ne, List.drop_eq_nil_iff] at hopen
    omega
  · rename_i hleft
    simp only [pure_bind, bind_ok, pure_ok] at h
    obtain ⟨⟨blocks, leaf⟩, hread, rfl⟩ := h
    refine leaf_keepsCodeOut hreached.out (fun hopen => hreached.code ?_) hread
    have hlength := List.length_pos_iff.mpr hopen
    omega

theorem read_keepsCodeOut (hout : outline.KeepsCodeOut) (hline : line.Spaced)
    (h : outline.read dialect line = .ok next) : next.KeepsCodeOut := by
  simp only [read] at h
  generalize hgone : goOn dialect line outline.frames.reverse = found at h
  obtain ⟨frames, left, rest⟩ := found
  simp only [bind_ok, pure_ok] at h
  obtain ⟨⟨opened, gone, taken⟩, hopen, last, hlast, rfl⟩ := h
  have htakes : ∀ frame ∈ outline.frames.reverse, frame.container.Takes :=
    fun frame hframe => hout.takes _ (List.mem_map_of_mem (List.mem_reverse.mp hframe))
  obtain ⟨hmore, hlength, hspaced, hcode⟩ := goOn_reached hline htakes hgone
  have hsame : (Outline.containers { outline with frames := frames.reverse }).length =
      outline.containers.length := by simpa [containers] using hlength
  have hreached : Reached { outline with frames := frames.reverse } left rest := by
    refine ⟨⟨fun container hmem => ?_, fun hopen => hout.inner ?_⟩, hspaced, fun hleft => ?_⟩
    · obtain ⟨frame, hframe, rfl⟩ := List.mem_map.mp hmem
      exact hmore frame (List.mem_reverse.mp hframe)
    · rwa [← List.length_pos_iff, ← hsame, List.length_pos_iff]
    · rw [hsame] at hleft
      exact hcode (.inl (by simpa [containers] using hleft))
  have hlast := readRest_keepsCodeOut (openAll_reached hreached hopen) hlast
  exact ⟨hlast.takes, hlast.inner⟩

theorem foldlM_keepsCodeOut {lines : List Line} (hout : outline.KeepsCodeOut)
    (hlines : ∀ line ∈ lines, line.Spaced) (h : lines.foldlM (read dialect) outline = .ok next) :
    next.KeepsCodeOut := by
  induction lines generalizing outline with
  | nil =>
    cases h
    exact hout
  | cons line lines ih =>
    obtain ⟨hline, hmore⟩ := List.forall_mem_cons.mp hlines
    rw [List.foldlM_cons] at h
    obtain ⟨reached, hread, hrest⟩ := bind_ok.mp h
    exact ih (read_keepsCodeOut hout hline hread) hmore hrest

/-- While module code is open in the lines of a document, no container is. -/
theorem frames_of_code {text : String} {lines : List Line}
    (hlines : ∀ line ∈ lines, line ∈ Line.ofText text)
    (h : lines.foldlM (read dialect) {} = .ok outline) {last : Line} {before : List Line}
    (hleaf : outline.leaf = .code last before) : outline.frames = [] := by
  have hstart : KeepsCodeOut {} := ⟨by simp [containers], fun hopen => absurd rfl hopen⟩
  have hout := foldlM_keepsCodeOut hstart
    (fun line hline => Line.ofText_spaced text line (hlines line hline)) h
  refine Classical.byContradiction fun hframes => ?_
  have hinner := hout.inner (by simpa [containers] using hframes)
  rw [hleaf] at hinner
  exact hinner

end Outline

end PagePrelude.Markdown
