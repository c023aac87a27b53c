import PagePrelude.Markdown.Leaf
import PagePrelude.Proofs.Moved.Lines

/-!
# Texts and their lines

A text can be parted where one of its lines ends. What comes after can then be replaced, or
read as a text of its own, and the lines on the other side stay what they are.
-/

namespace PagePrelude.Markdown.Line

/-- A line with a line feed at its end. -/
def fed (line : Line) : Line :=
  { line with ending := "\n", after := pointAfter "\n" line.stop }

@[simp] theorem stop_fed (line : Line) : line.fed.stop = line.stop := rfl

/-- What ends a line and comes after it: nothing, or an ending and the lines of the text that
follows, which the ending starts as an empty line wherever it stands. -/
def EndsWith (line : Line) (rest : List Line) (tail : List Char) : Prop :=
  (tail = [] ∧ rest = []) ∨
    ∃ more, tail = line.ending.toList ++ more ∧ line.after = pointAfter line.ending line.stop ∧
      rest = ofChars line.after [] more ∧
      ∀ point, ofChars point [] tail =
        ⟨[], point, line.ending, pointAfter line.ending point⟩ ::
          ofChars (pointAfter line.ending point) [] more

/-- A text, parted where one of its lines ends. -/
structure Parted (point : Point) (cells : List Cell) (before : List Line) (line : Line)
    (rest : List Line) (head tail : List Char) : Prop where
  offset : line.stop.offset = point.offset + (String.ofList head).utf8ByteSize
  lines : point.line ≤ line.stop.line
  /-- The text can go on in another way after the line. -/
  instead : ∀ more, ofChars point cells (head ++ '\n' :: more) =
    before ++ line.fed :: ofChars (pointAfter "\n" line.stop) [] more
  after : line.EndsWith rest tail
  /-- Nothing in front means that the line was already read. -/
  fresh : head = [] → line.cells = cells.reverse

section
variable {point : Point} {cells : List Cell} {before rest : List Line} {line : Line}

theorem cellsOf_offset (c : Char) (point : Point) :
    (cellsOf c point).2.offset = point.offset + c.utf8Size := by
  unfold cellsOf
  split
  · subst c
    rfl
  · rfl

theorem cellsOf_line (c : Char) (point : Point) : (cellsOf c point).2.line = point.line := by
  unfold cellsOf
  split <;> rfl

/-- The line that an ending ends, with whatever stands before the ending in its cells. -/
abbrev ended (ending : String) (point : Point) (cells : List Cell) : Line :=
  ⟨cells.reverse, point, ending, pointAfter ending point⟩

/-- A text that starts with an ending is parted there, or where the text after it is. -/
theorem parted_ending {ending : String} {chars : List Char}
    (hfirst : ∀ point cells, ofChars point cells (ending.toList ++ chars) =
      ended ending point cells :: ofChars (pointAfter ending point) [] chars)
    (hinstead : ∀ c head more, (c :: head) <+: chars →
      ofChars point cells (ending.toList ++ (c :: head ++ more)) =
        ended ending point cells :: ofChars (pointAfter ending point) [] (c :: head ++ more))
    (ih : ∀ {before}, ofChars (pointAfter ending point) [] chars = before ++ line :: rest →
      ∃ head tail, chars = head ++ tail ∧
        Parted (pointAfter ending point) [] before line rest head tail)
    (h : ended ending point cells :: ofChars (pointAfter ending point) [] chars =
      before ++ line :: rest) (hline : line.cells ≠ []) :
    ∃ head tail, ending.toList ++ chars = head ++ tail ∧
      Parted point cells before line rest head tail := by
  cases before with
  | nil =>
    obtain ⟨rfl, rfl⟩ := List.cons.inj h
    exact ⟨[], _, rfl, rfl, Nat.le_refl _, fun _ => by simp [ofChars, fed],
      .inr ⟨chars, rfl, rfl, rfl, fun point => hfirst point []⟩, fun _ => rfl⟩
  | cons first before =>
    obtain ⟨rfl, hmore⟩ := List.cons.inj h
    obtain ⟨head, tail, rfl, hparted⟩ := ih hmore
    cases head with
    | nil => exact absurd (hparted.fresh rfl) hline
    | cons c head =>
      refine ⟨ending.toList ++ c :: head, tail, by simp,
        ⟨?_, ?_, fun more => ?_, hparted.after, ?_⟩⟩
      · rw [hparted.offset]
        simp [pointAfter, String.ofList_append, Nat.add_assoc]
      · exact Nat.le_trans (Nat.le_succ _) hparted.lines
      · rw [List.append_assoc, hinstead c head _ (List.prefix_append _ _), hparted.instead,
          List.cons_append]
      · simp

/-- A text is parted where any of its lines ends that holds something. -/
theorem ofChars_parted {chars : List Char} (h : ofChars point cells chars = before ++ line :: rest)
    (hline : line.cells ≠ []) :
    ∃ head tail, chars = head ++ tail ∧ Parted point cells before line rest head tail := by
  fun_induction ofChars point cells chars generalizing before with
  | case1 point cells hempty => simp at h
  | case2 point cells hempty =>
    obtain ⟨rfl, hlast⟩ : before = [] ∧
        [(⟨cells.reverse, point, "", point⟩ : Line)] = line :: rest := by
      cases before with
      | nil => exact ⟨rfl, h⟩
      | cons first before => simp at h
    obtain ⟨rfl, rfl⟩ := List.cons.inj hlast
    exact ⟨[], [], rfl, rfl, Nat.le_refl _, fun _ => by simp [ofChars, fed], .inl ⟨rfl, rfl⟩,
      fun _ => rfl⟩
  | case3 point cells chars after =>
    rename_i ih
    exact parted_ending (fun _ _ => by simp [ofChars]) (fun _ _ _ _ => by simp [ofChars]) ih h
      hline
  | case4 point cells chars hlf after =>
    rename_i ih
    have hreturn (point : Point) (cells : List Cell) (more : List Char)
        (hmore : ∀ rest, more ≠ '\n' :: rest) :
        ofChars point cells ("\r".toList ++ more) =
          ended "\r" point cells :: ofChars (pointAfter "\r" point) [] more :=
      ofChars.eq_3 _ _ _ hmore
    refine parted_ending (fun point cells => hreturn point cells chars hlf)
      (fun c head more hprefix => ?_) ih h hline
    refine hreturn _ _ _ fun rest heq => ?_
    obtain ⟨tail, rfl⟩ := hprefix
    obtain ⟨rfl, -⟩ := List.cons.inj heq
    exact hlf _ rfl
  | case5 point cells chars after =>
    rename_i ih
    exact parted_ending (fun _ _ => by simp [ofChars]) (fun _ _ _ _ => by simp [ofChars]) ih h
      hline
  | case6 point cells c chars hcrlf hcr hlf more after heq =>
    rename_i ih
    obtain ⟨head, tail, rfl, hparted⟩ := ih h
    refine ⟨c :: head, tail, rfl, ⟨?_, ?_, fun other => ?_, hparted.after, by simp⟩⟩
    · have hoffset := cellsOf_offset c point
      rw [heq] at hoffset
      rw [hparted.offset, hoffset]
      simp [String.ofList_cons, Nat.add_assoc]
    · have hline := cellsOf_line c point
      rw [heq] at hline
      exact hline ▸ hparted.lines
    · rw [List.cons_append, ofChars.eq_5 _ _ _ _ (fun _ h _ => hcr h) hcr hlf, heq]
      exact hparted.instead other

end

theorem ofText_unmarked {text : String} (h : text.toList.head? ≠ some '\uFEFF') :
    ofText text = ofChars ⟨1, 1, 0⟩ [] text.toList := by
  unfold ofText
  split
  · rename_i chars htext
    exact absurd (by rw [htext]; rfl) h
  · rfl

theorem ofText_ofList {chars : List Char} (h : chars.head? ≠ some '\uFEFF') :
    ofText (String.ofList chars) = ofChars ⟨1, 1, 0⟩ [] chars := by
  rw [ofText_unmarked (by rwa [String.toList_ofList]), String.toList_ofList]

/-- A document, parted where one of its lines ends. -/
structure PartedText (before : List Line) (line : Line) (rest : List Line)
    (head tail : List Char) : Prop where
  offset : line.stop.offset = (String.ofList head).utf8ByteSize
  /-- The text can go on in another way after the line. -/
  instead : ∀ more, ofText (String.ofList (head ++ '\n' :: more)) =
    before ++ line.fed :: ofChars (pointAfter "\n" line.stop) [] more
  after : line.EndsWith rest tail
  nonempty : head ≠ []

/-- A document is parted where any of its lines ends that holds something. A byte order mark
stays in front. -/
theorem ofText_parted {text : String} {before rest : List Line} {line : Line}
    (h : ofText text = before ++ line :: rest) (hline : line.cells ≠ []) :
    ∃ head tail, text.toList = head ++ tail ∧ PartedText before line rest head tail := by
  unfold ofText at h
  split at h
  · rename_i chars htext
    obtain ⟨head, tail, rfl, hparted⟩ := ofChars_parted h hline
    refine ⟨'\uFEFF' :: head, tail, htext, ⟨?_, fun more => ?_, hparted.after, by simp⟩⟩
    · rw [hparted.offset, String.ofList_cons, String.utf8ByteSize_append,
        String.utf8ByteSize_singleton]
      rfl
    · simp only [ofText, String.toList_ofList, List.cons_append]
      exact hparted.instead more
  · rename_i hmark
    obtain ⟨head, tail, htext, hparted⟩ := ofChars_parted h hline
    have hnonempty : head ≠ [] := fun hnil => hline (hparted.fresh hnil)
    refine ⟨head, tail, htext, ⟨?_, fun more => ?_, hparted.after, hnonempty⟩⟩
    · rw [hparted.offset, Nat.zero_add]
    · obtain ⟨c, head, rfl⟩ := List.exists_cons_of_ne_nil hnonempty
      have hfirst : c ≠ '\uFEFF' := by
        rintro rfl
        exact hmark _ htext
      simp only [ofText, String.toList_ofList, List.cons_append]
      split
      · rename_i heq
        exact absurd (List.cons.inj heq).1 hfirst
      · exact hparted.instead more

-- ---------------------------------------------------------------------------
-- What is written in lines
-- ---------------------------------------------------------------------------

def written (cells : List Cell) : List Char :=
  cells.flatMap fun cell => cell.text.toList

@[simp] theorem written_nil : written [] = [] := rfl

@[simp] theorem written_append (cells more : List Cell) :
    written (cells ++ more) = written cells ++ written more :=
  List.flatMap_append

theorem written_cellsOf (c : Char) (point : Point) : written (cellsOf c point).1 = [c] := by
  unfold cellsOf
  split
  · subst c
    simp [written, List.flatMap_map]
  · simp [written]

/-- Whether cells do not start within a tab. -/
def FirstWritten (cells : List Cell) : Prop :=
  ∀ cell ∈ cells.head?, cell.text ≠ ""

theorem firstWritten_append {cells more : List Cell} (h : FirstWritten cells)
    (hmore : FirstWritten more) : FirstWritten (cells ++ more) := by
  cases cells with
  | nil => exact hmore
  | cons cell cells => exact h

theorem firstWritten_cellsOf (c : Char) (point : Point) :
    FirstWritten (cellsOf c point).1 := by
  unfold cellsOf
  split <;> simp [FirstWritten]

theorem textOf_written {cells : List Cell} (h : FirstWritten cells) :
    (textOf cells).toList = written cells := by
  have hnone : cells.takeWhile (·.text.isEmpty) = [] := by
    cases cells with
    | nil => rfl
    | cons cell cells =>
      have hcell : cell.text ≠ "" := h cell rfl
      simp [hcell]
  simp [textOf, hnone, written, String.toList_join, List.flatMap_map]

/-- The lines of a text hold all of it. -/
theorem flatMap_written (point : Point) (cells : List Cell) (chars : List Char) :
    (ofChars point cells chars).flatMap (fun line => written line.cells ++ line.ending.toList) =
      written cells.reverse ++ chars := by
  fun_induction ofChars point cells chars with
  | case1 point cells hempty => simp [List.isEmpty_iff.mp hempty]
  | case2 point cells hempty => simp
  | case3 point cells chars after ih => simp [ih]
  | case4 point cells chars hlf after ih => simp [ih]
  | case5 point cells chars after ih => simp [ih]
  | case6 point cells c chars hcrlf hcr hlf more after heq ih =>
    have hone := written_cellsOf c point
    rw [heq] at hone
    simp [ih, hone]

theorem ending_ofChars (point : Point) (cells : List Cell) (chars : List Char) :
    ∀ line ∈ ofChars point cells chars, line.ending ∈ ["", "\n", "\r", "\r\n"] := by
  fun_induction ofChars point cells chars with
  | case1 | case2 => simp
  | case3 point cells chars after ih | case4 point cells chars hlf after ih
  | case5 point cells chars after ih => simpa using ih
  | case6 point cells c chars hcrlf hcr hlf more after heq ih => exact ih

theorem firstWritten_ofChars (point : Point) (cells : List Cell) (chars : List Char)
    (h : FirstWritten cells.reverse) :
    ∀ line ∈ ofChars point cells chars, FirstWritten line.cells := by
  fun_induction ofChars point cells chars with
  | case1 => simp
  | case2 => simpa using h
  | case3 point cells chars after ih | case4 point cells chars hlf after ih
  | case5 point cells chars after ih =>
    exact List.forall_mem_cons.mpr ⟨h, ih (by simp [FirstWritten])⟩
  | case6 point cells c chars hcrlf hcr hlf more after heq ih =>
    have hfirst := firstWritten_cellsOf c point
    rw [heq] at hfirst
    exact ih (by simpa using firstWritten_append h hfirst)

theorem textOfLines_cons_concat (line : Line) (before : List Line) (last : Line) :
    Leaf.textOfLines (line :: (before ++ [last])) =
      textOf line.cells ++ line.ending ++ Leaf.textOfLines (before ++ [last]) := by
  cases before <;> rfl

theorem textOfLines_fed (before : List Line) (last : Line) :
    Leaf.textOfLines (before ++ [last.fed]) = Leaf.textOfLines (before ++ [last]) := by
  induction before with
  | nil => rfl
  | cons line before ih =>
    rw [List.cons_append, List.cons_append, textOfLines_cons_concat, textOfLines_cons_concat, ih]

/-- The text of lines is what is written in them, but for the last ending. -/
theorem textOfLines_written (before : List Line) (last : Line)
    (h : ∀ line ∈ before ++ [last], FirstWritten line.cells) :
    (Leaf.textOfLines (before ++ [last])).toList ++ last.ending.toList =
      (before ++ [last]).flatMap fun line => written line.cells ++ line.ending.toList := by
  induction before with
  | nil =>
    have hlast : FirstWritten last.cells := h last (by simp)
    simp [Leaf.textOfLines, textOf_written hlast]
  | cons line before ih =>
    have hline : FirstWritten line.cells := h line (by simp)
    have hmore := ih fun other hother => h other (List.mem_cons_of_mem _ hother)
    rw [List.cons_append, textOfLines_cons_concat, List.flatMap_cons, ← hmore]
    simp [textOf_written hline]

/-- A text that ends in the middle of a line is parted at its end. -/
theorem parted_at_end {point : Point} {chars : List Char} {before : List Line} {last : Line}
    (h : ofChars point [] chars = before ++ [last]) (hlast : last.cells ≠ [])
    (hend : ∀ c ∈ chars.getLast?, c ≠ '\n' ∧ c ≠ '\r') :
    Leaf.textOfLines (before ++ [last]) = String.ofList chars ∧
      Parted point [] before last [] chars [] := by
  have hwritten := flatMap_written point [] chars
  have htext := textOfLines_written before last fun line hline =>
    firstWritten_ofChars point [] chars (by simp [FirstWritten]) line (h ▸ hline)
  rw [h, ← htext, List.reverse_nil, written_nil, List.nil_append] at hwritten
  have hending : last.ending = "" := by
    have hmem := ending_ofChars point [] chars last (h ▸ by simp)
    simp only [List.mem_cons, List.not_mem_nil, or_false] at hmem
    rcases hmem with hnone | hbreak | hbreak | hbreak
    · exact hnone
    all_goals
      rw [hbreak] at hwritten
      simp [← hwritten] at hend
  obtain ⟨head, tail, rfl, hparted⟩ := ofChars_parted h hlast
  obtain rfl : tail = [] := by
    rcases hparted.after with ⟨htail, -⟩ | ⟨more, htail, -, hmore, -⟩
    · exact htail
    · have hnone := flatMap_written last.after [] more
      rw [← hmore] at hnone
      rw [htail, hending]
      simpa using hnone.symm
  rw [hending] at hwritten
  exact ⟨String.toList_inj.mp (by simpa using hwritten), by simpa using hparted⟩

-- ---------------------------------------------------------------------------
-- First lines
-- ---------------------------------------------------------------------------

/-- Whether a text stands on one line and takes a column for each byte. -/
def Plain (word : List Char) : Prop :=
  ∀ c ∈ word, c ≠ '\n' ∧ c ≠ '\r' ∧ c ≠ '\t'

theorem ofChars_cons {c : Char} (hlf : c ≠ '\n') (hcr : c ≠ '\r') (point : Point)
    (cells : List Cell) (chars : List Char) :
    ofChars point cells (c :: chars) =
      ofChars (cellsOf c point).2 ((cellsOf c point).1.reverse ++ cells) chars :=
  ofChars.eq_5 _ _ _ _ (fun _ h _ => hcr h) hcr hlf

/-- Plain characters go to the cells of the first line. -/
theorem ofChars_plain {word : List Char} (h : Plain word) (point : Point) (cells : List Cell)
    (chars : List Char) :
    ∃ after more,
      ofChars point cells (word ++ chars) = ofChars after (more.reverse ++ cells) chars ∧
      more.map Cell.char = word ∧ startOf more point = point := by
  induction word generalizing point cells with
  | nil => exact ⟨point, [], rfl, rfl, rfl⟩
  | cons c word ih =>
    obtain ⟨⟨hlf, hcr, htab⟩, hword⟩ := List.forall_mem_cons.mp h
    have hcell : (cellsOf c point).1 = [⟨c, c.toString, point⟩] := by simp [cellsOf, htab]
    obtain ⟨after, more, hmore, hchars, -⟩ :=
      ih hword (cellsOf c point).2 ((cellsOf c point).1.reverse ++ cells)
    refine ⟨after, (cellsOf c point).1 ++ more, ?_, ?_, ?_⟩
    · rw [List.cons_append, ofChars_cons hlf hcr, hmore]
      simp
    · simp [hcell, hchars]
    · simp [hcell, startOf]

/-- Cells that were read go in front of what else is in the first line. -/
theorem ofChars_first (point : Point) {cells : List Cell} (h : cells ≠ []) (chars : List Char) :
    ∃ line rest more, ofChars point cells chars = line :: rest ∧
      line.cells = cells.reverse ++ more := by
  fun_induction ofChars point cells chars with
  | case1 point cells hempty => exact absurd (List.isEmpty_iff.mp hempty) h
  | case2 | case3 | case4 | case5 => exact ⟨_, _, [], rfl, (List.append_nil _).symm⟩
  | case6 point cells c chars hcrlf hcr hlf more after heq ih =>
    obtain ⟨line, rest, others, hlines, hcells⟩ := ih (by simp [h])
    exact ⟨line, rest, more ++ others, hlines, by simpa using hcells⟩

end PagePrelude.Markdown.Line
