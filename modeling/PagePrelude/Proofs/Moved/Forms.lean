import PagePrelude.Markdown.LinkPart
import PagePrelude.Markdown.Table
import PagePrelude.Proofs.Moved.Lines

/-!
# Forms that stand elsewhere

What lines say by themselves, the parts of links and the parts of rows: all of it is read
off the characters of cells, so a move changes only where the cells stand that are left.
-/

namespace PagePrelude.Markdown

section
variable (move : Move) (cells : List Cell)

-- ---------------------------------------------------------------------------
-- Forms of lines
-- ---------------------------------------------------------------------------

theorem chars_moved : (cells.map (Cell.moved move)).map Cell.char = cells.map Cell.char := by
  simp [Function.comp_def]

@[simp] theorem visibleChars_moved :
    visibleChars (cells.map (Cell.moved move)) = visibleChars cells := by
  simp [visibleChars, Function.comp_def]

@[simp] theorem isThematicBreak_moved :
    isThematicBreak (cells.map (Cell.moved move)) = isThematicBreak cells := by
  simp [isThematicBreak, List.filter_map, Function.comp_def]

theorem dropClosingMarks_moved : dropClosingMarks (cells.map (Cell.moved move)) =
    (dropClosingMarks cells).map (Cell.moved move) := by
  simp only [dropClosingMarks, trimEnd_moved, ← List.map_reverse, List.dropWhile_map,
    Function.comp_def, Cell.char_moved, List.getLast?_map, List.length_map]
  cases hlast : ((trimEnd cells).reverse.dropWhile fun cell => cell.char = '#').reverse.getLast?
    with
  | none => simp
  | some last => simp only [Option.map_some, Cell.isBlank_moved]; split <;> simp

theorem heading?_moved : heading? (cells.map (Cell.moved move)) =
    (heading? cells).map (Prod.map id (List.map (Cell.moved move))) := by
  simp only [heading?, List.takeWhile_map, List.dropWhile_map, ← List.map_drop, List.length_map,
    List.head?_map, Function.comp_def, Cell.char_moved, Option.all_map, Cell.isBlank_moved,
    dropClosingMarks_moved]
  split <;> rfl

@[simp] theorem underline?_moved :
    underline? (cells.map (Cell.moved move)) = underline? cells := by
  simp [underline?]

def Fence.moved (fence : Fence) : Fence :=
  { fence with info := fence.info.map (Cell.moved move) }

theorem fence?_moved : fence? (cells.map (Cell.moved move)) =
    (fence? cells).map (Fence.moved move) := by
  cases cells with
  | nil => rfl
  | cons first rest =>
    simp only [fence?, List.map_cons]
    rw [← List.map_cons]
    simp only [List.takeWhile_map, Function.comp_def, Cell.char_moved, List.length_map,
      ← List.map_drop, List.all_map]
    split
    · rfl
    · split
      · rfl
      · split <;> rfl

@[simp] theorem Fence.closedBy_moved (fence : Fence) :
    (fence.moved move).closedBy (cells.map (Cell.moved move)) = fence.closedBy cells := by
  simp [closedBy, moved, List.takeWhile_map, ← List.map_drop, Function.comp_def]

@[simp] theorem html?_moved (interrupts : Bool) :
    html? interrupts (cells.map (Cell.moved move)) = html? interrupts cells := by
  simp only [html?, chars_moved]

@[simp] theorem HtmlEnd.within_moved (ends : HtmlEnd) :
    ends.within (cells.map (Cell.moved move)) = ends.within cells := by
  cases ends with
  | blank => rfl
  | text texts => simp only [within, chars_moved]

-- ---------------------------------------------------------------------------
-- Rows of tables
-- ---------------------------------------------------------------------------

namespace Table

theorem split_moved (part : List Cell) :
    split (part.map (Cell.moved move)) (cells.map (Cell.moved move)) =
      (split part cells).map (List.map (Cell.moved move)) := by
  fun_induction split part cells with
  | case1 part => simp [split]
  | case2 part cell hbar => simp [split, hbar]
  | case3 part cell hbar => simp [split, hbar]
  | case4 part cell next rest hescape ih => simpa [split, hescape] using ih
  | case5 part cell next rest hescape hbar ih => simpa [split, hescape, hbar] using ih
  | case6 part cell next rest hescape hbar ih => simpa [split, hescape, hbar] using ih

@[simp] theorem trim_moved : trim (cells.map (Cell.moved move)) =
    (trim cells).map (Cell.moved move) := by
  simp [trim, List.dropWhile_map, Function.comp_def]

theorem contents_moved : contents (cells.map (Cell.moved move)) =
    (contents cells).map (List.map (Cell.moved move)) := by
  have hparts := split_moved move (trim cells) []
  have hempty (part : Option (List Cell)) :
      (part.map (List.map (Cell.moved move))).any List.isEmpty = part.any List.isEmpty := by
    cases part <;> simp
  rw [List.map_nil] at hparts
  simp only [contents, trim_moved, hparts, List.map_map, Function.comp_def]
  rw [show (fun part => (trim part).map (Cell.moved move)) = List.map (Cell.moved move) ∘ trim
    from rfl, ← List.map_map]
  simp only [List.head?_map, hempty]
  split <;> simp only [← List.map_drop, List.getLast?_map, hempty] <;> split <;>
    simp [List.map_dropLast]

theorem alignment?_moved : alignment? (cells.map (Cell.moved move)) = alignment? cells := by
  simp only [alignment?, chars_moved]

@[simp] theorem columns?_moved :
    columns? (cells.map (Cell.moved move)) = columns? cells := by
  simp [columns?, contents_moved, Function.comp_def, alignment?_moved]

@[simp] theorem start?_moved (header line : Line) :
    start? (header.moved move) (line.moved move) = start? header line := by
  simp [start?, contents_moved]

end Table

-- ---------------------------------------------------------------------------
-- Parts of links
-- ---------------------------------------------------------------------------

@[simp] theorem plainText_moved : plainText (cells.map (Cell.moved move)) = plainText cells := by
  simp [plainText]

namespace LinkPart

theorem untilMark_moved (close : Char) (never : List Char) :
    untilMark close never (cells.map (Cell.moved move)) =
      (untilMark close never cells).map
        (Prod.map (List.map (Cell.moved move)) (List.map (Cell.moved move))) := by
  fun_induction untilMark close never cells <;>
    simp_all [untilMark, Function.comp_def, Prod.map_map]

theorem label?_moved : label? (cells.map (Cell.moved move)) =
    (label? cells).map (Prod.map (List.map (Cell.moved move)) (List.map (Cell.moved move))) := by
  cases cells with
  | nil => rfl
  | cons opening rest =>
    simp only [label?, List.map_cons, Cell.char_moved, untilMark_moved]
    split
    · cases untilMark ']' ['['] rest with
      | none => rfl
      | some found =>
        obtain ⟨label, more⟩ := found
        simp only [Option.map_some, Prod.map_apply, List.length_map, List.all_map,
          Function.comp_def, Cell.isGap_moved]
        split <;> rfl
    · rfl

theorem wordsOf_moved (word : List Char) :
    wordsOf word (cells.map (Cell.moved move)) = wordsOf word cells := by
  induction cells generalizing word with
  | nil => rfl
  | cons cell rest ih => simp [wordsOf, ih]

@[simp] theorem labelKey_moved : labelKey (cells.map (Cell.moved move)) = labelKey cells := by
  simp [labelKey, wordsOf_moved]

theorem bareDestination_moved (depth : Nat) :
    bareDestination depth (cells.map (Cell.moved move)) =
      (bareDestination depth cells).map (List.map (Cell.moved move))
        (List.map (Cell.moved move)) := by
  fun_induction bareDestination depth cells with
  | case6 depth cell next rest keep => simp_all [bareDestination, keep]
  | case8 cell next rest keep => simp_all [bareDestination, keep]
  | case9 depth cell next rest keep hend hescape hopen hclose ih =>
    simp only [List.map_cons] at ih
    simp [bareDestination, hend, hescape, hopen, hclose, ih, keep]
  | _ => simp_all [bareDestination]

/-- A text taken off the front of some cells does not depend on their place. -/
theorem plainText_front_moved (found : Option (List Cell × List Cell)) :
    (found.map (Prod.map (List.map (Cell.moved move)) (List.map (Cell.moved move)))).map
        (Prod.map plainText id) =
      (found.map (Prod.map plainText id)).map (Prod.map id (List.map (Cell.moved move))) := by
  cases found <;> simp [Prod.map]

theorem destination?_moved : destination? (cells.map (Cell.moved move)) =
    (destination? cells).map (Prod.map id (List.map (Cell.moved move))) := by
  cases cells with
  | nil => rfl
  | cons opening rest =>
    have hbare := bareDestination_moved move (opening :: rest) 0
    simp only [List.map_cons] at hbare
    simp only [destination?, List.map_cons, Cell.char_moved, untilMark_moved, hbare]
    split
    · exact plainText_front_moved move _
    · simp only [Prod.map_fst, Prod.map_snd, List.isEmpty_map, plainText_moved]
      split <;> rfl

theorem title?_moved : title? (cells.map (Cell.moved move)) =
    (title? cells).map (Prod.map id (List.map (Cell.moved move))) := by
  cases cells with
  | nil => rfl
  | cons opening rest =>
    simp only [title?, List.map_cons, Cell.char_moved, untilMark_moved]
    split
    · exact plainText_front_moved move _
    · split
      · exact plainText_front_moved move _
      · rfl

@[simp] theorem skipGap_moved : skipGap (cells.map (Cell.moved move)) =
    (skipGap cells).map (Cell.moved move) := by
  simp only [skipGap, List.dropWhile_map, Function.comp_def, Cell.isBlank_moved]
  cases cells.dropWhile Cell.isBlank with
  | nil => rfl
  | cons cell more =>
    simp only [List.map_cons, Cell.isEnding_moved]
    split
    · rw [List.dropWhile_map]
      rfl
    · rfl

theorem titleAfter?_moved : titleAfter? (cells.map (Cell.moved move)) =
    (titleAfter? cells).map (Prod.map id (List.map (Cell.moved move))) := by
  simp only [titleAfter?, List.head?_map, Option.any_map, Cell.isGap_moved, skipGap_moved,
    title?_moved]
  split <;> rfl

end LinkPart

def Definition.moved (definition : Definition) : Definition :=
  { definition with span := definition.span.moved move }

namespace Definition

@[simp] theorem key_moved (definition : Definition) :
    (definition.moved move).key = definition.key := by cases definition; rfl

theorem lineEnd?_moved (stop : Point) :
    lineEnd? (stop.moved move) (cells.map (Cell.moved move)) =
      (lineEnd? stop cells).map (Prod.map (List.map (Cell.moved move)) (Point.moved move)) := by
  simp only [lineEnd?, List.dropWhile_map, Function.comp_def, Cell.isBlank_moved]
  cases cells.dropWhile Cell.isBlank with
  | nil => rfl
  | cons cell rest =>
    simp only [List.map_cons, Cell.isEnding_moved]
    split <;> rfl

theorem take?_moved (stop : Point) : take? (stop.moved move) (cells.map (Cell.moved move)) =
    (take? stop cells).map (Prod.map (Definition.moved move) (List.map (Cell.moved move))) := by
  simp only [take?, List.dropWhile_map, Function.comp_def, Cell.isBlank_moved,
    LinkPart.label?_moved]
  cases LinkPart.label? (cells.dropWhile Cell.isBlank) with
  | none => rfl
  | some found =>
    obtain ⟨label, rest⟩ := found
    simp only [Option.map_some, Prod.map_apply, Option.bind_eq_bind, Option.bind_some,
      List.head?_map]
    cases rest.head? with
    | none => rfl
    | some colon =>
      simp only [Option.map_some, Option.bind_some, Cell.char_moved]
      split
      · rfl
      · simp only [← List.map_drop, LinkPart.skipGap_moved, LinkPart.destination?_moved]
        cases LinkPart.destination? (LinkPart.skipGap (rest.drop 1)) with
        | none => rfl
        | some found =>
          obtain ⟨destination, rest⟩ := found
          simp only [Option.map_some, Prod.map_apply, Option.bind_some, id_eq,
            LinkPart.titleAfter?_moved, lineEnd?_moved]
          cases LinkPart.titleAfter? rest with
          | none => cases lineEnd? stop rest <;> simp [moved, Span.moved]
          | some titled =>
            obtain ⟨title, after⟩ := titled
            simp only [Option.map_some, Prod.map_apply, Option.bind_some, lineEnd?_moved]
            cases lineEnd? stop after <;> cases lineEnd? stop rest <;> simp [moved, Span.moved]

theorem takeAll_moved (stop : Point) (fuel : Nat) :
    takeAll (stop.moved move) fuel (cells.map (Cell.moved move)) =
      (takeAll stop fuel cells).map (List.map (Definition.moved move))
        (List.map (Cell.moved move)) := by
  induction fuel generalizing cells with
  | zero => rfl
  | succ fuel ih =>
    simp only [takeAll, take?_moved]
    cases take? stop cells with
    | none => rfl
    | some found =>
      obtain ⟨definition, rest⟩ := found
      simp [ih]

end Definition

end

end PagePrelude.Markdown
