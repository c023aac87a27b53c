import PagePrelude.Markdown.Prose
import PagePrelude.Proofs.Moved.Forms
import PagePrelude.Proofs.Moved.Tags

/-!
# Words that stand elsewhere

The words of a paragraph make the same pieces wherever it stands: runs of marks match by
their length and their neighbours, brackets by what is in them, and neither depends on a
place.
-/

namespace PagePrelude

/-- A kind of node with the places in it. What a move does not keep becomes a break. -/
def NodeKind.moved (move : Move) : NodeKind → NodeKind
  | element block name attributes => element block name (attributes.map (Attribute.moved move))
  | expression block code start => expression block code (start.moved move)
  | moduleCode value => if move.keepsCode value then moduleCode value else thematicBreak
  | matter language value => if move.keepsData then matter language value else thematicBreak
  | other => other

namespace Markdown

def Piece.moved (move : Move) : Piece → Piece
  | enter kind construct start => enter (kind.moved move) construct (start.moved move)
  | leave stop => leave (stop.moved move)
  | whole kind span => whole (kind.moved move) (span.moved move)
  | tag block mark => tag block (mark.moved move)

def Phrase.moved (move : Move) : Phrase → Phrase
  | pieces made => pieces (made.map (Piece.moved move))
  | run cells opens closes => run (cells.map (Cell.moved move)) opens closes

def Bracket.moved (move : Move) (bracket : Bracket) : Bracket :=
  { bracket with
    cells := bracket.cells.map (Cell.moved move)
    label := bracket.label.map (Cell.moved move)
    outside := bracket.outside.map (Phrase.moved move) }

def Prose.moved (move : Move) (prose : Prose) : Prose :=
  { prose with
    brackets := prose.brackets.map (Bracket.moved move)
    phrases := prose.phrases.map (Phrase.moved move) }

section
variable (move : Move)

-- ---------------------------------------------------------------------------
-- Pieces
-- ---------------------------------------------------------------------------

@[simp] theorem Piece.text_moved (value : String) (span : Span) :
    Piece.text value (span.moved move) = (Piece.text value span).moved move := rfl

theorem Piece.ofCells_moved (cells : List Cell) :
    Piece.ofCells (cells.map (Cell.moved move)) =
      (Piece.ofCells cells).map (Piece.moved move) := by
  cases cells with
  | nil => rfl
  | cons first rest =>
    have hlast : (first :: rest).getLast? = some ((first :: rest).getLast (by simp)) :=
      List.getLast?_eq_some_getLast _
    have htext := textOf_moved move (first :: rest)
    simp only [List.map_cons] at htext
    simp only [ofCells, List.map_cons, htext]
    rw [← List.map_cons, List.getLast?_map, hlast]
    simp [moved, text, NodeKind.moved, Span.moved]

@[simp] theorem Piece.words_moved (piece : Piece) : (piece.moved move).words = piece.words := by
  cases piece with
  | whole kind span => cases kind <;> simp only [moved, NodeKind.moved] <;> (try split) <;> rfl
  | _ => rfl

-- ---------------------------------------------------------------------------
-- Emphasis
-- ---------------------------------------------------------------------------

namespace Phrase

theorem ofRun_moved (cells : List Cell) (before after : Option Char) :
    ofRun (cells.map (Cell.moved move)) before after = (ofRun cells before after).moved move := by
  simp only [ofRun, List.head?_map, Option.any_map, Cell.char_moved]
  split <;> rfl

theorem flatten_moved (phrases : List Phrase) :
    flatten (phrases.map (moved move)) = (flatten phrases).map (Piece.moved move) := by
  induction phrases with
  | nil => rfl
  | cons phrase phrases ih =>
    cases phrase <;> simp_all [flatten, moved, Piece.ofCells_moved]

theorem matched_moved (opening closing : List Cell) (both : Bool) :
    matched (opening.map (Cell.moved move)) (closing.map (Cell.moved move)) both =
      matched opening closing both := by
  cases opening <;> cases closing <;> simp [matched]

theorem ne_nil_of_matched {opening closing : List Cell} {both : Bool}
    (h : matched opening closing both = true) : closing ≠ [] := by
  rintro rfl
  simp [matched] at h

abbrev openerMoved : List Phrase × List Cell × Bool × List Phrase →
    List Phrase × List Cell × Bool × List Phrase :=
  Prod.map (List.map (moved move))
    (Prod.map (List.map (Cell.moved move)) (Prod.map id (List.map (moved move))))

theorem opener?_moved (closing : List Cell) (opensToo : Bool) (after before : List Phrase) :
    opener? (closing.map (Cell.moved move)) opensToo (after.map (moved move))
        (before.map (moved move)) =
      (opener? closing opensToo after before).map (openerMoved move) := by
  fun_induction opener? closing opensToo after before with
  | case1 => rfl
  | case2 after cells closes before h => simp [opener?, moved, matched_moved, h]
  | case3 after cells closes before h ih => simp [opener?, moved, matched_moved, h, ← ih]
  | case4 after phrase before hrun ih =>
    rw [List.map_cons, opener?.eq_3, ← List.map_cons, ih]
    cases phrase with
    | pieces made => simp [moved]
    | run cells opens closes =>
      cases opens with
      | false => simp [moved]
      | true => exact (hrun cells closes rfl).elim

theorem closing_ne_nil_of_opener? {closing : List Cell} {opensToo : Bool}
    {after before : List Phrase} {found : List Phrase × List Cell × Bool × List Phrase}
    (h : opener? closing opensToo after before = some found) : closing ≠ [] := by
  fun_induction opener? closing opensToo after before with
  | case1 => cases h
  | case2 after cells closes before hmatch => exact ne_nil_of_matched hmatch
  | case3 after cells closes before hmatch ih => exact ih h
  | case4 after phrase before hrun ih => exact ih h

theorem strength_moved (opening closing : List Cell) :
    strength (opening.map (Cell.moved move)) (closing.map (Cell.moved move)) =
      strength opening closing := by
  simp [strength, Option.any_map]

theorem remainder_moved (cells : List Cell) (opens closes : Bool) :
    remainder (cells.map (Cell.moved move)) opens closes =
      (remainder cells opens closes).map (moved move) := by
  cases cells <;> rfl

/-- What two runs make is no node that a move could not keep. -/
theorem strength_kind_moved (opening closing : List Cell) :
    (strength opening closing).2.1.moved move = (strength opening closing).2.1 := by
  unfold strength
  split
  · rfl
  · split <;> rfl

theorem resolve_moved (fuel : Nat) (before rest : List Phrase) :
    resolve fuel (before.map (moved move)) (rest.map (moved move)) =
      (resolve fuel before rest).map (Piece.moved move) := by
  fun_induction resolve fuel before rest with
  | case1 before rest =>
    rw [resolve, ← List.map_reverse, ← List.map_append, flatten_moved]
  | case2 fuel before hfuel =>
    rw [List.map_nil, resolve.eq_2 _ _ hfuel, ← List.map_reverse, flatten_moved]
  | case3 fuel before closing opens rest hnone ih =>
    have hfind := opener?_moved move closing opens [] before
    rw [List.map_nil, hnone] at hfind
    simpa [resolve, moved, hfind] using ih
  | case4 fuel before closing opens rest inside opening closes older hfound size kind construct
      hstrength kept used start stop made ih =>
    have hfind := opener?_moved move closing opens [] before
    rw [List.map_nil, hfound] at hfind
    have hkind : kind.moved move = kind := by
      simpa [hstrength] using strength_kind_moved move opening closing
    have hclosing : startOf (closing.map (Cell.moved move)) default =
        (startOf closing default).moved move := by
      obtain ⟨first, more, rfl⟩ := List.exists_cons_of_ne_nil (closing_ne_nil_of_opener? hfound)
      rfl
    have hstop : ((closing.take size).getLast?.map fun cell => cell.stop.moved move).getD
        (start.moved move) = stop.moved move := by
      cases h : (closing.take size).getLast? <;> simp [stop, h]
    rw [← ih]
    simp only [moved, List.map_cons, resolve, hfind, Option.map_some, openerMoved, Prod.map_apply,
      id_eq, strength_moved, hstrength, hclosing, List.length_map, ← List.map_take,
      ← List.map_drop, startOf_moved, List.getLast?_map, Option.map_map, Function.comp_def,
      Cell.stop_moved, flatten_moved, remainder_moved]
    rw [hstop]
    simp only [made, moved, Piece.moved, hkind, List.map_append, List.map_cons, List.map_nil]
    rfl
  | case5 fuel before phrase rest hrun ih =>
    rw [List.map_cons, resolve.eq_4, ← List.map_cons, ih]
    cases phrase with
    | pieces made => simp [moved]
    | run cells opens closes =>
      cases closes with
      | false => simp [moved]
      | true => exact (hrun cells opens rfl).elim

theorem marks_moved (phrases : List Phrase) :
    marks (phrases.map (moved move)) = marks phrases := by
  induction phrases with
  | nil => rfl
  | cons phrase phrases ih => cases phrase <;> simp [marks, moved, ih]

theorem toPieces_moved (phrases : List Phrase) :
    toPieces (phrases.map (moved move)) = (toPieces phrases).map (Piece.moved move) := by
  have h := resolve_moved move (phrases.length + marks phrases + 1) [] phrases
  simpa [toPieces, marks_moved] using h

end Phrase

-- ---------------------------------------------------------------------------
-- Brackets, code and links
-- ---------------------------------------------------------------------------

namespace Prose

theorem add_moved (prose : Prose) (made : List Piece) (last : Option Char) :
    (prose.moved move).add (made.map (Piece.moved move)) last =
      (prose.add made last).moved move := by
  simp [add, moved, Phrase.moved]

theorem addText_moved (prose : Prose) (cells : List Cell) :
    (prose.moved move).addText (cells.map (Cell.moved move)) =
      (prose.addText cells).moved move := by
  simp only [addText, List.getLast?_map, Piece.ofCells_moved]
  cases cells.getLast? with
  | none => rfl
  | some last => simpa using add_moved move prose (Piece.ofCells cells) last.char

theorem addRun_moved (prose : Prose) (cells : List Cell) (after : Option Char) :
    (prose.moved move).addRun (cells.map (Cell.moved move)) after =
      (prose.addRun cells after).moved move := by
  simp [addRun, moved, Phrase.ofRun_moved, Function.comp_def]

theorem openBracket_moved (prose : Prose) (image : Bool) (cells rest : List Cell) :
    (prose.moved move).openBracket image (cells.map (Cell.moved move))
        (rest.map (Cell.moved move)) =
      (prose.openBracket image cells rest).moved move := by
  simp [openBracket, moved, Bracket.moved]

theorem untilBackticks_moved (size fuel : Nat) (taken cells : List Cell) :
    untilBackticks size fuel (taken.map (Cell.moved move)) (cells.map (Cell.moved move)) =
      (untilBackticks size fuel taken cells).map
        (Prod.map (List.map (Cell.moved move)) (List.map (Cell.moved move))) := by
  fun_induction untilBackticks size fuel taken cells with
  | case1 => rfl
  | case2 => simp [untilBackticks]
  | case3 fuel taken cell rest hmark run after hsize =>
    simp only [untilBackticks, List.map_cons, Cell.char_moved, hmark, if_true]
    simp only [← List.map_cons, List.takeWhile_map, Function.comp_def, Cell.char_moved,
      List.length_map, ← List.map_drop]
    rw [if_pos hsize, ← List.map_reverse]
    rfl
  | case4 fuel taken cell rest hmark run after hsize ih =>
    simp only [untilBackticks, List.map_cons, Cell.char_moved, hmark, if_true]
    simp only [← List.map_cons, List.takeWhile_map, Function.comp_def, Cell.char_moved,
      List.length_map, ← List.map_drop]
    rw [if_neg hsize, ← List.map_reverse, ← List.map_append]
    exact ih
  | case5 fuel taken cell rest hmark ih => simp [untilBackticks, hmark, ← ih]

theorem codeValue_moved (cells : List Cell) :
    codeValue (cells.map (Cell.moved move)) = codeValue cells := by
  have hcells : (cells.map (Cell.moved move)).map
        (fun cell => if cell.isEnding then { cell with text := " " } else cell) =
      (cells.map fun cell => if cell.isEnding then { cell with text := " " } else cell).map
        (Cell.moved move) := by
    simp only [List.map_map]
    refine List.map_congr_left fun cell _ => ?_
    simp only [Function.comp_apply, Cell.isEnding_moved]
    split <;> rfl
  simp only [codeValue, hcells, textOf_moved]

abbrev targetMoved : String × Option String × List Cell → String × Option String × List Cell :=
  Prod.map id (Prod.map id (List.map (Cell.moved move)))

theorem resource?_moved (cells : List Cell) : resource? (cells.map (Cell.moved move)) =
    (resource? cells).map (targetMoved move) := by
  simp only [resource?, List.head?_map, ← List.map_drop, LinkPart.skipGap_moved]
  cases cells.head? with
  | none => rfl
  | some opening =>
    simp only [Option.map_some, Option.bind_eq_bind, Option.bind_some, Cell.char_moved]
    split
    · rfl
    cases (LinkPart.skipGap (cells.drop 1)).head? with
    | none => simp
    | some first =>
      simp only [Option.map_some, Option.bind_some, Cell.char_moved]
      split
      · rfl
      rw [LinkPart.destination?_moved]
      cases LinkPart.destination? (LinkPart.skipGap (cells.drop 1)) with
      | none => rfl
      | some found =>
        obtain ⟨destination, rest⟩ := found
        simp only [Option.map_some, Option.bind_some, Prod.map_apply, LinkPart.titleAfter?_moved]
        -- The title is optional, so what follows it is moved in either case.
        cases LinkPart.titleAfter? rest with
        | none =>
          simp only [Option.map_none, LinkPart.skipGap_moved, List.head?_map]
          cases (LinkPart.skipGap rest).head? with
          | none => rfl
          | some closing =>
            simp only [Option.map_some, Option.bind_some, Cell.char_moved, ← List.map_drop]
            split <;> rfl
        | some titled =>
          obtain ⟨title, after⟩ := titled
          simp only [Option.map_some, Prod.map_apply, LinkPart.skipGap_moved, List.head?_map]
          cases (LinkPart.skipGap after).head? with
          | none => rfl
          | some closing =>
            simp only [Option.map_some, Option.bind_some, Cell.char_moved, ← List.map_drop]
            split <;> rfl

theorem define?_moved (definitions : List Definition) (label : List Cell) :
    define? (definitions.map (Definition.moved move)) (label.map (Cell.moved move)) =
      (define? definitions label).map (Definition.moved move) := by
  simp only [define?, LinkPart.labelKey_moved, List.find?_map]
  rfl

theorem target?_moved (definitions : List Definition) (label rest : List Cell) :
    target? (definitions.map (Definition.moved move)) (label.map (Cell.moved move))
        (rest.map (Cell.moved move)) =
      (target? definitions label rest).map (targetMoved move) := by
  simp only [target?, resource?_moved, LinkPart.label?_moved, Option.map_or]
  congr 1
  cases LinkPart.label? rest with
  | none =>
    simp only [Option.map_none, define?_moved, ← List.map_take, chars_moved, ← List.map_drop,
      Option.map_map]
    cases define? definitions label with
    | none => rfl
    | some found =>
      simp only [Option.map_some, Function.comp_apply]
      split <;> simp [Definition.moved]
  | some found =>
    obtain ⟨other, rest⟩ := found
    simp only [Option.map_some, Prod.map_apply, define?_moved]
    cases define? definitions other <;> simp [Definition.moved]

theorem literal_moved (bracket : Bracket) (phrases : List Phrase) :
    literal (bracket.moved move) (phrases.map (Phrase.moved move)) =
      (literal bracket phrases).map (Phrase.moved move) := by
  simp [literal, Bracket.moved, Phrase.moved, Piece.ofCells_moved]

theorem linked_moved (bracket : Bracket) (phrases : List Phrase) (destination : String)
    (title : Option String) (stop : Point) :
    linked (bracket.moved move) (phrases.map (Phrase.moved move)) destination title
        (stop.moved move) =
      (linked bracket phrases destination title stop).map (Piece.moved move) := by
  have hpieces := Phrase.toPieces_moved move phrases.reverse
  rw [List.map_reverse] at hpieces
  unfold linked
  simp only [hpieces, List.map_map, Function.comp_def, Piece.words_moved, Bracket.moved,
    startOf_moved]
  split <;> simp [Piece.moved, NodeKind.moved, Span.moved]

theorem closeBracket_moved (prose : Prose) (definitions : List Definition) (stop : Point)
    (cell : Cell) (rest : List Cell) :
    (prose.moved move).closeBracket (definitions.map (Definition.moved move)) (stop.moved move)
        (cell.moved move) (rest.map (Cell.moved move)) =
      Prod.map (moved move) (List.map (Cell.moved move))
        (prose.closeBracket definitions stop cell rest) := by
  obtain ⟨brackets, phrases, before⟩ := prose
  cases brackets with
  | nil => exact Prod.ext (addText_moved move ⟨[], phrases, before⟩ [cell]) rfl
  | cons bracket brackets =>
    have htarget : (if (bracket.moved move).active then
          target? (definitions.map (Definition.moved move))
            ((bracket.moved move).label.take
              ((bracket.moved move).label.length - (rest.map (Cell.moved move)).length - 1))
            (rest.map (Cell.moved move)) else none) =
        (if bracket.active then
          target? definitions (bracket.label.take (bracket.label.length - rest.length - 1)) rest
          else none).map (targetMoved move) := by
      rw [apply_ite (Option.map (targetMoved move)), ← target?_moved]
      simp [Bracket.moved, List.map_take]
    simp only [closeBracket, moved, List.map_cons, htarget]
    generalize (if bracket.active then target? definitions
      (bracket.label.take (bracket.label.length - rest.length - 1)) rest else none) = target
    cases target with
    | none =>
      refine Prod.ext ?_ rfl
      have htext := addText_moved move ⟨brackets, literal bracket phrases, before⟩ [cell]
      simpa [moved, literal_moved] using htext
    | some found =>
      obtain ⟨destination, title, after⟩ := found
      refine Prod.ext ?_ rfl
      simp only [Option.map_some, targetMoved, Prod.map_apply, id_eq, startOf_moved, linked_moved]
      cases himage : bracket.image <;>
        simp [moved, Bracket.moved, himage, Phrase.moved, Function.comp_def]

theorem finish_moved (prose : Prose) :
    (prose.moved move).finish = prose.finish.map (Phrase.moved move) := by
  obtain ⟨brackets, phrases, before⟩ := prose
  simp only [finish, moved, List.map_reverse]
  congr 1
  induction brackets generalizing phrases with
  | nil => rfl
  | cons bracket brackets ih => simp only [List.map_cons, List.foldl_cons, literal_moved, ih]

-- ---------------------------------------------------------------------------
-- Reading words
-- ---------------------------------------------------------------------------

abbrev readMoved : Prose × List Cell → Prose × List Cell :=
  Prod.map (moved move) (List.map (Cell.moved move))

theorem isSpecial_moved (cell : Cell) : isSpecial (cell.moved move) = isSpecial cell := by
  simp [isSpecial]

theorem addEnding_moved (prose : Prose) (blanks : List Cell) (ending : Cell) :
    (prose.moved move).addEnding (blanks.map (Cell.moved move)) (ending.moved move) =
      (prose.addEnding blanks ending).moved move := by
  simp only [addEnding, List.length_map, List.all_map, Function.comp_def, Cell.char_moved,
    Cell.start_moved, startOf_moved]
  split
  · exact add_moved move prose [.whole .lineBreak ⟨startOf blanks ending.start, ending.start⟩] _
  · exact add_moved move prose [Piece.text "\n" ⟨ending.start, ending.start⟩] _

theorem ok_moved {made : Prose} {prose : Prose} (h : made = prose.moved move)
    (rest : List Cell) :
    (.ok (made, rest.map (Cell.moved move)) : Except Problem (Prose × List Cell)) =
      carry (Problem.moved move) (readMoved move) (.ok (prose, rest)) :=
  congrArg Except.ok (Prod.ext h rfl)

theorem readMarkup_moved {dialect : Dialect} (h : dialect.Placeless move) (stop : Point)
    (prose : Prose) (cell : Cell) (cells : List Cell) :
    readMarkup dialect (stop.moved move) (prose.moved move) (cell.moved move)
        (cells.map (Cell.moved move)) =
      carry (Problem.moved move) (readMoved move) (readMarkup dialect stop prose cell cells) := by
  have hscan : Scanner.Steady move (Piece.moved move)
      (if cell.char = '<' then Piece.tag false <$> Scanner.tag dialect cell
        else do
          let found ← Scanner.expression dialect .content cell
          return .whole (.expression false found.code found.start) ⟨cell.start, found.stop⟩)
      (if cell.char = '<' then Piece.tag false <$> Scanner.tag dialect (cell.moved move)
        else do
          let found ← Scanner.expression dialect .content (cell.moved move)
          return .whole (.expression false found.code found.start)
            ⟨(cell.moved move).start, found.stop⟩) :=
    Scanner.Steady.ite
      (fun _ => (Scanner.steady_tag move h cell).map fun _ => rfl)
      (fun _ => (Scanner.steady_expression move h _ cell).bind fun found =>
        Scanner.steady_pure (Piece.whole _ _))
  simp only [readMarkup, Cell.char_moved, hscan cells]
  generalize (StateT.run _ cells : Except Halt (Piece × List Cell)) = outcome
  have htext := addText_moved move prose [cell]
  rcases outcome with (_ | (_ | fault) | problem) | ⟨piece, rest⟩
  · simp only [carry_error, Halt.moved, ← List.map_drop]
    exact ok_moved move htext _
  · simp only [carry_error, Halt.moved, Option.map_none, ← List.map_drop]
    exact ok_moved move htext _
  · rfl
  · rfl
  · exact ok_moved move (add_moved move prose [piece] '>') _

/-- The blanks at the start of some cells do not depend on their place. -/
theorem dropBlanks_moved (cells : List Cell) :
    (cells.map (Cell.moved move)).dropWhile Cell.isBlank =
      (cells.dropWhile Cell.isBlank).map (Cell.moved move) := by
  simp [List.dropWhile_map, Function.comp_def]

theorem ok_dropBlanks_moved {made : Prose} {prose : Prose} (h : made = prose.moved move)
    (rest : List Cell) :
    (.ok (made, (rest.map (Cell.moved move)).dropWhile Cell.isBlank) :
        Except Problem (Prose × List Cell)) =
      carry (Problem.moved move) (readMoved move) (.ok (prose, rest.dropWhile Cell.isBlank)) := by
  rw [dropBlanks_moved]
  exact ok_moved move h _

theorem readOne_moved {dialect : Dialect} (h : dialect.Placeless move)
    (definitions : List Definition) (stop : Point) (prose : Prose) (cell : Cell)
    (rest : List Cell) :
    readOne dialect (definitions.map (Definition.moved move)) (stop.moved move)
        (prose.moved move) (cell.moved move) (rest.map (Cell.moved move)) =
      carry (Problem.moved move) (readMoved move)
        (readOne dialect definitions stop prose cell rest) := by
  have htext := addText_moved move prose
  have hrun (p : Cell → Bool) (hp : ∀ cell, p (cell.moved move) = p cell) :
      (cell.moved move :: rest.map (Cell.moved move)).takeWhile p =
        ((cell :: rest).takeWhile p).map (Cell.moved move) := by
    rw [← List.map_cons, List.takeWhile_map, show p ∘ Cell.moved move = p from funext hp]
  have hafter (p : Cell → Bool) : (cell.moved move :: rest.map (Cell.moved move)).drop
        (((cell :: rest).takeWhile p).map (Cell.moved move)).length =
      ((cell :: rest).drop ((cell :: rest).takeWhile p).length).map (Cell.moved move) := by
    rw [← List.map_cons, List.length_map, List.map_drop]
  simp only [readOne, Cell.isEnding_moved]
  split
  · exact ok_dropBlanks_moved move (addEnding_moved move prose [] cell) rest
  simp only [Cell.isBlank_moved, hrun _ (Cell.isBlank_moved move), hafter]
  split
  · cases (cell :: rest).drop ((cell :: rest).takeWhile Cell.isBlank).length with
    | nil => rfl
    | cons next more =>
      simp only [List.map_cons, Cell.isEnding_moved]
      split
      · exact ok_dropBlanks_moved move (addEnding_moved move prose _ next) more
      · exact ok_moved move (htext _) (next :: more)
  have hsame (c : Char) := hrun (fun cell => cell.char = c) fun cell => by simp
  have hplain := hrun (!isSpecial ·) fun cell => by rw [isSpecial_moved]
  simp only [Cell.char_moved, hsame, hplain, hafter, chars_moved]
  split
  -- An escape.
  case h_1 =>
    cases rest with
    | nil => exact ok_moved move (htext [cell]) _
    | cons next more =>
      simp only [List.map_cons, Cell.isEnding_moved, Cell.char_moved]
      split
      · exact ok_dropBlanks_moved move
          (add_moved move prose [.whole .lineBreak ⟨cell.start, next.start⟩] _) more
      · split
        · exact ok_moved move (htext [next]) _
        · exact ok_moved move (htext [cell]) (next :: more)
  -- A reference.
  case h_2 =>
    cases referenceAfter? (rest.map Cell.char) with
    | none => exact ok_moved move (htext [cell]) _
    | some found =>
      simp only [← List.map_drop, startOf_moved]
      exact ok_moved move (add_moved move prose [Piece.text _ ⟨_, _⟩] _) _
  -- Code.
  case h_3 =>
    have huntil (size fuel : Nat) := untilBackticks_moved move size fuel []
    simp only [List.map_nil] at huntil
    simp only [List.length_map, huntil]
    generalize untilBackticks _ _ [] _ = found
    cases found with
    | none => exact ok_moved move (htext _) _
    | some found =>
      obtain ⟨code, after⟩ := found
      simp only [Option.map_some, Prod.map_apply, codeValue_moved, startOf_moved]
      exact ok_moved move
        (add_moved move prose [.whole (.inlineCode _) ⟨cell.start, startOf after stop⟩] _) _
  case h_4 | h_5 =>
    split
    · exact readMarkup_moved move h stop prose cell (cell :: rest)
    · exact ok_moved move (htext [cell]) _
  -- The bracket of an image.
  case h_6 =>
    cases rest with
    | nil => exact ok_moved move (htext [cell]) _
    | cons next more =>
      simp only [List.map_cons, Cell.char_moved]
      split
      · exact ok_moved move (openBracket_moved move prose true [cell, next] more) _
      · exact ok_moved move (htext [cell]) (next :: more)
  -- Brackets.
  case h_7 =>
    exact ok_moved move (openBracket_moved move prose false [cell] rest) _
  case h_8 => exact congrArg Except.ok (closeBracket_moved move prose definitions stop cell rest)
  -- Runs of marks.
  case h_9 | h_10 | h_11 =>
    split
    · simp only [List.head?_map, Option.map_map, Function.comp_def, Cell.char_moved]
      exact ok_moved move (addRun_moved move prose _ _) _
    · exact ok_moved move (htext _) _
  -- Anything else.
  case h_12 =>
    simp only [List.isEmpty_map]
    split
    · exact ok_moved move (htext [cell]) _
    · exact ok_moved move (htext _) _

theorem readAll_moved {dialect : Dialect} (h : dialect.Placeless move)
    (definitions : List Definition) (stop : Point) (fuel : Nat) (prose : Prose)
    (cells : List Cell) :
    readAll dialect (definitions.map (Definition.moved move)) (stop.moved move) fuel
        (prose.moved move) (cells.map (Cell.moved move)) =
      carry (Problem.moved move) (moved move)
        (readAll dialect definitions stop fuel prose cells) := by
  induction fuel generalizing prose cells with
  | zero => rfl
  | succ fuel ih =>
    cases cells with
    | nil => rfl
    | cons cell rest =>
      simp only [List.map_cons, readAll, readOne_moved move h]
      exact carry_bind _ _ _ _ _ (fun found => ih found.1 found.2) _

theorem pieces_moved {dialect : Dialect} (h : dialect.Placeless move)
    (definitions : List Definition) (stop : Point) (cells : List Cell) :
    pieces dialect (definitions.map (Definition.moved move)) (stop.moved move)
        (cells.map (Cell.moved move)) =
      carry (Problem.moved move) (List.map (Piece.moved move))
        (pieces dialect definitions stop cells) := by
  simp only [pieces, dropBlanks_moved, List.length_map]
  rw [show ({} : Prose) = ({} : Prose).moved move from rfl, readAll_moved move h]
  exact carry_bind _ _ _ _ _
    (fun prose => by rw [finish_moved, Phrase.toPieces_moved]; rfl) _

end Prose

end

end Markdown

end PagePrelude
