import PagePrelude.Markdown.Tag
import PagePrelude.Proofs.Moved.Lines

/-!
# Tags that stand elsewhere

A scan of cells that stand elsewhere consumes the same cells, and what it finds and what it
stops at goes along with them. That holds of each step of a scan, and so of the whole.
-/

namespace PagePrelude

def AttributeValue.moved (move : Move) : AttributeValue → AttributeValue
  | expression code start => expression code (start.moved move)
  | other => other

def Attribute.moved (move : Move) : Attribute → Attribute
  | property name value => property name (value.moved move)
  | spread code start => spread code (start.moved move)

namespace Markdown

/-- A fault with the places that it names. -/
def Fault.moved (move : Move) : Fault → Fault
  | wrongClosing tag opened start => wrongClosing tag opened (start.moved move)
  | notClosed opened start inside => notClosed opened (start.moved move) inside
  | closedWithin tag construct start => closedWithin tag construct (start.moved move)
  | secondLayout start stop => secondLayout (start.moved move) (stop.moved move)
  | other => other

def Problem.moved (move : Move) (problem : Problem) : Problem :=
  ⟨problem.fault.moved move, problem.place.moved move⟩

def Halt.moved (move : Move) : Halt → Halt
  | refused => refused
  | ended fault => ended (fault.map (Fault.moved move))
  | failed problem => failed (problem.moved move)

def Tag.moved (move : Move) (tag : Tag) : Tag :=
  { tag with
    attributes := tag.attributes.map (Attribute.moved move)
    span := tag.span.moved move
    excess := tag.excess.map (Problem.moved move) }

def Scanner.Expression.moved (move : Move) (found : Expression) : Expression :=
  ⟨found.code, found.start.moved move, found.stop.moved move⟩

/-- Dialects that read a document in the same way wherever it stands: braces alone end
expressions, and what is said about module code names no place and keeps to the move. -/
structure Dialect.Placeless (move : Move) (dialect : Dialect) : Prop where
  judge : dialect.judge = none
  unfinished : ∀ {value fault},
    dialect.judgeModule value = .unfinished fault → fault.moved move = fault
  rejected : ∀ {value fault offset},
    dialect.judgeModule value = .rejected fault offset → fault.moved move = fault
  accepted : ∀ {value}, dialect.judgeModule value = .accepted → move.keepsCode value = true

def carry {ε α β : Type} (problem : ε → ε) (result : α → β) : Except ε α → Except ε β
  | .ok value => .ok (result value)
  | .error fault => .error (problem fault)

section
variable {ε α β γ δ : Type} (problem : ε → ε) (result : α → β)

@[simp] theorem carry_ok (value : α) :
    carry problem result (.ok value) = .ok (result value) := rfl

@[simp] theorem carry_error (fault : ε) :
    carry problem result (.error fault) = .error (problem fault) := rfl

/-- A reading after another goes along if both do. -/
theorem carry_bind (next : β → Except ε δ) (after : α → Except ε γ) (last : γ → δ)
    (h : ∀ value, next (result value) = carry problem last (after value)) (outcome : Except ε α) :
    (carry problem result outcome >>= next) = carry problem last (outcome >>= after) := by
  cases outcome with
  | ok value => exact h value
  | error fault => rfl

theorem carry_map (after : α → γ) (next : β → δ) (last : γ → δ)
    (h : ∀ value, next (result value) = last (after value)) (outcome : Except ε α) :
    (next <$> carry problem result outcome) = carry problem last (after <$> outcome) := by
  cases outcome with
  | ok value => exact congrArg Except.ok (h value)
  | error fault => rfl

end

namespace Scanner

/-- A scan and the same scan elsewhere, which gives a result that goes along. -/
def Steady {α β : Type} (move : Move) (result : α → β) (scan : Scanner α)
    (elsewhere : Scanner β) : Prop :=
  ∀ cells, elsewhere.run (cells.map (Cell.moved move)) =
    carry (Halt.moved move) (Prod.map result (List.map (Cell.moved move))) (scan.run cells)

section
variable {α β γ δ : Type} {move : Move} {result : α → β} {last : γ → δ}

-- ---------------------------------------------------------------------------
-- Steps of a scan
-- ---------------------------------------------------------------------------

theorem steady_pure (value : α) : Steady move result (pure value) (pure (result value)) :=
  fun _ => rfl

theorem steady_throw {halt halt' : Halt} (h : halt' = halt.moved move) :
    Steady move result (throw halt) (throw halt') := by
  subst h
  exact fun _ => rfl

theorem Steady.bind {scan : Scanner α} {elsewhere : Scanner β} {after : α → Scanner γ}
    {next : β → Scanner δ} (h : Steady move result scan elsewhere)
    (hnext : ∀ value, Steady move last (after value) (next (result value))) :
    Steady move last (scan >>= after) (elsewhere >>= next) := by
  intro cells
  rw [StateT.run_bind, StateT.run_bind, h cells]
  exact carry_bind _ _ _ _ _ (fun found => hnext found.1 found.2) _

theorem Steady.map {scan : Scanner α} {elsewhere : Scanner β} {after : α → γ} {next : β → δ}
    (h : Steady move result scan elsewhere)
    (hnext : ∀ value, next (result value) = last (after value)) :
    Steady move last (after <$> scan) (next <$> elsewhere) := by
  intro cells
  rw [StateT.run_map, StateT.run_map, h cells]
  exact carry_map _ _ _ _ _ (fun found => by simp [hnext]) _

theorem Steady.ite {c : Prop} [Decidable c] {scan other : Scanner α}
    {elsewhere otherElsewhere : Scanner β} (h : c → Steady move result scan elsewhere)
    (hother : ¬c → Steady move result other otherElsewhere) :
    Steady move result (if c then scan else other) (if c then elsewhere else otherElsewhere) := by
  split
  · exact h ‹_›
  · exact hother ‹_›

variable (move)

theorem steady_get : Steady move (List.map (Cell.moved move)) get get :=
  fun _ => rfl

theorem steady_set (cells : List Cell) :
    Steady move id (set cells) (set (cells.map (Cell.moved move))) :=
  fun _ => rfl

theorem steady_peek? : Steady move (Option.map (Cell.moved move)) peek? peek? := by
  intro cells
  cases cells <;> rfl

theorem steady_skip (count : Nat) : Steady move id (skip count) (skip count) := by
  intro cells
  exact congrArg (fun rest => Except.ok ((), rest)) List.map_drop.symm

theorem steady_takeWhile {p : Cell → Bool} (h : ∀ cell, p (cell.moved move) = p cell) :
    Steady move (List.map (Cell.moved move)) (takeWhile p) (takeWhile p) := by
  have hp : p ∘ Cell.moved move = p := funext h
  intro cells
  simp [takeWhile, modifyGet, MonadStateOf.modifyGet, StateT.modifyGet, StateT.run, pure,
    Except.pure, List.takeWhile_map, List.dropWhile_map, hp]

theorem steady_failAt (fault : Fault) (cell : Cell) (h : fault.moved move = fault) :
    Steady move result (failAt fault cell) (failAt fault (cell.moved move)) :=
  steady_throw (by simp [Halt.moved, Problem.moved, h])

theorem steady_unexpected (place : TagPlace) (cell : Cell) :
    Steady move result (unexpected place cell) (unexpected place (cell.moved move)) := by
  simpa [unexpected] using steady_failAt move (.unexpected place cell.char) cell rfl

/-- Nothing follows a refusal. -/
theorem steady_unexpected_bind (place : TagPlace) (cell : Cell) (after : α → Scanner γ)
    (next : β → Scanner δ) :
    Steady move last (unexpected place cell >>= after)
      (unexpected place (cell.moved move) >>= next) :=
  fun _ => rfl

theorem steady_visible : Steady move (Cell.moved move) visible visible := by
  refine (steady_takeWhile move fun cell => by simp).bind fun _ => ?_
  refine (steady_peek? move).bind fun found => ?_
  cases found with
  | none => exact steady_throw rfl
  | some cell => exact steady_pure cell

-- ---------------------------------------------------------------------------
-- Expressions
-- ---------------------------------------------------------------------------

theorem untilBrace_moved (depth : Nat) (cells : List Cell) :
    untilBrace depth (cells.map (Cell.moved move)) =
      (untilBrace depth cells).map (Prod.map (List.map (Cell.moved move))
        (Prod.map (Cell.moved move) (List.map (Cell.moved move)))) := by
  fun_induction untilBrace depth cells <;>
    simp_all [untilBrace, Function.comp_def, Prod.map]

theorem steady_expression {dialect : Dialect} (h : dialect.Placeless move) (role : ExpressionRole)
    (brace : Cell) :
    Steady move (Expression.moved move) (expression dialect role brace)
      (expression dialect role (brace.moved move)) := by
  simp only [expression, h.judge]
  refine (steady_skip move 1).bind fun _ => ?_
  refine (steady_get move).bind fun cells => ?_
  rw [untilBrace_moved]
  cases untilBrace 0 cells with
  | none => exact steady_throw rfl
  | some found =>
    obtain ⟨code, close, rest⟩ := found
    simp only [Option.map_some, Prod.map_apply, pure_bind, textOf_moved, Cell.stop_moved]
    exact (steady_set move rest).bind fun _ => steady_pure (Expression.mk _ _ _)

-- ---------------------------------------------------------------------------
-- Names
-- ---------------------------------------------------------------------------

@[simp] theorem startsName_moved (cell : Cell) :
    startsName (cell.moved move) = startsName cell := by
  simp [startsName]

@[simp] theorem continuesName_moved (cell : Cell) :
    continuesName (cell.moved move) = continuesName cell := by
  simp [continuesName]

@[simp] theorem endsName_moved (cell : Cell) : endsName (cell.moved move) = endsName cell := by
  simp [endsName]

theorem steady_name (ends : List Char) (inside : TagPlace) :
    Steady move id (name ends inside) (name ends inside) := by
  refine (steady_takeWhile move (continuesName_moved move)).bind fun word => ?_
  refine (steady_peek? move).bind fun found => ?_
  rw [textOf_moved]
  cases found with
  | none => exact steady_pure _
  | some cell =>
    simp only [Option.map_some, Cell.char_moved]
    refine Steady.ite (fun _ => ?_) fun _ => steady_pure _
    exact steady_unexpected_bind move inside cell _ _

theorem steady_namePart (mark : Char) (ends : List Char) (first inside : TagPlace) :
    Steady move id (namePart mark ends first inside) (namePart mark ends first inside) := by
  have hname : Steady move id (do return mark.toString ++ (← name ends inside))
      (do return mark.toString ++ (← name ends inside)) :=
    (steady_name move ends inside).bind fun part => steady_pure _
  refine (steady_skip move 1).bind fun _ => ?_
  refine (steady_visible move).bind fun cell => ?_
  simp only [startsName_moved]
  refine Steady.ite (fun _ => ?_) fun _ => hname
  exact steady_unexpected_bind move first cell _ _

theorem steady_members (fuel : Nat) (text : String) :
    Steady move id (members fuel text) (members fuel text) := by
  induction fuel generalizing text with
  | zero => exact steady_pure text
  | succ fuel ih =>
    refine (steady_visible move).bind fun cell => ?_
    simp only [Cell.char_moved]
    refine Steady.ite (fun _ => ?_) fun _ => steady_pure text
    exact (steady_namePart move _ _ _ _).bind fun part => ih _

theorem steady_elementName : Steady move id elementName elementName := by
  refine (steady_name move _ _).bind fun first => ?_
  refine (steady_visible move).bind fun cell => ?_
  simp only [Cell.char_moved, endsName_moved]
  refine Steady.ite (fun _ => ?_) fun _ => Steady.ite (fun _ => ?_) fun _ =>
    Steady.ite (fun _ => steady_pure _) fun _ => steady_unexpected move _ cell
  · refine (steady_get move).bind fun rest => ?_
    rw [List.length_map]
    refine (steady_members move _ _).bind fun text => (steady_visible move).bind fun cell => ?_
    simp only [endsName_moved]
    exact Steady.ite (fun _ => steady_pure _) fun _ => steady_unexpected move _ cell
  · refine (steady_namePart move _ _ _ _).bind fun part => (steady_visible move).bind fun cell => ?_
    simp only [endsName_moved]
    exact Steady.ite (fun _ => steady_pure _) fun _ => steady_unexpected move _ cell

-- ---------------------------------------------------------------------------
-- Attributes
-- ---------------------------------------------------------------------------

theorem steady_attributeName :
    Steady move (Prod.map id (Cell.moved move)) attributeName attributeName := by
  refine (steady_name move _ _).bind fun first => ?_
  refine (steady_visible move).bind fun cell => ?_
  simp only [Cell.char_moved, endsName_moved]
  refine Steady.ite (fun _ => ?_) fun _ =>
    Steady.ite (fun _ => steady_pure _) fun _ => steady_unexpected move _ cell
  refine (steady_namePart move _ _ _ _).bind fun part => (steady_visible move).bind fun cell => ?_
  simp only [Cell.char_moved, endsName_moved]
  exact Steady.ite (fun _ => steady_pure _) fun _ => steady_unexpected move _ cell

theorem steady_quoted (quote : Cell) :
    Steady move id (quoted quote) (quoted (quote.moved move)) := by
  simp only [quoted, Cell.char_moved]
  refine (steady_skip move 1).bind fun _ => ?_
  refine (steady_takeWhile move fun cell => by simp).bind fun text => ?_
  refine (steady_peek? move).bind fun found => ?_
  cases found with
  | none =>
    simp only [Option.map_none, ← List.map_reverse, List.dropWhile_map, List.head?_map,
      Option.any_map, Function.comp_def, Cell.isBlank_moved, Cell.isEnding_moved]
    exact steady_throw (by split <;> rfl)
  | some cell =>
    rw [textOf_moved]
    exact (steady_skip move 1).bind fun _ => steady_pure _

theorem steady_attributeValue {dialect : Dialect} (h : dialect.Placeless move) (next : Cell) :
    Steady move (AttributeValue.moved move) (attributeValue dialect next)
      (attributeValue dialect (next.moved move)) := by
  simp only [attributeValue, Cell.char_moved]
  refine Steady.ite (fun _ => steady_pure _) fun _ => ?_
  refine (steady_skip move 1).bind fun _ => (steady_visible move).bind fun cell => ?_
  simp only [Cell.char_moved]
  refine Steady.ite (fun _ => ?_) fun _ => Steady.ite (fun _ => ?_) fun _ =>
    steady_unexpected move _ cell
  · exact (steady_quoted move cell).bind fun text => steady_pure (AttributeValue.literal text)
  · exact (steady_expression move h _ cell).bind fun found =>
      steady_pure (AttributeValue.expression found.code found.start)

theorem steady_tagAttribute {dialect : Dialect} (h : dialect.Placeless move) (cell : Cell) :
    Steady move (Attribute.moved move) (tagAttribute dialect cell)
      (tagAttribute dialect (cell.moved move)) := by
  simp only [tagAttribute, Cell.char_moved]
  refine Steady.ite (fun _ => ?_) fun _ => ?_
  · exact (steady_expression move h _ cell).bind fun found =>
      steady_pure (Attribute.spread found.code found.start)
  · refine (steady_attributeName move).bind fun found => ?_
    exact (steady_attributeValue move h found.2).bind fun value =>
      steady_pure (Attribute.property found.1 value)

abbrev attributesMoved : List (Attribute × Cell) × Cell → List (Attribute × Cell) × Cell :=
  Prod.map (List.map (Prod.map (Attribute.moved move) (Cell.moved move))) (Cell.moved move)

theorem steady_tagAttributes {dialect : Dialect} (h : dialect.Placeless move) (fuel : Nat) :
    Steady move (attributesMoved move) (tagAttributes dialect fuel)
      (tagAttributes dialect fuel) := by
  induction fuel with
  | zero => exact steady_throw rfl
  | succ fuel ih =>
    refine (steady_visible move).bind fun cell => ?_
    simp only [Cell.char_moved, startsName_moved]
    refine Steady.ite (fun _ => steady_pure ([], cell)) fun _ => Steady.ite (fun _ => ?_) fun _ =>
      steady_unexpected move _ cell
    refine (steady_tagAttribute move h cell).bind fun first => ih.bind fun found => ?_
    exact steady_pure ((first, cell) :: found.1, found.2)

-- ---------------------------------------------------------------------------
-- Tags
-- ---------------------------------------------------------------------------

theorem steady_tagEnd (cell : Cell) :
    Steady move (Prod.map id (Cell.moved move)) (tagEnd cell) (tagEnd (cell.moved move)) := by
  simp only [tagEnd, Cell.char_moved]
  refine Steady.ite (fun _ => ?_) fun _ => steady_pure (false, cell)
  refine (steady_skip move 1).bind fun _ => (steady_visible move).bind fun bracket => ?_
  simp only [Cell.char_moved]
  exact Steady.ite (fun _ => steady_pure (true, bracket)) fun _ => steady_unexpected move _ bracket

theorem steady_tagName (closing : Bool) :
    Steady move id (tagName closing) (tagName closing) := by
  refine (steady_visible move).bind fun cell => ?_
  simp only [Cell.char_moved, startsName_moved]
  exact Steady.ite (fun _ => steady_pure none) fun _ => Steady.ite
    (fun _ => (steady_elementName move).map fun _ => rfl) fun _ => steady_unexpected move _ cell

theorem excess?_moved (closing selfClosing : Bool) (attributes : List (Attribute × Cell))
    (last : Cell) :
    excess? closing selfClosing
        (attributes.map (Prod.map (Attribute.moved move) (Cell.moved move))) (last.moved move) =
      (excess? closing selfClosing attributes last).map (Problem.moved move) := by
  cases closing <;> cases attributes <;> cases selfClosing <;> rfl

theorem steady_tagRest {dialect : Dialect} (h : dialect.Placeless move) (bracket : Cell)
    (closing : Bool) :
    Steady move (Tag.moved move) (tagRest dialect bracket closing)
      (tagRest dialect (bracket.moved move) closing) := by
  refine (steady_tagName move closing).bind fun name => (steady_get move).bind fun rest => ?_
  rw [List.length_map]
  refine (steady_tagAttributes move h _).bind fun found => ?_
  refine (steady_tagEnd move found.2).bind fun close => (steady_skip move 1).bind fun _ => ?_
  have hnames : (found.1.map (Prod.map (Attribute.moved move) (Cell.moved move))).map Prod.fst =
      (found.1.map Prod.fst).map (Attribute.moved move) := by simp
  simp only [excess?_moved, hnames, Cell.stop_moved]
  exact steady_pure (Tag.mk _ _ _ _ _ _)

theorem steady_tag {dialect : Dialect} (h : dialect.Placeless move) (bracket : Cell) :
    Steady move (Tag.moved move) (tag dialect bracket) (tag dialect (bracket.moved move)) := by
  refine (steady_skip move 1).bind fun _ => (steady_peek? move).bind fun found => ?_
  cases found with
  | none => exact steady_throw rfl
  | some cell =>
    simp only [Option.map_some, Cell.char_moved]
    refine Steady.ite (fun _ => steady_throw rfl) fun _ => Steady.ite (fun _ => ?_) fun _ =>
      steady_tagRest move h bracket false
    exact (steady_skip move 1).bind fun _ => steady_tagRest move h bracket true

end

end Scanner

namespace Tag

variable (move : Move) (tag : Tag)

@[simp] theorem name_moved : (tag.moved move).name = tag.name := by cases tag; rfl
@[simp] theorem closing_moved : (tag.moved move).closing = tag.closing := by cases tag; rfl
@[simp] theorem selfClosing_moved : (tag.moved move).selfClosing = tag.selfClosing := by
  cases tag; rfl
@[simp] theorem span_moved : (tag.moved move).span = tag.span.moved move := rfl
@[simp] theorem excess_moved :
    (tag.moved move).excess = tag.excess.map (Problem.moved move) := rfl

@[simp] theorem text_moved : (tag.moved move).text = tag.text := by
  cases tag; rfl

end Tag

end Markdown

end PagePrelude
