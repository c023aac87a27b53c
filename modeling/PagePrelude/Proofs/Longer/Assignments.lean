import PagePrelude.Proofs.Longer.Chains

/-!
# Operators and assignments in a longer text

The rules of the grammar from operators up to assignments do the same in a longer text. Where an
arrow function is only tried, the text may be too short to tell.
-/

namespace PagePrelude.Module.Parser

section
variable {tail : Tail} {inside : Bool} {g g' : Grammar}

-- ---------------------------------------------------------------------------
-- Operators
-- ---------------------------------------------------------------------------

theorem requirePlace_still (code : Code) (start start' stop stop' : Nat) :
    Still tail Eq (requirePlace code start stop) (requirePlace code start' stop') :=
  .ite (.pure rfl) ((Fails.fail _ _ _).still (.fail _ _ _))

theorem requirePlace_through (code : Code) (start start' stop stop' : Nat) :
    Through tail inside Eq (requirePlace code start stop) (requirePlace code start' stop') :=
  .ite (fun _ => .pure rfl) fun _ => (Fails.fail _ _ _).through (.fail _ _ _)

theorem postfixed_takes (hg : g.Follows tail g') (scope : Scope) :
    Takes tail inside Eq (postfixed g scope) (postfixed g' scope) := by
  have hchain : Takes tail inside Eq _ _ := chain_takes hg scope
  refine ⟨.start fun _ _ => hchain.toUpto.bind fun code => .token (fun {t t'} hlexeme hbreak => ?_)
    fun {t t'} h => ?_, .start fun _ => hchain.needs.bind⟩
  · rw [hlexeme, hbreak]
    split
    · refine .ite (fun _ => .previous fun _ _ => (requirePlace_still ..).bind fun _ => ?_)
        fun _ => (Through.pure rfl).toUpto
      exact .next (.pure rfl)
    · exact (Through.pure rfl).toUpto
  · rcases t
    rcases t'
    cases h <;> exact .pure rfl

theorem prefixOperator?_seeks (scope : Scope) :
    Seeks tail (prefixOperator? scope) (prefixOperator? scope) where
  still := by
    refine Still.lexeme.chain (fun _ => rfl) fun lexeme _ heq => heq ▸ ?_
    split
    · exact .ite (.pure rfl) (.ite (.pure rfl) (.pure rfl))
    · exact .ite (.pure rfl) (.ite (.pure rfl) (.pure rfl))
    · exact .pure rfl
  nothing {s s'} h := by
    rcases s with ⟨⟨lexeme, _, _, _⟩, _⟩
    rcases s' with ⟨⟨lexeme', _, _, _⟩, _⟩
    change lexeme.Ends lexeme' at h
    cases h <;> exact ⟨rfl, rfl⟩

theorem applyOperators_through (shapes : List Shape) (operand : Code) (start start' : Nat) :
    Through tail inside Eq (applyOperators operand start shapes)
      (applyOperators operand start' shapes) := by
  induction shapes generalizing operand with
  | nil => exact .pure rfl
  | cons shape shapes ih =>
    unfold applyOperators
    split
    · exact .previous fun _ _ => (requirePlace_through ..).bind fun _ => ih _
    · exact ih _

theorem prefixOperators_through (scope : Scope) : Through tail inside Eq
    (repeatStep (fun shapes => prefixOperator? scope >>= fun
      | some shape => advance >>= fun _ => pure (.inl (shape :: shapes))
      | none => pure (.inr shapes)) ([] : List Shape))
    (repeatStep (fun shapes => prefixOperator? scope >>= fun
      | some shape => advance >>= fun _ => pure (.inl (shape :: shapes))
      | none => pure (.inr shapes)) []) := by
  refine .repeatStep (fun shapes => (prefixOperator?_seeks scope).bind (fun shape => ?_)
    (.pure rfl)) []
  exact .next (.pure rfl)

theorem checkPower_through : Through tail inside Eq checkPower checkPower :=
  (Through.mark "**").bind fun _ => .ite (fun _ => .place fun _ _ => .note ..) fun _ => .pure rfl

theorem unary_takes (hg : g.Follows tail g') (scope : Scope) :
    Takes tail inside Eq (unary g scope) (unary g' scope) := by
  have hoperand : Takes tail inside Eq _ _ := postfixed_takes hg scope
  have hshapes : Through tail inside Eq _ _ := prefixOperators_through scope
  refine ⟨hshapes.toUpto.bind fun shapes => .start fun _ _ => hoperand.through.bind fun operand =>
    (applyOperators_through ..).bind fun code => ?_,
    .after hshapes.stays fun _ => .start fun _ => hoperand.needs.bind⟩
  dsimp only
  split
  · exact checkPower_through.bind fun _ => .pure rfl
  · exact checkPower_through.bind fun _ => .pure rfl
  · exact .pure rfl

theorem operand_takes (hg : g.Follows tail g') (scope : Scope) (tight : Bool) :
    Takes tail inside Eq (operand g scope tight) (operand g' scope tight) := by
  have hunary : Takes tail inside Eq _ _ := unary_takes hg scope
  refine .lexeme (fun lexeme => ?_) hunary.needs hunary.needs fun _ => hunary.needs
  split
  · refine .check .unexpected .unexpected fun _ =>
      .next ((Through.word (by decide)).bind fun _ => ?_)
    exact .check (.failExpected _) (.failExpected _) fun _ => .pure rfl
  · exact hunary.toUpto

theorem rightMarks_line : ∀ mark ∈ rightMarks, '\n' ∉ mark.toList := by decide

theorem joinMarks_through : Through tail inside Eq joinMarks joinMarks := by
  refine .atMark ⟨fun s hs => ?_, fun {s s'} hs => ?_⟩ (.pure rfl)
  · rw [Parser.last, if_pos rfl, bind_apply, get_apply]
    dsimp only
    cases markOf rightMarks s.here <;> exact hs
  · rw [if_pos rfl, bind_apply, bind_apply, get_apply, get_apply]
    dsimp only
    rw [hs.here, markOf_tail tail rightMarks_line]
    cases markOf rightMarks s.here with
    | none => exact .inr ⟨_, _, rfl, rfl, .inl hs⟩
    | some found =>
      refine .inr ⟨_, _, rfl, rfl,
        .inl ⟨rfl, hs.afterBreak, hs.here, rfl, hs.filled, ?_, fun hend => ?_⟩⟩
      · simp [State.ended, State.take, Lexeme.isOpen]
      · cases hend

theorem binaryOperator?_through {α : Type} {rel : α → α → Prop} (scope : Scope)
    {f f' : Option String → Parser α}
    (hyes : ∀ operator, Upto tail inside rel (f (some operator)) (f' (some operator)))
    (hno : Through tail inside rel (f none) (f' none)) :
    Through tail inside rel (binaryOperator? scope >>= f) (binaryOperator? scope >>= f') := by
  unfold binaryOperator?
  rw [bind_assoc joinMarks, bind_assoc joinMarks]
  refine joinMarks_through.bind fun _ => Seeks.bind ⟨?_, ?_⟩ hyes hno
  · refine Still.lexeme.chain (fun _ => rfl) fun lexeme _ heq => heq ▸ ?_
    split
    · exact .pure rfl
    · refine Still.token.chain (fun _ => ⟨rfl, rfl⟩) ?_
      rintro t t' ⟨-, hbreak⟩
      rw [hbreak]
      exact .pure rfl
    · exact .pure rfl
  · intro s s' h
    rcases s with ⟨⟨lexeme, _, _, _⟩, _⟩
    rcases s' with ⟨⟨lexeme', _, _, _⟩, _⟩
    change lexeme.Ends lexeme' at h
    cases h <;> exact ⟨rfl, rfl⟩

theorem typeName_takes : Takes tail inside Eq typeName typeName := by
  refine .lexeme (fun lexeme => ?_) .unexpected .unexpected fun _ => .unexpected
  split
  · refine .check .unexpected .unexpected fun _ => .next (.repeatStep (fun code => ?_) _)
    exact (Through.eat ".").bind fun _ =>
      .ite (fun _ => anyName_takes.through.bind fun _ => .pure rfl) fun _ => .pure rfl
  · exact .next (.pure rfl)
  · exact .next (.pure rfl)
  · exact Through.unexpected.toUpto

/-- Two operands that are the same, wherever they start. -/
def OperandRel (operand operand' : Operand) : Prop :=
  operand.operator = operand'.operator ∧ operand.code = operand'.code

theorem operandStep_through (hg : g.Follows tail g') (scope : Scope) (first first' : Nat)
    {row row' : List Operand} (hrow : List.Forall₂ OperandRel row row') :
    Through tail inside (Sum.LiftRel (List.Forall₂ OperandRel) (List.Forall₂ OperandRel))
      (operandStep g scope first row) (operandStep g' scope first' row') := by
  refine binaryOperator?_through scope (fun operator => .next (.start fun n n' =>
    .ite (fun _ => ?_) fun _ => ?_)) (.pure (.inr (List.rel_reverse hrow)))
  · exact typeName_takes.through.bind fun _ => .previous fun _ _ => (Through.note ..).bind
      fun _ => .pure (.inl (.cons ⟨rfl, rfl⟩ hrow))
  · exact (operand_takes hg ..).through.bind fun _ => .pure (.inl (.cons ⟨rfl, rfl⟩ hrow))

theorem operandRel_refl (row : List Operand) : List.Forall₂ OperandRel row row :=
  List.forall₂_same.mpr fun _ _ => ⟨rfl, rfl⟩

theorem operation_takes (hg : g.Follows tail g') (scope : Scope) :
    Takes tail inside Eq (operation g scope) (operation g' scope) := by
  have hoperand : Takes tail inside Eq _ _ := operand_takes hg scope false
  refine ⟨.start fun n n' => hoperand.toUpto.bind fun operand => .bindRel
    (.repeatStepRel operandRel_refl operandRel_refl
      (fun _ _ h => operandStep_through hg scope n n' h) .nil)
    operandRel_refl fun row row' hrow => ?_, .start fun _ => hoperand.needs.bind⟩
  have hcodes : row.map (fun operand => (operand.operator, operand.code)) =
      row'.map fun operand => (operand.operator, operand.code) := by
    rw [← List.forall₂_eq_eq_eq, List.forall₂_map_left_iff, List.forall₂_map_right_iff]
    exact hrow.imp fun _ _ h => Prod.ext h.1 h.2
  rw [hcodes]
  exact .ite (fun _ => .previous fun _ _ => (Through.note ..).bind fun _ => .pure rfl)
    fun _ => .pure rfl

-- ---------------------------------------------------------------------------
-- Arrow functions
-- ---------------------------------------------------------------------------

/-- What is in brackets is looked at as far as the text goes. -/
theorem guessArrow_upto : Upto tail true Eq guessArrow guessArrow := by
  refine .next (.lexemeInside fun lexeme => ?_)
  split
  · refine Through.advance.bind fun _ => .lexemeInside fun lexeme => ?_
    split <;> exact .pure rfl
  · exact .pure rfl
  · exact .pure rfl
  · exact .pure rfl
  · refine .ite (fun _ => .pure rfl) fun _ => Through.advance.bind fun _ =>
      .lexemeInside fun lexeme => ?_
    split <;> exact .pure rfl
  · exact .pure rfl

theorem arrowRest_takes (hg : g.Follows tail g') (scope : Scope) (isAsync : Bool)
    (parameters : Code) : Takes tail inside Eq (arrowRest g scope isAsync parameters)
      (arrowRest g' scope isAsync parameters) := by
  refine ⟨.token fun {t t'} hlexeme hbreak => ?_, .token fun {t} _ => ?_⟩
  · rw [hlexeme, hbreak]
    refine (Through.optional (.note ..) fun _ => (Through.expect "=>").bind fun _ =>
      (Through.mark "\x7b").bind fun _ => .ite (fun _ => ?_) fun _ => ?_).toUpto
    · exact (block_takes hg _).through.bind fun _ => .pure rfl
    · exact (hg.assignment _).through.weaken.bind fun _ => .pure rfl
  · exact .ite (fun _ => .after (note_stays _ _ _) fun _ => (Needs.expect "=>").bind)
      fun _ => (Needs.expect "=>").bind

theorem arrowHead_takes (hg : g.Follows tail g') (scope : Scope) :
    Takes tail inside Eq (arrowHead g scope) (arrowHead g' scope) :=
  (parameters_takes hg _).bind fun _ => (Through.mark "=>").bind fun _ =>
    .ite (fun _ => .pure rfl) fun _ => .pure rfl

theorem bracketArrow?_through (hg : g.Follows tail g') (scope : Scope) (isAsync : Bool) :
    Through tail inside Eq (bracketArrow? g scope isAsync) (bracketArrow? g' scope isAsync) := by
  refine .atMark (.ite (fun _ => (Through.pure rfl).toUpto) fun _ => ?_) (.pure rfl)
  refine (Still.lookAhead guessArrow_upto).bind fun guess => ?_
  split
  · exact (Through.pure rfl).toUpto
  · exact (parameters_takes hg _).toUpto.bind fun _ =>
      (arrowRest_takes hg ..).through.bind fun _ => .pure rfl
  · refine (Upto.attempt (arrowHead_takes hg _).toUpto).weaken.bind fun found => ?_
    split
    · exact (arrowRest_takes hg ..).through.bind fun _ => .pure rfl
    · exact .pure rfl

theorem asyncArrow?_through (hg : g.Follows tail g') (scope : Scope) :
    Through tail inside Eq (asyncArrow? g scope) (asyncArrow? g' scope) := by
  refine .atWord (by decide) (.ite (fun _ => (Through.pure rfl).toUpto) fun _ => ?_) (.pure rfl)
  refine .peek fun {t t'} hlexeme hbreak => ?_
  rw [hlexeme, hbreak]
  refine .ite (fun _ => (Through.pure rfl).toUpto) fun _ => ?_
  split
  · exact (Upto.attempt (.next (bracketArrow?_through hg _ _))).weaken
  · have harrow : Upto tail true Eq
        (advance >>= fun _ => advance >>= fun _ => atMark "=>" >>= fun follows =>
          if !follows then unexpected else pure ())
        (advance >>= fun _ => advance >>= fun _ => atMark "=>" >>= fun follows =>
          if !follows then unexpected else pure ()) :=
      .next (Through.advance.bind fun _ => (Through.mark "=>").bind fun _ =>
        .ite (fun _ => .unexpected) fun _ => .pure rfl)
    refine .ite (fun _ => (Through.pure rfl).toUpto) fun _ => (Still.lookAhead harrow).bind
      fun _ => .ite (fun _ => (Through.pure rfl).toUpto) fun _ =>
      .next ((boundName_takes _).through.bind fun _ => ?_)
    exact (arrowRest_takes hg ..).through.bind fun _ => .pure rfl
  · exact (Through.pure rfl).toUpto

theorem arrow?_through (hg : g.Follows tail g') (scope : Scope) :
    Through tail inside Eq (arrow? g scope) (arrow? g' scope) := by
  refine (bracketArrow?_through hg _ _).bind fun found => ?_
  split
  · exact .pure rfl
  · exact asyncArrow?_through hg _

/-- No arrow function starts at the end of the text. -/
theorem arrow?_ended (g : Grammar) (scope : Scope) {s : State} (h : s.ended = true) :
    arrow? g scope s = .ok none s := by
  rcases Lexeme.isOpen_cases (ended_iff.mp h).2 with h | h | ⟨text, h⟩ <;>
    simp [arrow?, bracketArrow?, asyncArrow?, h]

-- ---------------------------------------------------------------------------
-- Assignments
-- ---------------------------------------------------------------------------

theorem yieldExpression_upto (hg : g.Follows tail g') (scope : Scope) :
    Upto tail inside Eq (yieldExpression g scope) (yieldExpression g' scope) := by
  have hvalue (all : Bool) : Through tail inside Eq
      (g.assignment scope >>= fun value => pure (Code.node (.yield all) [value]))
      (g'.assignment scope >>= fun value => pure (Code.node (.yield all) [value])) :=
    (hg.assignment _).through.weaken.bind fun _ => .pure rfl
  refine .next (.tokenApart (fun {t t'} hlexeme hbreak => ?_) (fun {t} hopen => ?_)
    fun {t t'} hlexeme hends hapart => ?_)
  · rw [hlexeme, hbreak]
    refine .ite (fun _ => (Through.pure rfl).toUpto) fun _ => ?_
    split
    · exact .next (hvalue _)
    · exact .ite (fun _ => (Through.pure rfl).toUpto) fun _ => (hvalue _).toUpto
    · exact (Through.pure rfl).toUpto
    · exact (hvalue _).toUpto
  · refine .ite (fun _ => .pure _) fun _ => ?_
    rcases Lexeme.isOpen_cases hopen with h | h | ⟨text, h⟩ <;> rw [h]
    · exact .pure _
    · exact (hvalue _).stays
    · exact (hvalue _).stays
  · rcases hapart with hend | hbreak
    · simp only [hlexeme, hend, ite_self]
      exact .pure rfl
    · simp only [hlexeme, hbreak, ite_self, if_true]
      exact .pure rfl

theorem conditionalRest_through (hg : g.Follows tail g') (scope : Scope) (test : Code) :
    Through tail inside Eq (conditionalRest g scope test) (conditionalRest g' scope test) := by
  refine (Through.eat "?").bind fun _ => .ite (fun _ => ?_) fun _ => .pure rfl
  refine (Through.followed (.closedBy ":" (hg.assignment _).through.bracketed
    fun _ => .pure rfl)).bind fun _ => ?_
  exact (hg.assignment _).through.weaken.bind fun _ => .pure rfl

theorem assignmentOperator?_seeks :
    Seeks tail assignmentOperator? assignmentOperator? where
  still := by
    refine Still.lexeme.chain (fun _ => rfl) fun lexeme _ heq => heq ▸ ?_
    split <;> exact .pure rfl
  nothing {s s'} h := by
    rcases s with ⟨⟨lexeme, _, _, _⟩, _⟩
    rcases s' with ⟨⟨lexeme', _, _, _⟩, _⟩
    change lexeme.Ends lexeme' at h
    cases h <;> exact ⟨rfl, rfl⟩

theorem claimCovers_quiet (start stop : Nat) : Quiet fun state =>
    { state with covers := state.covers.filter fun (a, b) => !(start ≤ a && b ≤ stop) } :=
  ⟨fun _ => rfl, fun _ => rfl, fun _ => rfl, fun _ => rfl, fun _ => rfl⟩

theorem requireTarget_still (code : Code) (start start' stop stop' : Nat) :
    Still tail Eq (requireTarget code start stop) (requireTarget code start' stop') :=
  .ite ((Fails.fail _ _ _).bind.still (Fails.fail _ _ _).bind) <|
    .ite ((Fails.fail _ _ _).bind.still (Fails.fail _ _ _).bind)
      ((claimCovers_quiet _ _).still (claimCovers_quiet _ _))

theorem requireTarget_through (code : Code) (start start' stop stop' : Nat) :
    Through tail inside Eq (requireTarget code start stop) (requireTarget code start' stop') :=
  .ite (fun _ => (Fails.fail _ _ _).bind.through (Fails.fail _ _ _).bind) fun _ =>
    .ite (fun _ => (Fails.fail _ _ _).bind.through (Fails.fail _ _ _).bind) fun _ =>
      (claimCovers_quiet _ _).through (claimCovers_quiet _ _)

theorem assignment_needs (hg : g.Follows tail g') (scope : Scope) :
    Needs (assignment g scope) := by
  refine .atWord fun s hs => ?_
  rw [Bool.false_and, if_neg Bool.false_ne_true, bind_apply, arrow?_ended g scope hs]
  have hoperation : Takes tail false Eq _ _ := operation_takes hg scope
  exact Needs.start (fun _ => hoperation.needs.bind) s hs

theorem assignment_takes (hg : g.Follows tail g') (scope : Scope) :
    Takes tail inside Eq (assignment g scope) (assignment g' scope) := by
  refine ⟨.atWord fun _ => .ite (fun _ => yieldExpression_upto hg _)
    fun _ => (arrow?_through hg _).toUpto.bind fun found => ?_, assignment_needs hg scope⟩
  split
  · exact .pure rfl
  refine .start fun n n' => (operation_takes hg _).through.bind fun code =>
    .previous fun m m' => (Through.mark "=>").bind fun arrow => ?_
  split
  · exact (arrowRest_takes hg ..).through
  refine assignmentOperator?_seeks.bind (fun operator => .ite (fun _ => ?_) fun _ => ?_)
    (conditionalRest_through hg _ _)
  · refine (requireTarget_still ..).bind fun _ => .next ?_
    exact (hg.assignment _).through.weaken.bind fun _ => .pure rfl
  · refine (requirePlace_still ..).bind fun _ => .next ?_
    exact (hg.assignment _).through.weaken.bind fun _ => .pure rfl

end

end PagePrelude.Module.Parser
