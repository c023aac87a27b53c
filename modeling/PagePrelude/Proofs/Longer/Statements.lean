import PagePrelude.Proofs.Longer.Assignments
import PagePrelude.Proofs.Longer.Declarations

/-!
# Statements in a longer text

Statements do the same in a longer text, where what is only tried did not come to the end.
-/

namespace PagePrelude.Module.Parser

section
variable {tail : Tail} {inside : Bool} {g g' : Grammar}

theorem body_takes (hg : g.Follows tail g') (scope : Scope) :
    Takes tail inside Eq (body g scope) (body g' scope) := by
  refine .start fun _ _ => (hg.statement _ _).weaken.bind fun item => ?_
  split
  · exact .previous fun _ _ =>
      ((noteAll_quiet ..).through (noteAll_quiet ..)).bind fun _ => .pure rfl
  · exact .pure rfl

theorem bracketed_takes (hg : g.Follows tail g') (scope : Scope) :
    Takes tail inside Eq (bracketed g scope) (bracketed g' scope) :=
  ⟨(Through.expect "(").toUpto.bind fun _ => .closedBy ")" (expression_takes hg _).through
    fun _ => .pure rfl, (Needs.expect "(").bind⟩

theorem ifStatement_upto (hg : g.Follows tail g') (scope : Scope) :
    Upto tail inside Eq (ifStatement g scope) (ifStatement g' scope) := by
  refine .next ((Through.followed (bracketed_takes hg _).through).bind fun _ =>
    (body_takes hg _).through.bind fun _ => (Through.eatWord (by decide)).bind fun _ =>
    .ite (fun _ => ?_) fun _ => .pure rfl)
  exact (body_takes hg _).through.bind fun _ => .pure rfl

theorem doStatement_upto (hg : g.Follows tail g') (scope : Scope) :
    Upto tail inside Eq (doStatement g scope) (doStatement g' scope) := by
  refine .next ((Through.followed ((body_takes hg _).through.bind fun _ =>
    (Through.expectWord (by decide)).bind fun _ => .pure rfl)).bind fun _ => ?_)
  exact (bracketed_takes hg _).through.bind fun _ => (Through.eat ";").bind fun _ => .pure rfl

-- ---------------------------------------------------------------------------
-- Loops
-- ---------------------------------------------------------------------------

theorem headEnd_through {part part' : Parser Code} (h : Through tail true Eq part part') :
    Through tail inside Eq (headEnd part) (headEnd part') :=
  .followed (.closedBy ")" h fun _ => .pure rfl)

theorem checkAwait_through (isAwait : Bool) :
    Through tail inside Eq (checkAwait isAwait) (checkAwait isAwait) :=
  .ite (fun _ => .previous fun _ _ => .previous fun _ _ => .note ..) fun _ => .pure rfl

theorem loopOver?_through (hg : g.Follows tail g') (scope : Scope) (isAwait : Bool)
    (loopVariable : Code) : Through tail inside Eq (loopOver? g scope isAwait loopVariable)
      (loopOver? g' scope isAwait loopVariable) := by
  refine (Through.eatWord (by decide)).bind fun _ => .ite (fun _ => ?_) fun _ =>
    (Through.eatWord (by decide)).bind fun _ => .ite (fun _ => ?_) fun _ => .pure rfl
  · exact (headEnd_through (hg.assignment _).through.bracketed).bind fun _ =>
      (body_takes hg _).through.bind fun _ => .pure rfl
  · exact (headEnd_through (expression_takes hg _).through).bind fun _ =>
      (checkAwait_through _).bind fun _ => (body_takes hg _).through.bind fun _ => .pure rfl

theorem headPart_through (hg : g.Follows tail g') (scope : Scope) (mark : String) :
    Through tail inside Eq (headPart g scope mark) (headPart g' scope mark) :=
  (Through.mark mark).bind fun _ => .ite (fun _ => .pure rfl)
    fun _ => (expression_takes hg _).through

theorem forRest_through (hg : g.Follows tail g') (scope : Scope) (isAwait : Bool)
    (first : Code) : Through tail inside Eq (forRest g scope isAwait first)
      (forRest g' scope isAwait first) := by
  refine (Through.followed ((Through.expect ";").bind fun _ => .closedBy ";"
    (headPart_through hg ..) fun _ => .pure rfl)).bind fun _ => ?_
  exact (headEnd_through (headPart_through hg ..)).bind fun _ =>
    (checkAwait_through _).bind fun _ => (body_takes hg _).through.bind fun _ => .pure rfl

theorem loopRest_through (hg : g.Follows tail g') (scope : Scope) (isAwait : Bool)
    (first : Code) : Through tail inside Eq (loopRest g scope isAwait first)
      (loopRest g' scope isAwait first) := by
  refine (loopOver?_through hg ..).bind fun found => ?_
  split
  · exact .pure rfl
  · exact forRest_through hg ..

theorem usingDeclares_still : Still tail Eq usingDeclares usingDeclares := by
  refine Still.peek.chain (fun _ => ⟨rfl, rfl⟩) ?_
  rintro t t' ⟨hlexeme, hbreak⟩
  rw [hlexeme, hbreak]
  split <;> exact .pure rfl

theorem awaitUsingDeclares_still (scope : Scope) :
    Still tail Eq (awaitUsingDeclares scope) (awaitUsingDeclares scope) := by
  refine .ite (.pure rfl) ((Still.lookAhead (.next (.token (fun {t t'} hlexeme hbreak => ?_)
    fun {t t'} h => ?_))).chain (fun _ => rfl) fun _ _ h => h ▸ .pure rfl)
  · rw [hlexeme, hbreak]
    exact .ite (fun _ => usingDeclares_still.upto) fun _ => (Through.pure rfl).toUpto
  · rcases t
    rcases t'
    cases h <;> exact .pure rfl

theorem loopKeyword?_still (scope : Scope) (word : String) :
    Still tail Eq (loopKeyword? scope word) (loopKeyword? scope word) := by
  unfold loopKeyword?
  split
  · exact .pure rfl
  · exact .pure rfl
  · refine Still.peek.chain (fun _ => ⟨rfl, rfl⟩) ?_
    rintro t t' ⟨hlexeme, -⟩
    rw [hlexeme]
    exact .pure rfl
  · exact usingDeclares_still.chain (fun _ => rfl) fun _ _ h => h ▸ .pure rfl
  · exact (awaitUsingDeclares_still _).chain (fun _ => rfl) fun _ _ h => h ▸ .pure rfl
  · exact .pure rfl

theorem loopDeclaring_upto (hg : g.Follows tail g') (scope : Scope) (isAwait : Bool)
    (keyword : String) : Upto tail inside Eq (loopDeclaring g scope isAwait keyword)
      (loopDeclaring g' scope isAwait keyword) := by
  refine .token fun {t t'} _ _ => .ite (fun _ => .nextTwo ?_) fun _ => .next (Takes.through ?_)
  all_goals
    refine (declarators_takes hg ..).head.bind fun list => (Through.word (by decide)).bind fun _ =>
      (Through.word (by decide)).bind fun _ => .ite (fun _ => .previous fun _ _ => ?_) fun _ =>
      (Through.word (by decide)).bind fun _ => .ite (fun _ => .previous fun _ _ => ?_) fun _ => ?_
    · exact (Fails.fail _ _ _).bind.through (Fails.fail _ _ _).bind
    · exact (Through.note ..).bind fun _ => loopRest_through hg ..
    · exact loopRest_through hg ..

theorem loopAssigning_takes (hg : g.Follows tail g') (scope : Scope) (isAwait : Bool) :
    Takes tail inside Eq (loopAssigning g scope isAwait) (loopAssigning g' scope isAwait) := by
  have hhead : Takes tail inside Eq _ _ := (expression_takes hg { scope with hasIn := false }).head
  refine ⟨.token fun {t t'} hlexeme _ => hhead.toUpto.bind fun code => .previous fun _ _ => ?_,
    .token fun _ => hhead.needs.bind⟩
  rw [hlexeme]
  refine (Through.word (by decide)).bind fun _ => (Through.word (by decide)).bind fun _ =>
    .ite (fun _ => (Through.word (by decide)).bind fun _ => .optional (.note ..) fun _ => ?_)
      fun _ => loopRest_through hg ..
  exact (requireTarget_through ..).bind fun _ => loopRest_through hg ..

theorem forStatement_upto (hg : g.Follows tail g') (scope : Scope) :
    Upto tail inside Eq (forStatement g scope) (forStatement g' scope) := by
  have hassigning (isAwait : Bool) : Takes tail inside Eq _ _ :=
    loopAssigning_takes hg scope isAwait
  refine .next (.place fun _ _ => (Through.eatWord (by decide)).bind fun isAwait =>
    .optional (.note ..) fun _ => (Through.expect "(").bind
    fun _ => .atMark (forRest_through hg ..).toUpto (.of_needs (.lexeme fun lexeme => ?_) ?_))
  · split
    · refine (loopKeyword?_still _ _).bind fun keyword => ?_
      split
      · exact loopDeclaring_upto hg ..
      · exact (hassigning _).toUpto
    · exact (hassigning _).toUpto
  · exact .lexeme (hassigning _).needs (hassigning _).needs fun _ => (hassigning _).needs

theorem whileStatement_upto (hg : g.Follows tail g') (scope : Scope) :
    Upto tail inside Eq (whileStatement g scope) (whileStatement g' scope) :=
  .next ((Through.followed (bracketed_takes hg _).through).bind fun _ =>
    (body_takes hg _).through.bind fun _ => .pure rfl)

theorem withStatement_upto (hg : g.Follows tail g') (scope : Scope) :
    Upto tail inside Eq (withStatement g scope) (withStatement g' scope) :=
  .next ((Through.followed (bracketed_takes hg _).through).bind fun _ =>
    (body_takes hg _).through.bind fun _ => .pure rfl)

-- ---------------------------------------------------------------------------
-- Jumps
-- ---------------------------------------------------------------------------

theorem jumpStatement_upto (keyword : String) :
    Upto tail inside Eq (jumpStatement keyword) (jumpStatement keyword) := by
  have hend (label : Code) : Through tail inside Eq
      (endStatement >>= fun _ => pure (Code.node (.jump keyword) [label]))
      (endStatement >>= fun _ => pure (Code.node (.jump keyword) [label])) :=
    Through.endStatement.bind fun _ => .pure rfl
  refine .next (.tokenApart (fun {t t'} hlexeme hbreak => ?_) (fun {t} hopen => ?_)
    fun {t t'} hlexeme hends hapart => ?_)
  · rw [hlexeme, hbreak]
    split
    · exact .ite (fun _ => (hend _).toUpto) fun _ => .next (hend _)
    · exact (hend _).toUpto
  · rcases Lexeme.isOpen_cases hopen with h | h | ⟨text, h⟩ <;> rw [h] <;> exact (hend _).stays
  · rw [hlexeme]
    rcases hapart with hnone | hbreak
    · rw [hnone]
      exact hend _
    · rw [hbreak]
      generalize t'.lexeme = lexeme' at hends
      cases hends <;> exact hend _

theorem returnStatement_upto (hg : g.Follows tail g') (scope : Scope) :
    Upto tail inside Eq (returnStatement g scope) (returnStatement g' scope) := by
  have hend (value : Code) : Through tail inside Eq
      (endStatement >>= fun _ => pure (Code.node .returning [value]))
      (endStatement >>= fun _ => pure (Code.node .returning [value])) :=
    Through.endStatement.bind fun _ => .pure rfl
  have hvalue : Through tail inside Eq _ _ := (expression_takes hg scope.inner).through.bind hend
  refine .token fun {_ _} _ _ => .optional (.note ..) fun _ => .next <|
    .tokenApart (fun {t t'} hlexeme hbreak => ?_)
      (fun {t} _ => .ite (fun _ => (hend _).stays) fun _ => hvalue.stays)
      fun {t t'} hlexeme _ hapart => ?_
  · rw [hlexeme, hbreak]
    exact .ite (fun _ => (hend _).toUpto) fun _ => hvalue.toUpto
  · have hempty : (t'.afterBreak || t'.lexeme == .mark ";" || t'.lexeme == .mark "\x7d" ||
        t'.lexeme == .endOfText) = true := by
      rcases hapart with hnone | hbreak
      · simp [hnone]
      · simp [hbreak]
    rw [hempty, hlexeme, if_pos (by simp), if_pos rfl]
    exact hend _

theorem throwStatement_upto (hg : g.Follows tail g') (scope : Scope) :
    Upto tail inside Eq (throwStatement g scope) (throwStatement g' scope) := by
  have hvalue : Takes tail inside Eq _ _ := (expression_takes hg scope.inner).bind fun value =>
    Through.endStatement.bind fun _ => .pure (Eq.refl (Code.node .throwing [value]))
  refine .next (Takes.through ⟨.token fun {t t'} _ hbreak => ?_, .token fun _ => ?_⟩)
  · rw [hbreak]
    exact .ite (fun _ => .previous fun _ _ => (Still.note ..).bind fun _ => hvalue.toUpto)
      fun _ => hvalue.toUpto
  · exact .ite (fun _ => .previous fun _ => .after (note_stays _ _ _) fun _ => hvalue.needs)
      fun _ => hvalue.needs

-- ---------------------------------------------------------------------------
-- Statements with blocks
-- ---------------------------------------------------------------------------

theorem switchCase_through (hg : g.Follows tail g') (scope : Scope) :
    Through tail true Eq (switchCase g scope) (switchCase g' scope) := by
  refine (Through.eatWord (by decide)).bind fun _ => .ite (fun _ => (Through.expect ":").bind
    fun _ => ?_) fun _ => (Through.followed (Through.expectWord (by decide))).bind fun _ =>
    .closedBy ":" (expression_takes hg _).through fun _ => ?_
  all_goals
    refine (Through.repeatStep (fun statements => ?_) []).bind fun _ => .pure rfl
    refine (Through.mark "\x7d").bind fun _ => (Through.word (by decide)).bind fun _ =>
      (Through.word (by decide)).bind fun _ => .lexemeInside fun _ => .ite (fun _ => .pure rfl)
      fun _ => ?_
    exact (hg.statement _ _).through.bracketed.bind fun _ => .pure rfl

theorem switchStatement_upto (hg : g.Follows tail g') (scope : Scope) :
    Upto tail inside Eq (switchStatement g scope) (switchStatement g' scope) := by
  refine .next ((bracketed_takes hg _).through.bind fun _ => (Through.expect "\x7b").bind fun _ =>
    .closedBy "\x7d" (.repeatStep (fun cases => ?_) []) fun _ => .pure rfl)
  exact (Through.mark "\x7d").bind fun _ => .lexemeInside fun _ => .ite (fun _ => .pure rfl)
    fun _ => (switchCase_through hg scope).bind fun _ => .pure rfl

theorem catchClause_through (hg : g.Follows tail g') (scope : Scope) :
    Through tail inside Eq (catchClause g scope) (catchClause g' scope) := by
  refine (Through.eatWord (by decide)).bind fun _ => .ite (fun _ => .pure rfl) fun _ =>
    (Through.eat "(").bind fun _ => .ite (fun _ => ?_) fun _ => ?_
  · exact .closedBy ")" (hg.target _).through.bracketed fun _ =>
      (block_takes hg _).through.bind fun _ => .pure rfl
  · exact (block_takes hg _).through.bind fun _ => .pure rfl

theorem tryStatement_upto (hg : g.Follows tail g') (scope : Scope) :
    Upto tail inside Eq (tryStatement g scope) (tryStatement g' scope) := by
  refine .start fun _ _ => .next ((block_takes hg _).through.bind fun _ =>
    (catchClause_through hg _).bind fun ⟨caught, handler⟩ => (Through.eatWord (by decide)).bind
    fun _ => .ite (fun _ => ?_) fun _ => .ite (fun _ => .previous fun _ _ => ?_) fun _ => ?_)
  · exact (block_takes hg _).through.bind fun _ => .pure rfl
  · exact (Through.note ..).bind fun _ => .pure rfl
  · exact .pure rfl

-- ---------------------------------------------------------------------------
-- All statements
-- ---------------------------------------------------------------------------

theorem expressionStatement_takes (hg : g.Follows tail g') (scope : Scope) :
    Takes tail inside Eq (expressionStatement g scope) (expressionStatement g' scope) := by
  refine (expression_takes hg _).bind fun code => .atMark ?_ ?_
  · split
    · exact .next ((body_takes hg _).through.bind fun _ => .pure rfl)
    · exact (Through.endStatement.bind fun _ => .pure rfl).toUpto
    · exact (Through.endStatement.bind fun _ => .pure rfl).toUpto
  · split
    · contradiction
    · exact Through.endStatement.bind fun _ => .pure rfl
    · exact Through.endStatement.bind fun _ => .pure rfl

theorem letDeclares_still (inList : Bool) :
    Still tail Eq (letDeclares inList) (letDeclares inList) := by
  refine Still.peek.chain (fun _ => ⟨rfl, rfl⟩) ?_
  rintro t t' ⟨hlexeme, -⟩
  rw [hlexeme]
  split <;> exact .pure rfl

theorem wordStatement_upto (hg : g.Follows tail g') (scope : Scope) (inList : Bool)
    (word : String) : Upto tail inside Eq (wordStatement g scope inList word)
      (wordStatement g' scope inList word) := by
  have hexpression : Upto tail inside Eq _ _ := (expressionStatement_takes hg scope).toUpto
  have hbindings (keyword : String) : Takes tail inside Eq _ _ :=
    (bindings_takes hg scope keyword).bind fun declared =>
      .pure (Eq.refl (Item.declaration declared))
  have hfunction (isAsync : Bool) : Takes tail inside Eq _ _ :=
    (functionDeclaration_takes hg scope isAsync false).bind fun declared =>
      .pure (Eq.refl (Item.declaration declared))
  unfold wordStatement
  split
  · exact (ifStatement_upto hg _).bind fun _ => .pure rfl
  · exact (doStatement_upto hg _).bind fun _ => .pure rfl
  · exact (whileStatement_upto hg _).bind fun _ => .pure rfl
  · exact (forStatement_upto hg _).bind fun _ => .pure rfl
  · exact (withStatement_upto hg _).bind fun _ => .pure rfl
  · exact (jumpStatement_upto _).bind fun _ => .pure rfl
  · exact (jumpStatement_upto _).bind fun _ => .pure rfl
  · exact (returnStatement_upto hg _).bind fun _ => .pure rfl
  · exact (throwStatement_upto hg _).bind fun _ => .pure rfl
  · exact (switchStatement_upto hg _).bind fun _ => .pure rfl
  · exact (tryStatement_upto hg _).bind fun _ => .pure rfl
  · exact .next (Through.endStatement.bind fun _ => .pure rfl)
  · exact .next (hfunction _).through
  · exact .next ((classDeclaration_takes hg ..).through.bind fun _ => .pure rfl)
  · exact (hbindings _).toUpto
  · exact (hbindings _).toUpto
  · exact (letDeclares_still _).bind fun _ =>
      .ite (fun _ => (hbindings _).toUpto) fun _ => hexpression
  · exact usingDeclares_still.bind fun _ =>
      .ite (fun _ => (hbindings _).toUpto) fun _ => hexpression
  · exact (awaitUsingDeclares_still _).bind fun _ =>
      .ite (fun _ => .next (hbindings _).through) fun _ => hexpression
  · exact (atAsyncFunction_through (.nextTwo (hfunction _))
      (expressionStatement_takes hg _).through).toUpto
  · exact exportItem_upto hg ..
  · refine .peek fun {t t'} hlexeme _ => ?_
    rw [hlexeme]
    split
    · exact hexpression
    · exact hexpression
    · exact importItem_upto _
  · exact hexpression

theorem statement_takes (hg : g.Follows tail g') (scope : Scope) (inList : Bool) :
    Takes tail inside Eq (statement g scope inList) (statement g' scope inList) := by
  have hexpression : Takes tail inside Eq _ _ := expressionStatement_takes hg scope
  refine .lexeme (fun lexeme => ?_) hexpression.needs hexpression.needs fun _ => hexpression.needs
  split
  · exact wordStatement_upto hg ..
  · exact (block_takes hg _).toUpto.bind fun _ => .pure rfl
  · exact .next (.pure rfl)
  · refine (decorators_through hg _).toUpto.bind fun marks => .of_needs (.atWord fun _ =>
      .ite (fun _ => exportItem_upto hg ..) fun _ => ?_) (.atWord (.eatWord .unexpected))
    refine ((Through.eatWord (by decide)).bind fun _ => .ite (fun _ => ?_)
      fun _ => .unexpected).toUpto
    exact (classDeclaration_takes hg ..).through.bind fun _ => .pure rfl
  · exact hexpression.toUpto

end

end PagePrelude.Module.Parser
