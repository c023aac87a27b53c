import PagePrelude.Module.Markup
import PagePrelude.Proofs.Longer.Chains

/-!
# Markup in a longer text

Elements and fragments do the same in a longer text. All that is inside an element is in brackets,
and so is an element among the content of another: what closes the outer one is missing at the end
of the text.
-/

namespace PagePrelude.Module.Parser

section
variable {tail : Tail} {inside : Bool} {g g' : Grammar}

-- ---------------------------------------------------------------------------
-- Names
-- ---------------------------------------------------------------------------

theorem markupWord_takes : Takes tail inside Eq markupWord markupWord := by
  refine .lexeme (fun lexeme => ?_) .unexpected .unexpected fun _ => .unexpected
  split
  · rename_i name _
    have hjoin : Upto tail false Eq
        (modify fun state : State => State.take { state with lexical := state.lexical }
          state.token.start state.token.afterBreak state.here
          (markupWordPiece name state.token.stop state.rest))
        (modify fun state : State => State.take { state with lexical := state.lexical }
          state.token.start state.token.afterBreak state.here
          (markupWordPiece name state.token.stop state.rest)) := by
      refine ⟨fun _ hs => hs, fun {s s'} hs => ?_⟩
      have hpiece := markupWordPiece_grows tail name s.token.stop s'.token.stop s.rest
      rw [← hs.rest] at hpiece
      exact (take_within (.inr hpiece) _ _ hs.afterBreak hs.filled hs.here).imp_right
        fun ht => ⟨_, _, rfl, rfl, .inl ht⟩
    refine hjoin.weaken.bind fun _ => Takes.through <|
      .lexeme (fun lexeme => ?_) .unexpected .unexpected fun _ => .unexpected
    split
    · exact .next (.pure rfl)
    · exact Through.unexpected.toUpto
  · exact Through.unexpected.toUpto

theorem elementName_takes : Takes tail inside Eq elementName elementName := by
  refine markupWord_takes.bind fun first => (Through.eat ":").bind fun _ => .ite (fun _ => ?_)
    fun _ => .repeatStep (fun code => ?_) _
  · exact markupWord_takes.through.bind fun _ => .pure rfl
  · exact (Through.eat ".").bind fun _ =>
      .ite (fun _ => markupWord_takes.through.bind fun _ => .pure rfl) fun _ => .pure rfl

theorem attributeName_takes : Takes tail inside Eq attributeName attributeName :=
  markupWord_takes.bind fun _ => (Through.eat ":").bind fun _ =>
    .ite (fun _ => markupWord_takes.through.bind fun _ => .pure rfl) fun _ => .pure rfl

-- ---------------------------------------------------------------------------
-- Substitutions and attributes
-- ---------------------------------------------------------------------------

theorem expectEnd_takes (mark : String) {child : Bool} (h : child = true → inside = true) :
    Takes tail inside Eq (expectEnd mark child) (expectEnd mark child) := by
  refine ⟨.atMark fun _ => .check (.failExpected _) (.failExpected _) fun _ => ?_, .atMark ?_⟩
  · refine .ite (fun hchild => ?_) fun _ => Upto.advance.weaken
    rw [h hchild]
    exact .advanceContent
  · exact (Fails.failExpected mark).bind.needs

theorem loneExpression_through (hg : g.Follows tail g') (scope : Scope) :
    Through tail inside Eq (loneExpression g scope) (loneExpression g' scope) := by
  refine .start fun _ _ => (expression_takes hg scope).through.bind fun code => ?_
  split
  · exact .previous fun _ _ => (Fails.fail _ _ _).through (.fail _ _ _)
  · exact .pure rfl

theorem container_upto (hg : g.Follows tail g') (scope : Scope) (child : Bool) :
    Upto tail true Eq (container g scope child) (container g' scope child) := by
  have hend : Through tail true Eq (expectEnd "\x7d" child) (expectEnd "\x7d" child) :=
    (expectEnd_takes _ fun _ => rfl).through
  have hspread : Through tail true Eq _ _ := (expression_takes hg scope.inner).through
  have hvalue : Through tail true Eq _ _ := loneExpression_through hg scope.inner
  refine .next ((Through.mark "\x7d").bind fun _ => .ite (fun _ => hend.bind fun _ => .pure rfl)
    fun _ => .ite (fun _ => (Through.eat "...").bind fun _ => .ite (fun _ => ?spread)
      fun _ => ?value) fun _ => ?value')
  case spread => exact hspread.bind fun _ => hend.bind fun _ => .pure rfl
  all_goals exact hvalue.bind fun _ => hend.bind fun _ => .pure rfl

theorem attributeValue_takes (hg : g.Follows tail g') (scope : Scope) :
    Takes tail true Eq (attributeValue g scope) (attributeValue g' scope) := by
  refine ⟨.token fun {t t'} hlexeme _ => ?_, .token fun {t} hopen => ?_⟩
  · rw [hlexeme]
    split
    · exact .next (.pure rfl)
    · refine (container_upto hg _ _).bind fun value => ?_
      split
      · exact .previous fun _ _ => (Through.note ..).bind fun _ => .pure rfl
      · exact .pure rfl
    · exact (hg.markup _ false).toUpto.bracketed
    · exact Through.unexpected.toUpto
  · rcases Lexeme.isOpen_cases hopen with h | h | ⟨text, h⟩ <;> rw [h] <;> exact .unexpected

theorem markupAttribute_takes (hg : g.Follows tail g') (scope : Scope) :
    Takes tail true Eq (markupAttribute g scope) (markupAttribute g' scope) := by
  have hname : Takes tail true Eq _ _ := attributeName_takes
  refine ⟨(Through.eat "\x7b").toUpto.bind fun _ => .ite (fun _ => ?_) fun _ => ?_,
    .eat hname.needs.bind⟩
  · exact (Through.expect "...").bind fun _ => (hg.assignment _).through.bracketed.bind fun _ =>
      (Through.expect "\x7d").bind fun _ => .pure rfl
  · exact attributeName_takes.through.bind fun _ => .atMark
      (Upto.advanceAttribute.bind fun _ => (attributeValue_takes hg _).through.bind
        fun _ => .pure rfl) (.pure rfl)

theorem markupAttributes_through (hg : g.Follows tail g') (scope : Scope) :
    Through tail true Eq (markupAttributes g scope) (markupAttributes g' scope) := by
  refine .repeatStep (fun list => .lexemeInside fun lexeme => ?_) []
  split
  · exact .pure rfl
  · exact .pure rfl
  · exact .pure rfl
  · exact .pure rfl
  · exact (markupAttribute_takes hg _).through.bind fun _ => .pure rfl

-- ---------------------------------------------------------------------------
-- Elements
-- ---------------------------------------------------------------------------

theorem atClosingTag_still : Still tail Eq atClosingTag atClosingTag := by
  refine (Still.mark "<").chain (fun _ => rfl) fun here _ heq => heq ▸ ?_
  refine Still.peek.chain (fun _ => ⟨rfl, rfl⟩) ?_
  rintro t t' ⟨hnext, -⟩
  rw [hnext]
  exact .pure rfl

theorem markupContent_through (hg : g.Follows tail g') (scope : Scope) :
    Through tail true Eq (markupContent g scope) (markupContent g' scope) := by
  refine .repeatStep (fun list => .lexeme (fun lexeme => ?_) fun h => ?_) []
  · split
    · exact Upto.advanceContent.bind fun _ => .pure rfl
    · exact (container_upto hg _ _).bind fun _ => .pure rfl
    · exact atClosingTag_still.bind fun _ => .ite (fun _ => (Through.pure rfl).toUpto)
        fun _ => (hg.markup _ true).toUpto.bind fun _ => .pure rfl
    · exact Through.unexpected.toUpto
  · cases h with
    | text text => exact Through.advanceContent.bind fun _ => .pure rfl
    | _ => exact .unexpected

theorem fragmentRest_takes (hg : g.Follows tail g') (scope : Scope) (child : Bool) :
    Takes tail child Eq (fragmentRest g scope child) (fragmentRest g' scope child) := by
  have hend : Takes tail child Eq _ _ := expectEnd_takes ">" id
  refine .behind (markupContent_through hg _) fun _ => .behind .advance fun _ =>
    .behind .advance fun _ => ⟨.token fun {t t'} hlexeme _ => .atMark fun _ => ?_,
      .token fun {t} _ => .atMark ?_⟩
  · rw [hlexeme]
    refine .ite (fun _ => ?_) fun _ => hend.toUpto.bind fun _ => .pure rfl
    split
    · exact ((Fails.fail _ _ _).bind.through (Fails.fail _ _ _).bind).toUpto
    · exact hend.toUpto.bind fun _ => .pure rfl
  · refine .ite (fun _ => ?_) fun _ => hend.needs.bind
    split
    · exact (Fails.fail _ _ _).bind.needs
    · exact hend.needs.bind

theorem elementRest_takes (hg : g.Follows tail g') (scope : Scope) (child : Bool) :
    Takes tail child Eq (elementRest g scope child) (elementRest g' scope child) := by
  have hend : Takes tail child Eq _ _ := expectEnd_takes ">" id
  have hname : Takes tail true Eq _ _ := elementName_takes
  refine .behind hname.through fun name => .behind (markupAttributes_through hg _) fun attributes =>
    .eat (hend.through.bind fun _ => .pure rfl) ?_
  refine .behind (expectEnd_takes _ fun _ => rfl).through fun _ =>
    .behind (markupContent_through hg _) fun content => .behind .advance fun _ =>
    .behind .advance fun _ => .start fun _ _ => .atMark (.token fun {_ _} _ _ => ?_) ?_
  · exact ((Fails.fail _ _ _).bind.through (Fails.fail _ _ _).bind).toUpto
  · refine .behind hname.through fun closing => .previous fun _ _ => hend.bind fun _ => ?_
    exact .optional (.note ..) fun _ => .pure rfl

theorem markup_takes (hg : g.Follows tail g') (scope : Scope) (child : Bool) :
    Takes tail child Eq (markup g scope child) (markup g' scope child) := by
  refine ⟨.next (Takes.lexeme (fun lexeme => ?_) .unexpected .unexpected
    fun _ => .unexpected).through, .after advance_stays fun _ =>
    .lexeme .unexpected .unexpected fun _ => .unexpected⟩
  split
  · exact Upto.advanceContent.bindNeeds (fun _ => rfl)
      (fun _ _ _ => (fragmentRest_takes hg ..).toUpto) fun _ => (fragmentRest_takes hg ..).needs
  · exact (elementRest_takes hg ..).toUpto
  · exact Through.unexpected.toUpto

end

end PagePrelude.Module.Parser
