import PagePrelude.Proofs.Longer.Patterns

/-!
# Expressions in a longer text

The rules of the grammar from literals up to assignments do the same in a longer text.
-/

namespace PagePrelude.Module.Parser

section
variable {tail : Tail} {inside : Bool} {g g' : Grammar}

theorem expression_takes (hg : g.Follows tail g') (scope : Scope) :
    Takes tail inside Eq (expression g scope) (expression g' scope) := by
  refine ⟨(hg.assignment scope).toUpto.weaken.bind fun first => ?_,
    (hg.assignment scope).needs.bind⟩
  refine (Through.mark ",").bind fun _ => .ite (fun _ => .pure rfl) fun _ =>
    (Through.repeatStep (fun items => ?_) [first]).bind fun _ => .pure rfl
  exact (Through.eat ",").bind fun _ =>
    .ite (fun _ => (hg.assignment scope).through.weaken.bind fun _ => .pure rfl) fun _ => .pure rfl

-- ---------------------------------------------------------------------------
-- Literals
-- ---------------------------------------------------------------------------

theorem spreadable_takes (hg : g.Follows tail g') (scope : Scope) :
    Takes tail inside Eq (spreadable g scope) (spreadable g' scope) := by
  refine ⟨(Through.eat "...").toUpto.bind fun _ => .ite (fun _ => ?_) fun _ => ?_,
    .eat (hg.assignment scope.inner).needs⟩
  · exact (hg.assignment _).through.weaken.bind fun _ => .pure rfl
  · exact (hg.assignment _).through.weaken

theorem arrayPlace_takes (hg : g.Follows tail g') (scope : Scope) :
    Takes tail inside Eq (arrayPlace g scope) (arrayPlace g' scope) := by
  have hitem : Takes tail inside Eq _ _ := spreadable_takes hg scope
  exact ⟨.atMark fun _ => .ite (fun _ => (Through.pure rfl).toUpto) fun _ => hitem.toUpto,
    .atMark hitem.needs⟩

theorem array_takes (hg : g.Follows tail g') (scope : Scope) :
    Takes tail inside Eq (array g scope) (array g' scope) :=
  ⟨(Through.listOf "[" "]" (arrayPlace_takes hg scope).through).toUpto.bind fun _ => .pure rfl,
    (Needs.listBetween "[" "]").bind⟩

theorem templatePart_takes (tagged : Bool) :
    Takes tail inside Eq (templatePart tagged) (templatePart tagged) := by
  refine ⟨.token fun {t t'} hlexeme _ => ?_, .token fun {t} hopen => ?_⟩
  · rw [hlexeme]
    split
    · exact .optional (.note ..) fun _ => .next (.pure rfl)
    · exact Through.unexpected.toUpto
  · split
    · rename_i hlexeme
      rw [hlexeme] at hopen
      cases hopen
    · exact .unexpected

theorem template_takes (hg : g.Follows tail g') (scope : Scope) (tagged : Bool) :
    Takes tail inside Eq (template g scope tagged) (template g' scope tagged) := by
  refine (templatePart_takes tagged).bind fun ⟨first, part⟩ => .ite (fun _ => .pure rfl) fun _ =>
    (Through.repeatStep (fun parts => ?_) [first]).bind fun _ => .pure rfl
  refine (expression_takes hg _).through.bind fun value => .atMark
    (.check .unexpected .unexpected fun _ => ?_)
    (.check .unexpected .unexpected fun h => absurd rfl h)
  refine (Upto.readAgain (templatePiece_mayGrow tail false)).weaken.bind fun _ =>
    (templatePart_takes tagged).through.bind fun ⟨text, part⟩ => ?_
  exact .ite (fun _ => .pure rfl) fun _ => .pure rfl

-- ---------------------------------------------------------------------------
-- Functions
-- ---------------------------------------------------------------------------

theorem block_takes (hg : g.Follows tail g') (scope : Scope) :
    Takes tail inside Eq (block g scope) (block g' scope) := by
  refine ⟨(Through.expect "\x7b").toUpto.bind fun _ => .closedBy "\x7d"
    (.repeatStep (fun statements => ?_) []) fun _ => .pure rfl, (Needs.expect "\x7b").bind⟩
  exact (Through.mark "\x7d").bind fun _ => .lexemeInside fun _ => .ite (fun _ => .pure rfl)
    fun _ => (hg.statement scope true).through.bracketed.bind fun _ => .pure rfl

theorem functionRest_takes (hg : g.Follows tail g') (isAsync generator : Bool) :
    Takes tail inside Eq (functionRest g isAsync generator) (functionRest g' isAsync generator) :=
  (parameters_takes hg _).bind fun _ => (block_takes hg _).through.bind fun _ => .pure rfl

theorem namedFunction_takes (hg : g.Follows tail g') (isAsync generator : Bool) (name : Code) :
    Takes tail inside Eq
      (functionRest g isAsync generator >>= fun (parameters, body) =>
        pure (Code.node (.function isAsync generator) [name, parameters, body]))
      (functionRest g' isAsync generator >>= fun (parameters, body) =>
        pure (Code.node (.function isAsync generator) [name, parameters, body])) :=
  (functionRest_takes hg _ _).bind fun _ => .pure rfl

theorem functionExpression_takes (hg : g.Follows tail g') (isAsync : Bool) :
    Takes tail inside Eq (functionExpression g isAsync) (functionExpression g' isAsync) := by
  have hrest (generator : Bool) (name : Code) : Takes tail inside Eq _ _ :=
    namedFunction_takes hg isAsync generator name
  refine ⟨(Through.eat "*").toUpto.bind fun generator => .of_needs (.lexeme fun lexeme => ?_) ?_,
    .eat ?_⟩
  · exact .ite (fun _ => (boundName_takes _).toUpto.bind fun _ => (hrest _ _).through)
      fun _ => (hrest _ _).toUpto
  · exact .lexeme (hrest generator _).needs (hrest generator _).needs
      fun _ => (hrest generator _).needs
  · exact .lexeme (hrest false _).needs (hrest false _).needs fun _ => (hrest false _).needs

theorem checkAccessor_through (form : PropertyForm) (parameters : Code)
    (start start' stop stop' : Nat) :
    Through tail inside Eq (checkAccessor form parameters start stop)
      (checkAccessor form parameters start' stop') := by
  unfold checkAccessor
  split
  · exact .note ..
  · exact .ite (fun _ => .note ..) fun _ => .ite (fun _ => .note ..) fun _ => .pure rfl
  · exact .pure rfl

theorem methodValue_takes (hg : g.Follows tail g') (form : PropertyForm)
    (isAsync generator : Bool) : Takes tail inside Eq (methodValue g form isAsync generator)
      (methodValue g' form isAsync generator) := by
  have hparameters : Takes tail inside Eq _ _ :=
    parameters_takes hg (.ofFunction isAsync generator)
  refine ⟨.start fun _ _ => hparameters.toUpto.bind fun _ => ?_,
    .start fun _ => hparameters.needs.bind⟩
  exact .previous fun _ _ => (block_takes hg _).through.bind fun _ =>
    (checkAccessor_through ..).bind fun _ => .pure rfl

theorem isModifier_still (sameLine : Bool) :
    Still tail Eq (isModifier sameLine) (isModifier sameLine) := by
  refine Still.peek.chain (fun _ => ⟨rfl, rfl⟩) ?_
  rintro t t' ⟨hlexeme, hbreak⟩
  rw [hlexeme, hbreak]
  refine .ite (.pure rfl) ?_
  split <;> exact .pure rfl

-- ---------------------------------------------------------------------------
-- Objects
-- ---------------------------------------------------------------------------

/-- A word that says something about a property, in front of a parser, and none. -/
theorem modifies_through {α : Type} {rel : α → α → Prop} {word : String}
    (hword : word ≠ "export" ∧ word ≠ "import") (sameLine : Bool) {f f' : Bool → Parser α}
    (hyes : Upto tail inside rel (f true) (f' true))
    (hno : Through tail inside rel (f false) (f' false)) :
    Through tail inside rel (modifies word sameLine >>= f) (modifies word sameLine >>= f') := by
  unfold modifies
  rw [bind_assoc, bind_assoc]
  refine .atWord hword ?_ ?_
  · refine (isModifier_still sameLine).bind fun follows => ?_
    cases follows
    · exact hno.toUpto
    · exact hyes
  · simpa using hno

theorem namedMethod_through (hg : g.Follows tail g') (scope : Scope) (form : PropertyForm)
    (isAsync generator : Bool) : Through tail inside Eq
      (propertyName g scope >>= fun (key, computed) =>
        methodValue g form isAsync generator >>= fun value =>
        pure (some (Code.node (.property form computed) [key, value])))
      (propertyName g' scope >>= fun (key, computed) =>
        methodValue g' form isAsync generator >>= fun value =>
        pure (some (Code.node (.property form computed) [key, value]))) :=
  (propertyName_takes hg _).through.bind fun _ =>
    (methodValue_takes hg _ _ _).through.bind fun _ => .pure rfl

theorem objectMethod_through (hg : g.Follows tail g') (scope : Scope) :
    Through tail inside Eq (objectMethod g scope) (objectMethod g' scope) := by
  have hmethod (form : PropertyForm) (isAsync generator : Bool) : Through tail inside Eq _ _ :=
    namedMethod_through hg scope form isAsync generator
  refine modifies_through (by decide) false (.peek fun {t t'} hlexeme _ => ?_) <|
    modifies_through (by decide) false (.peek fun {t t'} hlexeme _ => ?_) <|
    modifies_through (by decide) true (.next ?_) ?_
  · rw [hlexeme]
    exact .ite (fun _ => (Through.pure rfl).toUpto) fun _ => .next (hmethod ..)
  · rw [hlexeme]
    exact .ite (fun _ => (Through.pure rfl).toUpto) fun _ => .next (hmethod ..)
  · exact (Through.eat "*").bind fun _ => .ite (fun _ => hmethod ..) fun _ => .pure rfl
  · exact (Through.eat "*").bind fun _ => .ite (fun _ => hmethod ..) fun _ => .pure rfl

theorem cover_quiet (place : Nat × Nat) :
    Quiet fun state => { state with covers := state.covers ++ [place] } :=
  ⟨fun _ => rfl, fun _ => rfl, fun _ => rfl, fun _ => rfl, fun _ => rfl⟩

theorem objectProperty_through (hg : g.Follows tail g') (scope : Scope) :
    Through tail inside Eq (objectProperty g scope) (objectProperty g' scope) := by
  have hname : Takes tail inside Eq _ _ := propertyName_takes hg scope
  refine (Through.eat "...").bind fun _ => .ite (fun _ => ?_) fun _ => ?_
  · exact (hg.assignment _).through.weaken.bind fun _ => .pure rfl
  · refine (objectMethod_through hg scope).bind fun method => ?_
    split
    · exact .pure rfl
    refine .of_needs (.token fun {t t'} hlexeme _ => hname.toUpto.bind fun ⟨key, computed⟩ => ?_)
      (.token fun _ => hname.needs.bind)
    refine (Through.eat ":").bind fun _ =>
      .ite (fun _ => (hg.assignment _).through.weaken.bind fun _ => .pure rfl) fun _ =>
      (Through.mark "(").bind fun _ =>
      .ite (fun _ => (methodValue_takes hg ..).through.bind fun _ => .pure rfl) fun _ => ?_
    rw [hlexeme]
    split
    · refine .check (.failExpected _) (.failExpected _) fun _ =>
        .optional (.note ..) fun _ => .optional (.note ..) fun _ => (Through.eat "=").bind fun _ =>
        .ite (fun _ => ?_) fun _ => .pure rfl
      exact (hg.assignment _).through.weaken.bind fun _ => .previous fun _ _ =>
        ((cover_quiet _).through (cover_quiet _)).bind fun _ => .pure rfl
    · exact (Fails.failExpected ":").through (.failExpected ":")

theorem object_takes (hg : g.Follows tail g') (scope : Scope) :
    Takes tail inside Eq (object g scope) (object g' scope) :=
  ⟨(Through.listOf "\x7b" "\x7d" (objectProperty_through hg scope)).toUpto.bind
    fun _ => .pure rfl, (Needs.listBetween "\x7b" "\x7d").bind⟩

-- ---------------------------------------------------------------------------
-- Classes
-- ---------------------------------------------------------------------------

theorem memberName_takes (hg : g.Follows tail g') (scope : Scope) :
    Takes tail inside Eq (memberName g scope) (memberName g' scope) := by
  have hname : Takes tail inside Eq _ _ := propertyName_takes hg scope
  refine .lexeme (fun lexeme => ?_) hname.needs hname.needs fun _ => hname.needs
  split
  · exact .next (.pure rfl)
  · exact hname.toUpto

theorem namesMember_still : Still tail Eq namesMember namesMember := by
  refine Still.peek.chain (fun _ => ⟨rfl, rfl⟩) ?_
  rintro t t' ⟨hlexeme, -⟩
  rw [hlexeme]
  split <;> exact .pure rfl

theorem eatModifier_through {word : String} (hword : word ≠ "export" ∧ word ≠ "import")
    (sameLine : Bool) :
    Through tail inside Eq (eatModifier word sameLine) (eatModifier word sameLine) := by
  refine .atWord hword (namesMember_still.bind fun names => ?_) (.pure rfl)
  refine .ite (fun _ => (Through.pure rfl).toUpto) fun _ => .ite (fun _ => ?_) fun _ => ?_
  · refine .peek fun {t t'} _ hbreak => ?_
    rw [hbreak]
    exact .ite (fun _ => (Through.pure rfl).toUpto) fun _ => .next (.pure rfl)
  · exact .next (.pure rfl)

theorem decorator_upto (hg : g.Follows tail g') (scope : Scope) :
    Upto tail inside Eq (decorator g scope) (decorator g' scope) := by
  refine .next (.atMark (.next ?_) (.of_needs (.lexeme fun lexeme => ?_) ?_))
  · exact .closedBy ")" (expression_takes hg _).through fun _ => .pure rfl
  · split
    · refine .check .unexpected .unexpected fun _ => .next <| (Through.pure (Eq.refl _)).bind
        fun base => .repeatStep (fun code => ?_) base
      refine (Through.eat ".").bind fun _ => .ite (fun _ => ?_) fun _ =>
        (Through.mark "(").bind fun _ => .ite (fun _ => ?_) fun _ => .pure rfl
      · refine .of_needs (.lexeme fun lexeme => ?_)
          (.lexeme anyName_needs.bind anyName_needs.bind fun _ => anyName_needs.bind)
        split
        · exact .next (.pure rfl)
        · exact anyName_takes.toUpto.bind fun _ => .pure rfl
      · exact (Through.listOf "(" ")" (spreadable_takes hg scope).through).bind
          fun _ => .pure rfl
    · exact (Fails.unexpected.bind.through Fails.unexpected.bind).toUpto
  · exact .lexeme Needs.unexpected.bind Needs.unexpected.bind fun _ => Needs.unexpected.bind

theorem decorators_through (hg : g.Follows tail g') (scope : Scope) :
    Through tail inside Eq (decorators g scope) (decorators g' scope) := by
  refine .repeatStep (fun list => .atMark ?_ (.pure rfl)) []
  exact (decorator_upto hg scope).bind fun _ => .pure rfl

theorem checkMember_through (form : PropertyForm) (isStatic isAsync generator computed : Bool)
    (key : Code) (start start' stop stop' : Nat) :
    Through tail inside Eq (checkMember form isStatic isAsync generator computed key start stop)
      (checkMember form isStatic isAsync generator computed key start' stop') := by
  unfold checkMember
  split
  · exact .note ..
  · exact .pure rfl

theorem classField_through (hg : g.Follows tail g') (isStatic computed : Bool) (key : Code) :
    Through tail inside Eq (classField g isStatic computed key)
      (classField g' isStatic computed key) := by
  refine (Through.eat "=").bind fun _ => .ite (fun _ => ?_) fun _ => ?_
  · exact (hg.assignment _).through.weaken.bind fun _ =>
      Through.endStatement.bind fun _ => .pure rfl
  · exact Through.endStatement.bind fun _ => .pure rfl

theorem classMethod_takes (hg : g.Follows tail g') (scope : Scope) (isStatic : Bool)
    (form : PropertyForm) (isAsync generator : Bool) : Takes tail inside Eq
      (classMethod g scope isStatic form isAsync generator)
      (classMethod g' scope isStatic form isAsync generator) := by
  have hname : Takes tail inside Eq _ _ := memberName_takes hg scope
  refine ⟨.start fun _ _ => hname.toUpto.bind fun _ => .previous fun _ _ => ?_,
    .start fun _ => hname.needs.bind⟩
  exact (checkMember_through ..).bind fun _ => (methodValue_takes hg ..).through.bind
    fun _ => .pure rfl

theorem plainMember_takes (hg : g.Follows tail g') (scope : Scope) (isStatic : Bool) :
    Takes tail inside Eq (plainMember g scope isStatic) (plainMember g' scope isStatic) := by
  have hname : Takes tail inside Eq _ _ := memberName_takes hg scope
  refine ⟨.start fun _ _ => hname.toUpto.bind fun _ => (Through.mark "(").bind fun _ =>
    .previous fun _ _ => ?_, .start fun _ => hname.needs.bind⟩
  exact (checkMember_through ..).bind fun _ =>
    .ite (fun _ => (methodValue_takes hg ..).through.bind fun _ => .pure rfl)
      fun _ => classField_through hg ..

theorem memberRest_through (hg : g.Follows tail g') (scope : Scope) (isStatic : Bool) :
    Through tail inside Eq (memberRest g scope isStatic) (memberRest g' scope isStatic) :=
  (eatModifier_through (by decide) false).bind fun _ =>
    .ite (fun _ => (classMethod_takes hg ..).through) fun _ =>
    (eatModifier_through (by decide) false).bind fun _ =>
    .ite (fun _ => (classMethod_takes hg ..).through) fun _ =>
    (eatModifier_through (by decide) true).bind fun _ => (Through.eat "*").bind fun _ =>
    .ite (fun _ => (classMethod_takes hg ..).through) fun _ => (plainMember_takes hg ..).through

theorem classMember_through (hg : g.Follows tail g') (scope : Scope) :
    Through tail inside Eq (classMember g scope) (classMember g' scope) := by
  refine (decorators_through hg scope).bind fun marks =>
    (eatModifier_through (by decide) false).bind fun isStatic => (Through.mark "\x7b").bind
    fun _ => .ite (fun _ => ?_) fun _ => (eatModifier_through (by decide) true).bind fun _ => ?_
  · exact (block_takes hg _).through.bind fun _ => .pure rfl
  · exact (memberRest_through hg ..).bind fun _ => .pure rfl

theorem classMembers_takes (hg : g.Follows tail g') (scope : Scope) :
    Takes tail inside Eq (classMembers g scope) (classMembers g' scope) := by
  refine ⟨(Through.expect "\x7b").toUpto.bind fun _ => .closedBy "\x7d"
    (.repeatStep (fun members => ?_) []) fun _ => .pure rfl, (Needs.expect "\x7b").bind⟩
  exact (Through.eat ";").bind fun _ => .ite (fun _ => .pure rfl) fun _ =>
    (Through.mark "\x7d").bind fun _ => .lexemeInside fun _ => .ite (fun _ => .pure rfl)
    fun _ => (classMember_through hg scope).bind fun _ => .pure rfl

-- ---------------------------------------------------------------------------
-- Chains of accesses and calls
-- ---------------------------------------------------------------------------

theorem importParts_through (hg : g.Follows tail g') (scope : Scope) :
    Through tail true Eq (importParts g scope) (importParts g' scope) := by
  have hvalue : Through tail true Eq _ _ := (hg.assignment scope.inner).through.bracketed
  refine hvalue.bind fun specifier => (Through.eat ",").bind fun more => ?_
  refine .ite (fun _ => .pure rfl) fun _ => (Through.mark ")").bind fun _ =>
    .ite (fun _ => .pure rfl) fun _ => ?_
  exact hvalue.bind fun _ => (Through.eat ",").bind fun _ => .pure rfl

theorem importArguments_through (hg : g.Follows tail g') (scope : Scope) :
    Through tail inside Eq (importArguments g scope) (importArguments g' scope) := by
  refine (Through.expect "(").bind fun _ => (Through.mark ")").bind fun _ => ?_
  refine .check (.failToken _) (.failToken _) fun _ => (importParts_through hg scope).closed
    (fun _ => rfl) (fun arguments _ heq => heq ▸ ?_) fun _ => .eat (Fails.failToken _).bind.needs
  refine ((Through.eat ")").bind fun _ => ?_).toUpto
  exact .check (.failToken _) (.failToken _) fun _ => .pure rfl

theorem importExpression_upto (hg : g.Follows tail g') (scope : Scope) :
    Upto tail inside Eq (importExpression g scope) (importExpression g' scope) := by
  refine .next ((Through.eat ".").bind fun _ => .ite (fun _ => ?_) fun _ => ?_)
  · refine .place fun _ _ => anyName_takes.through.bind fun word => ?_
    split
    · exact .pure rfl
    · refine (Through.mark "(").bind fun _ =>
        .ite (fun _ => ?_) fun _ => (Fails.fail _ _ _).through (.fail _ _ _)
      exact (importArguments_through hg scope).bind fun _ => .pure rfl
  · refine (Through.mark "(").bind fun _ => .check .unexpected .unexpected fun _ => ?_
    exact (importArguments_through hg scope).bind fun _ => .pure rfl

theorem superExpression_upto : Upto tail inside Eq superExpression superExpression := by
  refine .next (Takes.lexeme (fun lexeme => ?_) .unexpected .unexpected
    fun _ => .unexpected).through
  split
  · exact (Through.pure rfl).toUpto
  · exact (Through.pure rfl).toUpto
  · exact (Through.pure rfl).toUpto
  · exact Through.unexpected.toUpto

theorem parenthesized_takes (hg : g.Follows tail g') (scope : Scope) :
    Takes tail inside Eq (parenthesized g scope) (parenthesized g' scope) := by
  refine ⟨.start fun _ _ => (Through.expect "(").toUpto.bind fun _ => ?_,
    .start fun _ => (Needs.expect "(").bind⟩
  refine (Through.listUpTo ")" (fun _ => rfl) (hg.assignment _).through.bracketed).closed
    (listRel_refl fun _ => rfl) ?_ fun _ => (Needs.expect ")").bind
  rintro ⟨items, trailing⟩ ⟨items', trailing'⟩ ⟨hitems, htrailing⟩
  obtain rfl : items = items' := by rwa [List.forall₂_eq_eq_eq] at hitems
  refine ((Through.expect ")").bind fun _ => ?_).toUpto
  rcases trailing with _ | place <;> rcases trailing' with _ | place' <;>
    try exact htrailing.elim
  case' some.some => refine (Through.note ..).bind fun _ => ?_
  all_goals split
  all_goals first
    | exact .pure rfl
    | exact .previous fun _ _ => (Fails.fail _ _ _).through (.fail _ _ _)

theorem classRest_takes (hg : g.Follows tail g') (scope : Scope) (name : Code) :
    Takes tail inside Eq (classRest g scope name) (classRest g' scope name) := by
  have hmembers (parent : Code) : Takes tail inside Eq
      (classMembers g scope >>= fun members =>
        pure (Code.node .classBody (name :: parent :: members)))
      (classMembers g' scope >>= fun members =>
        pure (Code.node .classBody (name :: parent :: members))) :=
    (classMembers_takes hg _).bind fun _ => .pure rfl
  refine ⟨(Through.eatWord (by decide)).toUpto.bind fun _ => .ite (fun _ => ?_) fun _ => ?_,
    .eatWord (hmembers _).needs⟩
  · exact (hg.heritage _).through.weaken.bind fun _ => (hmembers _).through
  · exact (hmembers _).through

theorem className_through (scope : Scope) :
    Through tail inside Eq (className scope) (className scope) := by
  refine .lexeme (fun lexeme => ?_) fun h => ?_
  · exact .ite (fun _ => (boundName_takes _).toUpto.bind fun _ => .pure rfl)
      fun _ => (Through.pure rfl).toUpto
  · cases h <;> exact .pure rfl

theorem beginsAsyncFunction_still (word : String) :
    Still tail Eq (beginsAsyncFunction word) (beginsAsyncFunction word) := by
  refine .ite (.pure rfl) (Still.peek.chain (fun _ => ⟨rfl, rfl⟩) ?_)
  rintro t t' ⟨hlexeme, hbreak⟩
  rw [hlexeme, hbreak]
  exact .pure rfl

theorem wordExpression_upto (hg : g.Follows tail g') (scope : Scope) (word : String)
    (escaped : Bool) :
    Upto tail inside Eq (wordExpression g scope word escaped)
      (wordExpression g' scope word escaped) := by
  have hfunction (isAsync : Bool) : Takes tail inside Eq _ _ :=
    functionExpression_takes hg isAsync
  unfold wordExpression
  refine .noteHere _ ?_
  refine .ite (fun _ => .next (.pure rfl)) fun _ =>
    .ite (fun _ => .next ?function) fun _ => .ite (fun _ => .next ?classes) fun _ =>
    .ite (fun _ => .next ?new) fun _ => .ite (fun _ => superExpression_upto) fun _ =>
    .ite (fun _ => importExpression_upto hg _) fun _ =>
    .ite (fun _ => Through.unexpected.toUpto) fun _ =>
    (beginsAsyncFunction_still word).bind fun _ => .ite (fun _ => .nextTwo ?async) fun _ => ?name
  case function => exact (hfunction _).through
  case classes => exact (className_through _).bind fun _ => (classRest_takes hg ..).through
  case new => exact (hg.construct _).through.weaken
  case async => exact hfunction _
  case name => exact (checkName_still ..).bind fun _ => .next (.pure rfl)

theorem primary_takes (hg : g.Follows tail g') (scope : Scope) :
    Takes tail inside Eq (primary g scope) (primary g' scope) := by
  refine .lexeme (fun lexeme => ?_) .unexpected .unexpected fun _ => .unexpected
  split
  · exact wordExpression_upto hg ..
  · exact .next (.pure rfl)
  · exact .next (.pure rfl)
  · exact (template_takes hg ..).toUpto
  · exact (parenthesized_takes hg _).toUpto
  · exact (array_takes hg _).toUpto
  · exact (object_takes hg _).toUpto
  · exact (hg.markup _ false).toUpto.weaken
  · refine (decorators_through hg _).toUpto.bind fun _ => (Through.eatWord (by decide)).bind
      fun _ => .check .unexpected .unexpected fun _ => (className_through _).bind fun _ => ?_
    exact (classRest_takes hg ..).through.bind fun _ => .pure rfl
  · refine .ite (fun _ => ?_) fun _ => Through.unexpected.toUpto
    refine (Upto.readAgain fun _ _ _ h => .inr (regexPiece_grows tail _ _ h)).weaken.bind fun _ =>
      .of_needs (.token fun {t t'} hlexeme _ => ?_) (.token fun {t} hopen => ?_)
    · rw [hlexeme]
      split
      · exact .optional (.note ..) fun _ => .next (.pure rfl)
      · exact Through.unexpected.toUpto
    · rcases Lexeme.isOpen_cases hopen with h | h | ⟨text, h⟩ <;> rw [h] <;> exact .unexpected
  · exact Through.unexpected.toUpto

theorem memberWord_needs : Needs memberWord :=
  .lexeme anyName_needs.bind anyName_needs.bind fun _ => anyName_needs.bind

theorem memberWord_takes : Takes tail inside Eq memberWord memberWord := by
  refine ⟨.lexeme fun lexeme => ?_, memberWord_needs⟩
  split
  · exact .next (.pure rfl)
  · exact anyName_takes.toUpto.bind fun _ => .pure rfl

theorem indexRest_through (hg : g.Follows tail g') (scope : Scope) :
    Through tail inside Eq (indexRest g scope) (indexRest g' scope) :=
  .closedBy "]" (expression_takes hg _).through fun _ => .pure rfl

theorem chainStep_through (hg : g.Follows tail g') (scope : Scope) (calls : Bool) (code : Code) :
    Through tail inside Eq (chainStep g scope calls code) (chainStep g' scope calls code) := by
  have harguments : Through tail inside Eq _ _ :=
    .listOf "(" ")" (spreadable_takes hg scope).through
  refine .lexeme (fun lexeme => ?_) fun h => ?_
  · split
    · exact .next (memberWord_takes.through.bind fun _ => .pure rfl)
    · exact .next ((indexRest_through hg _).bind fun _ => .pure rfl)
    · refine .ite (fun _ => .token fun {_ _} _ _ => ?_) fun _ => .next (.of_needs ?_ ?_)
      · exact ((Fails.fail _ _ _).bind.through (Fails.fail _ _ _).bind).toUpto
      · refine .lexeme fun lexeme => ?_
        split
        · exact (harguments.bind fun _ => .pure rfl).toUpto
        · exact .next ((indexRest_through hg _).bind fun _ => .pure rfl)
        · exact .token fun {_ _} _ _ => ((Fails.fail _ _ _).through (.fail _ _ _)).toUpto
        · exact memberWord_takes.toUpto.bind fun _ => .pure rfl
      · exact .lexeme memberWord_needs.bind memberWord_needs.bind fun _ => memberWord_needs.bind
    · exact .ite (fun _ => (harguments.bind fun _ => .pure rfl).toUpto)
        fun _ => (Through.pure rfl).toUpto
    · refine .token fun {_ _} _ _ => .ite (fun _ => (Still.note ..).bind fun _ => ?_) fun _ => ?_
      all_goals exact (template_takes hg ..).toUpto.bind fun _ => .pure rfl
    · exact (Through.pure rfl).toUpto
  · cases h <;> exact .pure rfl

theorem chain_takes (hg : g.Follows tail g') (scope : Scope) :
    Takes tail inside Eq (chain g scope) (chain g' scope) :=
  (primary_takes hg scope).bind fun _ => .repeatStep (chainStep_through hg scope true) _

theorem newArguments_through (hg : g.Follows tail g') (scope : Scope) :
    Through tail inside Eq (newArguments g scope) (newArguments g' scope) :=
  (Through.mark "(").bind fun _ => .ite
    (fun _ => .listOf "(" ")" (spreadable_takes hg scope).through) fun _ => .pure rfl

theorem construct_takes (hg : g.Follows tail g') (scope : Scope) :
    Takes tail inside Eq (construct g scope) (construct g' scope) := by
  have hprimary : Takes tail inside Eq _ _ := primary_takes hg scope
  refine ⟨(Through.eat ".").toUpto.bind fun _ => .ite (fun _ => ?_) fun _ => ?_,
    .eat (.start fun _ => hprimary.needs.bind)⟩
  · refine .place fun _ _ => anyName_takes.through.bind fun word => ?_
    split
    · exact .pure rfl
    · exact (Fails.fail _ _ _).through (.fail _ _ _)
  · refine .start fun _ _ => hprimary.through.bind fun _ => (Through.repeatStep
      (chainStep_through hg scope false) _).bind fun callee => ?_
    have harguments : Through tail inside Eq _ _ :=
      (newArguments_through hg scope).bind fun arguments =>
        .pure (Eq.refl (Code.node .new (callee :: arguments)))
    split
    · exact .previous fun _ _ => (Through.note ..).bind fun _ => harguments
    · exact harguments

end

end PagePrelude.Module.Parser
