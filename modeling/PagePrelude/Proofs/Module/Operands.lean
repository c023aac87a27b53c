import PagePrelude.Proofs.Module.Names

/-!
# Reading operands

A name, a property of a name or an object is an expression by itself where a mark follows that
ends it. Before an equals sign a property is what an assignment puts a value into.
-/

namespace PagePrelude.Module

open Identifier (isIdentifier)

/-- Marks that end an expression. -/
def closers : List String := [",", "\x7d", ";"]

/-- Marks that end an operand with all that belongs to it. -/
def enders : List String := "=" :: closers

/-- Whether an object begins here, or a name before a mark that cannot open parameters. -/
inductive BeginsOperand (s : State) : Prop
  | object (hl : s.token.lexeme = .mark "\x7b")
  | name (hi : isIdentifier name = true) (hl : s.token.lexeme = .word name false)
      (hm : s.next.token.lexeme = .mark mark) (hne : mark ≠ "(")

section
variable {g : Grammar} {scope : Scope} {s s' : State} {code : Code} {name mark : String}

-- ---------------------------------------------------------------------------
-- The first token
-- ---------------------------------------------------------------------------

theorem prefixOperator_none (h : BeginsOperand s) :
    Parser.prefixOperator? scope s = .ok none s := by
  cases h with
  | object hl => simp [Parser.prefixOperator?, hl]
  | @name name _ hi hl =>
    have htypeof : name ≠ "typeof" := ne_of_reserved hi (by decide)
    have hvoid : name ≠ "void" := ne_of_reserved hi (by decide)
    have hdelete : name ≠ "delete" := ne_of_reserved hi (by decide)
    have hawait : name ≠ "await" := ne_of_reserved hi (by decide)
    simp [Parser.prefixOperator?, hl, htypeof, hvoid, hdelete, hawait]

theorem arrow_none (h : BeginsOperand s) : Parser.arrow? g scope s = .ok none s := by
  cases h with
  | object hl => simp [Parser.arrow?, Parser.bracketArrow?, Parser.asyncArrow?, hl]
  | @name name mark _ hl hm hne =>
    by_cases ha : name = "async"
    · have hseen := tried_next (ended_of_mark hm)
      cases hb : s.next.token.afterBreak <;>
        simp [Parser.arrow?, Parser.bracketArrow?, Parser.asyncArrow?, hl, ha, hm, hne, hb, hseen]
    · simp [Parser.arrow?, Parser.bracketArrow?, Parser.asyncArrow?, hl, ha]

theorem not_yield (h : BeginsOperand s) : s.token.lexeme ≠ .word "yield" false := by
  cases h with
  | object hl => simp [hl]
  | name hi hl => simpa [hl] using ne_of_reserved hi (by decide)

/-- A name before a mark is a name, even if the word is another thing before other words. -/
theorem primary_name (hi : isIdentifier name = true) (hl : s.token.lexeme = .word name false)
    (hm : s.next.token.lexeme = .mark mark) :
    Parser.primary g scope s = .ok (.name name) s.next := by
  have hne (word : String) (hw : word ∈ Identifier.reservedWords) : name ≠ word :=
    ne_of_reserved hi hw
  have hvalue : Parser.isValueWord name = false := by
    simp [Parser.isValueWord, hne "this" (by decide), hne "null" (by decide),
      hne "true" (by decide), hne "false" (by decide)]
  have hfunction : Parser.beginsAsyncFunction name s = .ok false s := by
    by_cases ha : name = "async" <;>
      simp [Parser.beginsAsyncFunction, ha, hm, tried_next (ended_of_mark hm)]
  simp [Parser.primary, Parser.wordExpression, hl, not_strictKeyword hi, hvalue, hfunction,
    hne "function" (by decide), hne "class" (by decide), hne "new" (by decide),
    hne "super" (by decide), hne "import" (by decide), Parser.checkName,
    hne "await" (by decide), hne "yield" (by decide)]

-- ---------------------------------------------------------------------------
-- Chains and operations
-- ---------------------------------------------------------------------------

theorem chainStep_end (h : s.token.lexeme = .mark mark) (hc : mark ∈ enders) (calls : Bool)
    (code : Code) : Parser.chainStep g scope calls code s = .ok (.inr code) s := by
  simp only [enders, closers, List.mem_cons, List.not_mem_nil, or_false] at hc
  rcases hc with rfl | rfl | rfl | rfl <;> simp [Parser.chainStep, h]

theorem binaryOperator_none (h : s.token.lexeme = .mark mark) (hc : mark ∈ enders) :
    Parser.binaryOperator? scope s = .ok none s := by
  simp only [enders, closers, List.mem_cons, List.not_mem_nil, or_false] at hc
  rcases hc with rfl | rfl | rfl | rfl <;>
    simp [Parser.binaryOperator?, Parser.joinMarks, h, strength?, typeWords]

theorem chain_primary (hp : Parser.primary g scope s = .ok code s')
    (hm : s'.token.lexeme = .mark mark) (hc : mark ∈ enders) :
    Parser.chain g scope s = .ok code s' := by
  simp [Parser.chain, hp, repeatStep_inr (chainStep_end hm hc true code)]

theorem postfixed_apply (hchain : Parser.chain g scope s = .ok code s')
    (hm : s'.token.lexeme = .mark mark) (hc : mark ∈ enders) :
    Parser.postfixed g scope s = .ok code s' := by
  have hupdate : mark ≠ "++" ∧ mark ≠ "--" := by
    simp only [enders, closers, List.mem_cons, List.not_mem_nil, or_false] at hc
    rcases hc with rfl | rfl | rfl | rfl <;> decide
  simp [Parser.postfixed, hchain, hm, hupdate]

theorem operand_apply (hb : BeginsOperand s) (tight : Bool) :
    Parser.operand g scope tight s = Parser.unary g scope s := by
  cases hb with
  | object hl => simp [Parser.operand, hl]
  | name hi hl => simp [Parser.operand, hl]

theorem operation_apply (hb : BeginsOperand s) (hchain : Parser.chain g scope s = .ok code s')
    (hm : s'.token.lexeme = .mark mark) (hc : mark ∈ enders) (hmix : code.mixesCoalesce = false) :
    Parser.operation g scope s = .ok code s' := by
  have hunary : Parser.unary g scope s = .ok code s' := by
    simp [Parser.unary, repeatStep_first, prefixOperator_none hb, postfixed_apply hchain hm hc,
      Parser.applyOperators]
  simp [Parser.operation, repeatStep_first, Parser.operandStep, operand_apply hb, hunary,
    binaryOperator_none hm hc, operationOf, closeAll, hmix]

-- ---------------------------------------------------------------------------
-- Expressions
-- ---------------------------------------------------------------------------

/-- An operand before a mark that ends it is an expression. -/
theorem assignment_of_primary (hb : BeginsOperand s)
    (hp : Parser.primary g scope s = .ok code s')
    (hm : s'.token.lexeme = .mark mark) (hc : mark ∈ closers) (hmix : code.mixesCoalesce = false) :
    Parser.assignment g scope s = .ok code s' := by
  have hends : mark ∈ enders := List.mem_cons_of_mem _ hc
  have hoperation := operation_apply hb (chain_primary hp hm hends) hm hends hmix
  simp only [closers, List.mem_cons, List.not_mem_nil, or_false] at hc
  have hassign : Parser.assignmentOperator? s' = .ok none s' := by
    rcases hc with rfl | rfl | rfl <;> simp [Parser.assignmentOperator?, hm, assignmentOperators]
  have harrow : mark ≠ "=>" ∧ mark ≠ "?" := by
    rcases hc with rfl | rfl | rfl <;> decide
  simp [Parser.assignment, not_yield hb, arrow_none hb, hoperation, hm, harrow, hassign,
    Parser.conditionalRest]

/-- A name before a mark that ends it is an expression. -/
theorem assignment_of_name (hi : isIdentifier name = true)
    (hl : s.token.lexeme = .word name false) (hm : s.next.token.lexeme = .mark mark)
    (hc : mark ∈ closers) : Parser.assignment g scope s = .ok (.name name) s.next := by
  have hne : mark ≠ "(" := by
    rintro rfl
    exact absurd hc (by decide)
  exact assignment_of_primary (.name hi hl hm hne) (primary_name hi hl hm) hm hc rfl

/-- Where an operand is not read, neither is the expression that it begins. -/
theorem assignment_fails (hb : BeginsOperand s) (hp : Parser.primary g scope s = .error d s') :
    Parser.assignment g scope s = .error d s' := by
  have hpostfixed : Parser.postfixed g scope s = .error d s' := by
    simp [Parser.postfixed, Parser.chain, hp]
  have hoperation : Parser.operation g scope s = .error d s' := by
    simp [Parser.operation, operand_apply hb, Parser.unary, repeatStep_first,
      prefixOperator_none hb, hpostfixed]
  simp [Parser.assignment, not_yield hb, arrow_none hb, hoperation]

-- ---------------------------------------------------------------------------
-- Properties that are assigned
-- ---------------------------------------------------------------------------

/-- A property of a name before an equals sign. -/
theorem chain_access {object word : String} (hi : isIdentifier object = true)
    (hobject : s.token.lexeme = .word object false) (hdot : s.next.token.lexeme = .mark ".")
    (hword : s.next.next.token.lexeme = .word word false)
    (hend : s.next.next.next.token.lexeme = .mark "=") : Parser.chain g scope s =
      .ok (.node (.access false) [.name object, .word word]) s.next.next.next := by
  have haccess : Parser.chainStep g scope true (.name object) s.next =
      .ok (.inl (.node (.access false) [.name object, .word word])) s.next.next.next := by
    simp [Parser.chainStep, hdot, Parser.memberWord, hword, Parser.anyName]
  have hstop : Parser.chainStep g scope true (.node (.access false) [.name object, .word word])
      s.next.next.next = _ := chainStep_end hend (by decide) true _
  simp [Parser.chain, primary_name hi hobject hdot, repeatStep_apply, repeatFor_inl haccess,
    repeatFor_inr hstop]

/-- Where no default of a pattern is pending, there is none to claim. -/
theorem claimCovers_apply (h : s.covers = []) (start stop : Nat) :
    Parser.claimCovers start stop s = .ok () s := by
  obtain ⟨token, here, rest, previous, lexical, problems, covers, exported, comment, overran⟩ := s
  obtain rfl : covers = [] := h
  rfl

/-- An assignment to a property goes on with its value. -/
theorem assignment_of_access {object word : String} (hb : BeginsOperand s)
    (hchain : Parser.chain g scope s =
      .ok (.node (.access false) [.name object, .word word]) s')
    (hm : s'.token.lexeme = .mark "=") (hcovers : s'.covers = []) :
    Parser.assignment g scope s =
      ((fun value => .node (.assignment "=")
        [.node (.access false) [.name object, .word word], value]) <$> g.assignment scope)
          s'.next := by
  have hoperation := operation_apply hb hchain hm (by decide) rfl
  have hassign : Parser.assignmentOperator? s' = .ok (some "=") s' := by
    simp [Parser.assignmentOperator?, hm, assignmentOperators]
  have htarget : Parser.requireTarget (.node (.access false) [.name object, .word word])
      s.token.start s'.previous s' = .ok () s' :=
    claimCovers_apply hcovers ..
  simp [Parser.assignment, not_yield hb, arrow_none hb, hoperation, hm, hassign, htarget]

end

end PagePrelude.Module
