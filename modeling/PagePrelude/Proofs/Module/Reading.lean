import PagePrelude.Module.Program
import PagePrelude.Proofs.Module.Opening

/-!
# Reading token by token

A parser is followed from one place of a text to another. `State.Before` says that all
went well up to a place, `Reads` that a parser gets from one place to the next with a
value, and `Stops` that it gets nowhere.
-/

namespace PagePrelude.Module

-- ---------------------------------------------------------------------------
-- Parsers applied to a state
-- ---------------------------------------------------------------------------

section
variable {s : State}

@[simp] theorem bind_apply (p : Parser α) (f : α → Parser β) :
    (p >>= f) s = match p s with
      | .ok a s' => f a s'
      | .error d s' => .error d s' := by
  show EStateM.bind p f s = _
  unfold EStateM.bind
  cases p s <;> rfl

@[simp] theorem map_apply (f : α → β) (p : Parser α) :
    (f <$> p) s = match p s with
      | .ok a s' => .ok (f a) s'
      | .error d s' => .error d s' := by
  show EStateM.map f p s = _
  unfold EStateM.map
  cases p s <;> rfl

@[simp] theorem pure_apply (a : α) : (pure a : Parser α) s = .ok a s := rfl
@[simp] theorem get_apply : (get : Parser State) s = .ok s s := rfl
@[simp] theorem set_apply (s' : State) : (set s' : Parser PUnit) s = .ok ⟨⟩ s' := rfl
@[simp] theorem throw_apply (d : Diagnostic) : (throw d : Parser α) s = .error d s := rfl
@[simp] theorem lexeme_apply : Parser.lexeme s = .ok s.token.lexeme s := rfl
@[simp] theorem token_apply : Parser.token s = .ok s.token s := rfl
@[simp] theorem start_apply : Parser.start s = .ok s.token.start s := rfl
@[simp] theorem previous_apply : Parser.previous s = .ok s.previous s := rfl
@[simp] theorem peek_apply : Parser.peek s = .ok s.next.token (s.tried s.next) := rfl
@[simp] theorem advance_apply : Parser.advance s = .ok () s.next := rfl

@[simp] theorem fail_apply (problem : Problem) (start stop : Nat) :
    (Parser.fail problem start stop : Parser α) s = .error ⟨problem, start, stop⟩ s := rfl

@[simp] theorem atMark_apply (mark : String) :
    Parser.atMark mark s = .ok (s.token.lexeme == .mark mark) s := rfl

@[simp] theorem atWord_apply (word : String) :
    Parser.atWord word s = .ok (s.token.lexeme == .word word false) s := rfl

@[simp] theorem eat_apply (mark : String) : Parser.eat mark s =
    if s.token.lexeme = .mark mark then .ok true s.next else .ok false s := by
  simp only [Parser.eat, bind_apply, atMark_apply, beq_iff_eq]
  split <;> rfl

@[simp] theorem eatWord_apply (word : String) : Parser.eatWord word s =
    if s.token.lexeme = .word word false then .ok true s.next else .ok false s := by
  simp only [Parser.eatWord, bind_apply, atWord_apply, beq_iff_eq]
  split <;> rfl

@[simp] theorem failExpected_apply (wanted : String) :
    (Parser.failExpected wanted : Parser α) s =
      .error ⟨.expected wanted s.token.lexeme.shown, s.token.start, s.token.stop⟩ s.atEnd := rfl

@[simp] theorem enclosed_apply (p : Parser α) : Parser.enclosed p s = match p s with
    | .ok a s' => .ok a s'
    | .error d s' => .error d s'.atEnd := rfl

@[simp] theorem followed_apply (p : Parser α) : Parser.followed p s = match p s with
    | .ok a s' => .ok a s'
    | .error d s' => .error d s'.withoutReason := rfl

theorem expect_apply (h : s.token.lexeme = .mark mark) :
    Parser.expect mark s = .ok () s.next := by
  simp [Parser.expect, h]

theorem expectWord_apply (h : s.token.lexeme = .word word false) :
    Parser.expectWord word s = .ok () s.next := by
  simp [Parser.expectWord, h]

theorem expect_fails (mark : String) (h : s.token.lexeme ≠ .mark mark) :
    ∃ d, Parser.expect mark s = .error d s.atEnd := by
  simp [Parser.expect, h]

theorem expectWord_fails (word : String) (h : s.token.lexeme ≠ .word word false) :
    ∃ d, Parser.expectWord word s = .error d s.atEnd := by
  simp [Parser.expectWord, h]

theorem unexpected_fails : ∃ d, (Parser.unexpected : Parser α) s = .error d s.withoutReason := by
  unfold Parser.unexpected
  simp only [bind_apply, get_apply, set_apply]
  cases hl : s.token.lexeme <;> cases s.lexical.getLast? <;> exact ⟨_, rfl⟩

theorem ended_of_mark (h : s.token.lexeme = .mark mark) : s.ended = false := by
  simp [State.ended, Lexeme.isOpen, h]

theorem next_overran (s : State) : s.next.overran = s.overran := by
  unfold State.next
  dsimp only
  split <;> rfl

theorem next_overrun (s : State) (overran : Bool) :
    State.next { s with overran } = { s.next with overran } := by
  unfold State.next
  dsimp only
  split <;> rfl

/-- A look at a token that is there leaves no trace. -/
theorem tried_next (h : s.next.ended = false) : s.tried s.next = s := by
  simp [State.tried, next_overran, h]

theorem exhausted_fails : ∃ d s', (Parser.exhausted : Parser α) s = .error d s' := by
  obtain ⟨d, hd⟩ := unexpected_fails (α := α) (s := { s with overran := true })
  exact ⟨d, _, hd⟩

@[simp] theorem atUncertainEnd_apply : Parser.atUncertainEnd s =
    .ok (s.token.lexeme == .endOfText || s.token.lexeme == .unknown) s := by
  simp only [Parser.atUncertainEnd, bind_apply, lexeme_apply]
  cases s.token.lexeme <;> rfl

end

-- ---------------------------------------------------------------------------
-- Places of a text
-- ---------------------------------------------------------------------------

/-- No problem was met so far and no comment, and these names were exported. -/
structure State.Sound (s : State) (exported : List String) : Prop where
  lexical : s.lexical = []
  problems : s.problems = []
  covers : s.covers = []
  comment : s.comment = none
  exported : s.exported.map (·.1) = exported

/-- All went well up to `chars`, and the current token is the first of them. -/
def State.Before (s : State) (exported : List String) (chars : List Char) : Prop :=
  ∃ (earlier : State) (gap : List Char), earlier.Sound exported ∧ earlier.rest = gap ++ chars ∧
    (∀ c ∈ gap, isBlank c = true ∨ isBreak c = true) ∧ s = earlier.next

section
variable {s : State} {exported : List String} {chars rest : List Char} {found : Lexeme}

theorem Opens.gaps {gap : List Char} (h : Opens chars found rest)
    (hg : ∀ c ∈ gap, isBlank c = true ∨ isBreak c = true) : Opens (gap ++ chars) found rest := by
  induction gap with
  | nil => exact h
  | cons c gap ih => exact (ih fun d hd => hg d (by simp [hd])).gap (hg c (by simp))

theorem Jams.gaps {gap : List Char} (h : Jams chars)
    (hg : ∀ c ∈ gap, isBlank c = true ∨ isBreak c = true) : Jams (gap ++ chars) := by
  induction gap with
  | nil => exact h
  | cons c gap ih => exact (ih fun d hd => hg d (by simp [hd])).gap (hg c (by simp))

theorem State.Before.skip (h : s.Before exported (c :: chars))
    (hc : isBlank c = true ∨ isBreak c = true) : s.Before exported chars := by
  obtain ⟨earlier, gap, hs, hr, hg, rfl⟩ := h
  refine ⟨earlier, gap ++ [c], hs, by simp [hr], ?_, rfl⟩
  intro d hd
  rcases List.mem_append.mp hd with hd | hd
  · exact hg d hd
  · exact List.mem_singleton.mp hd ▸ hc

theorem State.Before.blank (h : s.Before exported (' ' :: chars)) : s.Before exported chars :=
  h.skip (.inl (by decide))

theorem State.Before.newLine (h : s.Before exported ('\n' :: chars)) : s.Before exported chars :=
  h.skip (.inr (by decide))

theorem next_of_opens (hs : s.Sound exported) (h : Opens s.rest found rest) :
    s.next.token.lexeme = found ∧ s.next.rest = rest ∧ s.next.Sound exported := by
  obtain ⟨here, start, broken, stop, hg, hp⟩ := h s.token.stop false
  have hgap : gap s.token.stop s.rest = ⟨here, start, broken, none, none⟩ := hg
  obtain ⟨h1, h2, h3, h4, h5⟩ := hs
  refine ⟨?_, ?_, ?_⟩ <;> simp only [State.next, State.take, hgap, hp]
  exact ⟨by simp [h1], h2, h3, by simp [h4], h5⟩

theorem State.Before.opens (h : s.Before exported chars) (ho : Opens chars found rest) :
    s.token.lexeme = found ∧ s.rest = rest ∧ s.Sound exported := by
  obtain ⟨earlier, gap, hs, hr, hg, rfl⟩ := h
  exact next_of_opens hs (hr ▸ ho.gaps hg)

theorem State.Before.lexeme (h : s.Before exported chars) (ho : Opens chars found rest) :
    s.token.lexeme = found :=
  (h.opens ho).1

theorem State.Before.next (h : s.Before exported chars) (ho : Opens chars found rest) :
    s.next.Before exported rest :=
  ⟨s, [], (h.opens ho).2.2, by simp [(h.opens ho).2.1], by simp, rfl⟩

/-- Something that was only tried leaves the place as it was. -/
theorem State.Before.overrun (h : s.Before exported chars) (overran : Bool) :
    State.Before { s with overran } exported chars := by
  obtain ⟨earlier, gap, ⟨hlexical, hproblems, hcovers, hcomment, hexported⟩, hr, hg, rfl⟩ := h
  exact ⟨{ earlier with overran }, gap,
    ⟨hlexical, hproblems, hcovers, hcomment, hexported⟩, hr, hg, (next_overrun earlier _).symm⟩

/-- Moving on after a name was exported. -/
theorem State.Before.exporting {exported : List String} (h : s.Before exported chars)
    (ho : Opens chars found rest) (name : String) (place : Nat × Nat) :
    (State.next { s with exported := s.exported ++ [(name, place)] }).Before (exported ++ [name])
      rest := by
  obtain ⟨-, hrest, hlexical, hproblems, hcovers, hcomment, hexported⟩ := h.opens ho
  exact ⟨{ s with exported := s.exported ++ [(name, place)] }, [],
    ⟨hlexical, hproblems, hcovers, hcomment, by simp [hexported]⟩, by simp [hrest], by simp, rfl⟩

theorem State.Before.jams (h : s.Before exported chars) (hj : Jams chars) :
    s.token.lexeme = .unknown := by
  obtain ⟨earlier, gap, hs, hr, hg, rfl⟩ := h
  obtain ⟨here, start, broken, hgap, hp⟩ := (hj.gaps hg) earlier.token.stop false
  have hgap : Module.gap earlier.token.stop earlier.rest = ⟨here, start, broken, none, none⟩ := by
    rw [hr]
    exact hgap
  simp only [State.next, State.take, hgap, hp]

end

-- ---------------------------------------------------------------------------
-- What a parser does with a text
-- ---------------------------------------------------------------------------

/-- Before `chars` the parser gives `value` and goes on to `rest`, with nothing exported. -/
def Reads (p : Parser α) (chars : List Char) (value : α) (rest : List Char) : Prop :=
  ∀ ⦃s : State⦄ ⦃exported : List String⦄, s.Before exported chars →
    ∃ s', p s = .ok value s' ∧ s'.Before exported rest

/-- Before `chars` the parser fails. -/
def Stops (p : Parser α) (chars : List Char) : Prop :=
  ∀ ⦃s : State⦄ ⦃exported : List String⦄, s.Before exported chars → ∃ d s', p s = .error d s'

/-- The parser fails, or comes before characters that form no token. -/
def BalksAt (p : Parser α) (s : State) : Prop :=
  (∃ d s', p s = .error d s') ∨ ∃ a s', p s = .ok a s' ∧ s'.token.lexeme = .unknown

/-- Before `chars` the parser fails, or goes on to characters that form no token. -/
def Balks (p : Parser α) (chars : List Char) : Prop :=
  ∀ ⦃s : State⦄ ⦃exported : List String⦄, s.Before exported chars → BalksAt p s

-- ---------------------------------------------------------------------------
-- Repeated steps
-- ---------------------------------------------------------------------------

section
variable {step : α → Parser (α ⊕ β)} {s s' : State}

theorem repeatFor_inl (h : step a s = .ok (.inl next) s') :
    Parser.repeatFor step (fuel + 1) a s = Parser.repeatFor step fuel next s' := by
  simp [Parser.repeatFor, h]

theorem repeatFor_inr (h : step a s = .ok (.inr result) s') :
    Parser.repeatFor step (fuel + 1) a s = .ok result s' := by
  simp [Parser.repeatFor, h]

theorem repeatStep_apply (step : α → Parser (α ⊕ β)) (a : α) :
    Parser.repeatStep step a s = Parser.repeatFor step (s.rest.length + 2) a s := by
  simp [Parser.repeatStep]

theorem repeatStep_first (step : α → Parser (α ⊕ β)) (a : α) :
    Parser.repeatStep step a s = match step a s with
      | .ok (.inl next) s' => Parser.repeatFor step (s.rest.length + 1) next s'
      | .ok (.inr result) s' => .ok result s'
      | .error d s' => .error d s' := by
  rw [repeatStep_apply]
  rw [Parser.repeatFor, bind_apply]
  cases step a s with
  | ok a s' => cases a <;> rfl
  | error d s' => rfl

/-- Repetition that ends with its first step. -/
theorem repeatStep_inr (h : step a s = .ok (.inr result) s') :
    Parser.repeatStep step a s = .ok result s' := by
  rw [repeatStep_apply]
  exact repeatFor_inr h

theorem balksAt_of_no_fuel (a : α) : BalksAt (Parser.repeatFor step 0 a) s :=
  .inl exhausted_fails

theorem balksAt_of_inl (h : step a s = .ok (.inl next) s')
    (hn : ∀ fuel, BalksAt (Parser.repeatFor step fuel next) s') (fuel : Nat) :
    BalksAt (Parser.repeatFor step fuel a) s := by
  cases fuel with
  | zero => exact balksAt_of_no_fuel a
  | succ fuel =>
    unfold BalksAt
    rw [repeatFor_inl h]
    exact hn fuel

theorem balksAt_of_inr (h : step a s = .ok (.inr result) s') (hu : s'.token.lexeme = .unknown)
    (fuel : Nat) : BalksAt (Parser.repeatFor step fuel a) s := by
  cases fuel with
  | zero => exact balksAt_of_no_fuel a
  | succ fuel => exact .inr ⟨result, s', repeatFor_inr h, hu⟩

theorem balksAt_of_error (h : step a s = .error d s') (fuel : Nat) :
    BalksAt (Parser.repeatFor step fuel a) s := by
  cases fuel with
  | zero => exact balksAt_of_no_fuel a
  | succ fuel => exact .inl ⟨d, s', by simp [Parser.repeatFor, h]⟩

end

end PagePrelude.Module
