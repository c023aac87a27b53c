import Mathlib.Data.List.Forall2
import PagePrelude.Proofs.Longer.Steps

/-!
# Parts of a parser in a longer text

What parsers are made of does in a longer text what it does in the text: to stop with a problem, to
move past what comes next, to try something, and to repeat a step.
-/

namespace PagePrelude.Module

section
variable {tail : Tail} {inside : Bool} {rel : α → α → Prop} {p p' : Parser α} {s s' t : State}

-- ---------------------------------------------------------------------------
-- Problems
-- ---------------------------------------------------------------------------

theorem Fails.fail (problem : Problem) (start stop : Nat) :
    Fails (Parser.fail problem start stop : Parser α) :=
  fun s => ⟨_, s, rfl, id, id⟩

theorem Fails.failToken (problem : Problem) : Fails (Parser.failToken problem : Parser α) :=
  fun s => ⟨_, s, rfl, id, id⟩

theorem Fails.failExpectedOr (separator close : String) :
    Fails (Parser.failExpectedOr separator close : Parser α) :=
  fun s => ⟨_, s, rfl, id, id⟩

theorem atEnd_ended (h : s.ended = true) : s.atEnd.ended = true :=
  ended_iff.mpr ⟨(ended_iff.mp h).1, rfl⟩

theorem withoutReason_overran (s : State) : s.withoutReason.overran = s.overran := by
  unfold State.withoutReason
  split <;> rfl

theorem withoutReason_ended (s : State) : s.withoutReason.ended = s.ended := by
  unfold State.withoutReason
  split <;> rfl

theorem Fails.failExpected (wanted : String) : Fails (Parser.failExpected wanted : Parser α) :=
  fun s => ⟨_, s.atEnd, rfl, id, atEnd_ended⟩

theorem Fails.unexpected : Fails (Parser.unexpected : Parser α) := fun s => by
  obtain ⟨d, hd⟩ := unexpected_fails (α := α) (s := s)
  exact ⟨d, _, hd, (withoutReason_overran s).trans, (withoutReason_ended s).trans⟩

theorem exhausted_apply (s : State) :
    ∃ d t, (Parser.exhausted : Parser α) s = .error d t ∧ t.overran = true := by
  obtain ⟨d, hd⟩ := unexpected_fails (α := α) (s := { s with overran := true })
  exact ⟨d, _, hd, withoutReason_overran _⟩

theorem Needs.exhausted : Needs (Parser.exhausted : Parser α) := fun s _ => by
  obtain ⟨d, t, ht, hover⟩ := exhausted_apply (α := α) s
  exact ⟨d, t, ht, .inl hover⟩

/-- Where a parser ran out of the text, nothing is said about a longer one. -/
theorem Through.exhausted (p : Parser α) : Through tail inside rel Parser.exhausted p := by
  refine .of_needs ⟨fun s _ => ?_, fun {s s'} _ => ?_⟩ Needs.exhausted
  · obtain ⟨d, t, ht, hover⟩ := exhausted_apply (α := α) s
    exact last_error ht ▸ hover
  · obtain ⟨d, t, ht, hover⟩ := exhausted_apply (α := α) s
    rw [ht]
    exact .inl hover

/-- A change of what is only told about the reading. -/
structure Quiet (change : State → State) : Prop where
  token : ∀ s, (change s).token = s.token
  here : ∀ s, (change s).here = s.here
  rest : ∀ s, (change s).rest = s.rest
  lexical : ∀ s, (change s).lexical = s.lexical
  overran : ∀ s, (change s).overran = s.overran

theorem Quiet.ended {change : State → State} (h : Quiet change) (s : State) :
    (change s).ended = s.ended := by
  rw [State.ended, State.ended, h.token, h.rest]

theorem Quiet.still {change change' : State → State} (h : Quiet change) (h' : Quiet change') :
    Still tail Eq (modify change) (modify change') where
  keeps s hs := (h.overran s).trans hs
  within {s s'} hs := .inr ⟨_, _, rfl, rfl,
    by rw [h.token, h'.token]; exact hs.lexeme, by rw [h.token, h'.token]; exact hs.afterBreak,
    by rw [h.here, h'.here]; exact hs.here, by rw [h.rest, h'.rest]; exact hs.rest,
    by rw [h.here]; exact hs.filled, (h.ended s).trans hs.ended,
    by rw [h.token, h.lexical]; exact hs.told⟩

theorem Quiet.through {change change' : State → State} (h : Quiet change) (h' : Quiet change') :
    Through tail inside Eq (modify change) (modify change') where
  toUpto := (h.still h').upto
  stays s hs := ⟨(h.ended s).trans hs, fun hlexical => by
    show (change s).lexical ≠ []
    rwa [h.lexical]⟩
  between {s s'} hs := .inr ⟨_, _, rfl, rfl, .inr ⟨by rw [h.token]; exact hs.lexeme,
    by rw [h.rest]; exact hs.rest, by rw [h'.token]; exact hs.lexeme',
    by rw [h'.here]; exact hs.here', by rw [h'.rest]; exact hs.rest',
    by rw [h'.token]; exact hs.apart⟩⟩

theorem note_quiet (problem : Problem) (start stop : Nat) :
    Quiet fun s => { s with problems := s.problems ++ [⟨problem, start, stop⟩] } :=
  ⟨fun _ => rfl, fun _ => rfl, fun _ => rfl, fun _ => rfl, fun _ => rfl⟩

theorem Still.note (problem problem' : Problem) (start start' stop stop' : Nat) :
    Still tail Eq (Parser.note problem start stop) (Parser.note problem' start' stop') :=
  (note_quiet problem start stop).still (note_quiet problem' start' stop')

theorem Through.note (problem problem' : Problem) (start start' stop stop' : Nat) :
    Through tail inside Eq (Parser.note problem start stop)
      (Parser.note problem' start' stop') :=
  (note_quiet problem start stop).through (note_quiet problem' start' stop')

theorem noteAll_quiet (problems : List Problem) (start stop : Nat) :
    Quiet fun s => { s with problems := s.problems ++ problems.map (⟨·, start, stop⟩) } :=
  ⟨fun _ => rfl, fun _ => rfl, fun _ => rfl, fun _ => rfl, fun _ => rfl⟩

theorem note_stays (problem : Problem) (start stop : Nat) :
    Stays (Parser.note problem start stop) :=
  fun _ hs => ⟨hs, id⟩

section
variable {c : Prop} [Decidable c] {k k' : PUnit → Parser α}

/-- A problem of the current token that is noted before the rest of a parser, or none. -/
theorem Upto.noteHere (problem : Problem) (hk : Upto tail inside rel (k ⟨⟩) (k' ⟨⟩)) :
    Upto tail inside rel
      (if c then Parser.token >>= fun t => Parser.note problem t.start t.stop >>= k else k ⟨⟩)
      (if c then Parser.token >>= fun t => Parser.note problem t.start t.stop >>= k' else k' ⟨⟩) :=
  .ite (fun _ => .token fun {_ _} _ _ => (Still.note ..).bind fun _ => hk) fun _ => hk

theorem Through.noteHere (problem : Problem) (hk : Through tail inside rel (k ⟨⟩) (k' ⟨⟩)) :
    Through tail inside rel
      (if c then Parser.token >>= fun t => Parser.note problem t.start t.stop >>= k else k ⟨⟩)
      (if c then Parser.token >>= fun t => Parser.note problem t.start t.stop >>= k' else k' ⟨⟩) :=
  .ite (fun _ => .place fun _ _ => (Through.note ..).bind fun _ => hk) fun _ => hk

theorem Takes.noteHere (problem : Problem) (hk : Takes tail inside rel (k ⟨⟩) (k' ⟨⟩)) :
    Takes tail inside rel
      (if c then Parser.token >>= fun t => Parser.note problem t.start t.stop >>= k else k ⟨⟩)
      (if c then Parser.token >>= fun t => Parser.note problem t.start t.stop >>= k' else k' ⟨⟩) :=
  ⟨.noteHere problem hk.toUpto, .ite (fun _ => .token fun _ => .after (note_stays _ _ _)
    fun _ => hk.needs) fun _ => hk.needs⟩

end

theorem Through.unexpected :
    Through tail inside rel (Parser.unexpected : Parser α) Parser.unexpected :=
  Fails.unexpected.through Fails.unexpected

theorem Needs.unexpected : Needs (Parser.unexpected : Parser α) :=
  Fails.unexpected.needs

-- ---------------------------------------------------------------------------
-- What comes next
-- ---------------------------------------------------------------------------

/-- To move on, and then the rest of a parser. -/
theorem Upto.next {f f' : PUnit → Parser α} (h : Through tail inside rel (f ⟨⟩) (f' ⟨⟩)) :
    Upto tail inside rel (Parser.advance >>= f) (Parser.advance >>= f') :=
  Upto.advance.weaken.bind fun _ => h

/-- To move on twice, and then to something that needs a token. -/
theorem Upto.nextTwo {f f' : PUnit → Parser α} (h : Takes tail inside rel (f ⟨⟩) (f' ⟨⟩)) :
    Upto tail inside rel (Parser.advance >>= fun _ => Parser.advance >>= f)
      (Parser.advance >>= fun _ => Parser.advance >>= f') :=
  .next (.of_needs (.next h.through) (.after advance_stays fun _ => h.needs))

/-- A word that begins no item, in front of a parser, and none. -/
theorem Through.atWord {word : String} (hword : word ≠ "export" ∧ word ≠ "import")
    {f f' : Bool → Parser α} (hyes : Upto tail inside rel (f true) (f' true))
    (hno : Through tail inside rel (f false) (f' false)) :
    Through tail inside rel (Parser.atWord word >>= f) (Parser.atWord word >>= f') := by
  change Through tail inside rel (Parser.lexeme >>= fun lexeme => f (lexeme == .word word false))
    (Parser.lexeme >>= fun lexeme => f' (lexeme == .word word false))
  refine .lexeme (fun lexeme => ?_) fun {lexeme lexeme'} h => ?_
  · cases lexeme == .word word false
    · exact hno.toUpto
    · exact hyes
  · have hother (other : String) (h : word ≠ other) :
        (Lexeme.word other false == .word word false) = false := by
      simp [Ne.symm h]
    cases h with
    | exporting => rwa [hother _ hword.1]
    | importing => rwa [hother _ hword.2]
    | _ => exact hno

theorem Still.word (word : String) :
    Still tail Eq (Parser.atWord word) (Parser.atWord word) :=
  Still.lexeme.chain (fun _ => rfl) fun _ _ h => h ▸ .pure rfl

theorem Upto.atWord {word : String} {f f' : Bool → Parser α}
    (hf : ∀ b, Upto tail inside rel (f b) (f' b)) :
    Upto tail inside rel (Parser.atWord word >>= f) (Parser.atWord word >>= f') :=
  (Still.word word).bind hf

theorem Needs.atWord {word : String} {f : Bool → Parser α} (hf : Needs (f false)) :
    Needs (Parser.atWord word >>= f) :=
  .lexeme (f := fun lexeme => f (lexeme == .word word false)) hf hf fun _ => hf

theorem Through.eat (mark : String) :
    Through tail inside Eq (Parser.eat mark) (Parser.eat mark) :=
  .atMark (Upto.advance.weaken.bind fun _ => .pure rfl) (.pure rfl)

theorem Through.eatWord {word : String} (hword : word ≠ "export" ∧ word ≠ "import") :
    Through tail inside Eq (Parser.eatWord word) (Parser.eatWord word) :=
  .atWord hword (Upto.advance.weaken.bind fun _ => .pure rfl) (.pure rfl)

theorem Needs.eat {mark : String} {f : Bool → Parser α} (hf : Needs (f false)) :
    Needs (Parser.eat mark >>= f) := fun s hs => by
  have hne : ¬s.token.lexeme = .mark mark := fun h => by
    have hended := ended_of_mark h
    rw [hs] at hended
    cases hended
  rw [bind_apply, eat_apply, if_neg hne]
  exact hf s hs

theorem Needs.eatWord {word : String} {f : Bool → Parser α} (hf : Needs (f false)) :
    Needs (Parser.eatWord word >>= f) := fun s hs => by
  have hne : ¬s.token.lexeme = .word word false := fun h => by
    have hopen := (ended_iff.mp hs).2
    rw [h] at hopen
    cases hopen
  rw [bind_apply, eatWord_apply, if_neg hne]
  exact hf s hs

theorem Takes.eat {β : Type} {mark : String} {rel : β → β → Prop} {f f' : Bool → Parser β}
    (hyes : Through tail inside rel (f true) (f' true))
    (hno : Takes tail inside rel (f false) (f' false)) :
    Takes tail inside rel (Parser.eat mark >>= f) (Parser.eat mark >>= f') :=
  ⟨(Through.eat mark).toUpto.bind (Bool.forall_bool.mpr ⟨hno.through, hyes⟩), .eat hno.needs⟩

theorem Needs.expect (mark : String) : Needs (Parser.expect mark) :=
  .eat (Fails.failExpected mark).needs

theorem Through.expect (mark : String) :
    Through tail inside Eq (Parser.expect mark) (Parser.expect mark) :=
  (Through.eat mark).bind fun _ =>
    .ite (fun _ => (Fails.failExpected mark).through (Fails.failExpected mark)) fun _ => .pure rfl

theorem Through.expectWord {word : String} (hword : word ≠ "export" ∧ word ≠ "import") :
    Through tail inside Eq (Parser.expectWord word) (Parser.expectWord word) :=
  (Through.eatWord hword).bind fun _ =>
    .ite (fun _ => (Fails.failExpected word).through (Fails.failExpected word)) fun _ => .pure rfl

-- ---------------------------------------------------------------------------
-- What is closed, or followed by something
-- ---------------------------------------------------------------------------

/-- A parser that says something else about the problem that stops it. -/
def retold (change : State → State) (p : Parser α) : Parser α := fun s =>
  match p s with
  | .ok a t => .ok a t
  | .error d t => .error d (change t)

/-- A change of a state that hides nothing of what was tried. -/
structure Hides (change : State → State) : Prop where
  overran : ∀ s, (change s).overran = s.overran
  ended : ∀ s, s.ended = true → (change s).ended = true

theorem hides_atEnd : Hides State.atEnd :=
  ⟨fun _ => rfl, fun _ => atEnd_ended⟩

theorem hides_withoutReason : Hides State.withoutReason :=
  ⟨withoutReason_overran, fun s => (withoutReason_ended s).trans⟩

theorem Hides.keeps {change : State → State} (hc : Hides change) (h : Keeps p) :
    Keeps (retold change p) := fun s hs => by
  have hlast := h s hs
  unfold Parser.last retold at *
  cases hp : p s with
  | ok a t => rwa [hp] at hlast
  | error d t =>
    rw [hp] at hlast
    exact (hc.overran t).trans hlast

theorem Hides.follows {change : State → State} (hc : Hides change)
    (h : Follows tail inside rel (p s) (p' s')) :
    Follows tail inside rel (retold change p s) (retold change p' s') := by
  unfold retold
  cases hp : p s with
  | ok a t =>
    rw [hp] at h
    refine h.imp_right ?_
    rintro ⟨a', t', hp', hat⟩
    exact ⟨a', t', by rw [hp'], hat⟩
  | error d t =>
    rw [hp] at h
    refine h.imp (hc.overran t).trans (Or.imp (hc.ended t) ?_)
    rintro ⟨d', t', hp'⟩
    exact ⟨d', _, by rw [hp']⟩

theorem Hides.stays {change : State → State} (hc : Hides change) (h : Stays p) :
    Stays (retold change p) := fun s hs => by
  have hstays := h s hs
  unfold retold
  cases hp : p s with
  | ok a t => rwa [hp] at hstays
  | error d t =>
    rw [hp] at hstays
    exact hstays.imp (hc.overran t).trans (hc.ended t)

theorem Hides.needs {change : State → State} (hc : Hides change) (h : Needs p) :
    Needs (retold change p) := fun s hs => by
  obtain ⟨d, t, hp, ht⟩ := h s hs
  exact ⟨d, _, by simp only [retold, hp], ht.imp (hc.overran t).trans (hc.ended t)⟩

theorem Hides.upto {change : State → State} (hc : Hides change)
    (h : Upto tail inside rel p p') :
    Upto tail inside rel (retold change p) (retold change p') :=
  ⟨hc.keeps h.keeps, fun hs => hc.follows (h.within hs)⟩

theorem Hides.through {change : State → State} (hc : Hides change)
    (h : Through tail inside rel p p') :
    Through tail inside rel (retold change p) (retold change p') :=
  ⟨hc.upto h.toUpto, hc.stays h.stays, fun hs => hc.follows (h.between hs)⟩

theorem Upto.enclosed (h : Upto tail inside rel p p') :
    Upto tail inside rel (Parser.enclosed p) (Parser.enclosed p') :=
  hides_atEnd.upto h

theorem Through.enclosed (h : Through tail inside rel p p') :
    Through tail inside rel (Parser.enclosed p) (Parser.enclosed p') :=
  hides_atEnd.through h

theorem Needs.enclosed (h : Needs p) : Needs (Parser.enclosed p) :=
  hides_atEnd.needs h

theorem Upto.followed (h : Upto tail inside rel p p') :
    Upto tail inside rel (Parser.followed p) (Parser.followed p') :=
  hides_withoutReason.upto h

theorem Through.followed (h : Through tail inside rel p p') :
    Through tail inside rel (Parser.followed p) (Parser.followed p') :=
  hides_withoutReason.through h

theorem Needs.followed (h : Needs p) : Needs (Parser.followed p) :=
  hides_withoutReason.needs h

/-- The first part of the head of a loop, which something must follow. -/
theorem Takes.head (h : Takes tail inside rel p p') :
    Takes tail inside rel (Parser.followed (Parser.enclosed p))
      (Parser.followed (Parser.enclosed p')) :=
  ⟨.followed (.enclosed h.toUpto), .followed (.enclosed h.needs)⟩

/-- A part in brackets, whatever comes behind what closes it. -/
theorem Through.closed {β : Type} {rel' : β → β → Prop} {f f' : α → Parser β}
    (h : Through tail true rel p p') (hrel : ∀ a, rel a a)
    (hf : ∀ a a', rel a a' → Upto tail inside rel' (f a) (f' a'))
    (hneeds : ∀ a, Needs (f a)) :
    Through tail inside rel' (Parser.enclosed p >>= f) (Parser.enclosed p' >>= f') :=
  .of_needs (h.enclosed.toUpto.bindNeeds hrel hf hneeds) (.after h.enclosed.stays hneeds)

/-- What needs a token may follow a part in brackets. -/
theorem Takes.behind {β : Type} {rel' : β → β → Prop} {f f' : α → Parser β}
    (hp : Through tail true Eq p p') (hf : ∀ a, Takes tail inside rel' (f a) (f' a)) :
    Takes tail inside rel' (p >>= f) (p' >>= f') :=
  ⟨hp.toUpto.bindNeeds (fun _ => rfl) (fun a _ ha => ha ▸ (hf a).toUpto) fun a => (hf a).needs,
    .after hp.stays fun a => (hf a).needs⟩

/-- A part in brackets, and the mark that closes it. -/
theorem Through.closedBy {β : Type} {rel' : β → β → Prop} {f f' : α → Parser β} (mark : String)
    (h : Through tail true Eq p p') (hf : ∀ a, Through tail inside rel' (f a) (f' a)) :
    Through tail inside rel' (Parser.enclosed p >>= fun a => Parser.expect mark >>= fun _ => f a)
      (Parser.enclosed p' >>= fun a => Parser.expect mark >>= fun _ => f' a) :=
  h.closed (fun _ => rfl) (fun a _ ha => ha ▸ ((Through.expect mark).bind fun _ => hf a).toUpto)
    fun _ => (Needs.expect mark).bind

-- ---------------------------------------------------------------------------
-- What is only tried
-- ---------------------------------------------------------------------------

theorem State.Within.tried {last last' : State} (h : s.Within tail s') :
    (s.tried last).Within tail (s'.tried last') :=
  ⟨h.lexeme, h.afterBreak, h.here, h.rest, h.filled, h.ended, h.told⟩

theorem State.Within.missed {last last' : State} (h : s.Within tail s') :
    (s.missed last).Within tail (s'.missed last') :=
  ⟨h.lexeme, h.afterBreak, h.here, h.rest, h.filled, h.ended, h.told⟩

theorem tried_overran {last : State}
    (h : s.overran = true ∨ last.overran = true ∨ last.ended = true) :
    (s.tried last).overran = true := by
  simpa [State.tried, or_assoc] using h

theorem missed_overran {last : State} (h : s.overran = true ∨ last.Excused false) :
    (s.missed last).overran = true := by
  simp only [State.missed, Bool.or_eq_true, Bool.and_eq_true, or_assoc]
  refine h.imp_right (Or.imp_right fun hended => ⟨hended.1, ?_⟩)
  simpa using hended.2

theorem Upto.attempt {p p' : Parser (Option α)} (h : Upto tail false Eq p p') :
    Upto tail false Eq (Parser.attempt p) (Parser.attempt p') where
  keeps s hs := by
    have hlast := h.keeps s hs
    unfold Parser.last Parser.attempt at *
    cases hp : p s with
    | ok a t =>
      rw [hp] at hlast
      cases a with
      | none => exact missed_overran (.inl hs)
      | some a => exact hlast
    | error d t => exact tried_overran (.inl hs)
  within {s s'} hs := by
    have hfollows := h.within hs
    unfold Parser.attempt
    cases hp : p s with
    | ok a t =>
      rw [hp] at hfollows
      cases a with
      | some a =>
        refine hfollows.imp_right ?_
        rintro ⟨_, t', hp', rfl, ht⟩
        exact ⟨some a, t', by rw [hp'], rfl, ht⟩
      | none =>
        rcases hfollows with ht | ⟨_, t', hp', rfl, ht⟩
        · exact .inl (.inl (missed_overran (.inr ht)))
        · exact .inr ⟨none, _, by rw [hp'], rfl, .inl hs.missed⟩
    | error d t =>
      rw [hp] at hfollows
      rcases hfollows with hover | hended | ⟨d', t', hp'⟩
      · exact .inl (.inl (tried_overran (.inr (.inl hover))))
      · exact .inl (.inl (tried_overran (.inr (.inr hended))))
      · exact .inr ⟨none, _, by rw [hp'], rfl, .inl hs.tried⟩

theorem Still.lookAhead (h : Upto tail true Eq p p') :
    Still tail Eq (Parser.lookAhead p) (Parser.lookAhead p') where
  keeps s hs := by
    unfold Parser.last Parser.lookAhead
    cases p s <;> exact tried_overran (.inl hs)
  within {s s'} hs := by
    have hfollows := h.within hs
    unfold Parser.lookAhead
    cases hp : p s with
    | ok a t =>
      rw [hp] at hfollows
      rcases hfollows with ht | ⟨_, t', hp', rfl, ht⟩
      · exact .inl (tried_overran (.inr (ht.imp_right And.left)))
      · exact .inr ⟨some a, _, by rw [hp'], rfl, hs.tried⟩
    | error d t =>
      rw [hp] at hfollows
      rcases hfollows with hover | hended | ⟨d', t', hp'⟩
      · exact .inl (tried_overran (.inr (.inl hover)))
      · exact .inl (tried_overran (.inr (.inr hended)))
      · exact .inr ⟨none, _, by rw [hp'], rfl, hs.tried⟩

theorem Still.peek : Still tail
    (fun t t' => t'.lexeme = t.lexeme ∧ t'.afterBreak = t.afterBreak) Parser.peek Parser.peek where
  keeps s hs := tried_overran (.inl hs)
  within {s s'} hs := by
    rcases hs.next with hnext | hnext | hnext
    · exact .inl (tried_overran (.inr (hnext.imp_right And.left)))
    · exact .inr ⟨_, _, rfl, ⟨hnext.lexeme, hnext.afterBreak⟩, hs.tried⟩
    · exact .inl (tried_overran (.inr (.inr hnext.ended)))

theorem Upto.peek {β : Type} {rel : β → β → Prop} {f f' : Token → Parser β}
    (hf : ∀ {t t'}, t'.lexeme = t.lexeme → t'.afterBreak = t.afterBreak →
      Upto tail inside rel (f t) (f' t')) :
    Upto tail inside rel (Parser.peek >>= f) (Parser.peek >>= f') :=
  Still.peek.bindRel (fun _ => ⟨rfl, rfl⟩) fun _ _ ht => hf ht.1 ht.2

-- ---------------------------------------------------------------------------
-- What may be there
-- ---------------------------------------------------------------------------

/-- Two parsers tell alike whether the current token is of some kind, which no token at the end of
the text is. -/
structure Seeks (tail : Tail) (p p' : Parser (Option α)) : Prop where
  still : Still tail Eq p p'
  nothing : ∀ {s s' : State}, s.token.lexeme.Ends s'.token.lexeme →
    p s = .ok none s ∧ p' s' = .ok none s'

theorem Seeks.bind {β : Type} {rel' : β → β → Prop} {p p' : Parser (Option α)}
    {f f' : Option α → Parser β} (h : Seeks tail p p')
    (hyes : ∀ a, Upto tail inside rel' (f (some a)) (f' (some a)))
    (hno : Through tail inside rel' (f none) (f' none)) :
    Through tail inside rel' (p >>= f) (p' >>= f') where
  toUpto := h.still.bind fun a => by
    cases a with
    | none => exact hno.toUpto
    | some a => exact hyes a
  stays s hs := by
    obtain ⟨hp, -⟩ := h.nothing (s := s) (Lexeme.ends_of_isOpen (ended_iff.mp hs).2)
    rw [bind_apply, hp]
    exact hno.stays s hs
  between hs := by
    obtain ⟨hp, hp'⟩ := h.nothing hs.ends
    rw [bind_apply, bind_apply, hp, hp']
    exact hno.between hs

-- ---------------------------------------------------------------------------
-- Repeated steps
-- ---------------------------------------------------------------------------

section
variable {β : Type} {relA : α → α → Prop} {relB : β → β → Prop} {step step' : α → Parser (α ⊕ β)}

theorem Through.repeatFor (hrelA : ∀ a, relA a a) (hrelB : ∀ b, relB b b)
    (hstep : ∀ a a', relA a a' → Through tail inside (Sum.LiftRel relA relB) (step a) (step' a'))
    {fuel fuel' : Nat} (hfuel : fuel ≤ fuel') {a a' : α} (ha : relA a a') :
    Through tail inside relB (Parser.repeatFor step fuel a) (Parser.repeatFor step' fuel' a') := by
  induction fuel generalizing fuel' a a' with
  | zero => exact .exhausted _
  | succ fuel ih =>
    obtain ⟨fuel', rfl⟩ := Nat.exists_eq_add_one_of_ne_zero (Nat.ne_zero_of_lt hfuel)
    refine (hstep a a' ha).bindRel ?_ fun found found' hfound => ?_
    · rintro (a | b)
      · exact .inl (hrelA a)
      · exact .inr (hrelB b)
    · cases hfound with
      | inl hnext => exact ih (Nat.le_of_succ_le_succ hfuel) hnext
      | inr hresult => exact .pure hresult

/-- A step that is repeated as long as there may be characters left. -/
theorem Through.repeatStepRel (hrelA : ∀ a, relA a a) (hrelB : ∀ b, relB b b)
    (hstep : ∀ a a', relA a a' → Through tail inside (Sum.LiftRel relA relB) (step a) (step' a'))
    {a a' : α} (ha : relA a a') :
    Through tail inside relB (Parser.repeatStep step a) (Parser.repeatStep step' a') := by
  have hfor (n m : Nat) (hle : n ≤ m) :=
    Through.repeatFor hrelA hrelB hstep (Nat.add_le_add_right hle 2) ha
  refine ⟨⟨fun s hs => ?_, fun {s s'} hs => ?_⟩, fun s hs => ?_, fun {s s'} hs => ?_⟩
  · have hkeeps := (hfor s.rest.length s.rest.length le_rfl).keeps s hs
    rwa [Parser.last, repeatStep_apply]
  · rw [repeatStep_apply, repeatStep_apply]
    exact (hfor _ _ (by rw [hs.rest]; simp)).within hs
  · rw [repeatStep_apply]
    exact (hfor s.rest.length s.rest.length le_rfl).stays s hs
  · rw [repeatStep_apply, repeatStep_apply]
    exact (hfor _ _ (by rw [hs.rest]; simp)).between hs

theorem Through.repeatStep (hstep : ∀ a, Through tail inside Eq (step a) (step' a)) (a : α) :
    Through tail inside Eq (Parser.repeatStep step a) (Parser.repeatStep step' a) := by
  refine .repeatStepRel (fun _ => rfl) (fun _ => rfl) (fun a a' ha => ?_) rfl
  subst ha
  refine (hstep a).mono fun {found found'} hfound => ?_
  subst hfound
  cases found with
  | inl next => exact .inl rfl
  | inr result => exact .inr rfl

end

-- ---------------------------------------------------------------------------
-- Lists
-- ---------------------------------------------------------------------------

theorem Through.mark (mark : String) :
    Through tail inside Eq (Parser.atMark mark) (Parser.atMark mark) :=
  .lexeme (fun _ => (Through.pure rfl).toUpto) fun h => by cases h <;> exact .pure rfl

theorem Through.word {word : String} (hword : word ≠ "export" ∧ word ≠ "import") :
    Through tail inside Eq (Parser.atWord word) (Parser.atWord word) := by
  rw [← bind_pure (Parser.atWord word)]
  exact .atWord hword (Through.pure rfl).toUpto (.pure rfl)

theorem Through.uncertainEnd :
    Through tail true Eq Parser.atUncertainEnd Parser.atUncertainEnd where
  keeps s hs := by rwa [Parser.last, atUncertainEnd_apply]
  within {s s'} hs := by
    rw [atUncertainEnd_apply, atUncertainEnd_apply]
    exact .inr ⟨_, _, rfl, by rw [hs.lexeme], .inl hs⟩
  stays s hs := by
    rw [atUncertainEnd_apply]
    exact ⟨hs, id⟩
  between {s s'} hs := by
    rw [atUncertainEnd_apply]
    exact .inl (.inr ⟨hs.ended, .inl rfl⟩)

/-- Two results that are both there or both missing. -/
def OptionRel (rel : α → α → Prop) : Option α → Option α → Prop
  | some a, some a' => rel a a'
  | none, none => True
  | _, _ => False

/-- Two lists of related items, with or without a comma at the end. -/
def ListRel (rel : α → α → Prop) : List α × Option Nat → List α × Option Nat → Prop
  | (items, trailing), (items', trailing') =>
    List.Forall₂ rel items items' ∧ OptionRel (fun _ _ => True) trailing trailing'

theorem listRel_refl (hrel : ∀ a, rel a a) (found : List α × Option Nat) :
    ListRel rel found found := by
  refine ⟨List.forall₂_same.mpr fun a _ => hrel a, ?_⟩
  cases found.2 <;> trivial

theorem Through.listStep (close : String) (hrel : ∀ a, rel a a) (hp : Through tail true rel p p')
    {items items' : List α} (hitems : List.Forall₂ rel items items') :
    Through tail true (Sum.LiftRel (List.Forall₂ rel) (ListRel rel))
      (Parser.listStep close p items) (Parser.listStep close p' items') := by
  have hdone (trailing trailing' : Option Nat)
      (h : OptionRel (fun _ _ => True) trailing trailing') :
      Sum.LiftRel (List.Forall₂ rel) (ListRel rel) (.inr (items.reverse, trailing))
        (.inr (items'.reverse, trailing')) :=
    .inr ⟨List.rel_reverse hitems, h⟩
  refine (Through.mark close).bind fun atClose => Through.uncertainEnd.bind fun atEnd =>
    .ite (fun _ => .pure (hdone none none trivial)) fun _ => (Through.eat ",").bind fun _ =>
    .ite (fun _ => (Through.mark close).bind fun _ => .ite (fun _ => ?_) fun _ => ?_) fun _ => ?_
  · exact .previous fun n n' => .pure (hdone (some _) (some _) trivial)
  · exact hp.bindRel hrel fun a a' ha => .pure (.inl (.cons ha hitems))
  · exact (Fails.failExpectedOr "," close).through (Fails.failExpectedOr "," close)

theorem Through.listUpTo (close : String) (hrel : ∀ a, rel a a)
    (hp : Through tail true rel p p') :
    Through tail true (ListRel rel) (Parser.listUpTo close p) (Parser.listUpTo close p') := by
  have hitems (items : List α) : List.Forall₂ rel items items :=
    List.forall₂_same.mpr fun a _ => hrel a
  exact (Through.mark close).bind fun atClose => Through.uncertainEnd.bind fun atEnd =>
    .ite (fun _ => .pure ⟨.nil, trivial⟩) fun _ => hp.bindRel hrel fun a a' ha =>
    .repeatStepRel hitems (listRel_refl hrel)
      (fun items items' hitems => .listStep close hrel hp hitems) (.cons ha .nil)

/-- A list between two marks. -/
theorem Through.listBetween (opening close : String) (hrel : ∀ a, rel a a)
    (hp : Through tail true rel p p') :
    Through tail inside (List.Forall₂ rel) (Parser.listBetween opening close p)
      (Parser.listBetween opening close p') := by
  refine (Through.expect opening).bind fun _ => (Through.listUpTo close hrel hp).closed
    (listRel_refl hrel) (fun found found' hfound => ?_) fun _ => (Needs.expect close).bind
  exact ((Through.expect close).bind fun _ => .pure hfound.1).toUpto

theorem Through.listOf (opening close : String) (hp : Through tail true Eq p p') :
    Through tail inside Eq (Parser.listBetween opening close p)
      (Parser.listBetween opening close p') :=
  (Through.listBetween opening close (fun _ => rfl) hp).mono fun h => by
    rwa [List.forall₂_eq_eq_eq] at h

theorem Needs.listBetween (opening close : String) : Needs (Parser.listBetween opening close p) :=
  (Needs.expect opening).bind

-- ---------------------------------------------------------------------------
-- The end of a statement
-- ---------------------------------------------------------------------------

/-- A statement ends at the end of the text, and before a line break. -/
theorem Through.endStatement :
    Through tail inside Eq Parser.endStatement Parser.endStatement := by
  refine (Through.eat ";").bind fun _ => .ite (fun _ => .pure rfl) fun _ => ?_
  refine ⟨⟨fun s hs => ?_, fun {s s'} hs => ?_⟩, fun s hs => ?_, fun {s s'} hs => ?_⟩
  · rw [Parser.last, bind_apply, get_apply]
    dsimp only
    generalize (s.token.lexeme == .mark "\x7d" || s.token.lexeme == .endOfText ||
      s.token.afterBreak) = ends
    cases ends <;> exact hs
  · rw [bind_apply, bind_apply, get_apply, get_apply]
    dsimp only
    rw [hs.lexeme, hs.afterBreak]
    split
    · exact .inr ⟨_, _, rfl, rfl, .inl hs⟩
    · exact .inr (.inr ⟨_, _, rfl⟩)
  · rw [bind_apply, get_apply]
    dsimp only
    split
    · exact ⟨hs, id⟩
    · exact .inr hs
  · rw [bind_apply, bind_apply, get_apply, get_apply]
    dsimp only
    have hends : (s'.token.lexeme == .mark "\x7d" || s'.token.lexeme == .endOfText ||
        s'.token.afterBreak) = true := by
      rcases hs.apart with hend | hbreak
      · rw [hend]
        rfl
      · rw [hbreak, Bool.or_true]
    rw [hs.lexeme, if_pos (by rfl), if_pos hends]
    exact .inr ⟨_, _, rfl, rfl, .inr hs⟩

-- ---------------------------------------------------------------------------
-- Tokens that are read in another way
-- ---------------------------------------------------------------------------

theorem Upto.readAgain {read read' : Nat → List Char → Piece}
    (h : ∀ start start' {chars : List Char}, chars ≠ [] →
      (read start chars).MayGrow tail (read' start' (chars ++ tail.chars))) :
    Upto tail false Eq (Parser.reread read) (Parser.reread read') where
  keeps s hs := hs
  within {s s'} hs := by
    have hpiece := h s.token.start s'.token.start hs.filled
    rw [← hs.here] at hpiece
    exact (take_within hpiece _ _ hs.afterBreak hs.filled hs.here).imp_right fun ht =>
      ⟨(), _, rfl, rfl, .inl ht⟩

theorem Upto.advanceContent :
    Upto tail true Eq Parser.advanceContent Parser.advanceContent where
  keeps s hs := hs
  within {s s'} hs := by
    have hpiece := contentPiece_mayGoOn tail s.token.stop s'.token.stop s.rest
    rw [← hs.rest] at hpiece
    by_cases hne : s.rest = []
    · refine .inl (.inr ⟨ended_iff.mpr ?_, .inl rfl⟩)
      simp [State.take, hne, contentPiece, Lexeme.isOpen]
    · exact (take_mayGoOn hpiece _ _ rfl hne hs.rest).imp_right fun ht =>
        ⟨(), _, rfl, rfl, .inl ht⟩

theorem advanceContent_stays : Stays Parser.advanceContent := fun s hs => by
  obtain ⟨hrest, -⟩ := ended_iff.mp hs
  refine ⟨ended_iff.mpr ?_, fun hlexical => ?_⟩
  · simp [State.take, hrest, contentPiece, Lexeme.isOpen]
  · simpa [State.take, hrest, contentPiece] using hlexical

theorem Through.advanceContent :
    Through tail true Eq Parser.advanceContent Parser.advanceContent :=
  .of_stays .advanceContent advanceContent_stays

theorem Upto.advanceAttribute :
    Upto tail true Eq Parser.advanceAttribute Parser.advanceAttribute where
  keeps s hs := hs
  within {s s'} hs := by
    have halike : BlankState.Alike .outside .outside := trivial
    have hgap : Gap.Grows tail (gap s.token.stop s.rest) (gap s'.token.stop s'.rest) := by
      rw [hs.rest]
      exact gapFrom_grows tail halike ..
    have hends (hrest : (gap s.token.stop s.rest).rest = []) : State.Excused true
        (State.take { s with previous := s.token.stop } (gap s.token.stop s.rest).stop
          (gap s.token.stop s.rest).afterBreak (gap s.token.stop s.rest).rest
          (attributePiece (gap s.token.stop s.rest).stop (gap s.token.stop s.rest).rest)) := by
      refine .inr ⟨ended_iff.mpr ?_, .inl rfl⟩
      simp [State.take, hrest, attributePiece, piece, Lexeme.isOpen]
    rcases hgap with ⟨hne, hrest, hbreak, -, -⟩ | ⟨hrest, -, -, -, -⟩ | ⟨hrest, -⟩
    · have hpiece := attributePiece_mayGoOn tail (gap s.token.stop s.rest).stop
        (gap s'.token.stop s'.rest).stop (gap s.token.stop s.rest).rest
      rw [← hrest] at hpiece
      exact (take_mayGoOn hpiece _ _ hbreak hne hrest).imp_right fun ht =>
        ⟨(), _, rfl, rfl, .inl ht⟩
    · exact .inl (hends hrest)
    · exact .inl (hends hrest)

end

end PagePrelude.Module
