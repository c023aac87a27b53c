import PagePrelude.Proofs.Longer.Tokens
import PagePrelude.Proofs.Module.Reading

/-!
# Steps of a parser in a longer text

A parser in a text, beside one in a longer text. As long as the current token is inside the text,
both do the same (`Upto`). At its end the one finds nothing and the other an item; a parser goes
through there if that makes no difference to it (`Through`). What is in brackets need not, since
whatever closes them is missing there.

A parser that tried something up to the end of the text has overrun it, and says so in its state.
-/

namespace PagePrelude.Module

-- ---------------------------------------------------------------------------
-- States
-- ---------------------------------------------------------------------------

/-- The first token behind a text. -/
def Tail.first (tail : Tail) : Piece :=
  piece 0 (gap 0 tail.chars).rest

/-- A state inside a text, and one at the same token of a longer text. -/
structure State.Within (tail : Tail) (s s' : State) : Prop where
  lexeme : s'.token.lexeme = s.token.lexeme
  afterBreak : s'.token.afterBreak = s.token.afterBreak
  here : s'.here = s.here ++ tail.chars
  rest : s'.rest = s.rest ++ tail.chars
  filled : s.here ≠ []
  ended : s.ended = false
  told : s.token.lexeme = .endOfText → s.lexical ≠ []

/-- A state at the end of a text, and one at the first token behind it in a longer text. -/
structure State.Between (tail : Tail) (s s' : State) : Prop where
  lexeme : s.token.lexeme = .endOfText
  rest : s.rest = []
  lexeme' : s'.token.lexeme = tail.first.lexeme
  here' : s'.here = (gap 0 tail.chars).rest
  rest' : s'.rest = tail.first.rest
  apart : s'.token.lexeme = .endOfText ∨ s'.token.afterBreak = true

def State.Near (tail : Tail) (s s' : State) : Prop :=
  s.Within tail s' ∨ s.Between tail s'

/-- Whether nothing is said about a longer text from here on: something that was tried came to the
end of the text, or the text itself did, inside brackets or in the midst of a token. -/
def State.Excused (inside : Bool) (s : State) : Prop :=
  s.overran = true ∨ s.ended = true ∧ (inside = true ∨ s.lexical ≠ [])

theorem Tail.first_cases (tail : Tail) : tail.first.lexeme = .endOfText ∨
    tail.first.lexeme = .word "export" false ∨ tail.first.lexeme = .word "import" false := by
  refine tail.begins.imp_left fun hnil => ?_
  rw [Tail.first, hnil]
  rfl

/-- The text that has nothing behind it. -/
def Tail.nothing : Tail :=
  ⟨[], .inl rfl, rfl, .inl rfl⟩

/-- Whatever the place behind the text is, the first token there is the same. -/
theorem Tail.first_at (tail : Tail) (place : Nat) :
    (piece place (gap 0 tail.chars).rest).lexeme = tail.first.lexeme ∧
      (piece place (gap 0 tail.chars).rest).rest = tail.first.rest := by
  cases hrest : (gap 0 tail.chars).rest with
  | nil =>
    rw [Tail.first, hrest]
    exact ⟨rfl, rfl⟩
  | cons c more =>
    have hsolid : tail.first.lexeme.isOpen = false := by
      rcases tail.begins with hnil | hexport | himport
      · rw [hnil] at hrest
        cases hrest
      · rw [Tail.first, hexport]
        rfl
      · rw [Tail.first, himport]
        rfl
    rw [Tail.first, hrest] at hsolid ⊢
    rcases piece_mayGrow .nothing 0 place (List.cons_ne_nil c more) with hends | hgrows
    · rw [hends.1] at hsolid
      cases hsolid
    · have hrest := hgrows.rest
      have hlexeme := hgrows.lexeme
      simp only [Tail.nothing, List.append_nil] at hrest hlexeme
      exact ⟨hlexeme, hrest⟩

section
variable {tail : Tail} {s s' : State}

theorem ended_iff : s.ended = true ↔ s.rest = [] ∧ s.token.lexeme.isOpen = true := by
  simp [State.ended]

/-- A token that is taken over in both texts. -/
theorem take_within {piece piece' : Piece} (h : piece.MayGrow tail piece') (start start' : Nat)
    {broken broken' : Bool} (hbroken : broken' = broken) {here here' : List Char}
    (hne : here ≠ []) (hhere : here' = here ++ tail.chars) :
    (s.take start broken here piece).Excused false ∨
      (s.take start broken here piece).Within tail (s'.take start' broken' here' piece') := by
  rcases h with ⟨hopen, hrest, htold⟩ | hgrows
  · exact .inl (.inr ⟨ended_iff.mpr ⟨hrest, hopen⟩, .inr (by simp [State.take, htold])⟩)
  · cases hended : (s.take start broken here piece).ended with
    | true =>
      have htold := hgrows.told (ended_iff.mp hended).2
      exact .inl (.inr ⟨hended, .inr (by simp [State.take, htold])⟩)
    | false =>
      refine .inr ⟨hgrows.lexeme, hbroken, hhere, hgrows.rest, hne, hended, fun hend => ?_⟩
      have htold := hgrows.told (by rw [show piece.lexeme = .endOfText from hend]; rfl)
      simp [State.take, htold]

/-- A piece of markup that is taken over in both texts. -/
theorem take_mayGoOn {piece piece' : Piece} (h : piece.MayGoOn tail piece') (start start' : Nat)
    {broken broken' : Bool} (hbroken : broken' = broken) {here here' : List Char}
    (hne : here ≠ []) (hhere : here' = here ++ tail.chars) :
    (s.take start broken here piece).Excused true ∨
      (s.take start broken here piece).Within tail (s'.take start' broken' here' piece') := by
  rcases h with ⟨hopen, hrest⟩ | ⟨hlexeme, hrest, htold⟩
  · exact .inl (.inr ⟨ended_iff.mpr ⟨hrest, hopen⟩, .inl rfl⟩)
  · cases hended : (s.take start broken here piece).ended with
    | true => exact .inl (.inr ⟨hended, .inl rfl⟩)
    | false =>
      exact .inr ⟨hlexeme, hbroken, hhere, hrest, hne, hended, fun hend => by
        simp [State.take, htold hend]⟩

theorem next_closed (h : (gap s.token.stop s.rest).openComment = none) :
    ∃ earlier : State, s.next = earlier.take (gap s.token.stop s.rest).stop
      (gap s.token.stop s.rest).afterBreak (gap s.token.stop s.rest).rest
      (piece (gap s.token.stop s.rest).stop (gap s.token.stop s.rest).rest) := by
  unfold State.next
  dsimp only
  rw [h]
  exact ⟨_, rfl⟩

/-- The next token inside a text is the same in a longer text, or it is the end of the text. -/
theorem next_near (h : s'.rest = s.rest ++ tail.chars) :
    s.next.Excused false ∨ s.next.Near tail s'.next := by
  have halike : BlankState.Alike .outside .outside := trivial
  have hgap : Gap.Grows tail (gap s.token.stop s.rest) (gap s'.token.stop s'.rest) := by
    rw [h]
    exact gapFrom_grows tail halike ..
  rcases hgap with ⟨hne, hrest, hbreak, hclosed, hclosed'⟩ |
    ⟨hrest, hclosed, hrest', hclosed', hbreak⟩ | ⟨hrest, hopened⟩
  · obtain ⟨earlier, hnext⟩ := next_closed hclosed
    obtain ⟨earlier', hnext'⟩ := next_closed hclosed'
    rw [hnext, hnext']
    have hpiece := piece_mayGrow tail (gap s.token.stop s.rest).stop
      (gap s'.token.stop s'.rest).stop hne
    rw [← hrest] at hpiece
    exact (take_within hpiece _ _ hbreak hne hrest).imp_right .inl
  · obtain ⟨earlier, hnext⟩ := next_closed hclosed
    obtain ⟨earlier', hnext'⟩ := next_closed hclosed'
    obtain ⟨hlexeme, hleft⟩ := tail.first_at (gap s'.token.stop s'.rest).stop
    rw [hnext, hnext', hrest, hrest']
    refine .inr (.inr ⟨rfl, rfl, hlexeme, rfl, hleft, ?_⟩)
    rcases tail.apart with hnil | hcons
    · exact .inl (hlexeme.trans (by rw [Tail.first, hnil]; rfl))
    · exact .inr (hbreak fun hnil => by simp [hnil] at hcons)
  · obtain ⟨start, hstart⟩ := Option.isSome_iff_exists.mp hopened
    refine .inl (.inr ⟨?_, .inr ?_⟩) <;> unfold State.next <;> dsimp only <;> rw [hstart]
    · rfl
    · simp [State.take]

theorem State.Within.next (h : s.Within tail s') :
    s.next.Excused false ∨ s.next.Near tail s'.next :=
  next_near h.rest

theorem next_ended (h : s.ended = true) :
    s.next.ended = true ∧ (s.lexical ≠ [] → s.next.lexical ≠ []) := by
  obtain ⟨hrest, -⟩ := ended_iff.mp h
  unfold State.next
  rw [hrest]
  exact ⟨rfl, fun hlexical => by simpa [State.take, gap, gapFrom, gapAtEnd, piece] using hlexical⟩

end

-- ---------------------------------------------------------------------------
-- Parsers
-- ---------------------------------------------------------------------------

/-- A result of a parser in a text, and its result in a longer one. -/
def Follows (tail : Tail) (inside : Bool) (rel : α → α → Prop) :
    EStateM.Result Diagnostic State α → EStateM.Result Diagnostic State α → Prop
  | .ok a t, result => t.Excused inside ∨
      ∃ a' t', result = .ok a' t' ∧ rel a a' ∧ t.Near tail t'
  | .error _ t, result => t.overran = true ∨ t.ended = true ∨ ∃ d' t', result = .error d' t'

/-- What a parser that starts at the end of the text comes to: the end of the text. -/
def StaysEnded (s : State) : EStateM.Result Diagnostic State α → Prop
  | .ok _ t => t.ended = true ∧ (s.lexical ≠ [] → t.lexical ≠ [])
  | .error _ t => t.overran = true ∨ t.ended = true

/-- The state that a parser comes to, with or without a problem. -/
def Parser.last (p : Parser α) (s : State) : State :=
  match p s with
  | .ok _ t => t
  | .error _ t => t

/-- A parser keeps in mind that something was tried up to the end of the text. -/
def Keeps (p : Parser α) : Prop :=
  ∀ s, s.overran = true → (p.last s).overran = true

/-- A parser that starts at the end of the text does not get past it. -/
def Stays (p : Parser α) : Prop :=
  ∀ s, s.ended = true → StaysEnded s (p s)

/-- Inside a text, two parsers do the same, the one in the text and the other in a longer one.
`inside` says that they are in brackets. -/
structure Upto (tail : Tail) (inside : Bool) (rel : α → α → Prop) (p p' : Parser α) : Prop where
  keeps : Keeps p
  within : ∀ {s s' : State}, s.Within tail s' → Follows tail inside rel (p s) (p' s')

/-- A result of a parser that has not moved on, and its result in a longer text. -/
def Remains (tail : Tail) (rel : α → α → Prop) :
    EStateM.Result Diagnostic State α → EStateM.Result Diagnostic State α → Prop
  | .ok a t, result => t.overran = true ∨
      ∃ a' t', result = .ok a' t' ∧ rel a a' ∧ t.Within tail t'
  | .error _ t, result => t.overran = true ∨ t.ended = true ∨ ∃ d' t', result = .error d' t'

/-- Inside a text, two parsers do the same without moving on. -/
structure Still (tail : Tail) (rel : α → α → Prop) (p p' : Parser α) : Prop where
  keeps : Keeps p
  within : ∀ {s s' : State}, s.Within tail s' → Remains tail rel (p s) (p' s')

/-- Two parsers do the same inside a text and at its end. -/
structure Through (tail : Tail) (inside : Bool) (rel : α → α → Prop) (p p' : Parser α) : Prop
    extends Upto tail inside rel p p' where
  stays : Stays p
  between : ∀ {s s' : State}, s.Between tail s' → Follows tail inside rel (p s) (p' s')

/-- A parser needs a token: at the end of the text it fails. -/
def Needs (p : Parser α) : Prop :=
  ∀ s, s.ended = true → ∃ d t, p s = .error d t ∧ (t.overran = true ∨ t.ended = true)

/-- A parser fails, wherever it is. -/
def Fails (p : Parser α) : Prop :=
  ∀ s, ∃ d t, p s = .error d t ∧ (s.overran = true → t.overran = true) ∧
    (s.ended = true → t.ended = true)

section
variable {tail : Tail} {inside : Bool} {rel : α → α → Prop} {rel' : β → β → Prop}
  {p p' : Parser α} {f f' : α → Parser β} {s s' t : State}

theorem last_ok (h : p s = .ok a t) : p.last s = t := by
  simp [Parser.last, h]

theorem last_error (h : p s = .error d t) : p.last s = t := by
  simp [Parser.last, h]

theorem State.Between.ended (h : s.Between tail s') : s.ended = true :=
  ended_iff.mpr ⟨h.rest, by rw [h.lexeme]; rfl⟩

theorem Through.near (h : Through tail inside rel p p') (hs : s.Near tail s') :
    Follows tail inside rel (p s) (p' s') :=
  hs.elim h.within h.between

theorem Keeps.follows (h : Keeps p) (hs : s.overran = true)
    (result : EStateM.Result Diagnostic State α) : Follows tail inside rel (p s) result := by
  have hlast := h s hs
  cases hp : p s with
  | ok a t => exact .inl (.inl (last_ok hp ▸ hlast))
  | error d t => exact .inl (last_error hp ▸ hlast)

/-- From where nothing is said, nothing is said. -/
theorem Through.excused (h : Through tail inside rel p p') (hs : s.Excused inside)
    (result : EStateM.Result Diagnostic State α) : Follows tail inside rel (p s) result := by
  rcases hs with hover | ⟨hended, hwhy⟩
  · exact h.keeps.follows hover result
  · have hstays := h.stays s hended
    cases hp : p s with
    | ok a t =>
      rw [hp] at hstays
      exact .inl (.inr ⟨hstays.1, hwhy.imp_right hstays.2⟩)
    | error d t =>
      rw [hp] at hstays
      exact hstays.imp_right .inl

theorem Needs.stays (h : Needs p) : Stays p := fun s hs => by
  obtain ⟨d, t, hp, ht⟩ := h s hs
  rw [hp]
  exact ht

theorem Needs.follows (h : Needs p) (hs : s.ended = true)
    (result : EStateM.Result Diagnostic State α) : Follows tail inside rel (p s) result := by
  obtain ⟨d, t, hp, ht⟩ := h s hs
  rw [hp]
  exact ht.imp_right .inl

/-- What needs a token cannot begin behind the text. -/
theorem Through.of_needs (h : Upto tail inside rel p p') (hp : Needs p) :
    Through tail inside rel p p' :=
  ⟨h, hp.stays, fun hs => hp.follows hs.ended _⟩

/-- In brackets nothing is said about the end of the text. -/
theorem Through.of_stays (h : Upto tail true rel p p')
    (hp : Stays p) : Through tail true rel p p' := by
  refine ⟨h, hp, fun {s s'} hs => ?_⟩
  have hstays := hp s hs.ended
  cases hp : p s with
  | ok a t =>
    rw [hp] at hstays
    exact .inl (.inr ⟨hstays.1, .inl rfl⟩)
  | error d t =>
    rw [hp] at hstays
    exact hstays.imp_right .inl

theorem Fails.needs (h : Fails p) : Needs p := fun s hs => by
  obtain ⟨d, t, hp, -, hended⟩ := h s
  exact ⟨d, t, hp, .inr (hended hs)⟩


/-- A parser that needs a token does the same in both texts. -/
structure Takes (tail : Tail) (inside : Bool) (rel : α → α → Prop) (p p' : Parser α) : Prop
    extends Upto tail inside rel p p' where
  needs : Needs p

theorem Takes.through (h : Takes tail inside rel p p') : Through tail inside rel p p' :=
  .of_needs h.toUpto h.needs

-- ---------------------------------------------------------------------------
-- One parser after another
-- ---------------------------------------------------------------------------

theorem Keeps.bind (h : Keeps p) (hf : ∀ a, Keeps (f a)) : Keeps (p >>= f) := fun s hs => by
  have hlast := h s hs
  cases hp : p s with
  | ok a t =>
    rw [last_ok hp] at hlast
    have hnext := hf a t hlast
    rw [Parser.last, bind_apply, hp]
    exact hnext
  | error d t =>
    rw [last_error hp] at hlast
    rw [Parser.last, bind_apply, hp]
    exact hlast

theorem Stays.bind (h : Stays p) (hf : ∀ a, Stays (f a)) : Stays (p >>= f) := fun s hs => by
  have hfirst := h s hs
  rw [bind_apply]
  cases hp : p s with
  | ok a t =>
    rw [hp] at hfirst
    have hnext := hf a t hfirst.1
    dsimp only
    cases hfa : f a t with
    | ok b u =>
      rw [hfa] at hnext
      exact ⟨hnext.1, fun hlexical => hnext.2 (hfirst.2 hlexical)⟩
    | error d u =>
      rw [hfa] at hnext
      exact hnext
  | error d t =>
    rw [hp] at hfirst
    exact hfirst

theorem Follows.bind (h : Follows tail inside rel (p s) (p' s')) (hrel : ∀ a, rel a a)
    (hf : ∀ a a', rel a a' → Through tail inside rel' (f a) (f' a')) :
    Follows tail inside rel' ((p >>= f) s) ((p' >>= f') s') := by
  rw [bind_apply, bind_apply]
  cases hp : p s with
  | ok a t =>
    rw [hp] at h
    rcases h with ht | ⟨a', t', hp', ha, ht⟩
    · exact (hf a a (hrel a)).excused ht _
    · rw [hp']
      exact (hf a a' ha).near ht
  | error d t =>
    rw [hp] at h
    refine h.imp_right (Or.imp_right ?_)
    rintro ⟨d', t', hp'⟩
    exact ⟨d', t', by rw [hp']⟩

theorem Upto.bindRel (h : Upto tail inside rel p p') (hrel : ∀ a, rel a a)
    (hf : ∀ a a', rel a a' → Through tail inside rel' (f a) (f' a')) :
    Upto tail inside rel' (p >>= f) (p' >>= f') :=
  ⟨h.keeps.bind fun a => (hf a a (hrel a)).keeps, fun hs => (h.within hs).bind hrel hf⟩

theorem Through.bindRel (h : Through tail inside rel p p') (hrel : ∀ a, rel a a)
    (hf : ∀ a a', rel a a' → Through tail inside rel' (f a) (f' a')) :
    Through tail inside rel' (p >>= f) (p' >>= f') :=
  ⟨h.toUpto.bindRel hrel hf, h.stays.bind fun a => (hf a a (hrel a)).stays,
    fun hs => (h.between hs).bind hrel hf⟩

theorem Upto.bind (h : Upto tail inside Eq p p')
    (hf : ∀ a, Through tail inside rel' (f a) (f' a)) :
    Upto tail inside rel' (p >>= f) (p' >>= f') :=
  h.bindRel (fun _ => rfl) fun a _ ha => ha ▸ hf a

theorem Through.bind (h : Through tail inside Eq p p')
    (hf : ∀ a, Through tail inside rel' (f a) (f' a)) :
    Through tail inside rel' (p >>= f) (p' >>= f') :=
  h.bindRel (fun _ => rfl) fun a _ ha => ha ▸ hf a

/-- Where something is needed next, what comes before it may be in brackets. -/
theorem Upto.bindNeeds (h : Upto tail true rel p p') (hrel : ∀ a, rel a a)
    (hf : ∀ a a', rel a a' → Upto tail inside rel' (f a) (f' a'))
    (hneeds : ∀ a, Needs (f a)) : Upto tail inside rel' (p >>= f) (p' >>= f') := by
  refine ⟨h.keeps.bind fun a => (hf a a (hrel a)).keeps, fun {s s'} hs => ?_⟩
  have hfollows := h.within hs
  rw [bind_apply, bind_apply]
  cases hp : p s with
  | ok a t =>
    rw [hp] at hfollows
    dsimp only
    rcases hfollows with hover | ⟨a', t', hp', ha, hwithin | hbetween⟩
    · rcases hover with hover | ⟨hended, -⟩
      · exact (hf a a (hrel a)).keeps.follows hover _
      · exact (hneeds a).follows hended _
    · rw [hp']
      exact (hf a a' ha).within hwithin
    · exact (hneeds a).follows hbetween.ended _
  | error d t =>
    rw [hp] at hfollows
    refine hfollows.imp_right (Or.imp_right ?_)
    rintro ⟨d', t', hp'⟩
    exact ⟨d', t', by rw [hp']⟩

theorem Needs.bind (h : Needs p) : Needs (p >>= f) := fun s hs => by
  obtain ⟨d, t, hp, ht⟩ := h s hs
  exact ⟨d, t, by rw [bind_apply, hp], ht⟩

theorem Fails.bind (h : Fails p) : Fails (p >>= f) := fun s => by
  obtain ⟨d, t, hp, ht⟩ := h s
  exact ⟨d, t, by rw [bind_apply, hp], ht⟩

/-- What needs a token may follow what does not get by the end of the text. -/
theorem Needs.after (hp : Stays p) (h : ∀ a, Needs (f a)) : Needs (p >>= f) := fun s hs => by
  have hstays := hp s hs
  rw [bind_apply]
  cases hps : p s with
  | ok a t =>
    rw [hps] at hstays
    exact h a t hstays.1
  | error d t =>
    rw [hps] at hstays
    exact ⟨d, t, rfl, hstays⟩

theorem Follows.mono {rel₂ : α → α → Prop} (hrel : ∀ {a a'}, rel a a' → rel₂ a a')
    {result result' : EStateM.Result Diagnostic State α}
    (h : Follows tail inside rel result result') : Follows tail inside rel₂ result result' := by
  cases result with
  | ok a t =>
    exact h.imp_right fun ⟨a', t', hresult, ha, ht⟩ => ⟨a', t', hresult, hrel ha, ht⟩
  | error d t => exact h

theorem Upto.mono {rel₂ : α → α → Prop} (h : Upto tail inside rel p p')
    (hrel : ∀ {a a'}, rel a a' → rel₂ a a') : Upto tail inside rel₂ p p' :=
  ⟨h.keeps, fun hs => (h.within hs).mono hrel⟩

theorem Through.mono {rel₂ : α → α → Prop} (h : Through tail inside rel p p')
    (hrel : ∀ {a a'}, rel a a' → rel₂ a a') : Through tail inside rel₂ p p' :=
  ⟨h.toUpto.mono hrel, h.stays, fun hs => (h.between hs).mono hrel⟩

theorem State.Excused.bracketed (h : s.Excused false) : s.Excused true :=
  h.imp_right fun ⟨hended, _⟩ => ⟨hended, .inl rfl⟩

theorem Follows.bracketed {result result' : EStateM.Result Diagnostic State α}
    (h : Follows tail false rel result result') : Follows tail true rel result result' := by
  cases result with
  | ok a t => exact h.imp_left State.Excused.bracketed
  | error d t => exact h

theorem Upto.bracketed (h : Upto tail false rel p p') : Upto tail true rel p p' :=
  ⟨h.keeps, fun hs => (h.within hs).bracketed⟩

theorem Through.bracketed (h : Through tail false rel p p') : Through tail true rel p p' :=
  ⟨h.toUpto.bracketed, h.stays, fun hs => (h.between hs).bracketed⟩

theorem Through.weaken (h : Through tail false rel p p') : Through tail inside rel p p' := by
  cases inside
  · exact h
  · exact h.bracketed

theorem Upto.weaken (h : Upto tail false rel p p') : Upto tail inside rel p p' := by
  cases inside
  · exact h
  · exact h.bracketed

theorem Through.pure {a a' : α} (h : rel a a') :
    Through tail inside rel (Pure.pure a) (Pure.pure a') where
  keeps _ hs := hs
  within hs := .inr ⟨_, _, rfl, h, .inl hs⟩
  stays _ hs := ⟨hs, id⟩
  between hs := .inr ⟨_, _, rfl, h, .inr hs⟩

theorem Stays.pure (a : α) : Stays (Pure.pure a) :=
  fun _ hs => ⟨hs, id⟩

theorem Stays.ite {c : Prop} [Decidable c] {q : Parser α} (hp : c → Stays p) (hq : ¬c → Stays q) :
    Stays (if c then p else q) := by
  split
  · exact hp ‹_›
  · exact hq ‹_›

theorem Needs.ite {c : Prop} [Decidable c] {q : Parser α} (hp : c → Needs p) (hq : ¬c → Needs q) :
    Needs (if c then p else q) := by
  split
  · exact hp ‹_›
  · exact hq ‹_›

theorem Through.ite {c : Prop} [Decidable c] {q q' : Parser α}
    (hp : c → Through tail inside rel p p') (hq : ¬c → Through tail inside rel q q') :
    Through tail inside rel (if c then p else q) (if c then p' else q') := by
  split
  · exact hp ‹_›
  · exact hq ‹_›

theorem Upto.ite {c : Prop} [Decidable c] {q q' : Parser α}
    (hp : c → Upto tail inside rel p p') (hq : ¬c → Upto tail inside rel q q') :
    Upto tail inside rel (if c then p else q) (if c then p' else q') := by
  split
  · exact hp ‹_›
  · exact hq ‹_›

theorem Still.upto (h : Still tail rel p p') : Upto tail inside rel p p' where
  keeps := h.keeps
  within {s s'} hs := by
    have hremains := h.within hs
    cases hp : p s with
    | ok a t =>
      rw [hp] at hremains
      exact hremains.imp .inl fun ⟨a', t', hp', ha, ht⟩ => ⟨a', t', hp', ha, .inl ht⟩
    | error d t =>
      rw [hp] at hremains
      exact hremains

theorem Fails.still (h : Fails p) (h' : Fails p') : Still tail rel p p' := by
  refine ⟨fun s hs => ?_, fun {s s'} _ => ?_⟩
  · obtain ⟨d, t, hp, hover, -⟩ := h s
    exact last_error hp ▸ hover hs
  · obtain ⟨d, t, hp, -, -⟩ := h s
    obtain ⟨d', t', hp', -, -⟩ := h' s'
    rw [hp]
    exact .inr (.inr ⟨d', t', hp'⟩)

theorem Fails.through (h : Fails p) (h' : Fails p') : Through tail inside rel p p' :=
  .of_needs (h.still h').upto h.needs

theorem Still.bindRel (h : Still tail rel p p') (hrel : ∀ a, rel a a)
    (hf : ∀ a a', rel a a' → Upto tail inside rel' (f a) (f' a')) :
    Upto tail inside rel' (p >>= f) (p' >>= f') where
  keeps := h.keeps.bind fun a => (hf a a (hrel a)).keeps
  within {s s'} hs := by
    have hremains := h.within hs
    rw [bind_apply, bind_apply]
    cases hp : p s with
    | ok a t =>
      rw [hp] at hremains
      rcases hremains with hover | ⟨a', t', hp', ha, ht⟩
      · exact (hf a a (hrel a)).keeps.follows hover _
      · rw [hp']
        exact (hf a a' ha).within ht
    | error d t =>
      rw [hp] at hremains
      refine hremains.imp_right (Or.imp_right ?_)
      rintro ⟨d', t', hp'⟩
      exact ⟨d', t', by rw [hp']⟩

theorem Still.bind (h : Still tail Eq p p') (hf : ∀ a, Upto tail inside rel' (f a) (f' a)) :
    Upto tail inside rel' (p >>= f) (p' >>= f') :=
  h.bindRel (fun _ => rfl) fun a _ ha => ha ▸ hf a

theorem Keeps.remains (h : Keeps p) (hs : s.overran = true)
    (result : EStateM.Result Diagnostic State α) : Remains tail rel (p s) result := by
  have hlast := h s hs
  cases hp : p s with
  | ok a t => exact .inl (last_ok hp ▸ hlast)
  | error d t => exact .inl (last_error hp ▸ hlast)

theorem Still.chain (h : Still tail rel p p') (hrel : ∀ a, rel a a)
    (hf : ∀ a a', rel a a' → Still tail rel' (f a) (f' a')) :
    Still tail rel' (p >>= f) (p' >>= f') where
  keeps := h.keeps.bind fun a => (hf a a (hrel a)).keeps
  within {s s'} hs := by
    have hremains := h.within hs
    rw [bind_apply, bind_apply]
    cases hp : p s with
    | ok a t =>
      rw [hp] at hremains
      rcases hremains with hover | ⟨a', t', hp', ha, ht⟩
      · exact (hf a a (hrel a)).keeps.remains hover _
      · rw [hp']
        exact (hf a a' ha).within ht
    | error d t =>
      rw [hp] at hremains
      refine hremains.imp_right (Or.imp_right ?_)
      rintro ⟨d', t', hp'⟩
      exact ⟨d', t', by rw [hp']⟩

theorem Still.pure {a a' : α} (h : rel a a') :
    Still tail rel (Pure.pure a) (Pure.pure a') where
  keeps _ hs := hs
  within hs := .inr ⟨_, _, rfl, h, hs⟩

theorem Still.ite {c : Prop} [Decidable c] {q q' : Parser α} (hp : Still tail rel p p')
    (hq : Still tail rel q q') :
    Still tail rel (if c then p else q) (if c then p' else q') := by
  split
  · exact hp
  · exact hq

/-- One step more or less before the rest of a parser. -/
theorem Through.optional {c : Prop} [Decidable c] {q q' : Parser PUnit}
    {k k' : PUnit → Parser α} (hq : Through tail inside Eq q q')
    (hk : ∀ u, Through tail inside rel (k u) (k' u)) :
    Through tail inside rel (if c then q >>= k else k ⟨⟩) (if c then q' >>= k' else k' ⟨⟩) :=
  .ite (fun _ => hq.bind hk) fun _ => hk ⟨⟩

theorem Upto.optional {c : Prop} [Decidable c] {q q' : Parser PUnit}
    {k k' : PUnit → Parser α} (hq : Still tail Eq q q')
    (hk : ∀ u, Upto tail inside rel (k u) (k' u)) :
    Upto tail inside rel (if c then q >>= k else k ⟨⟩) (if c then q' >>= k' else k' ⟨⟩) :=
  .ite (fun _ => hq.bind hk) fun _ => hk ⟨⟩

/-- A check that stops a parser before the rest. -/
theorem Through.check {c : Prop} [Decidable c] {q q' : Parser PUnit}
    {k k' : PUnit → Parser α} (hq : Fails q) (hq' : Fails q')
    (hk : ¬c → Through tail inside rel (k ⟨⟩) (k' ⟨⟩)) :
    Through tail inside rel (if c then q >>= k else k ⟨⟩) (if c then q' >>= k' else k' ⟨⟩) :=
  .ite (fun _ => hq.bind.through hq'.bind) hk

theorem Upto.check {c : Prop} [Decidable c] {q q' : Parser PUnit}
    {k k' : PUnit → Parser α} (hq : Fails q) (hq' : Fails q')
    (hk : ¬c → Upto tail inside rel (k ⟨⟩) (k' ⟨⟩)) :
    Upto tail inside rel (if c then q >>= k else k ⟨⟩) (if c then q' >>= k' else k' ⟨⟩) :=
  .ite (fun _ => (hq.bind.through hq'.bind).toUpto) hk

-- ---------------------------------------------------------------------------
-- The current token
-- ---------------------------------------------------------------------------

theorem Upto.advance : Upto tail false Eq Parser.advance Parser.advance where
  keeps _ hs := (next_overran _).trans hs
  within hs := hs.next.imp_right fun h => ⟨(), _, rfl, rfl, h⟩

theorem advance_stays : Stays Parser.advance :=
  fun _ hs => next_ended hs

/-- In brackets the end of the text may be passed. -/
theorem Through.advance : Through tail true Eq Parser.advance Parser.advance :=
  .of_stays Upto.advance.bracketed advance_stays

theorem Still.lexeme : Still tail Eq Parser.lexeme Parser.lexeme where
  keeps _ hs := hs
  within hs := .inr ⟨_, _, rfl, hs.lexeme.symm, hs⟩

theorem Still.token : Still tail (fun t t' => t'.lexeme = t.lexeme ∧ t'.afterBreak = t.afterBreak)
    Parser.token Parser.token where
  keeps _ hs := hs
  within hs := .inr ⟨_, _, rfl, ⟨hs.lexeme, hs.afterBreak⟩, hs⟩

theorem Still.start : Still tail (fun _ _ => True) Parser.start Parser.start where
  keeps _ hs := hs
  within hs := .inr ⟨_, _, rfl, trivial, hs⟩

theorem Still.previous : Still tail (fun _ _ => True) Parser.previous Parser.previous where
  keeps _ hs := hs
  within hs := .inr ⟨_, _, rfl, trivial, hs⟩

theorem Upto.lexeme {f f' : Lexeme → Parser α}
    (hf : ∀ lexeme, Upto tail inside rel (f lexeme) (f' lexeme)) :
    Upto tail inside rel (Parser.lexeme >>= f) (Parser.lexeme >>= f') :=
  Still.lexeme.bind hf

theorem Upto.token {f f' : Token → Parser α}
    (hf : ∀ {t t'}, t'.lexeme = t.lexeme → t'.afterBreak = t.afterBreak →
      Upto tail inside rel (f t) (f' t')) :
    Upto tail inside rel (Parser.token >>= f) (Parser.token >>= f') :=
  Still.token.bindRel (fun _ => ⟨rfl, rfl⟩) fun _ _ ht => hf ht.1 ht.2

/-- What a parser does with the places of tokens. -/
theorem Upto.start {f f' : Nat → Parser α} (hf : ∀ n n', Upto tail inside rel (f n) (f' n')) :
    Upto tail inside rel (Parser.start >>= f) (Parser.start >>= f') :=
  Still.start.bindRel (fun _ => trivial) fun n n' _ => hf n n'

theorem Upto.previous {f f' : Nat → Parser α} (hf : ∀ n n', Upto tail inside rel (f n) (f' n')) :
    Upto tail inside rel (Parser.previous >>= f) (Parser.previous >>= f') :=
  Still.previous.bindRel (fun _ => trivial) fun n n' _ => hf n n'

theorem Through.start {f f' : Nat → Parser α}
    (hf : ∀ n n', Through tail inside rel (f n) (f' n')) :
    Through tail inside rel (Parser.start >>= f) (Parser.start >>= f') where
  toUpto := .start fun n n' => (hf n n').toUpto
  stays s hs := (hf s.token.start s.token.start).stays s hs
  between {s s'} hs := (hf s.token.start s'.token.start).between hs

theorem Through.previous {f f' : Nat → Parser α}
    (hf : ∀ n n', Through tail inside rel (f n) (f' n')) :
    Through tail inside rel (Parser.previous >>= f) (Parser.previous >>= f') where
  toUpto := .previous fun n n' => (hf n n').toUpto
  stays s hs := (hf s.previous s.previous).stays s hs
  between {s s'} hs := (hf s.previous s'.previous).between hs

/-- What a parser does with the place of a token, whatever token that is. -/
theorem Through.place {f f' : Token → Parser α}
    (hf : ∀ t t', Through tail inside rel (f t) (f' t')) :
    Through tail inside rel (Parser.token >>= f) (Parser.token >>= f') where
  toUpto := .token fun {t t'} _ _ => (hf t t').toUpto
  stays s hs := (hf s.token s.token).stays s hs
  between {s s'} hs := (hf s.token s'.token).between hs

/-- The lexemes at the end of a text, and those behind it. -/
inductive Lexeme.Ends : Lexeme → Lexeme → Prop
  | unknown : Ends .unknown .unknown
  | text (text : String) : Ends (.markupText text) (.markupText text)
  | nothing : Ends .endOfText .endOfText
  | exporting : Ends .endOfText (.word "export" false)
  | importing : Ends .endOfText (.word "import" false)

theorem Lexeme.isOpen_cases {lexeme : Lexeme} (h : lexeme.isOpen = true) :
    lexeme = .endOfText ∨ lexeme = .unknown ∨ ∃ text, lexeme = .markupText text := by
  cases lexeme with
  | endOfText => exact .inl rfl
  | unknown => exact .inr (.inl rfl)
  | markupText text => exact .inr (.inr ⟨text, rfl⟩)
  | _ => cases h

theorem Lexeme.ends_of_isOpen {lexeme : Lexeme} (h : lexeme.isOpen = true) :
    lexeme.Ends lexeme := by
  rcases isOpen_cases h with rfl | rfl | ⟨text, rfl⟩
  · exact .nothing
  · exact .unknown
  · exact .text text

theorem State.Between.ends (h : s.Between tail s') : s.token.lexeme.Ends s'.token.lexeme := by
  rw [h.lexeme, h.lexeme']
  rcases tail.first_cases with hfirst | hfirst | hfirst <;> rw [hfirst]
  · exact .nothing
  · exact .exporting
  · exact .importing

theorem Through.lexeme {f f' : Lexeme → Parser α}
    (hf : ∀ lexeme, Upto tail inside rel (f lexeme) (f' lexeme))
    (hends : ∀ {lexeme lexeme'}, lexeme.Ends lexeme' →
      Through tail inside rel (f lexeme) (f' lexeme')) :
    Through tail inside rel (Parser.lexeme >>= f) (Parser.lexeme >>= f') where
  toUpto := .lexeme hf
  stays s hs := (hends (Lexeme.ends_of_isOpen (ended_iff.mp hs).2)).stays s hs
  between hs := (hends hs.ends).between hs

theorem Through.token {f f' : Token → Parser α}
    (hf : ∀ {t t'}, t'.lexeme = t.lexeme → t'.afterBreak = t.afterBreak →
      Upto tail inside rel (f t) (f' t'))
    (hends : ∀ {t t'}, t.lexeme.Ends t'.lexeme → Through tail inside rel (f t) (f' t')) :
    Through tail inside rel (Parser.token >>= f) (Parser.token >>= f') where
  toUpto := .token hf
  stays s hs :=
    (hends (t := s.token) (Lexeme.ends_of_isOpen (ended_iff.mp hs).2)).stays s hs
  between hs := (hends hs.ends).between hs

/-- What a parser does with a token and the line break before it. What is behind the text begins a
line. -/
theorem Through.tokenApart {f f' : Token → Parser α}
    (hf : ∀ {t t'}, t'.lexeme = t.lexeme → t'.afterBreak = t.afterBreak →
      Upto tail inside rel (f t) (f' t'))
    (hstays : ∀ {t : Token}, t.lexeme.isOpen = true → Stays (f t))
    (hends : ∀ {t t'}, t.lexeme = .endOfText → Lexeme.Ends .endOfText t'.lexeme →
      t'.lexeme = .endOfText ∨ t'.afterBreak = true → Through tail inside rel (f t) (f' t')) :
    Through tail inside rel (Parser.token >>= f) (Parser.token >>= f') where
  toUpto := .token hf
  stays s hs := hstays (ended_iff.mp hs).2 s hs
  between hs := (hends hs.lexeme (hs.lexeme ▸ hs.ends) hs.apart).between hs

/-- In brackets, what a parser does at the end of the text is its own affair. -/
theorem Through.lexemeInside {f f' : Lexeme → Parser α}
    (hf : ∀ lexeme, Through tail true rel (f lexeme) (f' lexeme)) :
    Through tail true rel (Parser.lexeme >>= f) (Parser.lexeme >>= f') :=
  .of_stays (.lexeme fun lexeme => (hf lexeme).toUpto) fun s hs => (hf s.token.lexeme).stays s hs

theorem Needs.lexeme {f : Lexeme → Parser α} (hnothing : Needs (f .endOfText))
    (hunknown : Needs (f .unknown)) (htext : ∀ text, Needs (f (.markupText text))) :
    Needs (Parser.lexeme >>= f) := fun s hs => by
  have hneeds : Needs (f s.token.lexeme) := by
    rcases Lexeme.isOpen_cases (ended_iff.mp hs).2 with h | h | ⟨text, h⟩ <;> rw [h]
    · exact hnothing
    · exact hunknown
    · exact htext text
  exact hneeds s hs

theorem Takes.bind (h : Takes tail inside Eq p p')
    (hf : ∀ a, Through tail inside rel' (f a) (f' a)) :
    Takes tail inside rel' (p >>= f) (p' >>= f') :=
  ⟨h.toUpto.bind hf, h.needs.bind⟩

/-- What a parser does with a token that it needs. -/
theorem Takes.lexeme {f f' : Lexeme → Parser α}
    (hf : ∀ lexeme, Upto tail inside rel (f lexeme) (f' lexeme))
    (hnothing : Needs (f .endOfText)) (hunknown : Needs (f .unknown))
    (htext : ∀ text, Needs (f (.markupText text))) :
    Takes tail inside rel (Parser.lexeme >>= f) (Parser.lexeme >>= f') :=
  ⟨.lexeme hf, .lexeme hnothing hunknown htext⟩

theorem Needs.token {f : Token → Parser α}
    (hf : ∀ {token : Token}, token.lexeme.isOpen = true → Needs (f token)) :
    Needs (Parser.token >>= f) :=
  fun s hs => hf (ended_iff.mp hs).2 s hs

theorem Needs.start {f : Nat → Parser α} (hf : ∀ n, Needs (f n)) : Needs (Parser.start >>= f) :=
  fun s hs => hf _ s hs

theorem Needs.previous {f : Nat → Parser α} (hf : ∀ n, Needs (f n)) :
    Needs (Parser.previous >>= f) :=
  fun s hs => hf _ s hs

theorem Takes.weaken (h : Takes tail false rel p p') : Takes tail inside rel p p' :=
  ⟨h.toUpto.weaken, h.needs⟩

/-- What needs a token may follow what does not. -/
theorem Takes.after (hp : Through tail inside Eq p p')
    (hf : ∀ a, Takes tail inside rel' (f a) (f' a)) :
    Takes tail inside rel' (p >>= f) (p' >>= f') :=
  ⟨hp.toUpto.bind fun a => (hf a).through, .after hp.stays fun a => (hf a).needs⟩

theorem Takes.start {f f' : Nat → Parser α} (hf : ∀ n n', Takes tail inside rel (f n) (f' n')) :
    Takes tail inside rel (Parser.start >>= f) (Parser.start >>= f') :=
  ⟨.start fun n n' => (hf n n').toUpto, .start fun n => (hf n n).needs⟩

theorem Takes.previous {f f' : Nat → Parser α}
    (hf : ∀ n n', Takes tail inside rel (f n) (f' n')) :
    Takes tail inside rel (Parser.previous >>= f) (Parser.previous >>= f') :=
  ⟨.previous fun n n' => (hf n n').toUpto, .previous fun n => (hf n n).needs⟩

/-- A mark in front of a parser, and none. -/
theorem Through.atMark {mark : String} {f f' : Bool → Parser α}
    (hyes : Upto tail inside rel (f true) (f' true))
    (hno : Through tail inside rel (f false) (f' false)) :
    Through tail inside rel (Parser.atMark mark >>= f) (Parser.atMark mark >>= f') := by
  change Through tail inside rel (Parser.lexeme >>= fun lexeme => f (lexeme == .mark mark))
    (Parser.lexeme >>= fun lexeme => f' (lexeme == .mark mark))
  refine .lexeme (fun lexeme => ?_) fun h => ?_
  · cases lexeme == .mark mark
    · exact hno.toUpto
    · exact hyes
  · cases h <;> exact hno

theorem Still.mark (mark : String) :
    Still tail Eq (Parser.atMark mark) (Parser.atMark mark) :=
  Still.lexeme.chain (fun _ => rfl) fun _ _ h => h ▸ .pure rfl

theorem Upto.atMark {mark : String} {f f' : Bool → Parser α}
    (hf : ∀ b, Upto tail inside rel (f b) (f' b)) :
    Upto tail inside rel (Parser.atMark mark >>= f) (Parser.atMark mark >>= f') :=
  (Still.mark mark).bind hf

theorem Needs.atMark {mark : String} {f : Bool → Parser α} (hf : Needs (f false)) :
    Needs (Parser.atMark mark >>= f) :=
  .lexeme (f := fun lexeme => f (lexeme == .mark mark)) hf hf fun _ => hf

theorem Takes.atMark {mark : String} {f f' : Bool → Parser α}
    (hyes : Upto tail inside rel (f true) (f' true))
    (hno : Takes tail inside rel (f false) (f' false)) :
    Takes tail inside rel (Parser.atMark mark >>= f) (Parser.atMark mark >>= f') :=
  ⟨(Through.atMark hyes hno.through).toUpto, .atMark hno.needs⟩

end

end PagePrelude.Module
