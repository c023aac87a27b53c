import PagePrelude.Proofs.Longer.Numbers
import PagePrelude.Proofs.Longer.Strings

/-!
# Tokens of a longer text

A token of a text is the same in a longer text, unless the text ends inside it (`piece_mayGrow`).
-/

namespace PagePrelude.Module

section
variable (tail : Tail)

-- ---------------------------------------------------------------------------
-- Marks
-- ---------------------------------------------------------------------------

theorem isPrefixOf_tail {text : List Char} (h : '\n' ∉ text) (chars : List Char) :
    text.isPrefixOf (chars ++ tail.chars) = text.isPrefixOf chars := by
  induction text generalizing chars with
  | nil => rfl
  | cons c text ih =>
    cases chars with
    | nil =>
      rcases tail.apart with htail | ⟨later, htail⟩
      · rw [htail]
        rfl
      · rw [htail]
        simp [List.isPrefixOf, List.ne_of_not_mem_cons h |>.symm]
    | cons d chars =>
      simp only [List.cons_append, List.isPrefixOf, ih (List.not_mem_of_not_mem_cons h) chars]

theorem after?_tail {text chars : List Char} (h : '\n' ∉ text) :
    after? text (chars ++ tail.chars) = (after? text chars).map (· ++ tail.chars) := by
  unfold after?
  rw [isPrefixOf_tail tail h]
  split
  · rename_i hprefix
    rw [List.drop_append_of_le_length (List.isPrefixOf_iff_prefix.mp hprefix).length_le]
    rfl
  · rfl

theorem markOf_tail {marks : List String} (h : ∀ mark ∈ marks, '\n' ∉ mark.toList)
    (chars : List Char) : markOf marks (chars ++ tail.chars) =
      (markOf marks chars).map fun (mark, rest) => (mark, rest ++ tail.chars) := by
  induction marks with
  | nil => rfl
  | cons mark marks ih =>
    obtain ⟨hmark, hmarks⟩ := List.forall_mem_cons.mp h
    unfold markOf at ih ⊢
    rw [List.findSome?_cons, List.findSome?_cons, after?_tail tail hmark]
    cases after? mark.toList chars with
    | none => exact ih hmarks
    | some rest => rfl

theorem isChoiceOfFraction_iff (chars : List Char) : isChoiceOfFraction chars = true ↔
    ∃ c more, chars = '?' :: '.' :: c :: more ∧ c.isDigit = true := by
  unfold isChoiceOfFraction
  split
  · simp
  · rename_i hnone
    refine ⟨fun h => absurd h (by decide), ?_⟩
    rintro ⟨c, more, rfl, -⟩
    exact absurd rfl (hnone c more)

theorem isChoiceOfFraction_tail (chars : List Char) :
    isChoiceOfFraction (chars ++ tail.chars) = isChoiceOfFraction chars := by
  rcases tail.apart with htail | ⟨later, htail⟩
  · rw [htail, List.append_nil]
  rw [htail, Bool.eq_iff_iff, isChoiceOfFraction_iff, isChoiceOfFraction_iff]
  constructor
  · rintro ⟨c, more, heq, hdigit⟩
    match chars with
    | [] | [_] => simp at heq
    | [a, b] =>
      simp only [List.cons_append, List.nil_append, List.cons.injEq] at heq
      obtain ⟨-, -, rfl, -⟩ := heq
      cases hdigit
    | a :: b :: d :: chars =>
      simp only [List.cons_append, List.cons.injEq] at heq
      obtain ⟨rfl, rfl, rfl, -⟩ := heq
      exact ⟨d, chars, rfl, hdigit⟩
  · rintro ⟨c, more, rfl, hdigit⟩
    exact ⟨c, more ++ '\n' :: later, rfl, hdigit⟩

theorem longMarks_line : ∀ mark ∈ longMarks, '\n' ∉ mark.toList := by decide

/-- A mark is the same in a longer text. -/
theorem markPiece_grows (start start' : Nat) {chars : List Char} (h : chars ≠ []) :
    Piece.Grows tail (markPiece start chars) (markPiece start' (chars ++ tail.chars)) := by
  obtain ⟨c, chars, rfl⟩ := List.exists_cons_of_ne_nil h
  have hmark := markOf_tail tail longMarks_line (c :: chars)
  have hchoice := isChoiceOfFraction_tail tail (c :: chars)
  rw [List.cons_append] at hmark hchoice ⊢
  unfold markPiece
  dsimp only
  rw [hmark, hchoice]
  have hlong : (if isChoiceOfFraction (c :: chars) = true then none
      else (markOf longMarks (c :: chars)).map fun (mark, rest) => (mark, rest ++ tail.chars)) =
      (if isChoiceOfFraction (c :: chars) = true then none
        else markOf longMarks (c :: chars)).map fun (mark, rest) => (mark, rest ++ tail.chars) := by
    split <;> rfl
  rw [hlong]
  cases (if isChoiceOfFraction (c :: chars) = true then none
    else markOf longMarks (c :: chars)) with
  | some found => exact ⟨rfl, rfl, by simp [Lexeme.isOpen]⟩
  | none =>
    dsimp only [Option.map_none]
    split
    · exact ⟨rfl, rfl, by simp [Lexeme.isOpen]⟩
    · exact Piece.grows_wrong tail ..

-- ---------------------------------------------------------------------------
-- Tokens
-- ---------------------------------------------------------------------------

theorem piece_dot (start : Nat) {more : List Char} (h : more.head?.any Char.isDigit = false) :
    piece start ('.' :: more) = markPiece start ('.' :: more) := by
  cases more with
  | nil => rfl
  | cons d more =>
    have hd : ¬d.isDigit = true := by simpa using h
    exact if_neg hd

/-- A token is the same in a longer text, unless the text ends in it. -/
theorem piece_mayGrow (start start' : Nat) {chars : List Char} (h : chars ≠ []) :
    Piece.MayGrow tail (piece start chars) (piece start' (chars ++ tail.chars)) := by
  by_cases hdot : chars = ['.']
  · subst hdot
    rw [List.singleton_append, piece_dot, piece_dot]
    · exact .inr (markPiece_grows tail start start' h)
    · rcases tail.apart with htail | ⟨later, htail⟩ <;> rw [htail] <;> rfl
    · rfl
  obtain ⟨c, chars, rfl⟩ := List.exists_cons_of_ne_nil h
  rw [List.cons_append]
  unfold piece
  dsimp only
  rw [escapesWordFirst_tail, ← List.cons_append]
  split
  · exact .inr (wordPiece_grows tail (fun _ _ => rfl) ..)
  split
  · exact .inr (numberPiece_grows tail ..)
  split
  · exact stringPiece_mayGrow tail _ _ _ h
  split
  · exact templatePiece_mayGrow tail _ _ _ h
  split
  · exact privatePiece_mayGrow tail ..
  split
  · split
    · exact .inr (wordPiece_grows tail (fun _ _ => rfl) ..)
    · exact .inr (Piece.grows_wrong tail ..)
  split
  · rename_i hc
    subst hc
    cases chars with
    | nil => exact absurd rfl hdot
    | cons d chars =>
      dsimp only [List.cons_append]
      split
      · exact .inr (fractionPiece_grows tail _ _ ['.'] (d :: chars))
      · exact .inr (markPiece_grows tail _ _ h)
  · exact .inr (markPiece_grows tail _ _ h)

-- ---------------------------------------------------------------------------
-- Markup
-- ---------------------------------------------------------------------------

/-- A piece of markup that was read, and one of a longer text: the text ends in the first, which may
be no problem, or they are the same. -/
def Piece.MayGoOn (short long : Piece) : Prop :=
  (short.lexeme.isOpen = true ∧ short.rest = []) ∨
    (long.lexeme = short.lexeme ∧ long.rest = short.rest ++ tail.chars ∧
      (short.lexeme = .endOfText → short.problems ≠ []))

theorem takeWhile_cases (p : Char → Bool) (chars : List Char) :
    (∀ c ∈ chars, p c = true) ∨ ∃ front c back,
      chars = front ++ c :: back ∧ p c = false ∧ ∀ d ∈ front, p d = true := by
  induction chars with
  | nil => exact .inl (by simp)
  | cons c chars ih =>
    cases hc : p c with
    | false => exact .inr ⟨[], c, chars, rfl, hc, by simp⟩
    | true =>
      rcases ih with hall | ⟨front, d, back, rfl, hd, hfront⟩
      · exact .inl (List.forall_mem_cons.mpr ⟨hc, hall⟩)
      · exact .inr ⟨c :: front, d, back, rfl, hd, List.forall_mem_cons.mpr ⟨hc, hfront⟩⟩

/-- Text between tags is the same in a longer text, unless the text ends in it. -/
theorem markupTextPiece_mayGoOn (start start' : Nat) (chars : List Char) :
    (markupTextPiece start chars).MayGoOn tail (markupTextPiece start' (chars ++ tail.chars)) := by
  unfold markupTextPiece
  rcases takeWhile_cases (fun c => !(['{', '<', '}', '>'].contains c)) chars with
    hall | ⟨front, c, back, rfl, hc, hfront⟩
  · rw [List.takeWhile_eq_self_iff.mpr hall]
    dsimp only
    rw [List.drop_length]
    exact .inl ⟨rfl, rfl⟩
  · rw [List.append_assoc, List.cons_append, takeWhile_closed hc hfront,
      takeWhile_closed hc hfront]
    dsimp only
    rw [List.drop_left, List.drop_left]
    dsimp only
    split <;> exact .inr ⟨rfl, rfl, nofun⟩

/-- The content of an element is the same in a longer text, unless the text ends in it. -/
theorem contentPiece_mayGoOn (start start' : Nat) (chars : List Char) :
    (contentPiece start chars).MayGoOn tail (contentPiece start' (chars ++ tail.chars)) := by
  match chars with
  | [] => exact .inl ⟨rfl, rfl⟩
  | c :: more =>
    by_cases hbrace : c = '{'
    · subst hbrace
      exact .inr ⟨rfl, rfl, nofun⟩
    by_cases hless : c = '<'
    · subst hless
      exact .inr ⟨rfl, rfl, nofun⟩
    have htext (start : Nat) (more : List Char) :
        contentPiece start (c :: more) = markupTextPiece start (c :: more) := by
      rw [contentPiece]
      · simp
      · exact fun rest heq => hbrace (List.cons.inj heq).1
      · exact fun rest heq => hless (List.cons.inj heq).1
    rw [List.cons_append, htext, htext]
    exact markupTextPiece_mayGoOn tail start start' (c :: more)

theorem attributePiece_quoted (start : Nat) {c : Char} (h : c = '"' ∨ c = '\'')
    (chars : List Char) : attributePiece start (c :: chars) =
      let text := chars.takeWhile (· != c)
      let stop := start + 1 + Text.byteSize text
      match chars.drop text.length with
      | _ :: left =>
        ⟨.string (String.ofList text) (String.ofList (c :: text ++ [c])) true, stop + 1, left, []⟩
      | [] => .wrong .openString start stop [] := by
  rcases h with rfl | rfl <;> rfl

theorem attributePiece_plain (start : Nat) {c : Char} (h : c ≠ '"' ∧ c ≠ '\'')
    (chars : List Char) : attributePiece start (c :: chars) = piece start (c :: chars) := by
  simp [attributePiece, h]

/-- The value of an attribute is the same in a longer text, unless the text ends in it. -/
theorem attributePiece_mayGoOn (start start' : Nat) (chars : List Char) :
    (attributePiece start chars).MayGoOn tail (attributePiece start' (chars ++ tail.chars)) := by
  match chars with
  | [] => exact .inl ⟨rfl, rfl⟩
  | c :: more =>
    rw [List.cons_append]
    by_cases hquote : c = '"' ∨ c = '\''
    · rw [attributePiece_quoted start hquote, attributePiece_quoted start' hquote]
      rcases takeWhile_cases (· != c) more with hall | ⟨front, d, back, rfl, hd, hfront⟩
      · rw [List.takeWhile_eq_self_iff.mpr hall]
        dsimp only
        rw [List.drop_length]
        exact .inl ⟨rfl, rfl⟩
      · rw [List.append_assoc, List.cons_append, takeWhile_closed (p := (· != c)) hd hfront,
          takeWhile_closed (p := (· != c)) hd hfront]
        dsimp only
        rw [List.drop_left, List.drop_left]
        exact .inr ⟨rfl, rfl, nofun⟩
    · rw [attributePiece_plain start (not_or.mp hquote),
        attributePiece_plain start' (not_or.mp hquote)]
      rcases piece_mayGrow tail start start' (List.cons_ne_nil c more) with hends | hgrows
      · exact .inl ⟨hends.1, hends.2.1⟩
      · exact .inr ⟨hgrows.lexeme, hgrows.rest, fun hend => hgrows.told (by rw [hend]; rfl)⟩

theorem markupWordPiece_grows (name : String) (stop stop' : Nat) (rest : List Char) :
    Piece.Grows tail (markupWordPiece name stop rest)
      (markupWordPiece name stop' (rest ++ tail.chars)) := by
  have hline : (fun c => c == '-' || isWordRest c) '\n' = false := by
    simp [isWordRest_newLine]
  unfold markupWordPiece
  rw [tail.takeWhile hline]
  dsimp only
  rw [drop_takeWhile]
  exact ⟨rfl, rfl, by simp [Lexeme.isOpen]⟩

-- ---------------------------------------------------------------------------
-- Blanks and comments
-- ---------------------------------------------------------------------------

/-- What stands before a token of a text, and before one of a longer text: they are the same, or the
text ends in it and it goes on to the end of the blanks that come next, or the text ends in a
comment. -/
inductive Gap.Grows (short long : Gap) : Prop
  | solid (ne : short.rest ≠ []) (rest : long.rest = short.rest ++ tail.chars)
      (afterBreak : long.afterBreak = short.afterBreak) (closed : short.openComment = none)
      (closed' : long.openComment = none)
  | blank (rest : short.rest = []) (closed : short.openComment = none)
      (rest' : long.rest = (gap 0 tail.chars).rest) (closed' : long.openComment = none)
      (afterBreak : tail.chars ≠ [] → long.afterBreak = true)
  | commented (rest : short.rest = []) (opened : short.openComment.isSome = true)

theorem Tail.head?_beq {c : Char} (h : c ≠ '\n') (chars : List Char) :
    ((chars ++ tail.chars).head? == some c) = (chars.head? == some c) := by
  rw [Bool.eq_iff_iff, beq_iff_eq, beq_iff_eq]
  exact tail.head? h chars

/-- The blanks behind a text, after a line break or at the end of all. -/
theorem gapFrom_tail (state : BlankState) (h : state.Alike .outside ∨ state.Alike (.lineComment 0))
    (place : Nat) (broken : Bool) (comment : Option (Nat × Nat)) :
    (gapFrom state place broken comment tail.chars).rest = (gap 0 tail.chars).rest ∧
      (gapFrom state place broken comment tail.chars).openComment = none ∧
      (tail.chars ≠ [] → (gapFrom state place broken comment tail.chars).afterBreak = true) := by
  have hclosed := tail.closed
  rcases tail.apart with htail | ⟨more, htail⟩
  · rw [htail]
    rcases h with h | h <;> cases state <;> first | exact h.elim | exact ⟨rfl, rfl, absurd rfl⟩
  · rw [htail] at hclosed ⊢
    have hgap : gap 0 ('\n' :: more) = gapFrom .outside 1 true none more := rfl
    have hstep : ∃ comment', gapFrom state place broken comment ('\n' :: more) =
        gapFrom .outside (place + 1) true comment' more := by
      rcases h with h | h <;> cases state <;> first | exact h.elim | exact ⟨_, rfl⟩
    obtain ⟨comment', hstep⟩ := hstep
    have halike : BlankState.Alike .outside .outside := trivial
    obtain ⟨hrest, hopen⟩ := gapFrom_alike halike (place + 1) 1 true true comment' none more
    rw [hgap] at hclosed ⊢
    rw [hstep]
    exact ⟨hrest, by simpa [hclosed] using hopen, fun _ => gapFrom_broken ..⟩

theorem gapFrom_grows {state state' : BlankState} (h : state.Alike state') (place place' : Nat)
    (broken : Bool) (comment comment' : Option (Nat × Nat)) (chars : List Char) :
    Gap.Grows tail (gapFrom state place broken comment chars)
      (gapFrom state' place' broken comment' (chars ++ tail.chars)) := by
  induction chars generalizing state state' place place' broken comment comment' with
  | nil =>
    cases state <;> cases state' <;> first | exact h.elim | skip
    · obtain ⟨hrest, hclosed, hbroken⟩ :=
        gapFrom_tail tail .outside (.inl trivial) place' broken comment'
      exact .blank rfl rfl hrest hclosed hbroken
    · rename_i start start'
      obtain ⟨hrest, hclosed, hbroken⟩ :=
        gapFrom_tail tail (.lineComment start') (.inr trivial) place' broken comment'
      exact .blank rfl rfl hrest hclosed hbroken
    all_goals exact .commented rfl rfl
  | cons c chars ih =>
    cases state <;> cases state' <;> first | exact h.elim | skip
    all_goals
      simp only [List.cons_append, gapFrom, tail.head?_beq (show '/' ≠ '\n' by decide),
        tail.head?_beq (show '*' ≠ '\n' by decide)]
    all_goals repeat' split
    all_goals first
      | exact ih (by trivial) ..
      | exact .solid (List.cons_ne_nil c chars) rfl rfl rfl rfl


end

end PagePrelude.Module
