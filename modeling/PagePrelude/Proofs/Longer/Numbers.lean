import PagePrelude.Proofs.Longer.Words

/-!
# Numbers of a longer text

A number ends where its digits do, and a word or a digit that follows it makes it wrong. So a number
before a line break is the same in a longer text, and so is a wrong one.
-/

namespace PagePrelude.Module

section
variable (tail : Tail)

theorem digitRun_tail {isDigit : Char → Bool} (h : isDigit '\n' = false) (chars : List Char) :
    digitRun isDigit (chars ++ tail.chars) = ((digitRun isDigit chars).1,
      (digitRun isDigit chars).2.1 ++ tail.chars, (digitRun isDigit chars).2.2) := by
  have hrun := tail.takeWhile (p := fun c => isDigit c || c == '_') (by simp [h]) chars
  unfold digitRun
  dsimp only
  rw [hrun, drop_takeWhile]

theorem endNumber_grows (form : NumberForm) (start start' : Nat) (spelling rest : List Char) :
    Piece.Grows tail (endNumber form start spelling rest)
      (endNumber form start' spelling (rest ++ tail.chars)) := by
  cases rest with
  | nil =>
    rcases tail.apart with htail | ⟨more, htail⟩
    · rw [htail]
      exact ⟨rfl, by simp [endNumber, htail], by simp [endNumber, Lexeme.isOpen]⟩
    · have hplain : ('\n'.isDigit || isWordFirst '\n') = false := by
        rw [isWordFirst_newLine]
        rfl
      rw [htail, List.nil_append]
      simp only [endNumber, hplain]
      exact ⟨rfl, by simp [htail], by simp [Lexeme.isOpen]⟩
  | cons c more =>
    rw [List.cons_append]
    unfold endNumber
    dsimp only
    split
    · rw [← List.cons_append, tail.takeWhile isWordRest_newLine, drop_takeWhile]
      exact Piece.grows_wrong tail ..
    · exact ⟨rfl, rfl, by simp [Lexeme.isOpen]⟩

theorem wrongNumber_grows (start start' : Nat) (spelling rest : List Char) :
    Piece.Grows tail (wrongNumber start spelling rest)
      (wrongNumber start' spelling (rest ++ tail.chars)) :=
  Piece.grows_wrong tail ..

theorem exponentSign_other {chars : List Char} (hplus : chars.head? ≠ some '+')
    (hminus : chars.head? ≠ some '-') : exponentSign chars = ([], chars) := by
  unfold exponentSign
  split
  · exact absurd rfl hplus
  · exact absurd rfl hminus
  · rfl

theorem exponentSign_tail (chars : List Char) : exponentSign (chars ++ tail.chars) =
    ((exponentSign chars).1, (exponentSign chars).2 ++ tail.chars) := by
  by_cases hplus : chars.head? = some '+'
  · obtain ⟨more, rfl⟩ := List.head?_eq_some_iff.mp hplus
    rfl
  by_cases hminus : chars.head? = some '-'
  · obtain ⟨more, rfl⟩ := List.head?_eq_some_iff.mp hminus
    rfl
  rw [exponentSign_other hplus hminus,
    exponentSign_other (mt (tail.head? (by decide) chars).mp hplus)
      (mt (tail.head? (by decide) chars).mp hminus)]

theorem exponentPiece_cons (form : NumberForm) (start : Nat) (spelling : List Char) (e : Char)
    (more : List Char) : exponentPiece form start spelling (e :: more) =
      if e = 'e' || e = 'E' then
        let run := digitRun Char.isDigit (exponentSign more).2
        let spelling := spelling ++ e :: (exponentSign more).1 ++ run.1
        if run.1.isEmpty || !run.2.2 then wrongNumber start spelling run.2.1
        else endNumber .exponential start spelling run.2.1
      else endNumber form start spelling (e :: more) := rfl

theorem exponentPiece_grows (form : NumberForm) (start start' : Nat) (spelling rest : List Char) :
    Piece.Grows tail (exponentPiece form start spelling rest)
      (exponentPiece form start' spelling (rest ++ tail.chars)) := by
  cases rest with
  | nil =>
    have hnil : exponentPiece form start' spelling ([] ++ tail.chars) =
        endNumber form start' spelling ([] ++ tail.chars) := by
      rcases tail.apart with htail | ⟨more, htail⟩
      · rw [htail]
        rfl
      · rw [htail, List.nil_append, exponentPiece_cons]
        rfl
    rw [hnil]
    exact endNumber_grows tail form start start' spelling []
  | cons e more =>
    rw [List.cons_append, exponentPiece_cons, exponentPiece_cons, exponentSign_tail]
    dsimp only
    rw [digitRun_tail tail (by decide)]
    split
    · split
      · exact wrongNumber_grows tail ..
      · exact endNumber_grows tail ..
    · exact endNumber_grows tail _ _ _ _ (e :: more)

theorem fractionPiece_grows (start start' : Nat) (spelling rest : List Char) :
    Piece.Grows tail (fractionPiece start spelling rest)
      (fractionPiece start' spelling (rest ++ tail.chars)) := by
  unfold fractionPiece
  rw [digitRun_tail tail (by decide)]
  dsimp only
  split
  · exact wrongNumber_grows tail ..
  · exact exponentPiece_grows tail ..

theorem basePiece_grows (form : NumberForm) {isDigit : Char → Bool} (h : isDigit '\n' = false)
    (start start' : Nat) (spelling rest : List Char) :
    Piece.Grows tail (basePiece form isDigit start spelling rest)
      (basePiece form isDigit start' spelling (rest ++ tail.chars)) := by
  unfold basePiece
  rw [digitRun_tail tail h]
  dsimp only
  split
  · exact wrongNumber_grows tail ..
  generalize (digitRun isDigit rest).2.1 = left
  rcases tail.head?_cases 'n' (by decide) left with ⟨more, rfl⟩ | ⟨hn, hn'⟩
  · exact endNumber_grows tail ..
  split
  · exact absurd rfl hn
  split
  · rename_i heq
    exact absurd (congrArg List.head? heq) hn'
  exact endNumber_grows tail ..

theorem decimalPiece_grows (start start' : Nat) (chars : List Char) :
    Piece.Grows tail (decimalPiece start chars) (decimalPiece start' (chars ++ tail.chars)) := by
  unfold decimalPiece
  rw [digitRun_tail tail (by decide)]
  dsimp only
  split
  · exact wrongNumber_grows tail ..
  generalize (digitRun Char.isDigit chars).2.1 = left
  rcases tail.head?_cases '.' (by decide) left with ⟨more, rfl⟩ | ⟨hdot, hdot'⟩
  · exact fractionPiece_grows tail ..
  rcases tail.head?_cases 'n' (by decide) left with ⟨more, rfl⟩ | ⟨hn, hn'⟩
  · exact endNumber_grows tail ..
  split
  · exact absurd rfl hdot
  · exact absurd rfl hn
  split
  · rename_i heq
    exact absurd (congrArg List.head? heq) hdot'
  · rename_i heq
    exact absurd (congrArg List.head? heq) hn'
  exact exponentPiece_grows tail ..

theorem zeroPiece_grows (start start' : Nat) (chars : List Char) :
    Piece.Grows tail (zeroPiece start chars) (zeroPiece start' (chars ++ tail.chars)) := by
  unfold zeroPiece
  rw [tail.takeWhile (by decide)]
  dsimp only
  rw [drop_takeWhile]
  split
  · exact endNumber_grows tail ..
  generalize chars.drop (chars.takeWhile Char.isDigit).length = left
  rcases tail.head?_cases '.' (by decide) left with ⟨more, rfl⟩ | ⟨hdot, hdot'⟩
  · exact fractionPiece_grows tail ..
  split
  · exact absurd rfl hdot
  split
  · rename_i heq
    exact absurd (congrArg List.head? heq) hdot'
  exact exponentPiece_grows tail ..

theorem numberPiece_zero (start : Nat) (c : Char) (more : List Char) :
    numberPiece start ('0' :: c :: more) =
      if c = 'x' || c = 'X' then
        basePiece .hex (fun d => (Number.hexValue? d).isSome) start ['0', c] more
      else if c = 'o' || c = 'O' then basePiece .octal isOctal start ['0', c] more
      else if c = 'b' || c = 'B' then
        basePiece .binary (fun d => d == '0' || d == '1') start ['0', c] more
      else if c.isDigit then zeroPiece start ('0' :: c :: more)
      else if c = '_' then endNumber .decimal start ['0'] (c :: more)
      else decimalPiece start ('0' :: c :: more) := rfl

theorem numberPiece_other {chars : List Char} (h : chars.head? ≠ some '0') (start : Nat) :
    numberPiece start chars = decimalPiece start chars := by
  unfold numberPiece
  split
  · exact absurd rfl h
  · rfl

/-- A number is the same in a longer text. -/
theorem numberPiece_grows (start start' : Nat) (chars : List Char) :
    Piece.Grows tail (numberPiece start chars) (numberPiece start' (chars ++ tail.chars)) := by
  rcases tail.head?_cases '0' (by decide) chars with ⟨more, rfl⟩ | ⟨h, h'⟩
  · cases more with
    | nil =>
      rw [List.cons_append]
      have hlong : numberPiece start' ('0' :: ([] ++ tail.chars)) =
          decimalPiece start' ('0' :: ([] ++ tail.chars)) := by
        rcases tail.apart with htail | ⟨more, htail⟩ <;> rw [htail] <;> rfl
      rw [hlong]
      exact decimalPiece_grows tail start start' ['0']
    | cons c more =>
      rw [List.cons_append, List.cons_append, numberPiece_zero, numberPiece_zero]
      split
      · exact basePiece_grows tail _ (by decide) ..
      split
      · exact basePiece_grows tail _ (by decide) ..
      split
      · exact basePiece_grows tail _ (by decide) ..
      split
      · exact zeroPiece_grows tail _ _ ('0' :: c :: more)
      split
      · exact endNumber_grows tail _ _ _ _ (c :: more)
      · exact decimalPiece_grows tail _ _ ('0' :: c :: more)
  · rw [numberPiece_other h, numberPiece_other h']
    exact decimalPiece_grows tail ..

end

end PagePrelude.Module
