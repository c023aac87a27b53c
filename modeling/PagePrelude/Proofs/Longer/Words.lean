import Mathlib.Data.List.TakeWhile
import PagePrelude.Proofs.Module.Opening

/-!
# Words of a longer text

Where a line break comes next, a token of a text is the same token of a longer text. This is so
character class by character class, since a line break is in none of them. Here it is proved of
escapes and of words.
-/

namespace PagePrelude.Module

/-- Whether a lexeme is a word that begins an item, so that no item goes on with it. -/
def Lexeme.BeginsItem (lexeme : Lexeme) : Prop :=
  lexeme = .word "export" false ∨ lexeme = .word "import" false

/-- What comes behind a text: nothing, or a line break and an item that begins with its keyword. -/
structure Tail where
  chars : List Char
  apart : chars = [] ∨ ∃ more, chars = '\n' :: more
  closed : (gap 0 chars).openComment = none
  begins : chars = [] ∨ (piece 0 (gap 0 chars).rest).lexeme.BeginsItem

/-- A token that was read, and the same one of a longer text. Why it could not be read is said of a
token that may go on. -/
structure Piece.Grows (tail : Tail) (short long : Piece) : Prop where
  lexeme : long.lexeme = short.lexeme
  rest : long.rest = short.rest ++ tail.chars
  told : short.lexeme.isOpen = true → short.problems ≠ []

/-- A token that was read, and one of a longer text: the text ends in the first, or they are the
same. -/
def Piece.MayGrow (tail : Tail) (short long : Piece) : Prop :=
  (short.lexeme.isOpen = true ∧ short.rest = [] ∧ short.problems ≠ []) ∨ short.Grows tail long

section
variable (tail : Tail) {chars : List Char}

-- ---------------------------------------------------------------------------
-- Runs of characters
-- ---------------------------------------------------------------------------

theorem Tail.takeWhile {p : Char → Bool} (h : p '\n' = false) (chars : List Char) :
    (chars ++ tail.chars).takeWhile p = chars.takeWhile p := by
  induction chars with
  | nil => rcases tail.apart with htail | ⟨more, htail⟩ <;> simp [htail, h]
  | cons c chars ih => simp [List.takeWhile_cons, ih]

theorem Tail.dropWhile {p : Char → Bool} (h : p '\n' = false) (chars : List Char) :
    (chars ++ tail.chars).dropWhile p = chars.dropWhile p ++ tail.chars := by
  induction chars with
  | nil => rcases tail.apart with htail | ⟨more, htail⟩ <;> simp [htail, h]
  | cons c chars ih =>
    rw [List.cons_append, List.dropWhile_cons, List.dropWhile_cons, ih]
    split <;> rfl

theorem drop_takeWhile (p : Char → Bool) (chars more : List Char) :
    (chars ++ more).drop (chars.takeWhile p).length =
      chars.drop (chars.takeWhile p).length ++ more :=
  List.drop_append_of_le_length (List.takeWhile_prefix p).length_le

theorem Piece.grows_wrong (problem problem' : Problem) (start start' stop stop' : Nat)
    (rest : List Char) : Piece.Grows tail (.wrong problem start stop rest)
      (.wrong problem' start' stop' (rest ++ tail.chars)) :=
  ⟨rfl, rfl, by simp [Piece.wrong]⟩

theorem Tail.head? {c : Char} (h : c ≠ '\n') (chars : List Char) :
    (chars ++ tail.chars).head? = some c ↔ chars.head? = some c := by
  cases chars with
  | nil =>
    rcases tail.apart with htail | ⟨more, htail⟩
    · simp [htail]
    · simp [htail, Ne.symm h]
  | cons d chars => rfl

theorem Tail.head?_cases (c : Char) (hc : c ≠ '\n') (chars : List Char) :
    (∃ more, chars = c :: more) ∨
      chars.head? ≠ some c ∧ (chars ++ tail.chars).head? ≠ some c := by
  by_cases h : chars.head? = some c
  · exact .inl (List.head?_eq_some_iff.mp h)
  · exact .inr ⟨h, mt (tail.head? hc chars).mp h⟩

-- ---------------------------------------------------------------------------
-- Escapes by code point
-- ---------------------------------------------------------------------------

theorem hexNumber?_newLine (h : '\n' ∈ chars) : Number.hexNumber? chars = none := by
  have hfold (n : Nat) :
      chars.foldlM (fun n c => (Number.hexValue? c).map (n * 16 + ·)) n = none := by
    induction chars generalizing n with
    | nil => cases h
    | cons c chars ih =>
      rw [List.foldlM_cons]
      rcases List.mem_cons.mp h with rfl | h
      · rfl
      · cases (Number.hexValue? c).map (n * 16 + ·) with
        | none => rfl
        | some m => exact ih h m
  rw [Number.hexNumber?, hfold]
  split <;> rfl

theorem codePoint?_braces (more : List Char) : codePoint? ('{' :: more) =
    match Number.hexNumber? (more.takeWhile (· != '}')),
      more.drop (more.takeWhile (· != '}')).length with
    | some n, _ :: rest =>
      if n ≤ 0x10FFFF then some (n, (more.takeWhile (· != '}')).length + 2, rest) else none
    | _, _ => none := rfl

theorem takeWhile_closed {p : Char → Bool} {c : Char} (hc : p c = false) {front : List Char}
    (hfront : ∀ d ∈ front, p d = true) (back : List Char) :
    (front ++ c :: back).takeWhile p = front := by
  rw [List.takeWhile_append_of_pos hfront, List.takeWhile_cons_of_neg (by simp [hc]),
    List.append_nil]

/-- An escape in braces that is closed is closed in a longer text, and no other is. -/
theorem codePoint?_braces_tail (more : List Char) :
    codePoint? ('{' :: (more ++ tail.chars)) = (codePoint? ('{' :: more)).map fun
      (n, taken, rest) => (n, taken, rest ++ tail.chars) := by
  rw [codePoint?_braces, codePoint?_braces]
  by_cases hclosed : '}' ∈ more
  · obtain ⟨front, back, rfl, hfront⟩ := List.eq_append_cons_of_mem hclosed
    have hother : ∀ d ∈ front, (d != '}') = true := by
      intro d hd
      exact bne_iff_ne.mpr fun heq => hfront (heq ▸ hd)
    have hsplit : front ++ '}' :: back ++ tail.chars = front ++ '}' :: (back ++ tail.chars) := by
      simp
    rw [hsplit, takeWhile_closed (by decide) hother, takeWhile_closed (by decide) hother]
    simp only [List.drop_left]
    cases Number.hexNumber? front with
    | none => rfl
    | some n =>
      dsimp only
      split <;> rfl
  · have hall : ∀ d ∈ more, (d != '}') = true := by
      intro d hd
      exact bne_iff_ne.mpr fun heq => hclosed (heq ▸ hd)
    have hopen : more.takeWhile (· != '}') = more := List.takeWhile_eq_self_iff.mpr hall
    rw [hopen, List.drop_length]
    have hnone (found : Option Nat) : (match found, ([] : List Char) with
        | some n, _ :: rest => if n ≤ 0x10FFFF then some (n, more.length + 2, rest) else none
        | _, _ => (none : Option (Nat × Nat × List Char))) = none := by
      cases found <;> rfl
    rw [hnone]
    rcases tail.apart with htail | ⟨later, htail⟩
    · rw [htail, List.append_nil, hopen, List.drop_length, hnone]
      rfl
    · rw [htail, List.takeWhile_append_of_pos hall, List.takeWhile_cons_of_pos (by decide),
        hexNumber?_newLine (by simp)]
      rfl

theorem codePoint?_four {a : Char} (h : a ≠ '{') (b c d : Char) (rest : List Char) :
    codePoint? (a :: b :: c :: d :: rest) =
      (Number.hexNumber? [a, b, c, d]).map fun n => (n, 4, rest) := by
  unfold codePoint?
  split
  · rename_i heq
    exact absurd (List.cons.inj heq).1 h
  · rename_i heq
    cases heq
    rfl
  · rename_i _ hnone
    exact absurd rfl (hnone a b c d rest)

theorem codePoint?_short {chars : List Char} (hlt : chars.length < 4) (h : chars.head? ≠ some '{') :
    codePoint? chars = none := by
  unfold codePoint?
  split
  · exact absurd rfl h
  · exact absurd hlt (by simp)
  · rfl

theorem codePoint?_newLine {before more : List Char} (hlt : before.length < 4)
    (hb : before.head? ≠ some '{') : codePoint? (before ++ '\n' :: more) = none := by
  unfold codePoint?
  split
  · rename_i heq
    cases before with
    | nil => cases heq
    | cons c before => exact absurd (congrArg some (List.cons.inj heq).1) hb
  · rename_i a b c d rest _ heq
    have hfour : [a, b, c, d] = (before ++ '\n' :: more).take 4 := by rw [heq]; rfl
    have hmem : '\n' ∈ (before ++ '\n' :: more).take 4 := by
      obtain ⟨room, hroom⟩ := Nat.exists_eq_add_of_lt hlt
      rw [List.take_append, List.mem_append]
      exact .inr (by rw [show 4 - before.length = room + 1 by omega]; simp)
    rw [hexNumber?_newLine (hfour ▸ hmem)]
    rfl
  · rfl

/-- An escape by code point is the same in a longer text. -/
theorem codePoint?_tail (chars : List Char) : codePoint? (chars ++ tail.chars) =
    (codePoint? chars).map fun (n, taken, rest) => (n, taken, rest ++ tail.chars) := by
  by_cases hb : chars.head? = some '{'
  · obtain ⟨more, rfl⟩ := List.head?_eq_some_iff.mp hb
    exact codePoint?_braces_tail tail more
  by_cases hlt : chars.length < 4
  · rw [codePoint?_short hlt hb]
    rcases tail.apart with htail | ⟨more, htail⟩
    · rw [htail, List.append_nil, codePoint?_short hlt hb]
      rfl
    · rw [htail, codePoint?_newLine hlt hb]
      rfl
  · match chars with
    | a :: b :: c :: d :: rest =>
      have ha : a ≠ '{' := fun heq => hb (by rw [heq]; rfl)
      rw [codePoint?_four ha]
      exact (codePoint?_four ha b c d _).trans (by cases Number.hexNumber? [a, b, c, d] <;> rfl)
    | [] | [_] | [_, _] | [_, _, _] => simp at hlt

-- ---------------------------------------------------------------------------
-- Words
-- ---------------------------------------------------------------------------

theorem isWordRest_newLine : isWordRest '\n' = false := by decide +kernel

theorem codePoint?_length {chars rest : List Char} {n taken : Nat}
    (h : codePoint? chars = some (n, taken, rest)) : rest.length < chars.length := by
  unfold codePoint? at h
  split at h
  · rename_i more
    dsimp only at h
    split at h
    · rename_i heq
      split at h
      · cases h
        have := congrArg List.length heq
        simp only [List.length_drop, List.length_cons] at this ⊢
        omega
      · cases h
    · cases h
  · obtain ⟨m, -, hm⟩ := Option.map_eq_some_iff.mp h
    cases hm
    simp only [List.length_cons]
    omega
  · cases h

/-- What a reader of words gives, but for the place where it stops. -/
def wordFound (found : Option (List Char × Nat × List Char)) (more : List Char) :
    Option (List Char × List Char) :=
  found.map fun (cs, _, left) => (cs, left ++ more)

theorem wordFound_cons (c : Char) (found : Option (List Char × Nat × List Char))
    (more : List Char) :
    wordFound (found.map fun (cs, stop, left) => (c :: cs, stop, left)) more =
      (wordFound found more).map fun (cs, left) => (c :: cs, left) := by
  cases found <;> rfl

theorem wordTail_plain {c : Char} (h : c ≠ '\\') (fuel place : Nat) (more : List Char) :
    wordTail (fuel + 1) (c :: more) place =
      if isWordRest c then
        (wordTail fuel more (place + c.utf8Size)).map fun (cs, stop, left) => (c :: cs, stop, left)
      else some ([], place, c :: more) := by
  rw [wordTail]
  · exact fun _ heq => absurd heq h
  · exact fun heq => absurd heq h

theorem wordTail_nil (fuel place : Nat) : wordTail fuel [] place = some ([], place, []) := by
  cases fuel <;> rfl

theorem wordTail_stray {more : List Char} (h : more.head? ≠ some 'u') (fuel place : Nat) :
    wordTail (fuel + 1) ('\\' :: more) place = none := by
  cases more with
  | nil => rfl
  | cons c more =>
    have hc : c ≠ 'u' := fun heq => h (congrArg some heq)
    simp [wordTail, hc]

theorem wordTail_escape (fuel place : Nat) (more : List Char) :
    wordTail (fuel + 1) ('\\' :: 'u' :: more) place = (codePoint? more).bind fun (n, taken, rest) =>
      if isWordRest (Char.ofNat n) then
        (wordTail fuel rest (place + 2 + taken)).map fun (cs, stop, left) =>
          (Char.ofNat n :: cs, stop, left)
      else none := by
  rw [wordTail]
  cases codePoint? more <;> rfl

/-- A word with escapes ends at the same place of a longer text. -/
theorem wordTail_tail (fuel fuel' place place' : Nat) (chars : List Char)
    (h : chars.length < fuel) (h' : chars.length < fuel') :
    wordFound (wordTail fuel' (chars ++ tail.chars) place') [] =
      wordFound (wordTail fuel chars place) tail.chars := by
  induction fuel generalizing fuel' place place' chars with
  | zero => exact absurd h (Nat.not_lt_zero _)
  | succ fuel ih =>
    obtain ⟨fuel', rfl⟩ := Nat.exists_eq_succ_of_ne_zero (Nat.ne_zero_of_lt h')
    rcases chars with _ | ⟨c, more⟩
    · rw [wordTail_nil]
      rcases tail.apart with htail | ⟨later, htail⟩
      · rw [htail, List.append_nil, wordTail_nil]
        rfl
      · rw [htail, List.nil_append, wordTail_plain (by decide), isWordRest_newLine]
        simp [wordFound]
    rw [List.length_cons] at h h'
    by_cases hb : c = '\\'
    · subst hb
      by_cases hu : more.head? = some 'u'
      · obtain ⟨more, rfl⟩ := List.head?_eq_some_iff.mp hu
        rw [List.cons_append, List.cons_append, wordTail_escape, wordTail_escape, codePoint?_tail]
        cases hcode : codePoint? more with
        | none => rfl
        | some found =>
          obtain ⟨n, taken, rest⟩ := found
          have hlt := codePoint?_length hcode
          simp only [Option.map_some, Option.bind_some, List.length_cons] at h h' ⊢
          split
          · rw [wordFound_cons, wordFound_cons,
              ih fuel' (place + 2 + taken) (place' + 2 + taken) rest (by omega) (by omega)]
          · rfl
      · have hu' : (more ++ tail.chars).head? ≠ some 'u' := by
          rcases more with _ | ⟨d, more⟩
          · rcases tail.apart with htail | ⟨later, htail⟩ <;> simp [htail]
          · exact hu
        rw [List.cons_append, wordTail_stray hu, wordTail_stray hu']
        rfl
    · rw [List.cons_append, wordTail_plain hb, wordTail_plain hb]
      split
      · rw [wordFound_cons, wordFound_cons,
          ih fuel' (place + c.utf8Size) (place' + c.utf8Size) more (by omega) (by omega)]
      · simp [wordFound]

theorem wordPiece_eq (make : String → Bool → Lexeme) (place : Nat) (chars : List Char) :
    wordPiece make place chars =
      if (chars.dropWhile isWordRest).head? = some '\\' then
        match wordTail (chars.length + 1) chars place with
        | some (cs, stop, left) => ⟨make (String.ofList cs) true, stop, left, []⟩
        | none =>
          let stop := place + Text.byteSize (chars.takeWhile isWordRest)
          .wrong .invalidUnicodeEscape stop (stop + 1) ((chars.dropWhile isWordRest).drop 1)
      else ⟨make (String.ofList (chars.takeWhile isWordRest)) false,
        place + Text.byteSize (chars.takeWhile isWordRest), chars.dropWhile isWordRest, []⟩ := by
  unfold wordPiece plainWord
  dsimp only
  split
  · rename_i heq
    rw [heq]
    rfl
  · rename_i hnone
    rw [if_neg]
    intro hhead
    obtain ⟨more, hmore⟩ := List.head?_eq_some_iff.mp hhead
    exact hnone more hmore

/-- A word is the same in a longer text. -/
theorem wordPiece_grows {make : String → Bool → Lexeme}
    (hmake : ∀ name escaped, (make name escaped).isOpen = false) (place place' : Nat)
    (chars : List Char) :
    Piece.Grows tail (wordPiece make place chars)
      (wordPiece make place' (chars ++ tail.chars)) := by
  rw [wordPiece_eq, wordPiece_eq, tail.takeWhile isWordRest_newLine,
    tail.dropWhile isWordRest_newLine]
  simp only [tail.head? (show '\\' ≠ '\n' by decide)]
  split
  · rename_i hhead
    obtain ⟨more, hmore⟩ := List.head?_eq_some_iff.mp hhead
    have hfound := wordTail_tail tail (chars.length + 1) ((chars ++ tail.chars).length + 1) place
      place' chars (by omega) (by rw [List.length_append]; omega)
    cases hshort : wordTail (chars.length + 1) chars place with
    | none =>
      rw [hshort] at hfound
      rw [Option.map_eq_none_iff.mp hfound, hmore]
      exact Piece.grows_wrong tail ..
    | some found =>
      rw [hshort] at hfound
      obtain ⟨⟨cs, stop, left⟩, hlong, heq⟩ := Option.map_eq_some_iff.mp hfound
      simp only [List.append_nil, Prod.mk.injEq] at heq
      obtain ⟨rfl, rfl⟩ := heq
      rw [hlong]
      exact ⟨rfl, rfl, by simp [hmake]⟩
  · exact ⟨rfl, rfl, by simp [hmake]⟩

theorem escapesWordFirst_tail (chars : List Char) :
    escapesWordFirst (chars ++ tail.chars) = escapesWordFirst chars := by
  have hother {more : List Char} (h : more.head? ≠ some 'u') : escapesWordFirst more = false := by
    unfold escapesWordFirst
    split
    · exact absurd rfl h
    · rfl
  by_cases hu : chars.head? = some 'u'
  · obtain ⟨more, rfl⟩ := List.head?_eq_some_iff.mp hu
    simp only [escapesWordFirst, List.cons_append, codePoint?_tail]
    cases codePoint? more <;> rfl
  · rw [hother hu, hother (mt (tail.head? (by decide) chars).mp hu)]

theorem isWordFirst_newLine : isWordFirst '\n' = false := by decide +kernel

/-- A private name is the same in a longer text, unless the text ends after the `#`. -/
theorem privatePiece_mayGrow (start start' : Nat) (chars : List Char) :
    Piece.MayGrow tail (privatePiece start chars) (privatePiece start' (chars ++ tail.chars)) := by
  match chars with
  | [] => exact .inl ⟨rfl, rfl, by simp [privatePiece, Piece.wrong]⟩
  | c :: more =>
    refine .inr ?_
    by_cases hb : c = '\\'
    · subst hb
      simp only [List.cons_append, privatePiece, escapesWordFirst_tail]
      split
      · exact wordPiece_grows tail (fun _ _ => rfl) _ _ ('\\' :: more)
      · exact Piece.grows_wrong tail ..
    · have hshort (start : Nat) (more : List Char) : privatePiece start (c :: more) =
          if isWordFirst c then wordPiece (fun name _ => .privateName name) (start + 1) (c :: more)
          else .wrong (.invalidCharacter c) (start + 1) (start + 1 + c.utf8Size) more := by
        rw [privatePiece]
        exact fun heq => absurd heq hb
      rw [List.cons_append, hshort, hshort]
      split
      · exact wordPiece_grows tail (fun _ _ => rfl) _ _ (c :: more)
      · exact Piece.grows_wrong tail ..

end

end PagePrelude.Module
