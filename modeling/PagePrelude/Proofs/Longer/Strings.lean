import PagePrelude.Proofs.Longer.Words

/-!
# Quoted tokens of a longer text

Strings and templates that are closed are the same in a longer text; one that is not goes on to the
end of the text. A regular expression ends where its line does.
-/

namespace PagePrelude.Module

section
variable (tail : Tail)

-- ---------------------------------------------------------------------------
-- Strings
-- ---------------------------------------------------------------------------

/-- The same result of an escape, with more behind what it leaves. -/
def escapedBefore (more : List Char) :
    Option Nat × Nat × List Char → Option Nat × Nat × List Char
  | (n, taken, rest) => (n, taken, rest ++ more)

theorem takeWhile_take (p : Char → Bool) (h : p '\n' = false) (room : Nat) (chars : List Char) :
    ((chars ++ tail.chars).take room).takeWhile p = (chars.take room).takeWhile p := by
  induction chars generalizing room with
  | nil =>
    rcases tail.apart with htail | ⟨more, htail⟩
    · simp [htail]
    · cases room <;> simp [htail, h]
  | cons c chars ih =>
    cases room with
    | zero => rfl
    | succ room => simp only [List.cons_append, List.take_succ_cons, List.takeWhile_cons, ih]

theorem escape_length {chars left : List Char} {n : Option Nat} {taken : Nat}
    (h : escape chars = .ok (n, taken, left)) : left.length ≤ chars.length := by
  unfold escape at h
  split at h
  · cases h
    exact Nat.le_refl _
  split at h
  · split at h
    · cases h
      simp only [List.length_cons]
      omega
    · cases h
      simp
  split at h
  · cases h
    simp
  split at h
  · split at h
    · split at h <;> cases h
      simp only [List.length_cons]
      omega
    · cases h
  split at h
  · split at h
    · rename_i hcode
      cases h
      have := codePoint?_length hcode
      simp only [List.length_cons]
      omega
    · cases h
  split at h
  · cases h
    simp only [List.length_drop, List.length_cons]
    omega
  · cases h
    simp

theorem escape_cons (c : Char) (more : List Char) : escape (c :: more) =
    if c = '\r' then
      match more with
      | '\n' :: rest => .ok (none, 2, rest)
      | _ => .ok (none, 1, more)
    else if isBreak c then .ok (none, c.utf8Size, more)
    else if c = 'x' then
      match more with
      | a :: b :: rest =>
        match Number.hexNumber? [a, b] with
        | some n => .ok (some n, 3, rest)
        | none => .error .invalidEscape
      | _ => .error .invalidEscape
    else if c = 'u' then
      match codePoint? more with
      | some (n, taken, rest) => .ok (some n, taken + 1, rest)
      | none => .error .invalidUnicodeEscape
    else if isOctal c then
      let digits := c :: (more.take (if c ≤ '3' then 2 else 1)).takeWhile isOctal
      .ok (some (digits.foldl (fun n d => n * 8 + (d.toNat - 48)) 0), digits.length,
        (c :: more).drop digits.length)
    else .ok (some (letterEscape c), c.utf8Size, more) := rfl

theorem escape_return {more : List Char} (h : more.head? ≠ some '\n') :
    escape ('\r' :: more) = .ok (none, 1, more) := by
  rw [escape_cons, if_pos rfl]
  split
  · exact absurd rfl h
  · rfl

/-- An escape is the same in a longer text, unless the text ends before a line break is complete. -/
theorem escape_tail {chars : List Char} (h : chars ≠ []) (hcr : chars ≠ ['\r']) :
    escape (chars ++ tail.chars) = (escape chars).map (escapedBefore tail.chars) := by
  obtain ⟨c, more, rfl⟩ := List.exists_cons_of_ne_nil h
  by_cases hc : c = '\r'
  · subst hc
    obtain ⟨d, more, rfl⟩ := List.exists_cons_of_ne_nil fun heq => hcr (heq ▸ rfl)
    by_cases hd : d = '\n'
    · subst hd
      rfl
    · have hother (more : List Char) : (d :: more).head? ≠ some '\n' := fun heq =>
        hd (Option.some.inj heq)
      rw [List.cons_append, List.cons_append, escape_return (hother _), escape_return (hother _)]
      rfl
  rw [List.cons_append, escape_cons, escape_cons, if_neg hc, if_neg hc]
  split
  · rfl
  split
  · have hnone (a b : Char) (hmem : '\n' ∈ [a, b]) : Number.hexNumber? [a, b] = none :=
      hexNumber?_newLine hmem
    match more with
    | a :: b :: more =>
      dsimp only [List.cons_append]
      cases Number.hexNumber? [a, b] <;> rfl
    | [] =>
      rcases tail.apart with htail | ⟨later, htail⟩
      · rw [htail]
        rfl
      · rw [htail]
        cases later with
        | nil => rfl
        | cons b later =>
          dsimp only [List.nil_append]
          rw [hnone '\n' b (by simp)]
          rfl
    | [a] =>
      rcases tail.apart with htail | ⟨later, htail⟩
      · rw [htail]
        rfl
      · rw [htail]
        dsimp only [List.cons_append, List.nil_append]
        rw [hnone a '\n' (by simp)]
        rfl
  split
  · rw [codePoint?_tail]
    cases codePoint? more <;> rfl
  split
  · dsimp only
    rw [takeWhile_take tail isOctal (by decide), ← List.cons_append,
      List.drop_append_of_le_length]
    · rfl
    · have hprefix := (List.takeWhile_prefix isOctal).trans
        (List.take_prefix (if c ≤ '3' then 2 else 1) more)
      simpa using hprefix.length_le
  · rfl

/-- A string read from a text, and from a longer one: it is the same, or the text ends in it. -/
def StringBody.MayGrow (short long : StringBody) : Prop :=
  (short.closed = false ∧ short.rest = []) ∨
    (long.closed = short.closed ∧ long.units = short.units ∧ long.rest = short.rest ++ tail.chars)

theorem stringBody_nil (quote : Char) (fuel : Nat) (units : List Nat) (problems : List Diagnostic)
    (place : Nat) : stringBody quote fuel units problems place [] =
      ⟨units.reverse, place, [], problems, false⟩ := by
  cases fuel <;> rfl

theorem stringBody_mayGrow (quote : Char) (fuel fuel' : Nat) (units : List Nat)
    (problems problems' : List Diagnostic) (place place' : Nat) (chars : List Char)
    (h : chars.length ≤ fuel) (h' : chars.length ≤ fuel') :
    (stringBody quote fuel units problems place chars).MayGrow tail
      (stringBody quote fuel' units problems' place' (chars ++ tail.chars)) := by
  induction fuel generalizing fuel' units problems problems' place place' chars with
  | zero =>
    rw [List.length_eq_zero_iff.mp (Nat.le_zero.mp h), stringBody_nil]
    exact .inl ⟨rfl, rfl⟩
  | succ fuel ih =>
    cases chars with
    | nil =>
      rw [stringBody_nil]
      exact .inl ⟨rfl, rfl⟩
    | cons c more =>
      obtain ⟨fuel', rfl⟩ := Nat.exists_eq_add_one_of_ne_zero (Nat.ne_zero_of_lt h')
      rw [List.length_cons] at h h'
      rw [List.cons_append]
      unfold stringBody
      split
      · exact .inr ⟨rfl, rfl, rfl⟩
      split
      · by_cases hends : more = [] ∨ more = ['\r']
        · -- The text ends in the escape, and so in the string.
          rcases hends with rfl | rfl
          · dsimp only [escape]
            rw [stringBody_nil]
            exact .inl ⟨rfl, rfl⟩
          · rw [escape_return (by simp)]
            dsimp only
            rw [stringBody_nil]
            exact .inl ⟨rfl, rfl⟩
        · obtain ⟨hnil, hcr⟩ := not_or.mp hends
          rw [escape_tail tail hnil hcr]
          cases hescape : escape more with
          | error problem => exact ih _ _ _ _ _ _ _ (by omega) (by omega)
          | ok found =>
            obtain ⟨n, taken, left⟩ := found
            have hleft := escape_length hescape
            cases n <;> exact ih _ _ _ _ _ _ _ (by omega) (by omega)
      split
      · exact .inr ⟨rfl, rfl, rfl⟩
      · exact ih _ _ _ _ _ _ _ (by omega) (by omega)

/-- A string is the same in a longer text, unless the text ends in it. -/
theorem stringPiece_mayGrow (quote : Char) (start start' : Nat) {chars : List Char}
    (h : chars ≠ []) : Piece.MayGrow tail (stringPiece quote start chars)
      (stringPiece quote start' (chars ++ tail.chars)) := by
  obtain ⟨c, more, rfl⟩ := List.exists_cons_of_ne_nil h
  have hbody := stringBody_mayGrow tail quote (c :: more).length (c :: more ++ tail.chars).length []
    [] [] (start + 1) (start' + 1) more (by simp) (by simp; omega)
  unfold stringPiece
  dsimp only
  rw [List.cons_append, List.drop_one, List.tail_cons, List.drop_one, List.tail_cons,
    ← List.cons_append]
  rcases hbody with ⟨hopen, hrest⟩ | ⟨hclosed, hunits, hrest⟩
  · rw [hopen]
    exact .inl ⟨rfl, hrest, by simp⟩
  · rw [hclosed, hunits, hrest]
    split
    · rw [List.length_append, List.length_append, Nat.add_sub_add_right,
        List.take_append_of_le_length (Nat.sub_le _ _)]
      exact .inr ⟨rfl, rfl, by simp [Lexeme.isOpen]⟩
    · exact .inr ⟨rfl, rfl, by simp⟩

-- ---------------------------------------------------------------------------
-- Templates and regular expressions
-- ---------------------------------------------------------------------------

theorem isTemplateEscape_zero (more : List Char) :
    isTemplateEscape ('0' :: more) = !(more.head?.any Char.isDigit) := by
  cases more <;> rfl

theorem isTemplateEscape_digit {c : Char} (h : c.isDigit = true) (hc : c ≠ '0')
    (more : List Char) : isTemplateEscape (c :: more) = false := by
  rw [isTemplateEscape, if_pos h]
  · simpa using hc
  · exact fun _ _ heq => absurd heq hc

theorem isTemplateEscape_plain {c : Char} (h : c.isDigit = false) (more : List Char) :
    isTemplateEscape (c :: more) = (escape (c :: more)).isOk := by
  rw [isTemplateEscape, if_neg (by simp [h])]
  rintro _ _ rfl
  cases h

theorem isTemplateEscape_tail (c : Char) (more : List Char) :
    isTemplateEscape (c :: (more ++ tail.chars)) = isTemplateEscape (c :: more) := by
  cases hdigit : c.isDigit with
  | true =>
    by_cases hc : c = '0'
    · subst hc
      rw [isTemplateEscape_zero, isTemplateEscape_zero]
      cases more with
      | nil => rcases tail.apart with htail | ⟨later, htail⟩ <;> rw [htail] <;> rfl
      | cons d more => rfl
    · rw [isTemplateEscape_digit hdigit hc, isTemplateEscape_digit hdigit hc]
  | false =>
    rw [isTemplateEscape_plain hdigit, isTemplateEscape_plain hdigit]
    by_cases hcr : c :: more = ['\r']
    · obtain ⟨rfl, rfl⟩ := List.cons.inj hcr
      rcases tail.apart with htail | ⟨later, htail⟩ <;> rw [htail] <;> rfl
    · rw [← List.cons_append, escape_tail tail (List.cons_ne_nil _ _) hcr]
      cases escape (c :: more) <;> rfl

/-- A piece of a template that is closed is the same in a longer text. -/
theorem templateBody_tail {sound sound' more : Bool} {taken taken' chars rest : List Char}
    {place stop : Nat} (place' : Nat)
    (h : templateBody sound taken place chars = some (taken', more, sound', stop, rest)) :
    ∃ stop', templateBody sound taken place' (chars ++ tail.chars) =
      some (taken', more, sound', stop', rest ++ tail.chars) := by
  fun_induction templateBody sound taken place chars generalizing place' with
  | case1 =>
    cases h
    exact ⟨_, rfl⟩
  | case2 =>
    cases h
    exact ⟨_, rfl⟩
  | case3 sound taken place c chars ih =>
    obtain ⟨stop', hstop⟩ := ih (place' + 1 + c.utf8Size) h
    rw [← isTemplateEscape_tail tail] at hstop
    exact ⟨stop', hstop⟩
  | case4 sound taken place c chars hquote hopens hescape ih =>
    cases chars with
    | nil => cases h
    | cons d chars =>
      rw [List.cons_append, List.cons_append, templateBody]
      · exact ih _ h
      · exact hquote
      · rintro later rfl heq
        exact hopens chars rfl (by rw [(List.cons.inj heq).1])
      · rintro d' later rfl heq
        exact hescape d chars rfl rfl
  | case5 => cases h

/-- A piece of a template is the same in a longer text, unless the text ends in it. -/
theorem templatePiece_mayGrow (first : Bool) (start start' : Nat) {chars : List Char}
    (h : chars ≠ []) : Piece.MayGrow tail (templatePiece first start chars)
      (templatePiece first start' (chars ++ tail.chars)) := by
  obtain ⟨c, chars, rfl⟩ := List.exists_cons_of_ne_nil h
  unfold templatePiece
  simp only [List.drop_one, List.tail_cons, List.cons_append]
  cases hbody : templateBody true [] (start + 1) chars with
  | none => exact .inl ⟨rfl, rfl, by simp [Piece.wrong]⟩
  | some found =>
    obtain ⟨taken, more, sound, stop, rest⟩ := found
    obtain ⟨stop', hlong⟩ := templateBody_tail tail (start' + 1) hbody
    rw [hlong]
    exact .inr ⟨rfl, rfl, by simp [Lexeme.isOpen]⟩

theorem regexBody_escape (inClass : Bool) (taken : List Char) (c : Char) (rest : List Char) :
    regexBody inClass taken ('\\' :: c :: rest) =
      if isBreak c then none else regexBody inClass (c :: '\\' :: taken) rest := by
  rw [regexBody]

theorem regexBody_plain {c : Char} {rest : List Char} (h : c = '\\' → rest = [])
    (inClass : Bool) (taken : List Char) : regexBody inClass taken (c :: rest) =
      if isBreak c then none
      else if c = '/' && !inClass then some (c :: taken, rest)
      else if c = '[' then regexBody true (c :: taken) rest
      else if c = ']' then regexBody false (c :: taken) rest
      else regexBody inClass (c :: taken) rest := by
  rw [regexBody]
  rintro d more hc rfl
  cases h hc

/-- The pattern of a regular expression ends where the line does. -/
theorem regexBody_tail (inClass : Bool) (taken chars : List Char) :
    regexBody inClass taken (chars ++ tail.chars) =
      (regexBody inClass taken chars).map fun (pattern, rest) => (pattern, rest ++ tail.chars) := by
  rcases tail.apart with htail | ⟨later, htail⟩
  · cases hbody : regexBody inClass taken chars <;> simp [htail, hbody]
  rw [htail]
  fun_induction regexBody inClass taken chars with
  | case1 inClass taken c rest hbreak =>
    rw [List.cons_append, List.cons_append, regexBody_escape, if_pos hbreak]
    rfl
  | case2 inClass taken c rest hbreak ih =>
    rw [List.cons_append, List.cons_append, regexBody_escape, if_neg hbreak, ih]
  | case3 inClass taken c rest hc hbreak =>
    rw [List.cons_append, regexBody_plain, if_pos hbreak]
    · rfl
    · rintro rfl
      cases hbreak
  | case4 inClass taken c rest hc hbreak hslash =>
    rw [List.cons_append, regexBody_plain, if_neg hbreak, if_pos hslash]
    · rfl
    · rintro rfl
      cases hslash
  | case5 inClass taken rest hc hbreak hslash ih =>
    rw [List.cons_append, regexBody_plain (by simp), if_neg hbreak, if_neg hslash, if_pos rfl, ih]
  | case6 inClass taken rest hc hbreak hslash hopens ih =>
    rw [List.cons_append, regexBody_plain (by simp), if_neg hbreak, if_neg hslash, if_neg hopens,
      if_pos rfl, ih]
  | case7 inClass taken c rest hc hbreak hslash hopens hcloses ih =>
    by_cases hends : c = '\\' ∧ rest = []
    · obtain ⟨rfl, rfl⟩ := hends
      rfl
    · rw [List.cons_append, regexBody_plain, if_neg hbreak, if_neg hslash, if_neg hopens,
        if_neg hcloses, ih]
      rintro rfl
      cases rest with
      | nil => exact absurd ⟨rfl, rfl⟩ hends
      | cons d rest => cases hc d rest rfl rfl
  | case8 inClass taken =>
    rw [List.nil_append, regexBody_plain (by simp)]
    rfl

/-- A regular expression is the same in a longer text. -/
theorem regexPiece_grows (start start' : Nat) {chars : List Char} (h : chars ≠ []) :
    Piece.Grows tail (regexPiece start chars) (regexPiece start' (chars ++ tail.chars)) := by
  obtain ⟨c, chars, rfl⟩ := List.exists_cons_of_ne_nil h
  have hbody := regexBody_tail tail false ['/'] chars
  unfold regexPiece
  rw [List.drop_one, List.tail_cons, List.cons_append, List.drop_one, List.tail_cons, hbody]
  cases regexBody false ['/'] chars with
  | none =>
    dsimp only [Option.map_none]
    rw [← List.cons_append, tail.takeWhile (by decide), drop_takeWhile]
    exact Piece.grows_wrong tail ..
  | some found =>
    obtain ⟨pattern, rest⟩ := found
    dsimp only [Option.map_some]
    rw [tail.takeWhile isWordRest_newLine, drop_takeWhile]
    exact ⟨rfl, rfl, by simp [Lexeme.isOpen]⟩

end

end PagePrelude.Module
