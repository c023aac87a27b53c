import PagePrelude.Identifier
import PagePrelude.Module.Lexer

/-!
# Identifiers against words

An identifier is made of alphabetic and numeric characters, a word of module code of
characters that start or continue a word. The two agree on ASCII. Beyond it they do
not: a character such as U+24B6 is alphabetic and belongs to no word.
-/

namespace PagePrelude

-- ---------------------------------------------------------------------------
-- Sets of code points
-- ---------------------------------------------------------------------------

namespace Text

/-- The bounds without the runs that end at or before a code point. -/
def runsFrom (start : Nat) : List Nat → List Nat
  | first :: next :: rest =>
    if first ≤ start && next ≤ start then runsFrom start rest else first :: next :: rest
  | other => other

/-- Whether every run of one set lies within a run of another. -/
def runsWithin : List Nat → List Nat → Bool
  | first :: next :: narrow, wide =>
    match runsFrom first wide with
    | start :: stop :: wide =>
      start ≤ first && next ≤ stop && runsWithin narrow (start :: stop :: wide)
    | _ => false
  | _, _ => true

theorem inBounds_of_runsFrom (hs : start ≤ n) (h : inBounds n (runsFrom start bounds) = true) :
    inBounds n bounds = true := by
  fun_induction runsFrom start bounds with
  | case1 first next rest hskip ih =>
    have hr := ih (by simpa only [runsFrom, hskip, if_true] using h)
    simp only [Bool.and_eq_true, decide_eq_true_eq] at hskip
    simp only [inBounds, hr, Bool.or_true, Bool.and_true, decide_eq_true_eq]
    omega
  | case2 first next rest hkeep =>
    simpa only [runsFrom, hkeep, Bool.false_eq_true, if_false] using h
  | case3 bounds hb => simpa only [runsFrom] using h

theorem inBounds_of_runsWithin (hw : runsWithin narrow wide = true)
    (h : inBounds n narrow = true) : inBounds n wide = true := by
  fun_induction runsWithin narrow wide with
  | case1 first next narrow wide start stop rest hfrom ih =>
    simp only [inBounds, Bool.and_eq_true, Bool.or_eq_true, decide_eq_true_eq] at h hw
    obtain ⟨hfirst, hnext | hrest⟩ := h
    · refine inBounds_of_runsFrom hfirst ?_
      simp only [hfrom, inBounds, Bool.and_eq_true, Bool.or_eq_true, decide_eq_true_eq]
      omega
    · refine inBounds_of_runsFrom hfirst ?_
      rw [hfrom]
      exact ih hw.2 hrest
  | case2 => cases hw
  | case3 narrow wide hne =>
    match narrow with
    | [] | [_] => simp [inBounds] at h
    | first :: next :: rest => exact absurd rfl (hne first next rest)

theorem isWordPart_of_isWordStart (h : isWordStart c = true) : isWordPart c = true := by
  simp only [isWordStart, isWordPart, Bool.or_eq_true] at h ⊢
  rcases h with h | h
  · exact .inl (.inl (by rw [Char.isAlphanum, h, Bool.true_or]))
  · have hw : runsWithin wordStartBounds wordPartBounds = true := by decide +kernel
    exact .inr (inBounds_of_runsWithin hw h)

end Text

-- ---------------------------------------------------------------------------
-- Characters of identifiers and of words
-- ---------------------------------------------------------------------------

namespace Module

open Identifier (isFirst isRest)

theorem isWordRest_of_isWordFirst (h : isWordFirst c = true) : isWordRest c = true := by
  simp only [isWordFirst, isWordRest, Bool.or_eq_true] at h ⊢
  rcases h with (h | h) | h
  · exact .inl (.inl (.inl h))
  · exact .inl (.inl (.inr (by simp [Text.isWordPart, h])))
  · exact .inl (.inl (.inr (Text.isWordPart_of_isWordStart h)))

/-- The code points of the characters that are passed over between tokens. -/
def gapPoints : List Nat := [
  9, 10, 11, 12, 13, 0x20, 0x85, 0xA0, 0x1680, 0x2000, 0x2001, 0x2002, 0x2003, 0x2004, 0x2005,
  0x2006, 0x2007, 0x2008, 0x2009, 0x200A, 0x200B, 0x2028, 0x2029, 0x202F, 0x205F, 0x3000, 0xFEFF]

theorem mem_gapPoints (h : isBlank c = true ∨ isBreak c = true) : c.toNat ∈ gapPoints := by
  have point (d : Char) (hd : c = d) (hm : d.toNat ∈ gapPoints) : c.toNat ∈ gapPoints := hd ▸ hm
  rcases h with h | h
  · simp only [isBlank, Bool.or_eq_true, Bool.and_eq_true, beq_iff_eq, decide_eq_true_eq] at h
    rcases h with ((((((((((h | h) | h) | h) | h) | h) | h) | h) | h) | h) | h) | h
    · exact point _ h (by decide)
    · exact point _ h (by decide)
    all_goals simp only [gapPoints, List.mem_cons]; omega
  · simp only [isBreak, Bool.or_eq_true, beq_iff_eq] at h
    rcases h with ((h | h) | h) | h
    all_goals exact point _ h (by decide)

/-- Characters with a property that no gap has stand in a token. -/
theorem not_gap {p : Char → Bool} (hp : ∀ n ∈ gapPoints, p (Char.ofNat n) = false)
    (h : p c = true) : isBlank c = false ∧ isBreak c = false := by
  have hn : c.toNat ∉ gapPoints := by
    intro hm
    have hnone := hp _ hm
    rw [Char.ofNat_toNat, h] at hnone
    cases hnone
  exact ⟨Bool.eq_false_iff.mpr fun hb => hn (mem_gapPoints (.inl hb)),
    Bool.eq_false_iff.mpr fun hb => hn (mem_gapPoints (.inr hb))⟩

theorem not_gap_of_isWordRest (h : isWordRest c = true) :
    isBlank c = false ∧ isBreak c = false :=
  not_gap (by decide +kernel) h

theorem not_gap_of_isRest (h : isRest c = true) : isBlank c = false ∧ isBreak c = false :=
  not_gap (by decide +kernel) h

/-- What holds of every ASCII character by its code point holds of a given one. -/
theorem of_ascii {p q : Char → Bool}
    (hall : ∀ n < 128, p (Char.ofNat n) = true → q (Char.ofNat n) = true)
    (hc : c.toNat < 128) (h : p c = true) : q c = true := by
  have hq := hall c.toNat hc
  rw [Char.ofNat_toNat] at hq
  exact hq h

theorem isWordRest_of_ascii (hc : c.toNat < 128) (h : isRest c = true) : isWordRest c = true :=
  of_ascii (by decide +kernel) hc h

theorem isWordFirst_of_ascii (hc : c.toNat < 128) (h : isFirst c = true) : isWordFirst c = true :=
  of_ascii (by decide +kernel) hc h

theorem isRest_of_isFirst (h : isFirst c = true) : isRest c = true := by
  simp only [isFirst, isRest, Bool.or_eq_true] at h ⊢
  rcases h with (h | h) | h
  · exact .inl (.inl (.inl h))
  · exact .inl (.inr h)
  · exact .inr h

-- ---------------------------------------------------------------------------
-- Words
-- ---------------------------------------------------------------------------

/-- Whether module code reads a text as one word. -/
def isWord (name : String) : Bool :=
  match name.toList with
  | [] => false
  | c :: cs => isWordFirst c && cs.all isWordRest

theorem isWord_iff : isWord name = true ↔
    ∃ c cs, name.toList = c :: cs ∧ isWordFirst c = true ∧ ∀ d ∈ cs, isWordRest d = true := by
  unfold isWord
  cases hname : name.toList with
  | nil => simp
  | cons c cs =>
    simp only [Bool.and_eq_true, List.all_eq_true]
    constructor
    · rintro ⟨hc, hcs⟩
      exact ⟨c, cs, rfl, hc, hcs⟩
    · rintro ⟨_, _, h, hc, hcs⟩
      cases h
      exact ⟨hc, hcs⟩

/-- Whether a text is made of ASCII characters. -/
def isAscii (name : String) : Bool :=
  name.toList.all (·.toNat < 128)

theorem isWord_of_isShaped (ha : isAscii name = true) (h : Identifier.isShaped name = true) :
    isWord name = true := by
  unfold Identifier.isShaped at h
  simp only [isAscii, List.all_eq_true, decide_eq_true_eq] at ha
  refine isWord_iff.mpr ?_
  cases hname : name.toList with
  | nil =>
    rw [hname] at h
    cases h
  | cons c cs =>
    rw [hname] at h ha
    simp only [Bool.and_eq_true, List.all_eq_true] at h
    refine ⟨c, cs, rfl, isWordFirst_of_ascii (ha c (by simp)) h.1, fun d hd => ?_⟩
    exact isWordRest_of_ascii (ha d (by simp [hd])) (h.2 d hd)

theorem isWord_of_isIdentifier (ha : isAscii name = true)
    (h : Identifier.isIdentifier name = true) : isWord name = true := by
  simp only [Identifier.isIdentifier, Bool.and_eq_true] at h
  exact isWord_of_isShaped ha h.1

end Module

end PagePrelude
