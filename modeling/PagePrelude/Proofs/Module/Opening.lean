import PagePrelude.ImportStatement
import PagePrelude.Proofs.Text.Characters

/-!
# How a text opens

What the first token of a text is, for the texts that generated code is made of: words,
marks and quoted strings, with blanks before them. `opens_literal` is the round trip of
quoting: a quoted text reads back as one string with that value.

A text jams if its first characters form no token. That is what becomes of an
alphabetic character that belongs to no word.
-/

namespace PagePrelude.Module

/-- Wherever the characters stand, their first token is `lexeme`, it is read without a problem and
without a comment before it, and `rest` comes after it. -/
def Opens (chars : List Char) (lexeme : Lexeme) (rest : List Char) : Prop :=
  ∀ place afterBreak, ∃ here start broken stop,
    gapFrom .outside place afterBreak none chars = ⟨here, start, broken, none, none⟩ ∧
      piece start here = ⟨lexeme, stop, rest, []⟩

/-- Wherever the characters stand, the first of them form no token. -/
def Jams (chars : List Char) : Prop :=
  ∀ place afterBreak, ∃ here start broken,
    gapFrom .outside place afterBreak none chars = ⟨here, start, broken, none, none⟩ ∧
      (piece start here).lexeme = .unknown

-- ---------------------------------------------------------------------------
-- Blanks
-- ---------------------------------------------------------------------------

theorem gapFrom_gap (h : isBlank c = true ∨ isBreak c = true) (rest : List Char) (place : Nat)
    (afterBreak : Bool) :
    ∃ next broken, gapFrom .outside place afterBreak none (c :: rest) =
      gapFrom .outside next broken none rest := by
  refine ⟨place + c.utf8Size, if isBlank c then afterBreak else true, ?_⟩
  cases hb : isBlank c with
  | true => simp [gapFrom, hb]
  | false => simp [gapFrom, hb, h.resolve_left (by simp [hb])]

theorem gapFrom_token (h : isBlank c = false ∧ isBreak c = false) (hs : c ≠ '/') (place : Nat)
    (afterBreak : Bool) : gapFrom .outside place afterBreak none (c :: rest) =
      ⟨c :: rest, place, afterBreak, none, none⟩ := by
  simp [gapFrom, h.1, h.2, hs]

/-- Whether two states of a reader of blanks differ at most in the place of a comment. -/
def BlankState.Alike : BlankState → BlankState → Prop
  | .outside, .outside | .lineComment _, .lineComment _ | .opening _, .opening _
  | .blockComment _, .blockComment _ | .closing _, .closing _ => True
  | _, _ => False

/-- What is left behind a gap does not depend on where the gap stands. -/
theorem gapFrom_alike {state state' : BlankState} (h : state.Alike state')
    (place place' : Nat) (broken broken' : Bool) (comment comment' : Option (Nat × Nat))
    (chars : List Char) : (gapFrom state place broken comment chars).rest =
        (gapFrom state' place' broken' comment' chars).rest ∧
      (gapFrom state place broken comment chars).openComment.isSome =
        (gapFrom state' place' broken' comment' chars).openComment.isSome := by
  induction chars generalizing state state' place place' broken broken' comment comment' with
  | nil => cases state <;> cases state' <;> first | exact h.elim | exact ⟨rfl, rfl⟩
  | cons c chars ih =>
    cases state <;> cases state' <;> first | exact h.elim | skip
    all_goals simp only [gapFrom]
    all_goals repeat' split
    all_goals first | exact ih (by trivial) .. | exact ⟨rfl, rfl⟩

/-- A line break that was met stays met. -/
theorem gapFrom_broken (state : BlankState) (place : Nat) (comment : Option (Nat × Nat))
    (chars : List Char) : (gapFrom state place true comment chars).afterBreak = true := by
  induction chars generalizing state place comment with
  | nil => cases state <;> rfl
  | cons c chars ih =>
    cases state <;> simp only [gapFrom]
    all_goals repeat' split
    all_goals first | exact ih .. | rfl

theorem Opens.gap (h : Opens chars lexeme rest) (hc : isBlank c = true ∨ isBreak c = true) :
    Opens (c :: chars) lexeme rest := by
  intro place afterBreak
  obtain ⟨next, broken, hg⟩ := gapFrom_gap hc chars place afterBreak
  rw [hg]
  exact h next broken

theorem Jams.gap (h : Jams chars) (hc : isBlank c = true ∨ isBreak c = true) :
    Jams (c :: chars) := by
  intro place afterBreak
  obtain ⟨next, broken, hg⟩ := gapFrom_gap hc chars place afterBreak
  rw [hg]
  exact h next broken

theorem Opens.blank (h : Opens chars lexeme rest) : Opens (' ' :: chars) lexeme rest :=
  h.gap (.inl (by decide))

theorem opens_of_piece (hg : isBlank c = false ∧ isBreak c = false) (hs : c ≠ '/')
    (h : ∀ start, ∃ stop, piece start (c :: chars) = ⟨lexeme, stop, rest, []⟩) :
    Opens (c :: chars) lexeme rest := by
  intro place afterBreak
  obtain ⟨stop, hp⟩ := h place
  exact ⟨_, _, _, stop, gapFrom_token hg hs place afterBreak, hp⟩

theorem opens_nil : Opens [] .endOfText [] :=
  fun place afterBreak => ⟨[], place, afterBreak, place, rfl, rfl⟩

-- ---------------------------------------------------------------------------
-- Words
-- ---------------------------------------------------------------------------

/-- Whether a word ends before some characters. -/
def EndsWord (rest : List Char) : Prop :=
  ∀ c ∈ rest.head?, isWordRest c = false ∧ c ≠ '\\'

@[simp] theorem endsWord_nil : EndsWord [] := by simp [EndsWord]

@[simp] theorem endsWord_cons : EndsWord (c :: rest) ↔ isWordRest c = false ∧ c ≠ '\\' := by
  simp [EndsWord]

theorem plainWord_append (hn : ∀ c ∈ name, isWordRest c = true) (hr : EndsWord rest) :
    plainWord (name ++ rest) = (name, rest) := by
  unfold plainWord
  rw [List.takeWhile_append_of_pos hn, List.dropWhile_append_of_pos hn]
  cases rest with
  | nil => simp
  | cons c rest => simp [(endsWord_cons.mp hr).1]

theorem wordPiece_append (hn : ∀ c ∈ name, isWordRest c = true) (hr : EndsWord rest)
    (start : Nat) : wordPiece .word start (name ++ rest) =
      ⟨.word (String.ofList name) false, start + Text.byteSize name, rest, []⟩ := by
  unfold wordPiece
  rw [plainWord_append hn hr]
  cases rest with
  | nil => rfl
  | cons c rest =>
    have hc := (endsWord_cons.mp hr).2
    simp only
    split
    · rename_i heq
      exact absurd (List.cons.inj heq).1 hc
    · rfl

theorem opens_chars (hf : isWordFirst c = true) (hn : ∀ d ∈ name, isWordRest d = true)
    (hr : EndsWord rest) :
    Opens (c :: name ++ rest) (.word (String.ofList (c :: name)) false) rest := by
  have hc := isWordRest_of_isWordFirst hf
  refine opens_of_piece (not_gap_of_isWordRest hc) (by rintro rfl; exact absurd hf (by decide)) ?_
  intro start
  refine ⟨start + Text.byteSize (c :: name), ?_⟩
  simp only [piece, hf, if_true]
  have hall : ∀ d ∈ c :: name, isWordRest d = true := by simpa [hc] using hn
  exact wordPiece_append hall hr start

theorem opens_word (hw : isWord name = true) (hr : EndsWord rest) :
    Opens (name.toList ++ rest) (.word name false) rest := by
  obtain ⟨c, cs, hname, hf, hn⟩ := isWord_iff.mp hw
  have h := opens_chars hf hn hr
  rwa [← hname, String.ofList_toList] at h

theorem endsWord_blank (rest : List Char) : EndsWord (' ' :: rest) := by
  simp
  decide

/-- A word before a blank. -/
theorem opens_keyword (word : String) (hw : isWord word = true) (chars : List Char) :
    Opens (word.toList ++ ' ' :: chars) (.word word false) (' ' :: chars) :=
  opens_word hw (endsWord_blank chars)

-- ---------------------------------------------------------------------------
-- Marks
-- ---------------------------------------------------------------------------

/-- Marks of one character that begin no longer mark. -/
def loneMarks : List Char := ['{', '}', ';', ',', ':']

theorem opens_mark (hc : c ∈ loneMarks) : Opens (c :: rest) (.mark (String.singleton c)) rest := by
  simp only [loneMarks, List.mem_cons, List.not_mem_nil, or_false] at hc
  rcases hc with rfl | rfl | rfl | rfl | rfl
  all_goals exact opens_of_piece (by decide) (by decide) fun start => ⟨start + 1, rfl⟩

/-- A mark that longer marks begin with stands alone before a blank. -/
theorem opens_mark_blank (hc : c ∈ ['*', '=']) :
    Opens (c :: ' ' :: rest) (.mark (String.singleton c)) (' ' :: rest) := by
  simp only [List.mem_cons, List.not_mem_nil, or_false] at hc
  rcases hc with rfl | rfl
  all_goals exact opens_of_piece (by decide) (by decide) fun start => ⟨start + 1, rfl⟩

theorem not_isDigit_of_isWordFirst (h : isWordFirst c = true) : c.isDigit = false := by
  have hdigits : ∀ n ∈ List.range' 48 10, isWordFirst (Char.ofNat n) = false := by decide +kernel
  refine Bool.eq_false_iff.mpr fun hd => ?_
  have hn : c.toNat ∈ List.range' 48 10 := by
    simp only [Char.isDigit, Bool.and_eq_true, decide_eq_true_eq, UInt32.le_iff_toNat_le] at hd
    change 48 ≤ c.toNat ∧ c.toNat ≤ 57 at hd
    rw [List.mem_range'_1]
    omega
  have hnone := hdigits _ hn
  rw [Char.ofNat_toNat, h] at hnone
  cases hnone

/-- A dot before a word stands alone. -/
theorem opens_dot (hw : isWord name = true) (rest : List Char) :
    Opens ('.' :: (name.toList ++ rest)) (.mark ".") (name.toList ++ rest) := by
  obtain ⟨c, cs, hname, hf, -⟩ := isWord_iff.mp hw
  have hdot : '.' ≠ c := by
    rintro rfl
    exact absurd hf (by decide)
  have hmark (start : Nat) : markPiece start ('.' :: c :: (cs ++ rest)) =
      ⟨.mark ".", start + 1, c :: (cs ++ rest), []⟩ := by
    simp [markPiece, isChoiceOfFraction, markOf, longMarks, after?, hdot, shortMarks]
  have hfirst : isWordFirst '.' = false ∧ '.'.isDigit = false := by decide
  rw [hname]
  refine opens_of_piece (by decide) (by decide) fun start => ⟨start + 1, ?_⟩
  simp [piece, hfirst, not_isDigit_of_isWordFirst hf, hmark]

-- ---------------------------------------------------------------------------
-- Strings
-- ---------------------------------------------------------------------------

theorem hexNumber?_hexDigit (hn : n < 32) :
    Number.hexNumber? ['0', '0', Json.hexDigit (n / 16), Json.hexDigit (n % 16)] = some n := by
  have hall : ∀ n < 32,
      Number.hexNumber? ['0', '0', Json.hexDigit (n / 16), Json.hexDigit (n % 16)] = some n := by
    decide +kernel
  exact hall n hn

/-- A character that is escaped in a quoted text is what its escape denotes. -/
theorem escape_quoted (c : Char) :
    (Json.escape c = [c] ∧ c ≠ '"' ∧ c ≠ '\\' ∧ c ≠ '\n' ∧ c ≠ '\r') ∨
      ∃ spelling, Json.escape c = '\\' :: spelling ∧ ∀ more, ∃ taken,
        escape (spelling ++ more) = .ok (some c.toNat, taken, more) := by
  unfold Json.escape
  split
  · rename_i h; subst h; exact .inr ⟨_, rfl, fun more => ⟨_, rfl⟩⟩
  split
  · rename_i h; subst h; exact .inr ⟨_, rfl, fun more => ⟨_, rfl⟩⟩
  split
  · rename_i h; subst h; exact .inr ⟨_, rfl, fun more => ⟨_, rfl⟩⟩
  split
  · rename_i h; subst h; exact .inr ⟨_, rfl, fun more => ⟨_, rfl⟩⟩
  split
  · rename_i h; subst h; exact .inr ⟨_, rfl, fun more => ⟨_, rfl⟩⟩
  split
  · rename_i h; exact .inr ⟨_, rfl, fun more => ⟨_, by rw [h]; rfl⟩⟩
  split
  · rename_i h; exact .inr ⟨_, rfl, fun more => ⟨_, by rw [h]; rfl⟩⟩
  split
  · rename_i h
    refine .inr ⟨_, rfl, fun more => ⟨5, ?_⟩⟩
    simp [escape, codePoint?, isBreak, hexNumber?_hexDigit h]
  · exact .inl ⟨rfl, by assumption, by assumption, by assumption, by assumption⟩

theorem stringBody_quoted (cs rest : List Char) (units : List Nat) (hf : cs.length < fuel)
    (place : Nat) : ∃ stop,
      stringBody '"' fuel units [] place (cs.flatMap Json.escape ++ '"' :: rest) =
        ⟨units.reverse ++ cs.map Char.toNat, stop, rest, [], true⟩ := by
  induction cs generalizing fuel units place with
  | nil =>
    obtain ⟨fuel, rfl⟩ := Nat.exists_eq_add_one.mpr (Nat.zero_lt_of_lt hf)
    exact ⟨place + 1, by simp [stringBody]⟩
  | cons c cs ih =>
    obtain ⟨fuel, rfl⟩ := Nat.exists_eq_add_one.mpr (Nat.zero_lt_of_lt hf)
    have hlt : cs.length < fuel := by simpa using hf
    simp only [List.flatMap_cons, List.append_assoc, List.map_cons]
    rcases escape_quoted c with ⟨hc, hq, hb, hn, hr⟩ | ⟨spelling, hc, hesc⟩
    · obtain ⟨stop, hs⟩ := ih (c.toNat :: units) hlt (place + c.utf8Size)
      refine ⟨stop, ?_⟩
      rw [hc]
      simpa [stringBody, hq, hb, hn, hr] using hs
    · obtain ⟨taken, he⟩ := hesc (cs.flatMap Json.escape ++ '"' :: rest)
      obtain ⟨stop, hs⟩ := ih (c.toNat :: units) hlt (place + 1 + taken)
      refine ⟨stop, ?_⟩
      rw [hc]
      simpa [stringBody, he] using hs

theorem joinUnits_toNat (cs : List Char) : joinUnits (cs.map Char.toNat) = (cs, true) := by
  have whole (c : Char) : ¬(0xD800 ≤ c.toNat ∧ c.toNat ≤ 0xDFFF) := by
    have hv : c.toNat < 0xD800 ∨ 0xDFFF < c.toNat ∧ c.toNat < 0x110000 := c.valid
    omega
  induction cs with
  | nil => rfl
  | cons c cs ih =>
    cases cs with
    | nil => simp [joinUnits, whole c]
    | cons d cs =>
      have hc := whole c
      have hpair :
          ¬(0xD800 ≤ c.toNat ∧ c.toNat ≤ 0xDBFF ∧ 0xDC00 ≤ d.toNat ∧ d.toNat ≤ 0xDFFF) := by
        omega
      simp only [List.map_cons] at ih
      simp [joinUnits, hpair, hc, ih]

theorem length_le_escaped (cs : List Char) : cs.length ≤ (cs.flatMap Json.escape).length := by
  induction cs with
  | nil => simp
  | cons c cs ih =>
    have hc : 0 < (Json.escape c).length := by
      rcases escape_quoted c with ⟨h, -⟩ | ⟨_, h, -⟩ <;> simp [h]
    simp only [List.length_cons, List.flatMap_cons, List.length_append]
    omega

theorem stringPiece_eq (h : stringBody quote chars.length [] [] (start + 1) (chars.drop 1) =
      ⟨cs.map Char.toNat, stop, rest, [], true⟩) :
    stringPiece quote start chars =
      ⟨.string (String.ofList cs) (String.ofList (chars.take (chars.length - rest.length))) true,
        stop, rest, []⟩ := by
  simp only [stringPiece, h, joinUnits_toNat, if_true]

/-- A quoted text reads back as one string that denotes it. -/
theorem opens_literal (text : String) (rest : List Char) :
    Opens ((literal text).toList ++ rest) (.string text (literal text) true) rest := by
  have hchars : (literal text).toList ++ rest =
      '"' :: (text.toList.flatMap Json.escape ++ '"' :: rest) := by
    simp [literal, Json.quote, Json.quoteChars]
  have htake : ((literal text).toList ++ rest).take
      (((literal text).toList ++ rest).length - rest.length) = (literal text).toList := by
    simp
  rw [hchars] at htake ⊢
  refine opens_of_piece (by decide) (by decide) fun start => ?_
  have hf : text.toList.length <
      ('"' :: (text.toList.flatMap Json.escape ++ '"' :: rest)).length := by
    have hle := length_le_escaped text.toList
    simp only [List.length_cons, List.length_append]
    omega
  obtain ⟨stop, hb⟩ := stringBody_quoted text.toList rest [] hf (start + 1)
  have hp := stringPiece_eq hb
  rw [htake, String.ofList_toList, String.ofList_toList] at hp
  have hq : isWordFirst '"' = false ∧ '"'.isDigit = false := by decide
  exact ⟨stop, by simpa [piece, hq] using hp⟩

-- ---------------------------------------------------------------------------
-- Characters that form no token
-- ---------------------------------------------------------------------------

theorem markOf_eq_none (h : ∀ mark ∈ marks, ∃ d ds, mark.toList = d :: ds ∧ d ≠ c) :
    markOf marks (c :: rest) = none := by
  unfold markOf
  rw [List.findSome?_eq_none_iff]
  intro mark hm
  obtain ⟨d, ds, hmark, hd⟩ := h mark hm
  simp [after?, hmark, List.isPrefixOf, beq_false_of_ne hd]

/-- Whether a mark is spelled and begins in ASCII. -/
def beginsAscii (mark : String) : Bool :=
  match mark.toList with
  | [] => false
  | d :: _ => d.toNat < 128

theorem piece_unknown (hc : 128 ≤ c.toNat) (hf : isWordFirst c = false) (start : Nat) :
    (piece start (c :: rest)).lexeme = .unknown := by
  have other (d : Char) (hd : d.toNat < 128) : d ≠ c := by
    rintro rfl
    omega
  have hdigit : c.isDigit = false := by
    have hnine : '9'.toNat = 57 := rfl
    simp only [Char.isDigit, Bool.and_eq_false_iff, decide_eq_false_iff_not]
    right
    rw [UInt32.le_iff_toNat_le]
    show ¬c.toNat ≤ '9'.toNat
    omega
  have hlong : markOf longMarks (c :: rest) = none := by
    refine markOf_eq_none fun mark hm => ?_
    have hascii : ∀ mark ∈ longMarks, beginsAscii mark = true := by decide +kernel
    have hmark := hascii mark hm
    unfold beginsAscii at hmark
    split at hmark
    · cases hmark
    · rename_i d ds heq
      exact ⟨d, ds, heq, other d (by simpa using hmark)⟩
  have hshort : c ∉ shortMarks := by
    intro hm
    have hascii : (shortMarks.all fun d => decide (d.toNat < 128)) = true := by decide +kernel
    exact other c (of_decide_eq_true (List.all_eq_true.mp hascii c hm)) rfl
  have hchoice : isChoiceOfFraction (c :: rest) = false := by
    unfold isChoiceOfFraction
    split
    · rename_i heq
      exact absurd (List.cons.inj heq).1.symm (other '?' (by decide))
    · rfl
  simp [piece, markPiece, hf, hdigit, (other '"' (by decide)).symm, (other '\'' (by decide)).symm,
    (other '`' (by decide)).symm, (other '#' (by decide)).symm, (other '\\' (by decide)).symm,
    (other '.' (by decide)).symm, hlong, hshort, hchoice, Piece.wrong]

theorem jams_of_piece (hg : isBlank c = false ∧ isBreak c = false) (hc : 128 ≤ c.toNat)
    (hf : isWordFirst c = false) : Jams (c :: rest) := by
  intro place afterBreak
  have hs : c ≠ '/' := by
    rintro rfl
    exact absurd hc (by decide)
  exact ⟨_, _, _, gapFrom_token hg hs place afterBreak, piece_unknown hc hf place⟩

theorem jams_of_rest (h : Identifier.isRest c = true) (hw : isWordRest c = false) :
    Jams (c :: rest) := by
  refine jams_of_piece (not_gap_of_isRest h) ?_ ?_
  · refine Nat.le_of_not_lt fun hc => ?_
    rw [isWordRest_of_ascii hc h] at hw
    cases hw
  · exact Bool.eq_false_iff.mpr fun hf => by simp [isWordRest_of_isWordFirst hf] at hw

theorem jams_of_first (h : Identifier.isFirst c = true) (hw : isWordFirst c = false) :
    Jams (c :: rest) := by
  refine jams_of_piece (not_gap_of_isRest (isRest_of_isFirst h)) ?_ hw
  refine Nat.le_of_not_lt fun hc => ?_
  rw [isWordFirst_of_ascii hc h] at hw
  cases hw

end PagePrelude.Module
