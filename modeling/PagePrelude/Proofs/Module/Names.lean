import PagePrelude.Proofs.Module.Lists

/-!
# Reading names

Names as generated code spells them: identifiers, exported names that are bare or quoted,
and names that break, since they hold a character that belongs to no word.
-/

namespace PagePrelude.Module

open Identifier (isIdentifier isShaped reservedWords)

-- ---------------------------------------------------------------------------
-- Identifiers
-- ---------------------------------------------------------------------------

theorem not_reserved (h : isIdentifier name = true) : name ∉ reservedWords := by
  simp only [Identifier.isIdentifier, Bool.and_eq_true, Bool.not_eq_true'] at h
  simpa using h.2

theorem isShaped_of_isIdentifier (h : isIdentifier name = true) : isShaped name = true := by
  simp only [Identifier.isIdentifier, Bool.and_eq_true] at h
  exact h.1

theorem not_strictKeyword (h : isIdentifier name = true) : isStrictKeyword name = false := by
  have hall : ∀ word ∈ strictKeywords, word ∈ reservedWords := by decide +kernel
  refine Bool.eq_false_iff.mpr fun hk => not_reserved h (hall name ?_)
  simpa [isStrictKeyword] using hk

theorem ne_of_reserved (h : isIdentifier name = true) (hw : word ∈ reservedWords) :
    name ≠ word := by
  rintro rfl
  exact not_reserved h hw

@[simp] theorem Scope.top_awaits : Scope.top.awaits = true := rfl
@[simp] theorem Scope.top_yields : Scope.top.yields = false := rfl

-- ---------------------------------------------------------------------------
-- Names that are read
-- ---------------------------------------------------------------------------

/-- What module code makes of an exported name as an import spells it. -/
def exportNameOf (name : String) : ExportName :=
  if name = "default" || isIdentifier name then .word name else .string name (literal name)

/-- A name that an import spells without quotes is a word. -/
theorem bareName_isWord (hw : isIdentifier name = true → isWord name = true)
    (h : (name = "default" || isIdentifier name) = true) : isWord name = true := by
  rcases Bool.or_eq_true_iff.mp h with hd | hi
  · rw [of_decide_eq_true hd]
    decide
  · exact hw hi

theorem exportName_word (hw : isWord name = true) (hr : EndsWord rest) :
    Reads Parser.exportName (name.toList ++ rest) (.word name) rest := by
  intro s exported hs
  have ho := opens_word hw hr
  exact ⟨s.next, by simp [Parser.exportName, Parser.anyName, hs.lexeme ho], hs.next ho⟩

theorem exportName_literal (name : String) (rest : List Char) :
    Reads Parser.exportName ((literal name).toList ++ rest) (.string name (literal name)) rest := by
  intro s exported hs
  have ho := opens_literal name rest
  exact ⟨s.next, by simp [Parser.exportName, hs.lexeme ho], hs.next ho⟩

theorem exportName_reads (hw : isIdentifier name = true → isWord name = true)
    (hr : EndsWord rest) :
    Reads Parser.exportName ((exportedName name).toList ++ rest) (exportNameOf name) rest := by
  unfold exportedName exportNameOf
  split
  · exact exportName_word (bareName_isWord hw ‹_›) hr
  · exact exportName_literal name rest

theorem opens_exportedName (hw : isIdentifier name = true → isWord name = true)
    (hr : EndsWord rest) : ∃ found more,
      Opens ((exportedName name).toList ++ rest) found more ∧ found.beginsItem = true := by
  unfold exportedName
  split
  · exact ⟨_, _, opens_word (bareName_isWord hw ‹_›) hr, rfl⟩
  · exact ⟨_, _, opens_literal name rest, rfl⟩

theorem boundName_reads (hi : isIdentifier name = true) (hw : isWord name = true)
    (hr : EndsWord rest) : Reads (Parser.boundName Scope.top) (name.toList ++ rest) name rest := by
  intro s exported hs
  have ho := opens_word hw hr
  have ha : name ≠ "await" := ne_of_reserved hi (by decide)
  refine ⟨s.next, ?_, hs.next ho⟩
  simp [Parser.boundName, Parser.checkName, hs.lexeme ho, not_strictKeyword hi, ha]

theorem source_reads (text : String) (rest : List Char) :
    Reads Parser.source ((literal text).toList ++ rest) ⟨text, literal text⟩ rest := by
  intro s exported hs
  have ho := opens_literal text rest
  exact ⟨s.next, by simp [Parser.source, hs.lexeme ho], hs.next ho⟩

-- ---------------------------------------------------------------------------
-- Names that break
-- ---------------------------------------------------------------------------

/-- The first token is unknown, or it is a word and the next one is unknown. -/
def Breaks (chars : List Char) : Prop :=
  Jams chars ∨ ∃ word more, Opens chars (.word word false) more ∧ Jams more

/-- An identifier that is no word breaks: its first character begins no word, or another one does
not belong to the word that the characters before it form. -/
theorem breaks_of_not_isWord (hs : isShaped name = true) (hw : isWord name = false)
    (rest : List Char) : Breaks (name.toList ++ rest) := by
  unfold isShaped at hs
  unfold isWord at hw
  cases hname : name.toList with
  | nil => simp [hname] at hs
  | cons c cs =>
    simp only [hname, Bool.and_eq_true, List.all_eq_true, Bool.and_eq_false_iff] at hs hw
    rcases hw with hf | hall
    · exact .inl (jams_of_first hs.1 hf)
    · obtain ⟨before, d, after, rfl, hd, hbefore⟩ :=
        exists_first (p := fun c => isWordRest c = true) (by simpa using hall)
      replace hd : isWordRest d = false := by simpa using hd
      have hrest := hs.2 d (by simp)
      by_cases hf : isWordFirst c = true
      · have hends : EndsWord (d :: (after ++ rest)) := by
          refine endsWord_cons.mpr ⟨hd, ?_⟩
          rintro rfl
          exact absurd hrest (by decide)
        have ho := opens_chars hf hbefore hends
        exact .inr ⟨_, _, by simpa using ho, jams_of_rest hrest hd⟩
      · exact .inl (jams_of_first hs.1 (Bool.eq_false_iff.mpr hf))

theorem State.Before.breaks {s : State} {exported : List String} (h : s.Before exported chars)
    (hb : Breaks chars) : s.token.lexeme = .unknown ∨
      ∃ word, s.token.lexeme = .word word false ∧ s.next.token.lexeme = .unknown := by
  rcases hb with hj | ⟨word, more, ho, hj⟩
  · exact .inl (h.jams hj)
  · exact .inr ⟨word, h.lexeme ho, (h.next ho).jams hj⟩

theorem Breaks.opens (h : Breaks chars) :
    Jams chars ∨ ∃ found more, Opens chars found more ∧ found.beginsItem = true := by
  rcases h with hj | ⟨word, more, ho, -⟩
  · exact .inl hj
  · exact .inr ⟨_, more, ho, rfl⟩

theorem exportName_balks (hb : Breaks chars) : Balks Parser.exportName chars := by
  intro s exported hs
  rcases hs.breaks hb with hu | ⟨word, hl, hu⟩
  · obtain ⟨d, hd⟩ := unexpected_fails (α := String) (s := s)
    exact .inl ⟨d, s.withoutReason, by simp [Parser.exportName, Parser.anyName, hu, hd]⟩
  · exact .inr ⟨.word word, s.next, by simp [Parser.exportName, Parser.anyName, hl], hu⟩

theorem next_noted (s : State) (problems : List Diagnostic) :
    State.next { s with problems } = { s.next with problems } := by
  unfold State.next
  simp only
  split <;> rfl

theorem note_apply (problem : Problem) (start stop : Nat) (s : State) :
    Parser.note problem start stop s =
      .ok () { s with problems := s.problems ++ [⟨problem, start, stop⟩] } := rfl

theorem checkName_apply (scope : Scope) (name : String) (s : State) :
    ∃ problems, Parser.checkName scope name s = .ok () { s with problems } := by
  unfold Parser.checkName
  simp only [bind_apply, token_apply]
  split
  · exact ⟨_, note_apply ..⟩
  split
  · exact ⟨_, note_apply ..⟩
  · exact ⟨s.problems, rfl⟩

theorem boundName_balks (hb : Breaks chars) : Balks (Parser.boundName Scope.top) chars := by
  intro s exported hs
  rcases hs.breaks hb with hu | ⟨word, hl, hu⟩
  · obtain ⟨d, hd⟩ := unexpected_fails (α := String) (s := s)
    exact .inl ⟨d, s.withoutReason, by simp [Parser.boundName, hu, hd]⟩
  · cases hk : isStrictKeyword word with
    | true => exact .inl ⟨_, s, by simp [Parser.boundName, Parser.failToken, hl, hk]; rfl⟩
    | false =>
      obtain ⟨problems, hc⟩ := checkName_apply Scope.top word s
      refine .inr ⟨word, State.next { s with problems }, ?_, by rw [next_noted]; exact hu⟩
      simp [Parser.boundName, hl, hk, hc]

end PagePrelude.Module
