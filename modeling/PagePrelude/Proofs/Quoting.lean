import PagePrelude.Proofs.GeneratedLines

/-!
# Quoted texts

A quoted text stands between two quotes on one line. A quote inside it is behind an odd number of
backslashes and its last quote is not, so a reader of strings stops there and finds the text again,
whatever comes after it (`literal_sealed`).
-/

namespace PagePrelude

-- ---------------------------------------------------------------------------
-- Escaped characters
-- ---------------------------------------------------------------------------

/-- A character is written behind a backslash or stands for itself. Only the escapes of a quote and
of a backslash hold a second one of these. -/
theorem escape_cases (c : Char) :
    Json.escape c = ['\\', '\\'] ∨ Json.escape c = ['\\', '"'] ∨
      (Json.escape c = [c] ∧ c ≠ '\\' ∧ c ≠ '"') ∨
      ∃ letter more, Json.escape c = '\\' :: letter :: more ∧
        ∀ d ∈ letter :: more, d ≠ '\\' ∧ d ≠ '"' := by
  have hdigits : ∀ n < 16, Json.hexDigit n ≠ '\\' ∧ Json.hexDigit n ≠ '"' := by decide
  have hsingle (letter : Char) (h : letter ≠ '\\' ∧ letter ≠ '"') :
      ∀ d ∈ [letter], d ≠ '\\' ∧ d ≠ '"' := List.forall_mem_singleton.mpr h
  unfold Json.escape
  split
  · exact .inr (.inl rfl)
  split
  · exact .inl rfl
  split
  · exact .inr (.inr (.inr ⟨'n', [], rfl, hsingle 'n' (by decide)⟩))
  split
  · exact .inr (.inr (.inr ⟨'r', [], rfl, hsingle 'r' (by decide)⟩))
  split
  · exact .inr (.inr (.inr ⟨'t', [], rfl, hsingle 't' (by decide)⟩))
  split
  · exact .inr (.inr (.inr ⟨'b', [], rfl, hsingle 'b' (by decide)⟩))
  split
  · exact .inr (.inr (.inr ⟨'f', [], rfl, hsingle 'f' (by decide)⟩))
  split
  · have htop := hdigits (c.toNat / 16) (by omega)
    have hlow := hdigits (c.toNat % 16) (by omega)
    exact .inr (.inr (.inr ⟨'u', _, rfl, by simpa using ⟨htop, hlow⟩⟩))
  · exact .inr (.inr (.inl ⟨rfl, by assumption, by assumption⟩))

-- ---------------------------------------------------------------------------
-- Backslashes
-- ---------------------------------------------------------------------------

/-- How many backslashes a text ends with. What comes after them is escaped if the number is odd. -/
def backslashes (front : List Char) : Nat :=
  (front.reverse.takeWhile (· == '\\')).length

/-- An even number of backslashes in front does not matter. -/
theorem backslashes_append {front : List Char} (h : backslashes front % 2 = 0)
    (more : List Char) : backslashes (front ++ more) % 2 = backslashes more % 2 := by
  unfold backslashes at h ⊢
  rw [List.reverse_append, List.takeWhile_append]
  split
  · rename_i hall
    rw [List.length_append, hall]
    omega
  · rfl

theorem backslashes_closed {chars : List Char} (hne : chars ≠ []) (h : ∀ c ∈ chars, c ≠ '\\')
    (front : List Char) : backslashes (front ++ chars) = 0 := by
  obtain ⟨before, last, rfl⟩ := List.eq_nil_or_concat chars |>.resolve_left hne
  have hlast : last ≠ '\\' := h last (by simp)
  simp [backslashes, hlast]

theorem backslashes_escape (c : Char) : backslashes (Json.escape c) % 2 = 0 := by
  rcases escape_cases c with hc | hc | ⟨hc, hslash, -⟩ | ⟨letter, more, hc, hmore⟩
  · rw [hc]
    decide
  · rw [hc]
    decide
  · have hclosed := backslashes_closed (List.cons_ne_nil c []) (by simpa using hslash) []
    rw [List.nil_append] at hclosed
    rw [hc, hclosed]
  · have hclosed := backslashes_closed (List.cons_ne_nil letter more)
      (fun d hd => (hmore d hd).1) ['\\']
    rw [List.singleton_append] at hclosed
    rw [hc, hclosed]

/-- The only quote in an escape stands behind its backslash. -/
theorem escape_front {c : Char} {front back : List Char}
    (h : Json.escape c = front ++ '"' :: back) : front = ['\\'] := by
  have hquote : '"' ∈ Json.escape c := by simp [h]
  rcases escape_cases c with hc | hc | ⟨hc, -, hne⟩ | ⟨letter, more, hc, hmore⟩
  · rw [hc] at hquote
    exact absurd hquote (by decide)
  · rw [hc] at h
    match front with
    | [] => cases h
    | [d] => rw [(List.cons.inj h).1]
    | d :: e :: rest => simp at h
  · rw [hc] at hquote
    exact absurd (List.mem_singleton.mp hquote) hne.symm
  · rw [hc] at hquote
    rcases List.mem_cons.mp hquote with hslash | hquote
    · exact absurd hslash (by decide)
    · exact absurd rfl (hmore '"' hquote).2

/-- A quote among escaped characters is itself escaped. -/
theorem quote_escaped {cs front back : List Char}
    (h : cs.flatMap Json.escape = front ++ '"' :: back) : backslashes front % 2 = 1 := by
  induction cs generalizing front with
  | nil => simp at h
  | cons c cs ih =>
    rw [List.flatMap_cons] at h
    rcases List.append_eq_append_iff.mp h with ⟨between, rfl, hmore⟩ | ⟨between, hc, hmore⟩
    · rw [backslashes_append (backslashes_escape c)]
      exact ih hmore
    · cases between with
      | nil =>
        -- The quote would be the first of what follows, behind no backslash.
        exact absurd (ih hmore.symm : backslashes [] % 2 = 1) (by decide)
      | cons d between =>
        obtain rfl : '"' = d := (List.cons.inj hmore).1
        rw [escape_front hc]
        decide

/-- The quote that ends a quoted text is not escaped. -/
theorem backslashes_escaped (cs : List Char) : backslashes (cs.flatMap Json.escape) % 2 = 0 := by
  induction cs with
  | nil => rfl
  | cons c cs ih => rw [List.flatMap_cons, backslashes_append (backslashes_escape c), ih]

-- ---------------------------------------------------------------------------
-- Literals
-- ---------------------------------------------------------------------------

/-- The first token of a text is determined. -/
theorem Module.Opens.unique {chars rest rest' : List Char} {lexeme lexeme' : Module.Lexeme}
    (h : Module.Opens chars lexeme rest) (h' : Module.Opens chars lexeme' rest') :
    lexeme = lexeme' ∧ rest = rest' := by
  obtain ⟨here, start, broken, stop, hgap, hpiece⟩ := h 0 false
  obtain ⟨here', start', broken', stop', hgap', hpiece'⟩ := h' 0 false
  rw [hgap] at hgap'
  obtain ⟨rfl, rfl, -⟩ := Module.Gap.mk.inj hgap'
  rw [hpiece] at hpiece'
  obtain ⟨rfl, -, rfl, -⟩ := Module.Piece.mk.inj hpiece'
  exact ⟨rfl, rfl⟩

theorem literal_inj {text other : String} (h : literal text = literal other) : text = other := by
  have htext := Module.opens_literal text []
  rw [h] at htext
  obtain ⟨hlexeme, -⟩ := htext.unique (Module.opens_literal other [])
  exact (Module.Lexeme.string.inj hlexeme).1

/-- A quoted text begins and ends with a quote and holds no line ending in between. Every quote
inside it is escaped, and the last one is not. A reader of module code reads it as one string that
denotes the text, whatever comes after it, so no two texts are quoted alike. Nor does the name of an
export or of a property hold a line ending, quoted or not. -/
theorem literal_sealed (text : String) :
    (∃ body, (literal text).toList = '"' :: (body ++ ['"']) ∧
      (∀ c ∈ body, c ≠ '\n' ∧ c ≠ '\r') ∧
      (∀ front back, body = front ++ '"' :: back → backslashes front % 2 = 1) ∧
      backslashes body % 2 = 0) ∧
    (∀ rest, Module.Opens ((literal text).toList ++ rest) (.string text (literal text) true) rest) ∧
    (∀ other, literal text = literal other ↔ text = other) ∧
    (∀ c ∈ (exportedName text).toList, c ≠ '\n' ∧ c ≠ '\r') ∧
    ∀ c ∈ (propertyName text).toList, c ≠ '\n' ∧ c ≠ '\r' := by
  have hchars : (literal text).toList = '"' :: (text.toList.flatMap Json.escape ++ ['"']) :=
    String.toList_ofList
  refine ⟨⟨_, hchars, fun c hc => ?_, fun front back => quote_escaped, backslashes_escaped _⟩,
    Module.opens_literal text, fun other => ⟨literal_inj, congrArg literal⟩, fun c hc => ?_,
    fun c hc => ?_⟩
  · have hplain := plain_quote text c (hchars ▸ by simp [hc])
    exact ⟨hplain.1, hplain.2.1⟩
  · have hplain := plain_exportedName text c hc
    exact ⟨hplain.1, hplain.2.1⟩
  · have hplain := plain_propertyName text c hc
    exact ⟨hplain.1, hplain.2.1⟩

/-- A text that looks like escapes already is escaped once more. -/
example : literal "\\\"\n" = "\"\\\\\\\"\\n\"" := by decide

end PagePrelude
