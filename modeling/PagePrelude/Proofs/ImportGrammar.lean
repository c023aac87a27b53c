import PagePrelude.Proofs.Module.Names

/-!
# The grammar of import declarations

Import declarations as module code has them, where the words are those that identifiers are made
of. A text has one list of tokens (`Lexes.unique`). Every rule of the grammar reads its part from
the front of some tokens and says which tokens are left.
-/

namespace PagePrelude.ImportGrammar

open Identifier (isFirst isRest isIdentifier isShaped)
open PagePrelude.Module (BlankState Lexeme gapFrom)

-- ---------------------------------------------------------------------------
-- Tokens
-- ---------------------------------------------------------------------------

/-- The token that begins with a character, and what comes after it. A word is a run of characters
of identifiers; any other token is the one of module code. -/
def tokenAt (c : Char) (chars : List Char) : Lexeme × List Char :=
  if isFirst c then
    (.word (String.ofList (c :: chars.takeWhile isRest)) false, chars.dropWhile isRest)
  else
    let piece := Module.piece 0 (c :: chars)
    (if piece.problems.isEmpty then piece.lexeme else .unknown, piece.rest)

/-- The first token behind blanks and comments, and what comes after it. -/
def token (chars : List Char) : Lexeme × List Char :=
  let gap := Module.gap 0 chars
  match gap.rest with
  | [] => (if gap.openComment.isSome then .unknown else .endOfText, [])
  | c :: rest => tokenAt c rest

/-- The tokens of a text, one after the other up to its end. -/
inductive Lexes : List Char → List Lexeme → Prop
  | done (hend : (token chars).1 = .endOfText) : Lexes chars []
  | more (htoken : token chars = (lexeme, rest)) (hne : lexeme ≠ .endOfText)
      (hrest : Lexes rest lexemes) : Lexes chars (lexeme :: lexemes)

-- ---------------------------------------------------------------------------
-- Rules
-- ---------------------------------------------------------------------------

/-- What a declaration takes from its module under one name. -/
inductive Part where
  | default (bound : String)
  | named (binding : Binding)
  | whole (bound : String)
  deriving DecidableEq, Repr

/-- The local name of a part. -/
def Part.bound : Part → String
  | default bound | whole bound => bound
  | named binding => binding.bound

/-- An import declaration. `parts` is missing if the module is only run. -/
structure Declaration where
  parts : Option (List Part)
  source : String
  attributes : List (String × String) := []
  deriving DecidableEq, Repr

/-- A local name is an identifier. -/
inductive Bound : List Lexeme → String → List Lexeme → Prop
  | name (h : isIdentifier name = true) : Bound (.word name false :: rest) name rest

/-- An exported name is any word, or a string. -/
inductive Exported : List Lexeme → String → List Lexeme → Prop
  | word : Exported (.word name false :: rest) name rest
  | string : Exported (.string value spelling true :: rest) value rest

/-- `bound` or `exported as bound`. -/
inductive Item : List Lexeme → Binding → List Lexeme → Prop
  | once (h : Bound lexemes name rest) : Item lexemes ⟨name, name⟩ rest
  | renamed (he : Exported lexemes exported (.word "as" false :: more))
      (hb : Bound more bound rest) : Item lexemes ⟨exported, bound⟩ rest

/-- Items with commas between them and perhaps one after the last, up to the closing brace. -/
inductive Items : List Lexeme → List Binding → List Lexeme → Prop
  | close : Items (.mark "\x7d" :: rest) [] rest
  | last (h : Item lexemes binding (.mark "\x7d" :: rest)) :
      Items lexemes [binding] rest
  | more (h : Item lexemes binding (.mark "," :: left))
      (hmore : Items left bindings rest) : Items lexemes (binding :: bindings) rest

/-- `* as bound` or items in braces. -/
inductive Named : List Lexeme → List Part → List Lexeme → Prop
  | whole (h : Bound lexemes name rest) :
      Named (.mark "*" :: .word "as" false :: lexemes) [.whole name] rest
  | list (h : Items lexemes bindings rest) :
      Named (.mark "\x7b" :: lexemes) (bindings.map .named) rest

/-- A name for the default export, named exports, or both. -/
inductive Clause : List Lexeme → List Part → List Lexeme → Prop
  | default (h : Bound lexemes name rest) : Clause lexemes [.default name] rest
  | named (h : Named lexemes parts rest) : Clause lexemes parts rest
  | both (h : Bound lexemes name (.mark "," :: left)) (hnamed : Named left parts rest) :
      Clause lexemes (.default name :: parts) rest

/-- `key: "value"` with commas between them and perhaps one after the last, up to the closing
brace. -/
inductive Entries : List Lexeme → List (String × String) → List Lexeme → Prop
  | close : Entries (.mark "\x7d" :: rest) [] rest
  | last (h : Exported lexemes key
      (.mark ":" :: .string value spelling true :: .mark "\x7d" :: rest)) :
      Entries lexemes [(key, value)] rest
  | more (h : Exported lexemes key
      (.mark ":" :: .string value spelling true :: .mark "," :: left))
      (hmore : Entries left entries rest) : Entries lexemes ((key, value) :: entries) rest

/-- `with` and entries in braces, or nothing. -/
inductive Attributes : List Lexeme → List (String × String) → List Lexeme → Prop
  | absent : Attributes rest [] rest
  | present (h : Entries lexemes entries rest) :
      Attributes (.word "with" false :: .mark "\x7b" :: lexemes) entries rest

/-- `import clause from "source";` or `import "source";`, either with attributes. -/
inductive Declares : List Lexeme → Declaration → List Lexeme → Prop
  | clause (hclause : Clause lexemes parts
        (.word "from" false :: .string source spelling true :: left))
      (hattributes : Attributes left attributes (.mark ";" :: rest)) :
      Declares (.word "import" false :: lexemes) ⟨some parts, source, attributes⟩ rest
  | bare (hattributes : Attributes left attributes (.mark ";" :: rest)) :
      Declares (.word "import" false :: .string source spelling true :: left)
        ⟨none, source, attributes⟩ rest

/-- Declarations one after the other, up to the end of the tokens. -/
inductive DeclaresAll : List Lexeme → List Declaration → Prop
  | nil : DeclaresAll [] []
  | cons (h : Declares lexemes declaration rest) (hmore : DeclaresAll rest declarations) :
      DeclaresAll lexemes (declaration :: declarations)

/-- Whether a text is read as some declarations. -/
def Reads (text : String) (declarations : List Declaration) : Prop :=
  ∃ lexemes, Lexes text.toList lexemes ∧ DeclaresAll lexemes declarations

-- ---------------------------------------------------------------------------
-- Tokens of texts
-- ---------------------------------------------------------------------------

variable {chars rest : List Char} {lexeme : Lexeme} {lexemes more : List Lexeme} {name : String}

theorem Lexes.unique (h : Lexes chars lexemes) (hmore : Lexes chars more) : lexemes = more := by
  induction h generalizing more with
  | done hend =>
    cases hmore with
    | done => rfl
    | more htoken hne =>
      rw [htoken] at hend
      exact absurd hend hne
  | more htoken hne _ ih =>
    cases hmore with
    | done hend =>
      rw [htoken] at hend
      exact absurd hend hne
    | more htoken' hne' hrest =>
      rw [htoken] at htoken'
      obtain ⟨rfl, rfl⟩ := Prod.mk.inj htoken'
      rw [ih hrest]

theorem token_blank (chars : List Char) : token (' ' :: chars) = token chars := by
  have hgap : Module.gap 0 (' ' :: chars) = gapFrom .outside 1 false none chars := rfl
  have halike : Module.BlankState.Alike .outside .outside := trivial
  obtain ⟨hrest, hopen⟩ := Module.gapFrom_alike halike 1 0 false false none none chars
  rw [token, hgap, hrest, hopen]
  rfl

theorem Lexes.of_token {other : List Char} (h : Lexes chars lexemes)
    (hsame : token other = token chars) : Lexes other lexemes := by
  cases h with
  | done hend => exact .done (hsame ▸ hend)
  | more htoken hne hrest => exact .more (hsame ▸ htoken) hne hrest

theorem Lexes.blank (h : Lexes chars lexemes) : Lexes (' ' :: chars) lexemes :=
  h.of_token (token_blank chars)

theorem token_solid {c : Char} (hgap : Module.isBlank c = false ∧ Module.isBreak c = false)
    (hslash : c ≠ '/') : token (c :: chars) = tokenAt c chars := by
  have hrest : Module.gap 0 (c :: chars) = ⟨c :: chars, 0, false, none, none⟩ :=
    Module.gapFrom_token hgap hslash 0 false
  simp only [token, hrest]

/-- Whether a word ends before some characters. -/
def EndsWord (chars : List Char) : Prop :=
  ∀ c ∈ chars.head?, isRest c = false

theorem endsWord_cons {c : Char} (h : isRest c = false) : EndsWord (c :: chars) := by
  simpa [EndsWord] using h

theorem Lexes.word (hname : isShaped name = true) (hends : EndsWord chars)
    (h : Lexes chars lexemes) : Lexes (name.toList ++ chars) (.word name false :: lexemes) := by
  unfold isShaped at hname
  split at hname
  · cases hname
  · rename_i c cs hcs
    obtain ⟨hfirst, hall⟩ := (Bool.and_eq_true _ _).mp hname
    have hrest : isRest c = true := Module.isRest_of_isFirst hfirst
    have hslash : c ≠ '/' := by
      rintro rfl
      exact absurd hrest (by decide)
    have hword : tokenAt c (cs ++ chars) = (.word name false, chars) := by
      have htake : (cs ++ chars).takeWhile isRest = cs := by
        rw [List.takeWhile_append_of_pos (List.all_eq_true.mp hall)]
        cases chars with
        | nil => simp
        | cons d chars => simp [hends d rfl]
      have hdrop : (cs ++ chars).dropWhile isRest = chars := by
        rw [List.dropWhile_append_of_pos (List.all_eq_true.mp hall)]
        cases chars with
        | nil => simp
        | cons d chars => simp [hends d rfl]
      rw [tokenAt, if_pos hfirst, htake, hdrop, ← hcs, String.ofList_toList]
    rw [hcs, List.cons_append]
    exact .more ((token_solid (Module.not_gap_of_isRest hrest) hslash).trans hword) (by simp) h

/-- A token that is no word is the one of module code. -/
theorem Lexes.opens {c : Char} (hgap : Module.isBlank c = false ∧ Module.isBreak c = false)
    (hslash : c ≠ '/') (hword : isFirst c = false) (ho : Module.Opens (c :: chars) lexeme rest)
    (hne : lexeme ≠ .endOfText) (h : Lexes rest lexemes) :
    Lexes (c :: chars) (lexeme :: lexemes) := by
  obtain ⟨here, start, broken, stop, hfrom, hpiece⟩ := ho 0 false
  rw [Module.gapFrom_token hgap hslash] at hfrom
  obtain ⟨rfl, rfl, -⟩ := Module.Gap.mk.inj hfrom
  have htoken : tokenAt c chars = (lexeme, rest) := by simp [tokenAt, hword, hpiece]
  exact .more ((token_solid hgap hslash).trans htoken) hne h

theorem Lexes.literal (text : String) (h : Lexes chars lexemes) :
    Lexes ((literal text).toList ++ chars) (.string text (literal text) true :: lexemes) := by
  have ho := Module.opens_literal text chars
  have hquote : (PagePrelude.literal text).toList ++ chars =
      '"' :: (text.toList.flatMap Json.escape ++ '"' :: chars) := by
    simp [PagePrelude.literal, Json.quote, Json.quoteChars]
  rw [hquote] at ho ⊢
  exact .opens (by decide) (by decide) (by decide) ho (by simp) h

theorem Lexes.mark {c : Char} (hc : c ∈ Module.loneMarks) (h : Lexes chars lexemes) :
    Lexes (c :: chars) (.mark (String.singleton c) :: lexemes) := by
  have ho : Module.Opens (c :: chars) (.mark (String.singleton c)) chars := Module.opens_mark hc
  simp only [Module.loneMarks, List.mem_cons, List.not_mem_nil, or_false] at hc
  rcases hc with rfl | rfl | rfl | rfl | rfl
  all_goals exact .opens (by decide) (by decide) (by decide) ho (by simp) h

end PagePrelude.ImportGrammar
