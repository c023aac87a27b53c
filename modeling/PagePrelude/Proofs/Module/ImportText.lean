import PagePrelude.Module.Exports
import PagePrelude.Proofs.Module.Names
import PagePrelude.Proofs.Module.Statements

/-!
# Import statements read back

`ImportStatement.item` is what the text of an import statement means as module code.
The text is read as that item wherever it stands (`statement_reads`), unless a name that
it spells without quotes is no word; then it is not read at all (`statement_stops`).
-/

namespace PagePrelude

open Identifier (isIdentifier)

-- ---------------------------------------------------------------------------
-- What an import statement means
-- ---------------------------------------------------------------------------

/-- A binding with both of its names, as a part of an import. -/
def Binding.renamed (binding : Binding) : Module.ImportSpecifier :=
  .named (Module.exportNameOf binding.exported) binding.bound

/-- A binding as a part of an import. A name that is written once is always bare. -/
def Binding.specifier (binding : Binding) : Module.ImportSpecifier :=
  if binding.exported = binding.bound then .named (.word binding.bound) binding.bound
  else binding.renamed

/-- The parts of an import with a clause. -/
def ImportClause.specifiers : ImportClause → List Module.ImportSpecifier
  | default name => [.default name]
  | named bindings => bindings.map Binding.specifier
  | renamed binding => [binding.renamed]
  | whole name => [.whole name]

/-- An import statement as an item of module code. -/
def ImportStatement.item (statement : ImportStatement) : Module.Item :=
  .imports (some statement.clause.specifiers) ⟨statement.source, literal statement.source⟩ .absent

theorem ImportClause.bound_specifiers (clause : ImportClause) :
    clause.specifiers.map Module.ImportSpecifier.bound = clause.names := by
  cases clause with
  | default name => rfl
  | named bindings =>
    simp only [specifiers, names, List.map_map]
    refine List.map_congr_left fun binding _ => ?_
    simp only [Function.comp, Binding.specifier]
    split <;> rfl
  | renamed binding => rfl
  | whole name => rfl

theorem ImportStatement.importedNames_item (statement : ImportStatement) :
    statement.item.importedNames = statement.names :=
  statement.clause.bound_specifiers

-- ---------------------------------------------------------------------------
-- Names without quotes
-- ---------------------------------------------------------------------------

/-- The names of a binding that are written without quotes. -/
def Binding.bareNames (binding : Binding) : List String :=
  binding.bound :: [binding.exported].filter isIdentifier

/-- The names of a clause that are written without quotes. -/
def ImportClause.bareNames : ImportClause → List String
  | default name | whole name => [name]
  | named bindings => bindings.flatMap Binding.bareNames
  | renamed binding => binding.bareNames

/-- Whether a clause binds identifiers, and at least one where it is a list. -/
def ImportClause.Proper (clause : ImportClause) : Prop :=
  (∀ name ∈ clause.names, isIdentifier name = true) ∧ clause.names ≠ []

namespace Module

/-- Whether all names are words. -/
def AllWords (names : List String) : Prop := ∀ name ∈ names, isWord name = true

theorem exported_isWord {binding : Binding} (hw : AllWords binding.bareNames)
    (hi : isIdentifier binding.exported = true) : isWord binding.exported = true :=
  hw _ (by simp [Binding.bareNames, hi])

-- ---------------------------------------------------------------------------
-- Bindings in braces
-- ---------------------------------------------------------------------------

theorem renamedText_append (binding : Binding) (rest : List Char) :
    (ImportClause.renamedText binding).toList ++ rest =
      (exportedName binding.exported).toList ++
        ' ' :: ("as".toList ++ ' ' :: (binding.bound.toList ++ rest)) := by
  simp [ImportClause.renamedText]

theorem importSpecifier_renamed {binding : Binding} (hw : AllWords binding.bareNames)
    (hi : isIdentifier binding.bound = true) :
    ReadsItem (Parser.importSpecifier Scope.top) (ImportClause.renamedText binding).toList
      binding.renamed := by
  have hb : isWord binding.bound = true := hw _ (by simp [Binding.bareNames])
  have he := exported_isWord hw
  have htext := renamedText_append binding
  constructor
  · intro rest _
    rw [htext]
    exact opens_exportedName he (endsWord_blank _)
  · intro rest hrest s exported hs
    rw [htext] at hs
    obtain ⟨s', hexp, hs'⟩ := exportName_reads he (endsWord_blank _) hs
    have has := opens_keyword "as" (by decide) (binding.bound.toList ++ rest)
    obtain ⟨s'', hbound, hs''⟩ :=
      boundName_reads hi hb hrest.endsWord (hs'.blank.next has).blank
    refine ⟨s'', ?_, hs''⟩
    simp [Parser.importSpecifier, hexp, hs'.blank.lexeme has, hbound, Binding.renamed]

theorem importSpecifier_once {name : String} (hw : isWord name = true)
    (hi : isIdentifier name = true) :
    ReadsItem (Parser.importSpecifier Scope.top) name.toList (.named (.word name) name) := by
  constructor
  · intro rest hrest
    exact ⟨_, _, opens_word hw hrest.endsWord, rfl⟩
  · intro rest hrest s exported hs
    obtain ⟨s', hexp, hs'⟩ := exportName_word hw hrest.endsWord hs
    obtain ⟨mark, more, _, ho⟩ := hrest.opens
    have ha : name ≠ "await" := ne_of_reserved hi (by decide)
    refine ⟨s', ?_, hs'⟩
    simp [Parser.importSpecifier, hexp, hs'.lexeme ho, not_strictKeyword hi, ha]

theorem importSpecifier_reads {binding : Binding} (hw : AllWords binding.bareNames)
    (hi : isIdentifier binding.bound = true) :
    ReadsItem (Parser.importSpecifier Scope.top) (ImportClause.bindingText binding).toList
      binding.specifier := by
  unfold ImportClause.bindingText Binding.specifier
  split
  · exact importSpecifier_once (hw _ (by simp [Binding.bareNames])) hi
  · exact importSpecifier_renamed hw hi

/-- Where the exported name leads to characters that form no token, so does the specifier. -/
theorem importSpecifier_balksAt {s : State} (h : BalksAt Parser.exportName s) :
    BalksAt (Parser.importSpecifier Scope.top) s := by
  rcases h with ⟨d, s', hd⟩ | ⟨exported, s', hexp, hu⟩
  · exact .inl ⟨d, s', by simp [Parser.importSpecifier, hd]⟩
  · cases exported with
    | string value spelling => exact .inl ⟨_, s', by simp [Parser.importSpecifier, hexp, hu]; rfl⟩
    | word name =>
      cases hk : isStrictKeyword name with
      | true => exact .inl ⟨_, s', by simp [Parser.importSpecifier, hexp, hu, hk]; rfl⟩
      | false =>
        by_cases ha : name = "await"
        · subst ha
          have hrun : Parser.importSpecifier Scope.top s = .ok (.named (.word "await") "await")
              { s' with problems := s'.problems ++
                [⟨.awaitName "await", s.token.start, s.token.stop⟩] } := by
            simp [Parser.importSpecifier, hexp, hu, hk, note_apply]
          exact .inr ⟨_, _, hrun, hu⟩
        · exact .inr ⟨_, s', by simp [Parser.importSpecifier, hexp, hu, hk, ha]; rfl, hu⟩

theorem importSpecifier_broken {name text : String} (hi : isIdentifier name = true)
    (hw : isWord name = false) (ht : ∃ more, text.toList = name.toList ++ more) :
    BalksAtItem (Parser.importSpecifier Scope.top) text.toList := by
  obtain ⟨more, ht⟩ := ht
  have hb (rest : List Char) : Breaks (text.toList ++ rest) := by
    rw [ht, List.append_assoc]
    exact breaks_of_not_isWord (isShaped_of_isIdentifier hi) hw _
  exact ⟨fun rest => (hb rest).opens,
    fun rest _ _ hs => importSpecifier_balksAt (exportName_balks (hb rest) hs)⟩

theorem importSpecifier_renamed_balks {binding : Binding} (hw : ¬AllWords binding.bareNames)
    (hi : isIdentifier binding.bound = true) :
    BalksAtItem (Parser.importSpecifier Scope.top) (ImportClause.renamedText binding).toList := by
  by_cases he : isIdentifier binding.exported = true ∧ isWord binding.exported = false
  · refine importSpecifier_broken he.1 he.2 ?_
    exact ⟨" as ".toList ++ binding.bound.toList,
      by simp [ImportClause.renamedText, exportedName, he.1]⟩
  have he : isIdentifier binding.exported = true → isWord binding.exported = true :=
    fun hexp => Bool.of_not_eq_false fun hword => he ⟨hexp, hword⟩
  have hb : isWord binding.bound = false := by
    refine Bool.eq_false_iff.mpr fun hb => hw fun name hn => ?_
    simp only [Binding.bareNames, List.mem_cons, List.mem_filter, List.not_mem_nil] at hn
    rcases hn with rfl | ⟨rfl | hn, hid⟩
    · exact hb
    · exact he hid
    · exact hn.elim
  have htext := renamedText_append binding
  constructor
  · intro rest
    rw [htext]
    exact .inr (opens_exportedName he (endsWord_blank _))
  · intro rest s exported hs
    rw [htext] at hs
    obtain ⟨s', hexp, hs'⟩ := exportName_reads he (endsWord_blank _) hs
    have has := opens_keyword "as" (by decide) (binding.bound.toList ++ rest)
    have hbroken := breaks_of_not_isWord (isShaped_of_isIdentifier hi) hb rest
    rcases boundName_balks hbroken (hs'.blank.next has).blank with ⟨d, t, hd⟩ | ⟨name, t, hn, hu⟩
    · exact .inl ⟨d, t, by simp [Parser.importSpecifier, hexp, hs'.blank.lexeme has, hd]⟩
    · exact .inr ⟨_, t,
        by simp [Parser.importSpecifier, hexp, hs'.blank.lexeme has, hn]; rfl, hu⟩

theorem importSpecifier_balks {binding : Binding} (hw : ¬AllWords binding.bareNames)
    (hi : isIdentifier binding.bound = true) :
    BalksAtItem (Parser.importSpecifier Scope.top) (ImportClause.bindingText binding).toList := by
  unfold ImportClause.bindingText
  split
  · rename_i heq
    refine importSpecifier_broken hi ?_ ⟨[], by simp⟩
    simpa [AllWords, Binding.bareNames, heq, hi] using hw
  · exact importSpecifier_renamed_balks hw hi

-- ---------------------------------------------------------------------------
-- Clauses
-- ---------------------------------------------------------------------------

/-- What follows a clause: the source of the import, and the text after it. -/
def sourceText (source : String) (rest : List Char) : List Char :=
  ' ' :: ("from".toList ++ ' ' :: ((literal source).toList ++ ';' :: rest))

theorem opens_from (source : String) (rest : List Char) : Opens (sourceText source rest)
    (.word "from" false) (' ' :: ((literal source).toList ++ ';' :: rest)) :=
  (opens_keyword "from" (by decide) _).blank

section
variable {s : State} {exported : List String} {source name : String} {rest : List Char}

theorem next_from (hs : s.Before exported (sourceText source rest)) :
    s.next.Before exported ((literal source).toList ++ ';' :: rest) :=
  (hs.next (opens_from source rest)).blank

variable (source rest)

/-- What an import binds, up to its source. -/
def clauseParser : Parser (List ImportSpecifier) :=
  Parser.importDefault Scope.top >>= Parser.importSpecifiers Scope.top

theorem importDefault_reads (hi : isIdentifier name = true) (hw : isWord name = true) :
    Reads (Parser.importDefault Scope.top) (name.toList ++ sourceText source rest) (some name)
      (sourceText source rest) := by
  intro s exported hs
  have hn : Parser.isName (.word name false) = true := by
    simp [Parser.isName, not_strictKeyword hi]
  obtain ⟨s', hbound, hs'⟩ := boundName_reads hi hw (endsWord_blank _) hs
  have hword := hs.lexeme (opens_word hw (endsWord_blank _))
  have hfrom := hs'.lexeme (opens_from source rest)
  -- Only a name `source` makes the parser look past the word `from`.
  by_cases hsource : name = "source"
  · subst hsource
    have hname : Parser.isName (.word "from" false) = true := by decide
    have hliteral := (next_from hs').lexeme (opens_literal source (';' :: rest))
    refine ⟨s'.tried s'.next, ?_, hs'.overrun _⟩
    simp [Parser.importDefault, hword, hn, hbound, hfrom, hname, hliteral]
  · refine ⟨s', ?_, hs'⟩
    simp [Parser.importDefault, hword, hn, hbound, hfrom, hsource]

theorem default_reads (hi : isIdentifier name = true) (hw : isWord name = true) :
    Reads clauseParser (name.toList ++ sourceText source rest) [.default name]
      ((literal source).toList ++ ';' :: rest) := by
  intro s exported hs
  obtain ⟨s', hdefault, hs'⟩ := importDefault_reads source rest hi hw hs
  have hfrom := hs'.lexeme (opens_from source rest)
  refine ⟨s'.next, ?_, next_from hs'⟩
  simp [clauseParser, hdefault, Parser.importSpecifiers, hfrom, expectWord_apply hfrom]

/-- Where no name is bound before a mark, the clause begins with it. -/
theorem importDefault_mark (h : s.token.lexeme = .mark mark) :
    Parser.importDefault Scope.top s = .ok none s := by
  simp [Parser.importDefault, h, Parser.isName]

theorem opens_whole (chars : List Char) :
    Opens ("* as ".toList ++ chars) (.mark "*") (' ' :: ("as".toList ++ ' ' :: chars)) :=
  opens_mark_blank (by decide)

theorem whole_reads (hi : isIdentifier name = true) (hw : isWord name = true) :
    Reads clauseParser ("* as ".toList ++ (name.toList ++ sourceText source rest)) [.whole name]
      ((literal source).toList ++ ';' :: rest) := by
  intro s exported hs
  have hstar := hs.lexeme (opens_whole _)
  have has := opens_keyword "as" (by decide) (name.toList ++ sourceText source rest)
  have hnext := (hs.next (opens_whole _)).blank
  obtain ⟨s', hbound, hs'⟩ := boundName_reads hi hw (endsWord_blank _) (hnext.next has).blank
  have hfrom := hs'.lexeme (opens_from source rest)
  refine ⟨s'.next, ?_, next_from hs'⟩
  simp [clauseParser, importDefault_mark hstar, Parser.importSpecifiers, Parser.importWhole, hstar,
    expectWord_apply (hnext.lexeme has), hbound, expectWord_apply hfrom]

theorem list_reads {textOf : ε → List Char} {valueOf : ε → ImportSpecifier} {entries : List ε}
    (hi : ∀ e ∈ entries, ReadsItem (Parser.importSpecifier Scope.top) (textOf e) (valueOf e))
    (hne : entries ≠ []) : Reads clauseParser
      ('{' :: ' ' :: ([',', ' '].intercalate (entries.map textOf) ++
        ' ' :: '}' :: sourceText source rest)) (entries.map valueOf)
      ((literal source).toList ++ ';' :: rest) := by
  intro s exported hs
  have hopen := hs.lexeme (opens_mark (by decide))
  obtain ⟨s', hlist, hs'⟩ := listBetween_reads hi hne _ hs
  have hfrom := hs'.lexeme (opens_from source rest)
  refine ⟨s'.next, ?_, next_from hs'⟩
  simp [clauseParser, importDefault_mark hopen, Parser.importSpecifiers, Parser.importList, hopen,
    hlist, expectWord_apply hfrom]

theorem clause_reads {clause : ImportClause} (hp : clause.Proper)
    (hw : AllWords clause.bareNames) : Reads clauseParser
      (clause.text.toList ++ sourceText source rest) clause.specifiers
      ((literal source).toList ++ ';' :: rest) := by
  cases clause with
  | default name =>
    have hi : isIdentifier name = true := hp.1 _ (by simp [ImportClause.names])
    have hword : isWord name = true := hw _ (by simp [ImportClause.bareNames])
    exact default_reads source rest hi hword
  | whole name =>
    have h := whole_reads source rest
      (hp.1 name (by simp [ImportClause.names])) (hw _ (by simp [ImportClause.bareNames]))
    simpa [ImportClause.text, ImportClause.specifiers] using h
  | named bindings =>
    have hi : ∀ b ∈ bindings, ReadsItem (Parser.importSpecifier Scope.top)
        (ImportClause.bindingText b).toList b.specifier := by
      intro b hb
      refine importSpecifier_reads (fun name hn => hw name ?_) (hp.1 _ ?_)
      · exact List.mem_flatMap.mpr ⟨b, hb, hn⟩
      · exact List.mem_map.mpr ⟨b, hb, rfl⟩
    have h := list_reads source rest hi (by simpa [ImportClause.names] using hp.2)
    simpa [ImportClause.text, ImportClause.specifiers, Function.comp_def] using h
  | renamed binding =>
    have hi : ∀ b ∈ [binding], ReadsItem (Parser.importSpecifier Scope.top)
        (ImportClause.renamedText b).toList b.renamed := by
      intro b hb
      obtain rfl := List.mem_singleton.mp hb
      exact importSpecifier_renamed hw (hp.1 _ (by simp [ImportClause.names]))
    have h := list_reads source rest hi (by simp)
    simpa [ImportClause.text, ImportClause.specifiers] using h

end

-- ---------------------------------------------------------------------------
-- Clauses that are not read
-- ---------------------------------------------------------------------------

section
variable {s : State} {name : String} (source : String) (rest : List Char)

theorem importSpecifiers_fails (h : s.token.lexeme = .unknown) (bound : Option String) :
    ∃ d s', Parser.importSpecifiers Scope.top bound s = .error d s' := by
  obtain ⟨d, hd⟩ := expectWord_fails (s := s) "from" (by simp [h])
  cases bound <;> exact ⟨d, s.atEnd, by simp [Parser.importSpecifiers, h, hd]⟩

theorem default_stops (hi : isIdentifier name = true) (hw : isWord name = false) :
    Stops clauseParser (name.toList ++ sourceText source rest) := by
  intro s exported hs
  have hbroken := breaks_of_not_isWord (isShaped_of_isIdentifier hi) hw (sourceText source rest)
  by_cases hn : Parser.isName s.token.lexeme = true
  · rcases boundName_balks hbroken hs with ⟨d, s', hd⟩ | ⟨bound, s', hb, hu⟩
    · exact ⟨d, s', by simp [clauseParser, Parser.importDefault, hn, hd]⟩
    · obtain ⟨d, s'', hd⟩ := importSpecifiers_fails hu (some bound)
      exact ⟨d, s'', by simp [clauseParser, Parser.importDefault, hn, hb, hu, hd]⟩
  · rcases hs.breaks hbroken with hu | ⟨word, hl, -⟩
    · obtain ⟨d, s', hd⟩ := importSpecifiers_fails hu none
      exact ⟨d, s', by simp [clauseParser, Parser.importDefault, hn, hd]⟩
    · have hword : word ≠ "from" := by
        rintro rfl
        exact hn (hl ▸ by decide)
      obtain ⟨d, hd⟩ := expectWord_fails (s := s) "from" (by simp [hl, hword])
      rw [hl] at hn
      exact ⟨d, s.atEnd, by
        simp [clauseParser, Parser.importDefault, hn, Parser.importSpecifiers, hl, hd]⟩

theorem whole_stops (hi : isIdentifier name = true) (hw : isWord name = false) :
    Stops clauseParser ("* as ".toList ++ (name.toList ++ sourceText source rest)) := by
  intro s exported hs
  have hbroken := breaks_of_not_isWord (isShaped_of_isIdentifier hi) hw (sourceText source rest)
  have hstar := hs.lexeme (opens_whole _)
  have has := opens_keyword "as" (by decide) (name.toList ++ sourceText source rest)
  have hnext := (hs.next (opens_whole _)).blank
  have hexpect := expectWord_apply (hnext.lexeme has)
  rcases boundName_balks hbroken (hnext.next has).blank with ⟨d, s', hd⟩ | ⟨bound, s', hb, hu⟩
  · exact ⟨d, s', by simp [clauseParser, importDefault_mark hstar, Parser.importSpecifiers,
      Parser.importWhole, hstar, hexpect, hd]⟩
  · obtain ⟨d, hd⟩ := expectWord_fails (s := s') "from" (by simp [hu])
    exact ⟨d, s'.atEnd, by simp [clauseParser, importDefault_mark hstar, Parser.importSpecifiers,
      Parser.importWhole, hstar, hexpect, hb, hd]⟩

theorem list_stops {textOf : ε → List Char} {valueOf : ε → ImportSpecifier} {entries : List ε}
    (hi : ∀ e ∈ entries, ReadsItem (Parser.importSpecifier Scope.top) (textOf e) (valueOf e))
    (hb : BalksAtItem (Parser.importSpecifier Scope.top) bad) (more : List (List Char)) :
    Stops clauseParser
      ('{' :: ' ' :: ([',', ' '].intercalate (entries.map textOf ++ bad :: more) ++ rest)) := by
  intro s exported hs
  have hopen := hs.lexeme (opens_mark (by decide))
  obtain ⟨d, s', hd⟩ := listBetween_stops hi hb more rest hs
  exact ⟨d, s', by simp [clauseParser, importDefault_mark hopen, Parser.importSpecifiers,
    Parser.importList, hopen, hd]⟩

theorem clause_stops {clause : ImportClause} (hp : clause.Proper)
    (hw : ¬AllWords clause.bareNames) :
    Stops clauseParser (clause.text.toList ++ sourceText source rest) := by
  cases clause with
  | default name =>
    have hi : isIdentifier name = true := hp.1 _ (by simp [ImportClause.names])
    have hword : isWord name = false := by simpa [AllWords, ImportClause.bareNames] using hw
    exact default_stops source rest hi hword
  | whole name =>
    have h := whole_stops source rest
      (hp.1 name (by simp [ImportClause.names]))
      (by simpa [AllWords, ImportClause.bareNames] using hw)
    simpa [ImportClause.text] using h
  | named bindings =>
    have hbound : ∀ b ∈ bindings, isIdentifier b.bound = true :=
      fun b hb => hp.1 _ (List.mem_map.mpr ⟨b, hb, rfl⟩)
    obtain ⟨before, bad, after, rfl, hbad, hbefore⟩ :=
      exists_first (p := fun b : Binding => AllWords b.bareNames) fun hall =>
        hw fun name hn => by
          obtain ⟨b, hb, hmem⟩ := List.mem_flatMap.mp hn
          exact hall b hb name hmem
    have h := list_stops (' ' :: '}' :: sourceText source rest)
      (fun b hb => importSpecifier_reads (hbefore b hb) (hbound b (by simp [hb])))
      (importSpecifier_balks hbad (hbound bad (by simp)))
      (after.map fun b => (ImportClause.bindingText b).toList)
    simpa [ImportClause.text, Function.comp_def] using h
  | renamed binding =>
    have hnone : ∀ b ∈ [], ReadsItem (Parser.importSpecifier Scope.top)
        (ImportClause.renamedText b).toList b.renamed := by simp
    have h := list_stops (' ' :: '}' :: sourceText source rest) hnone
      (importSpecifier_renamed_balks hw (hp.1 _ (by simp [ImportClause.names]))) []
    simpa [ImportClause.text] using h

end

-- ---------------------------------------------------------------------------
-- What follows the keyword
-- ---------------------------------------------------------------------------

/-- Whether a token can come first in a clause, or cannot be read at all. -/
def Lexeme.beginsClause : Lexeme → Bool
  | .word .. | .unknown => true
  | .mark spelling => spelling == "*" || spelling == "\x7b"
  | _ => false

section
variable {s : State} {exported : List String} {name : String} {rest : List Char}

theorem begins_name (hi : isIdentifier name = true) (hs : s.Before exported (name.toList ++ rest))
    (hr : EndsWord rest) : s.token.lexeme.beginsClause = true := by
  cases hw : isWord name with
  | true => simp [hs.lexeme (opens_word hw hr), Lexeme.beginsClause]
  | false =>
    have hbroken := breaks_of_not_isWord (isShaped_of_isIdentifier hi) hw rest
    rcases hs.breaks hbroken with hu | ⟨_, hl, -⟩
    · simp [hu, Lexeme.beginsClause]
    · simp [hl, Lexeme.beginsClause]

theorem begins_clause {clause : ImportClause} (hp : clause.Proper)
    (hs : s.Before exported (clause.text.toList ++ sourceText source rest)) :
    s.token.lexeme.beginsClause = true := by
  cases clause with
  | default name =>
    have hi : isIdentifier name = true := hp.1 _ (by simp [ImportClause.names])
    exact begins_name hi hs (endsWord_blank _)
  | whole name =>
    have hs : s.Before exported ("* as ".toList ++ (name.toList ++ sourceText source rest)) := by
      simpa [ImportClause.text] using hs
    simp [hs.lexeme (opens_whole _), Lexeme.beginsClause]
  | named bindings =>
    have hs : s.Before exported ('{' :: ' ' ::
        ([',', ' '].intercalate (bindings.map fun b => (ImportClause.bindingText b).toList) ++
          ' ' :: '}' :: sourceText source rest)) := by
      simpa [ImportClause.text, Function.comp_def] using hs
    simp [hs.lexeme (opens_mark (by decide)), Lexeme.beginsClause]
  | renamed binding =>
    have hs : s.Before exported ('{' :: ' ' ::
        ((ImportClause.renamedText binding).toList ++ ' ' :: '}' :: sourceText source rest)) := by
      simpa [ImportClause.text] using hs
    simp [hs.lexeme (opens_mark (by decide)), Lexeme.beginsClause]

/-- An import with a clause, after its keyword. -/
def importRest : Parser Item := do
  let list ← Parser.followed clauseParser
  let source ← Parser.source
  let attributes ← Parser.importAttributes
  Parser.endStatement
  return .imports (some list) source attributes

theorem importItem_apply (h : s.next.token.lexeme.beginsClause = true) :
    Parser.importItem Scope.top s = importRest s.next := by
  unfold importRest clauseParser
  cases hl : s.next.token.lexeme <;> simp [hl, Lexeme.beginsClause] at h <;>
    simp [Parser.importItem, hl]

theorem statement_import (g : Grammar) (hs : s.token.lexeme = .word "import" false)
    (h : s.next.token.lexeme.beginsClause = true) :
    Parser.statement g Scope.top true s = importRest (s.tried s.next).next := by
  have hword : Parser.statement g Scope.top true s =
      Parser.wordStatement g Scope.top true "import" s := by
    simp [Parser.statement, hs]
  have hnext : (s.tried s.next).next.token.lexeme.beginsClause = true := by
    rw [State.tried, next_overrun]
    exact h
  rw [← importItem_apply hnext, hword]
  unfold Parser.wordStatement
  simp only [bind_apply, peek_apply]
  -- An import in an expression is followed by one of two marks.
  refine congrFun (?_ : _ = Parser.importItem Scope.top) _
  split
  · rename_i hl
    rw [hl] at h
    exact absurd h (by decide)
  · rename_i hl
    rw [hl] at h
    exact absurd h (by decide)
  · rfl

theorem importAttributes_absent (h : s.token.lexeme = .mark mark) :
    Parser.importAttributes s = .ok .absent s := by
  simp [Parser.importAttributes, h]

theorem importRest_reads {clause : ImportClause} (hp : clause.Proper)
    (hw : AllWords clause.bareNames) (source : String) (rest : List Char) :
    Reads importRest (clause.text.toList ++ sourceText source rest)
      (ImportStatement.item ⟨clause, source⟩) rest := by
  intro s exported hs
  obtain ⟨s₁, hclause, hs₁⟩ := clause_reads source rest hp hw hs
  obtain ⟨s₂, hsource, hs₂⟩ := source_reads source (';' :: rest) hs₁
  have hend : Opens (';' :: rest) (.mark ";") rest := opens_mark (by decide)
  have hmark := hs₂.lexeme hend
  refine ⟨s₂.next, ?_, hs₂.next hend⟩
  simp [importRest, hclause, hsource, importAttributes_absent hmark, Parser.endStatement, hmark]
  rfl

theorem importRest_stops {clause : ImportClause} (hp : clause.Proper)
    (hw : ¬AllWords clause.bareNames) (source : String) (rest : List Char) :
    Stops importRest (clause.text.toList ++ sourceText source rest) := by
  intro s exported hs
  obtain ⟨d, s', hd⟩ := clause_stops source rest hp hw hs
  exact ⟨d, s'.withoutReason, by simp [importRest, hd]⟩

end

-- ---------------------------------------------------------------------------
-- Statements
-- ---------------------------------------------------------------------------

theorem text_append (statement : ImportStatement) (rest : List Char) :
    statement.text.toList ++ rest = "import".toList ++
      ' ' :: (statement.clause.text.toList ++ sourceText statement.source rest) := by
  simp [ImportStatement.text, sourceText]

theorem opens_statement (statement : ImportStatement) (rest : List Char) : ∃ found left,
    Opens (statement.text.toList ++ rest) found (left ++ rest) ∧ found ≠ .endOfText := by
  let left := statement.clause.text.toList ++ sourceText statement.source []
  refine ⟨.word "import" false, ' ' :: left, ?_, by simp⟩
  have hleft : left ++ rest = statement.clause.text.toList ++ sourceText statement.source rest := by
    simp [left, sourceText]
  rw [text_append, List.cons_append, hleft]
  exact opens_keyword "import" (by decide) _

/-- What is left of an import statement after its keyword. -/
theorem statement_apply {statement : ImportStatement} (hp : statement.clause.Proper) (g : Grammar)
    {s : State} {exported : List String} {rest : List Char}
    (hs : s.Before exported (statement.text.toList ++ rest)) :
    ∃ s', Parser.statement g Scope.top true s = importRest s' ∧ s'.Before exported
      (statement.clause.text.toList ++ sourceText statement.source rest) := by
  rw [text_append] at hs
  have himport := opens_keyword "import" (by decide)
    (statement.clause.text.toList ++ sourceText statement.source rest)
  have hrest := (hs.next himport).blank
  exact ⟨_, statement_import g (hs.lexeme himport) (begins_clause hp hrest),
    ((hs.overrun _).next himport).blank⟩

/-- An import statement is read as its item where all names without quotes are words. -/
theorem statement_reads {statement : ImportStatement} (hp : statement.clause.Proper)
    (hw : AllWords statement.clause.bareNames) (g : Grammar) :
    ReadsStatement g statement.text.toList statement.item := by
  refine ⟨opens_statement statement, fun rest s exported hs => ?_⟩
  obtain ⟨s', hrun, hrest⟩ := statement_apply hp g hs
  rw [hrun]
  exact importRest_reads hp hw statement.source rest hrest

/-- An import statement is not read where a name without quotes is no word. -/
theorem statement_stops {statement : ImportStatement} (hp : statement.clause.Proper)
    (hw : ¬AllWords statement.clause.bareNames) (g : Grammar) :
    StopsStatement g statement.text.toList := by
  refine ⟨fun rest => ?_, fun rest s exported hs => ?_⟩
  · obtain ⟨found, left, h⟩ := opens_statement statement rest
    exact ⟨found, left ++ rest, h⟩
  · obtain ⟨s', hrun, hrest⟩ := statement_apply hp g hs
    rw [hrun]
    exact importRest_stops hp hw statement.source rest hrest

end Module

end PagePrelude
