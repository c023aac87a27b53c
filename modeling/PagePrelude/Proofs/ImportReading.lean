import PagePrelude.Proofs.GeneratedCode
import PagePrelude.Proofs.ImportGrammar

/-!
# Import statements and their grammar

The text of an import statement that binds identifiers has one reading in the grammar of import
declarations: the parts of its clause and its source (`reads_statement`). So an entry of an accepted
configuration is read back from its statement (`entry_read_back`).
-/

namespace PagePrelude

open ImportGrammar
open Identifier (isIdentifier derived)
open PagePrelude.Module (Lexeme others)

-- ---------------------------------------------------------------------------
-- Items
-- ---------------------------------------------------------------------------

/-- The only way to read some tokens as an item, where a mark comes after them. -/
structure ReadsAs (lexemes : List Lexeme) (binding : Binding) : Prop where
  begins : ∃ first more, lexemes = first :: more ∧ ∀ mark, first ≠ .mark mark
  reads : ∀ mark mark' more rest found,
    Item (lexemes ++ .mark mark :: more) found (.mark mark' :: rest) ↔
      found = binding ∧ mark' = mark ∧ rest = more

def exportedLexeme (name : String) : Lexeme :=
  if name = "default" || isIdentifier name then .word name false
  else .string name (literal name) true

def Binding.renamedLexemes (binding : Binding) : List Lexeme :=
  [exportedLexeme binding.exported, .word "as" false, .word binding.bound false]

def Binding.lexemes (binding : Binding) : List Lexeme :=
  if binding.exported = binding.bound then [.word binding.bound false] else binding.renamedLexemes

theorem reads_renamed {binding : Binding} (hi : isIdentifier binding.bound = true) :
    ReadsAs binding.renamedLexemes binding := by
  obtain ⟨exported, bound⟩ := binding
  unfold Binding.renamedLexemes exportedLexeme
  split
  -- The exported name is a word or a string, and is read either way.
  all_goals
    refine ⟨⟨_, _, rfl, nofun⟩, fun mark mark' more rest found => ⟨?_, ?_⟩⟩
    · rintro (⟨⟨⟩⟩ | ⟨⟨⟩, ⟨⟩⟩)
      exact ⟨rfl, rfl, rfl⟩
    · rintro ⟨rfl, rfl, rfl⟩
      exact .renamed (by constructor) (.name hi)

theorem reads_binding {binding : Binding} (hi : isIdentifier binding.bound = true) :
    ReadsAs binding.lexemes binding := by
  unfold Binding.lexemes
  split
  · rename_i hsame
    obtain ⟨exported, bound⟩ := binding
    obtain rfl : exported = bound := hsame
    refine ⟨⟨_, _, rfl, nofun⟩, fun mark mark' more rest found => ⟨?_, ?_⟩⟩
    · rintro (⟨⟨⟩⟩ | ⟨⟨⟩, ⟨⟩⟩)
      exact ⟨rfl, rfl, rfl⟩
    · rintro ⟨rfl, rfl, rfl⟩
      exact .once (.name hi)
  · exact reads_renamed hi

-- ---------------------------------------------------------------------------
-- Items in braces
-- ---------------------------------------------------------------------------

section
variable {lexemesOf : Binding → List Lexeme} {bindings found : List Binding}
  {more rest : List Lexeme}

/-- The tokens behind an item in braces: those of the others, and the closing brace. -/
def closing (lexemesOf : Binding → List Lexeme) : List Binding → List Lexeme
  | [] => [.mark "\x7d"]
  | binding :: bindings => .mark "," :: (lexemesOf binding ++ closing lexemesOf bindings)

def braced (lexemesOf : Binding → List Lexeme) : List Binding → List Lexeme
  | [] => [.mark "\x7b", .mark "\x7d"]
  | binding :: bindings => .mark "\x7b" :: (lexemesOf binding ++ closing lexemesOf bindings)

theorem items_step {lexemes : List Lexeme} {binding : Binding} {mark : String}
    (h : ReadsAs lexemes binding) : Items (lexemes ++ .mark mark :: more) found rest ↔
      mark = "\x7d" ∧ found = [binding] ∧ rest = more ∨
        mark = "," ∧ ∃ left, found = binding :: left ∧ Items more left rest := by
  constructor
  · obtain ⟨⟨first, others, rfl, hfirst⟩, hreads⟩ := h
    rintro (_ | hlast | ⟨hmore, hleft⟩)
    · exact absurd rfl (hfirst _)
    · obtain ⟨rfl, rfl, rfl⟩ := (hreads ..).mp hlast
      exact .inl ⟨rfl, rfl, rfl⟩
    · obtain ⟨rfl, rfl, rfl⟩ := (hreads ..).mp hmore
      exact .inr ⟨rfl, _, rfl, hleft⟩
  · rintro (⟨rfl, rfl, rfl⟩ | ⟨rfl, left, rfl, hleft⟩)
    · exact .last ((h.reads ..).mpr ⟨rfl, rfl, rfl⟩)
    · exact .more ((h.reads ..).mpr ⟨rfl, rfl, rfl⟩) hleft

-- The first item stands apart, since no comma comes before it.
theorem items_iff {binding : Binding}
    (h : ∀ b ∈ binding :: bindings, ReadsAs (lexemesOf b) b) :
    Items (lexemesOf binding ++ (closing lexemesOf bindings ++ more)) found rest ↔
      found = binding :: bindings ∧ rest = more := by
  have hbinding := h binding (by simp)
  induction bindings generalizing binding found with
  | nil => simp [closing, items_step hbinding]
  | cons next bindings ih =>
    have hnext (left : List Binding) :
        Items (lexemesOf next ++ (closing lexemesOf bindings ++ more)) left rest ↔
          left = next :: bindings ∧ rest = more :=
      ih (fun b hb => h b (List.mem_cons_of_mem binding hb)) (h next (by simp))
    simp only [closing, List.cons_append, List.append_assoc, items_step hbinding, hnext]
    constructor
    · rintro (⟨hmark, -⟩ | ⟨-, _, rfl, rfl, rfl⟩)
      · exact absurd hmark (by decide)
      · exact ⟨rfl, rfl⟩
    · rintro ⟨rfl, rfl⟩
      exact .inr ⟨trivial, _, rfl, rfl, rfl⟩

theorem named_brace_iff {parts : List Part} : Named (.mark "\x7b" :: more) parts rest ↔
    ∃ items, parts = items.map .named ∧ Items more items rest := by
  constructor
  · generalize hmark : "\x7b" = mark
    rintro (_ | hitems)
    · exact absurd hmark (by decide)
    · exact ⟨_, rfl, hitems⟩
  · rintro ⟨items, rfl, hitems⟩
    exact .list hitems

theorem named_star_iff {parts : List Part} :
    Named (.mark "*" :: .word "as" false :: more) parts rest ↔
      ∃ name, parts = [.whole name] ∧ Bound more name rest := by
  constructor
  · generalize hmark : "*" = mark
    rintro (hbound | _)
    · exact ⟨_, rfl, hbound⟩
    · exact absurd hmark (by decide)
  · rintro ⟨name, rfl, hbound⟩
    exact .whole hbound

/-- The tokens of bindings in braces are read as the bindings. -/
theorem named_braced_iff {parts : List Part} (h : ∀ b ∈ bindings, ReadsAs (lexemesOf b) b)
    (hne : bindings ≠ []) : Named (braced lexemesOf bindings ++ more) parts rest ↔
      parts = bindings.map .named ∧ rest = more := by
  obtain ⟨binding, bindings, rfl⟩ := List.exists_cons_of_ne_nil hne
  simp only [braced, List.cons_append, List.append_assoc, named_brace_iff, items_iff h]
  constructor
  · rintro ⟨items, rfl, rfl, rfl⟩
    exact ⟨rfl, rfl⟩
  · rintro ⟨rfl, rfl⟩
    exact ⟨_, rfl, rfl, rfl⟩

end

-- ---------------------------------------------------------------------------
-- Statements
-- ---------------------------------------------------------------------------

def ImportClause.lexemes : ImportClause → List Lexeme
  | default name => [.word name false]
  | named bindings => braced Binding.lexemes bindings
  | renamed binding => braced Binding.renamedLexemes [binding]
  | whole name => [.mark "*", .word "as" false, .word name false]

/-- What a clause takes from its module. -/
def ImportClause.parts : ImportClause → List Part
  | default name => [.default name]
  | named bindings => bindings.map .named
  | renamed binding => [.named binding]
  | whole name => [.whole name]

def ImportStatement.lexemes (statement : ImportStatement) : List Lexeme :=
  .word "import" false :: (statement.clause.lexemes ++
    [.word "from" false, .string statement.source (literal statement.source) true, .mark ";"])

/-- What a statement declares. -/
def ImportStatement.declaration (statement : ImportStatement) : Declaration where
  parts := some statement.clause.parts
  source := statement.source

section
variable {clause : ImportClause} {statement : ImportStatement} {parts : List Part}
  {more rest : List Lexeme}

theorem clause_braced_iff (lexemesOf : Binding → List Lexeme) (bindings : List Binding) :
    Clause (braced lexemesOf bindings ++ more) parts rest ↔
      Named (braced lexemesOf bindings ++ more) parts rest := by
  refine ⟨fun h => ?_, .named⟩
  cases bindings <;> rcases h with ⟨⟨⟩⟩ | hnamed | ⟨⟨⟩⟩ <;> exact hnamed

theorem clause_iff (hp : clause.Proper) :
    Clause (clause.lexemes ++ .word "from" false :: more) parts (.word "from" false :: rest) ↔
      parts = clause.parts ∧ rest = more := by
  obtain ⟨hi, hne⟩ := hp
  cases clause with
  | default name =>
    constructor
    · rintro (⟨⟨⟩⟩ | ⟨⟨⟩⟩ | ⟨⟨⟩⟩)
      exact ⟨rfl, rfl⟩
    · rintro ⟨rfl, rfl⟩
      exact .default (.name (hi name (by simp [ImportClause.names])))
  | named bindings =>
    have hreads : ∀ b ∈ bindings, ReadsAs b.lexemes b := by
      intro b hb
      exact reads_binding (hi _ (List.mem_map_of_mem hb))
    have hnil : bindings ≠ [] := by simpa [ImportClause.names] using hne
    simp [ImportClause.lexemes, ImportClause.parts, clause_braced_iff,
      named_braced_iff hreads hnil]
  | renamed binding =>
    have hreads : ∀ b ∈ [binding], ReadsAs b.renamedLexemes b := by
      simpa using reads_renamed (hi _ (by simp [ImportClause.names]))
    simp [ImportClause.lexemes, ImportClause.parts, clause_braced_iff, named_braced_iff hreads]
  | whole name =>
    constructor
    · rintro (⟨⟨⟩⟩ | hnamed | ⟨⟨⟩⟩)
      obtain ⟨_, rfl, ⟨⟩⟩ := named_star_iff.mp hnamed
      exact ⟨rfl, rfl⟩
    · rintro ⟨rfl, rfl⟩
      exact .named (.whole (.name (hi name (by simp [ImportClause.names]))))

theorem attributes_iff {attributes : List (String × String)} :
    Attributes (.mark ";" :: more) attributes (.mark ";" :: rest) ↔
      attributes = [] ∧ rest = more := by
  constructor
  · rintro ⟨⟩
    exact ⟨rfl, rfl⟩
  · rintro ⟨rfl, rfl⟩
    exact .absent

/-- A clause does not begin with a string. -/
theorem lexemes_begins (clause : ImportClause) :
    ∃ first others, clause.lexemes = first :: others ∧
      ∀ value spelling closed, first ≠ .string value spelling closed := by
  cases clause with
  | named bindings => cases bindings <;> exact ⟨_, _, rfl, nofun⟩
  | _ => exact ⟨_, _, rfl, nofun⟩

theorem declares_iff {declaration : Declaration} (hp : statement.clause.Proper) :
    Declares (statement.lexemes ++ more) declaration rest ↔
      declaration = statement.declaration ∧ rest = more := by
  simp only [ImportStatement.lexemes, List.cons_append, List.append_assoc, List.nil_append]
  constructor
  -- The rules are told apart by the token after the keyword, which the clause hides.
  · generalize htokens : statement.clause.lexemes ++ _ = tokens
    rintro (⟨hclause, hattributes⟩ | _)
    · obtain ⟨rfl, hleft⟩ := (clause_iff hp).mp (htokens ▸ hclause)
      cases hleft
      obtain ⟨rfl, rfl⟩ := attributes_iff.mp hattributes
      exact ⟨rfl, rfl⟩
    · obtain ⟨first, others, hbegins, hfirst⟩ := lexemes_begins statement.clause
      rw [hbegins] at htokens
      exact absurd (List.cons.inj htokens).1 (hfirst _ _ _)
  · rintro ⟨rfl, rfl⟩
    exact .clause ((clause_iff hp).mpr ⟨rfl, rfl⟩) .absent

theorem declaresAll_iff {declarations : List Declaration} (hp : statement.clause.Proper) :
    DeclaresAll statement.lexemes declarations ↔ declarations = [statement.declaration] := by
  have hiff {declaration : Declaration} {rest : List Lexeme} :
      Declares statement.lexemes declaration rest ↔
        declaration = statement.declaration ∧ rest = [] := by
    simpa using @declares_iff statement [] rest declaration hp
  constructor
  · generalize htokens : statement.lexemes = tokens
    rintro (_ | ⟨hfirst, hmore⟩)
    · cases htokens
    · obtain ⟨rfl, rfl⟩ := hiff.mp (htokens ▸ hfirst)
      cases hmore with
      | nil => rfl
      | cons h => cases h
  · rintro rfl
    exact .cons (hiff.mpr ⟨rfl, rfl⟩) .nil

end

-- ---------------------------------------------------------------------------
-- Texts
-- ---------------------------------------------------------------------------

section
variable {chars : List Char} {lexemes : List Lexeme}

theorem lexes_exported (name : String) (hends : EndsWord chars) (h : Lexes chars lexemes) :
    Lexes ((exportedName name).toList ++ chars) (exportedLexeme name :: lexemes) := by
  unfold exportedName exportedLexeme
  split
  · rename_i hbare
    refine .word ?_ hends h
    rcases Bool.or_eq_true_iff.mp hbare with hd | hi
    · rw [of_decide_eq_true hd]
      decide
    · exact Module.isShaped_of_isIdentifier hi
  · exact .literal name h

/-- The word `as`, `from` or `import` before a blank. -/
theorem lexes_keyword (word : String) (hw : Identifier.isShaped word = true)
    (h : Lexes chars lexemes) :
    Lexes (word.toList ++ ' ' :: chars) (.word word false :: lexemes) :=
  .word hw (endsWord_cons (by decide)) h.blank

theorem lexes_renamed {binding : Binding} (hi : isIdentifier binding.bound = true)
    (hends : EndsWord chars) (h : Lexes chars lexemes) :
    Lexes ((ImportClause.renamedText binding).toList ++ chars)
      (binding.renamedLexemes ++ lexemes) := by
  rw [Module.renamedText_append]
  have hbound := Lexes.word (Module.isShaped_of_isIdentifier hi) hends h
  exact lexes_exported _ (endsWord_cons (by decide)) (lexes_keyword "as" (by decide) hbound).blank

theorem lexes_binding {binding : Binding} (hi : isIdentifier binding.bound = true)
    (hends : EndsWord chars) (h : Lexes chars lexemes) :
    Lexes ((ImportClause.bindingText binding).toList ++ chars) (binding.lexemes ++ lexemes) := by
  unfold ImportClause.bindingText Binding.lexemes
  split
  · exact .word (Module.isShaped_of_isIdentifier hi) hends h
  · exact lexes_renamed hi hends h

section
variable {lexemesOf : Binding → List Lexeme} {textOf : Binding → List Char}
  {bindings : List Binding}

theorem endsWord_others (texts : List (List Char)) (chars : List Char) :
    EndsWord (others [',', ' '] texts ++ ' ' :: '}' :: chars) := by
  cases texts <;> exact endsWord_cons (by decide)

theorem lexes_others
    (htext : ∀ b ∈ bindings, ∀ {chars lexemes}, EndsWord chars → Lexes chars lexemes →
      Lexes (textOf b ++ chars) (lexemesOf b ++ lexemes)) (h : Lexes chars lexemes) :
    Lexes (others [',', ' '] (bindings.map textOf) ++ ' ' :: '}' :: chars)
      (closing lexemesOf bindings ++ lexemes) := by
  induction bindings with
  | nil => exact (Lexes.mark (by decide) h).blank
  | cons binding bindings ih =>
    have hmore := ih fun b hb => htext b (by simp [hb])
    have hbinding := htext binding (by simp) (endsWord_others _ _) hmore
    simp only [List.map_cons, Module.others_cons, closing, List.append_assoc, List.cons_append,
      List.nil_append]
    exact .mark (by decide) hbinding.blank

variable (textOf) in
theorem lexes_braced (hne : bindings ≠ [])
    (htext : ∀ b ∈ bindings, ∀ {chars lexemes}, EndsWord chars → Lexes chars lexemes →
      Lexes (textOf b ++ chars) (lexemesOf b ++ lexemes)) (h : Lexes chars lexemes) :
    Lexes ('{' :: ' ' :: ([',', ' '].intercalate (bindings.map textOf) ++ ' ' :: '}' :: chars))
      (braced lexemesOf bindings ++ lexemes) := by
  obtain ⟨binding, bindings, rfl⟩ := List.exists_cons_of_ne_nil hne
  have hmore := lexes_others (fun b hb => htext b (List.mem_cons_of_mem binding hb)) h
  have hbinding := htext binding (by simp) (endsWord_others _ _) hmore
  simp only [List.map_cons, Module.intercalate_eq, braced, List.append_assoc, List.cons_append]
  exact .mark (by decide) hbinding.blank

end

theorem lexes_clause {clause : ImportClause} (hp : clause.Proper) (h : Lexes chars lexemes) :
    Lexes (clause.text.toList ++ ' ' :: chars) (clause.lexemes ++ lexemes) := by
  obtain ⟨hi, hne⟩ := hp
  have hends : EndsWord (' ' :: chars) := endsWord_cons (by decide)
  cases clause with
  | default name =>
    have hname : isIdentifier name = true := hi name (by simp [ImportClause.names])
    exact .word (Module.isShaped_of_isIdentifier hname) hends h.blank
  | named bindings =>
    have hnil : bindings ≠ [] := by simpa [ImportClause.names] using hne
    have hlist := lexes_braced (fun b => (ImportClause.bindingText b).toList) hnil
      (fun b hb _ _ => lexes_binding (hi _ (List.mem_map_of_mem hb))) h.blank
    simpa [ImportClause.text, ImportClause.lexemes, Function.comp_def] using hlist
  | renamed binding =>
    have hbound : ∀ b ∈ [binding], isIdentifier b.bound = true := by
      simpa [ImportClause.names] using hi
    have hlist := lexes_braced (fun b => (ImportClause.renamedText b).toList)
      (List.cons_ne_nil binding []) (fun b hb _ _ => lexes_renamed (hbound b hb)) h.blank
    simpa [ImportClause.text, ImportClause.lexemes] using hlist
  | whole name =>
    have hname : isIdentifier name = true := hi name (by simp [ImportClause.names])
    have hbound := Lexes.word (Module.isShaped_of_isIdentifier hname) hends h.blank
    have has := lexes_keyword "as" (by decide) hbound
    have htext : (ImportClause.whole name).text.toList ++ ' ' :: chars =
        '*' :: ' ' :: ("as".toList ++ ' ' :: (name.toList ++ ' ' :: chars)) := by
      simp [ImportClause.text]
    rw [htext]
    exact .opens (by decide) (by decide) (by decide) (Module.opens_mark_blank (by decide)) (by simp)
      has.blank

theorem lexes_statement {statement : ImportStatement} (hp : statement.clause.Proper) :
    Lexes statement.text.toList statement.lexemes := by
  have hend : Lexes (';' :: []) [.mark ";"] := .mark (by decide) (.done rfl)
  have hsource := lexes_keyword "from" (by decide) (.literal statement.source hend)
  have htext := Module.text_append statement []
  rw [List.append_nil, Module.sourceText] at htext
  rw [htext]
  exact lexes_keyword "import" (by decide) (lexes_clause hp hsource)

end

/-- The text of a statement that binds identifiers has one reading. -/
theorem reads_statement {statement : ImportStatement} (hp : statement.clause.Proper)
    (declarations : List Declaration) :
    Reads statement.text declarations ↔ declarations = [statement.declaration] := by
  have hlexes := lexes_statement hp
  constructor
  · rintro ⟨lexemes, hfound, hall⟩
    obtain rfl := hlexes.unique hfound
    exact (declaresAll_iff hp).mp hall
  · intro h
    exact ⟨statement.lexemes, hlexes, (declaresAll_iff hp).mpr h⟩

-- ---------------------------------------------------------------------------
-- Entries
-- ---------------------------------------------------------------------------

/-- What an entry takes from its module. -/
def ImportEntry.parts : ImportEntry → Except Error (List Part)
  | default path => do return [.default (← Identifier.derive path)]
  | named _ bindings => .ok (bindings.map .named)
  | whole _ name => .ok [.whole name]

theorem ImportClause.bound_parts (clause : ImportClause) :
    clause.parts.map Part.bound = clause.names := by
  cases clause <;> simp [parts, names, Part.bound]

theorem parts_accepted {entry : ImportEntry} (h : entry.Accepted) :
    entry.parts = .ok entry.clause.parts := by
  cases entry with
  | default path =>
    have hi : isIdentifier (derived path) = true := h
    simp [ImportEntry.parts, Identifier.derive, hi, ok_bind, pure, Except.pure, ImportEntry.clause,
      ImportClause.parts]
  | named path bindings => rfl
  | whole path name => rfl

/-- The form of an entry and its names are seen in what it takes. -/
theorem clause_of_parts {entry other : ImportEntry}
    (h : entry.clause.parts = other.clause.parts) : entry.clause = other.clause := by
  cases entry with
  | default path =>
    cases other with
    | default => simpa [ImportEntry.clause, ImportClause.parts] using h
    | named _ bindings => cases bindings <;> cases h
    | whole => cases h
  | named path bindings =>
    cases other with
    | default => cases bindings <;> cases h
    | named =>
      have hbindings := (List.map_inj_right fun _ _ => Part.named.inj).mp h
      exact congrArg ImportClause.named hbindings
    | whole => cases bindings <;> cases h
  | whole path name =>
    cases other with
    | default => cases h
    | named _ bindings => cases bindings <;> cases h
    | whole => simpa [ImportEntry.clause, ImportClause.parts] using h

/-- An entry of an accepted configuration has a statement in every directory. Its text has one
reading, a declaration that takes what the entry takes, from the source of the entry, under the
names that the statement binds. So entries with one text have one clause and one source. -/
theorem entry_read_back (h : Config.ofOptions options root = .ok config)
    (hentry : entry ∈ config.imports) (directory : String) :
    ∃ statement parts, ImportStatement.ofEntry directory entry = .ok statement ∧
      entry.parts = .ok parts ∧
      (∀ declarations, Reads statement.text declarations ↔
        declarations = [⟨some parts, Specifier.resolve entry.path directory, []⟩]) ∧
      parts.map Part.bound = statement.names ∧
      ∀ options' root' config' other statement',
        Config.ofOptions options' root' = .ok config' → other ∈ config'.imports →
        ImportStatement.ofEntry directory other = .ok statement' →
        statement'.text = statement.text →
          other.clause = entry.clause ∧
            Specifier.resolve other.path directory = Specifier.resolve entry.path directory := by
  have ha : entry.Accepted := Config.ofOptions_accepted h entry hentry
  have hreads := @reads_statement (entry.statement directory) (clause_proper ha)
  refine ⟨_, _, ofEntry_accepted ha directory, parts_accepted ha, hreads,
    entry.clause.bound_parts, ?_⟩
  intro options' root' config' other statement' h' hother hstatement htext
  have ha' : other.Accepted := Config.ofOptions_accepted h' other hother
  obtain rfl := Except.ok.inj ((ofEntry_accepted ha' directory).symm.trans hstatement)
  have hread := (@reads_statement (other.statement directory) (clause_proper ha') _).mpr rfl
  rw [htext] at hread
  have hsame := (Declaration.mk.inj (List.cons.inj ((hreads _).mp hread)).1)
  exact ⟨clause_of_parts (Option.some.inj hsame.1), hsame.2.1⟩

/-- Words of the grammar are names too. -/
theorem entry_read_back_words :
    let options : Options := {
      imports := [.object [("pkg", .array [.string "as", .array [.string "a-b", .string "from"],
        .array [.string "default", .string "import_"]])]]
      components := [] }
    let entry := ImportEntry.named "pkg" [⟨"as", "as"⟩, ⟨"a-b", "from"⟩, ⟨"default", "import_"⟩]
    Config.ofOptions options "/site" = .ok { imports := [entry], root := "/site" } ∧
      ∃ statement, ImportStatement.ofEntry "/site" entry = .ok statement ∧
        statement.text = "import \x7b as, \"a-b\" as from, default as import_ \x7d from \"pkg\";" ∧
        ∀ declarations, Reads statement.text declarations ↔ declarations =
          [⟨some [.named ⟨"as", "as"⟩, .named ⟨"a-b", "from"⟩, .named ⟨"default", "import_"⟩],
            "pkg", []⟩] := by
  intro options entry
  have hoptions : Config.ofOptions options "/site" =
      .ok { imports := [entry], root := "/site" } := rfl
  obtain ⟨statement, parts, hstatement, hparts, hreads, -⟩ :=
    entry_read_back hoptions (List.mem_singleton_self entry) "/site"
  obtain rfl := Except.ok.inj hstatement
  obtain rfl := Except.ok.inj hparts
  have hsource : Specifier.resolve entry.path "/site" = "pkg" := by decide
  refine ⟨hoptions, _, hstatement, by decide, fun declarations => ?_⟩
  rw [hreads, hsource]
  rfl

end PagePrelude
