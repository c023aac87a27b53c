import PagePrelude.Injector
import PagePrelude.Proofs.Config
import PagePrelude.Proofs.Module.ExportText

/-!
# The code of an accepted configuration

A configuration that validation accepts determines its statements, and the generated
code is their text. `ofConfig_ok` says what the injector of such a configuration holds
where every chosen identifier is a word, `ofConfig_fails` that there is none otherwise.
-/

namespace PagePrelude

open Identifier (isIdentifier derived)
open PagePrelude.Module (AllWords isWord)

-- ---------------------------------------------------------------------------
-- The names that a configuration chooses
-- ---------------------------------------------------------------------------

/-- The names that an entry spells out. -/
def ImportEntry.chosenNames : ImportEntry → List String
  | default _ => []
  | named _ bindings => bindings.flatMap fun binding => [binding.exported, binding.bound]
  | whole _ name => [name]

/-- The element of an override, and the export that it names. -/
def Override.chosenNames (override : Override) : List String :=
  override.element :: match override.component with
    | .default _ => []
    | .named name _ => [name]

/-- All names that a configuration spells out. -/
def Config.chosenNames (config : Config) : List String :=
  config.imports.flatMap ImportEntry.chosenNames ++ config.overrides.flatMap Override.chosenNames

/-- Whether module code reads every identifier among some names as a word. -/
def ReadableNames (names : List String) : Prop :=
  ∀ name ∈ names, isIdentifier name = true → isWord name = true

-- ---------------------------------------------------------------------------
-- The statements of a configuration
-- ---------------------------------------------------------------------------

/-- The clause of an entry. -/
def ImportEntry.clause : ImportEntry → ImportClause
  | default path => .default (derived path)
  | named _ bindings => .named bindings
  | whole _ name => .whole name

/-- The statement of an entry declared in the directory `root`. -/
def ImportEntry.statement (root : String) (entry : ImportEntry) : ImportStatement :=
  { clause := entry.clause, source := Specifier.resolve entry.path root }

/-- The import statements of a configuration, entries before overrides. -/
def Config.statements (config : Config) : List ImportStatement :=
  config.imports.map (ImportEntry.statement config.root) ++
    config.overrides.mapIdx (Override.statement config.root)

theorem ofEntry_accepted {entry : ImportEntry} (h : entry.Accepted) (root : String) :
    ImportStatement.ofEntry root entry = .ok (entry.statement root) := by
  cases entry with
  | default path =>
    have hi : isIdentifier (derived path) = true := h
    simp [ImportStatement.ofEntry, ImportStatement.clauseOf, Identifier.derive, hi, bind,
      Except.bind, pure, Except.pure, ImportEntry.statement, ImportEntry.clause]
  | named path bindings =>
    have hne : bindings ≠ [] := h.1
    simp [ImportStatement.ofEntry, ImportStatement.clauseOf, hne, bind, Except.bind, pure,
      Except.pure, ImportEntry.statement, ImportEntry.clause]
  | whole path name => rfl

theorem clause_proper {entry : ImportEntry} (h : entry.Accepted) : entry.clause.Proper := by
  cases entry with
  | default path =>
    have hi : isIdentifier (derived path) = true := h
    simp [ImportClause.Proper, ImportEntry.clause, ImportClause.names, hi]
  | named path bindings =>
    refine ⟨?_, by simpa [ImportEntry.clause, ImportClause.names] using h.1⟩
    simpa [ImportEntry.clause, ImportClause.names] using h.2
  | whole path name =>
    have hi : isIdentifier name = true := h
    simp [ImportClause.Proper, ImportEntry.clause, ImportClause.names, hi]

theorem override_proper (root : String) (index : Nat) (override : Override) :
    (override.statement root index).clause.Proper := by
  have hi := override.bound_isIdentifier index
  unfold Override.statement
  cases override.component <;> simp [ImportClause.Proper, ImportClause.names, hi]

section
variable {config : Config}

/-- Whether every entry of a configuration binds identifiers. -/
def Config.Accepted (config : Config) : Prop :=
  ∀ entry ∈ config.imports, entry.Accepted

theorem Config.statements_proper (ha : config.Accepted) :
    ∀ statement ∈ config.statements, statement.clause.Proper := by
  intro statement hs
  rcases List.mem_append.mp hs with hs | hs
  · obtain ⟨entry, hentry, rfl⟩ := List.mem_map.mp hs
    exact clause_proper (ha entry hentry)
  · obtain ⟨index, hindex, rfl⟩ := List.mem_mapIdx.mp hs
    exact override_proper config.root index _

/-- The imports that a configuration lists. -/
def Config.importFragment (config : Config) : ImportFragment where
  fragment := .ofStatements .imports
    ((config.imports.map (ImportEntry.statement config.root)).map ImportStatement.text)
  names := (config.imports.map (ImportEntry.statement config.root)).flatMap ImportStatement.names

theorem importFragment_accepted (ha : config.Accepted) :
    ImportFragment.ofConfig config = .ok config.importFragment := by
  have hmap := mapM_eq fun entry hentry => ofEntry_accepted (ha entry hentry) config.root
  simp [ImportFragment.ofConfig, hmap, bind, Except.bind, pure, Except.pure, Config.importFragment]

end

-- ---------------------------------------------------------------------------
-- Chosen names as words
-- ---------------------------------------------------------------------------

theorem readableNames_append {names more : List String} :
    ReadableNames (names ++ more) ↔ ReadableNames names ∧ ReadableNames more := by
  simp only [ReadableNames, List.mem_append]
  constructor
  · exact fun h => ⟨fun name hn => h name (.inl hn), fun name hn => h name (.inr hn)⟩
  · rintro ⟨h, hmore⟩ name (hn | hn)
    · exact h name hn
    · exact hmore name hn

theorem readableNames_flatMap {list : List α} {namesOf : α → List String} :
    ReadableNames (list.flatMap namesOf) ↔ ∀ a ∈ list, ReadableNames (namesOf a) := by
  simp only [ReadableNames, List.mem_flatMap]
  constructor
  · exact fun h a ha name hn => h name ⟨a, ha, hn⟩
  · rintro h name ⟨a, ha, hn⟩
    exact h a ha name hn

theorem binding_words {binding : Binding} (hi : isIdentifier binding.bound = true) :
    AllWords binding.bareNames ↔ ReadableNames [binding.exported, binding.bound] := by
  simp only [AllWords, ReadableNames, Binding.bareNames, List.mem_cons, List.mem_filter,
    List.not_mem_nil, or_false]
  constructor
  · rintro h name (rfl | rfl) hname
    · exact h _ (.inr ⟨rfl, hname⟩)
    · exact h _ (.inl rfl)
  · rintro h name (rfl | ⟨rfl, hname⟩)
    · exact h _ (.inr rfl) hi
    · exact h _ (.inl rfl) hname

theorem entry_words {entry : ImportEntry} (h : entry.Accepted) :
    AllWords entry.clause.bareNames ↔ ReadableNames entry.chosenNames := by
  cases entry with
  | default path =>
    have hw : isWord (derived path) = true := Identifier.derived_isWord h
    simp [AllWords, ReadableNames, ImportEntry.clause, ImportClause.bareNames,
      ImportEntry.chosenNames, hw]
  | named path bindings =>
    have hall : AllWords (ImportClause.named bindings).bareNames ↔
        ∀ b ∈ bindings, AllWords b.bareNames := by
      simp only [AllWords, ImportClause.bareNames, List.mem_flatMap]
      constructor
      · exact fun h b hb name hn => h name ⟨b, hb, hn⟩
      · rintro h name ⟨b, hb, hn⟩
        exact h b hb name hn
    refine hall.trans (Iff.trans ?_ readableNames_flatMap.symm)
    constructor
    · exact fun hw b hb => (binding_words (h.2 b hb)).mp (hw b hb)
    · exact fun hw b hb => (binding_words (h.2 b hb)).mpr (hw b hb)
  | whole path name =>
    have hi : isIdentifier name = true := h
    simp [AllWords, ReadableNames, ImportEntry.clause, ImportClause.bareNames,
      ImportEntry.chosenNames, hi]

theorem override_words (root : String) (index : Nat) (override : Override) :
    (AllWords (override.statement root index).clause.bareNames ∧
      (isIdentifier override.element = true → isWord override.element = true)) ↔
    ReadableNames override.chosenNames := by
  have hw := override.bound_isWord index
  unfold Override.statement Override.chosenNames
  cases override.component with
  | default path => simp [AllWords, ReadableNames, ImportClause.bareNames, hw]
  | named name path =>
    simp [AllWords, ReadableNames, ImportClause.bareNames, Binding.bareNames, hw, and_comm]

/-- All names that the code of an accepted configuration spells without quotes are words exactly
where the chosen names are readable. -/
theorem Config.statements_words {config : Config} (ha : config.Accepted) :
    ((∀ statement ∈ config.statements, AllWords statement.clause.bareNames) ∧
      AllWords (Module.bareElements config.overrides)) ↔ ReadableNames config.chosenNames := by
  rw [Config.chosenNames, readableNames_append, readableNames_flatMap, readableNames_flatMap]
  constructor
  · rintro ⟨hs, he⟩
    refine ⟨fun entry hentry => ?_, fun override hover => ?_⟩
    · refine (entry_words (ha entry hentry)).mp (hs (entry.statement config.root) ?_)
      exact List.mem_append_left _ (List.mem_map.mpr ⟨entry, hentry, rfl⟩)
    · obtain ⟨index, hlt, rfl⟩ := List.getElem_of_mem hover
      refine (override_words config.root index _).mp ⟨hs _ ?_, Module.element_isWord he hover⟩
      exact List.mem_append_right _ (List.mem_mapIdx.mpr ⟨index, hlt, rfl⟩)
  · rintro ⟨himports, hoverrides⟩
    refine ⟨fun statement hs => ?_, fun name hn => ?_⟩
    · rcases List.mem_append.mp hs with hs | hs
      · obtain ⟨entry, hentry, rfl⟩ := List.mem_map.mp hs
        exact (entry_words (ha entry hentry)).mpr (himports entry hentry)
      · obtain ⟨index, hlt, rfl⟩ := List.mem_mapIdx.mp hs
        exact ((override_words config.root index _).mpr
          (hoverrides _ (List.getElem_mem hlt))).1
    · obtain ⟨hmem, hi⟩ := List.mem_filter.mp hn
      obtain ⟨override, hover, rfl⟩ := List.mem_map.mp hmem
      exact hoverrides override hover _ (by simp [Override.chosenNames]) hi

-- ---------------------------------------------------------------------------
-- The text of fragments
-- ---------------------------------------------------------------------------

theorem isEmpty_ofStatements {kind : FragmentKind} {statements : List String}
    (h : ∀ text ∈ statements, Text.isBlank text = false) :
    (Fragment.ofStatements kind statements).isEmpty = statements.isEmpty := by
  cases statements with
  | nil => rfl
  | cons text statements =>
    have htext := h text (by simp)
    simp only [Text.isBlank, List.all_eq_false] at htext
    obtain ⟨c, hc, hspace⟩ := htext
    simp only [Fragment.isEmpty, Fragment.ofStatements, Text.isBlank, List.isEmpty_cons,
      List.all_eq_false, String.toList_intercalate, List.map_cons, Module.intercalate_eq]
    exact ⟨c, List.mem_append_left _ hc, hspace⟩

theorem intercalate_append {statements more : List String} (hs : statements ≠ []) (hm : more ≠ []) :
    "\n".intercalate ["\n".intercalate statements, "\n".intercalate more] =
      "\n".intercalate (statements ++ more) := by
  obtain ⟨text, statements, rfl⟩ := List.exists_cons_of_ne_nil hs
  obtain ⟨next, more, rfl⟩ := List.exists_cons_of_ne_nil hm
  rw [← String.toList_inj]
  simp only [String.toList_intercalate, List.map_cons, List.map_nil, List.map_append,
    List.cons_append, Module.intercalate_eq, Module.others_append, Module.others_cons,
    List.append_assoc]
  simp [Module.others]

/-- Two fragments joined are the text of all their statements. -/
theorem joined_eq {kind other : FragmentKind} {statements more : List String}
    (hs : ∀ text ∈ statements, Text.isBlank text = false)
    (hm : ∀ text ∈ more, Text.isBlank text = false) :
    GeneratedCode.joined [.ofStatements kind statements, .ofStatements other more] =
      "\n".intercalate (statements ++ more) := by
  unfold GeneratedCode.joined
  rw [List.filter_cons, List.filter_cons, List.filter_nil, isEmpty_ofStatements hs,
    isEmpty_ofStatements hm]
  cases statements with
  | nil => cases more <;> simp [Fragment.ofStatements]
  | cons text statements =>
    cases more with
    | nil => simp [Fragment.ofStatements]
    | cons next more =>
      simpa [Fragment.ofStatements] using
        intercalate_append (List.cons_ne_nil text statements) (List.cons_ne_nil next more)

theorem isBlank_statement (statement : ImportStatement) : Text.isBlank statement.text = false := by
  have htext := Module.text_append statement []
  rw [List.append_nil] at htext
  simp only [Text.isBlank, htext, List.all_eq_false]
  exact ⟨'i', by simp, by decide⟩

theorem isBlank_export (overrides : List Override) :
    Text.isBlank (Module.exportText overrides) = false := by
  have htext := Module.exportText_append overrides []
  rw [List.append_nil] at htext
  simp only [Text.isBlank, htext, List.all_eq_false]
  exact ⟨'e', by simp, by decide⟩

-- ---------------------------------------------------------------------------
-- The imports as module code
-- ---------------------------------------------------------------------------

/-- The text of all imports of a configuration. -/
def Config.importsText (config : Config) : String :=
  "\n".intercalate (config.statements.map ImportStatement.text)

section
variable {config : Config}

theorem importsText_begins (hne : config.statements ≠ []) :
    "import ".toList <+: config.importsText.toList := by
  obtain ⟨statement, statements, hcons⟩ := List.exists_cons_of_ne_nil hne
  have htext : config.importsText.toList =
      statement.text.toList ++ Module.others ['\n'] (statements.map fun s => s.text.toList) := by
    simp [Config.importsText, hcons, Module.intercalate_eq, Function.comp_def]
  rw [htext, Module.text_append]
  exact List.prefix_append _ _

theorem exportText_begins (overrides : List Override) :
    "export ".toList <+: (Module.exportText overrides).toList := by
  rw [← List.append_nil (Module.exportText overrides).toList, Module.exportText_append]
  exact List.prefix_append _ _

theorem head_importsText (hne : config.statements ≠ []) :
    config.importsText.toList.head? = some 'i' := by
  obtain ⟨rest, htext⟩ := importsText_begins hne
  rw [← htext]
  rfl

theorem importsText_no_mark (hne : config.statements ≠ []) :
    config.importsText.toList.head? ≠ some '#' := by
  rw [head_importsText hne]
  decide

theorem read_imports (ha : config.Accepted) (hne : config.statements ≠ [])
    (hw : ∀ statement ∈ config.statements, AllWords statement.clause.bareNames) :
    Module.read config.importsText = .ok (config.statements.map ImportStatement.item) :=
  Module.read_statements (fun g statement hs =>
    Module.statement_reads (Config.statements_proper ha statement hs) (hw statement hs) g) hne
    (importsText_no_mark hne)

theorem read_imports_fails (ha : config.Accepted)
    (hw : ¬∀ statement ∈ config.statements, AllWords statement.clause.bareNames) :
    ∃ problems, Module.read config.importsText = .error problems := by
  have hne : config.statements ≠ [] := by
    intro h
    exact hw (by simp [h])
  have hhead := importsText_no_mark hne
  obtain ⟨before, bad, after, hsplit, hbad, hbefore⟩ := Module.exists_first hw
  have hproper : ∀ statement ∈ before ++ bad :: after, statement.clause.Proper :=
    hsplit ▸ Config.statements_proper ha
  have htext : config.importsText = "\n".intercalate (before.map ImportStatement.text ++
      bad.text :: after.map ImportStatement.text) := by
    rw [Config.importsText, hsplit, List.map_append, List.map_cons]
  rw [htext] at hhead ⊢
  exact Module.read_fails
    (fun g statement hs =>
      Module.statement_reads (hproper statement (by simp [hs])) (hbefore statement hs) g)
    (fun g => Module.statement_stops (hproper bad (by simp)) hbad g) _ hhead

theorem importedNames_items (statements : List ImportStatement) :
    Module.importedNames (statements.map ImportStatement.item) =
      statements.flatMap ImportStatement.names := by
  simp only [Module.importedNames, List.flatMap_map]
  congr 1
  funext statement
  exact statement.importedNames_item

-- ---------------------------------------------------------------------------
-- The injector
-- ---------------------------------------------------------------------------

/-- The imports of an injector, where there are any. -/
def Config.importCode (config : Config) : Option GeneratedCode :=
  if config.statements.isEmpty then none
  else some {
    kind := .imports, names := config.statements.flatMap ImportStatement.names
    text := config.importsText }

/-- The export of an injector, where there is one. -/
def Config.exportCode (config : Config) : Option GeneratedCode :=
  if config.overrides.isEmpty then none
  else some { kind := .exports, names := [], text := Module.exportText config.overrides }

theorem mem_importCode {code : GeneratedCode} : code ∈ config.importCode ↔
    config.statements ≠ [] ∧
      code = ⟨.imports, config.statements.flatMap ImportStatement.names, config.importsText⟩ := by
  rw [Config.importCode, Option.mem_def]
  by_cases hne : config.statements = [] <;> simp [hne, @eq_comm _ code]

theorem mem_exportCode {code : GeneratedCode} : code ∈ config.exportCode ↔
    config.overrides ≠ [] ∧ code = ⟨.exports, [], Module.exportText config.overrides⟩ := by
  rw [Config.exportCode, Option.mem_def]
  by_cases hne : config.overrides = [] <;> simp [hne, @eq_comm _ code]

theorem importTexts_not_blank {statements : List ImportStatement} :
    ∀ text ∈ statements.map ImportStatement.text, Text.isBlank text = false := by
  intro text ht
  obtain ⟨statement, -, rfl⟩ := List.mem_map.mp ht
  exact isBlank_statement statement

theorem isEmpty_imports (config : Config) : (config.importFragment.fragment.isEmpty &&
    (OverrideFragments.ofConfig config).imports.isEmpty) = config.statements.isEmpty := by
  simp only [Config.importFragment, OverrideFragments.ofConfig,
    isEmpty_ofStatements importTexts_not_blank, Config.statements]
  cases config.imports <;> cases config.overrides <;> simp

theorem joined_imports (config : Config) : GeneratedCode.joined
    [config.importFragment.fragment, (OverrideFragments.ofConfig config).imports] =
      config.importsText := by
  rw [Config.importFragment, OverrideFragments.ofConfig,
    joined_eq importTexts_not_blank importTexts_not_blank, ← List.map_append]
  rfl

theorem isEmpty_exports (config : Config) :
    (OverrideFragments.ofConfig config).exports.isEmpty = config.overrides.isEmpty := by
  by_cases hne : config.overrides = []
  · simp [OverrideFragments.ofConfig, OverrideFragments.exportStatements, hne,
      Fragment.isEmpty, Fragment.ofStatements, Text.isBlank]
  · rw [OverrideFragments.ofConfig, Module.exportStatements_eq hne, isEmpty_ofStatements]
    · simp [hne]
    · simpa using isBlank_export config.overrides

theorem joined_exports (hne : config.overrides ≠ []) :
    GeneratedCode.joined [(OverrideFragments.ofConfig config).exports] =
      Module.exportText config.overrides := by
  have hempty := isEmpty_exports config
  rw [GeneratedCode.joined, List.filter_cons, hempty, OverrideFragments.ofConfig,
    Module.exportStatements_eq hne]
  simp [hne, Fragment.ofStatements]

theorem ofFragments_eq (kind : FragmentKind) (fragments : List Fragment) :
    GeneratedCode.ofFragments kind fragments =
      let text := GeneratedCode.joined fragments
      match Module.read text with
      | .ok items => .ok ⟨kind, Module.importedNames items, text⟩
      | .error problems => .error (.fragment kind (problems.map (·.problem.text)) text) := by
  rfl

theorem ofFragments_ok (h : Module.read (GeneratedCode.joined fragments) = .ok items) :
    GeneratedCode.ofFragments kind fragments =
      .ok ⟨kind, Module.importedNames items, GeneratedCode.joined fragments⟩ := by
  simp only [ofFragments_eq, h]

theorem ofFragments_error (kind : FragmentKind)
    (h : Module.read (GeneratedCode.joined fragments) = .error problems) :
    ∃ words, GeneratedCode.ofFragments kind fragments =
      .error (.fragment kind words (GeneratedCode.joined fragments)) := by
  simp only [ofFragments_eq, h]
  exact ⟨_, rfl⟩

/-- The step of an injector that checks its imports. -/
def Config.checkedImports (config : Config) : Except Error (Option GeneratedCode) :=
  if config.statements.isEmpty then pure none
  else some <$> GeneratedCode.ofFragments .imports
    [config.importFragment.fragment, (OverrideFragments.ofConfig config).imports]

/-- The step of an injector that checks its export. -/
def Config.checkedExport (config : Config) : Except Error (Option GeneratedCode) :=
  if config.overrides.isEmpty then pure none
  else some <$> GeneratedCode.ofFragment (OverrideFragments.ofConfig config).exports

/-- Where the imports can be written, an injector is made by checking the two texts in turn. -/
theorem ofConfig_written (h : ImportFragment.ofConfig config = .ok config.importFragment) :
    Injector.ofConfig config = (do
      let importCode ← config.checkedImports
      let exportCode ← config.checkedExport
      return ⟨config.importFragment, OverrideFragments.ofConfig config, importCode,
        exportCode⟩) := by
  rw [Injector.ofConfig, h, Config.checkedImports, Config.checkedExport, ← isEmpty_imports,
    ← isEmpty_exports, ok_bind]
  by_cases himports : (config.importFragment.fragment.isEmpty &&
      (OverrideFragments.ofConfig config).imports.isEmpty) = true <;>
    by_cases hexports : (OverrideFragments.ofConfig config).exports.isEmpty = true <;>
    simp only [himports, hexports, if_true, if_false, Bool.false_eq_true]

theorem ofConfig_accepted (ha : config.Accepted) : Injector.ofConfig config = (do
    let importCode ← config.checkedImports
    let exportCode ← config.checkedExport
    return ⟨config.importFragment, OverrideFragments.ofConfig config, importCode, exportCode⟩) :=
  ofConfig_written (importFragment_accepted ha)

theorem checkedImports_ok (ha : config.Accepted)
    (hw : ∀ statement ∈ config.statements, AllWords statement.clause.bareNames) :
    config.checkedImports = .ok config.importCode := by
  unfold Config.checkedImports Config.importCode
  by_cases hne : config.statements = []
  · simp [hne, pure, Except.pure]
  · have hread := read_imports ha hne hw
    rw [← joined_imports] at hread
    simp [hne, ofFragments_ok hread, joined_imports, importedNames_items, Functor.map, Except.map]

theorem checkedImports_error (ha : config.Accepted)
    (hw : ¬∀ statement ∈ config.statements, AllWords statement.clause.bareNames) :
    ∃ words, config.checkedImports = .error (.fragment .imports words config.importsText) := by
  have hne : config.statements ≠ [] := by
    intro h
    exact hw (by simp [h])
  obtain ⟨problems, hread⟩ := read_imports_fails ha hw
  rw [← joined_imports] at hread
  obtain ⟨words, hwords⟩ := ofFragments_error .imports hread
  refine ⟨words, ?_⟩
  simp [Config.checkedImports, hne, hwords, joined_imports, Functor.map, Except.map]

theorem checkedExport_ok (hw : AllWords (Module.bareElements config.overrides)) :
    config.checkedExport = .ok config.exportCode := by
  unfold Config.checkedExport Config.exportCode
  by_cases hne : config.overrides = []
  · simp [hne, pure, Except.pure]
  · have hread := Module.read_export hne hw
    rw [← joined_exports hne] at hread
    simp [hne, GeneratedCode.ofFragment, ofFragments_ok hread, joined_exports hne, Functor.map,
      Except.map]
    exact ⟨rfl, rfl⟩

theorem checkedExport_error (hw : ¬AllWords (Module.bareElements config.overrides)) :
    ∃ words, config.checkedExport =
      .error (.fragment .exports words (Module.exportText config.overrides)) := by
  have hne : config.overrides ≠ [] := by
    intro h
    exact hw (by simp [h, AllWords, Module.bareElements])
  obtain ⟨problems, hread⟩ := Module.read_export_fails hw
  rw [← joined_exports hne] at hread
  obtain ⟨words, hwords⟩ := ofFragments_error .exports hread
  refine ⟨words, ?_⟩
  have hkind : (OverrideFragments.ofConfig config).exports.kind = .exports := rfl
  simp [Config.checkedExport, hne, GeneratedCode.ofFragment, hkind, hwords, joined_exports hne,
    Functor.map, Except.map]

/-- The injector of an accepted configuration whose chosen names are readable. -/
theorem ofConfig_ok (ha : config.Accepted) (hn : ReadableNames config.chosenNames) :
    Injector.ofConfig config = .ok ⟨config.importFragment, OverrideFragments.ofConfig config,
      config.importCode, config.exportCode⟩ := by
  obtain ⟨hstatements, helements⟩ := (Config.statements_words ha).mpr hn
  rw [ofConfig_accepted ha, checkedImports_ok ha hstatements, checkedExport_ok helements]
  rfl

/-- There is no injector where a chosen name is an identifier and no word. -/
theorem ofConfig_fails (ha : config.Accepted) (hn : ¬ReadableNames config.chosenNames) :
    ∃ kind words text, Injector.ofConfig config = .error (.fragment kind words text) := by
  rw [ofConfig_accepted ha]
  by_cases hw : ∀ statement ∈ config.statements, AllWords statement.clause.bareNames
  · have helements : ¬AllWords (Module.bareElements config.overrides) :=
      fun h => hn ((Config.statements_words ha).mp ⟨hw, h⟩)
    obtain ⟨words, hexport⟩ := checkedExport_error helements
    refine ⟨.exports, words, Module.exportText config.overrides, ?_⟩
    rw [checkedImports_ok ha hw, hexport]
    rfl
  · obtain ⟨words, himports⟩ := checkedImports_error ha hw
    refine ⟨.imports, words, config.importsText, ?_⟩
    rw [himports]
    rfl

end

end PagePrelude
