import PagePrelude.Proofs.Module.AssignmentText
import PagePrelude.Proofs.Setups

/-!
# The script of a page

Only the code of documents is read back when a configuration is prepared, never the script. Its
imports are those of the documents without the overrides, and every other line copies one name, so
it is module code as well (`script_exposes`). A configuration built by hand may bind a text that is
no name. Such a text can pass for an import and not for an assignment (`script_exposes_not`).
-/

namespace PagePrelude

open Identifier (isIdentifier)

variable {config : Config} {integration : Integration}

-- ---------------------------------------------------------------------------
-- What is exposed
-- ---------------------------------------------------------------------------

/-- What a configuration exposes. Overrides have no part in it. -/
def Config.exposure (config : Config) : Exposure :=
  { imports := config.importFragment }

theorem exposure_eq (h : Integration.ofConfig config = .ok integration) :
    integration.exposure = config.exposure := by
  obtain ⟨hinjector, hexposure⟩ := ofConfig_integration.mp h
  rw [hexposure, importFragment_eq (imports_made hinjector), Config.exposure]

theorem exposure_names (config : Config) : config.exposure.names =
    (config.imports.map (ImportEntry.statement config.root)).flatMap ImportStatement.names := rfl

/-- Of entries that could be written, the names are all that is left to check. -/
theorem accepted_of_names (h : ImportFragment.ofConfig config = .ok imports)
    (hi : ∀ name ∈ config.exposure.names, isIdentifier name = true) : config.Accepted := by
  intro entry hentry
  have hnames : ∀ name ∈ entry.clause.names, isIdentifier name = true := by
    intro name hname
    refine hi name (List.mem_flatMap.mpr ⟨entry.statement config.root, ?_, hname⟩)
    exact List.mem_map_of_mem hentry
  obtain ⟨statements, hstatements, -⟩ := bind_ok.mp h
  obtain ⟨statement, hwritten⟩ := mapM_total hstatements entry hentry
  have hne := names_ne_nil hwritten
  rw [ofEntry_eq hwritten] at hne
  cases entry with
  | default path => exact hnames _ List.mem_cons_self
  | named path bindings =>
    have hbindings : bindings ≠ [] := by
      simpa [ImportStatement.names, ImportEntry.statement, ImportEntry.clause,
        ImportClause.names] using hne
    exact ⟨hbindings, fun b hb => hnames _ (List.mem_map_of_mem hb)⟩
  | whole path name => exact hnames _ List.mem_cons_self

-- ---------------------------------------------------------------------------
-- The lines of a script
-- ---------------------------------------------------------------------------

/-- The first text may itself be made of texts. -/
theorem intercalate_flatten {statements more : List String} (hs : statements ≠ [])
    (hm : more ≠ []) : "\n".intercalate ("\n".intercalate statements :: more) =
      "\n".intercalate (statements ++ more) := by
  have hone := intercalate_append (List.cons_ne_nil ("\n".intercalate statements) []) hm
  rw [List.singleton_append] at hone
  rw [← hone, ← intercalate_append hs hm]
  simp

/-- A line of a script: a statement, or the name that the line copies. -/
abbrev ScriptLine := ImportStatement ⊕ String

namespace ScriptLine

def text : ScriptLine → String :=
  Sum.elim ImportStatement.text (Exposure.assignment "globalThis")

def item : ScriptLine → Module.Item :=
  Sum.elim ImportStatement.item (Exposure.item "globalThis")

/-- The lines of the script of a configuration. -/
def ofConfig (config : Config) : List ScriptLine :=
  (config.imports.map (ImportEntry.statement config.root)).map .inl ++
    config.exposure.names.map .inr

end ScriptLine

/-- A script is made of its lines, and there are no scripts without lines. -/
theorem script_lines (h : script ∈ config.exposure.script) : ScriptLine.ofConfig config ≠ [] ∧
    script = "\n".intercalate ((ScriptLine.ofConfig config).map ScriptLine.text) := by
  unfold Exposure.script at h
  split at h
  case isTrue => cases h
  case isFalse hempty =>
    obtain rfl := Option.some.inj h
    have hnames : config.exposure.names ≠ [] := by simpa using hempty
    -- Names come from imports only, so there are imports where there are names.
    have himports : config.imports ≠ [] := by
      intro hnil
      exact hnames (by rw [exposure_names, hnil, List.map_nil, List.flatMap_nil])
    have htexts : (config.imports.map (ImportEntry.statement config.root)).map
        ImportStatement.text ≠ [] := by simpa using himports
    have hassignments : config.exposure.statements ≠ [] := by
      simpa [Exposure.statements] using hnames
    constructor
    · simp [ScriptLine.ofConfig, himports]
    · refine (intercalate_flatten htexts hassignments).trans (congrArg _ ?_)
      simp [ScriptLine.ofConfig, ScriptLine.text, Exposure.statements, Config.exposure]

theorem mem_bareNames {clause : ImportClause} (h : name ∈ clause.names) :
    name ∈ clause.bareNames := by
  cases clause with
  | default _ | whole _ => exact h
  | named bindings =>
    obtain ⟨binding, hbinding, rfl⟩ := List.mem_map.mp h
    exact List.mem_flatMap.mpr ⟨binding, hbinding, List.mem_cons_self⟩
  | renamed binding =>
    obtain rfl := List.mem_singleton.mp h
    exact List.mem_cons_self

theorem line_reads (ha : config.Accepted) (hn : ReadableNames config.chosenNames) (length : Nat) :
    ∀ line ∈ ScriptLine.ofConfig config,
      Module.ReadsStatement (.ofLength length) line.text.toList line.item := by
  have hproper (statement : ImportStatement)
      (hs : statement ∈ config.imports.map (ImportEntry.statement config.root)) :
      statement.clause.Proper ∧ Module.AllWords statement.clause.bareNames := by
    have hmem : statement ∈ config.statements := List.mem_append_left _ hs
    exact ⟨Config.statements_proper ha _ hmem, ((Config.statements_words ha).mpr hn).1 _ hmem⟩
  intro line hline
  rcases List.mem_append.mp hline with hline | hline
  · obtain ⟨statement, hs, rfl⟩ := List.mem_map.mp hline
    exact Module.statement_reads (hproper statement hs).1 (hproper statement hs).2 _
  · obtain ⟨name, hname, rfl⟩ := List.mem_map.mp hline
    obtain ⟨statement, hs, hbound⟩ := List.mem_flatMap.mp hname
    exact Module.assignment_reads ((hproper statement hs).1.1 name hbound)
      ((hproper statement hs).2 name (mem_bareNames hbound)) (3 * length + 6)

theorem line_unmarked (line : ScriptLine) : ∃ c chars, line.text.toList = c :: chars ∧ c ≠ '#' := by
  cases line with
  | inl statement =>
    have htext := Module.text_append statement []
    rw [List.append_nil] at htext
    exact ⟨'i', _, htext, by decide⟩
  | inr name =>
    have htext := Module.assignment_append name []
    rw [List.append_nil] at htext
    exact ⟨'g', _, htext, by decide⟩

theorem read_script (ha : config.Accepted) (hn : ReadableNames config.chosenNames)
    (h : script ∈ config.exposure.script) :
    Module.read script = .ok ((ScriptLine.ofConfig config).map ScriptLine.item) := by
  obtain ⟨hne, rfl⟩ := script_lines h
  refine Module.read_lines (line_reads ha hn) hne ?_
  -- A first line that says how to run a text would be left out.
  obtain ⟨line, lines, hlines⟩ := List.exists_cons_of_ne_nil hne
  obtain ⟨c, chars, htext, hc⟩ := line_unmarked line
  rw [hlines, String.toList_intercalate, List.map_cons, List.map_cons]
  rw [Module.intercalate_eq, htext]
  simpa using hc

/-- The imports come first, then the assignments. -/
theorem items_lines (config : Config) : (ScriptLine.ofConfig config).map ScriptLine.item =
    (config.imports.map (ImportEntry.statement config.root)).map ImportStatement.item ++
      config.exposure.names.map (Exposure.item "globalThis") := by
  simp [ScriptLine.ofConfig, ScriptLine.item]

/-- Assignments import nothing. -/
theorem importedNames_lines (config : Config) :
    Module.importedNames ((ScriptLine.ofConfig config).map ScriptLine.item) =
      config.exposure.names := by
  have hassignments (names : List String) :
      Module.importedNames (names.map (Exposure.item "globalThis")) = [] := by
    rw [Module.importedNames, List.flatMap_map]
    exact List.flatMap_eq_nil_iff.mpr fun _ _ => rfl
  rw [items_lines, Module.importedNames, List.flatMap_append]
  refine (congrArg₂ (· ++ ·) (importedNames_items _) (hassignments _)).trans ?_
  rw [List.append_nil, exposure_names]

-- ---------------------------------------------------------------------------
-- Scripts
-- ---------------------------------------------------------------------------

/-- The names that an integration exposes are those that the imports of its configuration bind,
whatever is overridden, and a script is run where there are any. If all of them are identifiers, as
validation has it, the script is module code that imports these names in order and then copies each
of them onto the object, in order, and does nothing else. -/
theorem script_exposes (h : Integration.ofConfig config = .ok integration) :
    integration.exposure.names = integration.injector.imports.names ∧
    (integration.exposure.script = none ↔ config.imports = []) ∧
    (∀ overrides other, Integration.ofConfig { config with overrides } = .ok other →
      other.exposure.script = integration.exposure.script) ∧
    (∀ options root, Config.ofOptions options root = .ok config →
      ∀ name ∈ integration.exposure.names, isIdentifier name = true) ∧
    ((∀ name ∈ integration.exposure.names, isIdentifier name = true) →
      ∀ script ∈ integration.exposure.script, ∃ items imported,
        Module.read script = .ok items ∧ Module.importedNames items = integration.exposure.names ∧
        items = imported ++ integration.exposure.names.map (Exposure.item "globalThis") ∧
        ∀ item ∈ imported, ∃ specifiers source,
          item = .imports (some specifiers) source .absent) := by
  obtain ⟨hinjector, hexposure⟩ := ofConfig_integration.mp h
  have himports := imports_made hinjector
  have hscript := script_isSome_iff h
  rw [exposure_eq h] at hscript ⊢
  refine ⟨?_, ?_, fun overrides other hother => ?_, ?_, fun hi script hmem => ?_⟩
  · rw [importFragment_eq himports]
    rfl
  · rw [← Option.not_isSome_iff_eq_none, hscript, not_not]
  · -- What is exposed is computed without the overrides, so there is nothing to compare.
    rw [exposure_eq hother]
    rfl
  · intro options root hoptions name hname
    obtain ⟨statement, hstatement, hbound⟩ := List.mem_flatMap.mp hname
    obtain ⟨entry, hentry, rfl⟩ := List.mem_map.mp hstatement
    exact (clause_proper (Config.ofOptions_accepted hoptions entry hentry)).1 name hbound
  · -- The documents' code was read when the injector was made. The script has the same names.
    have ha := accepted_of_names himports hi
    have hn := readable_of_made ha hinjector
    refine ⟨_, _, read_script ha hn hmem, importedNames_lines config, items_lines config, ?_⟩
    intro item hitem
    obtain ⟨statement, -, rfl⟩ := List.mem_map.mp hitem
    exact ⟨_, _, rfl⟩

/-- Names that say something else in other places, beside an override. -/
theorem script_exposes_keywords :
    let options : Options := {
      imports := [.object [("pkg", .array [.string "async",
        .array [.string "a-b", .string "from"]])], .string "./of.js"]
      components := [("a", .string "./A.js")] }
    let config : Config := {
      imports := [.named "pkg" [⟨"async", "async"⟩, ⟨"a-b", "from"⟩], .default "./of.js"]
      overrides := [⟨"a", .default "./A.js"⟩], root := "/site" }
    Config.ofOptions options "/site" = .ok config ∧
      ∃ integration script items, Integration.ofConfig config = .ok integration ∧
        integration.exposure.script = some script ∧ Module.read script = .ok items ∧
        Module.importedNames items = ["async", "from", "of"] := by
  intro options config
  have hoptions : Config.ofOptions options "/site" = .ok config := rfl
  obtain ⟨injector, hi⟩ : ∃ injector, Injector.ofConfig config = .ok injector :=
    ⟨_, ofConfig_ok (Config.ofOptions_accepted hoptions) (readable_of_ascii (by decide))⟩
  have h : Integration.ofConfig config = .ok ⟨injector, { imports := injector.imports }⟩ :=
    ofConfig_integration.mpr ⟨hi, rfl⟩
  obtain ⟨script, hscript⟩ := Option.isSome_iff_exists.mp ((script_isSome_iff h).mpr (by decide))
  obtain ⟨-, -, -, hnames, hread⟩ := script_exposes h
  obtain ⟨items, _, hitems, himported, -⟩ := hread (hnames options "/site" hoptions) script hscript
  refine ⟨hoptions, _, script, items, h, hscript, hitems, himported.trans ?_⟩
  rw [exposure_eq h]
  decide

/-- A text that is no name can complete an import and then not be assigned. -/
theorem script_exposes_not :
    let config : Config := { imports := [.named "pkg" [⟨"x", "a, y as b"⟩]], root := "/site" }
    ∃ integration script, Integration.ofConfig config = .ok integration ∧
      integration.exposure.script = some script ∧
      ∃ problems, Module.read script = .error problems := by
  intro config
  have himports : ImportFragment.ofConfig config = .ok config.importFragment := rfl
  have htext : config.importsText = "import \x7b x as a, y as b \x7d from \"pkg\";" := by decide
  have hread : Module.read config.importsText = .ok [.imports (some [.named (.word "x") "a",
      .named (.word "y") "b"]) ⟨"pkg", "\"pkg\""⟩ .absent] := by
    rw [htext]
    rfl
  rw [← joined_imports] at hread
  obtain ⟨injector, hi⟩ : ∃ injector, Injector.ofConfig config = .ok injector := by
    rw [ofConfig_written himports, Config.checkedImports, if_neg (by decide), ofFragments_ok hread]
    exact ⟨_, rfl⟩
  have h : Integration.ofConfig config = .ok ⟨injector, { imports := injector.imports }⟩ :=
    ofConfig_integration.mpr ⟨hi, rfl⟩
  obtain ⟨script, hscript, hfails⟩ : ∃ script, config.exposure.script = some script ∧
      (Module.read script).isOk = false := ⟨_, rfl, by decide +kernel⟩
  refine ⟨_, script, h, (congrArg Exposure.script (exposure_eq h)).trans hscript, ?_⟩
  cases hread : Module.read script with
  | ok items => simp [hread, Except.isOk, Except.toBool] at hfails
  | error problems => exact ⟨problems, rfl⟩

end PagePrelude
