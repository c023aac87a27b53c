import PagePrelude.Proofs.RoundTrip

/-!
# What an injector holds

The code of every injector that could be made, whether or not its configuration was
validated: the imports are the text of all statements (`importCode_made`), the export is
that of the overrides (`exportCode_made`), and both were read as module code.
-/

namespace PagePrelude

open PagePrelude.Module (AllWords)

variable {config : Config} {injector : Injector}

-- ---------------------------------------------------------------------------
-- Statements that could be written
-- ---------------------------------------------------------------------------

theorem ofEntry_eq {root : String} {entry : ImportEntry} {statement : ImportStatement}
    (h : ImportStatement.ofEntry root entry = .ok statement) :
    statement = entry.statement root := by
  simp only [ImportStatement.ofEntry, bind_ok, pure_ok] at h
  obtain ⟨clause, hclause, rfl⟩ := h
  have heq : clause = entry.clause := by
    cases entry with
    | default path =>
      simp only [ImportStatement.clauseOf, bind_ok, pure_ok] at hclause
      obtain ⟨name, hname, rfl⟩ := hclause
      rw [(Config.derive_ok hname).1, ImportEntry.clause]
    | named path bindings =>
      simp only [ImportStatement.clauseOf] at hclause
      split at hclause
      · cases hclause
      · exact (Except.ok.inj hclause).symm
    | whole path name => exact (Except.ok.inj hclause).symm
  rw [heq, ImportEntry.statement]

theorem importFragment_eq {imports : ImportFragment}
    (h : ImportFragment.ofConfig config = .ok imports) : imports = config.importFragment := by
  simp only [ImportFragment.ofConfig, bind_ok, pure_ok] at h
  obtain ⟨statements, hstatements, rfl⟩ := h
  rw [eq_map_of_mapM hstatements fun _ _ => ofEntry_eq, Config.importFragment]

theorem ofConfig_checked (h : Injector.ofConfig config = .ok injector) :
    config.checkedImports = .ok injector.importCode ∧
      config.checkedExport = .ok injector.exportCode := by
  obtain ⟨imports, himports, -⟩ := bind_ok.mp h
  rw [importFragment_eq himports] at himports
  simp only [ofConfig_written himports, bind_ok, pure_ok] at h
  obtain ⟨_, hi, _, he, rfl⟩ := h
  exact ⟨hi, he⟩

-- ---------------------------------------------------------------------------
-- Code that was checked
-- ---------------------------------------------------------------------------

theorem map_some_ok {x : Except ε α} {result : Option α} (h : some <$> x = .ok result) :
    ∃ a, x = .ok a ∧ result = some a := by
  cases x with
  | ok a => exact ⟨a, rfl, (Except.ok.inj h).symm⟩
  | error e => cases h

theorem read_of_ofFragments {kind : FragmentKind} {fragments : List Fragment}
    {code : GeneratedCode} (h : GeneratedCode.ofFragments kind fragments = .ok code) :
    ∃ items, Module.read (GeneratedCode.joined fragments) = .ok items ∧
      code = ⟨kind, Module.importedNames items, GeneratedCode.joined fragments⟩ := by
  cases hread : Module.read (GeneratedCode.joined fragments) with
  | ok items =>
    rw [ofFragments_ok hread] at h
    exact ⟨items, rfl, (Except.ok.inj h).symm⟩
  | error problems =>
    obtain ⟨_, hfails⟩ := ofFragments_error kind hread
    rw [hfails] at h
    cases h

/-- The imports of an injector are the text of all statements, if there are any. -/
theorem importCode_made (h : Injector.ofConfig config = .ok injector) :
    (config.statements = [] ∧ injector.importCode = none) ∨
      (config.statements ≠ [] ∧ ∃ items, Module.read config.importsText = .ok items ∧
        injector.importCode =
          some ⟨.imports, Module.importedNames items, config.importsText⟩) := by
  have hchecked := (ofConfig_checked h).1
  unfold Config.checkedImports at hchecked
  split at hchecked
  · rename_i hempty
    exact .inl ⟨List.isEmpty_iff.mp hempty, (Except.ok.inj hchecked).symm⟩
  · rename_i hempty
    obtain ⟨code, hcode, hsome⟩ := map_some_ok hchecked
    obtain ⟨items, hread, rfl⟩ := read_of_ofFragments hcode
    rw [joined_imports] at hread hsome
    exact .inr ⟨by simpa using hempty, items, hread, hsome⟩

/-- The export of an injector is that of the overrides, whose bare elements are all words. -/
theorem exportCode_made (h : Injector.ofConfig config = .ok injector) :
    injector.exportCode = config.exportCode ∧ AllWords (Module.bareElements config.overrides) := by
  have hchecked := (ofConfig_checked h).2
  have hwords : AllWords (Module.bareElements config.overrides) := by
    refine Classical.byContradiction fun hw => ?_
    obtain ⟨_, hfails⟩ := checkedExport_error hw
    rw [hfails] at hchecked
    cases hchecked
  rw [checkedExport_ok hwords] at hchecked
  exact ⟨(Except.ok.inj hchecked).symm, hwords⟩

/-- The code of an injector is the text of its statements or of its export, and was read. -/
theorem code_cases (h : Injector.ofConfig config = .ok injector) {code : GeneratedCode}
    (hcode : code ∈ injector.importCode.toList ++ injector.exportCode.toList) :
    (config.statements ≠ [] ∧ code.text = config.importsText ∨
      code.text = Module.exportText config.overrides) ∧
      ∃ items, Module.read code.text = .ok items := by
  rcases List.mem_append.mp hcode with himport | hexport
  · rcases importCode_made h with ⟨-, hnone⟩ | ⟨hne, items, hread, hsome⟩
    · simp [hnone] at himport
    · obtain rfl : code = _ := by simpa [hsome] using himport
      exact ⟨.inl ⟨hne, rfl⟩, items, hread⟩
  · obtain ⟨hmade, hwords⟩ := exportCode_made h
    obtain ⟨hne, rfl⟩ := mem_exportCode.mp (hmade ▸ Option.mem_toList.mp hexport)
    exact ⟨.inr rfl, _, Module.read_export hne hwords⟩

/-- The code of an injector starts with the keyword of a statement. -/
theorem code_begins (h : Injector.ofConfig config = .ok injector) {code : GeneratedCode}
    (hcode : code ∈ injector.importCode.toList ++ injector.exportCode.toList) :
    ∃ keyword ∈ ["import ", "export "], keyword.toList <+: code.text.toList := by
  rcases (code_cases h hcode).1 with ⟨hne, htext⟩ | htext
  · exact ⟨"import ", by simp, htext ▸ importsText_begins hne⟩
  · exact ⟨"export ", by simp, htext ▸ exportText_begins config.overrides⟩

/-- An injector is made of validated options only where the chosen names are readable. -/
theorem readable_of_made (ha : config.Accepted) (h : Injector.ofConfig config = .ok injector) :
    ReadableNames config.chosenNames := by
  refine Classical.byContradiction fun hn => ?_
  obtain ⟨_, _, _, hfails⟩ := ofConfig_fails ha hn
  rw [hfails] at h
  cases h

-- ---------------------------------------------------------------------------
-- The name of the export
-- ---------------------------------------------------------------------------

theorem bound_ne_export (index : Nat) (override : Override) :
    override.bound index ≠ componentsExport := by
  obtain ⟨rest, hbound⟩ := override.bound_cons index
  intro h
  rw [h] at hbound
  exact absurd hbound (by simp [componentsExport])

/-- The imports of validated options bind the name of the export exactly where an entry does: no
override is imported under it. -/
theorem mem_names_statements (config : Config) :
    componentsExport ∈ config.statements.flatMap ImportStatement.names ↔
      ∃ entry ∈ config.imports, componentsExport ∈ entry.clause.names := by
  have hentries : config.importFragment.names =
      config.imports.flatMap fun entry => entry.clause.names := by
    rw [Config.importFragment, List.flatMap_map]
    rfl
  rw [names_statements, hentries, List.mem_append, List.mem_flatMap]
  constructor
  · rintro (h | h)
    · exact h
    · obtain ⟨index, _, heq⟩ := List.mem_mapIdx.mp h
      exact absurd heq (bound_ne_export index _)
  · exact .inl

/-- Validated options with overrides put imports and an export into a document. The two bind a name
in common exactly where an entry binds `components`; no import of an override does. -/
theorem shared_name_iff {options : Options} {root : String}
    (ho : Config.ofOptions options root = .ok config) (hne : config.overrides ≠ [])
    (hi : Injector.ofConfig config = .ok injector) :
    ∃ imports exports items declared,
      injector.importCode = some imports ∧ Module.read imports.text = .ok items ∧
      imports.names = Module.importedNames items ∧
      injector.exportCode = some exports ∧
      Module.read exports.text = .ok [.exportDeclaration declared] ∧
      (componentsExport ∈ imports.names ↔
        ∃ entry ∈ config.imports, componentsExport ∈ entry.clause.names) ∧
      ((∃ name ∈ imports.names, declared.binds name = true) ↔
        ∃ entry ∈ config.imports, componentsExport ∈ entry.clause.names) ∧
      ∀ (index : Nat) (override : Override), config.overrides[index]? = some override →
        override.bound index ≠ componentsExport := by
  have ha : config.Accepted := Config.ofOptions_accepted ho
  have hn : ReadableNames config.chosenNames := readable_of_made ha hi
  obtain ⟨hstatements, helements⟩ := (Config.statements_words ha).mpr hn
  have hsome : config.statements ≠ [] := statements_ne_nil.mpr (.inr hne)
  have hread := read_imports ha hsome hstatements
  rw [ofConfig_ok ha hn] at hi
  cases hi
  have hbinds (name : String) : Module.Declaration.binds name (.bindings "const"
      [(.name componentsExport, .node .object (config.overrides.mapIdx Override.code))]) = true ↔
      name = componentsExport := by
    simp only [Module.Declaration.binds, Module.Pattern.binds, List.any_cons, List.any_nil,
      Bool.or_false, beq_iff_eq]
    exact eq_comm
  refine ⟨_, _, _, _, mem_importCode.mpr ⟨hsome, rfl⟩, hread, (importedNames_items _).symm,
    mem_exportCode.mpr ⟨hne, rfl⟩, Module.read_export hne helements, mem_names_statements config,
    ?_, fun index override _ => bound_ne_export index override⟩
  simp only [hbinds, exists_eq_right]
  exact mem_names_statements config

/-- An entry under another name has nothing in common with the export. -/
theorem shared_name_none :
    let options : Options := {
      imports := [.object [("pkg", .array [.array [.string "components", .string "parts"]])]]
      components := [("a", .string "./A.js")] }
    let config : Config := {
      imports := [.named "pkg" [⟨"components", "parts"⟩]]
      overrides := [⟨"a", .default "./A.js"⟩]
      root := "/site" }
    Config.ofOptions options "/site" = .ok config ∧ config.overrides ≠ [] ∧
      ∃ injector imports, Injector.ofConfig config = .ok injector ∧
        injector.importCode = some imports ∧ componentsExport ∉ imports.names := by
  intro options config
  have ho : Config.ofOptions options "/site" = .ok config := rfl
  have hne : config.overrides ≠ [] := by decide
  have hi := ofConfig_ok (Config.ofOptions_accepted ho) (readable_of_ascii (by decide))
  obtain ⟨imports, _, _, _, himports, -, -, -, -, hiff, -⟩ := shared_name_iff ho hne hi
  exact ⟨ho, hne, _, imports, hi, himports, fun h => absurd (hiff.mp h) (by decide)⟩

/-- The name derived from a path can be that of the export. -/
theorem shared_name_derived : ∃ options config injector imports,
    Config.ofOptions options "/site" = .ok config ∧ config.overrides ≠ [] ∧
      Injector.ofConfig config = .ok injector ∧ injector.importCode = some imports ∧
      componentsExport ∈ imports.names := by
  let options : Options := {
    imports := [.string "./components.js"], components := [("a", .string "./A.js")] }
  let config : Config := {
    imports := [.default "./components.js"], overrides := [⟨"a", .default "./A.js"⟩]
    root := "/site" }
  have ho : Config.ofOptions options "/site" = .ok config := rfl
  have hi := ofConfig_ok (Config.ofOptions_accepted ho) (readable_of_ascii (by decide))
  have hstatements : config.statements ≠ [] := by decide
  have hname : componentsExport ∈ config.statements.flatMap ImportStatement.names :=
    (mem_names_statements config).mpr ⟨.default "./components.js", by decide, by decide⟩
  exact ⟨options, config, _, _, ho, by decide, hi, mem_importCode.mpr ⟨hstatements, rfl⟩, hname⟩

end PagePrelude
