import PagePrelude.Integration
import PagePrelude.Proofs.Splice

/-!
# What setup asks for

Whether a configuration holds anything is asked in several places: of its lists, of the checked
code, of the names that are exposed. The answers agree for every configuration that could be
prepared, so setup asks for a transform and for a script exactly where there is something to put
in (`setup_exact`).
-/

namespace PagePrelude

variable {config : Config} {injector : Injector} {integration : Integration}

-- ---------------------------------------------------------------------------
-- Nothing to put in
-- ---------------------------------------------------------------------------

theorem isEmpty_iff : config.isEmpty = true ↔ config.statements = [] := by
  refine not_iff_not.mp (Iff.trans ?_ statements_ne_nil.symm)
  simp [Config.isEmpty, Decidable.imp_iff_not_or]

theorem importCode_isSome_iff (h : Injector.ofConfig config = .ok injector) :
    injector.importCode.isSome = true ↔ config.statements ≠ [] := by
  rcases importCode_made h with ⟨hnil, hnone⟩ | ⟨hne, _, -, hsome⟩
  · simp [hnil, hnone]
  · simp [hne, hsome]

/-- An injector that is never to change a document has neither imports nor an export. -/
theorem isIdle_iff (h : Injector.ofConfig config = .ok injector) :
    injector.isIdle = true ↔ config.isEmpty = true := by
  have himports := importCode_isSome_iff h
  obtain ⟨hexport, -⟩ := exportCode_made h
  rw [isEmpty_iff, Injector.isIdle, Bool.and_eq_true, Option.isNone_iff_eq_none,
    Option.isNone_iff_eq_none]
  constructor
  · rintro ⟨hnone, -⟩
    simpa [hnone] using himports
  · intro hnil
    -- Overrides have statements of their own, so there is no export without imports.
    have hoverrides : config.overrides = [] := by
      refine Classical.byContradiction fun hne => ?_
      exact statements_ne_nil.mpr (.inr hne) hnil
    refine ⟨by simpa [hnil] using himports, ?_⟩
    rw [hexport]
    simp [Config.exportCode, hoverrides]

-- ---------------------------------------------------------------------------
-- The script
-- ---------------------------------------------------------------------------

/-- An entry that could be written binds a name. -/
theorem names_ne_nil {root : String} {entry : ImportEntry} {statement : ImportStatement}
    (h : ImportStatement.ofEntry root entry = .ok statement) : statement.names ≠ [] := by
  simp only [ImportStatement.ofEntry, bind_ok, pure_ok] at h
  obtain ⟨clause, hclause, rfl⟩ := h
  cases entry with
  | default path =>
    simp only [ImportStatement.clauseOf, bind_ok, pure_ok] at hclause
    obtain ⟨name, -, rfl⟩ := hclause
    exact List.cons_ne_nil _ _
  | named path bindings =>
    simp only [ImportStatement.clauseOf] at hclause
    split at hclause
    · cases hclause
    · rename_i hne
      cases hclause
      simpa [ImportStatement.names, ImportClause.names] using hne
  | whole path name =>
    cases hclause
    exact List.cons_ne_nil _ _

theorem importNames_nil_iff {imports : ImportFragment}
    (h : ImportFragment.ofConfig config = .ok imports) :
    imports.names = [] ↔ config.imports = [] := by
  simp only [ImportFragment.ofConfig, bind_ok, pure_ok] at h
  obtain ⟨statements, hstatements, rfl⟩ := h
  have hnames : ∀ statement ∈ statements, statement.names ≠ [] := by
    intro statement hstatement
    obtain ⟨_, -, hentry⟩ := mapM_ok hstatements statement hstatement
    exact names_ne_nil hentry
  have hlength := eq_map_of_mapM hstatements fun _ _ => ofEntry_eq
  rw [List.flatMap_eq_nil_iff]
  constructor
  · intro hnil
    cases statements with
    | nil => exact List.map_eq_nil_iff.mp hlength.symm
    | cons first _ => exact absurd (hnil first (by simp)) (hnames first (by simp))
  · intro hnil
    rw [hnil] at hlength
    simp [hlength]

theorem imports_made (h : Injector.ofConfig config = .ok injector) :
    ImportFragment.ofConfig config = .ok injector.imports := by
  obtain ⟨imports, himports, -⟩ := bind_ok.mp h
  obtain rfl := importFragment_eq himports
  simp only [ofConfig_written himports, bind_ok, pure_ok] at h
  obtain ⟨_, -, _, -, rfl⟩ := h
  exact himports

theorem ofConfig_integration : Integration.ofConfig config = .ok integration ↔
    Injector.ofConfig config = .ok integration.injector ∧
      integration.exposure = { imports := integration.injector.imports } := by
  simp only [Integration.ofConfig, bind_ok, pure_ok]
  constructor
  · rintro ⟨injector, hinjector, rfl⟩
    exact ⟨hinjector, rfl⟩
  · rintro ⟨hinjector, hexposure⟩
    exact ⟨_, hinjector, by rw [← hexposure]⟩

theorem script_isSome_iff (h : Integration.ofConfig config = .ok integration) :
    integration.exposure.script.isSome = true ↔ config.imports ≠ [] := by
  obtain ⟨hinjector, hexposure⟩ := ofConfig_integration.mp h
  rw [Ne, ← importNames_nil_iff (imports_made hinjector), hexposure]
  unfold Exposure.script Exposure.names
  split <;> simp_all

-- ---------------------------------------------------------------------------
-- Setup
-- ---------------------------------------------------------------------------

/-- A transform that puts imports into every document with module code, and nothing into others. -/
structure Transform.PutsImports (transform : Transform) : Prop where
  mdx : ∀ span children, ∃ front, front ≠ [] ∧
    (transform .mdx (.mk .root span children)).tree = .mk .root span (front ++ children) ∧
    (transform .mdx (.mk .root span children)).injection.imports = true ∧
    (transform .mdx (.mk .root span children)).injection.count = front.length
  markdown : ∀ tree, (transform .markdown tree).tree = tree ∧
    (transform .markdown tree).injection = {}

theorem transform_putsImports (h : injector.importCode.isSome = true) :
    injector.transform.PutsImports where
  mdx span children := by
    obtain ⟨code, hcode⟩ := Option.isSome_iff_exists.mp h
    obtain ⟨outcome, htree, hcount⟩ := injector.inject_codes span children
    refine ⟨(injector.codes outcome).map GeneratedCode.node, ?_, htree, h, ?_⟩
    · simp [Injector.codes, hcode]
    · rw [List.length_map]
      exact hcount.symm
  markdown _ := ⟨rfl, rfl⟩

theorem setup_transform (h : Integration.ofConfig config = .ok integration)
    (integrations : List String) : (integration.setup integrations).transform =
      if MdxSupport.ofOrder integrations = .enabled ∧ config.isEmpty = false then
        some integration.injector.transform else none := by
  obtain ⟨hinjector, -⟩ := ofConfig_integration.mp h
  have hsame : integration.injector.isIdle = config.isEmpty :=
    Bool.eq_iff_iff.mpr (isIdle_iff hinjector)
  simp [Integration.setup, MdxSupport.injects, hsame]

/-- For every order of integrations, setup asks for the transform of the injector exactly where the
order lets documents with module code be injected into and the configuration is not empty, and for
the script of the exposure exactly where something is imported. The transform then puts imports
into every such document. -/
theorem setup_exact (h : Integration.ofConfig config = .ok integration)
    (integrations : List String) :
    (integration.injector.isIdle = true ↔ config.isEmpty = true) ∧
    (integration.setup integrations).transform =
      (if MdxSupport.ofOrder integrations = .enabled ∧ config.isEmpty = false then
        some integration.injector.transform else none) ∧
    (integration.setup integrations).script =
      integration.exposure.script.map (fun script => (.page, script)) ∧
    ((integration.setup integrations).script.isSome = true ↔ config.imports ≠ []) ∧
    ∀ transform ∈ (integration.setup integrations).transform, transform.PutsImports := by
  obtain ⟨hinjector, -⟩ := ofConfig_integration.mp h
  have htransform := setup_transform h integrations
  refine ⟨isIdle_iff hinjector, htransform, rfl, ?_, ?_⟩
  · rw [← script_isSome_iff h]
    exact Bool.eq_iff_iff.mp Option.isSome_map
  · intro transform hmem
    rw [htransform] at hmem
    split at hmem
    · rename_i hneeded
      obtain rfl := Option.some.inj hmem
      refine transform_putsImports ((importCode_isSome_iff hinjector).mpr fun hnil => ?_)
      simp [isEmpty_iff.mpr hnil] at hneeded
    · cases hmem

/-- Overrides alone ask for a transform and no script. -/
theorem setup_exact_overrides :
    let config : Config := { overrides := [⟨"a", .default "./A.js"⟩], root := "/site" }
    ∃ integration, Integration.ofConfig config = .ok integration ∧
      (integration.setup [ownIntegration, mdxIntegration]).transform =
        some integration.injector.transform ∧
      integration.injector.transform.PutsImports ∧
      (integration.setup [mdxIntegration, ownIntegration]).transform = none ∧
      (integration.setup [ownIntegration, mdxIntegration]).script.isSome = false := by
  intro config
  have ha : config.Accepted := fun entry hentry => (List.not_mem_nil hentry).elim
  obtain ⟨injector, hi⟩ : ∃ injector, Injector.ofConfig config = .ok injector :=
    ⟨_, ofConfig_ok ha (readable_of_ascii (by decide))⟩
  have h : Integration.ofConfig config = .ok ⟨injector, { imports := injector.imports }⟩ :=
    ofConfig_integration.mpr ⟨hi, rfl⟩
  obtain ⟨-, htransform, -, hscript, hputs⟩ :=
    setup_exact h [ownIntegration, mdxIntegration]
  obtain ⟨-, hlate, -⟩ := setup_exact h [mdxIntegration, ownIntegration]
  have hneeded : MdxSupport.ofOrder [ownIntegration, mdxIntegration] = .enabled ∧
      config.isEmpty = false := by decide
  have hmisordered : MdxSupport.ofOrder [mdxIntegration, ownIntegration] = .misordered := by decide
  rw [if_pos hneeded] at htransform
  refine ⟨_, h, htransform, hputs _ htransform, ?_, ?_⟩
  · simpa [hmisordered] using hlate
  · simpa using hscript.not.mpr (by simp [config])

end PagePrelude
