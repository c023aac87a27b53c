import PagePrelude.Integration
import PagePrelude.Proofs.GeneratedCode
import PagePrelude.Proofs.Module.ExportedNames

/-!
# The round trip of generated code

What the library writes, module code reads back: `round_trip` for names in ASCII.
Beyond ASCII an identifier need not be a word. Such a name passes validation and its
code is refused as a fault of the library itself, which `internal_error_iff` describes
exactly.
-/

namespace PagePrelude

open Identifier (isIdentifier)

-- ---------------------------------------------------------------------------
-- The bindings of generated code
-- ---------------------------------------------------------------------------

section
variable {config : Config}

theorem names_override (root : String) (index : Nat) (override : Override) :
    (override.statement root index).names = [override.bound index] := by
  unfold Override.statement ImportStatement.names
  cases override.component <;> rfl

/-- The statements bind the names of the entries, then those of the overrides. -/
theorem names_statements (config : Config) :
    config.statements.flatMap ImportStatement.names =
      config.importFragment.names ++ config.overrides.mapIdx Override.bound := by
  have hoverrides (overrides : List Override) (start : Nat) :
      ((overrides.zipIdx start).map fun (o, i) => Override.statement config.root i o).flatMap
        ImportStatement.names = (overrides.zipIdx start).map fun (o, i) => o.bound i := by
    induction overrides generalizing start with
    | nil => rfl
    | cons override overrides ih =>
      simp only [List.zipIdx_cons, List.map_cons, List.flatMap_cons, names_override, ih,
        List.singleton_append]
  rw [Config.statements, List.flatMap_append, Config.importFragment, List.mapIdx_eq_zipIdx_map,
    List.mapIdx_eq_zipIdx_map]
  exact congrArg _ (hoverrides config.overrides 0)

theorem statements_ne_nil :
    config.statements ≠ [] ↔ config.imports ≠ [] ∨ config.overrides ≠ [] := by
  rw [Ne, Config.statements, List.append_eq_nil_iff, List.map_eq_nil_iff, List.mapIdx_eq_nil_iff,
    Decidable.not_and_iff_not_or_not]

theorem readable_of_ascii {names : List String} (h : ∀ name ∈ names, Module.isAscii name = true) :
    ReadableNames names :=
  fun name hn hi => Module.isWord_of_isIdentifier (h name hn) hi

theorem exports_export {overrides : List Override} (hne : overrides ≠ [])
    (hw : Module.AllWords (Module.bareElements overrides)) (name : String) :
    Module.exports (Module.exportText overrides) name = (name == componentsExport, []) := by
  have hitem : (OverrideFragments.item overrides).exports name = (name == componentsExport) := by
    simp only [OverrideFragments.item, Module.Item.exports, Module.Declaration.binds,
      List.any_cons, List.any_nil, Module.Pattern.binds, Bool.or_false]
    exact Bool.beq_comm
  simp [Module.exports_of_read (Module.read_export hne hw), hitem]

end

/-- A configuration that validation accepts, with names in ASCII, has an injector. Its imports bind
the names of the entries and of the overrides in order; its export binds nothing and exports
`components` and no other name. -/
theorem round_trip {options : Options} {root : String} {config : Config}
    (h : Config.ofOptions options root = .ok config)
    (ha : ∀ name ∈ config.chosenNames, Module.isAscii name = true) :
    ∃ injector imports, Injector.ofConfig config = .ok injector ∧
      ImportFragment.ofConfig config = .ok imports ∧
      (injector.importCode.isSome = true ↔ config.imports ≠ [] ∨ config.overrides ≠ []) ∧
      (∀ code ∈ injector.importCode, ∃ items, Module.read code.text = .ok items ∧
        code.names = Module.importedNames items ∧
        code.names = imports.names ++ config.overrides.mapIdx Override.bound) ∧
      (injector.exportCode.isSome = true ↔ config.overrides ≠ []) ∧
      ∀ code ∈ injector.exportCode, code.names = [] ∧
        ∀ name, Module.exports code.text name = (name == componentsExport, []) := by
  have haccepted : config.Accepted := Config.ofOptions_accepted h
  have hreadable := readable_of_ascii ha
  obtain ⟨hstatements, helements⟩ := (Config.statements_words haccepted).mpr hreadable
  refine ⟨_, _, ofConfig_ok haccepted hreadable, importFragment_accepted haccepted, ?_, ?_, ?_, ?_⟩
  · rw [← statements_ne_nil]
    simp [Config.importCode]
  · intro code hcode
    obtain ⟨hne, rfl⟩ := mem_importCode.mp hcode
    have hread := read_imports haccepted hne hstatements
    exact ⟨_, hread, (importedNames_items _).symm, names_statements config⟩
  · simp [Config.exportCode]
  · intro code hcode
    obtain ⟨hne, rfl⟩ := mem_exportCode.mp hcode
    exact ⟨rfl, exports_export hne helements⟩

/-- Every form of entry and of override, with names that are also words of the grammar. -/
theorem round_trip_forms :
    let options : Options := {
      imports := [.string "./lib/formatDate.ts",
        .object [("pkg", .array [.string "as", .array [.string "a-b", .string "from"]]),
          ("./né \"é\".js", .string "type")]]
      components := [("a", .string "./A.astro"),
        ("my-el", .object [("name", .string "default"), ("from", .string "./B.js")])] }
    let config : Config := {
      imports := [.default "./lib/formatDate.ts", .named "pkg" [⟨"as", "as"⟩, ⟨"a-b", "from"⟩],
        .whole "./né \"é\".js" "type"]
      overrides := [⟨"a", .default "./A.astro"⟩, ⟨"my-el", .named "default" "./B.js"⟩]
      root := "/site" }
    Config.ofOptions options "/site" = .ok config ∧
      (∀ name ∈ config.chosenNames, Module.isAscii name = true) ∧
      ∃ injector, Injector.ofConfig config = .ok injector ∧ injector.exportCode.isSome = true := by
  intro options config
  have hoptions : Config.ofOptions options "/site" = .ok config := rfl
  have hascii : ∀ name ∈ config.chosenNames, Module.isAscii name = true := by decide
  obtain ⟨injector, _, hinjector, -, -, -, hexport, -⟩ := round_trip hoptions hascii
  exact ⟨hoptions, hascii, injector, hinjector, hexport.mpr (by decide)⟩

-- ---------------------------------------------------------------------------
-- Names that are no words
-- ---------------------------------------------------------------------------

/-- Whether validation accepts options with an identifier that module code reads as no word. -/
def Options.Unreadable (options : Options) (root : String) : Prop :=
  ∃ config, Config.ofOptions options root = .ok config ∧
    ∃ name ∈ config.chosenNames, isIdentifier name = true ∧ Module.isWord name = false

section
variable {options : Options} {root : String} {e : Error}

theorem unreadable_iff {config : Config} (h : Config.ofOptions options root = .ok config) :
    options.Unreadable root ↔ ¬ReadableNames config.chosenNames := by
  simp only [Options.Unreadable, ReadableNames, h, Except.ok.injEq, exists_eq_left',
    Classical.not_forall, Bool.not_eq_true, exists_prop]

theorem integration_error (config : Config) :
    Integration.ofConfig config = .error e ↔ Injector.ofConfig config = .error e := by
  simp only [Integration.ofConfig, bind_error, pure_error, and_false, exists_false, or_false]

/-- An injector of validated options is refused with a mistake of the configuration, or with a fault
of the library where an identifier is no word. -/
theorem injector_error (h : (Config.ofOptions options root >>= Injector.ofConfig) = .error e) :
    (e.isConfigError = true ∧ ¬options.Unreadable root) ∨
      ((∃ kind words text, e = .fragment kind words text) ∧ options.Unreadable root) := by
  rcases bind_error.mp h with hoptions | ⟨config, hoptions, hconfig⟩
  · left
    refine ⟨Config.ofOptions_error hoptions, ?_⟩
    rintro ⟨config, hok, -⟩
    rw [hok] at hoptions
    cases hoptions
  · have ha : config.Accepted := Config.ofOptions_accepted hoptions
    by_cases hn : ReadableNames config.chosenNames
    · rw [ofConfig_ok ha hn] at hconfig
      cases hconfig
    · obtain ⟨kind, words, text, hfails⟩ := ofConfig_fails ha hn
      rw [hfails] at hconfig
      cases hconfig
      exact .inr ⟨⟨kind, words, text, rfl⟩, (unreadable_iff hoptions).mpr hn⟩

theorem injector_fails (h : options.Unreadable root) :
    ∃ kind words text, (Config.ofOptions options root >>= Injector.ofConfig) =
      .error (.fragment kind words text) := by
  obtain ⟨config, hoptions, -⟩ := id h
  obtain ⟨kind, words, text, hfails⟩ :=
    ofConfig_fails (Config.ofOptions_accepted hoptions) ((unreadable_iff hoptions).mp h)
  exact ⟨kind, words, text, bind_error.mpr (.inr ⟨config, hoptions, hfails⟩)⟩

end

/-- Options fail with an error that is no mistake of the configuration exactly where validation
accepts an identifier that is no word, for an injector as for an integration. The error is then a
fragment that cannot be read. -/
theorem internal_error_iff (options : Options) (root : String) :
    ((∃ e, (Config.ofOptions options root >>= Injector.ofConfig) = .error e ∧
        e.isConfigError = false) ↔ options.Unreadable root) ∧
      ((∃ e, (Config.ofOptions options root >>= Integration.ofConfig) = .error e ∧
        e.isConfigError = false) ↔ options.Unreadable root) ∧
      ∀ e, (Config.ofOptions options root >>= Injector.ofConfig) = .error e →
        e.isConfigError = false → ∃ kind words text, e = .fragment kind words text := by
  have hsame (e : Error) : (Config.ofOptions options root >>= Integration.ofConfig) = .error e ↔
      (Config.ofOptions options root >>= Injector.ofConfig) = .error e := by
    simp only [bind_error, integration_error]
  have hiff : (∃ e, (Config.ofOptions options root >>= Injector.ofConfig) = .error e ∧
      e.isConfigError = false) ↔ options.Unreadable root := by
    constructor
    · rintro ⟨e, he, hfault⟩
      rcases injector_error he with ⟨hconfig, -⟩ | ⟨-, hunreadable⟩
      · rw [hconfig] at hfault
        cases hfault
      · exact hunreadable
    · intro h
      obtain ⟨kind, words, text, hfails⟩ := injector_fails h
      exact ⟨_, hfails, rfl⟩
  refine ⟨hiff, by simpa only [hsame] using hiff, fun e he hfault => ?_⟩
  rcases injector_error he with ⟨hconfig, -⟩ | ⟨hfragment, -⟩
  · rw [hconfig] at hfault
    cases hfault
  · exact hfragment

/-- A circled letter is alphabetic and belongs to no word. As an alias it passes validation, and the
error is no mistake of the configuration. -/
theorem unreadable_alias :
    let options : Options := { imports := [.object [("pkg", .string "Ⓐ")]], components := [] }
    options.Unreadable "/site" ∧
      ∃ e, (Config.ofOptions options "/site" >>= Injector.ofConfig) = .error e ∧
        e.isConfigError = false := by
  intro options
  have hcheck : Identifier.check "Ⓐ" "pkg" = .ok () := if_pos (by decide +kernel)
  have haccepted : Config.ofOptions options "/site" =
      .ok { imports := [.whole "pkg" "Ⓐ"], overrides := [], root := "/site" } := by
    simp only [options, Config.ofOptions, Config.entriesOf, Config.entryOf, List.mapM_cons,
      List.mapM_nil, hcheck, ok_bind]
    rfl
  have hunreadable : options.Unreadable "/site" := ⟨_, haccepted, "Ⓐ", by decide +kernel⟩
  obtain ⟨kind, words, text, hfails⟩ := injector_fails hunreadable
  exact ⟨hunreadable, _, hfails, rfl⟩

end PagePrelude
