import PagePrelude.Proofs.OverrideWiring
import PagePrelude.Proofs.Setups

/-!
# The imports of validated options

Validation looks at the values of options, generation at the entries made of them. What the first
promises is enough for the second: every entry can be written, on one line (`imports_written`).
No check looks at the prefix of the names under which components are imported. Such a name is free
as long as no entry binds it (`overrides_apart`).
-/

namespace PagePrelude

open Identifier (isIdentifier)

-- ---------------------------------------------------------------------------
-- Lines of imports
-- ---------------------------------------------------------------------------

section
variable {options : Options} {root : String} {config : Config}

/-- The imports of validated options can always be written: one line for every entry, none of them
blank, and one identifier for every name that an entry binds. -/
theorem imports_written (h : Config.ofOptions options root = .ok config) :
    ∃ imports statements, ImportFragment.ofConfig config = .ok imports ∧
      List.Forall₂ (fun entry statement =>
        ImportStatement.ofEntry config.root entry = .ok statement) config.imports statements ∧
      (imports.fragment.text = "" ↔ config.imports = []) ∧
      imports.fragment.lines = statements.map ImportStatement.text ∧
      (∀ line ∈ imports.fragment.lines, Text.isBlank line = false) ∧
      imports.names = statements.flatMap ImportStatement.names ∧
      (∀ name ∈ imports.names, isIdentifier name = true) ∧
      (imports.names = [] ↔ config.imports = []) := by
  -- All that generation checks again, validation has checked of the entries.
  have ha : config.Accepted := Config.ofOptions_accepted h
  have hmade := importFragment_accepted ha
  have hproper : ∀ statement ∈ config.imports.map (ImportEntry.statement config.root),
      statement.clause.Proper := by
    intro statement hstatement
    obtain ⟨entry, hentry, rfl⟩ := List.mem_map.mp hstatement
    exact clause_proper (ha entry hentry)
  have hlines : config.importFragment.fragment.lines = _ := lines_statements .imports hproper
  refine ⟨config.importFragment, _, hmade, ?_, ?_, hlines, ?_, rfl, ?_, importNames_nil_iff hmade⟩
  · rw [List.forall₂_map_right_iff, List.forall₂_same]
    exact fun entry hentry => ofEntry_accepted (ha entry hentry) config.root
  · constructor
    · intro hempty
      rw [Fragment.lines, if_pos hempty, eq_comm, List.map_map, List.map_eq_nil_iff] at hlines
      exact hlines
    · intro hnil
      simp [Config.importFragment, Fragment.ofStatements, hnil]
  · rw [hlines]
    exact importTexts_not_blank
  · intro name hname
    obtain ⟨statement, hstatement, hbound⟩ := List.mem_flatMap.mp hname
    exact (hproper statement hstatement).1 name hbound

/-- Line endings in a path and in the name of an export do not break a line. -/
theorem imports_written_breaks :
    let options : Options := {
      imports := [.object [("./a\nb.js", .array [.array [.string "x\ny", .string "from"],
        .string "z"])], .string "./\n/Card.js"] }
    let config : Config := {
      imports := [.named "./a\nb.js" [⟨"x\ny", "from"⟩, ⟨"z", "z"⟩], .default "./\n/Card.js"]
      root := "/site" }
    Config.ofOptions options "/site" = .ok config ∧
      ∃ imports, ImportFragment.ofConfig config = .ok imports ∧
        imports.fragment.lines.length = 2 := by
  intro options config
  have h : Config.ofOptions options "/site" = .ok config := rfl
  obtain ⟨imports, statements, himports, hstatements, -, hlines, -⟩ := imports_written h
  refine ⟨h, imports, himports, ?_⟩
  rw [hlines, List.length_map, ← hstatements.length_eq]
  rfl

-- ---------------------------------------------------------------------------
-- Names of entries and of overrides
-- ---------------------------------------------------------------------------

/-- The imports among some items that bind a name. -/
def Module.importsOf (name : String) (items : List Module.Item) : List Module.Item :=
  items.filter fun item => item.importedNames.contains name

theorem filter_mapIdx {f : Nat → α → β} {p : β → Bool} {list : List α} {index : Nat} {a : α}
    (h : list[index]? = some a) (ha : p (f index a) = true)
    (hother : ∀ position b, position ≠ index → p (f position b) = false) :
    (list.mapIdx f).filter p = [f index a] := by
  induction list generalizing f index with
  | nil => cases h
  | cons b list ih =>
    rw [List.mapIdx_cons]
    cases index with
    | zero =>
      obtain rfl : b = a := by simpa using h
      rw [List.filter_cons_of_pos ha, List.filter_eq_nil_iff.mpr]
      intro c hc
      obtain ⟨position, hlt, rfl⟩ := List.mem_mapIdx.mp hc
      simp [hother]
    | succ index =>
      rw [List.filter_cons_of_neg (by simp [hother])]
      -- All positions are one less in the rest of the list.
      refine ih (by simpa using h) ha fun position b hne => hother _ b ?_
      exact fun heq => hne (Nat.succ.inj heq)

theorem importsOf_overrides {index : Nat} {override : Override}
    (h : config.overrides[index]? = some override) :
    Module.importsOf (override.bound index)
        ((config.overrides.mapIdx (Override.statement config.root)).map ImportStatement.item) =
      [(override.statement config.root index).item] := by
  have hbinds (position : Nat) (other : Override) :
      (other.statement config.root position).item.importedNames = [other.bound position] := by
    rw [ImportStatement.importedNames_item, names_override]
  rw [Module.importsOf, List.filter_map, filter_mapIdx h, List.map_singleton]
  · simp [hbinds]
  · intro position other hne
    have hbound : override.bound index ≠ other.bound position :=
      fun heq => hne (Override.bound_index heq).symm
    simp [hbinds, hbound]

theorem importsOf_eq_nil {statements : List ImportStatement} {name : String} :
    Module.importsOf name (statements.map ImportStatement.item) = [] ↔
      name ∉ statements.flatMap ImportStatement.names := by
  simp [Module.importsOf, ImportStatement.importedNames_item]

theorem bound_begins (index : Nat) (override : Override) :
    "__AutoImportComponent".toList <+: (override.bound index).toList := by
  rw [Override.toList_bound]
  exact List.prefix_append _ _

/-- No entry of validated options binds the name of an override if none binds a name with the prefix
of those names. Every property of the exported object refers to the name of its override. The import
of the override binds this name after the entries that bind it, and alone exactly if there are none.
-/
theorem overrides_apart (h : Config.ofOptions options root = .ok config) :
    ∃ imports, ImportFragment.ofConfig config = .ok imports ∧
      ((∀ name ∈ imports.names, ¬"__AutoImportComponent".toList <+: name.toList) →
        ∀ (index : Nat) (override : Override), config.overrides[index]? = some override →
          override.bound index ∉ imports.names) ∧
      ∀ injector, Injector.ofConfig config = .ok injector →
        (∀ code ∈ injector.exportCode, ∃ object,
          Module.read code.text =
              .ok [.exportDeclaration (.bindings "const" [(.name componentsExport, object)])] ∧
            object.references? = some (config.overrides.mapIdx fun index override =>
              (override.element, override.bound index))) ∧
        ∀ code ∈ injector.importCode, ∃ items entries, Module.read code.text = .ok items ∧
          config.imports.mapM (ImportStatement.ofEntry config.root) = .ok entries ∧
          ∀ (index : Nat) (override : Override), config.overrides[index]? = some override →
            Module.importsOf (override.bound index) items =
                Module.importsOf (override.bound index) (entries.map ImportStatement.item) ++
                  [(override.statement config.root index).item] ∧
              (Module.importsOf (override.bound index) (entries.map ImportStatement.item) = [] ↔
                override.bound index ∉ imports.names) := by
  have ha : config.Accepted := Config.ofOptions_accepted h
  refine ⟨config.importFragment, importFragment_accepted ha, ?_, fun injector hi => ⟨?_, ?_⟩⟩
  · intro hfree index override _ hmem
    exact hfree _ hmem (bound_begins index override)
  · intro code hcode
    obtain ⟨hmade, hwords⟩ := exportCode_made hi
    obtain ⟨hne, rfl⟩ := mem_exportCode.mp (hmade ▸ hcode)
    exact (allExported_exportText hne).reads (bareElements_readable.mp hwords)
  · intro code hcode
    have hn : ReadableNames config.chosenNames := readable_of_made ha hi
    rw [ofConfig_ok ha hn] at hi
    cases hi
    obtain ⟨hne, rfl⟩ := mem_importCode.mp hcode
    refine ⟨_, _, read_imports ha hne ((Config.statements_words ha).mpr hn).1,
      mapM_eq fun entry hentry => ofEntry_accepted (ha entry hentry) config.root, ?_⟩
    intro index override hoverride
    refine ⟨?_, importsOf_eq_nil⟩
    rw [Config.statements, List.map_append, Module.importsOf, List.filter_append]
    exact congrArg _ (importsOf_overrides hoverride)

/-- An entry may bind a name with the prefix that no override has. -/
theorem overrides_apart_prefixed :
    let options : Options := {
      imports := [.object [("pkg", .string "__AutoImportComponent0_b")]]
      components := [("a", .string "./A.js"), ("b", .string "./B.js")] }
    let config : Config := {
      imports := [.whole "pkg" "__AutoImportComponent0_b"]
      overrides := [⟨"a", .default "./A.js"⟩, ⟨"b", .default "./B.js"⟩]
      root := "/site" }
    Config.ofOptions options "/site" = .ok config ∧
      ∃ injector code items, Injector.ofConfig config = .ok injector ∧
        injector.importCode = some code ∧ Module.read code.text = .ok items ∧
        Module.importsOf "__AutoImportComponent1_b" items =
          [(Override.statement "/site" 1 ⟨"b", .default "./B.js"⟩).item] := by
  intro options config
  have h : Config.ofOptions options "/site" = .ok config := rfl
  have hi := ofConfig_ok (Config.ofOptions_accepted h) (readable_of_ascii (by decide))
  obtain ⟨imports, himports, -, hinjector⟩ := overrides_apart h
  obtain ⟨-, hcode⟩ := hinjector _ hi
  have hsome := mem_importCode.mpr ⟨show config.statements ≠ [] by decide, rfl⟩
  obtain ⟨items, entries, hread, -, hbinders⟩ := hcode _ hsome
  obtain ⟨hown, hiff⟩ := hbinders 1 ⟨"b", .default "./B.js"⟩ rfl
  have hfree : Override.bound 1 ⟨"b", .default "./B.js"⟩ ∉ imports.names := by
    obtain rfl := importFragment_eq himports
    decide
  rw [hiff.mpr hfree] at hown
  exact ⟨h, _, _, items, hi, hsome, hread, hown⟩

/-- Nothing keeps an entry from binding the name of an override. -/
theorem overrides_apart_taken :
    let options : Options := {
      imports := [.object [("pkg", .string "__AutoImportComponent0_a")]]
      components := [("a", .string "./A.js")] }
    let config : Config := {
      imports := [.whole "pkg" "__AutoImportComponent0_a"]
      overrides := [⟨"a", .default "./A.js"⟩]
      root := "/site" }
    Config.ofOptions options "/site" = .ok config ∧
      (∃ injector, Injector.ofConfig config = .ok injector) ∧
      ∃ imports, ImportFragment.ofConfig config = .ok imports ∧
        ∃ override, config.overrides[0]? = some override ∧ override.bound 0 ∈ imports.names := by
  intro options config
  have h : Config.ofOptions options "/site" = .ok config := rfl
  have ha : config.Accepted := Config.ofOptions_accepted h
  exact ⟨h, ⟨_, ofConfig_ok ha (readable_of_ascii (by decide))⟩, _, importFragment_accepted ha,
    _, rfl, by decide⟩

end

end PagePrelude
