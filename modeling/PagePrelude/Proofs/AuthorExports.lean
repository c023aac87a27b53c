import PagePrelude.Proofs.RoundTrip

/-!
# Exports of the author

Whether the generated export is put into a document depends on what the module code at
its top level exports (`overrides_injected_iff`). Imports and declarations that are not
exported do not count, whatever they bind.
-/

namespace PagePrelude

namespace Node

/-- The texts that are searched for an export: every piece of module code at the top level and,
where there are several, all of them together. -/
def scanned (tree : Node) : List String :=
  tree.topCode ++ if tree.topCode.length ≤ 1 then [] else ["\n\n".intercalate tree.topCode]

section
variable (reader : Module.Reader)

theorem someExports_cons (name code : String) (pieces : List String) :
    someExports name (code :: pieces) reader =
      match Module.exports code name reader with
      | (true, notices) => (true, notices)
      | (false, notices) =>
        let (found, later) := someExports name pieces reader
        (found, notices ++ later) := by
  rfl

theorem someExports_iff (name : String) (pieces : List String) :
    (someExports name pieces reader).1 = true ↔
      ∃ code ∈ pieces, (Module.exports code name reader).1 = true := by
  induction pieces with
  | nil =>
    constructor
    · intro h
      cases h
    · rintro ⟨_, ⟨⟩, -⟩
  | cons code pieces ih =>
    rw [someExports_cons]
    rcases hfound : Module.exports code name reader with ⟨_ | _, notices⟩ <;> simp [hfound, ih]

theorem exports_scanned (tree : Node) (name : String) : (tree.exports name reader).1 = true ↔
    ∃ code ∈ tree.scanned, (Module.exports code name reader).1 = true := by
  have hsome := someExports_iff reader name tree.topCode
  rcases hfound : someExports name tree.topCode reader with ⟨_ | _, notices⟩
  · rw [hfound] at hsome
    by_cases hlength : tree.topCode.length ≤ 1
    · simpa [exports, scanned, hfound, hlength] using hsome
    · have hnone : ¬∃ code ∈ tree.topCode, (Module.exports code name reader).1 = true := by
        simpa using hsome
      simp only [exports, scanned, hfound, hlength, if_false, List.mem_append, List.mem_singleton]
      constructor
      · exact fun h => ⟨_, .inr rfl, h⟩
      · rintro ⟨code, hcode | rfl, h⟩
        · exact absurd ⟨code, hcode, h⟩ hnone
        · exact h
  · rw [hfound] at hsome
    obtain ⟨code, hcode, h⟩ := hsome.mp rfl
    simp only [exports, hfound, true_iff]
    exact ⟨code, List.mem_append_left _ hcode, h⟩

end

end Node

namespace Injector

section
variable {injector : Injector} {span : Option Span} {children : List Node}
  {reader : Module.Reader}

theorem overrides_injected_iff (hc : injector.exportCode.isSome = true) :
    (injector.inject (.mk .root span children) reader).injection.overrides = .injected ↔
      ¬∃ code ∈ (Node.mk .root span children).scanned,
        (Module.exports code componentsExport reader).1 = true := by
  obtain ⟨code, hcode⟩ := Option.isSome_iff_exists.mp hc
  rw [← Node.exports_scanned]
  cases hauthored : ((Node.mk .root span children).exports componentsExport reader).1 <;>
    simp [inject, authored, outcome, hcode, hauthored]

theorem topCode_injected
    (h : (injector.inject (.mk .root span children) reader).injection.overrides = .injected) :
    (injector.inject (.mk .root span children) reader).tree.topCode =
      (injector.importCode.toList ++ injector.exportCode.toList).map GeneratedCode.text ++
        (Node.mk .root span children).topCode := by
  simp only [inject] at h ⊢
  simp only [Node.topCode, Node.children, nodes, h, if_true, List.filterMap_append,
    List.filterMap_map]
  congr 1
  rw [← List.filterMap_eq_map, List.filterMap_append]
  rfl

theorem exports_same {code : String} (h : reader code = Module.read code) (name : String) :
    Module.exports code name reader = Module.exports code name := by
  delta Module.exports
  rw [h]

/-- Of the code that validated options put into a document, only the export exports the
overrides. -/
theorem generated_exports {options : Options} {root : String} {config : Config}
    (ho : Config.ofOptions options root = .ok config)
    (hi : Injector.ofConfig config = .ok injector) {code : GeneratedCode}
    (hcode : code ∈ injector.importCode.toList ++ injector.exportCode.toList) :
    (Module.exports code.text componentsExport).1 = true ↔ code ∈ injector.exportCode := by
  have ha : config.Accepted := Config.ofOptions_accepted ho
  have hn : ReadableNames config.chosenNames := by
    refine Classical.byContradiction fun hn => ?_
    obtain ⟨_, _, _, hfails⟩ := ofConfig_fails ha hn
    rw [hfails] at hi
    cases hi
  obtain ⟨hstatements, helements⟩ := (Config.statements_words ha).mpr hn
  rw [ofConfig_ok ha hn] at hi
  cases hi
  rcases List.mem_append.mp hcode with himport | hexport
  · obtain ⟨hne, rfl⟩ := mem_importCode.mp (by simpa using himport)
    have hread := read_imports ha hne hstatements
    refine iff_of_false ?_ fun hexport => ?_
    · simp [Module.exports_of_read hread, ImportStatement.item, Module.Item.exports]
    · obtain ⟨-, h⟩ := mem_exportCode.mp hexport
      cases h
  · have hexport : code ∈ config.exportCode := by simpa using hexport
    refine iff_of_true ?_ hexport
    obtain ⟨hne, rfl⟩ := mem_exportCode.mp hexport
    rw [exports_export hne helements]
    rfl

/-- Whatever reads the author's code: where the generated export is put into a document, no module
code at its top level exports the overrides outside default values. Of validated options, the
generated export is then the only such code, if generated code is read as it was checked. Where no
module code at the top level exports the overrides at all, the export is put in. -/
theorem injected_exports (reader : Module.Reader) (hc : injector.exportCode.isSome = true) :
    ((injector.inject (.mk .root span children) reader).injection.overrides = .injected →
      (∀ code ∈ (Node.mk .root span children).scanned, ∀ items, reader code = .ok items →
        ∀ item ∈ items, ¬item.Exports componentsExport false) ∧
      ∀ options root config, Config.ofOptions options root = .ok config →
        Injector.ofConfig config = .ok injector →
        (∀ code ∈ injector.importCode.toList ++ injector.exportCode.toList,
          reader code.text = Module.read code.text) →
        ∀ code ∈ (injector.inject (.mk .root span children) reader).tree.topCode,
          (Module.exports code componentsExport reader).1 = true ↔
            ∃ generated ∈ injector.exportCode, code = generated.text) ∧
    ((∀ code ∈ (Node.mk .root span children).scanned, ∀ items, reader code = .ok items →
        ∀ item ∈ items, ∀ defaulted, ¬item.Exports componentsExport defaulted) →
      (injector.inject (.mk .root span children) reader).injection.overrides = .injected) := by
  have hname : componentsExport ≠ "default" := by decide
  refine ⟨fun h => ⟨?_, ?_⟩, fun h => ?_⟩
  · intro code hcode items hread item hitem he
    refine (overrides_injected_iff hc).mp h ⟨code, hcode, ?_⟩
    exact (Module.exports_read_iff hname hread).mpr ⟨item, hitem, he⟩
  · intro options root config ho hi hsame code hcode
    have hgenerated {generated : GeneratedCode}
        (hmem : generated ∈ injector.importCode.toList ++ injector.exportCode.toList) :
        (Module.exports generated.text componentsExport reader).1 = true ↔
          generated ∈ injector.exportCode := by
      rw [exports_same (hsame generated hmem)]
      exact generated_exports ho hi hmem
    rw [topCode_injected h, List.mem_append] at hcode
    constructor
    · intro hfound
      rcases hcode with hmade | hauthor
      · obtain ⟨generated, hmem, rfl⟩ := List.mem_map.mp hmade
        exact ⟨generated, (hgenerated hmem).mp hfound, rfl⟩
      · exact absurd ⟨code, List.mem_append_left _ hauthor, hfound⟩
          ((overrides_injected_iff hc).mp h)
    · rintro ⟨generated, hmem, rfl⟩
      exact (hgenerated (List.mem_append_right _ (by simpa using hmem))).mpr hmem
  · refine (overrides_injected_iff hc).mpr ?_
    rintro ⟨code, hcode, hfound⟩
    cases hread : reader code with
    | ok items =>
      obtain ⟨item, hitem, he⟩ := (Module.exports_read_iff hname hread).mp hfound
      exact h code hcode items hread item hitem false he
    | error problems =>
      rw [Module.exports_of_error hread] at hfound
      cases hfound

/-- A declaration that is not exported stands beside the generated export. -/
theorem injected_beside_declaration :
    let injector : Injector :=
      { idle with exportCode := some ⟨.exports, [], "export const components = 1;"⟩ }
    injector.exportCode.isSome = true ∧ (injector.inject
      (.mk .root none [.ofCode "const components = 2;"])).injection.overrides = .injected := by
  intro injector
  refine ⟨rfl, (injected_exports Module.read rfl).2
    fun code hcode items hread item hitem defaulted he => ?_⟩
  have hscanned : (Node.mk .root none [.ofCode "const components = 2;"]).scanned =
      ["const components = 2;"] := rfl
  have hitems : Module.read "const components = 2;" =
      .ok [.declaration (.bindings "const" [(.name "components", .number "2")])] := rfl
  rw [hscanned, List.mem_singleton] at hcode
  rw [hcode, hitems] at hread
  cases hread
  rw [List.mem_singleton] at hitem
  subst hitem
  cases he

/-- An import of the name does not keep the generated export out. -/
theorem injected_beside_import : ∃ injector items,
    Injector.ofConfig { overrides := [⟨"a", .default "./A.js"⟩], root := "/site" } = .ok injector ∧
      Module.read "import components from \"./c.js\";" = .ok items ∧
      componentsExport ∈ Module.importedNames items ∧
      (injector.inject (.mk .root none
        [.ofCode "import components from \"./c.js\";"])).injection.overrides = .injected := by
  let config : Config := { overrides := [⟨"a", .default "./A.js"⟩], root := "/site" }
  have haccepted : config.Accepted := fun entry hentry => (List.not_mem_nil hentry).elim
  have hconfig := ofConfig_ok haccepted (readable_of_ascii (by decide))
  have hread : Module.read "import components from \"./c.js\";" =
      .ok [.imports (some [.default "components"]) ⟨"./c.js", "\"./c.js\""⟩ .absent] := rfl
  refine ⟨_, _, hconfig, hread, by decide, (overrides_injected_iff rfl).mpr ?_⟩
  rintro ⟨code, hcode, hfound⟩
  have hscanned : (Node.mk .root none [.ofCode "import components from \"./c.js\";"]).scanned =
      ["import components from \"./c.js\";"] := rfl
  rw [hscanned, List.mem_singleton] at hcode
  rw [hcode, Module.exports_of_read hread] at hfound
  cases hfound

end

end Injector

end PagePrelude
