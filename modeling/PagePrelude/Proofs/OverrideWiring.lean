import PagePrelude.Proofs.GeneratedLines
import PagePrelude.Proofs.ImportReading

/-!
# The wiring of component overrides

The imports of the overrides and the export that names them are made apart from each other. What
holds them together is the name to which an override is imported (`overrides_wired`): no two
overrides share it, its import binds it, and the exported object refers to it under the element.
-/

namespace PagePrelude

open ImportGrammar (Part Reads)
open Identifier (isIdentifier)

-- ---------------------------------------------------------------------------
-- Names of overrides
-- ---------------------------------------------------------------------------

theorem takeWhile_digits (index : Nat) (rest : List Char) :
    (Nat.toDigits 10 index ++ '_' :: rest).takeWhile Char.isDigit = Nat.toDigits 10 index := by
  have hdigits : ∀ c ∈ Nat.toDigits 10 index, c.isDigit = true :=
    fun c hc => Nat.isDigit_of_mem_toDigits (by decide) (by decide) hc
  rw [List.takeWhile_append_of_pos hdigits, List.takeWhile_cons_of_neg (by decide), List.append_nil]

theorem Override.bound_index {override other : Override} {index position : Nat}
    (h : override.bound index = other.bound position) : index = position := by
  have hchars := congrArg String.toList h
  rw [toList_bound, toList_bound] at hchars
  -- No digit follows the index: an underscore parts it from the element.
  have hdigits := congrArg (List.takeWhile Char.isDigit) (List.append_cancel_left hchars)
  rw [takeWhile_digits, takeWhile_digits] at hdigits
  have hindex := congrArg (Nat.ofDigitChars 10 · 0) hdigits
  simpa [Nat.ofDigitChars_toDigits] using hindex

theorem nodup_bound (overrides : List Override) : (overrides.mapIdx Override.bound).Nodup := by
  refine List.pairwise_iff_getElem.mpr fun i j hi hj hlt hsame => ?_
  rw [List.getElem_mapIdx, List.getElem_mapIdx] at hsame
  exact absurd (Override.bound_index hsame) (Nat.ne_of_lt hlt)

/-- Elements that agree once they are sanitized, or of which nothing is left. -/
example : List.mapIdx Override.bound
    [⟨"a-b", .default "x"⟩, ⟨"ab", .default "x"⟩, ⟨"-", .default "x"⟩] =
      ["__AutoImportComponent0_ab", "__AutoImportComponent1_ab", "__AutoImportComponent2_"] := by
  decide

-- ---------------------------------------------------------------------------
-- Lines of fragments
-- ---------------------------------------------------------------------------

def Fragment.lines (fragment : Fragment) : List String :=
  if fragment.text = "" then [] else (fragment.text.toList.splitOn '\n').map String.ofList

/-- Statements without line endings are the lines of their fragment. -/
theorem lines_ofStatements (kind : FragmentKind) {statements : List String}
    (h : ∀ text ∈ statements, text ≠ "" ∧ '\n' ∉ text.toList) :
    (Fragment.ofStatements kind statements).lines = statements := by
  unfold Fragment.lines Fragment.ofStatements
  by_cases hne : statements = []
  · simp [hne]
  · have hsplit : (['\n'].intercalate (statements.map String.toList)).splitOn '\n' =
        statements.map String.toList :=
      List.splitOn_intercalate '\n' (by simpa using fun text ht => (h text ht).2)
        (by simpa using hne)
    have hfilled : "\n".intercalate statements ≠ "" := by
      obtain ⟨text, more, rfl⟩ := List.exists_cons_of_ne_nil hne
      intro hempty
      have hchars := congrArg String.toList hempty
      simp [Module.intercalate_eq, h text] at hchars
    simp [hfilled, hsplit, Function.comp_def]

-- ---------------------------------------------------------------------------
-- Imports of overrides
-- ---------------------------------------------------------------------------

def ComponentRef.chosenNames : ComponentRef → List String
  | default _ => []
  | named name _ => [name]

/-- What an override takes from its module. -/
def Override.part (index : Nat) (override : Override) : Part :=
  match override.component with
  | .default _ => .default (override.bound index)
  | .named name _ => .named ⟨name, override.bound index⟩

/-- What a part of an import takes from its module. -/
def Module.ImportSpecifier.part : Module.ImportSpecifier → Part
  | .default bound => .default bound
  | .named exported bound => .named ⟨exported.text, bound⟩
  | .whole bound => .whole bound

section
variable (root : String) (index : Nat) (override : Override)

theorem override_specifiers : ∃ specifier,
    (override.statement root index).clause.specifiers = [specifier] ∧
      specifier.part = override.part index := by
  unfold Override.statement Override.part
  cases override.component with
  | default path => exact ⟨_, rfl, rfl⟩
  | named name path =>
    refine ⟨_, rfl, ?_⟩
    simp only [Binding.renamed, Module.ImportSpecifier.part, Module.exportNameOf]
    split <;> rfl

theorem override_parts :
    (override.statement root index).clause.parts = [override.part index] := by
  unfold Override.statement Override.part
  cases override.component <;> rfl

theorem override_bareNames :
    Module.AllWords (override.statement root index).clause.bareNames ↔
      ReadableNames override.component.chosenNames := by
  have hw := override.bound_isWord index
  unfold Override.statement
  cases override.component <;>
    simp [Module.AllWords, ReadableNames, ImportClause.bareNames, Binding.bareNames, hw,
      ComponentRef.chosenNames]

end

section
variable {statement : ImportStatement}

theorem head_statement (statement : ImportStatement) : statement.text.toList.head? = some 'i' := by
  rw [← List.append_nil statement.text.toList, Module.text_append]
  rfl

/-- Import statements are the lines of their fragment. -/
theorem lines_statements (kind : FragmentKind) {statements : List ImportStatement}
    (hp : ∀ statement ∈ statements, statement.clause.Proper) :
    (Fragment.ofStatements kind (statements.map ImportStatement.text)).lines =
      statements.map ImportStatement.text := by
  refine lines_ofStatements kind fun text htext => ?_
  obtain ⟨statement, hstatement, rfl⟩ := List.mem_map.mp htext
  refine ⟨fun hempty => ?_, fun hbreak => (plain_statement (hp _ hstatement) _ hbreak).1 rfl⟩
  have hhead := head_statement statement
  simp [hempty] at hhead

theorem read_statement (hp : statement.clause.Proper)
    (hw : Module.AllWords statement.clause.bareNames) :
    Module.read statement.text = .ok [statement.item] := by
  have hread := @Module.read_statements _ ImportStatement.text ImportStatement.item [statement]
    (fun g => List.forall_mem_singleton.mpr (Module.statement_reads hp hw g)) (by simp)
  simpa [head_statement] using hread

theorem read_statement_fails (hp : statement.clause.Proper)
    (hw : ¬Module.AllWords statement.clause.bareNames) :
    ∃ problems, Module.read statement.text = .error problems := by
  have hread := @Module.read_fails _ ImportStatement.text ImportStatement.item [] _
    (by simp) (Module.statement_stops hp hw) []
  simpa [head_statement] using hread

end

-- ---------------------------------------------------------------------------
-- The exported object
-- ---------------------------------------------------------------------------

/-- The name of a property, where it is written down. -/
def Module.Code.key? : Module.Code → Option String
  | .word text => some text
  | .string value _ => some value
  | _ => none

/-- The key of a property and the name that it refers to. -/
def Module.Code.reference? : Module.Code → Option (String × String)
  | .node (.property .value false) [key, .name bound] => key.key?.map (·, bound)
  | _ => none

/-- The keys of an object with the names that they refer to, in order. -/
def Module.Code.references? : Module.Code → Option (List (String × String))
  | .node .object properties => properties.mapM Module.Code.reference?
  | _ => none

theorem reference_code (index : Nat) (override : Override) :
    (override.code index).reference? = some (override.element, override.bound index) := by
  unfold Override.code Override.key
  split <;> rfl

theorem references_object (overrides : List Override) :
    (Module.Code.node .object (overrides.mapIdx Override.code)).references? =
      some (overrides.mapIdx fun index override => (override.element, override.bound index)) := by
  simp only [Module.Code.references?, List.mapIdx_eq_zipIdx_map, List.mapM_map, Function.comp_def,
    reference_code]
  exact List.mapM_pure

theorem bareElements_readable {overrides : List Override} :
    Module.AllWords (Module.bareElements overrides) ↔
      ReadableNames (overrides.map Override.element) := by
  simp only [Module.AllWords, Module.bareElements, ReadableNames, List.mem_filter, and_imp]

-- ---------------------------------------------------------------------------
-- All overrides
-- ---------------------------------------------------------------------------

/-- Whether a line imports the component of the override at an index. In the grammar whose words are
those of identifiers it is one declaration, which takes the named or the default export from the
source of the component. Module code reads the line so where the name is readable, else not at
all. -/
structure Override.Imported (root : String) (index : Nat) (override : Override) (line : String) :
    Prop where
  declared : ∀ declarations, Reads line declarations ↔ declarations =
    [⟨some [override.part index], Specifier.resolve override.component.path root, []⟩]
  reads : ReadableNames override.component.chosenNames → ∃ specifier source,
    Module.read line = .ok [.imports (some [specifier]) source .absent] ∧
      specifier.part = override.part index ∧
      source.value = Specifier.resolve override.component.path root
  fails : ¬ReadableNames override.component.chosenNames →
    ∃ problems, Module.read line = .error problems

/-- Whether a text exports one object that has a property for every override, in order: the element
with the name to which the override is imported. Module code reads the text so where all elements
are readable, else not at all. -/
structure Override.AllExported (overrides : List Override) (text : String) : Prop where
  reads : ReadableNames (overrides.map Override.element) → ∃ object,
    Module.read text =
        .ok [.exportDeclaration (.bindings "const" [(.name componentsExport, object)])] ∧
      object.references? = some (overrides.mapIdx fun index override =>
        (override.element, override.bound index))
  fails : ¬ReadableNames (overrides.map Override.element) →
    ∃ problems, Module.read text = .error problems

theorem override_imported (root : String) (index : Nat) (override : Override) :
    override.Imported root index (override.statement root index).text := by
  have hp := override_proper root index override
  have hwords := override_bareNames root index override
  refine ⟨?_, fun h => ?_, fun h => read_statement_fails hp (mt hwords.mp h)⟩
  · intro declarations
    rw [reads_statement hp, ImportStatement.declaration, override_parts]
    rfl
  · obtain ⟨specifier, hspecifier, hpart⟩ := override_specifiers root index override
    have hread := read_statement hp (hwords.mpr h)
    rw [ImportStatement.item, hspecifier] at hread
    exact ⟨specifier, _, hread, hpart, rfl⟩

theorem allExported_exportText {overrides : List Override} (hne : overrides ≠ []) :
    Override.AllExported overrides (Module.exportText overrides) where
  reads h := ⟨_, Module.read_export hne (bareElements_readable.mpr h), references_object overrides⟩
  fails h := Module.read_export_fails (mt bareElements_readable.mp h)

section
variable (config : Config)

theorem lines_imports : (OverrideFragments.ofConfig config).imports.lines =
    (config.overrides.mapIdx (Override.statement config.root)).map ImportStatement.text := by
  refine lines_statements .imports fun statement hstatement => ?_
  obtain ⟨index, hindex, rfl⟩ := List.mem_mapIdx.mp hstatement
  exact override_proper config.root index _

theorem text_exports : (OverrideFragments.ofConfig config).exports.text =
    if config.overrides = [] then "" else Module.exportText config.overrides := by
  split
  · rename_i hempty
    simp [OverrideFragments.ofConfig, OverrideFragments.exportStatements, Fragment.ofStatements,
      hempty]
  · rename_i hne
    simp [OverrideFragments.ofConfig, Module.exportStatements_eq hne, Fragment.ofStatements]

/-- The overrides of a configuration are imported line by line, to names of which no two are the
same, and one object names all of them. Nothing is exported where nothing is overridden. -/
theorem overrides_wired :
    (config.overrides.mapIdx Override.bound).Nodup ∧
    (OverrideFragments.ofConfig config).imports.lines.length = config.overrides.length ∧
    (∀ (index : Nat) (override : Override), config.overrides[index]? = some override →
      ∃ line, (OverrideFragments.ofConfig config).imports.lines[index]? = some line ∧
        override.Imported config.root index line) ∧
    ((OverrideFragments.ofConfig config).exports.text = "" ↔ config.overrides = []) ∧
    (config.overrides ≠ [] →
      Override.AllExported config.overrides (OverrideFragments.ofConfig config).exports.text) := by
  refine ⟨nodup_bound _, by simp [lines_imports], ?_, ?_, fun hne => ?_⟩
  · intro index override hoverride
    refine ⟨(override.statement config.root index).text, ?_, override_imported _ _ _⟩
    simp [lines_imports, hoverride]
  · rw [text_exports]
    split
    · simp [*]
    · rename_i hne
      obtain ⟨rest, hbegins⟩ := exportText_begins config.overrides
      refine iff_of_false (fun hempty => ?_) hne
      rw [hempty] at hbegins
      cases hbegins
  · rw [text_exports, if_neg hne]
    exact allExported_exportText hne

end

/-- A circled letter is an identifier and no word. As an element it stands in the object without
quotes, and the export is no module code. -/
theorem overrides_unreadable :
    let options : Options := { imports := [], components := [("Ⓐ", .string "./A.js")] }
    let config : Config := { overrides := [⟨"Ⓐ", .default "./A.js"⟩], root := "/site" }
    Config.ofOptions options "/site" = .ok config ∧ config.overrides ≠ [] ∧
      (OverrideFragments.ofConfig config).exports.text =
        "export const components = \x7b Ⓐ: __AutoImportComponent0_ \x7d;" ∧
      ∃ problems, Module.read (OverrideFragments.ofConfig config).exports.text =
        .error problems := by
  intro options config
  have hne : config.overrides ≠ [] := List.cons_ne_nil _ _
  have hunreadable : ¬ReadableNames (config.overrides.map Override.element) := by
    intro h
    have hword : Module.isWord "Ⓐ" = true := h "Ⓐ" List.mem_cons_self (by decide +kernel)
    exact absurd hword (by decide +kernel)
  refine ⟨rfl, hne, by decide +kernel, ?_⟩
  rw [text_exports, if_neg hne]
  exact (allExported_exportText hne).fails hunreadable

end PagePrelude
