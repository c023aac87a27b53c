import PagePrelude.Module.Exports

/-!
# The names that module code exports

`Item.Exports` says which names an item exports, and whether a name stands under a
default value. The search for an export finds exactly the names that some item exports
outside default values (`exports_iff`): the ones that it misses are those that are only
declared with a default.
-/

namespace PagePrelude.Module

-- ---------------------------------------------------------------------------
-- Patterns
-- ---------------------------------------------------------------------------

/-- A pattern binds a name. `defaulted` says that a default value stands above its place. -/
inductive Pattern.Binds (name : String) : Pattern → Bool → Prop
  | name : Binds name (.name name) false
  | withDefault : Binds name target defaulted → Binds name (.withDefault target value) true
  | property : Binds name target defaulted →
      Binds name (.property key computed shorthand target) defaulted
  | rest : Binds name target defaulted → Binds name (.rest target) defaulted
  | object : part ∈ parts → Binds name part defaulted → Binds name (.object parts) defaulted
  | array : part ∈ parts → Binds name part defaulted → Binds name (.array parts) defaulted

section
variable {name : String}

mutual

theorem Pattern.binds_iff : ∀ pattern : Pattern,
    pattern.binds name = true ↔ pattern.Binds name false
  | .name text => by
    constructor
    · intro h
      obtain rfl : text = name := by simpa [Pattern.binds] using h
      exact .name
    · rintro ⟨⟩
      simp [Pattern.binds]
  | .hole => by
    constructor
    · intro h
      cases h
    · rintro ⟨⟩
  | .withDefault target value => by
    constructor
    · intro h
      cases h
    · rintro ⟨⟩
  | .property key computed shorthand target => by
    rw [Pattern.binds, Pattern.binds_iff target]
    constructor
    · exact .property
    · rintro ⟨⟩
      assumption
  | .rest target => by
    rw [Pattern.binds, Pattern.binds_iff target]
    constructor
    · exact .rest
    · rintro ⟨⟩
      assumption
  | .object parts => by
    rw [Pattern.binds, somePartBinds_iff parts]
    constructor
    · rintro ⟨part, hpart, h⟩
      exact .object hpart h
    · rintro ⟨⟩
      exact ⟨_, ‹_›, ‹_›⟩
  | .array parts => by
    rw [Pattern.binds, somePartBinds_iff parts]
    constructor
    · rintro ⟨part, hpart, h⟩
      exact .array hpart h
    · rintro ⟨⟩
      exact ⟨_, ‹_›, ‹_›⟩

theorem somePartBinds_iff : ∀ parts : List Pattern,
    somePartBinds name parts = true ↔ ∃ part ∈ parts, part.Binds name false
  | [] => by simp [somePartBinds]
  | part :: parts => by
    rw [somePartBinds, Bool.or_eq_true, Pattern.binds_iff part, somePartBinds_iff parts]
    simp

end

mutual

/-- The parser notes every name that a pattern binds, with or without a default. -/
theorem mem_patternNames : ∀ pattern : Pattern,
    name ∈ Parser.patternNames pattern ↔ ∃ defaulted, pattern.Binds name defaulted
  | .name text => by
    constructor
    · intro h
      obtain rfl : name = text := by simpa [Parser.patternNames] using h
      exact ⟨false, .name⟩
    · rintro ⟨_, ⟨⟩⟩
      simp [Parser.patternNames]
  | .hole => by
    constructor
    · intro h
      cases h
    · rintro ⟨_, ⟨⟩⟩
  | .withDefault target value => by
    rw [Parser.patternNames, mem_patternNames target]
    constructor
    · rintro ⟨_, h⟩
      exact ⟨true, .withDefault h⟩
    · rintro ⟨_, ⟨⟩⟩
      exact ⟨_, ‹_›⟩
  | .property key computed shorthand target => by
    rw [Parser.patternNames, mem_patternNames target]
    constructor
    · rintro ⟨defaulted, h⟩
      exact ⟨defaulted, .property h⟩
    · rintro ⟨_, ⟨⟩⟩
      exact ⟨_, ‹_›⟩
  | .rest target => by
    rw [Parser.patternNames, mem_patternNames target]
    constructor
    · rintro ⟨defaulted, h⟩
      exact ⟨defaulted, .rest h⟩
    · rintro ⟨_, ⟨⟩⟩
      exact ⟨_, ‹_›⟩
  | .object parts => by
    rw [Parser.patternNames, mem_partNames parts]
    constructor
    · rintro ⟨part, hpart, defaulted, h⟩
      exact ⟨defaulted, .object hpart h⟩
    · rintro ⟨_, ⟨⟩⟩
      exact ⟨_, ‹_›, _, ‹_›⟩
  | .array parts => by
    rw [Parser.patternNames, mem_partNames parts]
    constructor
    · rintro ⟨part, hpart, defaulted, h⟩
      exact ⟨defaulted, .array hpart h⟩
    · rintro ⟨_, ⟨⟩⟩
      exact ⟨_, ‹_›, _, ‹_›⟩

theorem mem_partNames : ∀ parts : List Pattern,
    name ∈ Parser.partNames parts ↔ ∃ part ∈ parts, ∃ defaulted, part.Binds name defaulted
  | [] => by simp [Parser.partNames]
  | part :: parts => by
    rw [Parser.partNames, List.mem_append, mem_patternNames part, mem_partNames parts]
    simp

end

-- ---------------------------------------------------------------------------
-- Items
-- ---------------------------------------------------------------------------

/-- An item exports a name. `defaulted` says that the name is declared under a default value. -/
inductive Item.Exports (name : String) : Item → Bool → Prop
  | variable : (pattern, value) ∈ declarators → pattern.Binds name defaulted →
      Exports name (.exportDeclaration (.bindings keyword declarators)) defaulted
  | function : Exports name (.exportDeclaration (.function name body)) false
  | classBody : Exports name (.exportDeclaration (.classBody name body)) false
  | listed : specifier ∈ specifiers → specifier.exported.text = name →
      Exports name (.exportNames specifiers source attributes) false
  | whole : exported.text = name → Exports name (.exportAll (some exported) source attributes) false
  | byDefault : name = "default" → Exports name (.exportDefault declared value) false

theorem Declaration.binds_iff (declared : Declaration) :
    declared.binds name = true ↔ (Item.exportDeclaration declared).Exports name false := by
  cases declared with
  | bindings keyword declarators =>
    simp only [Declaration.binds, List.any_eq_true, Pattern.binds_iff]
    constructor
    · rintro ⟨⟨pattern, value⟩, hmem, h⟩
      exact .variable hmem h
    · rintro ⟨⟩
      exact ⟨_, ‹_›, ‹_›⟩
  | function own body =>
    simp only [Declaration.binds, beq_iff_eq]
    constructor
    · rintro rfl
      exact .function
    · rintro ⟨⟩
      rfl
  | classBody own body =>
    simp only [Declaration.binds, beq_iff_eq]
    constructor
    · rintro rfl
      exact .classBody
    · rintro ⟨⟩
      rfl

/-- What the search finds is exported, `default` too. -/
theorem Item.exports_found (item : Item) (h : item.exports name = true) :
    item.Exports name false := by
  cases item with
  | exportDeclaration declared => exact declared.binds_iff.mp h
  | exportNames specifiers source attributes =>
    simp only [Item.exports, List.any_eq_true, beq_iff_eq] at h
    obtain ⟨specifier, hmem, hname⟩ := h
    exact .listed hmem hname
  | exportAll exported source attributes =>
    cases exported with
    | none => cases h
    | some exported => exact .whole (by simpa [Item.exports] using h)
  | _ => cases h

theorem Item.exports_outside_defaults (hn : name ≠ "default") (item : Item) :
    item.exports name = true ↔ item.Exports name false := by
  refine ⟨item.exports_found, fun h => ?_⟩
  cases item with
  | exportDeclaration declared => exact declared.binds_iff.mpr h
  | exportNames specifiers source attributes =>
    cases h with
    | listed hmem hname => exact List.any_eq_true.mpr ⟨_, hmem, beq_iff_eq.mpr hname⟩
  | exportAll exported source attributes =>
    cases h with
    | whole hname => exact beq_iff_eq.mpr hname
  | exportDefault declared value =>
    cases h with
    | byDefault hname => exact absurd hname hn
  | _ => cases h

-- ---------------------------------------------------------------------------
-- Module code
-- ---------------------------------------------------------------------------

theorem exports_of_read {reader : Reader} (h : reader code = .ok items) (name : String) :
    exports code name reader = (items.any (Item.exports name), []) := by
  delta exports
  rw [h]

theorem exports_of_error {reader : Reader} (h : reader code = .error problems) (name : String) :
    exports code name reader = (false, [.unreadable name]) := by
  delta exports
  rw [h]

theorem exports_read_iff {reader : Reader} (hn : name ≠ "default") (h : reader code = .ok items) :
    (exports code name reader).1 = true ↔ ∃ item ∈ items, item.Exports name false := by
  simp [exports_of_read h, Item.exports_outside_defaults hn]

/-- Whatever reads module code, the search finds a name other than `default` exactly where some item
exports it outside default values. What it misses of the names that module code exports are those
under defaults only. -/
theorem exports_iff (reader : Reader) (code name : String) (hn : name ≠ "default") :
    ((exports code name reader).1 = true ↔
      ∃ items, reader code = .ok items ∧ ∃ item ∈ items, item.Exports name false) ∧
    ∀ items, reader code = .ok items →
      ((∃ item ∈ items, ∃ defaulted, item.Exports name defaulted) ∧
          (exports code name reader).1 = false ↔
        (∃ item ∈ items, item.Exports name true) ∧ ¬∃ item ∈ items, item.Exports name false) := by
  refine ⟨?_, fun items h => ?_⟩
  · cases h : reader code with
    | ok items => simp [exports_read_iff hn h]
    | error problems => simp [exports_of_error h]
  · rw [← Bool.not_eq_true, exports_read_iff hn h]
    constructor
    · rintro ⟨⟨item, hitem, defaulted, he⟩, hnone⟩
      cases defaulted with
      | true => exact ⟨⟨item, hitem, he⟩, hnone⟩
      | false => exact absurd ⟨item, hitem, he⟩ hnone
    · rintro ⟨⟨item, hitem, he⟩, hnone⟩
      exact ⟨⟨item, hitem, true, he⟩, hnone⟩

/-- A declared name with a default value is missed. -/
theorem exports_defaulted :
    "components" ≠ "default" ∧
      (∃ items, read "export const \x7b components = 1 \x7d = x;" = .ok items ∧
        ∃ item ∈ items, item.Exports "components" true) ∧
      ¬∃ items, read "export const \x7b components = 1 \x7d = x;" = .ok items ∧
        ∃ item ∈ items, item.Exports "components" false := by
  have hn : "components" ≠ "default" := by decide
  refine ⟨hn, ⟨_, rfl, _, List.mem_singleton_self _, ?_⟩, fun h => ?_⟩
  · exact .variable (List.mem_singleton_self _)
      (.object (List.mem_singleton_self _) (.property (.withDefault .name)))
  · have hfound := (exports_iff read _ _ hn).1.mpr h
    revert hfound
    decide +kernel

end

end PagePrelude.Module
