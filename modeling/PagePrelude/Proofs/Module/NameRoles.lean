import PagePrelude.Proofs.Module.ExportedNames

/-!
# What a name stands for in module code

`Item.Mentions` finds a name wherever it stands in an item, and says what it is there. Only where it
is the name of an export does the search for exports find it (`exports_sound`). Keys of patterns,
imports, declarations that are not exported, the names that export lists rename and all that stands
in expressions and bodies are passed over.
-/

namespace PagePrelude.Module

-- ---------------------------------------------------------------------------
-- Exported names
-- ---------------------------------------------------------------------------

/-- The names that a declaration binds, with or without a default: the BoundNames of ECMAScript. -/
def Declaration.boundNames : Declaration → List String
  | .bindings _ declarators => declarators.flatMap fun (pattern, _) => Parser.patternNames pattern
  | .function name _ | .classBody name _ => [name]

/-- The names under which others can import something from an item: its ExportedNames in
ECMAScript. -/
def Item.exportedNames : Item → List String
  | .exportDeclaration declared => declared.boundNames
  | .exportNames specifiers _ _ => specifiers.map fun s => s.exported.text
  | .exportAll (some exported) _ _ => [exported.text]
  | .exportDefault _ _ => ["default"]
  | _ => []

/-- The names that items export, in order. -/
def exportedNames (items : List Item) : List String :=
  items.flatMap Item.exportedNames

-- ---------------------------------------------------------------------------
-- Mentions
-- ---------------------------------------------------------------------------

/-- What a name is in the place where it stands. -/
inductive Role where
  | exported
  /-- Declared at the top level, and not exported there. -/
  | declared
  | imported
  /-- The key of a property that a pattern takes out of an object. -/
  | key
  /-- Part of an expression, of a body or of a statement. -/
  | nested
  /-- What an import or an export list gives a name, be it this one or another. -/
  | renamed
  deriving DecidableEq, Repr

/-- A name stands in code. -/
inductive Code.Mentions (name : String) : Code → Prop
  | name : Mentions name (.name name)
  | word : Mentions name (.word name)
  | privateName : Mentions name (.privateName name)
  | string : Mentions name (.string name spelling)
  | part : part ∈ parts → Mentions name part → Mentions name (.node shape parts)

/-- A name stands in a pattern. `bound` is what the names are that the pattern binds. -/
inductive Pattern.Mentions (name : String) (bound : Role) : Pattern → Role → Prop
  | name : Mentions name bound (.name name) bound
  | target : Mentions name bound target role → Mentions name bound (.withDefault target value) role
  | value : value.Mentions name → Mentions name bound (.withDefault target value) .nested
  | key : key.Mentions name → Mentions name bound (.property key computed shorthand target) .key
  | property : Mentions name bound target role →
      Mentions name bound (.property key computed shorthand target) role
  | rest : Mentions name bound target role → Mentions name bound (.rest target) role
  | object : part ∈ parts → Mentions name bound part role → Mentions name bound (.object parts) role
  | array : part ∈ parts → Mentions name bound part role → Mentions name bound (.array parts) role

/-- A name stands in a declaration. `bound` is what the names are that the declaration binds. -/
inductive Declaration.Mentions (name : String) (bound : Role) : Declaration → Role → Prop
  | pattern : (pattern, value) ∈ declarators → pattern.Mentions name bound role →
      Mentions name bound (.bindings keyword declarators) role
  | value : (pattern, value) ∈ declarators → value.Mentions name →
      Mentions name bound (.bindings keyword declarators) .nested
  | function : Mentions name bound (.function name body) bound
  | inFunction : body.Mentions name → Mentions name bound (.function own body) .nested
  | classBody : Mentions name bound (.classBody name body) bound
  | inClass : body.Mentions name → Mentions name bound (.classBody own body) .nested

/-- A name stands in an item. -/
inductive Item.Mentions (name : String) : Item → Role → Prop
  | imported : specifier ∈ specifiers → specifier.bound = name →
      Mentions name (.imports (some specifiers) source attributes) .imported
  | otherName : .named exported bound ∈ specifiers → exported.text = name →
      Mentions name (.imports (some specifiers) source attributes) .renamed
  | exportDeclaration : declared.Mentions name .exported role →
      Mentions name (.exportDeclaration declared) role
  | ownName : specifier ∈ specifiers → specifier.own.text = name →
      Mentions name (.exportNames specifiers source attributes) .renamed
  | listed : specifier ∈ specifiers → specifier.exported.text = name →
      Mentions name (.exportNames specifiers source attributes) .exported
  | whole : exported.text = name →
      Mentions name (.exportAll (some exported) source attributes) .exported
  | byDefault : name = "default" → Mentions name (.exportDefault declared value) .exported
  | defaultValue : value.Mentions name → Mentions name (.exportDefault declared value) .nested
  | declaration : declared.Mentions name .declared role →
      Mentions name (.declaration declared) role
  | statement : body.Mentions name → Mentions name (.statement body) .nested

section
variable {name : String}

-- ---------------------------------------------------------------------------
-- The names of exports
-- ---------------------------------------------------------------------------

theorem Declaration.mem_boundNames {declared : Declaration} : name ∈ declared.boundNames ↔
    ∃ defaulted, (Item.exportDeclaration declared).Exports name defaulted := by
  cases declared with
  | bindings keyword declarators =>
    simp only [boundNames, List.mem_flatMap, mem_patternNames]
    constructor
    · rintro ⟨⟨pattern, value⟩, hmem, defaulted, h⟩
      exact ⟨defaulted, .variable hmem h⟩
    · rintro ⟨defaulted, ⟨⟩⟩
      exact ⟨_, ‹_›, _, ‹_›⟩
  | function own body =>
    rw [boundNames, List.mem_singleton]
    constructor
    · rintro rfl
      exact ⟨false, .function⟩
    · rintro ⟨_, ⟨⟩⟩
      rfl
  | classBody own body =>
    rw [boundNames, List.mem_singleton]
    constructor
    · rintro rfl
      exact ⟨false, .classBody⟩
    · rintro ⟨_, ⟨⟩⟩
      rfl

theorem Item.mem_exportedNames {item : Item} :
    name ∈ item.exportedNames ↔ ∃ defaulted, item.Exports name defaulted := by
  cases item with
  | exportDeclaration declared => exact Declaration.mem_boundNames
  | exportNames specifiers source attributes =>
    simp only [exportedNames, List.mem_map]
    constructor
    · rintro ⟨specifier, hmem, h⟩
      exact ⟨false, .listed hmem h⟩
    · rintro ⟨_, ⟨⟩⟩
      exact ⟨_, ‹_›, ‹_›⟩
  | exportAll exported source attributes =>
    cases exported with
    | none =>
      refine iff_of_false List.not_mem_nil ?_
      rintro ⟨_, ⟨⟩⟩
    | some exported =>
      rw [exportedNames, List.mem_singleton]
      constructor
      · rintro rfl
        exact ⟨false, .whole rfl⟩
      · rintro ⟨_, ⟨⟩⟩
        exact Eq.symm ‹_›
  | exportDefault declared value =>
    rw [exportedNames, List.mem_singleton]
    constructor
    · intro h
      exact ⟨false, .byDefault h⟩
    · rintro ⟨_, ⟨⟩⟩
      assumption
  | _ =>
    refine iff_of_false List.not_mem_nil ?_
    rintro ⟨_, ⟨⟩⟩

-- ---------------------------------------------------------------------------
-- Mentions as the name of an export
-- ---------------------------------------------------------------------------

theorem Pattern.mentions_bound {pattern : Pattern} {bound : Role}
    (h : pattern.Binds name defaulted) : pattern.Mentions name bound bound := by
  induction h with
  | name => exact .name
  | withDefault _ ih => exact .target ih
  | property _ ih => exact .property ih
  | rest _ ih => exact .rest ih
  | object hpart _ ih => exact .object hpart ih
  | array hpart _ ih => exact .array hpart ih

/-- All that a pattern mentions but keys and default values are names that it binds. -/
theorem Pattern.mentions_cases {pattern : Pattern} {bound role : Role}
    (h : pattern.Mentions name bound role) :
    (role = bound ∧ ∃ defaulted, pattern.Binds name defaulted) ∨ role = .key ∨ role = .nested := by
  induction h with
  | name => exact .inl ⟨rfl, false, .name⟩
  | value _ => exact .inr (.inr rfl)
  | key _ => exact .inr (.inl rfl)
  | target _ ih =>
    refine ih.imp_left ?_
    rintro ⟨rfl, _, hbinds⟩
    exact ⟨rfl, true, .withDefault hbinds⟩
  | property _ ih =>
    refine ih.imp_left ?_
    rintro ⟨rfl, defaulted, hbinds⟩
    exact ⟨rfl, defaulted, .property hbinds⟩
  | rest _ ih =>
    refine ih.imp_left ?_
    rintro ⟨rfl, defaulted, hbinds⟩
    exact ⟨rfl, defaulted, .rest hbinds⟩
  | object hpart _ ih =>
    refine ih.imp_left ?_
    rintro ⟨rfl, defaulted, hbinds⟩
    exact ⟨rfl, defaulted, .object hpart hbinds⟩
  | array hpart _ ih =>
    refine ih.imp_left ?_
    rintro ⟨rfl, defaulted, hbinds⟩
    exact ⟨rfl, defaulted, .array hpart hbinds⟩

theorem Declaration.mentions_cases {declared : Declaration} {bound role : Role}
    (h : declared.Mentions name bound role) :
    (role = bound ∧ name ∈ declared.boundNames) ∨ role = .key ∨ role = .nested := by
  rw [mem_boundNames]
  cases h with
  | pattern hmem hmentions =>
    refine (Pattern.mentions_cases hmentions).imp_left ?_
    rintro ⟨rfl, defaulted, hbinds⟩
    exact ⟨rfl, defaulted, .variable hmem hbinds⟩
  | function => exact .inl ⟨rfl, false, .function⟩
  | classBody => exact .inl ⟨rfl, false, .classBody⟩
  | value _ _ | inFunction _ | inClass _ => exact .inr (.inr rfl)

theorem Item.mentions_of_exports {item : Item} (h : item.Exports name defaulted) :
    item.Mentions name .exported := by
  rcases h with ⟨hmem, hbinds⟩ | _ | _ | ⟨hmem, hname⟩ | hname | hname
  · exact .exportDeclaration (.pattern hmem (Pattern.mentions_bound hbinds))
  · exact .exportDeclaration .function
  · exact .exportDeclaration .classBody
  · exact .listed hmem hname
  · exact .whole hname
  · exact .byDefault hname

theorem Item.mentions_exported {item : Item} :
    item.Mentions name .exported ↔ name ∈ item.exportedNames := by
  constructor
  · intro h
    cases h with
    | exportDeclaration h =>
      rcases Declaration.mentions_cases h with ⟨-, hbound⟩ | hrole | hrole
      · exact hbound
      · cases hrole
      · cases hrole
    | declaration h =>
      rcases Declaration.mentions_cases h with ⟨hrole, -⟩ | hrole | hrole <;> cases hrole
    | listed hmem hname => exact mem_exportedNames.mpr ⟨false, .listed hmem hname⟩
    | whole hname => exact mem_exportedNames.mpr ⟨false, .whole hname⟩
    | byDefault hname => exact mem_exportedNames.mpr ⟨false, .byDefault hname⟩
  · intro h
    obtain ⟨_, hexports⟩ := mem_exportedNames.mp h
    exact mentions_of_exports hexports

-- ---------------------------------------------------------------------------
-- Module code
-- ---------------------------------------------------------------------------

/-- Whatever reads module code: where the search finds a name, the code can be read and exports it.
A name that stands in the code as anything but the name of an export is not found. The name of an
export is, but for `default` and for names under default values. -/
theorem exports_sound (reader : Reader) (code name : String) :
    ((exports code name reader).1 = true →
      ∃ items, reader code = .ok items ∧ name ∈ exportedNames items) ∧
    (∀ items, reader code = .ok items →
      (∀ item ∈ items, ∀ role, item.Mentions name role → role ≠ .exported) →
      (exports code name reader).1 = false) ∧
    ∀ items, reader code = .ok items → name ≠ "default" →
      ∀ item ∈ items, item.Exports name false → (exports code name reader).1 = true := by
  have hsound : (exports code name reader).1 = true →
      ∃ items, reader code = .ok items ∧ name ∈ exportedNames items := by
    intro hfound
    cases hread : reader code with
    | error problems =>
      rw [exports_of_error hread] at hfound
      cases hfound
    | ok items =>
      rw [exports_of_read hread] at hfound
      obtain ⟨item, hitem, hexports⟩ := List.any_eq_true.mp hfound
      have hname : name ∈ item.exportedNames :=
        Item.mem_exportedNames.mpr ⟨false, item.exports_found hexports⟩
      exact ⟨items, rfl, List.mem_flatMap.mpr ⟨item, hitem, hname⟩⟩
  refine ⟨hsound, fun items hread helsewhere => ?_, fun items hread hdefault item hitem h => ?_⟩
  · rw [← Bool.not_eq_true]
    intro hfound
    obtain ⟨_, hsame, hname⟩ := hsound hfound
    obtain rfl := Except.ok.inj (hread.symm.trans hsame)
    obtain ⟨item, hitem, hname⟩ := List.mem_flatMap.mp hname
    exact helsewhere item hitem .exported (Item.mentions_exported.mpr hname) rfl
  · exact (exports_read_iff hdefault hread).mpr ⟨item, hitem, h⟩

/-- The innermost name of a pattern is found. An import, a declaration that is exported by another
name and the key of a pattern are not. -/
theorem exports_sound_roles :
    let code := "import a from \"./a.js\";\nconst b = 1;\nexport \x7b b as c \x7d;\n" ++
      "export const \x7b d: [e] \x7d = a;"
    (exports code "e").1 = true ∧
      (∃ items, read code = .ok items ∧ importedNames items = ["a"] ∧
        exportedNames items = ["c", "e"] ∧ "e" ∈ exportedNames items) ∧
      ∀ name ∈ ["a", "b", "d"], (exports code name).1 = false := by
  intro code
  have hfound : (exports code "e").1 = true := by decide +kernel
  have hnames : (read code).toOption.map (fun items => (importedNames items, exportedNames items)) =
      some (["a"], ["c", "e"]) := by decide +kernel
  obtain ⟨items, hread, hname⟩ := (exports_sound read code "e").1 hfound
  rw [hread] at hnames
  obtain ⟨himported, hexported⟩ := Prod.mk.inj (Option.some.inj hnames)
  refine ⟨hfound, ⟨items, hread, himported, hexported, hname⟩, fun name hmem => ?_⟩
  refine (exports_sound read code name).2.1 items hread fun item hitem role hmentions => ?_
  rintro rfl
  have hsome : name ∈ exportedNames items :=
    List.mem_flatMap.mpr ⟨item, hitem, Item.mentions_exported.mp hmentions⟩
  have hnone : ∀ other ∈ ["a", "b", "d"], other ∉ ["c", "e"] := by decide
  exact hnone name hmem (hexported ▸ hsome)

end

end PagePrelude.Module
