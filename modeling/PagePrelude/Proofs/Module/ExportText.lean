import PagePrelude.Proofs.GeneratedNames
import PagePrelude.Proofs.Module.ImportText
import PagePrelude.Proofs.Module.Operands

/-!
# The generated export read back

The statement that exports component overrides is read as a declaration of one object
(`export_reads`), unless an element that it spells without quotes is no word;
then it is not read at all (`export_stops`).
-/

namespace PagePrelude

open Identifier (isIdentifier)

-- ---------------------------------------------------------------------------
-- What the export means
-- ---------------------------------------------------------------------------

/-- The name of a property as module code. -/
def Override.key (override : Override) : Module.Code :=
  if isIdentifier override.element then .word override.element
  else .string override.element (literal override.element)

/-- The property of an override as module code. -/
def Override.code (index : Nat) (override : Override) : Module.Code :=
  .node (.property .value false) [override.key, .name (override.bound index)]

/-- The export of overrides as an item of module code. -/
def OverrideFragments.item (overrides : List Override) : Module.Item :=
  .exportDeclaration (.bindings "const"
    [(.name componentsExport, .node .object (overrides.mapIdx Override.code))])

namespace Module

-- ---------------------------------------------------------------------------
-- Properties
-- ---------------------------------------------------------------------------

section
variable {g : Grammar} {scope : Scope} {s s' : State} {exported : List String} {name : String}
  {rest : List Char}

theorem primary_object (hl : s.token.lexeme = .mark "\x7b") :
    Parser.primary g scope s = Parser.object g scope s := by
  simp [Parser.primary, hl]

theorem modifies_false (h : s.next.token.lexeme = .mark ":" ∨ s.next.token.lexeme = .unknown)
    (word : String) (sameLine : Bool) :
    ∃ overran, Parser.modifies word sameLine s = .ok false { s with overran } := by
  by_cases hword : s.token.lexeme = .word word false
  · refine ⟨(s.tried s.next).overran, ?_⟩
    rcases h with h | h <;> cases sameLine <;>
      simp [Parser.modifies, Parser.isModifier, hword, h] <;> rfl
  · exact ⟨s.overran, by simp [Parser.modifies, hword]⟩

variable (g scope)

/-- A word before a colon names a property, whatever it says before other words. -/
theorem objectMethod_none (hl : s.token.lexeme.beginsItem = true)
    (h : s.next.token.lexeme = .mark ":" ∨ s.next.token.lexeme = .unknown) :
    ∃ overran, Parser.objectMethod g scope s = .ok none { s with overran } := by
  have hstar : s.token.lexeme ≠ .mark "*" := mark_ne_of_beginsItem hl "*"
  have hmodifies (overran : Bool) := modifies_false (s := { s with overran })
    (by rwa [next_overrun])
  obtain ⟨first, hget⟩ := hmodifies s.overran "get" false
  obtain ⟨second, hset⟩ := hmodifies first "set" false
  obtain ⟨third, hasync⟩ := hmodifies second "async" true
  exact ⟨third, by simp [Parser.objectMethod, hget, hset, hasync, hstar]⟩

theorem objectMethod_unknown (h : s.token.lexeme = .unknown) :
    Parser.objectMethod g scope s = .ok none s := by
  simp [Parser.objectMethod, Parser.modifies, h]

theorem key_reads {override : Override}
    (hw : isIdentifier override.element = true → isWord override.element = true)
    (hr : EndsWord rest) : Reads (Parser.propertyName g scope)
      ((propertyName override.element).toList ++ rest) (override.key, false) rest := by
  intro s exported hs
  unfold propertyName at hs
  unfold Override.key
  split at hs
  · rename_i hi
    have ho := opens_word (hw hi) hr
    exact ⟨s.next, by simp [Parser.propertyName, Parser.anyName, hs.lexeme ho, hi], hs.next ho⟩
  · rename_i hi
    have ho := opens_literal override.element rest
    exact ⟨s.next, by simp [Parser.propertyName, hs.lexeme ho, hi], hs.next ho⟩

theorem opens_key {override : Override}
    (hw : isIdentifier override.element = true → isWord override.element = true)
    (hr : EndsWord rest) : ∃ found, found.beginsItem = true ∧
      Opens ((propertyName override.element).toList ++ rest) found rest := by
  unfold propertyName
  split
  · exact ⟨_, rfl, opens_word (hw ‹_›) hr⟩
  · exact ⟨_, rfl, opens_literal override.element rest⟩

theorem property_append (override : Override) (index : Nat) (rest : List Char) :
    (override.property index).toList ++ rest = (propertyName override.element).toList ++
      ':' :: ' ' :: ((override.bound index).toList ++ rest) := by
  simp [Override.property]

theorem opens_colon (chars : List Char) : Opens (':' :: chars) (.mark ":") chars :=
  opens_mark (by decide)

theorem endsWord_colon (chars : List Char) : EndsWord (':' :: chars) := by
  simp
  decide

theorem value_reads (override : Override) (index depth : Nat) (hr : EndsItem rest) :
    Reads ((Grammar.level (depth + 1)).assignment Scope.top.inner)
      ((override.bound index).toList ++ rest) (.name (override.bound index)) rest := by
  intro s exported hs
  have ho := opens_word (override.bound_isWord index) hr.endsWord
  obtain ⟨mark, more, hmark, hopens⟩ := hr.opens
  have hnext := hs.next ho
  have hc : mark ∈ closers := by rcases hmark with rfl | rfl <;> decide
  exact ⟨s.next, assignment_of_name (override.bound_isIdentifier index) (hs.lexeme ho)
    (hnext.lexeme hopens) hc, hnext⟩

theorem property_reads {override : Override}
    (hw : isIdentifier override.element = true → isWord override.element = true)
    (index depth : Nat) : ReadsItem (Parser.objectProperty (.level (depth + 1)) Scope.top)
      (override.property index).toList (override.code index) := by
  constructor
  · intro rest _
    rw [property_append]
    obtain ⟨found, hbegins, hopens⟩ := opens_key hw (endsWord_colon _)
    exact ⟨found, _, hopens, hbegins⟩
  · intro rest hr s exported hs
    rw [property_append] at hs
    obtain ⟨found, hbegins, hopens⟩ := opens_key hw (endsWord_colon _)
    have hfirst := hs.lexeme hopens ▸ hbegins
    have hdots : s.token.lexeme ≠ .mark "..." := mark_ne_of_beginsItem hfirst "..."
    obtain ⟨overran, hmethod⟩ := objectMethod_none (.level (depth + 1)) Scope.top hfirst
      (.inl ((hs.next hopens).lexeme (opens_colon _)))
    obtain ⟨s', hkey, hs'⟩ :=
      key_reads (.level (depth + 1)) Scope.top hw (endsWord_colon _) (hs.overrun overran)
    obtain ⟨s'', hvalue, hs''⟩ :=
      value_reads override index depth hr (hs'.next (opens_colon _)).blank
    refine ⟨s'', ?_, hs''⟩
    simp [Parser.objectProperty, hdots, hmethod, hkey, hs'.lexeme (opens_colon _), hvalue,
      Override.code]

/-- A word that characters follow which form no token is no property. -/
theorem objectProperty_balksAt (hl : s.token.lexeme = .word name false)
    (hu : s.next.token.lexeme = .unknown) : BalksAt (Parser.objectProperty g Scope.top) s := by
  obtain ⟨overran, hmethod⟩ := objectMethod_none g Scope.top (s := s)
    (by simp [hl, Lexeme.beginsItem]) (.inr hu)
  obtain ⟨s', hs'⟩ : ∃ s', State.next { s with overran } = s' := ⟨_, rfl⟩
  have hkey : Parser.propertyName g Scope.top { s with overran } =
      .ok (.word name, false) s' := by
    simp [Parser.propertyName, Parser.anyName, hl, hs']
  replace hu : s'.token.lexeme = .unknown := by
    rw [← hs', next_overrun]
    exact hu
  cases hk : isStrictKeyword name with
  | true =>
    exact .inl ⟨_, s'.atEnd, by simp [Parser.objectProperty, hmethod, hkey, hu, hl, hk]; rfl⟩
  | false =>
    by_cases ha : name = "await"
    · have hrun : Parser.objectProperty g Scope.top s =
          .ok (.node (.property .shorthand false) [.word name, .name name])
            { s' with problems := s'.problems ++
              [⟨.awaitName name, s.token.start, s.token.stop⟩] } := by
        subst ha
        simp [Parser.objectProperty, hl, hmethod, hkey, hu, hk, note_apply]
      exact .inr ⟨_, _, hrun, hu⟩
    · exact .inr ⟨_, s', by simp [Parser.objectProperty, hl, hmethod, hkey, hu, hk, ha]; rfl, hu⟩

theorem property_balks {override : Override} (hi : isIdentifier override.element = true)
    (hw : isWord override.element = false) (index : Nat) :
    BalksAtItem (Parser.objectProperty g Scope.top) (override.property index).toList := by
  have hb (rest : List Char) : Breaks ((override.property index).toList ++ rest) := by
    rw [property_append, propertyName, if_pos hi]
    exact breaks_of_not_isWord (isShaped_of_isIdentifier hi) hw _
  refine ⟨fun rest => (hb rest).opens, fun rest s exported hs => ?_⟩
  rcases hs.breaks (hb rest) with hu | ⟨word, hl, hu⟩
  · obtain ⟨d, hd⟩ := unexpected_fails (α := String) (s := s)
    refine .inl ⟨d, s.withoutReason, ?_⟩
    simp [Parser.objectProperty, objectMethod_unknown g Scope.top hu, hu, Parser.propertyName,
      Parser.anyName, hd]
  · exact objectProperty_balksAt g hl hu

end

-- ---------------------------------------------------------------------------
-- The exported object
-- ---------------------------------------------------------------------------

/-- The elements that an object spells without quotes. -/
def bareElements (overrides : List Override) : List String :=
  (overrides.map Override.element).filter isIdentifier

/-- The object of overrides, and the end of its statement. -/
def objectText (overrides : List Override) (rest : List Char) : List Char :=
  '{' :: ' ' :: ([',', ' '].intercalate
    (overrides.zipIdx.map fun entry => (entry.1.property entry.2).toList) ++
      ' ' :: '}' :: ';' :: rest)

section
variable {s : State} {exported : List String} {overrides : List Override}

theorem element_isWord (hw : AllWords (bareElements overrides)) {override : Override}
    (hm : override ∈ overrides) (hi : isIdentifier override.element = true) :
    isWord override.element = true :=
  hw _ (List.mem_filter.mpr ⟨List.mem_map.mpr ⟨override, hm, rfl⟩, hi⟩)

theorem object_reads (hne : overrides ≠ []) (hw : AllWords (bareElements overrides)) (depth : Nat)
    (rest : List Char) :
    Reads (Parser.assignment (.level (depth + 1)) Scope.top) (objectText overrides rest)
      (.node .object (overrides.mapIdx Override.code)) (';' :: rest) := by
  intro s exported hs
  have hi : ∀ entry ∈ overrides.zipIdx,
      ReadsItem (Parser.objectProperty (.level (depth + 1)) Scope.top)
        (entry.1.property entry.2).toList (entry.1.code entry.2) := fun entry hentry =>
    property_reads (element_isWord hw (List.fst_mem_of_mem_zipIdx hentry)) entry.2 depth
  have hopen := hs.lexeme (opens_mark (by decide))
  obtain ⟨s', hlist, hs'⟩ := listBetween_reads hi (by simpa using hne) (';' :: rest) hs
  have hobject : Parser.object (.level (depth + 1)) Scope.top s =
      .ok (.node .object (overrides.mapIdx Override.code)) s' := by
    simp [Parser.object, hlist, List.mapIdx_eq_zipIdx_map]
  have hend : Opens (';' :: rest) (.mark ";") rest := opens_mark (by decide)
  have hprimary := (primary_object hopen).trans hobject
  refine ⟨s', assignment_of_primary (.object hopen) hprimary (hs'.lexeme hend) (by decide) ?_, hs'⟩
  simp [Code.mixesCoalesce]

theorem object_stops (hw : ¬AllWords (bareElements overrides)) (depth : Nat) (rest : List Char) :
    Stops (Parser.assignment (.level (depth + 1)) Scope.top) (objectText overrides rest) := by
  intro s exported hs
  have hnot : ¬∀ entry ∈ overrides.zipIdx,
      isIdentifier entry.1.element = true → isWord entry.1.element = true := by
    refine fun hall => hw fun name hn => ?_
    obtain ⟨hmem, hi⟩ := List.mem_filter.mp hn
    obtain ⟨override, hover, rfl⟩ := List.mem_map.mp hmem
    obtain ⟨index, hindex⟩ := List.getElem?_of_mem hover
    exact hall (override, index) (List.mem_zipIdx_iff_getElem?.mpr hindex) hi
  obtain ⟨before, bad, after, hsplit, hbad, hbefore⟩ := exists_first hnot
  obtain ⟨hi, hword⟩ : isIdentifier bad.1.element = true ∧ isWord bad.1.element = false := by
    simpa using hbad
  have hopen := hs.lexeme (opens_mark (by decide))
  unfold objectText at hs
  rw [hsplit, List.map_append, List.map_cons] at hs
  obtain ⟨d, s', hd⟩ := listBetween_stops
    (fun entry hentry => property_reads (hbefore entry hentry) entry.2 depth)
    (property_balks (.level (depth + 1)) hi hword bad.2) _ _ hs
  have hobject : Parser.object (.level (depth + 1)) Scope.top s = .error d s' := by
    simp [Parser.object, hd]
  exact ⟨d, s', assignment_fails (.object hopen) ((primary_object hopen).trans hobject)⟩

end

-- ---------------------------------------------------------------------------
-- The statement
-- ---------------------------------------------------------------------------

/-- The statement that exports overrides. -/
def exportText (overrides : List Override) : String :=
  "export const " ++ componentsExport ++ " = \x7b " ++
    ", ".intercalate (overrides.mapIdx Override.property) ++ " \x7d;"

theorem exportStatements_eq {overrides : List Override} (hne : overrides ≠ []) :
    OverrideFragments.exportStatements overrides = [exportText overrides] :=
  if_neg (by simpa using hne)

theorem exportText_append (overrides : List Override) (rest : List Char) :
    (exportText overrides).toList ++ rest = "export".toList ++ ' ' :: ("const".toList ++
      ' ' :: (componentsExport.toList ++ ' ' :: '=' :: ' ' :: objectText overrides rest)) := by
  have hproperties : (", ".intercalate (overrides.mapIdx Override.property)).toList =
      [',', ' '].intercalate
        (overrides.zipIdx.map fun entry => (entry.1.property entry.2).toList) := by
    rw [String.toList_intercalate, List.mapIdx_eq_zipIdx_map, List.map_map]
    rfl
  delta exportText
  rw [String.toList_append, String.toList_append, String.toList_append, String.toList_append,
    hproperties]
  simp only [List.append_assoc]
  rfl

section
variable {s : State} {exported : List String} {chars rest : List Char}

theorem opens_equals (chars : List Char) : Opens ('=' :: ' ' :: chars) (.mark "=") (' ' :: chars) :=
  opens_mark_blank (by decide)

theorem checkMarks_nil (s : State) : Parser.checkMarks [] s = .ok () s := by
  change EStateM.Result.ok () { s with problems := s.problems ++ [] } = .ok () s
  rw [List.append_nil]

/-- An exported declaration of variables, from its keyword `export` on. -/
theorem statement_export (g : Grammar) (hs : s.token.lexeme = .word "export" false)
    (hc : s.next.token.lexeme = .word "const" false) :
    Parser.statement g Scope.top true s =
      (Item.exportDeclaration <$> Parser.exportVariables g Scope.top "const") s.next := by
  have hword : Parser.statement g Scope.top true s = Parser.exportItem g Scope.top [] s := by
    simp [Parser.statement, hs, Parser.wordStatement]
  simp [hword, Parser.exportItem, Parser.decorators, repeatStep_first, Parser.exportDeclaration, hc,
    checkMarks_nil]

/-- The variable that is exported is read up to its value. -/
theorem declarator_apply (depth : Nat)
    (hs : s.Before exported (componentsExport.toList ++ ' ' :: '=' :: ' ' :: chars)) :
    ∃ s', s'.Before exported chars ∧
      Parser.declarator (.level (depth + 2)) Scope.top "const" false s =
        (Prod.mk (.name componentsExport) <$>
          Parser.assignment (.level (depth + 1)) Scope.top) s' := by
  have hi : isIdentifier componentsExport = true := by decide
  have hw : isWord componentsExport = true := by decide
  have hl := hs.lexeme (opens_word hw (endsWord_blank _))
  obtain ⟨s', hbound, hs'⟩ := boundName_reads hi hw (endsWord_blank _) hs
  have htarget : (Grammar.level (depth + 2)).target Scope.top s =
      .ok (.name componentsExport) s' := by
    simp [Grammar.level, Parser.target, hl, hbound]
  have hassignment : (Grammar.level (depth + 2)).assignment Scope.top =
      Parser.assignment (.level (depth + 1)) Scope.top := rfl
  have hplain : Parser.declaresResource "const" = false := rfl
  refine ⟨s'.next, (hs'.blank.next (opens_equals _)).blank, ?_⟩
  simp [Parser.declarator, htarget, hs'.blank.lexeme (opens_equals _), hassignment, hplain]

theorem noteExport_apply (name : String) (start stop : Nat) : Parser.noteExport name start stop s =
    .ok () { s with exported := s.exported ++ [(name, start, stop)] } := rfl

section
variable {overrides : List Override}

/-- The keywords of the export, and the place after them. -/
theorem before_declarator (hs : s.Before exported ((exportText overrides).toList ++ rest)) :
    s.token.lexeme = .word "export" false ∧ s.next.token.lexeme = .word "const" false ∧
      s.next.next.Before exported
        (componentsExport.toList ++ ' ' :: '=' :: ' ' :: objectText overrides rest) := by
  rw [exportText_append] at hs
  have hexport := opens_keyword "export" (by decide) ("const".toList ++
    ' ' :: (componentsExport.toList ++ ' ' :: '=' :: ' ' :: objectText overrides rest))
  have hconst := opens_keyword "const" (by decide)
    (componentsExport.toList ++ ' ' :: '=' :: ' ' :: objectText overrides rest)
  have hs' := (hs.next hexport).blank
  exact ⟨hs.lexeme hexport, hs'.lexeme hconst, (hs'.next hconst).blank⟩

/-- The generated export is read as its item where all elements without quotes are words, and
exports one name. -/
theorem export_reads (hne : overrides ≠ []) (hw : AllWords (bareElements overrides)) (depth : Nat)
    (hs : s.Before exported ((exportText overrides).toList ++ rest)) :
    ∃ s', Parser.statement (.level (depth + 2)) Scope.top true s =
        .ok (OverrideFragments.item overrides) s' ∧
      s'.Before (exported ++ [componentsExport]) rest := by
  obtain ⟨hexport, hconst, hname⟩ := before_declarator hs
  obtain ⟨s₁, hs₁, hdeclarator⟩ := declarator_apply depth hname
  obtain ⟨s₂, hvalue, hs₂⟩ := object_reads hne hw depth rest hs₁
  have hend : Opens (';' :: rest) (.mark ";") rest := opens_mark (by decide)
  have hsemicolon := hs₂.lexeme hend
  let start := s.next.next.token.start
  refine ⟨_, ?_, hs₂.exporting hend componentsExport (start, start + componentsExport.utf8ByteSize)⟩
  rw [statement_export _ hexport hconst]
  simp [Parser.exportVariables, Parser.exportVariable, hdeclarator, hvalue, noteExport_apply,
    repeatStep_first, hsemicolon, Parser.endStatement, OverrideFragments.item, start]

/-- The generated export is not read where an element without quotes is no word. -/
theorem export_stops (hw : ¬AllWords (bareElements overrides)) (depth : Nat)
    (hs : s.Before exported ((exportText overrides).toList ++ rest)) :
    ∃ d s', Parser.statement (.level (depth + 2)) Scope.top true s = .error d s' := by
  obtain ⟨hexport, hconst, hname⟩ := before_declarator hs
  obtain ⟨s₁, hs₁, hdeclarator⟩ := declarator_apply depth hname
  obtain ⟨d, s₂, hd⟩ := object_stops hw depth rest hs₁
  refine ⟨d, s₂, ?_⟩
  rw [statement_export _ hexport hconst]
  simp [Parser.exportVariables, Parser.exportVariable, hdeclarator, hd]

end

end

-- ---------------------------------------------------------------------------
-- The export as module code
-- ---------------------------------------------------------------------------

section
variable {overrides : List Override}

theorem ofLength_eq (length : Nat) : Grammar.ofLength length = .level (3 * length + 6 + 2) := rfl

theorem before_export (overrides : List Override) :
    (State.ofText (exportText overrides)).Before [] ((exportText overrides).toList ++ []) := by
  have hhead : (exportText overrides).toList.head? = some 'e' := by
    rw [← List.append_nil (exportText overrides).toList, exportText_append]
    rfl
  have hshebang : (exportText overrides).toList.head? ≠ some '#' := by simp [hhead]
  simpa using before_ofText hshebang

theorem lexeme_export (overrides : List Override) :
    (State.ofText (exportText overrides)).token.lexeme = .word "export" false :=
  (before_declarator (before_export overrides)).1

theorem read_export (hne : overrides ≠ []) (hw : AllWords (bareElements overrides)) :
    read (exportText overrides) = .ok [OverrideFragments.item overrides] := by
  obtain ⟨s', hstatement, hs'⟩ := export_reads hne hw
    (3 * (exportText overrides).length + 6) (before_export overrides)
  have hend := hs'.opens opens_nil
  have hstep := itemStep_item (by simp [lexeme_export]) hstatement []
  have hrun : Parser.items (Grammar.ofLength (exportText overrides).length)
      (State.ofText (exportText overrides)) = .ok
        [⟨OverrideFragments.item overrides,
          (State.ofText (exportText overrides)).token.start, s'.previous⟩] s' := by
    rw [items_eq, ofLength_eq, repeatStep_apply, repeatFor_inl hstep,
      repeatFor_inr (itemStep_end hend.1 _)]
    rfl
  rw [read_of_items hrun hend.2.2 (by simp)]
  rfl

theorem read_export_fails (hw : ¬AllWords (bareElements overrides)) :
    ∃ problems, read (exportText overrides) = .error problems := by
  obtain ⟨d, s', hd⟩ := export_stops hw
    (3 * (exportText overrides).length + 6) (before_export overrides)
  have hstep := itemStep_fails (by simp [lexeme_export]) hd []
  refine read_of_error (d := d) (s := s') ?_
  rw [items_eq, ofLength_eq, repeatStep_first, hstep]

end

end Module

end PagePrelude
