import PagePrelude.Proofs.Module.Lists

/-!
# Reading statements

Statements that stand one a line. Where each of them is read, the text is module code
with these items (`read_statements`); where the parser fails at one of them, the text is
no module code (`read_fails`).
-/

namespace PagePrelude.Module

/-- The parser reads `text` as `value` wherever it stands as a statement. -/
structure ReadsStatement (g : Grammar) (text : List Char) (value : Item) : Prop where
  opens : ∀ rest, ∃ found left, Opens (text ++ rest) found (left ++ rest) ∧ found ≠ .endOfText
  reads : ∀ rest, Reads (Parser.statement g Scope.top true) (text ++ rest) value rest

/-- The parser fails at `text` wherever it stands as a statement. -/
structure StopsStatement (g : Grammar) (text : List Char) : Prop where
  opens : ∀ rest, ∃ found left, Opens (text ++ rest) found left ∧ found ≠ .endOfText
  stops : ∀ rest, Stops (Parser.statement g Scope.top true) (text ++ rest)

-- ---------------------------------------------------------------------------
-- The items of a text
-- ---------------------------------------------------------------------------

/-- One step of reading items: the end of the text, or one more item. -/
def itemStep (g : Grammar) (items : List PlacedItem) :
    Parser (List PlacedItem ⊕ List PlacedItem) := do
  if (← Parser.lexeme) == .endOfText then return .inr items.reverse
  else
    let start ← Parser.start
    let item ← Parser.statement g Scope.top true
    return .inl (⟨item, start, ← Parser.previous⟩ :: items)

theorem items_eq (g : Grammar) : Parser.items g = Parser.repeatStep (itemStep g) [] := rfl

section
variable {g : Grammar} {s s' : State} {textOf : ε → List Char} {valueOf : ε → Item}
  {exported : List String}

theorem itemStep_end (h : s.token.lexeme = .endOfText) (items : List PlacedItem) :
    itemStep g items s = .ok (.inr items.reverse) s := by
  simp [itemStep, h]

theorem itemStep_item (h : s.token.lexeme ≠ .endOfText)
    (hr : Parser.statement g Scope.top true s = .ok value s') (items : List PlacedItem) :
    itemStep g items s = .ok (.inl (⟨value, s.token.start, s'.previous⟩ :: items)) s' := by
  simp [itemStep, h, hr]

theorem itemStep_fails (h : s.token.lexeme ≠ .endOfText)
    (hr : Parser.statement g Scope.top true s = .error d s') (items : List PlacedItem) :
    itemStep g items s = .error d s' := by
  simp [itemStep, h, hr]

theorem next_line {rest : List Char} (h : s.Before exported (['\n'] ++ rest)) :
    s.Before exported rest :=
  State.Before.newLine h

/-- The lines after those that were read, up to the end of the text. -/
theorem itemStep_reads {entries : List ε}
    (hi : ∀ e ∈ entries, ReadsStatement g (textOf e) (valueOf e)) (hf : entries.length < fuel)
    (items : List PlacedItem) (hs : s.Before exported (others ['\n'] (entries.map textOf))) :
    ∃ found s', Parser.repeatFor (itemStep g) fuel items s = .ok found s' ∧
      found.map PlacedItem.item = items.reverse.map PlacedItem.item ++ entries.map valueOf ∧
      s'.Sound exported := by
  induction entries generalizing fuel items s with
  | nil =>
    obtain ⟨fuel, rfl⟩ := Nat.exists_eq_add_one.mpr (Nat.zero_lt_of_lt hf)
    have hend := hs.opens opens_nil
    exact ⟨_, s, repeatFor_inr (itemStep_end hend.1 items), by simp, hend.2.2⟩
  | cons e entries ih =>
    obtain ⟨fuel, rfl⟩ := Nat.exists_eq_add_one.mpr (Nat.zero_lt_of_lt hf)
    have hstatement := hi e (by simp)
    rw [List.map_cons, others_cons] at hs
    have hline := next_line hs
    obtain ⟨_, left, hopens, hne⟩ := hstatement.opens (others ['\n'] (entries.map textOf))
    obtain ⟨s', hread, hs'⟩ := hstatement.reads _ hline
    obtain ⟨found, s'', hrun, hmap, hs''⟩ :=
      ih (fun e he => hi e (by simp [he])) (by simpa using hf)
        (⟨valueOf e, s.token.start, s'.previous⟩ :: items) hs'
    refine ⟨found, s'', ?_, by simp [hmap], hs''⟩
    rw [repeatFor_inl (itemStep_item (hline.lexeme hopens ▸ hne) hread items), hrun]

theorem fails_without_fuel (items : List PlacedItem) :
    ∃ d s', Parser.repeatFor (itemStep g) 0 items s = .error d s' :=
  exhausted_fails

/-- A line that the parser fails at ends the reading, whatever comes after it. -/
theorem itemStep_stop (hb : StopsStatement g bad) (items : List PlacedItem)
    (hs : s.Before exported (bad ++ rest)) (fuel : Nat) :
    ∃ d s', Parser.repeatFor (itemStep g) fuel items s = .error d s' := by
  cases fuel with
  | zero => exact fails_without_fuel items
  | succ fuel =>
    obtain ⟨_, left, hopens, hne⟩ := hb.opens rest
    obtain ⟨d, s', hd⟩ := hb.stops rest hs
    have hstep := itemStep_fails (hs.lexeme hopens ▸ hne) hd items
    exact ⟨d, s', by simp [Parser.repeatFor, hstep]⟩

/-- Lines after those that were read, up to one that the parser fails at. -/
theorem itemStep_stops {entries : List ε}
    (hi : ∀ e ∈ entries, ReadsStatement g (textOf e) (valueOf e)) (hb : StopsStatement g bad)
    (items : List PlacedItem)
    (hs : s.Before exported (others ['\n'] (entries.map textOf) ++ (['\n'] ++ (bad ++ rest))))
    (fuel : Nat) : ∃ d s', Parser.repeatFor (itemStep g) fuel items s = .error d s' := by
  induction entries generalizing fuel items s with
  | nil => exact itemStep_stop hb items (next_line hs) fuel
  | cons e entries ih =>
    cases fuel with
    | zero => exact fails_without_fuel items
    | succ fuel =>
      have hstatement := hi e (by simp)
      rw [List.map_cons, others_cons, List.append_assoc, List.append_assoc] at hs
      have hline := next_line hs
      obtain ⟨_, left, hopens, hne⟩ := hstatement.opens
        (others ['\n'] (entries.map textOf) ++ (['\n'] ++ (bad ++ rest)))
      obtain ⟨s', hread, hs'⟩ := hstatement.reads _ hline
      obtain ⟨d, s'', hd⟩ := ih (fun e he => hi e (by simp [he]))
        (⟨valueOf e, s.token.start, s'.previous⟩ :: items) hs' fuel
      refine ⟨d, s'', ?_⟩
      rw [repeatFor_inl (itemStep_item (hline.lexeme hopens ▸ hne) hread items), hd]

theorem items_read {entries : List ε}
    (hi : ∀ e ∈ entries, ReadsStatement g (textOf e) (valueOf e)) (hne : entries ≠ [])
    (hs : s.Before exported (['\n'].intercalate (entries.map textOf))) :
    ∃ found s', Parser.items g s = .ok found s' ∧
      found.map PlacedItem.item = entries.map valueOf ∧ s'.Sound exported := by
  obtain ⟨e, entries, rfl⟩ := List.exists_cons_of_ne_nil hne
  have hstatement := hi e (by simp)
  rw [List.map_cons, intercalate_eq] at hs
  obtain ⟨_, left, hopens, hend⟩ := hstatement.opens (others ['\n'] (entries.map textOf))
  obtain ⟨s', hread, hs'⟩ := hstatement.reads _ hs
  -- The fuel is counted in characters, and every further line takes at least its line break.
  have hfuel : entries.length < s.rest.length + 1 := by
    have hle := length_le_others (List.cons_ne_nil '\n' []) (entries.map textOf)
    rw [(hs.opens hopens).2.1]
    simp only [List.length_append, List.length_map] at hle ⊢
    omega
  obtain ⟨found, s'', hrun, hmap, hs''⟩ := itemStep_reads (fun e he => hi e (by simp [he])) hfuel
    [⟨valueOf e, s.token.start, s'.previous⟩] hs'
  refine ⟨found, s'', ?_, by simpa using hmap, hs''⟩
  rw [items_eq, repeatStep_apply,
    repeatFor_inl (itemStep_item (hs.lexeme hopens ▸ hend) hread []), hrun]

theorem items_stop {entries : List ε}
    (hi : ∀ e ∈ entries, ReadsStatement g (textOf e) (valueOf e)) (hb : StopsStatement g bad)
    (more : List (List Char))
    (hs : s.Before exported (['\n'].intercalate (entries.map textOf ++ bad :: more))) :
    ∃ d s', Parser.items g s = .error d s' := by
  rw [items_eq, repeatStep_apply]
  cases entries with
  | nil =>
    rw [List.map_nil, List.nil_append, intercalate_eq] at hs
    exact itemStep_stop hb [] hs _
  | cons e entries =>
    rw [List.map_cons, List.cons_append, intercalate_eq, others_append, others_cons] at hs
    have hstatement := hi e (by simp)
    obtain ⟨_, left, hopens, hne⟩ := hstatement.opens (others ['\n'] (entries.map textOf) ++
      (['\n'] ++ (bad ++ others ['\n'] more)))
    obtain ⟨s', hread, hs'⟩ := hstatement.reads _ hs
    obtain ⟨d, s'', hd⟩ := itemStep_stops (fun e he => hi e (by simp [he])) hb
      [⟨valueOf e, s.token.start, s'.previous⟩] hs' (s.rest.length + 1)
    refine ⟨d, s'', ?_⟩
    rw [repeatFor_inl (itemStep_item (hs.lexeme hopens ▸ hne) hread []), hd]

end

-- ---------------------------------------------------------------------------
-- Texts as module code
-- ---------------------------------------------------------------------------

theorem before_ofText (h : text.toList.head? ≠ some '#') :
    (State.ofText text).Before [] text.toList := by
  have hchars : afterShebang text.toList = text.toList := by
    unfold afterShebang
    split
    · rename_i heq
      simp [heq] at h
    · rfl
  refine ⟨State.before 0 text.toList, [], ⟨rfl, rfl, rfl, rfl, rfl⟩, rfl, by simp, ?_⟩
  simp [State.ofText, hchars]

/-- A text whose items are read without a problem, and that exports at most one name, is module
code. -/
theorem read_of_items {items : List PlacedItem} {exported : List String}
    (h : Parser.items (Grammar.ofLength text.length) (State.ofText text) = .ok items s)
    (hs : s.Sound exported) (he : exported.length ≤ 1) :
    read text = .ok (items.map PlacedItem.item) := by
  have hrepeated : repeatedExports [] s.exported = [] := by
    have hlength : s.exported.length ≤ 1 := by
      rw [← hs.exported, List.length_map] at he
      exact he
    match hexported : s.exported with
    | [] => rfl
    | [(name, place)] => rfl
    | _ :: _ :: _ => simp [hexported] at hlength
  have hall : s.allProblems none = [] := by
    simp [State.allProblems, State.lateProblems, hs.lexical, hs.problems, hs.covers, hrepeated]
  simp [read, readPlaced, h, hall, reported, Except.map]

theorem read_of_error
    (h : Parser.items (Grammar.ofLength text.length) (State.ofText text) = .error d s) :
    ∃ problems, read text = .error problems := by
  simp [read, readPlaced, h, Except.map]

theorem reported_ne_nil (text : String) (state : State) {problems : List Diagnostic}
    (h : problems ≠ []) : reported text state problems ≠ [] := by
  unfold reported
  split
  · split
    · exact List.cons_ne_nil _ _
    · exact h
  · exact h

theorem items_of_read {own : List Item} (h : read text = .ok own) : ∃ items s,
    Parser.items (Grammar.ofLength text.length) (State.ofText text) = .ok items s ∧
      s.allProblems none = [] ∧ items.map PlacedItem.item = own := by
  cases hrun : Parser.items (Grammar.ofLength text.length) (State.ofText text) with
  | error d s =>
    obtain ⟨problems, hproblems⟩ := read_of_error hrun
    cases h.symm.trans hproblems
  | ok items s =>
    simp only [read, readPlaced, hrun] at h
    by_cases hall : s.allProblems none = []
    · rw [hall] at h
      exact ⟨items, s, rfl, hall, Except.ok.inj h⟩
    · split at h
      · exact absurd ‹_› (reported_ne_nil text s hall)
      · cases h

section
variable {textOf : ε → String} {valueOf : ε → Item} {entries : List ε}

/-- Lines that are read one by one in the grammar for a text are module code with these items. -/
theorem read_lines
    (hi : ∀ length, ∀ e ∈ entries,
      ReadsStatement (.ofLength length) (textOf e).toList (valueOf e))
    (hne : entries ≠ []) (hh : ("\n".intercalate (entries.map textOf)).toList.head? ≠ some '#') :
    read ("\n".intercalate (entries.map textOf)) = .ok (entries.map valueOf) := by
  have hs := before_ofText hh
  have htext : ("\n".intercalate (entries.map textOf)).toList =
      ['\n'].intercalate (entries.map fun e => (textOf e).toList) := by
    simp [Function.comp_def]
  rw [htext] at hs
  obtain ⟨items, s', hrun, hmap, hs'⟩ := items_read (hi _) hne hs
  rw [read_of_items hrun hs' (by simp), hmap]

/-- Lines that are read whatever the grammar encloses are module code with these items. -/
theorem read_statements (hi : ∀ g, ∀ e ∈ entries, ReadsStatement g (textOf e).toList (valueOf e))
    (hne : entries ≠ []) (hh : ("\n".intercalate (entries.map textOf)).toList.head? ≠ some '#') :
    read ("\n".intercalate (entries.map textOf)) = .ok (entries.map valueOf) :=
  read_lines (fun length => hi (.ofLength length)) hne hh

/-- Lines one of which the parser fails at are no module code. -/
theorem read_fails (hi : ∀ g, ∀ e ∈ entries, ReadsStatement g (textOf e).toList (valueOf e))
    (hb : ∀ g, StopsStatement g bad.toList) (more : List String)
    (hh : ("\n".intercalate (entries.map textOf ++ bad :: more)).toList.head? ≠ some '#') :
    ∃ problems, read ("\n".intercalate (entries.map textOf ++ bad :: more)) = .error problems := by
  have hs := before_ofText hh
  have htext : ("\n".intercalate (entries.map textOf ++ bad :: more)).toList =
      ['\n'].intercalate ((entries.map fun e => (textOf e).toList) ++
        bad.toList :: more.map String.toList) := by
    simp [Function.comp_def]
  rw [htext] at hs
  obtain ⟨d, s', hd⟩ := items_stop (hi _) (hb _) (more.map String.toList) hs
  exact read_of_error hd

end

end PagePrelude.Module
