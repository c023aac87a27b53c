import PagePrelude.Proofs.AuthorExports
import PagePrelude.Proofs.Injectors

/-!
# Runs of an injector

A tree can be edited many times: code is put in front of it, nodes are added at its end.
Once the generated export is in a tree it is found again, whatever comes later, so that a
run puts it in at most once (`run_injects_once`).
-/

namespace PagePrelude

-- ---------------------------------------------------------------------------
-- Edits
-- ---------------------------------------------------------------------------

/-- Something that is done to the tree of a document. -/
inductive Edit where
  | inject
  /-- The transform, for a document of some kind. -/
  | transform (kind : DocumentKind)
  /-- A node at the end of what the tree holds. -/
  | push (node : Node)

namespace Edit

/-- Whether an edit puts generated code into a tree. -/
def takesCode : Edit → Bool
  | inject => true
  | transform kind => kind.hasModuleCode
  | push _ => false

/-- The node that an edit adds at the end. -/
def pushed? : Edit → Option Node
  | push node => some node
  | _ => none

end Edit

/-- Whether a node is a copy of generated code. -/
def GeneratedCode.isCopy (code : GeneratedCode) : Node → Bool
  | .mk (.moduleCode value) none [] => value == code.text
  | _ => false

theorem GeneratedCode.isCopy_iff (code : GeneratedCode) (node : Node) :
    code.isCopy node = true ↔ node = code.node := by
  unfold GeneratedCode.isCopy
  split
  · simp [GeneratedCode.node, Node.ofCode]
  · rename_i hnone
    refine iff_of_false (by simp) fun h => ?_
    exact hnone code.text h

namespace Injector

/-- The tree after an edit, with the report of the injector. -/
def apply (injector : Injector) (tree : Node) : Edit → Node × Option Injection
  | .inject =>
    let injected := injector.inject tree
    (injected.tree, some injected.injection)
  | .transform kind =>
    let injected := injector.transform kind tree
    (injected.tree, some injected.injection)
  | .push node => (tree.withChildren (tree.children ++ [node]), none)

/-- An edit with the report of the injector. -/
abbrev Entry := Edit × Option Injection

/-- Whether the export was put in. -/
def Entry.injected (entry : Entry) : Bool :=
  entry.2.any (·.overrides = .injected)

/-- The tree after some edits, with the edits and their reports in order. -/
def run (injector : Injector) : Node → List Edit → Node × List Entry
  | tree, [] => (tree, [])
  | tree, edit :: edits =>
    let (next, report) := injector.apply tree edit
    let (last, entries) := injector.run next edits
    (last, (edit, report) :: entries)

-- ---------------------------------------------------------------------------
-- One edit
-- ---------------------------------------------------------------------------

section
variable {injector : Injector} {config : Config} {code : GeneratedCode} {span : Option Span}
  {children : List Node}

def rootOutcome (injector : Injector) (span : Option Span) (children : List Node) :
    OverrideOutcome :=
  injector.outcome (injector.authored (.mk .root span children)).1

def inFront (injector : Injector) (span : Option Span) (children : List Node) (edit : Edit) :
    List Node :=
  if edit.takesCode then injector.nodes (injector.rootOutcome span children) else []

def reportOf (injector : Injector) (span : Option Span) (children : List Node) (edit : Edit) :
    Option Injection :=
  if edit.takesCode then
    some ⟨injector.importCode.isSome, injector.rootOutcome span children⟩
  else if edit.pushed?.isSome then none else some {}

/-- An edit of a root puts nodes in front of what it holds, or one at the end. -/
theorem apply_root (edit : Edit) : injector.apply (.mk .root span children) edit =
    (.mk .root span (injector.inFront span children edit ++ children ++ edit.pushed?.toList),
      injector.reportOf span children edit) := by
  cases edit with
  | inject =>
    simp [apply, inject, inFront, reportOf, rootOutcome, Edit.takesCode, Edit.pushed?]
  | transform kind =>
    cases kind <;> simp [apply, transform, inject, inFront, reportOf, rootOutcome,
      Edit.takesCode, Edit.pushed?, DocumentKind.hasModuleCode]
  | push node =>
    simp [apply, inFront, reportOf, Edit.takesCode, Edit.pushed?, Node.withChildren, Node.kind,
      Node.span, Node.children, NodeKind.isParent]

/-- A piece of module code at the top level exports the overrides. -/
def Settled (children : List Node) : Prop :=
  ∃ node ∈ children, ∃ value ∈ node.code?, (Module.exports value componentsExport).1 = true

theorem Settled.append_left (h : Settled children) (nodes : List Node) :
    Settled (nodes ++ children) := by
  obtain ⟨node, hnode, hvalue⟩ := h
  exact ⟨node, List.mem_append_right _ hnode, hvalue⟩

theorem Settled.append_right (h : Settled children) (nodes : List Node) :
    Settled (children ++ nodes) := by
  obtain ⟨node, hnode, hvalue⟩ := h
  exact ⟨node, List.mem_append_left _ hnode, hvalue⟩

theorem Settled.outcome (h : Settled children) (hc : injector.exportCode = some code) :
    injector.rootOutcome span children = .authored := by
  obtain ⟨node, hnode, value, hvalue, hexports⟩ := h
  have hscanned : ((Node.mk .root span children).exports componentsExport).1 = true := by
    refine (Node.exports_scanned _ _ _).mpr ⟨value, List.mem_append_left _ ?_, hexports⟩
    exact List.mem_filterMap.mpr ⟨node, hnode, hvalue⟩
  simp [rootOutcome, Injector.outcome, authored, hc, hscanned]

/-- Where the export was put in, it is found from then on. -/
theorem settled_of_injected (hc : injector.exportCode = some code)
    (he : (Module.exports code.text componentsExport).1 = true) {edit : Edit}
    (h : Entry.injected (edit, injector.reportOf span children edit) = true) :
    Settled (injector.inFront span children edit) := by
  have hcode : edit.takesCode = true ∧ injector.rootOutcome span children = .injected := by
    unfold reportOf at h
    split at h
    · rename_i htakes
      exact ⟨htakes, by simpa [Entry.injected] using h⟩
    · split at h <;> simp [Entry.injected] at h
  refine ⟨code.node, ?_, code.text, rfl, he⟩
  simp [inFront, hcode.1, hcode.2, nodes, hc]

/-- The nodes in front hold a copy of the export exactly where it was put in. -/
theorem copies_inFront (hc : injector.exportCode = some code)
    (hi : ∀ imports ∈ injector.importCode, imports.text ≠ code.text) (edit : Edit) :
    (injector.inFront span children edit).countP code.isCopy =
      if Entry.injected (edit, injector.reportOf span children edit) then 1 else 0 := by
  have himports : injector.importCode.toList.countP
      (code.isCopy ∘ GeneratedCode.node) = 0 := by
    rw [List.countP_eq_zero]
    intro imports himports hcopy
    exact hi imports (by simpa using himports) (beq_iff_eq.mp hcopy)
  have hself : code.isCopy code.node = true := (code.isCopy_iff _).mpr rfl
  by_cases htakes : edit.takesCode = true
  · by_cases houtcome : injector.rootOutcome span children = .injected
    · simp [inFront, reportOf, Entry.injected, htakes, houtcome, nodes, hc, List.countP_map,
        himports, hself]
    · simp [inFront, reportOf, Entry.injected, htakes, houtcome, nodes, List.countP_map, himports]
  · unfold inFront reportOf
    split
    · contradiction
    · split <;> simp [Entry.injected]

-- ---------------------------------------------------------------------------
-- Runs
-- ---------------------------------------------------------------------------

theorem run_cons (injector : Injector) (edit : Edit) (edits : List Edit) :
    injector.run (.mk .root span children) (edit :: edits) =
      let rest := injector.run
        (.mk .root span (injector.inFront span children edit ++ children ++ edit.pushed?.toList))
        edits
      (rest.1, (edit, injector.reportOf span children edit) :: rest.2) := by
  rw [run, apply_root]

/-- A report on code that was not put in, because it was there. -/
def Entry.Authored (entry : Entry) : Prop :=
  entry.1.takesCode = true → entry.2.map Injection.overrides = some .authored

theorem Entry.Authored.not_injected {entry : Entry} (h : entry.Authored)
    (hr : entry.2 = injector.reportOf span children entry.1) : entry.injected = false := by
  obtain ⟨edit, report⟩ := entry
  obtain rfl : report = injector.reportOf span children edit := hr
  by_cases htakes : edit.takesCode = true
  · obtain ⟨injection, hreport, houtcome⟩ := Option.map_eq_some_iff.mp (h htakes)
    have hreport : injector.reportOf span children edit = some injection := hreport
    simp [Entry.injected, hreport, houtcome]
  · unfold reportOf
    split
    · contradiction
    · split <;> simp [Entry.injected]

theorem reportOf_settled (hc : injector.exportCode = some code) (hs : Settled children)
    (span : Option Span) (edit : Edit) :
    Entry.Authored (edit, injector.reportOf span children edit) := by
  intro htakes
  have htakes : edit.takesCode = true := htakes
  simp [reportOf, htakes, hs.outcome hc]

/-- Once the export is there, no edit puts it in. -/
theorem run_settled (hc : injector.exportCode = some code) (edits : List Edit)
    (hs : Settled children) :
    ∀ entry ∈ (injector.run (.mk .root span children) edits).2,
      entry.Authored ∧ entry.injected = false := by
  induction edits generalizing children with
  | nil => simp [run]
  | cons edit edits ih =>
    rw [run_cons]
    intro entry hentry
    rcases List.mem_cons.mp hentry with rfl | hentry
    · have hauthored := reportOf_settled hc hs span edit
      exact ⟨hauthored, hauthored.not_injected rfl⟩
    · exact ih ((hs.append_left _).append_right _) entry hentry

/-- After the edit that puts the export in, no other does. -/
theorem run_pairwise (hc : injector.exportCode = some code)
    (he : (Module.exports code.text componentsExport).1 = true) (span : Option Span)
    (children : List Node) (edits : List Edit) :
    (injector.run (.mk .root span children) edits).2.Pairwise fun earlier later =>
      earlier.injected = true → later.Authored ∧ later.injected = false := by
  induction edits generalizing children with
  | nil => simp [run]
  | cons edit edits ih =>
    rw [run_cons]
    refine List.pairwise_cons.mpr ⟨fun later hlater hinjected => ?_, ih _⟩
    have hsettled := settled_of_injected hc he hinjected
    exact run_settled hc edits ((hsettled.append_right _).append_right _) later hlater

theorem run_children (injector : Injector) (span : Option Span) (children : List Node)
    (edits : List Edit) :
    ∃ final, (injector.run (.mk .root span children) edits).1 = .mk .root span final := by
  induction edits generalizing children with
  | nil => exact ⟨children, rfl⟩
  | cons edit edits ih =>
    rw [run_cons]
    exact ih _

theorem run_edits (injector : Injector) (edits : List Edit) :
    (injector.run (.mk .root span children) edits).2.map Prod.fst = edits := by
  induction edits generalizing children with
  | nil => rfl
  | cons edit edits ih => rw [run_cons, List.map_cons, ih]

theorem pushed_cons (edit : Edit) (edits : List Edit) :
    (edit :: edits).filterMap Edit.pushed? =
      edit.pushed?.toList ++ edits.filterMap Edit.pushed? := by
  cases hnode : edit.pushed? <;> simp [hnode]

/-- A run adds a copy of the export with every edit that puts it in, or pushes it. -/
theorem copies_run (hc : injector.exportCode = some code)
    (hi : ∀ imports ∈ injector.importCode, imports.text ≠ code.text) (span : Option Span)
    (children : List Node) (edits : List Edit) :
    (injector.run (.mk .root span children) edits).1.children.countP code.isCopy =
      (injector.run (.mk .root span children) edits).2.countP Entry.injected +
        (edits.filterMap Edit.pushed?).countP code.isCopy + children.countP code.isCopy := by
  induction edits generalizing children with
  | nil => simp [run, Node.children]
  | cons edit edits ih =>
    rw [run_cons, ih, List.countP_cons, List.countP_append, List.countP_append,
      copies_inFront hc hi, pushed_cons, List.countP_append]
    omega

theorem countP_le_one {list : List α} {p : α → Bool}
    (h : list.Pairwise fun earlier later => p earlier = true → p later = false) :
    list.countP p ≤ 1 := by
  induction h with
  | nil => simp
  | @cons a list ha _ ih =>
    rw [List.countP_cons]
    split
    · rename_i hp
      have hnone : list.countP p = 0 := by
        rw [List.countP_eq_zero]
        intro b hb
        simp [ha b hb hp]
      omega
    · omega

end

-- ---------------------------------------------------------------------------
-- The generated export
-- ---------------------------------------------------------------------------

theorem importsText_ne_exportText (config : Config) (hne : config.statements ≠ []) :
    config.importsText ≠ Module.exportText config.overrides := by
  obtain ⟨rest, hexport⟩ := exportText_begins config.overrides
  intro heq
  have hhead := head_importsText hne
  rw [heq, ← hexport] at hhead
  cases hhead

/-- In any run on a root, the generated export is put in at most once. Every edit after that which
puts code in reports an export of the author, and the tree ends with as many copies of the
generated export as were put in, were pushed and were there before. -/
theorem run_injects_once {config : Config} {injector : Injector}
    (hi : Injector.ofConfig config = .ok injector) (hne : config.overrides ≠ [])
    (span : Option Span) (children : List Node) (edits : List Edit) :
    ∃ code final entries, injector.exportCode = some code ∧
      injector.run (.mk .root span children) edits = (.mk .root span final, entries) ∧
      entries.map Prod.fst = edits ∧
      entries.countP Entry.injected ≤ 1 ∧
      (entries.Pairwise fun earlier later => earlier.injected = true → later.Authored) ∧
      final.countP code.isCopy = entries.countP Entry.injected +
        (edits.filterMap Edit.pushed?).countP code.isCopy + children.countP code.isCopy := by
  obtain ⟨hcode, hwords⟩ := exportCode_made hi
  obtain ⟨code, hc⟩ : ∃ code, injector.exportCode = some code :=
    ⟨_, hcode.trans (mem_exportCode.mpr ⟨hne, rfl⟩)⟩
  obtain ⟨-, rfl⟩ := mem_exportCode.mp (hcode.symm.trans hc)
  have hexports : (Module.exports (Module.exportText config.overrides) componentsExport).1 =
      true := by
    rw [exports_export hne hwords]
    rfl
  have himports : ∀ imports ∈ injector.importCode,
      imports.text ≠ Module.exportText config.overrides := by
    intro imports himports
    rcases importCode_made hi with ⟨-, hnone⟩ | ⟨hstatements, _, -, hsome⟩
    · rw [hnone] at himports
      cases himports
    · rw [hsome] at himports
      cases himports
      exact importsText_ne_exportText config hstatements
  have hpairs := run_pairwise hc hexports span children edits
  obtain ⟨final, hfinal⟩ := run_children injector span children edits
  have hcopies := copies_run hc himports span children edits
  rw [hfinal] at hcopies
  refine ⟨_, final, _, hc, by rw [← hfinal], run_edits injector edits, ?_, ?_, hcopies⟩
  · exact countP_le_one (hpairs.imp fun h hinjected => (h hinjected).2)
  · exact hpairs.imp fun h hinjected => (h hinjected).1

/-- Code that cannot be read is pushed between two injections. -/
theorem run_injects_once_unreadable :
    let config : Config := { overrides := [⟨"a", .default "./A.js"⟩], root := "/site" }
    let edits : List Edit :=
      [.inject, .push (.ofCode "export const"), .transform .markdown, .transform .mdx]
    ∃ injector code final entries, Injector.ofConfig config = .ok injector ∧
      config.overrides ≠ [] ∧ injector.exportCode = some code ∧
      injector.run (.mk .root none []) edits = (.mk .root none final, entries) ∧
      entries.countP Entry.injected ≤ 1 ∧
      final.countP code.isCopy = entries.countP Entry.injected +
        [Node.ofCode "export const"].countP code.isCopy := by
  intro config edits
  have ha : config.Accepted := fun entry hentry => (List.not_mem_nil hentry).elim
  have hi := ofConfig_ok ha (readable_of_ascii (by decide))
  have hne : config.overrides ≠ [] := by decide
  obtain ⟨code, final, entries, hc, hrun, -, honce, -, hcopies⟩ :=
    run_injects_once hi hne none [] edits
  exact ⟨_, code, final, entries, hi, hne, hc, hrun, honce, hcopies⟩

end Injector

end PagePrelude
