import PagePrelude.Proofs.Runs
import PagePrelude.Proofs.Splice

/-!
# What a run keeps

Every edit of a root adds nodes in front of what it holds, or one at its end. Over a run the
blocks in front pile up, the newest first, and what was there stays in order behind them
(`run_keeps_content`).
-/

namespace PagePrelude

namespace Node

@[simp] theorem withChildren_children (tree : Node) : tree.withChildren tree.children = tree := by
  obtain ⟨kind, span, children⟩ := tree
  exact ite_self _

theorem kind_withChildren (tree : Node) (nodes : List Node) :
    (tree.withChildren nodes).kind = tree.kind := by
  unfold withChildren
  split <;> rfl

/-- Nodes that are added after each other are added together. -/
theorem withChildren_push (tree : Node) (nodes more : List Node) :
    (tree.withChildren (tree.children ++ nodes)).withChildren
        ((tree.withChildren (tree.children ++ nodes)).children ++ more) =
      tree.withChildren (tree.children ++ (nodes ++ more)) := by
  obtain ⟨kind, span, children⟩ := tree
  cases hparent : kind.isParent <;>
    simp [withChildren, Node.kind, Node.children, Node.span, hparent]

end Node

namespace Injector

variable {injector : Injector} {span : Option Span} {children : List Node}

-- ---------------------------------------------------------------------------
-- One edit
-- ---------------------------------------------------------------------------

/-- The nodes that an edit puts in front of a root: the imports, then the export where it was put
in. -/
def Entry.front (injector : Injector) (entry : Entry) : List Node :=
  if entry.1.takesCode then
    injector.importCode.toList.map GeneratedCode.node ++
      if entry.injected then injector.exportCode.toList.map GeneratedCode.node else []
  else []

/-- What an edit of a root reports. -/
structure Entry.Faithful (injector : Injector) (entry : Entry) : Prop where
  silent : ∀ node, entry.1 = .push node → entry.2 = none
  /-- A document without module code of its own gets nothing. -/
  plain : entry.1 = .transform .markdown → entry.2 = some {}
  imports : entry.1.takesCode = true →
    entry.2.map Injection.imports = some injector.importCode.isSome
  counted : ∀ injection ∈ entry.2, injection.count = (entry.front injector).length

theorem injected_reportOf {edit : Edit} (h : edit.takesCode = true) :
    Entry.injected (edit, injector.reportOf span children edit) =
      decide (injector.rootOutcome span children = .injected) := by
  simp [Entry.injected, reportOf, h]

theorem front_reportOf (edit : Edit) :
    Entry.front injector (edit, injector.reportOf span children edit) =
      injector.inFront span children edit := by
  by_cases htakes : edit.takesCode = true
  · by_cases houtcome : injector.rootOutcome span children = .injected <;>
      simp [Entry.front, inFront, htakes, injected_reportOf htakes, houtcome, nodes]
  · simp [Entry.front, inFront, htakes]

theorem length_nodes (authored : Bool) : (injector.nodes (injector.outcome authored)).length =
    Injection.count ⟨injector.importCode.isSome, injector.outcome authored⟩ := by
  rw [← length_codes]
  exact List.length_map _

theorem reportOf_faithful (span : Option Span) (children : List Node) (edit : Edit) :
    Entry.Faithful injector (edit, injector.reportOf span children edit) where
  silent := by
    rintro node rfl
    rfl
  plain := by
    rintro rfl
    rfl
  imports htakes := by
    have htakes : edit.takesCode = true := htakes
    simp [reportOf, htakes]
  counted := by
    intro injection hinjection
    have hinjection : injector.reportOf span children edit = some injection := hinjection
    rw [front_reportOf]
    by_cases htakes : edit.takesCode = true
    · simp only [reportOf, inFront, htakes, if_true, Option.some.injEq] at hinjection ⊢
      rw [← hinjection]
      exact (length_nodes _).symm
    · simp only [reportOf, inFront, htakes, if_false, Bool.false_eq_true] at hinjection ⊢
      split at hinjection
      · cases hinjection
      · cases hinjection
        rfl

-- ---------------------------------------------------------------------------
-- Trees that are no roots
-- ---------------------------------------------------------------------------

/-- What an edit reports that leaves a tree alone. -/
def idleReport (edit : Edit) : Option Injection :=
  if edit.pushed?.isSome then none else some {}

theorem inject_other (injector : Injector) {tree : Node} (h : tree.kind ≠ .root) :
    (injector.inject tree).tree = tree ∧ (injector.inject tree).injection = {} := by
  obtain ⟨kind, span, children⟩ := tree
  cases kind with
  | root => exact absurd rfl h
  | _ => exact ⟨rfl, rfl⟩

theorem transform_other (injector : Injector) {tree : Node} (h : tree.kind ≠ .root)
    (kind : DocumentKind) :
    (injector.transform kind tree).tree = tree ∧ (injector.transform kind tree).injection = {} := by
  cases kind with
  | markdown => exact ⟨rfl, rfl⟩
  | mdx => exact injector.inject_other h

/-- An edit of a tree that is no root leaves it alone, or adds a node at its end. -/
theorem apply_other {tree : Node} (h : tree.kind ≠ .root) (edit : Edit) :
    injector.apply tree edit =
      (tree.withChildren (tree.children ++ edit.pushed?.toList), idleReport edit) := by
  cases edit with
  | inject =>
    obtain ⟨htree, hreport⟩ := injector.inject_other h
    simp [apply, htree, hreport, Edit.pushed?, idleReport]
  | transform kind =>
    obtain ⟨htree, hreport⟩ := injector.transform_other h kind
    simp [apply, htree, hreport, Edit.pushed?, idleReport]
  | push node => rfl

theorem run_other {tree : Node} (h : tree.kind ≠ .root) (edits : List Edit) :
    injector.run tree edits =
      (tree.withChildren (tree.children ++ edits.filterMap Edit.pushed?),
        edits.map fun edit => (edit, idleReport edit)) := by
  induction edits generalizing tree with
  | nil => simp [run]
  | cons edit edits ih =>
    have hnext : (tree.withChildren (tree.children ++ edit.pushed?.toList)).kind ≠ .root := by
      rwa [Node.kind_withChildren]
    simp only [run, apply_other h, ih hnext, Node.withChildren_push, pushed_cons, List.map_cons]

-- ---------------------------------------------------------------------------
-- Runs
-- ---------------------------------------------------------------------------

/-- A run on a root keeps what it holds, between the blocks that were put in front, the newest
first, and the nodes that were pushed. -/
theorem run_root (injector : Injector) (span : Option Span) (children : List Node)
    (edits : List Edit) :
    let entries := (injector.run (.mk .root span children) edits).2
    (injector.run (.mk .root span children) edits).1 =
        .mk .root span ((entries.map (Entry.front injector)).reverse.flatten ++ children ++
          edits.filterMap Edit.pushed?) ∧
      ∀ entry ∈ entries, entry.Faithful injector := by
  induction edits generalizing children with
  | nil => simp [run]
  | cons edit edits ih =>
    obtain ⟨hfinal, hfaithful⟩ :=
      ih (injector.inFront span children edit ++ children ++ edit.pushed?.toList)
    rw [run_cons]
    refine ⟨?_, List.forall_mem_cons.mpr ⟨reportOf_faithful span children edit, hfaithful⟩⟩
    refine hfinal.trans ?_
    simp only [pushed_cons, List.map_cons, front_reportOf, List.reverse_cons,
      List.flatten_append, List.flatten_singleton, List.append_assoc]

/-- No run removes, changes or moves what a tree holds. A root ends with the blocks that the edits
put in front, the newest first, then what it held, then the nodes that were pushed; every report
counts the block of its edit. Any other tree is only pushed to, and every report says that nothing
was put in. -/
theorem run_keeps_content (injector : Injector) (tree : Node) (edits : List Edit) :
    (tree.kind = .root → ∃ entries, entries.map Prod.fst = edits ∧
      injector.run tree edits =
        (.mk .root tree.span ((entries.map (Entry.front injector)).reverse.flatten ++
          tree.children ++ edits.filterMap Edit.pushed?), entries) ∧
      ∀ entry ∈ entries, entry.Faithful injector) ∧
    (tree.kind ≠ .root → injector.run tree edits =
      (tree.withChildren (tree.children ++ edits.filterMap Edit.pushed?),
        edits.map fun edit => (edit, if edit.pushed?.isSome then none else some {}))) := by
  refine ⟨fun hroot => ?_, fun hother => run_other hother edits⟩
  obtain ⟨kind, span, children⟩ := tree
  obtain rfl : kind = .root := hroot
  obtain ⟨hfinal, hfaithful⟩ := injector.run_root span children edits
  exact ⟨_, run_edits injector edits, Prod.ext hfinal rfl, hfaithful⟩

/-- Code is put in twice around a push, and the same is done to a paragraph. -/
theorem run_keeps_content_twice :
    let injector : Injector := { idle with
      importCode := some ⟨.imports, ["A"], "import A from \"./A.js\";"⟩
      exportCode := some ⟨.exports, [], "export const components = 1;"⟩ }
    let edits : List Edit :=
      [.inject, .push (.ofCode "export const"), .transform .markdown, .transform .mdx]
    (∃ entries, entries.map Prod.fst = edits ∧
      injector.run (.mk .root none [.ofCode "let b;"]) edits =
        (.mk .root none ((entries.map (Entry.front injector)).reverse.flatten ++
          [.ofCode "let b;"] ++ [.ofCode "export const"]), entries) ∧
      ∀ entry ∈ entries, entry.Faithful injector) ∧
    injector.run (.mk .paragraph none [.ofCode "let b;"]) edits =
      (.mk .paragraph none [.ofCode "let b;", .ofCode "export const"],
        edits.map fun edit => (edit, if edit.pushed?.isSome then none else some {})) := by
  intro injector edits
  exact ⟨(run_keeps_content injector (.mk .root none [.ofCode "let b;"]) edits).1 rfl,
    (run_keeps_content injector (.mk .paragraph none [.ofCode "let b;"]) edits).2 (by decide)⟩

end Injector

end PagePrelude
