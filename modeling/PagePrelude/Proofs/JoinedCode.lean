import PagePrelude.Proofs.AuthorExports
import PagePrelude.Proofs.Longer.Programs
import PagePrelude.Proofs.ReadableCode

/-!
# Module code that is read together

Where no piece of module code at the top level of a tree exports a name, all pieces are read as one
text. Complete pieces say the same together as one by one if each but the first begins with a
declaration, and may say something else if not (`exports_complete`). Pieces that are put behind them
may take away what they say together (`exports_appended`).
-/

namespace PagePrelude

theorem Module.exports_true_iff (reader : Reader) (code name : String) :
    (exports code name reader).1 = true ↔
      ∃ items, reader code = .ok items ∧ ∃ item ∈ items, item.exports name = true := by
  cases hread : reader code with
  | ok items => simp [exports_of_read hread]
  | error problems => simp [exports_of_error hread]

theorem Module.exports_unreadable {reader : Reader} {code : String} (h : ¬Readable code reader)
    (name : String) : exports code name reader = (false, [.unreadable name]) := by
  cases hread : reader code with
  | ok items => exact absurd ⟨items, hread⟩ h
  | error problems => exact exports_of_error hread name

namespace Node

open PagePrelude.Module (Readable)

/-- All module code at the top level of a tree as one text. -/
def joinedCode (tree : Node) : String :=
  "\n\n".intercalate tree.topCode

section
variable {tree : Node} {name : String} {pieces : List String} {reader : Module.Reader}

-- ---------------------------------------------------------------------------
-- One by one, then together
-- ---------------------------------------------------------------------------

/-- The pieces together are only read if there are several, and none exports the name. -/
theorem exports_eq (tree : Node) (name : String) : tree.exports name reader =
    if (someExports name tree.topCode reader).1 = true ∨ tree.topCode.length ≤ 1 then
      someExports name tree.topCode reader
    else ((Module.exports tree.joinedCode name reader).1,
      (someExports name tree.topCode reader).2 ++
        (Module.exports tree.joinedCode name reader).2) := by
  dsimp only [exports, joinedCode]
  rcases someExports name tree.topCode reader with ⟨_ | _, notices⟩
  · simp
  · simp

theorem exports_joined_iff : (tree.exports name reader).1 = true ↔
    (∃ code ∈ tree.topCode, (Module.exports code name reader).1 = true) ∨
      1 < tree.topCode.length ∧ (Module.exports tree.joinedCode name reader).1 = true := by
  rw [exports_scanned]
  unfold scanned joinedCode
  rcases tree.topCode with _ | ⟨code, _ | ⟨next, later⟩⟩
  · simp
  · simp
  · simp [or_assoc]

/-- What the pieces export only together is exported by an item that none of them has. -/
theorem exports_new_iff : (tree.exports name reader).1 = true ↔
    (∃ code ∈ tree.topCode, (Module.exports code name reader).1 = true) ∨
    1 < tree.topCode.length ∧ ∃ items, reader tree.joinedCode = .ok items ∧
      ∃ item ∈ items, item.exports name = true ∧
        ∀ code ∈ tree.topCode, ∀ own, reader code = .ok own → item ∉ own := by
  rw [exports_joined_iff, Module.exports_true_iff reader tree.joinedCode]
  refine ⟨fun hfound => ?_, Or.imp_right ?_⟩
  · by_cases halone : ∃ code ∈ tree.topCode, (Module.exports code name reader).1 = true
    · exact .inl halone
    · obtain ⟨hmany, items, hread, item, hitem, hexports⟩ := hfound.resolve_left halone
      refine .inr ⟨hmany, items, hread, item, hitem, hexports,
        fun code hcode own hown hmem => halone ⟨code, hcode, ?_⟩⟩
      exact (Module.exports_true_iff reader code name).mpr ⟨own, hown, item, hmem, hexports⟩
  · rintro ⟨hmany, items, hread, item, hitem, hexports, -⟩
    exact ⟨hmany, items, hread, item, hitem, hexports⟩

theorem exports_false_iff : (tree.exports name reader).1 = false ↔
    (∀ code ∈ tree.topCode, (Module.exports code name reader).1 = false) ∧
    (1 < tree.topCode.length → ∀ items, reader tree.joinedCode = .ok items →
      ∀ item ∈ items, item.exports name = false) := by
  rw [← Bool.not_eq_true, exports_joined_iff, Module.exports_true_iff reader tree.joinedCode]
  simp

-- ---------------------------------------------------------------------------
-- Complete pieces
-- ---------------------------------------------------------------------------

theorem someExports_readable (h : ∀ code ∈ pieces, Readable code reader) :
    (someExports name pieces reader).2 = [] := by
  induction pieces with
  | nil => rfl
  | cons code pieces ih =>
    obtain ⟨hcode, hpieces⟩ := List.forall_mem_cons.mp h
    have hquiet := Module.exports_readable hcode name
    rw [someExports_cons]
    rcases hfound : Module.exports code name reader with ⟨_ | _, notices⟩
    · rw [hfound] at hquiet
      dsimp only at hquiet ⊢
      rw [hquiet, ih hpieces, List.append_nil]
    · rwa [hfound] at hquiet

/-- Of complete pieces only their text as a whole may be no module code. -/
theorem notices_complete (h : ∀ code ∈ tree.topCode, Readable code reader) :
    (tree.exports name reader).2 = [] ∨ (tree.exports name reader).2 = [.unreadable name] ∧
      1 < tree.topCode.length ∧ ¬Readable tree.joinedCode reader := by
  rw [exports_eq]
  split
  · exact .inl (someExports_readable h)
  · rename_i hmany
    rw [someExports_readable h, List.nil_append]
    by_cases hjoined : Readable tree.joinedCode reader
    · exact .inl (Module.exports_readable hjoined name)
    · refine .inr ⟨by rw [Module.exports_unreadable hjoined], ?_, hjoined⟩
      exact Nat.lt_of_not_le fun hfew => hmany (.inr hfew)

/-- The pieces stay apart where they are joined: each but the first begins with an import or export
declaration, and in none of them anything that is only tried comes to its end. -/
def JoinsApart (tree : Node) : Prop :=
  (∀ code ∈ tree.topCode.tail, Module.beginsWithDeclaration code = true) ∧
    ∀ code ∈ tree.topCode, Module.settled code = true

instance (tree : Node) : Decidable tree.JoinsApart :=
  inferInstanceAs (Decidable (_ ∧ _))

theorem exists_owns (h : ∀ code ∈ pieces, Readable code reader) :
    ∃ owns, List.Forall₂ (fun code own => reader code = .ok own) pieces owns := by
  induction pieces with
  | nil => exact ⟨[], .nil⟩
  | cons code pieces ih =>
    obtain ⟨⟨own, hread⟩, hpieces⟩ := List.forall_mem_cons.mp h
    obtain ⟨owns, howns⟩ := ih hpieces
    exact ⟨own :: owns, .cons hread howns⟩

theorem mem_owns {owns : List (List Module.Item)} {item : Module.Item}
    (howns : List.Forall₂ (fun code own => reader code = .ok own) pieces owns)
    (h : item ∈ owns.flatten) : ∃ code ∈ pieces, ∃ own, reader code = .ok own ∧ item ∈ own := by
  induction howns with
  | nil => cases h
  | @cons code own pieces owns hread _ ih =>
    rcases List.mem_append.mp h with hown | hlater
    · exact ⟨code, List.mem_cons_self, own, hread, hown⟩
    · obtain ⟨later, hmem, hfound⟩ := ih hlater
      exact ⟨later, List.mem_cons_of_mem code hmem, hfound⟩

theorem exports_owns {owns : List (List Module.Item)}
    (howns : List.Forall₂ (fun code own => reader code = .ok own) tree.topCode owns)
    (hjoined : ∀ items, reader tree.joinedCode = .ok items → items = owns.flatten) :
    (tree.exports name reader).1 = true ↔
      ∃ code ∈ tree.topCode, (Module.exports code name reader).1 = true := by
  refine exports_new_iff.trans (or_iff_left ?_)
  rintro ⟨-, items, hread, item, hitem, -, hnone⟩
  rw [hjoined items hread] at hitem
  obtain ⟨code, hcode, own, hown, hmem⟩ := mem_owns howns hitem
  exact hnone code hcode own hown hmem

/-- Complete pieces of module code at the top level of a tree that stay apart where they are joined
hold the items of each in order, if they are module code together at all, and a name is exported
exactly if some piece exports it. Whatever reads module code, a name is exported exactly if some
piece exports it or an item does that is in no piece but in all of them together; and the search has
something to say only about several pieces that are no module code together. -/
theorem exports_complete (reader : Module.Reader) (tree : Node)
    (h : ∀ code ∈ tree.topCode, Readable code reader) (name : String) :
    (tree.JoinsApart →
      (∀ code ∈ tree.joinedCode :: tree.topCode, reader code = Module.read code) →
      (∃ owns, List.Forall₂ (fun code own => reader code = .ok own) tree.topCode owns ∧
        ∀ items, reader tree.joinedCode = .ok items → items = owns.flatten) ∧
      ((tree.exports name reader).1 = true ↔
        ∃ code ∈ tree.topCode, (Module.exports code name reader).1 = true)) ∧
    ((tree.exports name reader).1 = true ↔
      (∃ code ∈ tree.topCode, (Module.exports code name reader).1 = true) ∨
      1 < tree.topCode.length ∧ ∃ items, reader tree.joinedCode = .ok items ∧
        ∃ item ∈ items, item.exports name = true ∧
          ∀ code ∈ tree.topCode, ∀ own, reader code = .ok own → item ∉ own) ∧
    ((tree.exports name reader).2 = [] ∨
      (tree.exports name reader).2 = [.unreadable name] ∧ 1 < tree.topCode.length ∧
        ¬Readable tree.joinedCode reader) := by
  refine ⟨fun hapart hread => ?_, exports_new_iff, notices_complete h⟩
  obtain ⟨hjoined, hpieces⟩ := List.forall_mem_cons.mp hread
  obtain ⟨owns, howns⟩ := exists_owns h
  have hreads : List.Forall₂ (fun code own => Module.read code = .ok own) tree.topCode owns :=
    ((List.forall₂_and_left _ _).mpr ⟨hpieces, howns⟩).imp fun _ _ ⟨hsame, hown⟩ =>
      hsame.symm.trans hown
  have hflat : ∀ items, reader tree.joinedCode = .ok items → items = owns.flatten :=
    fun items hitems => Module.read_joined hapart.1 hapart.2 hreads (hjoined.symm.trans hitems)
  exact ⟨⟨owns, howns, hflat⟩, exports_owns howns hflat⟩

/-- Two complete statements that are one division together, after which something is exported. -/
theorem exports_complete_not : ¬∀ tree : Node, (∀ code ∈ tree.topCode, Readable code) → ∀ name,
    (tree.exports name).1 = true ↔
      ∃ code ∈ tree.topCode, (Module.exports code name).1 = true := by
  intro h
  let tree : Node := .mk .root none
    [.ofCode "x", .ofCode "/a;export const components = 1;//c"]
  have hreadable : ∀ code ∈ tree.topCode, Readable code := by decide +kernel
  have hnone : ¬∃ code ∈ tree.topCode, (Module.exports code "components").1 = true := by
    decide +kernel
  have hfound : (tree.exports "components").1 = true := by decide +kernel
  exact hnone ((h tree hreadable "components").mp hfound)

/-- Two complete statements that stay apart without a semicolon export what one of them exports. -/
theorem exports_complete_two :
    let tree : Node := .mk .root none [.ofCode "const a = 1", .ofCode "export \x7b a as b \x7d"]
    (∀ code ∈ tree.topCode, Readable code) ∧ tree.JoinsApart ∧ (tree.exports "a").1 = false ∧
      (tree.exports "b").1 = true := by
  intro tree
  have hreadable : ∀ code ∈ tree.topCode, Readable code := by decide +kernel
  have hapart : tree.JoinsApart := by decide +kernel
  have hiff (name : String) :=
    ((exports_complete Module.read tree hreadable name).1 hapart fun _ _ => rfl).2
  have hnone : ¬∃ code ∈ tree.topCode, (Module.exports code "a").1 = true := by decide +kernel
  have hsome : ∃ code ∈ tree.topCode, (Module.exports code "b").1 = true := by decide +kernel
  exact ⟨hreadable, hapart, Bool.eq_false_iff.mpr (mt (hiff "a").mp hnone), (hiff "b").mpr hsome⟩

-- ---------------------------------------------------------------------------
-- Appended pieces
-- ---------------------------------------------------------------------------

/-- The search ends at the first piece that exports the name. -/
theorem someExports_append (h : (someExports name pieces reader).1 = true) (more : List String) :
    someExports name (pieces ++ more) reader = someExports name pieces reader := by
  induction pieces with
  | nil => cases h
  | cons code pieces ih =>
    rw [someExports_cons] at h
    rw [List.cons_append, someExports_cons, someExports_cons]
    rcases hfound : Module.exports code name reader with ⟨_ | _, notices⟩
    · rw [hfound] at h
      dsimp only at h ⊢
      rw [ih h]
    · rfl

theorem exports_congr {other : Node} (h : tree.topCode = other.topCode) :
    tree.exports name reader = other.exports name reader := by
  rw [exports_eq, exports_eq, joinedCode, joinedCode, h]

theorem topCode_append (span : Option Span) (children nodes : List Node) :
    (Node.mk .root span (children ++ nodes)).topCode =
      (Node.mk .root span children).topCode ++ nodes.filterMap code? :=
  List.filterMap_append

theorem exports_appended_alone (span : Option Span) (children nodes : List Node) (name : String)
    (h : ∃ code ∈ (Node.mk .root span children).topCode,
      (Module.exports code name reader).1 = true) :
    (Node.mk .root span (children ++ nodes)).exports name reader =
      (Node.mk .root span children).exports name reader := by
  have hsome := (someExports_iff reader name _).mpr h
  have hall := someExports_append hsome (nodes.filterMap code?)
  rw [exports_eq, exports_eq (Node.mk .root span children), topCode_append, hall,
    if_pos (.inl hsome), if_pos (.inl hsome)]

theorem exports_appended_prose (span : Option Span) (children nodes : List Node) (name : String)
    (h : nodes.filterMap code? = []) :
    (Node.mk .root span (children ++ nodes)).exports name reader =
      (Node.mk .root span children).exports name reader :=
  exports_congr (by rw [topCode_append, h, List.append_nil])

/-- What is found although no piece by itself exports it, is an export of several pieces. -/
theorem exports_together (h : (tree.exports name reader).1 = true)
    (hnone : ¬∃ code ∈ tree.topCode, (Module.exports code name reader).1 = true) :
    1 < tree.topCode.length ∧ ∃ items, reader tree.joinedCode = .ok items ∧
      ∃ item ∈ items, item.exports name = true := by
  obtain ⟨hmany, hjoined⟩ := (exports_joined_iff.mp h).resolve_left hnone
  exact ⟨hmany, (Module.exports_true_iff reader _ _).mp hjoined⟩

/-- Whatever reads module code: what a search has found in a single piece it finds with more nodes
behind it, and nodes that are no module code change nothing. An export is lost behind nodes exactly
if no piece exports it, neither of the old nor of the new, nor all of them together. It then was an
export of at least two pieces together, and some of the new nodes are module code. -/
theorem exports_appended (reader : Module.Reader) (span : Option Span) (children nodes : List Node)
    (name : String) (h : ((Node.mk .root span children).exports name reader).1 = true) :
    let before := Node.mk .root span children
    let after := Node.mk .root span (children ++ nodes)
    ((∃ code ∈ before.topCode, (Module.exports code name reader).1 = true) →
      after.exports name reader = before.exports name reader) ∧
    (nodes.filterMap code? = [] → after.exports name reader = before.exports name reader) ∧
    ((after.exports name reader).1 = false ↔
      (∀ code ∈ before.topCode ++ nodes.filterMap code?,
        (Module.exports code name reader).1 = false) ∧
      ∀ items, reader after.joinedCode = .ok items →
        ∀ item ∈ items, item.exports name = false) ∧
    ((after.exports name reader).1 = false →
      1 < before.topCode.length ∧ nodes.filterMap code? ≠ [] ∧
        ∃ items, reader before.joinedCode = .ok items ∧
          ∃ item ∈ items, item.exports name = true) := by
  intro before after
  have halone : (∃ code ∈ before.topCode, (Module.exports code name reader).1 = true) →
      after.exports name reader = before.exports name reader :=
    exports_appended_alone span children nodes name
  have hprose : nodes.filterMap code? = [] →
      after.exports name reader = before.exports name reader :=
    exports_appended_prose span children nodes name
  refine ⟨halone, hprose, ?_, fun hlost => ?_⟩
  · rw [exports_false_iff, topCode_append]
    refine and_congr_right fun hnone => ⟨fun hjoined => hjoined ?_, fun hjoined _ => hjoined⟩
    have hmany := (exports_together h ?_).1
    · exact Nat.lt_of_lt_of_le hmany (by simp)
    · rintro ⟨code, hcode, hfound⟩
      rw [hnone code (List.mem_append_left _ hcode)] at hfound
      cases hfound
  · have hnone : ¬∃ code ∈ before.topCode, (Module.exports code name reader).1 = true := by
      intro hfound
      rw [halone hfound, h] at hlost
      cases hlost
    obtain ⟨hmany, hjoined⟩ := exports_together h hnone
    refine ⟨hmany, fun hcode => ?_, hjoined⟩
    rw [hprose hcode, h] at hlost
    cases hlost

/-- An export that is spread over two nodes is lost behind code that cannot be read. -/
theorem exports_appended_lost :
    let children : List Node := [.ofCode "export const components = \x7b", .ofCode "\x7d;"]
    ((Node.mk .root none children).exports "components").1 = true ∧
      ((Node.mk .root none (children ++ [.ofCode "import \x7b"])).exports "components").1 =
        false := by
  intro children
  have hbefore : ((Node.mk .root none children).exports "components").1 = true := by decide +kernel
  obtain ⟨-, -, hlost, -⟩ :=
    exports_appended Module.read none children [.ofCode "import \x7b"] "components" hbefore
  refine ⟨hbefore, hlost.mpr ⟨by decide +kernel, fun items hread => ?_⟩⟩
  have hunreadable : ¬Readable (Node.mk .root none
      (children ++ [.ofCode "import \x7b"])).joinedCode := by decide +kernel
  exact absurd ⟨items, hread⟩ hunreadable

end

end Node

end PagePrelude
