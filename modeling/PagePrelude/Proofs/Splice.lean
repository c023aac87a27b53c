import PagePrelude.Proofs.DataBlocks
import PagePrelude.Proofs.Injectors

/-!
# Code put into texts

Generated code is put into the text of a document where its data block ends, or at its start.
Nothing that the author wrote is lost or changed (`inject_splices`).
-/

namespace PagePrelude

variable {config : Config} {injector : Injector}

-- ---------------------------------------------------------------------------
-- The nodes in front
-- ---------------------------------------------------------------------------

namespace Injector

/-- The code that an outcome calls for: the imports, then the export. -/
def codes (injector : Injector) (outcome : OverrideOutcome) : List GeneratedCode :=
  injector.importCode.toList ++
    (if outcome = .injected then injector.exportCode else none).toList

theorem codes_subset {outcome : OverrideOutcome} {code : GeneratedCode}
    (h : code ∈ injector.codes outcome) :
    code ∈ injector.importCode.toList ++ injector.exportCode.toList := by
  unfold codes at h
  split at h
  · exact h
  · exact List.mem_append_left _ (by simpa using h)

/-- The report of an injection counts the code that it put in front. -/
theorem length_codes (authored : Bool) : (injector.codes (injector.outcome authored)).length =
    Injection.count ⟨injector.importCode.isSome, injector.outcome authored⟩ := by
  obtain ⟨imports, overrides, importCode, exportCode⟩ := injector
  cases importCode <;> cases exportCode <;> cases authored <;> rfl

/-- An injection puts code in front of what a root holds and reports how much. -/
theorem inject_codes (injector : Injector) (span : Option Span) (children : List Node) :
    ∃ outcome,
      (injector.inject (.mk .root span children)).tree =
        .mk .root span ((injector.codes outcome).map GeneratedCode.node ++ children) ∧
      (injector.codes outcome).length =
        (injector.inject (.mk .root span children)).injection.count :=
  ⟨_, rfl, length_codes _⟩

end Injector

namespace Document

open Markdown

-- ---------------------------------------------------------------------------
-- Where a data block ends
-- ---------------------------------------------------------------------------

theorem splitBytes_append (head tail : List Char) :
    splitBytes (String.ofList head).utf8ByteSize (head ++ tail) = (head, tail) := by
  induction head with
  | nil =>
    cases tail with
    | nil => rfl
    | cons c tail => simp [splitBytes, Char.utf8Size_pos]
  | cons c head ih => simp [splitBytes, ih]

/-- What the data block of a tree holds, and how many bytes go up to its end. -/
inductive MatterEnds (tree : Node) : Option String → Nat → Prop where
  | absent : (∀ node ∈ tree.children, ∀ language value, node.kind ≠ .matter language value) →
      MatterEnds tree none 0
  | present (language : MatterLanguage) (value : String) (span : Span) (nodes : List Node) :
      tree.children = .mk (.matter language value) (some span) [] :: nodes →
      0 < span.stop.offset → MatterEnds tree (some value) span.stop.offset

theorem matter_of_ends {tree : Node} {value : Option String} {size : Nat}
    (h : MatterEnds tree value size) : matter tree = value.map (·, size) := by
  cases h with
  | absent hnone =>
    refine List.findSome?_eq_none_iff.mpr fun node hnode => ?_
    split
    · exact absurd rfl (hnone _ hnode _ _)
    · rfl
  | present language value span nodes hchildren =>
    rw [matter, hchildren]
    rfl

@[simp] theorem dialect_matter (kind : DocumentKind) (reader : Module.Reader) :
    (dialect kind reader).matter = true := by
  cases kind <;> rfl

theorem dialect_placeless (kind : DocumentKind) {reader : Module.Reader} {move : Move}
    (h : ∀ value, Verdict.ofModule value reader = .accepted → move.keepsCode value = true) :
    (dialect kind reader).Placeless move := by
  have hmodule (value : String) :
      (dialect kind reader).judgeModule value = .ofModule value reader := by
    cases kind <;> rfl
  refine ⟨by cases kind <;> rfl, fun {value fault} hfault => ?_,
    fun {value fault offset} hfault => ?_, fun {value} hvalue => h value (hmodule value ▸ hvalue)⟩
  all_goals
    rw [hmodule, Verdict.ofModule] at hfault
    split at hfault
    · cases hfault
    · cases hfault
    · dsimp only at hfault
      split at hfault <;> cases hfault
      rfl

theorem mapError_ok {ε ε' α : Type} {x : Except ε α} {f : ε → ε'} {a : α}
    (h : x.mapError f = .ok a) : x = .ok a := by
  cases x with
  | ok b => exact congrArg Except.ok (Except.ok.inj h)
  | error e => cases h

/-- A data block ends within the text, after its start. -/
theorem matter_stop {source : String} {found : Matter} {rest : List Line}
    (h : Matter.take? (Line.ofText source) = some (found, rest)) :
    ∃ head tail, source = head ++ tail ∧ head.utf8ByteSize = found.span.stop.offset ∧
      0 < found.span.stop.offset := by
  obtain ⟨before, last, hlines, hcells, hstop, -⟩ := Matter.take?_parted h
  obtain ⟨head, tail, hsource, hparted⟩ := Line.ofText_parted hlines hcells
  have hsize : found.span.stop.offset = (String.ofList head).utf8ByteSize :=
    (congrArg Point.offset hstop).trans hparted.offset
  have hpos : (String.ofList head).utf8ByteSize ≠ 0 := by
    simp [String.utf8ByteSize_eq_zero_iff, hparted.nonempty]
  refine ⟨String.ofList head, String.ofList tail, ?_, hsize.symm, ?_⟩
  · rw [← String.ofList_append, ← hsource, String.ofList_toList]
  · exact hsize ▸ Nat.pos_of_ne_zero hpos

/-- How many bytes go up to the end of a data block. -/
def matterSize (source : String) : Nat :=
  ((Matter.take? (Line.ofText source)).map (·.1.span.stop.offset)).getD 0

def matterValue (source : String) : Option String :=
  (Matter.take? (Line.ofText source)).map (·.1.value)

/-- A document that can be read is parted where its data block ends, or at its start. -/
theorem read_parted {kind : DocumentKind} {source : String} {tree : Node}
    (h : read kind source = .ok tree) : ∃ head tail, source = head ++ tail ∧
      head.utf8ByteSize = matterSize source ∧
      MatterEnds tree (matterValue source) head.utf8ByteSize := by
  obtain ⟨blocks, nodes, hblocks, hnodes, rfl⟩ :=
    read_parts (dialect_placeless kind fun _ _ => rfl) (mapError_ok h)
  unfold matterSize matterValue
  cases htake : Matter.take? (Line.ofText source) with
  | none =>
    refine ⟨"", source, by simp, rfl, .absent ?_⟩
    simpa [partsOf, htake, Node.children] using
      fun node => kind_ne_matter (dialect_placeless kind fun _ _ => rfl) hblocks hnodes
  | some found =>
    obtain ⟨found, rest⟩ := found
    obtain ⟨head, tail, hsource, hsize, hpos⟩ := matter_stop htake
    refine ⟨head, tail, hsource, hsize, hsize ▸ ?_⟩
    refine .present found.language found.value found.span nodes ?_ hpos
    simp [partsOf, htake, Node.children, wholeNode]

theorem read_root {kind : DocumentKind} {source : String} {tree : Node}
    (h : read kind source = .ok tree) : ∃ span children, tree = .mk .root span children := by
  obtain ⟨_, _, _, _, rfl⟩ := read_parts (dialect_placeless kind fun _ _ => rfl) (mapError_ok h)
  exact ⟨_, _, rfl⟩

-- ---------------------------------------------------------------------------
-- The text with the code in it
-- ---------------------------------------------------------------------------

/-- What keeps code that is put in apart from a data block. -/
def separator (head : String) : String :=
  if 0 < head.utf8ByteSize then "\n" else ""

/-- The text that code is put in with: apart from a data block, and with a blank line after it. -/
def insertion (head : String) (codes : List GeneratedCode) : String :=
  if codes = [] then ""
  else separator head ++ "\n\n".intercalate (codes.map GeneratedCode.text) ++ "\n\n"

/-- What is put in front of what follows a data block, before the code. -/
def gap (head : String) (codes : List GeneratedCode) : String :=
  if codes = [] then "" else separator head

theorem insertion_empty {head : String} {codes : List GeneratedCode} :
    insertion head codes = "" ↔ codes = [] := by
  unfold insertion
  split <;> simp [*]

theorem gap_append (head tail : String) (codes : List GeneratedCode) :
    ∃ after, head ++ insertion head codes ++ tail = head ++ gap head codes ++ after := by
  by_cases hnil : codes = []
  · exact ⟨tail, by simp [hnil, insertion, gap]⟩
  · exact ⟨_, by simp only [hnil, insertion, gap, if_false, String.append_assoc]; rfl⟩

theorem intercalate_ne_empty {separator : String} {texts : List String} (hne : texts ≠ [])
    (htexts : ∀ text ∈ texts, text ≠ "") : separator.intercalate texts ≠ "" := by
  obtain ⟨text, texts, rfl⟩ := List.exists_cons_of_ne_nil hne
  rw [Ne, ← String.toList_eq_nil_iff, String.toList_intercalate, List.map_cons,
    Module.intercalate_eq]
  simp [htexts text List.mem_cons_self]

theorem splice_eq (head tail : String) {codes : List GeneratedCode}
    (hcodes : ∀ code ∈ codes, code.text ≠ "") :
    splice head.utf8ByteSize ("\n\n".intercalate (codes.map GeneratedCode.text)) (head ++ tail) =
      (head ++ insertion head codes ++ tail, (head ++ gap head codes).utf8ByteSize) := by
  by_cases hnil : codes = []
  · subst hnil
    simp [splice, insertion, gap]
  · have hsplit := splitBytes_append head.toList tail.toList
    rw [String.ofList_toList] at hsplit
    have hseparator : (if head.toList.isEmpty then "" else "\n") = separator head := by
      by_cases hempty : head = "" <;>
        simp [separator, hempty, Nat.pos_iff_ne_zero, String.utf8ByteSize_eq_zero_iff]
    have hne : "\n\n".intercalate (codes.map GeneratedCode.text) ≠ "" :=
      intercalate_ne_empty (by simpa using hnil) (by simpa using hcodes)
    simp only [splice, String.toList_append, hsplit, hseparator, String.ofList_toList,
      String.isEmpty_iff, hne, hnil, insertion, gap, if_false, String.utf8ByteSize_append,
      String.append_assoc]

theorem generatedCode_eq {injected : Injected} {span : Option Span} {codes : List GeneratedCode}
    {children : List Node}
    (htree : injected.tree = .mk .root span (codes.map GeneratedCode.node ++ children))
    (hcount : codes.length = injected.injection.count) :
    generatedCode injected = "\n\n".intercalate (codes.map GeneratedCode.text) := by
  have htake : (codes.map GeneratedCode.node ++ children).take injected.injection.count =
      codes.map GeneratedCode.node := List.take_left' (by simp [hcount])
  rw [generatedCode, htree, Node.children, htake, List.filterMap_map, ← List.filterMap_eq_map]
  rfl

theorem code_ne_empty (hi : Injector.ofConfig config = .ok injector) {code : GeneratedCode}
    (hcode : code ∈ injector.importCode.toList ++ injector.exportCode.toList) :
    code.text ≠ "" := by
  obtain ⟨keyword, hkeyword, hprefix⟩ := code_begins hi hcode
  rintro hempty
  rw [hempty] at hprefix
  rcases List.mem_pair.mp hkeyword with rfl | rfl <;> exact absurd hprefix (by decide)

-- ---------------------------------------------------------------------------
-- The source with the code in it
-- ---------------------------------------------------------------------------

theorem inject_read (injector : Injector) {kind : DocumentKind} {source : String} {tree : Node}
    {value : Option String} {size : Nat} (hread : read kind source = .ok tree)
    (hends : MatterEnds tree value size) :
    inject injector kind source = .ok
      (if kind.hasModuleCode then
        let injected := injector.inject tree
        let spliced := splice size (generatedCode injected) source
        { code := spliced.1, bodyStart := spliced.2, matter := value
          injection := injected.injection, notices := injected.notices }
      else
        { code := source, bodyStart := size, matter := value, injection := {}
          notices := [] }) := by
  have hmatter := matter_of_ends hends
  rw [inject, hread, ok_bind]
  cases hends <;> simp only [hmatter, Option.map_none, Option.map_some] <;> split <;> rfl

/-- An injection into a document with module code puts the text of the code that its tree gets
between the data block and the rest. -/
theorem inject_front (hi : Injector.ofConfig config = .ok injector) {kind : DocumentKind}
    (hkind : kind.hasModuleCode = true) {head tail : String} {span : Option Span}
    {children : List Node} (hread : read kind (head ++ tail) = .ok (.mk .root span children))
    {value : Option String}
    (hends : MatterEnds (.mk .root span children) value head.utf8ByteSize) :
    ∃ codes,
      (∀ code ∈ codes, code ∈ injector.importCode.toList ++ injector.exportCode.toList) ∧
      (injector.inject (.mk .root span children)).tree =
        .mk .root span (codes.map GeneratedCode.node ++ children) ∧
      (injector.inject (.mk .root span children)).injection.count = codes.length ∧
      inject injector kind (head ++ tail) = .ok {
        code := head ++ insertion head codes ++ tail
        bodyStart := (head ++ gap head codes).utf8ByteSize
        matter := value
        injection := (injector.inject (.mk .root span children)).injection
        notices := (injector.inject (.mk .root span children)).notices } := by
  obtain ⟨outcome, htree, hcount⟩ := injector.inject_codes span children
  have htexts : ∀ code ∈ injector.codes outcome, code.text ≠ "" :=
    fun code hcode => code_ne_empty hi (Injector.codes_subset hcode)
  refine ⟨_, fun code => Injector.codes_subset, htree, hcount.symm, ?_⟩
  rw [inject_read injector hread hends, if_pos hkind]
  simp only [generatedCode_eq htree hcount, splice_eq head tail htexts]

theorem body_eq {injected : InjectedSource} {before after : String}
    (hcode : injected.code = before ++ after)
    (hstart : injected.bodyStart = before.utf8ByteSize) :
    injected.code = before ++ injected.body := by
  have hsplit := splitBytes_append before.toList after.toList
  rw [String.ofList_toList] at hsplit
  rw [InjectedSource.body, hcode, hstart, String.toList_append, hsplit, String.ofList_toList]

/-- How the text of a document, in two parts, is changed by code that is put in between. -/
structure Spliced (injector : Injector) (kind : DocumentKind) (tree : Node)
    (injected : InjectedSource) (codes : List GeneratedCode) (head tail : String) : Prop where
  matter : MatterEnds tree injected.matter head.utf8ByteSize
  code : injected.code = head ++ insertion head codes ++ tail
  empty : insertion head codes = "" ↔ codes = []
  /-- Documents without module code come back as they are. -/
  plain : kind.hasModuleCode = false → codes = [] ∧ injected.injection = {}
  /-- The code is that of the nodes that the tree gets. -/
  nodes : kind.hasModuleCode = true →
    injected.injection = (injector.inject tree).injection ∧
      injected.injection.count = codes.length ∧
      (injector.inject tree).tree.children = codes.map GeneratedCode.node ++ tree.children
  /-- What follows the data block starts behind what keeps the code apart from it. -/
  bodyStart : injected.bodyStart = (head ++ gap head codes).utf8ByteSize
  body : injected.code = head ++ gap head codes ++ injected.body

/-- Generated code is put into the text of a document as a whole, where the data block ends or at
the start, and is what the tree of the document gets. All that the author wrote stays. -/
theorem inject_splices (hi : Injector.ofConfig config = .ok injector) {kind : DocumentKind}
    {source : String} {injected : InjectedSource}
    (h : inject injector kind source = .ok injected) :
    ∃ tree codes head tail, read kind source = .ok tree ∧ source = head ++ tail ∧
      Spliced injector kind tree injected codes head tail := by
  obtain ⟨tree, hread, -⟩ := bind_ok.mp h
  obtain ⟨head, tail, rfl, -, hends⟩ := read_parted hread
  obtain ⟨span, children, rfl⟩ := read_root hread
  by_cases hkind : kind.hasModuleCode = true
  · obtain ⟨codes, -, htree, hcount, hinjected⟩ := inject_front hi hkind hread hends
    obtain rfl := Except.ok.inj (hinjected.symm.trans h)
    obtain ⟨after, hafter⟩ := gap_append head tail codes
    exact ⟨_, codes, head, tail, hread, rfl, hends, rfl, insertion_empty,
      fun h => absurd (hkind.symm.trans h) (by simp),
      fun _ => ⟨rfl, hcount, congrArg Node.children htree⟩, rfl, body_eq hafter rfl⟩
  · rw [inject_read injector hread hends, if_neg hkind] at h
    obtain rfl := Except.ok.inj h
    have hgap : head ++ gap head [] = head := by simp [gap]
    refine ⟨_, [], head, tail, hread, rfl, hends, by simp [insertion], insertion_empty,
      fun _ => ⟨rfl, rfl⟩, fun h => absurd h hkind, by rw [hgap], ?_⟩
    rw [hgap]
    exact body_eq rfl rfl

/-- The import of a configuration goes into any document that can be read. -/
theorem inject_import {source : String} {tree : Node} (hread : read .mdx source = .ok tree) :
    let config : Config := { imports := [.default "./A.js"], root := "/site" }
    config.Accepted ∧ ∃ injector injected, Injector.ofConfig config = .ok injector ∧
      inject injector .mdx source = .ok injected ∧ injected.injection.count = 1 ∧
      injected.matter = matterValue source := by
  intro config
  have haccepted : config.Accepted := by
    simp only [Config.Accepted, config, List.forall_mem_singleton, ImportEntry.Accepted]
    decide
  have hi := ofConfig_ok haccepted (readable_of_ascii (by decide))
  obtain ⟨span, children, rfl⟩ := read_root hread
  obtain ⟨_, _, -, -, hends⟩ := read_parted hread
  exact ⟨haccepted, _, _, hi, inject_read _ hread hends, rfl, rfl⟩

/-- A document that can be read, by the kinds of its blocks. -/
theorem read_of_kinds {source : String} {kinds : List NodeKind}
    (h : (read .mdx source).toOption.map (fun tree => tree.children.map Node.kind) = some kinds) :
    ∃ tree, read .mdx source = .ok tree ∧ tree.children.map Node.kind = kinds := by
  cases hread : read .mdx source with
  | error fault =>
    rw [hread] at h
    cases h
  | ok tree =>
    rw [hread] at h
    exact ⟨tree, rfl, Option.some.inj h⟩

theorem read_matter_alone :
    ∃ tree, read .mdx "---\n---\n" = .ok tree ∧ tree.children.map Node.kind = [.matter .yaml ""] :=
  read_of_kinds (by decide +kernel)

/-- The import goes behind a data block that is the whole document. -/
theorem inject_splices_matter :
    let config : Config := { imports := [.default "./A.js"], root := "/site" }
    ∃ injector injected tree codes head tail,
      Injector.ofConfig config = .ok injector ∧
      inject injector .mdx "---\n---\n" = .ok injected ∧ injected.matter = some "" ∧
      codes.length = 1 ∧ head ++ tail = "---\n---\n" ∧
      Spliced injector .mdx tree injected codes head tail := by
  intro config
  obtain ⟨_, hread, -⟩ := read_matter_alone
  obtain ⟨-, injector, injected, hi, hinjected, hcount, hmatter⟩ := inject_import hread
  have hvalue : matterValue "---\n---\n" = some "" := by decide +kernel
  obtain ⟨tree, codes, head, tail, -, hsource, hspliced⟩ := inject_splices hi hinjected
  exact ⟨injector, injected, tree, codes, head, tail, hi, hinjected, hmatter.trans hvalue,
    (hspliced.nodes rfl).2.1.symm.trans hcount, hsource.symm, hspliced⟩

end Document

end PagePrelude
