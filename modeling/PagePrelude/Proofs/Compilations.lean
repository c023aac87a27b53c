import PagePrelude.Proofs.Sessions

/-!
# Compilations of a session

Where a session can compile a document it can transform it as well, and reports the same about it.
What it compiles is what the transformed text has behind the data block and what keeps the
generated code apart from that (`compile_beside_transform`).
-/

namespace PagePrelude

open Document

variable {config : Config} {injector : Injector} {source path : String}

theorem ok_of_toOption {ε α : Type} {x : Except ε α} {a : α} (h : x.toOption = some a) :
    x = .ok a := by
  cases x with
  | error => cases h
  | ok b => exact congrArg Except.ok (Option.some.inj h)

theorem ofConfig_idle : Injector.ofConfig {} = .ok .idle := rfl

namespace Document

variable {injected : InjectedSource}

-- ---------------------------------------------------------------------------
-- What follows the data block
-- ---------------------------------------------------------------------------

/-- The text of a document after an injection, up to what follows its data block. -/
structure BodyBehind (tree : Node) (source head : String) (injected : InjectedSource) : Prop where
  matter : MatterEnds tree injected.matter head.utf8ByteSize
  front : ∃ tail, source = head ++ tail
  code : injected.code =
    head ++ (if 0 < injected.injection.count then separator head else "") ++ injected.body

theorem inject_body (hi : Injector.ofConfig config = .ok injector) {kind : DocumentKind}
    (h : inject injector kind source = .ok injected) :
    ∃ tree head, read kind source = .ok tree ∧ BodyBehind tree source head injected := by
  obtain ⟨tree, hread, -⟩ := bind_ok.mp h
  obtain ⟨head, tail, rfl, -, hends⟩ := read_parted hread
  cases kind with
  | mdx =>
    obtain ⟨span, children, rfl⟩ := read_root hread
    obtain ⟨codes, -, -, hcount, hinjected⟩ := inject_front hi rfl hread hends
    obtain rfl := Except.ok.inj (hinjected.symm.trans h)
    obtain ⟨after, hafter⟩ := gap_append head tail codes
    refine ⟨_, head, hread, hends, ⟨tail, rfl⟩, ?_⟩
    have hgap : gap head codes = if 0 < codes.length then separator head else "" := by
      cases codes <;> rfl
    rw [hcount, ← hgap]
    exact body_eq hafter rfl
  | markdown =>
    rw [inject_read injector hread hends, if_neg (by simp [DocumentKind.hasModuleCode])] at h
    obtain rfl := Except.ok.inj h
    refine ⟨tree, head, hread, hends, ⟨tail, rfl⟩, ?_⟩
    have hnothing : ¬ 0 < Injection.count {} := by decide
    rw [if_neg hnothing, String.append_empty]
    exact body_eq rfl rfl

theorem inject_markdown (injector other : Injector) (source : String) :
    inject injector .markdown source = inject other .markdown source := rfl

theorem inject_nothing (h : inject .idle .mdx source = .ok injected) :
    injected.code = source ∧ injected.injection = {} := by
  obtain ⟨_, _, _, _, -, -, hinjection, -⟩ := inject_reports ofConfig_idle h
  exact ⟨(inject_idle ofConfig_idle rfl h).code, hinjection⟩

end Document

namespace Session

variable {session : Session} {options : SessionOptions} {pageOptions : Page.Options}
variable {directory : Except String String}
  {compiled : Compiled}

-- ---------------------------------------------------------------------------
-- One document, compiled and transformed
-- ---------------------------------------------------------------------------

theorem compile_cases (h : session.compile pageOptions source path = .ok compiled) :
    ∃ kind injected, DocumentKind.ofPath path = some kind ∧
      Document.inject session.injectorInUse kind source = .ok injected ∧
      Page.compile pageOptions injected.body = .ok compiled.code ∧
      compiled.matter = injected.matter ∧ compiled.injection = injected.injection := by
  unfold compile at h
  split at h
  · rename_i kind hkind
    have hdocument := mapError_ok h
    simp only [Document.compile, bind_ok, pure_ok] at hdocument
    obtain ⟨injected, hinjected, code, hcode, rfl⟩ := hdocument
    exact ⟨kind, injected, hkind, hinjected, mapError_ok hcode, rfl, rfl⟩
  · cases h

theorem injectorInUse_made (hi : Injector.ofConfig config = .ok session.integration.injector) :
    ∃ config, Injector.ofConfig config = .ok session.injectorInUse := by
  unfold injectorInUse
  split
  · exact ⟨config, hi⟩
  · exact ⟨{}, ofConfig_idle⟩

/-- A document is transformed to what its compilation starts from. -/
theorem transform_of_inject {kind : DocumentKind} {injected : InjectedSource}
    (hkind : DocumentKind.ofPath path = some kind)
    (h : Document.inject session.injectorInUse kind source = .ok injected) :
    session.transform source path = .ok ⟨injected.code, injected.injection⟩ := by
  cases henabled : session.enabled with
  | true =>
    have hinjected : Document.inject session.integration.injector kind source = .ok injected := by
      simpa [injectorInUse, henabled] using h
    simp only [transform, hkind, henabled, hinjected]
    rfl
  | false =>
    have hidle : Document.inject .idle kind source = .ok injected := by
      simpa [injectorInUse, henabled] using h
    -- only one of the two reads a document with module code, yet both leave it as it is
    cases kind with
    | markdown =>
      rw [inject_markdown _ session.integration.injector] at hidle
      simp only [transform, hkind, henabled, hidle]
      rfl
    | mdx =>
      obtain ⟨hcode, hinjection⟩ := inject_nothing hidle
      simp only [transform, hkind, henabled, hcode, hinjection]
      rfl

/-- A compiled document beside the transformed one. -/
structure CompiledBeside (session : Session) (pageOptions : Page.Options) (kind : DocumentKind)
    (source : String) (compiled : Compiled) (done : Transformed) : Prop where
  report : compiled.injection = done.injection
  /-- What is compiled is what the transformed text has behind the data block, and behind the line
  feed that keeps generated code apart from one. -/
  body : ∃ tree head injected, Document.read kind source = .ok tree ∧
    Document.inject session.injectorInUse kind source = .ok injected ∧
    Page.compile pageOptions injected.body = .ok compiled.code ∧
    MatterEnds tree compiled.matter head.utf8ByteSize ∧ (∃ tail, source = head ++ tail) ∧
    done.code =
      head ++ (if 0 < done.injection.count then separator head else "") ++ injected.body
  /-- Where nothing can be put in, that text is the source. -/
  untouched : session.enabled = false ∨ kind = .markdown → done.code = source

theorem compile_transform (hi : Injector.ofConfig config = .ok session.integration.injector)
    (h : session.compile pageOptions source path = .ok compiled) :
    ∃ kind done, DocumentKind.ofPath path = some kind ∧
      session.transform source path = .ok done ∧
      session.CompiledBeside pageOptions kind source compiled done := by
  obtain ⟨kind, injected, hkind, hinjected, hcode, hmatter, hinjection⟩ := compile_cases h
  obtain ⟨used, hused⟩ := injectorInUse_made hi
  obtain ⟨tree, head, hread, hbody⟩ := inject_body hused hinjected
  refine ⟨kind, _, hkind, transform_of_inject hkind hinjected, hinjection,
    ⟨tree, head, injected, hread, hinjected, hcode, hmatter ▸ hbody.matter, hbody.front,
      hbody.code⟩, fun hoff => ?_⟩
  cases kind with
  | markdown => exact (inject_plain rfl hinjected).code
  | mdx =>
    have hdisabled : session.enabled = false := by simpa using hoff
    have hidle : Document.inject .idle .mdx source = .ok injected := by
      simpa [injectorInUse, hdisabled] using hinjected
    exact (inject_nothing hidle).1

/-- Whatever a session was asked for before, a document that it compiles it also transforms, with
the same report. The text that it compiles is the part of the transformed one behind the data
block. -/
theorem compile_beside_transform (h : Session.start options directory = .ok session)
    (calls : List Call)
    (hcompiled : (session.after calls).compile pageOptions source path = .ok compiled) :
    ∃ kind done, DocumentKind.ofPath path = some kind ∧
      (session.after calls).transform source path = .ok done ∧
      (session.after calls).CompiledBeside pageOptions kind source compiled done := by
  obtain ⟨hfresh, config, hconfig⟩ := start_ok h
  obtain ⟨hi, -⟩ := ofConfig_integration.mp hconfig
  rw [after_start hfresh] at hcompiled ⊢
  exact compile_transform hi hcompiled

/-- An import goes behind the data block, and is compiled with what follows it. -/
theorem compile_beside_transform_matter :
    let options : SessionOptions :=
      { imports := some (.array [.string "./A.js"]), root := some "/site" }
    let calls : List Call := [.setup [mdxIntegration], .pageScript]
    ∃ session compiled kind done, Session.start options = .ok session ∧
      (session.after calls).compile {} "---\n---\n# Hi\n" "a.mdx" = .ok compiled ∧
      compiled.injection = ⟨true, .unused⟩ ∧
      (session.after calls).transform "---\n---\n# Hi\n" "a.mdx" = .ok done ∧
      (session.after calls).CompiledBeside {} kind "---\n---\n# Hi\n" compiled done := by
  intro options calls
  have hreport : ((Session.start options).toOption.bind fun session =>
      ((session.after calls).compile {} "---\n---\n# Hi\n" "a.mdx").toOption.map
        Compiled.injection) = some ⟨true, .unused⟩ := by decide +kernel +zetaReduce
  simp only [Option.bind_eq_some_iff, Option.map_eq_some_iff] at hreport
  obtain ⟨session, hstart, compiled, hcompiled, hinjection⟩ := hreport
  obtain ⟨kind, done, -, hdone, hbeside⟩ :=
    compile_beside_transform (ok_of_toOption hstart) calls (ok_of_toOption hcompiled)
  exact ⟨session, compiled, kind, done, ok_of_toOption hstart, ok_of_toOption hcompiled,
    hinjection, hdone, hbeside⟩

end Session

end PagePrelude
