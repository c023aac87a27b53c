import PagePrelude.Proofs.Setups
import PagePrelude.Session

/-!
# What a session remembers

A session is set up any number of times and asked for documents in between. Of all that, it keeps
only the support that the last setup found: its answers follow from its options, the call itself and
that support, and what a setup reports is what the transformations after it do
(`answers_after_setup`).
-/

namespace PagePrelude

open Document

variable {config : Config} {injector : Injector} {source path : String}

-- ---------------------------------------------------------------------------
-- Documents that nothing is put into
-- ---------------------------------------------------------------------------

/-- A document comes back as it is, and the report says that nothing was imported. -/
structure Transformed.Untouched (done : Transformed) (source : String) : Prop where
  code : done.code = source
  imports : done.injection.imports = false

namespace Document

theorem inject_plain {kind : DocumentKind} (hkind : kind.hasModuleCode = false)
    {injected : InjectedSource} (h : inject injector kind source = .ok injected) :
    Transformed.Untouched ⟨injected.code, injected.injection⟩ source := by
  obtain ⟨tree, hread, -⟩ := bind_ok.mp h
  obtain ⟨head, tail, -, -, hends⟩ := read_parted hread
  rw [inject_read injector hread hends, if_neg (by simp [hkind])] at h
  obtain rfl := Except.ok.inj h
  exact ⟨rfl, rfl⟩

/-- What an injection into a document with module code reports, and how much it puts in. -/
theorem inject_reports (hi : Injector.ofConfig config = .ok injector) {injected : InjectedSource}
    (h : inject injector .mdx source = .ok injected) :
    ∃ codes head tail authored, source = head ++ tail ∧
      injected.code = head ++ insertion head codes ++ tail ∧
      injected.injection = ⟨injector.importCode.isSome, injector.outcome authored⟩ ∧
      injected.injection.count = codes.length := by
  obtain ⟨tree, hread, -⟩ := bind_ok.mp h
  obtain ⟨head, tail, rfl, -, hends⟩ := read_parted hread
  obtain ⟨span, children, rfl⟩ := read_root hread
  obtain ⟨codes, -, -, hcount, hinjected⟩ := inject_front hi rfl hread hends
  obtain rfl := Except.ok.inj (hinjected.symm.trans h)
  exact ⟨codes, head, tail, _, rfl, rfl, rfl, hcount⟩

/-- An injector that is never to change a document does not. -/
theorem inject_idle (hi : Injector.ofConfig config = .ok injector)
    (hidle : injector.isIdle = true) {injected : InjectedSource}
    (h : inject injector .mdx source = .ok injected) :
    Transformed.Untouched ⟨injected.code, injected.injection⟩ source := by
  obtain ⟨himports, hexport⟩ : injector.importCode = none ∧ injector.exportCode = none := by
    simpa [Injector.isIdle] using hidle
  obtain ⟨codes, head, tail, authored, rfl, hcode, hinjection, hcount⟩ := inject_reports hi h
  have hcodes : codes = [] := by
    refine List.length_eq_zero_iff.mp ?_
    rw [← hcount, hinjection]
    simp [Injection.count, Injector.outcome, himports, hexport]
  refine ⟨?_, ?_⟩
  · rw [hcode, insertion_empty.mpr hcodes, String.append_empty]
  · simp [hinjection, himports]

end Document

namespace Session

variable {session : Session} {options : SessionOptions} {done : Transformed}
variable {directory : Except String String}

-- ---------------------------------------------------------------------------
-- One document
-- ---------------------------------------------------------------------------

/-- A transformed document was injected into, or it came back without being read. -/
theorem transform_cases (h : session.transform source path = .ok done) :
    (∃ kind injected, DocumentKind.ofPath path = some kind ∧
      (kind.hasModuleCode = true → session.enabled = true) ∧
      Document.inject session.integration.injector kind source = .ok injected ∧
      done = ⟨injected.code, injected.injection⟩) ∨
    ((DocumentKind.ofPath path = some .mdx → session.enabled = false) ∧ done = ⟨source, {}⟩) := by
  unfold transform at h
  split at h
  · rename_i kind hkind
    split at h
    · rename_i hread
      simp only [bind_ok, pure_ok] at h
      obtain ⟨injected, hinjected, rfl⟩ := h
      refine .inl ⟨kind, injected, hkind, fun hcode => ?_, hinjected, rfl⟩
      simpa [hcode] using hread
    · rename_i hskipped
      refine .inr ⟨fun hmdx => ?_, (Except.ok.inj h).symm⟩
      obtain rfl := Option.some.inj (hkind.symm.trans hmdx)
      simpa [DocumentKind.hasModuleCode] using hskipped
  · rename_i hnone
    exact .inr ⟨fun hmdx => absurd (hnone.symm.trans hmdx) (by simp), (Except.ok.inj h).symm⟩

/-- Where documents with module code are left out, or nothing is configured, every document comes
back as it is. -/
theorem transform_untouched (hi : Injector.ofConfig config = .ok session.integration.injector)
    (hoff : session.enabled = false ∨ session.integration.injector.isIdle = true)
    (h : session.transform source path = .ok done) : done.Untouched source := by
  rcases transform_cases h with ⟨kind, injected, -, henabled, hinjected, rfl⟩ | ⟨-, rfl⟩
  · cases kind with
    | markdown => exact inject_plain rfl hinjected
    | mdx =>
      have hidle : session.integration.injector.isIdle = true := by
        simpa [henabled rfl] using hoff
      exact inject_idle hi hidle hinjected
  · exact ⟨rfl, rfl⟩

theorem transform_imports (hi : Injector.ofConfig config = .ok session.integration.injector)
    (hon : session.enabled = true) (hneeded : config.isEmpty = false)
    (hpath : DocumentKind.ofPath path = some .mdx)
    (h : session.transform source path = .ok done) : done.injection.imports = true := by
  rcases transform_cases h with ⟨kind, injected, hkind, -, hinjected, rfl⟩ | ⟨hoff, -⟩
  · obtain rfl := Option.some.inj (hkind.symm.trans hpath)
    obtain ⟨_, _, _, _, -, -, hinjection, -⟩ := inject_reports hi hinjected
    refine (congrArg Injection.imports hinjection).trans
      ((importCode_isSome_iff hi).mpr fun hnil => ?_)
    simp [isEmpty_iff.mpr hnil] at hneeded
  · exact absurd (hoff hpath) (by simp [hon])

-- ---------------------------------------------------------------------------
-- Calls
-- ---------------------------------------------------------------------------

/-- What a session is asked for. -/
inductive Call where
  | setup (integrations : List String)
  | transform (source path : String)
  | transformAll (inputs : List BatchInput)
  | compile (options : Page.Options) (source path : String)
  | pageScript
  | exposedNames
  deriving Repr

/-- What a session answers. -/
inductive Answer where
  | setup (made : Setup)
  | transformed (result : Except Error Transformed)
  | batch (batch : Batch)
  | compiled (result : Except SessionError Compiled)
  | script (script : Option String)
  | names (names : List String)

/-- A session after a call, with its answer. -/
def call (session : Session) : Call → Session × Answer
  | .setup integrations => ((session.setup integrations).1, .setup (session.setup integrations).2)
  | .transform source path => (session, .transformed (session.transform source path))
  | .transformAll inputs => (session, .batch (session.transformAll inputs))
  | .compile options source path => (session, .compiled (session.compile options source path))
  | .pageScript => (session, .script session.pageScript)
  | .exposedNames => (session, .names session.exposedNames)

/-- A session after some calls. -/
def after (session : Session) (calls : List Call) : Session :=
  calls.foldl (fun session call => (session.call call).1) session

/-- The answers to some calls, in order. -/
def answers (session : Session) : List Call → List Answer
  | [] => []
  | call :: calls => (session.call call).2 :: (session.call call).1.answers calls

/-- The support that a call finds, if it is a setup. -/
def Call.support? : Call → Option MdxSupport
  | .setup integrations => some (.ofOrder integrations)
  | _ => none

/-- The support that the last setup found. Before any, documents with module code get theirs. -/
def lastSupport (calls : List Call) : MdxSupport :=
  (calls.filterMap Call.support?).getLast?.getD .enabled

/-- A session for which the last setup found some support. -/
def withSupport (session : Session) (support : MdxSupport) : Session :=
  { session with enabled := support.injects }

/-- Only setup changes a session, and it forgets what earlier ones found. -/
theorem call_withSupport (session : Session) (support : MdxSupport) (call : Call) :
    ((session.withSupport support).call call).1 =
      session.withSupport (call.support?.getD support) := by
  cases call <;> rfl

theorem after_withSupport (session : Session) (support : MdxSupport) (calls : List Call) :
    (session.withSupport support).after calls =
      session.withSupport ((calls.filterMap Call.support?).getLast?.getD support) := by
  induction calls generalizing support with
  | nil => rfl
  | cons call calls ih =>
    have hnext : (session.withSupport support).after (call :: calls) =
        (session.withSupport (call.support?.getD support)).after calls :=
      congrArg (Session.after · calls) (call_withSupport session support call)
    rw [hnext, ih]
    cases hsupport : call.support? <;> simp [hsupport, List.getLast?_cons]

/-- Before any setup, documents with module code get theirs. -/
theorem after_start (hfresh : session.enabled = true) (calls : List Call) :
    session.after calls = session.withSupport (lastSupport calls) := by
  have henabled : session.withSupport .enabled = session :=
    congrArg (Session.mk session.integration) hfresh.symm
  rw [lastSupport, ← after_withSupport, henabled]

theorem answers_getElem? (session : Session) (earlier : List Call) (call : Call)
    (later : List Call) : (session.answers (earlier ++ call :: later))[earlier.length]? =
      some ((session.after earlier).call call).2 := by
  induction earlier generalizing session with
  | nil => rfl
  | cons first earlier ih => exact ih _

/-- Every answer is given by the session as it is after some of the calls. -/
theorem mem_answers {calls : List Call} {answer : Answer} (h : answer ∈ session.answers calls) :
    ∃ earlier call, answer = ((session.after earlier).call call).2 := by
  induction calls generalizing session with
  | nil => cases h
  | cons call calls ih =>
    rcases List.mem_cons.mp h with rfl | hlater
    · exact ⟨[], call, rfl⟩
    · obtain ⟨earlier, later, rfl⟩ := ih hlater
      exact ⟨call :: earlier, later, rfl⟩

/-- A call with its answer transforms a document, alone or in a batch. -/
inductive Transforms : Call → Answer → String → String → Transformed → Prop where
  | alone (source path : String) (done : Transformed) :
    Transforms (.transform source path) (.transformed (.ok done)) source path done
  | batched (inputs : List BatchInput) (batch : Batch) (place : Nat) (input : BatchInput)
    (done : Transformed) (hinput : inputs[place]? = some input)
    (houtcome : batch.outcomes[place]? = some ⟨input.id, .ok done⟩) :
    Transforms (.transformAll inputs) (.batch batch) input.source (input.path.getD input.id) done

/-- However a document is transformed, it is transformed like one alone. -/
theorem transform_of_transforms {call : Call}
    (h : Transforms call (session.call call).2 source path done) :
    session.transform source path = .ok done := by
  cases call with
  | transform source path =>
    generalize hanswer : (session.call (.transform source path)).2 = answer at h
    cases h with
    | alone _ _ done => exact Answer.transformed.inj hanswer
  | transformAll inputs =>
    generalize hanswer : (session.call (.transformAll inputs)).2 = answer at h
    cases h with
    | batched _ batch place input done hinput houtcome =>
      obtain rfl := Answer.batch.inj hanswer
      simp only [transformAll, List.getElem?_map, hinput, Option.map_some,
        Option.some.injEq] at houtcome
      exact congrArg BatchOutcome.result houtcome
  | _ => cases h

-- ---------------------------------------------------------------------------
-- Runs
-- ---------------------------------------------------------------------------

theorem start_ok (h : Session.start options directory = .ok session) :
    session.enabled = true ∧ ∃ config, Integration.ofConfig config = .ok session.integration := by
  simp only [start, bind_ok, pure_ok] at h
  obtain ⟨_, -, _, -, config, -, integration, hintegration, rfl⟩ := h
  exact ⟨rfl, config, mapError_ok hintegration⟩

/-- What a session has answered to a setup says what it does with the documents up to the next. -/
structure Foretells (made : Setup) (call : Call) (answer : Answer) : Prop where
  untouched : made.transform.isSome = false →
    ∀ source path done, Transforms call answer source path done → done.Untouched source
  imports : made.transform.isSome = true →
    ∀ source path done, Transforms call answer source path done →
      DocumentKind.ofPath path = some .mdx → done.injection.imports = true

theorem setup_foretells (session : Session) {integrations : List String}
    (h : Integration.ofConfig config = .ok session.integration)
    (hsupport : session.enabled = (MdxSupport.ofOrder integrations).injects) (call : Call) :
    Foretells (session.integration.setup integrations) call (session.call call).2 := by
  obtain ⟨hi, -⟩ := ofConfig_integration.mp h
  have htransform := setup_transform h integrations
  by_cases hneeded : MdxSupport.ofOrder integrations = .enabled ∧ config.isEmpty = false
  · obtain ⟨henabled, hempty⟩ := hneeded
    refine ⟨fun hnone => ?_, fun _ source path done hdone hpath => ?_⟩
    · simp [htransform, henabled, hempty] at hnone
    · have hon : session.enabled = true := by
        rw [hsupport, henabled]
        rfl
      exact transform_imports hi hon hempty hpath (transform_of_transforms hdone)
  · refine ⟨fun _ source path done hdone => ?_, fun hsome => ?_⟩
    · refine transform_untouched hi ?_ (transform_of_transforms hdone)
      rw [isIdle_iff hi, hsupport]
      by_cases henabled : MdxSupport.ofOrder integrations = .enabled
      · exact .inr (by simpa [henabled] using hneeded)
      · exact .inl (by simpa [MdxSupport.injects] using henabled)
    · simp [htransform, hneeded] at hsome

/-- Over any calls, a session answers as if it had just been opened with its options and the last
setup had found what it did. The page script is always that of every setup, and a setup that asks
for no transform is followed by documents that come back as they are, one that asks for a transform
by imports in every document with module code. -/
theorem answers_after_setup (h : Session.start options directory = .ok session)
    (calls : List Call) :
    (∀ earlier call later, calls = earlier ++ call :: later →
      (session.answers calls)[earlier.length]? =
        some ((session.withSupport (lastSupport earlier)).call call).2) ∧
    (∀ made, .setup made ∈ session.answers calls →
      made.script.map Prod.snd = session.pageScript) ∧
    (∀ script, .script script ∈ session.answers calls → script = session.pageScript) ∧
    ∀ earlier integrations between call later,
      calls = earlier ++ .setup integrations :: between ++ call :: later →
      between.filterMap Call.support? = [] →
      ∃ made answer, (session.answers calls)[earlier.length]? = some (.setup made) ∧
        (session.answers calls)[(earlier ++ .setup integrations :: between).length]? =
          some answer ∧ Foretells made call answer := by
  obtain ⟨hfresh, config, hconfig⟩ := start_ok h
  have hanswer : ∀ earlier call later, calls = earlier ++ call :: later →
      (session.answers calls)[earlier.length]? =
        some ((session.withSupport (lastSupport earlier)).call call).2 := by
    rintro earlier call later rfl
    rw [answers_getElem?, after_start hfresh]
  refine ⟨hanswer, fun made hmade => ?_, fun script hscript => ?_, ?_⟩
  · obtain ⟨earlier, call, hmade⟩ := mem_answers hmade
    rw [after_start hfresh] at hmade
    cases call with
    | setup integrations =>
      obtain rfl := Answer.setup.inj hmade
      simp [withSupport, Session.setup, Integration.setup, pageScript, Option.map_map,
        Function.comp_def]
    | _ => cases hmade
  · obtain ⟨earlier, call, hscript⟩ := mem_answers hscript
    rw [after_start hfresh] at hscript
    cases call with
    | pageScript => exact Answer.script.inj hscript
    | _ => cases hscript
  · intro earlier integrations between call later hcalls hbetween
    have hlast : lastSupport (earlier ++ .setup integrations :: between) =
        .ofOrder integrations := by
      simp [lastSupport, Call.support?, hbetween]
    have hmade := hanswer earlier (.setup integrations) (between ++ call :: later)
      (by simpa using hcalls)
    have hlater := hanswer _ call later hcalls
    rw [hlast] at hlater
    exact ⟨_, _, hmade, hlater,
      (session.withSupport (.ofOrder integrations)).setup_foretells hconfig rfl call⟩

/-- Options that import one module open a session that injects into any document that can be
read. -/
theorem start_import {tree : Node} (hread : Document.read .mdx source = .ok tree) :
    ∃ session injected,
      Session.start { imports := some (.array [.string "./A.js"]), root := some "/site" } =
        .ok session ∧
      Integration.ofConfig { imports := [.default "./A.js"], root := "/site" } =
        .ok session.integration ∧
      Document.inject session.integration.injector .mdx source = .ok injected := by
  obtain ⟨-, injector, injected, hi, hinjected, -⟩ := inject_import hread
  have hintegration :
      Integration.ofConfig { imports := [.default "./A.js"], root := "/site" } =
        .ok ⟨injector, { imports := injector.imports }⟩ :=
    ofConfig_integration.mpr ⟨hi, rfl⟩
  have hwritten : Options.ofValue (optionsValue
      { imports := some (.array [.string "./A.js"]), root := some "/site" }) =
      .ok { imports := [.string "./A.js"] } := rfl
  have hoptions : Config.ofOptions { imports := [.string "./A.js"] } "/site" =
      .ok { imports := [.default "./A.js"], root := "/site" } := rfl
  refine ⟨⟨_, true⟩, injected, ?_, hintegration, hinjected⟩
  simp only [start, rootOf, hwritten, Except.mapError, ok_bind, hoptions, hintegration]
  rfl

/-- A document is left alone between a setup in the wrong order and one in the right order, and
imports are put into it afterwards. -/
theorem answers_after_setup_twice :
    let options : SessionOptions :=
      { imports := some (.array [.string "./A.js"]), root := some "/site" }
    let calls : List Call :=
      [.setup [mdxIntegration, ownIntegration], .transform "---\n---\n" "a.mdx",
        .setup [ownIntegration, mdxIntegration], .pageScript, .transform "---\n---\n" "a.mdx"]
    ∃ session first second, Session.start options = .ok session ∧
      (session.answers calls)[1]? = some (.transformed (.ok first)) ∧
      first.Untouched "---\n---\n" ∧
      (session.answers calls)[4]? = some (.transformed (.ok second)) ∧
      second.injection.imports = true := by
  intro options calls
  obtain ⟨_, hread, -⟩ := read_matter_alone
  obtain ⟨session, injected, hstart, hconfig, hinjected⟩ := start_import hread
  obtain ⟨hanswer, -, -, hforetells⟩ := answers_after_setup hstart calls
  have hkind : DocumentKind.ofPath "a.mdx" = some .mdx := by decide
  have hskipped : (session.withSupport .misordered).transform "---\n---\n" "a.mdx" =
      .ok ⟨"---\n---\n", {}⟩ := by
    simp only [transform, hkind]
    rfl
  have hread : (session.withSupport .enabled).transform "---\n---\n" "a.mdx" =
      .ok ⟨injected.code, injected.injection⟩ := by
    simp only [transform, hkind, withSupport, hinjected]
    rfl
  have hfirst := (hanswer [_] _ _ rfl).trans
    (congrArg (fun result => some (Answer.transformed result)) hskipped)
  have hsecond := (hanswer [_, _, _, _] _ _ rfl).trans
    (congrArg (fun result => some (Answer.transformed result)) hread)
  refine ⟨session, _, _, hstart, hfirst, ?_, hsecond, ?_⟩
  · obtain ⟨made, answer, hmade, hlater, hforetold⟩ := hforetells [] _ [] _ _ rfl rfl
    obtain rfl := Answer.setup.inj (Option.some.inj ((hanswer [] _ _ rfl).symm.trans hmade))
    obtain rfl := Option.some.inj (hlater.symm.trans hfirst)
    exact hforetold.untouched rfl _ _ _ (.alone _ _ _)
  · obtain ⟨made, answer, hmade, hlater, hforetold⟩ := hforetells [_, _] _ [_] _ _ rfl rfl
    obtain rfl := Answer.setup.inj (Option.some.inj ((hanswer [_, _] _ _ rfl).symm.trans hmade))
    obtain rfl := Option.some.inj (hlater.symm.trans hsecond)
    refine hforetold.imports ?_ _ _ _ (.alone _ _ _) hkind
    have htransform := setup_transform hconfig [ownIntegration, mdxIntegration]
    rw [if_pos (by decide)] at htransform
    exact congrArg Option.isSome htransform

end Session

end PagePrelude
