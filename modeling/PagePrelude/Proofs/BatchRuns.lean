import PagePrelude.BatchRun
import Mathlib

/-!
# Batches in any order

However the workers of a host take their turns, a batch ends, and its report is that of the
documents transformed one by one (`transformAllOn_one_by_one`). A worker has one document in hand at
a time, so that a limit on the workers is one on the documents in hand (`in_hand`).
-/

namespace PagePrelude

variable {session : Session} {host : Host} {limit : Option UInt32} {inputs : List BatchInput}
  {workers : Nat} {run next : BatchRun} {turn : Turn} {turns : List Turn}

-- ---------------------------------------------------------------------------
-- Reports
-- ---------------------------------------------------------------------------

/-- A result holds the transformed document, or the words for why there is none, and only that. -/
def BatchResult.Reports (result : BatchResult) : Except Error Transformed → Prop
  | .ok document => result.document = some document ∧ result.error = none
  | .error error => result.document = none ∧ result.error = some error.message

namespace BatchOutcome

theorem report_id (outcome : BatchOutcome) : outcome.report.id = outcome.id := by
  unfold report
  split <;> rfl

theorem report_reports (outcome : BatchOutcome) : outcome.report.Reports outcome.result := by
  cases hresult : outcome.result <;> simp [report, BatchResult.Reports, hresult]

theorem report_document (outcome : BatchOutcome) :
    outcome.report.document.isSome = outcome.result.isOk := by
  cases hresult : outcome.result <;> simp [report, hresult, Except.isOk, Except.toBool]

theorem report_error (outcome : BatchOutcome) :
    outcome.report.error.isSome = !outcome.result.isOk := by
  cases hresult : outcome.result <;> simp [report, hresult, Except.isOk, Except.toBool]

end BatchOutcome

/-- A report on documents that were transformed each on its own. -/
structure BatchReport.OneByOne (session : Session) (inputs : List BatchInput)
    (report : BatchReport) : Prop where
  length : report.results.length = inputs.length
  each : ∀ (place : Nat) (input : BatchInput), inputs[place]? = some input →
    ∃ result : BatchResult, report.results[place]? = some result ∧ result.id = input.id ∧
      result.Reports (session.transform input.source (input.path.getD input.id))
  total : report.total = .ofNat inputs.length
  succeeded : report.succeeded = .ofNat (report.results.countP (·.document.isSome))
  failed : report.failed = .ofNat (report.results.countP (·.error.isSome))
  balance : report.succeeded + report.failed = report.total

theorem Session.transformAll_report (session : Session) (inputs : List BatchInput) :
    (session.transformAll inputs).report.OneByOne session inputs where
  length := by simp [transformAll, Batch.report]
  each place input hinput := by
    refine ⟨(session.outcome input).report, ?_, (session.outcome input).report_id,
      (session.outcome input).report_reports⟩
    simp [transformAll, Batch.report, hinput]
  total := rfl
  succeeded := by
    simp [transformAll, Batch.report, List.countP_map, Function.comp_def,
      BatchOutcome.report_document]
  failed := by
    simp [transformAll, Batch.report, List.countP_map, Function.comp_def,
      BatchOutcome.report_error]
  balance := by
    have hall := List.length_eq_countP_add_countP
      (fun outcome : BatchOutcome => outcome.result.isOk) (l := inputs.map session.outcome)
    rw [List.length_map] at hall
    simp only [transformAll, Batch.report]
    rw [← UInt32.ofNat_add, hall]
    simp

-- ---------------------------------------------------------------------------
-- Hosts and works
-- ---------------------------------------------------------------------------

theorem Host.workers_pos (host : Host) (limit : Option UInt32) : 0 < host.workers limit := by
  unfold workers
  cases hown : limit.bind host.own with
  | none => exact host.shared_pos
  | some size =>
    obtain ⟨limit, -, hsize⟩ := Option.bind_eq_some_iff.mp hown
    exact host.own_pos limit size hsize

/-- A limit is kept where the host can make a pool for it. -/
theorem Host.workers_le (host : Host) {limit : UInt32} (hlimit : limit ≠ 0)
    (hown : (host.own limit).isSome) : host.workers (some limit) ≤ limit.toNat := by
  obtain ⟨size, hsize⟩ := Option.isSome_iff_exists.mp hown
  have hworkers : host.workers (some limit) = size := by simp [workers, hsize]
  rw [hworkers]
  exact host.own_le limit size hlimit hsize

namespace Work

/-- What is done at the place of a document is done with that document. -/
def IsFor (session : Session) (input : BatchInput) : Work → Prop
  | .waiting held | .taken _ held => held = input
  | .transformed _ outcome | .counted _ outcome => session.outcome input = outcome
  | .placed result => (session.outcome input).report = result

/-- How often a work was counted with those that went well, or with the others. -/
def credit (ok : Bool) : Work → Nat
  | .counted _ outcome => (outcome.result.isOk == ok).toNat
  | .placed result => (result.document.isSome == ok).toNat
  | _ => 0

/-- How many turns a document has had. -/
def stage : Work → Nat
  | .waiting _ => 0
  | .taken _ _ => 1
  | .transformed _ _ => 2
  | .counted _ _ => 3
  | .placed _ => 4

theorem stage_le (work : Work) : work.stage ≤ 4 := by
  cases work <;> simp [stage]

theorem stage_eq_four {work : Work} : work.stage = 4 ↔ work.result?.isSome := by
  cases work <;> simp [stage, result?]

end Work

namespace BatchRun

-- ---------------------------------------------------------------------------
-- One turn
-- ---------------------------------------------------------------------------

/-- What a worker can do in a turn. -/
inductive Step (session : Session) (workers : Nat) (run : BatchRun) (turn : Turn) :
    BatchRun → Prop where
  | take (input : BatchInput) (hwork : run.works[turn.place]? = some (.waiting input))
    (hworker : turn.worker < workers) (hfree : run.isFree turn.worker = true) :
    Step session workers run turn (run.put turn.place (.taken turn.worker input))
  | transform (input : BatchInput)
    (hwork : run.works[turn.place]? = some (.taken turn.worker input)) :
    Step session workers run turn
      (run.put turn.place (.transformed turn.worker (session.outcome input)))
  | count (outcome : BatchOutcome)
    (hwork : run.works[turn.place]? = some (.transformed turn.worker outcome)) :
    Step session workers run turn
      ((run.count outcome).put turn.place (.counted turn.worker outcome))
  | place (outcome : BatchOutcome)
    (hwork : run.works[turn.place]? = some (.counted turn.worker outcome)) :
    Step session workers run turn (run.put turn.place (.placed outcome.report))

theorem step?_eq_some :
    run.step? session workers turn = some next ↔ Step session workers run turn next := by
  constructor
  · intro h
    unfold step? at h
    split at h
    · rename_i input hwork
      obtain ⟨⟨hworker, hfree⟩, ⟨⟩⟩ := Option.ite_none_right_eq_some.mp h
      exact .take input hwork hworker hfree
    · rename_i worker input hwork
      obtain ⟨rfl, ⟨⟩⟩ := Option.ite_none_right_eq_some.mp h
      exact .transform input hwork
    · rename_i worker outcome hwork
      obtain ⟨rfl, ⟨⟩⟩ := Option.ite_none_right_eq_some.mp h
      exact .count outcome hwork
    · rename_i worker outcome hwork
      obtain ⟨rfl, ⟨⟩⟩ := Option.ite_none_right_eq_some.mp h
      exact .place outcome hwork
    · cases h
    · cases h
  · intro h
    cases h with
    | take input hwork hworker hfree => simp [step?, hwork, hworker, hfree]
    | transform input hwork => simp [step?, hwork]
    | count outcome hwork => simp [step?, hwork]
    | place outcome hwork => simp [step?, hwork]

@[simp]
theorem works_count (run : BatchRun) (outcome : BatchOutcome) :
    (run.count outcome).works = run.works := by
  unfold count
  split <;> rfl

theorem exists_around {works : List Work} {place : Nat} {work : Work}
    (h : works[place]? = some work) :
    ∃ front back, works = front ++ work :: back ∧
      ∀ next, works.set place next = front ++ next :: back := by
  obtain ⟨hplace, rfl⟩ := List.getElem?_eq_some_iff.mp h
  refine ⟨works.take place, works.drop (place + 1), by simp, fun next => ?_⟩
  rw [List.set_eq_take_append_cons_drop, if_pos hplace]

theorem sum_set {works : List Work} {place : Nat} {work : Work} (h : works[place]? = some work)
    (weight : Work → Nat) (next : Work) :
    ((works.set place next).map weight).sum + weight work =
      (works.map weight).sum + weight next := by
  obtain ⟨front, back, hworks, hset⟩ := exists_around h
  rw [hset, hworks]
  simp only [List.map_append, List.map_cons, List.sum_append, List.sum_cons]
  omega

-- ---------------------------------------------------------------------------
-- Runs
-- ---------------------------------------------------------------------------

theorem run?_cons {last : BatchRun}
    (h : run.run? session workers (turn :: turns) = some last) :
    ∃ next, Step session workers run turn next ∧ next.run? session workers turns = some last := by
  obtain ⟨next, hnext, hlast⟩ := Option.bind_eq_some_iff.mp h
  exact ⟨next, step?_eq_some.mp hnext, hlast⟩

/-- What every turn keeps is kept by a run. -/
theorem run?_keeps {P : BatchRun → Prop}
    (hstep : ∀ {run turn next}, Step session workers run turn next → P run → P next)
    {last : BatchRun} (h : run.run? session workers turns = some last)
    (hrun : P run) : P last := by
  induction turns generalizing run with
  | nil => exact Option.some.inj h ▸ hrun
  | cons turn turns ih =>
    obtain ⟨next, hnext, hlast⟩ := run?_cons h
    exact ih hlast (hstep hnext hrun)

-- ---------------------------------------------------------------------------
-- Documents
-- ---------------------------------------------------------------------------

/-- The counter of the documents that went well, or of the others. -/
def counter (run : BatchRun) : Bool → UInt32
  | true => run.succeeded
  | false => run.failed

@[simp]
theorem counter_put (run : BatchRun) (place : Nat) (work : Work) (ok : Bool) :
    (run.put place work).counter ok = run.counter ok := by
  cases ok <;> rfl

theorem counter_count (run : BatchRun) (outcome : BatchOutcome) (ok : Bool) :
    (run.count outcome).counter ok =
      run.counter ok + .ofNat (outcome.result.isOk == ok).toNat := by
  cases hok : outcome.result.isOk <;> cases ok <;> simp [count, counter, hok]

/-- At every place is the work for the document there, and the counters hold what was counted. -/
structure Kept (session : Session) (inputs : List BatchInput) (run : BatchRun) : Prop where
  works : List.Forall₂ (Work.IsFor session) inputs run.works
  counters : ∀ ok, run.counter ok = .ofNat (run.works.map (Work.credit ok)).sum

theorem kept_start (session : Session) (inputs : List BatchInput) :
    Kept session inputs (start inputs) where
  works := List.forall₂_map_right_iff.mpr (List.forall₂_same.mpr fun _ _ => rfl)
  counters ok := by
    have hnone : ((start inputs).works.map (Work.credit ok)).sum = 0 := by
      simp [start, Function.comp_def, Work.credit]
    rw [hnone]
    cases ok <;> rfl

theorem isFor_set {place : Nat} {work next : Work} {works : List Work}
    (h : List.Forall₂ (Work.IsFor session) inputs works) (hwork : works[place]? = some work)
    (hnext : ∀ input, work.IsFor session input → next.IsFor session input) :
    List.Forall₂ (Work.IsFor session) inputs (works.set place next) := by
  induction h generalizing place with
  | nil => cases hwork
  | cons hhead htail ih =>
    cases place with
    | zero =>
      obtain rfl := Option.some.inj hwork
      exact .cons (hnext _ hhead) htail
    | succ place => exact .cons hhead (ih hwork)

theorem Kept.put (h : Kept session inputs run) {place : Nat} {work next : Work}
    (hwork : run.works[place]? = some work)
    (hnext : ∀ input, work.IsFor session input → next.IsFor session input)
    (hcredit : ∀ ok, next.credit ok = work.credit ok) :
    Kept session inputs (run.put place next) where
  works := isFor_set h.works hwork hnext
  counters ok := by
    have hsum := sum_set hwork (Work.credit ok) next
    rw [hcredit, Nat.add_right_cancel_iff] at hsum
    rw [counter_put, h.counters, BatchRun.put, hsum]

theorem Kept.count (h : Kept session inputs run) {place : Nat} {worker : Nat}
    {outcome : BatchOutcome} (hwork : run.works[place]? = some (.transformed worker outcome)) :
    Kept session inputs ((run.count outcome).put place (.counted worker outcome)) where
  works := by
    rw [BatchRun.put, works_count]
    exact isFor_set h.works hwork fun _ hinput => hinput
  counters ok := by
    have hsum := sum_set hwork (Work.credit ok) (.counted worker outcome)
    rw [counter_put, counter_count, h.counters, BatchRun.put, works_count, ← UInt32.ofNat_add]
    exact congrArg UInt32.ofNat hsum.symm

theorem Kept.step (h : Kept session inputs run) (hstep : Step session workers run turn next) :
    Kept session inputs next := by
  cases hstep with
  | take input hwork => exact h.put hwork (fun _ hinput => hinput) fun _ => rfl
  | transform input hwork =>
    refine h.put hwork (fun held hinput => ?_) fun _ => rfl
    exact congrArg session.outcome hinput.symm
  | count outcome hwork => exact h.count hwork
  | place outcome hwork =>
    -- the outcome was counted already, and its report counts as it did
    refine h.put hwork (fun _ hinput => congrArg BatchOutcome.report hinput) fun ok => ?_
    simp only [Work.credit, BatchOutcome.report_document]

-- ---------------------------------------------------------------------------
-- The end of a run
-- ---------------------------------------------------------------------------

/-- There are results once all works are in their places. -/
theorem results?_eq_some {results : List BatchResult} :
    run.results? = some results ↔ run.works = results.map .placed := by
  unfold results?
  generalize run.works = works
  induction works generalizing results with
  | nil => simp [eq_comm]
  | cons work works ih =>
    rw [List.mapM_cons]
    simp only [Option.bind_eq_bind, Option.bind_eq_some_iff, ih]
    constructor
    · rintro ⟨result, hresult, results, rfl, ⟨⟩⟩
      cases work <;> cases hresult
      rfl
    · intro h
      cases results with
      | nil => cases h
      | cons result results =>
        obtain ⟨rfl, rfl⟩ := List.cons.inj h
        exact ⟨result, rfl, results, rfl, rfl⟩

theorem Kept.results (h : Kept session inputs run) {results : List BatchResult}
    (hresults : run.results? = some results) :
    results = inputs.map fun input => (session.outcome input).report := by
  have hworks := h.works
  rw [results?_eq_some.mp hresults, List.forall₂_map_right_iff] at hworks
  have hsame := List.forall₂_map_left_iff.mpr hworks
  rw [List.forall₂_eq_eq_eq] at hsame
  exact hsame.symm

theorem sum_toNat {α : Type} (p : α → Bool) (l : List α) :
    (l.map fun a => (p a).toNat).sum = l.countP p := by
  induction l with
  | nil => rfl
  | cons a l ih =>
    rw [List.map_cons, List.sum_cons, ih, List.countP_cons, Nat.add_comm]
    cases p a <;> rfl

theorem Kept.counter_eq (h : Kept session inputs run) {results : List BatchResult}
    (hresults : run.results? = some results) (ok : Bool) :
    run.counter ok =
      .ofNat ((inputs.map session.outcome).countP fun outcome => outcome.result.isOk == ok) := by
  rw [h.counters, results?_eq_some.mp hresults, h.results hresults, ← sum_toNat]
  simp only [List.map_map, Function.comp_def, Work.credit, BatchOutcome.report_document]

/-- What a batch reports at its end is what its documents report one by one. -/
theorem Kept.report_eq (h : Kept session inputs run) {results : List BatchResult}
    (hresults : run.results? = some results) :
    { results, total := .ofNat inputs.length, succeeded := run.succeeded, failed := run.failed } =
      (session.transformAll inputs).report := by
  have hsucceeded := h.counter_eq hresults true
  have hfailed := h.counter_eq hresults false
  simp only [counter, beq_true, beq_false] at hsucceeded hfailed
  rw [h.results hresults, hsucceeded, hfailed]
  simp [Batch.report, Session.transformAll]

-- ---------------------------------------------------------------------------
-- Documents in hand
-- ---------------------------------------------------------------------------

/-- The workers that have a document in hand, each as often as it has one. -/
def busy (run : BatchRun) : List Nat :=
  run.works.filterMap Work.worker?

theorem isFree_iff {worker : Nat} : run.isFree worker = true ↔ worker ∉ run.busy := by
  simp [isFree, busy]

theorem busy_start (inputs : List BatchInput) : (start inputs).busy = [] := by
  simp [busy, start, Work.worker?]

theorem busy_count (run : BatchRun) (outcome : BatchOutcome) :
    (run.count outcome).busy = run.busy := by
  rw [busy, works_count, busy]

theorem busy_cons (work : Work) (works : List Work) :
    (work :: works).filterMap Work.worker? =
      work.worker?.toList ++ works.filterMap Work.worker? := by
  rw [List.filterMap_cons]
  cases work.worker? <;> rfl

theorem busy_around {place : Nat} {work : Work} (h : run.works[place]? = some work)
    (next : Work) :
    ∃ front back, run.busy = front ++ (work.worker?.toList ++ back) ∧
      (run.put place next).busy = front ++ (next.worker?.toList ++ back) := by
  obtain ⟨front, back, hworks, hset⟩ := exists_around h
  refine ⟨front.filterMap Work.worker?, back.filterMap Work.worker?, ?_, ?_⟩
  · rw [busy, hworks, List.filterMap_append, busy_cons]
  · rw [busy, put, hset, List.filterMap_append, busy_cons]

theorem busy_put {place : Nat} {work : Work} (h : run.works[place]? = some work) (next : Work)
    (hworker : next.worker? = work.worker?) : (run.put place next).busy = run.busy := by
  obtain ⟨front, back, hbefore, hafter⟩ := busy_around h next
  rw [hafter, hbefore, hworker]

/-- The workers of a batch have one document in hand at a time. -/
structure Single (workers : Nat) (run : BatchRun) : Prop where
  nodup : run.busy.Nodup
  lt : ∀ worker ∈ run.busy, worker < workers

theorem single_start (workers : Nat) (inputs : List BatchInput) :
    Single workers (start inputs) := by
  constructor <;> simp [busy_start]

theorem Single.take (h : Single workers run) {place worker : Nat} {input : BatchInput}
    (hwork : run.works[place]? = some (.waiting input)) (hworker : worker < workers)
    (hfree : worker ∉ run.busy) : Single workers (run.put place (.taken worker input)) := by
  obtain ⟨front, back, hbefore, hafter⟩ := busy_around hwork (.taken worker input)
  have hperm : (run.put place (.taken worker input)).busy.Perm (worker :: run.busy) := by
    rw [hafter, hbefore]
    exact List.perm_middle
  refine ⟨hperm.nodup_iff.mpr (.cons hfree h.nodup), fun other hother => ?_⟩
  rcases List.mem_cons.mp (hperm.mem_iff.mp hother) with rfl | hother
  · exact hworker
  · exact h.lt other hother

theorem Single.place (h : Single workers run) {place worker : Nat} {outcome : BatchOutcome}
    (hwork : run.works[place]? = some (.counted worker outcome)) (result : BatchResult) :
    Single workers (run.put place (.placed result)) := by
  obtain ⟨front, back, hbefore, hafter⟩ := busy_around hwork (.placed result)
  have hsub : (run.put place (.placed result)).busy.Sublist run.busy := by
    rw [hafter, hbefore]
    exact (List.sublist_cons_self worker back).append_left front
  exact ⟨h.nodup.sublist hsub, fun other hother => h.lt other (hsub.subset hother)⟩

theorem Single.step (h : Single workers run) (hstep : Step session workers run turn next) :
    Single workers next := by
  cases hstep with
  | take input hwork hworker hfree => exact h.take hwork hworker (isFree_iff.mp hfree)
  | transform input hwork =>
    have hbusy : (run.put turn.place (.transformed turn.worker (session.outcome input))).busy =
        run.busy := busy_put hwork _ rfl
    exact ⟨hbusy ▸ h.nodup, hbusy ▸ h.lt⟩
  | count outcome hwork =>
    have hbusy : ((run.count outcome).put turn.place (.counted turn.worker outcome)).busy =
        run.busy := by
      rw [← works_count run outcome] at hwork
      rw [busy_put hwork (.counted turn.worker outcome) rfl, busy_count]
    exact ⟨hbusy ▸ h.nodup, hbusy ▸ h.lt⟩
  | place outcome hwork => exact h.place hwork outcome.report

theorem Single.length_le (h : Single workers run) : run.busy.length ≤ workers := by
  have hsub : run.busy ⊆ List.range workers := fun worker hmem =>
    List.mem_range.mpr (h.lt worker hmem)
  simpa using (h.nodup.subperm hsub).length_le

/-- At any time each worker of a batch has one document in hand at most, and not more documents are
in hand than a limit allows that the host can keep. -/
theorem in_hand (h : (start inputs).run? session (host.workers limit) turns = some run) :
    run.busy.Nodup ∧ run.busy.length ≤ host.workers limit ∧
      ∀ most, limit = some most → most ≠ 0 → (host.own most).isSome →
        run.busy.length ≤ most.toNat := by
  have hsingle := run?_keeps (fun hstep hrun => hrun.step hstep) h (single_start _ inputs)
  refine ⟨hsingle.nodup, hsingle.length_le, ?_⟩
  rintro most rfl hmost hown
  exact Nat.le_trans hsingle.length_le (host.workers_le hmost hown)

-- ---------------------------------------------------------------------------
-- Progress
-- ---------------------------------------------------------------------------

/-- How many turns the documents have had. -/
def stages (run : BatchRun) : Nat :=
  (run.works.map Work.stage).sum

theorem stages_start (inputs : List BatchInput) : (start inputs).stages = 0 := by
  simp [stages, start, Function.comp_def, Work.stage]

theorem Step.stages_eq (h : Step session workers run turn next) :
    next.stages = run.stages + 1 := by
  cases h with
  | take input hwork => exact sum_set hwork Work.stage _
  | transform input hwork => exact Nat.add_right_cancel (sum_set hwork Work.stage _)
  | count outcome hwork =>
    have hsum := sum_set hwork Work.stage (.counted turn.worker outcome)
    simp only [stages, put, works_count]
    exact Nat.add_right_cancel hsum
  | place outcome hwork => exact Nat.add_right_cancel (sum_set hwork Work.stage _)

theorem run?_stages {last : BatchRun}
    (h : run.run? session workers turns = some last) :
    last.stages = run.stages + turns.length := by
  induction turns generalizing run with
  | nil => exact congrArg stages (Option.some.inj h).symm
  | cons turn turns ih =>
    obtain ⟨next, hnext, hlast⟩ := run?_cons h
    rw [ih hlast, hnext.stages_eq, List.length_cons]
    omega

theorem results?_isSome : run.results?.isSome ↔ ∀ work ∈ run.works, work.result?.isSome := by
  unfold results?
  generalize run.works = works
  induction works with
  | nil => simp
  | cons work works ih =>
    rw [List.mapM_cons, List.forall_mem_cons, ← ih]
    cases work.result? <;> cases works.mapM Work.result? <;> simp

/-- No document has more than four turns, and those of a batch with results have all four. -/
theorem stages_works (works : List Work) :
    (works.map Work.stage).sum ≤ 4 * works.length ∧
      ((works.map Work.stage).sum = 4 * works.length ↔ ∀ work ∈ works, work.result?.isSome) := by
  induction works with
  | nil => simp
  | cons work works ih =>
    obtain ⟨hle, hall⟩ := ih
    have hwork := work.stage_le
    rw [List.map_cons, List.sum_cons, List.length_cons, List.forall_mem_cons, ← hall,
      ← Work.stage_eq_four]
    omega

theorem exists_open (h : run.results? = none) :
    ∃ (place : Nat) (work : Work), run.works[place]? = some work ∧ work.result? = none := by
  have hopen : ¬ ∀ work ∈ run.works, work.result?.isSome := by
    rw [← results?_isSome, h]
    simp
  push Not at hopen
  obtain ⟨work, hwork, hresult⟩ := hopen
  obtain ⟨place, hplace⟩ := List.mem_iff_getElem?.mp hwork
  exact ⟨place, work, hplace, by simpa using hresult⟩

theorem exists_step_held {place : Nat} {work : Work} {worker : Nat}
    (hwork : run.works[place]? = some work) (hworker : work.worker? = some worker) :
    ∃ turn next, Step session workers run turn next := by
  cases work with
  | waiting input => cases hworker
  | taken holder input => exact ⟨⟨holder, place⟩, _, .transform input hwork⟩
  | transformed holder outcome => exact ⟨⟨holder, place⟩, _, .count outcome hwork⟩
  | counted holder outcome => exact ⟨⟨holder, place⟩, _, .place outcome hwork⟩
  | placed result => cases hworker

/-- A batch that has not ended can go on. -/
theorem exists_step (hworkers : 0 < workers) (h : run.results? = none) :
    ∃ turn next, Step session workers run turn next := by
  obtain ⟨place, work, hwork, hresult⟩ := exists_open h
  cases work with
  | waiting input =>
    -- the first worker takes it, unless it has another one in hand and can go on with that
    by_cases hfree : run.isFree 0 = true
    · exact ⟨⟨0, place⟩, _, .take input hwork hworkers hfree⟩
    · rw [isFree_iff, Classical.not_not] at hfree
      obtain ⟨held, hheld, hworker⟩ := List.mem_filterMap.mp hfree
      obtain ⟨place, hplace⟩ := List.mem_iff_getElem?.mp hheld
      exact exists_step_held hplace hworker
  | taken holder input => exact exists_step_held hwork rfl
  | transformed holder outcome => exact exists_step_held hwork rfl
  | counted holder outcome => exact exists_step_held hwork rfl
  | placed result => cases hresult

end BatchRun

namespace Session

variable {report : BatchReport}

theorem transformAllOn_some (h : session.transformAllOn host limit inputs turns = some report) :
    ∃ run results,
      (BatchRun.start inputs).run? session (host.workers limit) turns = some run ∧
      run.results? = some results ∧ report =
        { results, total := .ofNat inputs.length, succeeded := run.succeeded,
          failed := run.failed } := by
  simp only [transformAllOn, Option.bind_eq_bind, Option.bind_eq_some_iff] at h
  obtain ⟨run, hrun, results, hresults, hreport⟩ := h
  exact ⟨run, results, hrun, hresults, (Option.some.inj hreport).symm⟩

theorem transformAllOn_isSome
    (hrun : (BatchRun.start inputs).run? session (host.workers limit) turns = some run) :
    (session.transformAllOn host limit inputs turns).isSome = run.results?.isSome := by
  rw [transformAllOn, hrun]
  cases hresults : run.results? <;> simp [hresults]

/-- However many workers there are and whichever order they take their turns in, a batch reports
what its documents report one by one. There is always a worker that can take a turn until there is
a report, and there is one after exactly four turns for each document. -/
theorem transformAllOn_one_by_one (session : Session) (host : Host) (limit : Option UInt32)
    (inputs : List BatchInput) :
    (∀ turns report, session.transformAllOn host limit inputs turns = some report →
      report = (session.transformAll inputs).report ∧ report.OneByOne session inputs) ∧
    ∀ turns run,
      (BatchRun.start inputs).run? session (host.workers limit) turns = some run →
      turns.length ≤ 4 * inputs.length ∧
      ((session.transformAllOn host limit inputs turns).isSome ↔
        turns.length = 4 * inputs.length) ∧
      (turns.length < 4 * inputs.length →
        ∃ turn, (run.step? session (host.workers limit) turn).isSome) := by
  have hkept {turns : List Turn} {run : BatchRun}
      (hrun : (BatchRun.start inputs).run? session (host.workers limit) turns = some run) :
      BatchRun.Kept session inputs run :=
    BatchRun.run?_keeps (fun hstep hrun => hrun.step hstep) hrun
      (BatchRun.kept_start session inputs)
  refine ⟨fun turns report hreport => ?_, fun turns run hrun => ?_⟩
  · obtain ⟨run, results, hrun, hresults, rfl⟩ := transformAllOn_some hreport
    rw [(hkept hrun).report_eq hresults]
    exact ⟨rfl, session.transformAll_report inputs⟩
  · have hlength : run.works.length = inputs.length := (hkept hrun).works.length_eq.symm
    -- every turn is one of the four that its document has, so the turns say how far the batch is
    have hturns : run.stages = turns.length := by
      rw [BatchRun.run?_stages hrun, BatchRun.stages_start, Nat.zero_add]
    obtain ⟨hle, hall⟩ := BatchRun.stages_works run.works
    rw [← BatchRun.results?_isSome, ← BatchRun.stages, hlength, hturns] at hall
    rw [← BatchRun.stages, hlength, hturns] at hle
    refine ⟨hle, (transformAllOn_isSome hrun ▸ hall).symm, fun hshort => ?_⟩
    have hopen : run.results? = none := by
      refine Option.not_isSome_iff_eq_none.mp fun hsome => ?_
      exact absurd (hall.mpr hsome) (Nat.ne_of_lt hshort)
    obtain ⟨turn, next, hstep⟩ := BatchRun.exists_step (host.workers_pos limit) hopen
    exact ⟨turn, Option.isSome_iff_exists.mpr ⟨next, BatchRun.step?_eq_some.mpr hstep⟩⟩

/-- Two workers take turns: the first document ends after the second, which cannot be read, and a
third is not read at all. After five turns there is another one. -/
theorem transformAllOn_one_by_one_pair :
    let session : Session := ⟨⟨.idle, { imports := Injector.idle.imports }⟩, true⟩
    let host : Host := .ofCores 8 (by decide)
    let inputs : List BatchInput :=
      [⟨"a.mdx", "# A\n", none⟩, ⟨"b.mdx", "<Broken>\n", none⟩, ⟨"c", "<", some "c.txt"⟩]
    let begun : List Turn := [⟨0, 0⟩, ⟨1, 1⟩, ⟨1, 1⟩, ⟨0, 0⟩, ⟨1, 1⟩]
    let turns : List Turn :=
      begun ++ [⟨1, 1⟩, ⟨1, 2⟩, ⟨0, 0⟩, ⟨1, 2⟩, ⟨0, 0⟩, ⟨1, 2⟩, ⟨1, 2⟩]
    (∃ report, session.transformAllOn host (some 2) inputs turns = some report ∧
      (report.total, report.succeeded, report.failed) = (3, 2, 1) ∧
      report.OneByOne session inputs) ∧
    ∃ run turn,
      (BatchRun.start inputs).run? session (host.workers (some 2)) begun = some run ∧
      (run.step? session (host.workers (some 2)) turn).isSome := by
  intro session host inputs begun turns
  have hcounts : (session.transformAllOn host (some 2) inputs turns).map
      (fun report => (report.total, report.succeeded, report.failed)) = some (3, 2, 1) := by
    decide +kernel +zetaReduce
  have hbegun : ((BatchRun.start inputs).run? session (host.workers (some 2)) begun).isSome := by
    decide +kernel +zetaReduce
  obtain ⟨hreports, hruns⟩ := transformAllOn_one_by_one session host (some 2) inputs
  obtain ⟨report, hreport, hcounts⟩ := Option.map_eq_some_iff.mp hcounts
  obtain ⟨run, hrun⟩ := Option.isSome_iff_exists.mp hbegun
  obtain ⟨-, -, hnext⟩ := hruns begun run hrun
  obtain ⟨turn, hturn⟩ := hnext (by decide +zetaReduce)
  exact ⟨⟨report, hreport, hcounts, (hreports turns report hreport).2⟩, run, turn, hrun, hturn⟩

end Session

end PagePrelude
