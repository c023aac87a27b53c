import PagePrelude.Session

/-!
# Batches on several workers

The documents of a batch are transformed by the workers of a pool, any of which may be the next to
go on. A worker takes a document that waits, transforms it, adds one to a counter and puts the
result in its place. The workers share the places and the two counters. An addition to a counter is
a single step, so that none is lost between reading and writing it.
-/

namespace PagePrelude

/-- The result for one document of a batch: the document, or the words for why there is none. -/
structure BatchResult where
  id : String
  document : Option Transformed
  error : Option String
  deriving DecidableEq, Repr

/-- What a batch reports: the results in the order of its documents, with machine-word counts. -/
structure BatchReport where
  results : List BatchResult
  total : UInt32
  succeeded : UInt32
  failed : UInt32
  deriving DecidableEq, Repr

/-- The outcome for one document in words. -/
def BatchOutcome.report (outcome : BatchOutcome) : BatchResult :=
  match outcome.result with
  | .ok document => { id := outcome.id, document := some document, error := none }
  | .error error => { id := outcome.id, document := none, error := some error.message }

/-- The report of a batch. -/
def Batch.report (batch : Batch) : BatchReport :=
  { results := batch.outcomes.map BatchOutcome.report
    total := batch.total
    succeeded := batch.succeeded
    failed := batch.failed }

/-- The pools of a host. -/
structure Host where
  /-- The size of the pool that all batches share. -/
  shared : Nat
  shared_pos : 0 < shared
  /-- The size of a pool that is made for one batch with a limit, if one can be made. A limit of 0
  leaves the size to the host. -/
  own : UInt32 → Option Nat
  own_pos : ∀ limit workers, own limit = some workers → 0 < workers
  own_le : ∀ limit workers, limit ≠ 0 → own limit = some workers → workers ≤ limit.toNat

/-- How many workers a batch has. Where no pool can be made for it, it uses the shared one. -/
def Host.workers (host : Host) (limit : Option UInt32) : Nat :=
  (limit.bind host.own).getD host.shared

/-- A host with some cores that can make a pool of any size. -/
def Host.ofCores (cores : Nat) (hcores : 0 < cores) : Host where
  shared := cores
  shared_pos := hcores
  own limit := some (if limit = 0 then cores else limit.toNat)
  own_pos limit workers hown := by
    obtain rfl := Option.some.inj hown
    split
    · exact hcores
    · rename_i hlimit
      exact Nat.pos_of_ne_zero fun hzero => hlimit (UInt32.toNat_inj.mp hzero)
  own_le limit workers hlimit hown := by
    obtain rfl := Option.some.inj hown
    exact Nat.le_of_eq (if_neg hlimit)

/-- How far the document at a place of a batch is, and which worker has it in hand. -/
inductive Work where
  | waiting (input : BatchInput)
  | taken (worker : Nat) (input : BatchInput)
  | transformed (worker : Nat) (outcome : BatchOutcome)
  | counted (worker : Nat) (outcome : BatchOutcome)
  | placed (result : BatchResult)

namespace Work

/-- The worker that has the document in hand. -/
def worker? : Work → Option Nat
  | taken worker _ | transformed worker _ | counted worker _ => some worker
  | waiting _ | placed _ => none

/-- The result, once it is in its place. -/
def result? : Work → Option BatchResult
  | placed result => some result
  | _ => none

end Work

/-- A batch while it is worked on. -/
structure BatchRun where
  works : List Work
  succeeded : UInt32 := 0
  failed : UInt32 := 0

/-- A worker that goes on with the document at a place. -/
structure Turn where
  worker : Nat
  place : Nat
  deriving DecidableEq, Repr

namespace BatchRun

/-- A batch that nobody has begun with. -/
def start (inputs : List BatchInput) : BatchRun :=
  { works := inputs.map .waiting }

def put (run : BatchRun) (place : Nat) (work : Work) : BatchRun :=
  { run with works := run.works.set place work }

/-- Adds an outcome to its counter. -/
def count (run : BatchRun) (outcome : BatchOutcome) : BatchRun :=
  if outcome.result.isOk then { run with succeeded := run.succeeded + 1 }
  else { run with failed := run.failed + 1 }

/-- Whether a worker has no document in hand. -/
def isFree (run : BatchRun) (worker : Nat) : Bool :=
  run.works.all fun work => decide (work.worker? ≠ some worker)

/-- A batch after a turn of one of its workers. A worker that is free may take any document that
waits; otherwise it goes on with the one that it has. -/
def step? (session : Session) (workers : Nat) (run : BatchRun) (turn : Turn) : Option BatchRun :=
  match run.works[turn.place]? with
  | some (.waiting input) =>
    if turn.worker < workers ∧ run.isFree turn.worker then
      some (run.put turn.place (.taken turn.worker input))
    else none
  | some (.taken worker input) =>
    if worker = turn.worker then
      some (run.put turn.place (.transformed worker (session.outcome input)))
    else none
  | some (.transformed worker outcome) =>
    if worker = turn.worker then
      some ((run.count outcome).put turn.place (.counted worker outcome))
    else none
  | some (.counted worker outcome) =>
    if worker = turn.worker then some (run.put turn.place (.placed outcome.report)) else none
  | some (.placed _) | none => none

/-- A batch after some turns, if all of them can be taken. -/
def run? (session : Session) (workers : Nat) (run : BatchRun) (turns : List Turn) :
    Option BatchRun :=
  turns.foldlM (step? session workers) run

/-- The results in the order of the documents, once all are in their places. -/
def results? (run : BatchRun) : Option (List BatchResult) :=
  run.works.mapM Work.result?

end BatchRun

/-- Transforms many documents on the workers of a host that take their turns in the given order.
There is no report before all results are in their places. -/
def Session.transformAllOn (session : Session) (host : Host) (limit : Option UInt32)
    (inputs : List BatchInput) (turns : List Turn) : Option BatchReport := do
  let run ← (BatchRun.start inputs).run? session (host.workers limit) turns
  let results ← run.results?
  return {
    results
    total := .ofNat inputs.length
    succeeded := run.succeeded
    failed := run.failed }

end PagePrelude
