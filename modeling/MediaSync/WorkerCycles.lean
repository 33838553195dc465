import MediaSync.TransferHandler

/-!
# One cycle of a worker

A cycle recovers leases and claims a task, runs the handler that is registered
for it and writes the outcome back. The probe of the handler and the final
write look at who owns the task. While the handler runs, a heartbeat extends
the lease from beside it: it is a move of the surroundings, and all the cycle
learns of it is that it was refused.
-/
namespace MediaSync.WorkerCycles
open FaultPrograms TaskTables TaskRepository TaskWorker TransferOperation
open TransferHandler

inductive WorkerCycleStatus where
  | idle | paused | completed | ownershipLost
  deriving DecidableEq, Repr

structure WorkerCycleResult where
  status : WorkerCycleStatus
  recoveredCount : ℕ
  taskId : Option ℕ := none
  taskStatus : Option TaskStatus := none
  deriving DecidableEq, Repr

/-- What `run_once` raises. -/
inductive CycleError where
  | database
  | worker (e : WorkerError)
  deriving DecidableEq, Repr

abbrev CycleProg (χ α : Type) := Prog (EngineWorld χ) CycleError α

/-- A handler is given its probe and the task. -/
abbrev TaskHandler (χ : Type) := EngineProg χ Bool → TaskInvocation → EngineProg χ TaskOutcome

/-- `TaskHandlerRegistry.resolve` -/
abbrev TaskHandlerRegistry (χ : Type) := String → ℕ → Option (TaskHandler χ)

/-- What one cycle is run with: the token a claim draws, what the update gate
answers, and how long the handler is found to have run. -/
structure Job where
  runtime : WorkerRuntime
  lockToken : String
  blocked : Bool := false
  durationMs : ℕ := 0

theorem failed_plain : TaskOutcomeStatus.failed = .success ∨ TaskOutcomeStatus.failed = .failed ∨
    TaskOutcomeStatus.failed = .cancelled := .inr (.inl rfl)

def noHandler (invocation : TaskInvocation) : TaskOutcome :=
  plainOutcome .failed "No compatible task handler is registered" failed_plain
    (some "UNSUPPORTED_TASK_HANDLER")
    (some ("unsupported task type '" ++ invocation.taskType ++ "' payload v" ++
      toString invocation.payloadVersion))

def handlerRaised (name : String) : TaskOutcome :=
  plainOutcome .failed "Task handler raised an exception" failed_plain
    (some "TASK_HANDLER_EXCEPTION") (some ("task handler raised " ++ name))

/-- What an error of the worker is to its handler. -/
def ofWorker : WorkerError → TransferError
  | .ownershipLost taskId workerId => .ownershipLost taskId workerId
  | .invalidOutcome text => .other none text
  | .task _ => .other none "task repository error"

section Cycle
variable {χ : Type} (job : Job)

/-- `_recover_and_claim` -/
def recoverAndClaim : CycleProg χ WorkerRuntime.Cycle := do
  let now ← Prog.look .database fun w => .ok w.clock
  Prog.effect .database fun w =>
    match job.runtime.recoverAndClaim now w.clock job.lockToken job.blocked w.db with
    | .ok (cycle, db) => (.ok cycle, { w with db := db })
    | .error e => (.error (.worker (ofTask e)), w)

/-- `_cancellation_requested` -/
def cancellationRequested (claimed : ClaimedExecution) : EngineProg χ Bool :=
  Prog.look databaseError fun w =>
    (job.runtime.readCancellation w.clock claimed w.db).mapError ofWorker

/-- `_finish` -/
def finish (claimed : ClaimedExecution) (outcome : TaskOutcome) (durationMs : ℕ) :
    CycleProg χ TaskStatus := do
  let now ← Prog.look .database fun w => .ok w.clock
  Prog.effect .database fun w =>
    match job.runtime.finish now w.clock claimed outcome durationMs w.db with
    | .ok (status, db) => (.ok status, { w with db := db })
    | .error e => (.error (.worker e), w)

def lostCycle (claimed : ClaimedExecution) (recoveredCount : ℕ) : WorkerCycleResult :=
  { status := .ownershipLost, recoveredCount := recoveredCount,
    taskId := some claimed.invocation.taskId }

/-- An error of the final write that is a result of the cycle. -/
def finishRaised (claimed : ClaimedExecution) (recoveredCount : ℕ) :
    CycleError → CycleProg χ WorkerCycleResult
  | .worker (.ownershipLost _ _) => pure (lostCycle claimed recoveredCount)
  | e => throw e

/-- `_finalize` -/
def finalize (claimed : ClaimedExecution) (outcome : TaskOutcome) (durationMs recoveredCount : ℕ) :
    CycleProg χ WorkerCycleResult :=
  tryCatch (do
    let status ← finish job claimed outcome durationMs
    pure { status := .completed, recoveredCount := recoveredCount,
           taskId := some claimed.invocation.taskId, taskStatus := some status })
    (finishRaised claimed recoveredCount)

/-- The outcome of a handler, also of one that raised. -/
def outcomeOf (className : TransferError → String) : Except TransferError TaskOutcome → TaskOutcome
  | .ok outcome => outcome
  | .error e => handlerRaised (className e)

/-- A handler has ended; a lost heartbeat leaves its outcome unwritten. -/
def handled (claimed : ClaimedExecution) (outcome : TaskOutcome) (recoveredCount : ℕ) :
    CycleProg χ WorkerCycleResult := do
  if ← Prog.look .database fun w => .ok (decide (claimed.lockToken ∈ w.lost)) then
    pure (lostCycle claimed recoveredCount)
  else finalize job claimed outcome job.durationMs recoveredCount

/-- The task that has been claimed. -/
def execute (handlers : TaskHandlerRegistry χ) (className : TransferError → String)
    (claimed : ClaimedExecution) (recoveredCount : ℕ) : CycleProg χ WorkerCycleResult :=
  match handlers claimed.invocation.taskType claimed.invocation.payloadVersion with
  | none => finalize job claimed (noHandler claimed.invocation) 0 recoveredCount
  | some handler => do
    let result ← Prog.attempt (handler (cancellationRequested job claimed) claimed.invocation)
    handled job claimed (outcomeOf className result) recoveredCount

/-- What a cycle does with what it has claimed. -/
def afterClaim (handlers : TaskHandlerRegistry χ) (className : TransferError → String)
    (cycle : WorkerRuntime.Cycle) : CycleProg χ WorkerCycleResult :=
  if cycle.gated then pure { status := .paused, recoveredCount := cycle.recoveredCount }
  else match cycle.claim with
  | none => pure { status := .idle, recoveredCount := cycle.recoveredCount }
  | some claimed => execute job handlers className claimed cycle.recoveredCount

/-- `run_once` -/
def runOnce (handlers : TaskHandlerRegistry χ) (className : TransferError → String) :
    CycleProg χ WorkerCycleResult := do
  let cycle ← recoverAndClaim job
  afterClaim job handlers className cycle

end Cycle

/-! ## What happens beside the cycles -/

/-- One heartbeat of a claimed task; a refusal is kept for its cycle. -/
def beat {χ : Type} (runtime : WorkerRuntime) (claimed : ClaimedExecution) (w : EngineWorld χ) :
    EngineWorld χ :=
  match runtime.heartbeat w.clock w.clock claimed w.db with
  | .ok db => { w with db := db }
  | .error (.ownershipLost _ _) => { w with lost := claimed.lockToken :: w.lost }
  | .error _ => w

/-- A request to cancel a task (`transition` to `cancel_requested` of a running
task, to `cancelled` of a waiting one). -/
def requestCancel {χ : Type} (taskId : ℕ) (expected target : TaskStatus)
    (details : TransitionDetails) (w : EngineWorld χ) : EngineWorld χ :=
  match transition w.db w.clock taskId expected target details with
  | .ok db => { w with db := db }
  | .error _ => w

end MediaSync.WorkerCycles
