import MediaSync.TaskRepository

/-!
# The worker runtime

A worker recovers expired leases, claims a task, lets a handler carry it out
and writes the outcome back. Each part below is one transaction of a session of
its own: a function of the database, of the time `now` that the worker read
before and of the time `clock` that its repository reads, which raises or
answers with the database it commits.
-/
namespace MediaSync.TaskWorker
open JsonValues RowTables TaskTables TaskRepository

/-! ## Outcomes -/

inductive TaskOutcomeStatus where
  | deferred | success | retry | failed | waitingCredential | cancelled
  deriving DecidableEq, Repr

structure OutcomeFields where
  status : TaskOutcomeStatus
  summary : Option String := none
  errorCode : Option String := none
  errorMessage : Option String := none
  metrics : Option (List (String × Json)) := none
  retryAfter : Option Time := none
  blockedReason : Option String := none
  deriving DecidableEq, Repr

/-- What `__post_init__` accepts. -/
def OutcomeFields.wellFormed (outcome : OutcomeFields) : Bool :=
  (outcome.retryAfter.all fun delay => 0 < delay) &&
  (outcome.status ≠ .retry || outcome.errorCode.isSome) &&
  (outcome.status ≠ .waitingCredential || outcome.blockedReason.isSome) &&
  (outcome.status ∈ [.retry, .deferred] || outcome.retryAfter.isNone) &&
  (outcome.status = .waitingCredential || outcome.blockedReason.isNone)

structure TaskOutcome extends OutcomeFields where
  wellFormed : toOutcomeFields.wellFormed = true
  deriving DecidableEq, Repr

/-! ## Backoff -/

/-- `timedelta / 2`: half of a delay, rounded to even. -/
def halfDelay (delay : Time) : Time :=
  if delay % 2 = 0 ∨ delay / 2 % 2 = 0 then delay / 2 else delay / 2 + 1

structure ExponentialBackoff where
  baseDelay : Time := 30000000
  maxDelay : Time := 900000000
  positive : 0 < baseDelay
  ordered : baseDelay ≤ maxDelay

namespace ExponentialBackoff

/-- The loop of `delay_for`. -/
def doubled (backoff : ExponentialBackoff) : ℕ → Time → Time
  | 0, delay => min delay backoff.maxDelay
  | n + 1, delay =>
    if halfDelay backoff.maxDelay ≤ delay then backoff.maxDelay
    else backoff.doubled n (delay * 2)

def delayFor (backoff : ExponentialBackoff) (retryCount : ℕ) : Time :=
  backoff.doubled retryCount backoff.baseDelay

def bounded (backoff : ExponentialBackoff) (delay : Time) : Except TaskError Time :=
  if delay ≤ 0 then .error (.valueError "delay must be positive")
  else .ok (min delay backoff.maxDelay)

end ExponentialBackoff

/-! ## The runtime -/

structure WorkerRuntime where
  workerId : String
  leaseDuration : Time := 60000000
  heartbeatInterval : Time := 20000000
  recoveryLimit : ℕ := 100
  backoff : ExponentialBackoff
  named : workerId ≠ ""
  beats : 0 < heartbeatInterval ∧ heartbeatInterval < leaseDuration
  limited : 1 ≤ recoveryLimit ∧ recoveryLimit ≤ 1000

structure TaskInvocation where
  taskId : ℕ
  taskRunId : ℕ
  taskType : String
  payloadVersion : ℕ
  payload : List (String × Json)
  triggerType : String
  accountId : Option ℕ
  subscriptionId : Option ℕ
  fileId : Option ℕ
  claimedStatus : TaskStatus
  retryCount : ℕ
  maxRetries : ℕ
  providerWriteIntentAt : Option Time
  providerOperationId : Option String
  providerOperationStatus : Option ProviderOperationStatus
  providerResult : Option (List (String × Json))
  deriving DecidableEq, Repr

/-- `TaskInvocation.from_task` -/
def TaskInvocation.fromTask (taskId : ℕ) (task : Task) (taskRunId : ℕ) : TaskInvocation where
  taskId := taskId
  taskRunId := taskRunId
  taskType := task.type
  payloadVersion := task.payloadVersion
  payload := task.payload
  triggerType := task.triggerType
  accountId := task.accountId
  subscriptionId := task.subscriptionId
  fileId := task.fileId
  claimedStatus := task.status
  retryCount := task.retryCount
  maxRetries := task.maxRetries
  providerWriteIntentAt := task.providerWriteIntentAt
  providerOperationId := task.providerOperationId
  providerOperationStatus := task.providerOperationStatus
  providerResult := task.providerResult

structure ClaimedExecution where
  invocation : TaskInvocation
  lockToken : String
  deriving DecidableEq, Repr

inductive WorkerError where
  | ownershipLost (taskId : ℕ) (workerId : String)
  | invalidOutcome (text : String)
  | task (e : TaskError)
  deriving DecidableEq, Repr

/-- The repository's own error of a lost owner is the worker's. -/
def ofTask : TaskError → WorkerError
  | .ownershipLost taskId workerId => .ownershipLost taskId workerId
  | e => .task e

namespace WorkerRuntime
variable (runtime : WorkerRuntime)

/-! ## Recovering and claiming -/

def recoverLeases (now clock : Time) : List ExpiredTaskLease → Database →
    Except TaskError (ℕ × Database)
  | [], db => .ok (0, db)
  | lease :: leases, db => do
    let (done, db) ← recoverExpiredLease db clock lease
      (some (now + runtime.backoff.delayFor lease.retryCount)) (some now)
    let (count, db) ← recoverLeases now clock leases db
    return (done.toNat + count, db)

structure Cycle where
  claim : Option ClaimedExecution
  recoveredCount : ℕ
  gated : Bool
  deriving DecidableEq, Repr

/-- The claim of a cycle, if the update gate lets it through. -/
def claimUnlessBlocked (now clock : Time) (lockToken : String) (blocked : Bool)
    (recoveredCount : ℕ) (db : Database) : Except TaskError (Cycle × Database) :=
  if blocked then .ok (⟨none, recoveredCount, true⟩, db)
  else do
    let (claim, db) ← claimNext db clock lockToken runtime.workerId runtime.leaseDuration (some now)
    return (⟨claim.map fun claim =>
      ⟨.fromTask claim.taskId claim.task claim.taskRunId, claim.lockToken⟩, recoveredCount, false⟩,
      db)

/-- `_recover_and_claim`; `lockToken` is the token a claim draws, `blocked`
what the update gate answers in this session. -/
def recoverAndClaim (now clock : Time) (lockToken : String) (blocked : Bool) (db : Database) :
    Except TaskError (Cycle × Database) := do
  let leases ← listExpiredLeases db clock runtime.recoveryLimit (some now)
  let (recoveredCount, db) ← runtime.recoverLeases now clock leases db
  runtime.claimUnlessBlocked now clock lockToken blocked recoveredCount db

/-! ## While a handler runs -/

/-- `_heartbeat` -/
def heartbeat (now clock : Time) (claimed : ClaimedExecution) (db : Database) :
    Except TaskError Database :=
  TaskRepository.heartbeat db clock claimed.invocation.taskId runtime.workerId claimed.lockToken
    runtime.leaseDuration (some now)

/-- The task row still names this execution. -/
def owns (claimed : ClaimedExecution) (task : Task) : Bool :=
  task.lockedBy = some runtime.workerId && task.lockToken = some claimed.lockToken

/-- `_read_cancellation` -/
def readCancellation (now : Time) (claimed : ClaimedExecution) (db : Database) :
    Except WorkerError Bool :=
  match db.tasks.get? claimed.invocation.taskId with
  | none => .error (.ownershipLost claimed.invocation.taskId runtime.workerId)
  | some task =>
    if runtime.owns claimed task && (task.leaseUntil.any fun lease => now < lease) then
      .ok (task.status = .cancelRequested)
    else .error (.ownershipLost claimed.invocation.taskId runtime.workerId)

/-! ## Finishing -/

/-- What a finished run leaves in the task row and in its own. -/
structure Verdict where
  taskStatus : TaskStatus
  runStatus : TaskRunStatus
  nextAttemptAt : Option Time := none
  deriving DecidableEq, Repr

def cancelledDownload : TaskOutcome where
  status := .cancelled
  summary := some "下载已取消"
  wellFormed := rfl

/-- A cancelled download does not have to say so. -/
def reconciledOutcome (task : Task) (outcome : TaskOutcome) : TaskOutcome :=
  if task.status = .cancelRequested ∧ task.type = "download" ∧
    outcome.status ∉ [.success, .cancelled] then cancelledDownload else outcome

/-- Whether a task that is to be cancelled may end with this outcome. -/
def accepted (status : TaskStatus) (outcome : OutcomeFields) : Bool :=
  status ≠ .cancelRequested || outcome.status ∈ [.success, .cancelled]

def isContinuing (outcome : OutcomeFields) : Bool :=
  outcome.metrics.any fun metrics => Json.field? metrics "continuation" = some (.bool true)

def retryVerdict (now : Time) (task : Task) (outcome : OutcomeFields) : Except TaskError Verdict :=
  if task.maxRetries < task.retryCount + 1 then .ok ⟨.failed, .failed, none⟩
  else do
    let delay ← runtime.backoff.bounded
      (outcome.retryAfter.getD (runtime.backoff.delayFor task.retryCount))
    return ⟨.retry, .failed, some (now + delay)⟩

def verdict (now : Time) (task : Task) (outcome : OutcomeFields) : Except WorkerError Verdict :=
  match outcome.status with
  | .deferred =>
    if isContinuing outcome then
      .ok ⟨.pending, .success, some (now + outcome.retryAfter.getD 1000000)⟩
    else .error (.invalidOutcome "deferred outcome requires continuation metrics")
  | .retry => (runtime.retryVerdict now task outcome).mapError .task
  | .waitingCredential => .ok ⟨.waitingCredential, .blocked, none⟩
  | .success => .ok ⟨.success, .success, none⟩
  | .failed => .ok ⟨.failed, .failed, none⟩
  | .cancelled => .ok ⟨.cancelled, .cancelled, none⟩

def finishDetails (now : Time) (durationMs : ℕ) (outcome : OutcomeFields) (verdict : Verdict) :
    FinishDetails where
  finishedAt := some now
  durationMs := some durationMs
  resultSummary := outcome.summary
  errorCode := outcome.errorCode
  errorMessage := outcome.errorMessage
  metrics := outcome.metrics
  blockedReason := outcome.blockedReason
  nextAttemptAt := verdict.nextAttemptAt
  consumeRetryBudget := outcome.status ∈ [.retry, .failed]

/-- The second half of `_finish`, on the task row it has read. -/
def finishTask (now clock : Time) (claimed : ClaimedExecution) (outcome : OutcomeFields)
    (durationMs : ℕ) (task : Task) (db : Database) : Except WorkerError (TaskStatus × Database) :=
  if !accepted task.status outcome then
    .error (.invalidOutcome "cancel_requested task must reconcile to success or cancelled")
  else do
    let verdict ← runtime.verdict now task outcome
    let db ← (finishRun db clock claimed.invocation.taskId claimed.invocation.taskRunId
      runtime.workerId claimed.lockToken task.status verdict.taskStatus verdict.runStatus
      (finishDetails now durationMs outcome verdict)).mapError ofTask
    return (verdict.taskStatus, db)

/-- `_finish` -/
def finish (now clock : Time) (claimed : ClaimedExecution) (outcome : TaskOutcome)
    (durationMs : ℕ) (db : Database) : Except WorkerError (TaskStatus × Database) :=
  match db.tasks.get? claimed.invocation.taskId with
  | none => .error (.ownershipLost claimed.invocation.taskId runtime.workerId)
  | some task =>
    if !runtime.owns claimed task then
      .error (.ownershipLost claimed.invocation.taskId runtime.workerId)
    else runtime.finishTask now clock claimed (reconciledOutcome task outcome).toOutcomeFields
      durationMs task db

end WorkerRuntime

/-! ## What they commit -/

section Results
variable {runtime : WorkerRuntime} {now clock : Time} {db db' : Database}

theorem recoverLeases_cons {lease : ExpiredTaskLease} {leases : List ExpiredTaskLease} {count : ℕ}
    (h : runtime.recoverLeases now clock (lease :: leases) db = .ok (count, db')) :
    ∃ done middle rest, recoverExpiredLease db clock lease
        (some (now + runtime.backoff.delayFor lease.retryCount)) (some now) = .ok (done, middle) ∧
      runtime.recoverLeases now clock leases middle = .ok (rest, db') := by
  rw [WorkerRuntime.recoverLeases] at h
  cases hfirst : recoverExpiredLease db clock lease
      (some (now + runtime.backoff.delayFor lease.retryCount)) (some now) with
  | error e =>
    rw [hfirst] at h
    cases h
  | ok first =>
    rw [hfirst] at h
    cases hrest : runtime.recoverLeases now clock leases first.2 with
    | error e =>
      simp only [bind, Except.bind, hrest] at h
      cases h
    | ok rest =>
      simp only [bind, Except.bind, hrest, pure, Except.pure] at h
      cases h
      exact ⟨first.1, first.2, rest.1, rfl, hrest⟩

theorem claimUnlessBlocked_ok {lockToken : String} {blocked : Bool} {count : ℕ}
    {cycle : WorkerRuntime.Cycle}
    (h : runtime.claimUnlessBlocked now clock lockToken blocked count db = .ok (cycle, db')) :
    db' = db ∨ ∃ claim, blocked = false ∧ claimNext db clock lockToken runtime.workerId
      runtime.leaseDuration (some now) = .ok (claim, db') := by
  unfold WorkerRuntime.claimUnlessBlocked at h
  split at h
  · cases h
    exact .inl rfl
  · rename_i hblocked
    cases hclaim : claimNext db clock lockToken runtime.workerId runtime.leaseDuration
        (some now) with
    | error e =>
      rw [hclaim] at h
      cases h
    | ok claim =>
      rw [hclaim] at h
      cases h
      exact .inr ⟨claim.1, by simpa using hblocked, rfl⟩

theorem recoverAndClaim_ok {lockToken : String} {blocked : Bool} {cycle : WorkerRuntime.Cycle}
    (h : runtime.recoverAndClaim now clock lockToken blocked db = .ok (cycle, db')) :
    ∃ leases count middle, runtime.recoverLeases now clock leases db = .ok (count, middle) ∧
      runtime.claimUnlessBlocked now clock lockToken blocked count middle = .ok (cycle, db') := by
  unfold WorkerRuntime.recoverAndClaim at h
  cases hleases : listExpiredLeases db clock runtime.recoveryLimit (some now) with
  | error e =>
    rw [hleases] at h
    cases h
  | ok leases =>
    rw [hleases] at h
    cases hrecovered : runtime.recoverLeases now clock leases db with
    | error e =>
      simp only [bind, Except.bind, hrecovered] at h
      cases h
    | ok recovered =>
      simp only [bind, Except.bind, hrecovered] at h
      exact ⟨leases, recovered.1, recovered.2, hrecovered, h⟩

theorem finish_ok {claimed : ClaimedExecution} {outcome : TaskOutcome} {durationMs : ℕ}
    {status : TaskStatus}
    (h : runtime.finish now clock claimed outcome durationMs db = .ok (status, db')) :
    ∃ task fields verdict, db.tasks.get? claimed.invocation.taskId = some task ∧
      runtime.owns claimed task = true ∧
      fields = (WorkerRuntime.reconciledOutcome task outcome).toOutcomeFields ∧
      WorkerRuntime.accepted task.status fields = true ∧
      runtime.verdict now task fields = .ok verdict ∧ status = verdict.taskStatus ∧
      finishRun db clock claimed.invocation.taskId claimed.invocation.taskRunId runtime.workerId
        claimed.lockToken task.status verdict.taskStatus verdict.runStatus
        (WorkerRuntime.finishDetails now durationMs fields verdict) = .ok db' := by
  unfold WorkerRuntime.finish at h
  split at h
  · cases h
  · rename_i task htask
    split at h
    · cases h
    · rename_i howns
      unfold WorkerRuntime.finishTask at h
      split at h
      · cases h
      · rename_i haccepted
        cases hverdict : runtime.verdict now task
            (WorkerRuntime.reconciledOutcome task outcome).toOutcomeFields with
        | error e =>
          rw [hverdict] at h
          cases h
        | ok verdict =>
          rw [hverdict] at h
          cases hrun : finishRun db clock claimed.invocation.taskId claimed.invocation.taskRunId
              runtime.workerId claimed.lockToken task.status verdict.taskStatus verdict.runStatus
              (WorkerRuntime.finishDetails now durationMs
                (WorkerRuntime.reconciledOutcome task outcome).toOutcomeFields verdict) with
          | error e =>
            simp only [bind, Except.bind, hrun, Except.mapError] at h
            cases h
          | ok finished =>
            simp only [bind, Except.bind, hrun, Except.mapError, pure, Except.pure] at h
            cases h
            exact ⟨task, _, verdict, htask, by simpa using howns, rfl, by simpa using haccepted,
              hverdict, rfl, hrun⟩

end Results

end MediaSync.TaskWorker
