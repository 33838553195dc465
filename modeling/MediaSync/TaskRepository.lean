import MediaSync.TaskTables

/-!
# The task repository

The operations through which tasks and task runs change state. An operation
reads and writes the database in one transaction of a session of its own, so
it is a function of the database, of the time its clock shows and of its
arguments; when it raises, its savepoint is rolled back and the database is
the one it started from.

Updates are conditional statements: the rows they touch are selected by the
columns they name, and what is selected decides whether the caller still owns
the task.
-/
namespace MediaSync.TaskRepository
open JsonValues RowTables TaskTables

inductive TaskError where
  | valueError (text : String)
  | invalidTransition (source target : TaskStatus)
  | taskNotFound (taskId : ℕ)
  | taskRunNotFound (text : String)
  | stateConflict (taskId : ℕ) (expected : String) (actual : TaskStatus)
  | activeTaskRunExists (text : String)
  | ownershipRequired (text : String)
  | ownershipLost (taskId : ℕ) (workerId : String)
  | integrity
  deriving DecidableEq, Repr

/-- The value of a status column. -/
def statusText : TaskStatus → String
  | .pending => "pending"
  | .running => "running"
  | .retry => "retry"
  | .waitingCredential => "waiting_credential"
  | .cancelRequested => "cancel_requested"
  | .success => "success"
  | .failed => "failed"
  | .cancelled => "cancelled"

def runStatusText : TaskRunStatus → String
  | .running => "running"
  | .success => "success"
  | .failed => "failed"
  | .blocked => "blocked"
  | .lost => "lost"
  | .cancelled => "cancelled"

def queued (status : TaskStatus) : Bool := status ∈ [.pending, .retry]

def leased (status : TaskStatus) : Bool := status ∈ [.running, .cancelRequested]

def leaseExpiredErrorCode : String := "WORKER_LEASE_EXPIRED"

def leaseExpiredErrorMessage : String := "worker lease expired before task completion"

/-- `TASK_TO_RUN_TERMINAL_STATUS` -/
def taskToRunTerminalStatus : TaskStatus → Option TaskRunStatus
  | .pending => some .success
  | .success => some .success
  | .failed => some .failed
  | .retry => some .failed
  | .waitingCredential => some .blocked
  | .cancelled => some .cancelled
  | .running | .cancelRequested => none

structure TaskClaim where
  taskId : ℕ
  task : Task
  taskRunId : ℕ
  taskRun : TaskRun
  lockToken : String
  leaseUntil : Time
  deriving DecidableEq, Repr

structure ExpiredTaskLease where
  taskId : ℕ
  status : TaskStatus
  workerId : String
  lockToken : String
  leaseUntil : Time
  retryCount : ℕ
  deriving DecidableEq, Repr

def createTask (db : Database) (clock : Time) (new : NewTask) :
    Except TaskError (ℕ × Database) :=
  if new.status.getD .pending ≠ .pending then
    .error (.valueError "a new task must start in pending state")
  else if !db.admitsTask (new.row clock) then .error .integrity
  else .ok (db.tasks.nextId, { db with tasks := db.tasks.insert (new.row clock) })

def requireTask (db : Database) (taskId : ℕ) : Except TaskError Task :=
  match db.tasks.get? taskId with
  | none => .error (.taskNotFound taskId)
  | some task => .ok task

def validateTransition (source target : TaskStatus) : Except TaskError Unit :=
  if canTransition source target then .ok () else .error (.invalidTransition source target)

/-- `_task_transition_values`, applied to the row they are written to -/
def taskTransitionValues (target : TaskStatus) (occurredAt : Time)
    (blockedReason errorCode errorMessage : Option String) (nextAttemptAt : Option Time)
    (task : Task) : Task :=
  { task with
    status := target
    lastErrorCode := errorCode
    lastErrorMessage := errorMessage
    nextAttemptAt := if target ∈ [.pending, .retry] then nextAttemptAt else none
    completedAt := if target.terminal then some occurredAt else none
    blockedReason :=
      if target = .waitingCredential then blockedReason
      else if target ≠ .cancelRequested then none else task.blockedReason
    blockedAt :=
      if target = .waitingCredential then some occurredAt
      else if target ≠ .cancelRequested then none else task.blockedAt
    cancelRequestedAt :=
      if target = .cancelRequested then some occurredAt else task.cancelRequestedAt }

structure TransitionDetails where
  occurredAt : Option Time := none
  blockedReason : Option String := none
  errorCode : Option String := none
  errorMessage : Option String := none
  nextAttemptAt : Option Time := none
  deriving DecidableEq, Repr

def transitioned (target : TaskStatus) (now : Time) (details : TransitionDetails) (row : Task) :
    Task :=
  let row' := taskTransitionValues target now details.blockedReason details.errorCode
    details.errorMessage details.nextAttemptAt row
  { row' with
    cancelRequestedAt :=
      if target = .cancelRequested then row.cancelRequestedAt <|> some now
      else row'.cancelRequestedAt
    updatedAt := now }

def transition (db : Database) (clock : Time) (taskId : ℕ) (expected target : TaskStatus)
    (details : TransitionDetails) : Except TaskError Database := do
  let task ← requireTask db taskId
  if task.status ≠ expected then
    throw (.stateConflict taskId (statusText expected) task.status)
  validateTransition expected target
  if target = .running ∨ (leased expected ∧ target ≠ .cancelRequested) then
    throw (.ownershipRequired
      ("task transition '" ++ statusText expected ++ "' -> '" ++ statusText target ++
        "' requires an ownership-aware repository operation"))
  let now := details.occurredAt.getD clock
  return { db with
    tasks := db.tasks.update (fun id row => id = taskId && row.status = expected) fun _ =>
      transitioned target now details }

/-- `_validate_owner_arguments` -/
def validateOwnerArguments (workerId : String) (leaseDuration : Time) : Except TaskError Unit := do
  if workerId = "" then throw (.valueError "worker_id must not be empty")
  if leaseDuration ≤ 0 then throw (.valueError "lease_duration must be positive")

def unowned (task : Task) : Bool :=
  task.lockedBy.isNone && task.lockToken.isNone && task.lockedAt.isNone && task.leaseUntil.isNone

def isClaimable (now : Time) (task : Task) : Bool :=
  (queued task.status && (task.nextAttemptAt.all fun at' => at' ≤ now) && unowned task) ||
  (task.status = .cancelRequested && unowned task)

/-- The condition under which the claim statement writes the row. -/
def claimGuard (now : Time) (task : Task) : Bool :=
  task.status ∈ [.pending, .retry, .cancelRequested] && unowned task &&
    (task.status = .cancelRequested || task.nextAttemptAt.all fun at' => at' ≤ now)

/-- The claim statement writes every row that the selection can choose. -/
theorem claimGuard_eq (now : Time) (task : Task) : claimGuard now task = isClaimable now task := by
  unfold claimGuard isClaimable
  cases task.status <;> simp [queued, Bool.and_comm]

/-- The claim order: priority first, then due time, creation time and id. -/
def claimKey (row : ℕ × Task) : ℤ ×ₗ ℤ ×ₗ ℤ ×ₗ ℕ :=
  toLex (-(row.2.priority : ℤ),
    toLex (row.2.nextAttemptAt.getD row.2.createdAt, toLex (row.2.createdAt, row.1)))

/-- The first row in the claim order. -/
def firstClaimable (rows : List (ℕ × Task)) : Option (ℕ × Task) :=
  letI : Preorder ℤ := Int.instLinearOrder.toPreorder
  rows.argmin claimKey

def nextRunNumber (db : Database) (taskId : ℕ) : ℕ :=
  ((db.taskRuns.select fun _ run => run.taskId = taskId).map fun row => row.2.runNumber).foldr
    max 0 + 1

def newRun (db : Database) (clock : Time) (taskId : ℕ) (workerId lockToken : String)
    (startedAt lastHeartbeatAt : Option Time) : TaskRun where
  taskId := taskId
  runNumber := nextRunNumber db taskId
  workerId := some workerId
  lockToken := some lockToken
  startedAt := startedAt.getD clock
  lastHeartbeatAt := lastHeartbeatAt
  createdAt := clock
  updatedAt := clock

@[simp] theorem newRun_taskId (db : Database) (clock : Time) (taskId : ℕ)
    (workerId lockToken : String) (startedAt lastHeartbeatAt : Option Time) :
    (newRun db clock taskId workerId lockToken startedAt lastHeartbeatAt).taskId = taskId := rfl

def createRun (db : Database) (clock : Time) (taskId : ℕ) (workerId lockToken : String)
    (startedAt lastHeartbeatAt : Option Time) : Except TaskError (ℕ × Database) := do
  let task ← requireTask db taskId
  if !leased task.status then
    throw (.stateConflict taskId "running or cancel_requested" task.status)
  if task.lockedBy ≠ some workerId ∨ task.lockToken ≠ some lockToken then
    throw (.ownershipLost taskId workerId)
  if (db.taskRuns.select fun _ run => run.taskId = taskId && run.status = .running) ≠ [] then
    throw (.activeTaskRunExists ("task " ++ toString taskId ++ " already has an active run"))
  let run := newRun db clock taskId workerId lockToken startedAt lastHeartbeatAt
  return (db.taskRuns.nextId, { db with taskRuns := db.taskRuns.insert run })

def claimed (workerId lockToken : String) (now leaseUntil : Time) (task : Task) : Task :=
  { task with
    status := if task.status = .cancelRequested then .cancelRequested else .running
    lockedBy := some workerId
    lockToken := some lockToken
    lockedAt := some now
    leaseUntil := some leaseUntil
    nextAttemptAt := none
    updatedAt := now }

@[simp] theorem claimed_leased (workerId lockToken : String) (now leaseUntil : Time)
    (task : Task) : leased (claimed workerId lockToken now leaseUntil task).status = true := by
  unfold claimed
  by_cases h : task.status = .cancelRequested <;> simp [h, leased]

/-- `claim_next`; `lockToken` is the token the call draws. -/
def claimNext (db : Database) (clock : Time) (lockToken workerId : String) (leaseDuration : Time)
    (claimedAt : Option Time) : Except TaskError (Option TaskClaim × Database) := do
  validateOwnerArguments workerId leaseDuration
  let now := claimedAt.getD clock
  let leaseUntil := now + leaseDuration
  match firstClaimable (db.tasks.select fun _ task => isClaimable now task) with
  | none => return (none, db)
  | some (taskId, _) =>
    let updated : Database := { db with
      tasks := db.tasks.update (fun id task => id = taskId && claimGuard now task) fun _ =>
        claimed workerId lockToken now leaseUntil }
    let task ← requireTask updated taskId
    let (taskRunId, started) ←
      createRun updated clock taskId workerId lockToken (some now) (some now)
    match started.taskRuns.get? taskRunId with
    | none => throw (.taskRunNotFound ("task run " ++ toString taskRunId ++ " not found"))
    | some taskRun =>
      return (some ⟨taskId, task, taskRunId, taskRun, lockToken, leaseUntil⟩, started)

/-- The task row that a heartbeat or a finish of this owner updates. -/
def ownedBy (taskId : ℕ) (workerId lockToken : String) (now : Time) (id : ℕ) (task : Task) : Bool :=
  id = taskId && task.lockedBy = some workerId && task.lockToken = some lockToken &&
    (task.leaseUntil.any fun lease => now < lease)

/-- The running run of this owner. -/
def activeRunOf (taskId : ℕ) (workerId lockToken : String) (run : TaskRun) : Bool :=
  run.taskId = taskId && run.status = .running && run.workerId = some workerId &&
    run.lockToken = some lockToken

def extended (now leaseUntil : Time) (task : Task) : Task :=
  { task with leaseUntil := some leaseUntil, updatedAt := now }

def beaten (now : Time) (run : TaskRun) : TaskRun :=
  { run with lastHeartbeatAt := some now, updatedAt := now }

def heartbeat (db : Database) (clock : Time) (taskId : ℕ) (workerId lockToken : String)
    (leaseDuration : Time) (heartbeatAt : Option Time) : Except TaskError Database := do
  validateOwnerArguments workerId leaseDuration
  if lockToken = "" then throw (.valueError "lock_token must not be empty")
  let now := heartbeatAt.getD clock
  let owned (id : ℕ) (task : Task) : Bool :=
    ownedBy taskId workerId lockToken now id task && leased task.status
  if db.tasks.select owned = [] then throw (.ownershipLost taskId workerId)
  let active (_ : ℕ) (run : TaskRun) : Bool := activeRunOf taskId workerId lockToken run
  if db.taskRuns.select active = [] then throw (.ownershipLost taskId workerId)
  return { db with
    tasks := db.tasks.update owned fun _ => extended now (now + leaseDuration)
    taskRuns := db.taskRuns.update active fun _ => beaten now }

structure FinishDetails where
  finishedAt : Option Time := none
  durationMs : Option ℕ := none
  resultSummary : Option String := none
  errorCode : Option String := none
  errorMessage : Option String := none
  metrics : Option (List (String × Json)) := none
  blockedReason : Option String := none
  nextAttemptAt : Option Time := none
  consumeRetryBudget : Bool := false
  deriving DecidableEq, Repr

/-- A finish that puts a running task back into the queue must say so and when. -/
def isContinuation (expected : TaskStatus) (details : FinishDetails) : Bool :=
  expected = .running && details.nextAttemptAt.isSome &&
    (details.metrics.any fun metrics => Json.field? metrics "continuation" = some (.bool true)) &&
    !details.consumeRetryBudget

/-- Gives the task back: no owner, no lease. -/
def released (task : Task) : Task :=
  { task with lockedBy := none, lockToken := none, lockedAt := none, leaseUntil := none }

def finished (clock : Time) (target : TaskStatus) (details : FinishDetails) (task : Task) : Task :=
  { released (taskTransitionValues target (details.finishedAt.getD clock) details.blockedReason
      details.errorCode details.errorMessage details.nextAttemptAt task) with
    retryCount := task.retryCount + if details.consumeRetryBudget then 1 else 0
    updatedAt := clock }

def closed (clock : Time) (runStatus : TaskRunStatus) (details : FinishDetails) (run : TaskRun) :
    TaskRun :=
  { run with
    status := runStatus
    finishedAt := some (details.finishedAt.getD clock)
    durationMs := details.durationMs
    resultSummary := details.resultSummary
    errorCode := details.errorCode
    errorMessage := details.errorMessage
    metrics := details.metrics.getD run.metrics
    updatedAt := clock }

def finishRun (db : Database) (clock : Time) (taskId taskRunId : ℕ) (workerId lockToken : String)
    (expected target : TaskStatus) (runStatus : TaskRunStatus) (details : FinishDetails) :
    Except TaskError Database := do
  if workerId = "" then throw (.valueError "worker_id must not be empty")
  if lockToken = "" then throw (.valueError "lock_token must not be empty")
  validateTransition expected target
  if target = .pending ∧ !isContinuation expected details then
    throw (.valueError "continuation requires an owned running task and a future schedule")
  if taskToRunTerminalStatus target ≠ some runStatus ∨ !runStatus.terminal then
    throw (.valueError ("task status '" ++ statusText target ++ "' requires run status " ++
      ((taskToRunTerminalStatus target).elim "None" fun status =>
        "'" ++ runStatusText status ++ "'")))
  if details.consumeRetryBudget ∧ target ∈ [.success, .waitingCredential, .cancelled] then
    throw (.valueError ("task status '" ++ statusText target ++ "' cannot consume retry budget"))
  let owned (id : ℕ) (task : Task) : Bool :=
    ownedBy taskId workerId lockToken clock id task && task.status = expected
  if db.tasks.select owned = [] then throw (.ownershipLost taskId workerId)
  let active (id : ℕ) (run : TaskRun) : Bool :=
    id = taskRunId && activeRunOf taskId workerId lockToken run
  if db.taskRuns.select active = [] then
    throw (.taskRunNotFound ("active task run " ++ toString taskRunId ++
      " not found for owned task " ++ toString taskId))
  return { db with
    tasks := db.tasks.update owned fun _ => finished clock target details
    taskRuns := db.taskRuns.update active fun _ => closed clock runStatus details }

/-- Expired leases, longest expired first, then by priority and id. -/
def leaseOrder (a b : ℕ × Task) : Prop :=
  toLex ((a.2.leaseUntil.getD 0 : ℤ), toLex (-(a.2.priority : ℤ), a.1)) ≤
    toLex ((b.2.leaseUntil.getD 0 : ℤ), toLex (-(b.2.priority : ℤ), b.1))

instance : DecidableRel leaseOrder := fun _ _ => inferInstanceAs (Decidable (_ ≤ _))

def listExpiredLeases (db : Database) (clock : Time) (limit : ℕ) (expiredAt : Option Time) :
    Except TaskError (List ExpiredTaskLease) := do
  if limit < 1 ∨ 1000 < limit then throw (.valueError "limit must be between 1 and 1000")
  let now := expiredAt.getD clock
  let rows := (db.tasks.select fun _ task => leased task.status && task.lockedBy.isSome &&
    task.lockToken.isSome && (task.leaseUntil.any fun lease => lease ≤ now)).insertionSort
      leaseOrder
  return (rows.take limit).filterMap fun row => do
    let workerId ← row.2.lockedBy
    let lockToken ← row.2.lockToken
    let leaseUntil ← row.2.leaseUntil
    return ⟨row.1, row.2.status, workerId, lockToken, leaseUntil, row.2.retryCount⟩

def recovered (now : Time) (target : TaskStatus) (retryAt : Option Time) (retryCount : ℕ)
    (task : Task) : Task :=
  { released (taskTransitionValues target now none (some leaseExpiredErrorCode)
      (some leaseExpiredErrorMessage) retryAt task) with
    cancelRequestedAt := task.cancelRequestedAt
    retryCount := retryCount
    updatedAt := now }

def lost (now : Time) (run : TaskRun) : TaskRun :=
  { run with
    status := .lost
    finishedAt := some now
    resultSummary := some leaseExpiredErrorMessage
    errorCode := some leaseExpiredErrorCode
    errorMessage := some leaseExpiredErrorMessage
    updatedAt := now }

/-- What a lost task becomes, and when it may be tried again. -/
def recoveryTarget (current : Task) (nextAttemptAt : Option Time) :
    Except TaskError (TaskStatus × Option Time) :=
  if current.status = .cancelRequested then .ok (.cancelRequested, none)
  else if current.maxRetries < current.retryCount + 1 then .ok (.failed, none)
  else if nextAttemptAt.isNone then
    .error (.valueError "next_attempt_at is required when an expired task remains retryable")
  else .ok (.retry, nextAttemptAt)

def recoverExpiredLease (db : Database) (clock : Time) (lease : ExpiredTaskLease)
    (nextAttemptAt recoveredAt : Option Time) : Except TaskError (Bool × Database) := do
  let now := recoveredAt.getD clock
  let held (id : ℕ) (task : Task) : Bool :=
    id = lease.taskId && task.status = lease.status && task.lockedBy = some lease.workerId &&
      task.lockToken = some lease.lockToken && (task.leaseUntil.any fun until' => until' ≤ now)
  match db.tasks.select held with
  | [] => return (false, db)
  | (_, current) :: _ =>
    let (target, retryAt) ← recoveryTarget current nextAttemptAt
    let active (_ : ℕ) (run : TaskRun) : Bool :=
      activeRunOf lease.taskId lease.workerId lease.lockToken run
    if db.taskRuns.select active = [] then
      throw (.taskRunNotFound ("active task run not found for expired task " ++
        toString lease.taskId))
    return (true, { db with
      tasks := db.tasks.update held fun _ => recovered now target retryAt (current.retryCount + 1)
      taskRuns := db.taskRuns.update active fun _ => lost now })

section Results
variable {db db' : Database} {clock : Time} {taskId taskRunId : ℕ}
  {workerId lockToken : String} {expected target : TaskStatus}

theorem createTask_ok {new : NewTask} {id : ℕ} (h : createTask db clock new = .ok (id, db')) :
    db.admitsTask (new.row clock) ∧ id = db.tasks.nextId ∧
      db' = { db with tasks := db.tasks.insert (new.row clock) } := by
  unfold createTask at h
  split_ifs at h with hstatus hadmits
  cases h
  exact ⟨by simpa using hadmits, rfl, rfl⟩

theorem requireTask_ok {task : Task} (h : requireTask db taskId = .ok task) :
    db.tasks.get? taskId = some task := by
  unfold requireTask at h
  split at h
  · cases h
  · cases h
    assumption

theorem transition_ok {details : TransitionDetails}
    (h : transition db clock taskId expected target details = .ok db') :
    canTransition expected target ∧ target ≠ .running ∧
      (leased expected → target = .cancelRequested) ∧
      db' = { db with
        tasks := db.tasks.update (fun id row => id = taskId && row.status = expected) fun _ =>
          transitioned target (details.occurredAt.getD clock) details } := by
  unfold transition validateTransition at h
  simp only [bind, Except.bind, throw, throwThe, MonadExceptOf.throw, pure, Except.pure] at h
  split at h
  · cases h
  split_ifs at h with hstatus hcan howned
  cases h
  rw [not_or, not_and_not_right] at howned
  exact ⟨hcan, howned.1, howned.2, rfl⟩

theorem createRun_ok {startedAt lastHeartbeatAt : Option Time} {id : ℕ}
    (h : createRun db clock taskId workerId lockToken startedAt lastHeartbeatAt =
      .ok (id, db')) :
    (∃ task, db.tasks.get? taskId = some task ∧ leased task.status ∧
      task.lockedBy = some workerId ∧ task.lockToken = some lockToken) ∧
      db.taskRuns.select (fun _ run => run.taskId = taskId && run.status = .running) = [] ∧
      id = db.taskRuns.nextId ∧
      db' = { db with
        taskRuns := db.taskRuns.insert
          (newRun db clock taskId workerId lockToken startedAt lastHeartbeatAt) } := by
  unfold createRun at h
  simp only [bind, Except.bind, throw, throwThe, MonadExceptOf.throw, pure, Except.pure] at h
  split at h
  · cases h
  next task htask =>
  split_ifs at h with hleased howner hactive
  cases h
  rw [not_or, not_not, not_not] at howner
  exact ⟨⟨task, requireTask_ok htask, by simpa using hleased, howner⟩, not_not.mp hactive,
    rfl, rfl⟩

theorem claimNext_ok {leaseDuration : Time} {claimedAt : Option Time} {claim : Option TaskClaim}
    (h : claimNext db clock lockToken workerId leaseDuration claimedAt = .ok (claim, db')) :
    (claim = none ∧ db' = db) ∨ ∃ id task started, db.tasks.get? id = some task ∧
      isClaimable (claimedAt.getD clock) task ∧
      started = { db with
        tasks := db.tasks.update
          (fun id' task => id' = id && isClaimable (claimedAt.getD clock) task) fun _ =>
            claimed workerId lockToken (claimedAt.getD clock)
              (claimedAt.getD clock + leaseDuration) } ∧
      ∃ run, createRun started clock id workerId lockToken (some (claimedAt.getD clock))
        (some (claimedAt.getD clock)) = .ok (run, db') := by
  unfold claimNext at h
  simp only [claimGuard_eq, bind, Except.bind, throw, throwThe, MonadExceptOf.throw, pure,
    Except.pure] at h
  split at h
  · cases h
  split at h
  · cases h
    exact .inl ⟨rfl, rfl⟩
  next id task hfirst =>
  have hmem := List.argmin_mem hfirst
  rw [Table.mem_select] at hmem
  split at h
  · cases h
  split at h
  · cases h
  next result hrun =>
  split at h
  · cases h
  cases h
  exact .inr ⟨id, task, _, hmem.1, hmem.2, rfl, result.1, hrun⟩

theorem heartbeat_ok {leaseDuration : Time} {heartbeatAt : Option Time}
    (h : heartbeat db clock taskId workerId lockToken leaseDuration heartbeatAt = .ok db') :
    let now := heartbeatAt.getD clock
    let owned := fun id task => ownedBy taskId workerId lockToken now id task && leased task.status
    let active := fun (_ : ℕ) run => activeRunOf taskId workerId lockToken run
    db.tasks.select owned ≠ [] ∧ db.taskRuns.select active ≠ [] ∧
      db' = { db with
        tasks := db.tasks.update owned fun _ => extended now (now + leaseDuration)
        taskRuns := db.taskRuns.update active fun _ => beaten now } := by
  unfold heartbeat at h
  simp only [bind, Except.bind, throw, throwThe, MonadExceptOf.throw, pure, Except.pure] at h
  split at h
  · cases h
  split_ifs at h with htoken howned hactive
  cases h
  exact ⟨howned, hactive, rfl⟩

theorem finishRun_ok {runStatus : TaskRunStatus} {details : FinishDetails}
    (h : finishRun db clock taskId taskRunId workerId lockToken expected target runStatus details =
      .ok db') :
    let owned := fun id task =>
      ownedBy taskId workerId lockToken clock id task && task.status = expected
    let active := fun id run => id = taskRunId && activeRunOf taskId workerId lockToken run
    canTransition expected target ∧ taskToRunTerminalStatus target = some runStatus ∧
      runStatus.terminal ∧ (target = .pending → isContinuation expected details) ∧
      db.tasks.select owned ≠ [] ∧ db.taskRuns.select active ≠ [] ∧
      db' = { db with
        tasks := db.tasks.update owned fun _ => finished clock target details
        taskRuns := db.taskRuns.update active fun _ => closed clock runStatus details } := by
  unfold finishRun validateTransition at h
  simp only [bind, Except.bind, throw, throwThe, MonadExceptOf.throw, pure, Except.pure] at h
  split_ifs at h with hworker htoken hcan hpending hrun hbudget howned hactive
  cases h
  rw [not_or, not_not] at hrun
  exact ⟨hcan, hrun.1, by simpa using hrun.2, by simpa using hpending, howned, hactive, rfl⟩

theorem recoverExpiredLease_ok {lease : ExpiredTaskLease} {nextAttemptAt recoveredAt : Option Time}
    {done : Bool}
    (h : recoverExpiredLease db clock lease nextAttemptAt recoveredAt = .ok (done, db')) :
    let now := recoveredAt.getD clock
    let held := fun id (task : Task) =>
      id = lease.taskId && task.status = lease.status && task.lockedBy = some lease.workerId &&
        task.lockToken = some lease.lockToken && (task.leaseUntil.any fun until' => until' ≤ now)
    let active := fun (_ : ℕ) run => activeRunOf lease.taskId lease.workerId lease.lockToken run
    (done = false ∧ db' = db) ∨
      ∃ id task target retryAt, done = true ∧ (id, task) ∈ db.tasks.select held ∧
        recoveryTarget task nextAttemptAt = .ok (target, retryAt) ∧
        db.taskRuns.select active ≠ [] ∧
        db' = { db with
          tasks := db.tasks.update held fun _ => recovered now target retryAt (task.retryCount + 1)
          taskRuns := db.taskRuns.update active fun _ => lost now } := by
  unfold recoverExpiredLease at h
  simp only [bind, Except.bind, throw, throwThe, MonadExceptOf.throw, pure, Except.pure] at h
  split at h
  · cases h
    exact .inl ⟨rfl, rfl⟩
  next id task rest hheld =>
  split at h
  · cases h
  next result htarget =>
  split_ifs at h with hactive
  cases h
  exact .inr ⟨id, task, result.1, result.2, rfl, by rw [hheld]; exact List.mem_cons_self ..,
    htarget, hactive, rfl⟩

end Results

end MediaSync.TaskRepository
