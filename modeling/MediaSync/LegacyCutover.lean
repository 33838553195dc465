import MediaSync.TaskOwnership
import MediaSync.TaskWorker

/-!
# Cutting over from the legacy executor

The legacy executor runs tasks inside the API process and keeps no owner and no
run for them. When it is replaced by a worker, one pass over the task table
takes every running task without an owner back to the queue, or ends it, and
leaves a lost run behind: the one that was running, the record of an earlier
pass, or a new one.

The product of seconds and a thousand is a float in the source; the duration of
a run is a parameter here.
-/
namespace MediaSync.LegacyCutover
open JsonValues RowTables TaskTables TaskRepository TaskOwnership TaskWorker

def legacyCutoverErrorCode : String := "LEGACY_CUTOVER_RECOVERY"

def legacyCutoverErrorMessage : String :=
  "legacy execution stopped during process cutover; remote outcome is unknown"

inductive CutoverError where
  | task (e : TaskError)
  | runConflict (text : String)
  deriving DecidableEq, Repr

inductive RunAction where
  | appended | finalized | preserved
  deriving DecidableEq, Repr

structure ReconciledLegacyTask where
  task : Task
  taskRunId : ℕ
  runAction : RunAction
  deriving DecidableEq, Repr

structure CutoverContext where
  durationMs : Time → Time → ℕ
  retryBackoff : ExponentialBackoff

def isRunningRunOf (taskId : ℕ) (run : TaskRun) : Bool :=
  run.taskId = taskId && run.status = .running

/-- The last run of the task that an earlier pass has left. -/
def equivalentRun (db : Database) (taskId : ℕ) : Option (ℕ × TaskRun) :=
  (db.taskRuns.select fun _ run => run.taskId = taskId && run.status = .lost &&
    run.errorCode = some legacyCutoverErrorCode).argmax fun row => toLex (row.2.runNumber, row.1)

def cutOver (target : TaskStatus) (retryCount : ℕ) (nextAttemptAt now : Time) (task : Task) :
    Task :=
  { released task with
    status := target
    retryCount := retryCount
    nextAttemptAt := if target = .retry then some nextAttemptAt else none
    lastErrorCode := some legacyCutoverErrorCode
    lastErrorMessage := some legacyCutoverErrorMessage
    completedAt := if target = .failed then some now else none
    updatedAt := now }

def cutOff (context : CutoverContext) (now : Time) (run : TaskRun) : TaskRun :=
  { run with
    status := .lost
    finishedAt := some now
    durationMs := some (context.durationMs run.startedAt now)
    resultSummary := some legacyCutoverErrorMessage
    errorCode := some legacyCutoverErrorCode
    errorMessage := some legacyCutoverErrorMessage
    updatedAt := now }

def syntheticRun (context : CutoverContext) (db : Database) (clock now : Time) (taskId : ℕ)
    (task : Task) : TaskRun where
  taskId := taskId
  runNumber := nextRunNumber db taskId
  workerId := some "legacy-cutover"
  status := .lost
  startedAt := task.startedAt.getD task.createdAt
  finishedAt := some now
  durationMs := some (context.durationMs (task.startedAt.getD task.createdAt) now)
  resultSummary := some legacyCutoverErrorMessage
  errorCode := some legacyCutoverErrorCode
  errorMessage := some legacyCutoverErrorMessage
  metrics := [("schema_version", .int 1), ("reconciled_from", .str "legacy")]
  createdAt := clock
  updatedAt := clock

def orphanRetryCount (task : Task) : ℕ := max (max task.retryCount task.attemptCount) 1

def orphanTarget (task : Task) : TaskStatus :=
  if orphanRetryCount task ≤ task.maxRetries then .retry else .failed

def isOrphan (task : Task) : Bool := task.status = .running && !owned task

/-- `reconcile_legacy_orphan`; `clock` is the time of the defaults of a new row. -/
def reconcileLegacyOrphan (context : CutoverContext) (db : Database) (clock : Time) (taskId : ℕ)
    (nextAttemptAt reconciledAt : Time) :
    Except CutoverError (Option ReconciledLegacyTask × Database) := do
  let task ← (requireTask db taskId).mapError .task
  if !isOrphan task then return (none, db)
  let activeRuns := db.taskRuns.select fun _ => isRunningRunOf taskId
  if 1 < activeRuns.length then
    throw (.runConflict ("legacy task " ++ toString taskId ++ " has multiple active task runs"))
  let equivalent := equivalentRun db taskId
  if activeRuns ≠ [] ∧ equivalent.isSome then
    throw (.runConflict ("legacy task " ++ toString taskId ++
      " has both an active run and a cutover record"))
  let task' := cutOver (orphanTarget task) (orphanRetryCount task) nextAttemptAt reconciledAt task
  let updated : Database := { db with
    tasks := db.tasks.update (fun id task => id = taskId && isOrphan task) fun _ =>
      cutOver (orphanTarget task) (orphanRetryCount task) nextAttemptAt reconciledAt }
  match activeRuns, equivalent with
  | (runId, _) :: _, _ =>
    return (some ⟨task', runId, .finalized⟩, { updated with
      taskRuns := db.taskRuns.update (fun id run => id = runId && run.status = .running) fun _ =>
        cutOff context reconciledAt })
  | [], some (runId, _) => return (some ⟨task', runId, .preserved⟩, updated)
  | [], none =>
    return (some ⟨task', db.taskRuns.nextId, .appended⟩, { updated with
      taskRuns := db.taskRuns.insert (syntheticRun context db clock reconciledAt taskId task) })

section Orphans
variable {context : CutoverContext} {db db' : Database} {clock nextAttemptAt reconciledAt : Time}
  {taskId : ℕ} {P : Task → List (ℕ × TaskRun) → Prop}

/-- The task table after an orphan was taken back. -/
def withOrphan (db : Database) (taskId : ℕ) (task : Task) (nextAttemptAt reconciledAt : Time) :
    Database :=
  { db with
    tasks := db.tasks.update (fun id task => id = taskId && isOrphan task) fun _ =>
      cutOver (orphanTarget task) (orphanRetryCount task) nextAttemptAt reconciledAt }

/-- What taking an orphan back can do, by the runs that it has. -/
theorem reconcileLegacyOrphan_ok {answer : Option ReconciledLegacyTask}
    (h : reconcileLegacyOrphan context db clock taskId nextAttemptAt reconciledAt =
      .ok (answer, db')) :
    (answer = none ∧ db' = db) ∨ ∃ task, db.tasks.get? taskId = some task ∧ isOrphan task ∧
      ((∃ runId run, db.taskRuns.select (fun _ => isRunningRunOf taskId) = [(runId, run)] ∧
        db' = { withOrphan db taskId task nextAttemptAt reconciledAt with
          taskRuns := db.taskRuns.update (fun id run => id = runId && run.status = .running)
            fun _ => cutOff context reconciledAt }) ∨
      (db.taskRuns.select (fun _ => isRunningRunOf taskId) = [] ∧
        db' = withOrphan db taskId task nextAttemptAt reconciledAt) ∨
      (db.taskRuns.select (fun _ => isRunningRunOf taskId) = [] ∧
        db' = { withOrphan db taskId task nextAttemptAt reconciledAt with
          taskRuns := db.taskRuns.insert
            (syntheticRun context db clock reconciledAt taskId task) })) := by
  unfold reconcileLegacyOrphan at h
  cases htask : requireTask db taskId with
  | error e =>
    rw [htask] at h
    cases h
  | ok task =>
    rw [htask] at h
    simp only [bind, Except.bind, Except.mapError, throw, throwThe, MonadExceptOf.throw, pure,
      Except.pure] at h
    split_ifs at h with horphan hmany hboth
    · cases h
      exact .inl ⟨rfl, rfl⟩
    · right
      refine ⟨task, requireTask_ok htask, by simpa using horphan, ?_⟩
      split at h
      next _ runId run rest hactive =>
        cases h
        have hrest : rest = [] := by
          rw [hactive, List.length_cons] at hmany
          exact List.length_eq_zero_iff.mp (by omega)
        exact .inl ⟨runId, run, hrest ▸ hactive, rfl⟩
      next hactive _ =>
        cases h
        exact .inr (.inl ⟨hactive, rfl⟩)
      next hactive _ =>
        cases h
        exact .inr (.inr ⟨hactive, rfl⟩)

theorem orphanTarget_ne_running (task : Task) : orphanTarget task ≠ .running := by
  unfold orphanTarget
  split_ifs <;> decide

/-- Taking an orphan back, row by row. -/
theorem Throughout.of_orphan (h : Throughout P db) {answer : Option ReconciledLegacyTask}
    (hok : reconcileLegacyOrphan context db clock taskId nextAttemptAt reconciledAt =
      .ok (answer, db'))
    (hfree : ∀ task runs, unowned task → task.status ≠ .running → activeOwners runs = [] →
      P task runs) : Throughout P db' := by
  rcases reconcileLegacyOrphan_ok hok with ⟨-, rfl⟩ | ⟨task, htask, horphan, hcases⟩
  · exact h
  have hidle (hnone : db.taskRuns.select (fun _ => isRunningRunOf taskId) = []) :
      activeOwners (runsOf db taskId) = [] := by
    rw [activeOwners, running_runsOf hnone]
    rfl
  have hupdated (hnone : db.taskRuns.select (fun _ => isRunningRunOf taskId) = []) :
      Throughout P (withOrphan db taskId task nextAttemptAt reconciledAt) := by
    refine h.of_tasks fun id task' _ hp _ => ?_
    simp only [Bool.and_eq_true, decide_eq_true_eq] at hp
    rw [hp.1]
    exact hfree _ _ rfl (orphanTarget_ne_running task) (hidle hnone)
  rcases hcases with ⟨runId, run, hactive, rfl⟩ | ⟨hnone, rfl⟩ | ⟨hnone, rfl⟩
  · have hrow : (runId, run) ∈ db.taskRuns.select fun _ => isRunningRunOf taskId := by
      rw [hactive]
      exact List.mem_singleton_self _
    obtain ⟨hget, hrun⟩ := Table.mem_select.mp hrow
    simp only [isRunningRunOf, Bool.and_eq_true, decide_eq_true_eq] at hrun
    refine Throughout.of_updated (p := fun id task => id = taskId && isOrphan task)
      (f := cutOver (orphanTarget task) (orphanRetryCount task) nextAttemptAt reconciledAt)
      (q := fun id run => id = runId && run.status = .running) (g := cutOff context reconciledAt)
      h taskId (fun id task hp => ?_) (fun id other hother hq => ?_) (fun _ => rfl)
      fun task' htask' => ?_
    · simp only [Bool.and_eq_true, decide_eq_true_eq] at hp
      exact hp.1
    · simp only [Bool.and_eq_true, decide_eq_true_eq] at hq
      rw [hq.1, hget, Option.some.injEq] at hother
      exact hother ▸ hrun.1
    · rw [htask, Option.some.injEq] at htask'
      subst htask'
      rw [if_pos (by simpa using horphan)]
      apply hfree _ _ rfl (orphanTarget_ne_running task)
      apply activeOwners_map_closed
      · intro run hr
        cases hr
      · intro row hmem hr
        obtain ⟨hother, htaskId⟩ := mem_runsOf.mp hmem
        have hsingle : (row.1, row.2) ∈ db.taskRuns.select fun _ => isRunningRunOf taskId :=
          Table.mem_select.mpr ⟨hother, by simp [isRunningRunOf, htaskId, hr]⟩
        rw [hactive, List.mem_singleton] at hsingle
        have hid : row.1 = runId := congrArg Prod.fst hsingle
        simp [hid, hr]
  · exact hupdated hnone
  · refine (hupdated hnone).of_run_inserted ?_ fun task' htask' _ => ?_
    · change ((withOrphan db taskId task nextAttemptAt reconciledAt).tasks.get? taskId).isSome
      rw [withOrphan, Table.get?_update, htask]
      rfl
    · change (withOrphan db taskId task nextAttemptAt reconciledAt).tasks.get? taskId = some task'
        at htask'
      rw [withOrphan, Table.get?_update, htask, Option.map_some, if_pos (by simpa using horphan),
        Option.some.injEq] at htask'
      apply hfree
      · rw [← htask']
        rfl
      · rw [← htask']
        exact orphanTarget_ne_running task
      · have hold : activeOwners (runsOf (withOrphan db taskId task nextAttemptAt reconciledAt)
            taskId) = [] := hidle hnone
        rw [activeOwners_append]
        change activeOwners (runsOf _ taskId) ++ [] = []
        rw [hold]
        rfl

end Orphans

structure LegacyTaskReconciliationResult where
  inspectedCount : ℕ := 0
  preservedByStatus : List (String × ℕ) := []
  orphanRetryCount : ℕ := 0
  orphanFailedCount : ℕ := 0
  runAppendedCount : ℕ := 0
  runFinalizedCount : ℕ := 0
  runPreservedCount : ℕ := 0
  deriving DecidableEq, Repr

/-- One more under a key of a dictionary, which keeps its order. -/
def countUp (key : String) : List (String × ℕ) → List (String × ℕ)
  | [] => [(key, 1)]
  | (other, n) :: counts =>
    if other = key then (other, n + 1) :: counts else (other, n) :: countUp key counts

namespace LegacyTaskReconciliationResult

def preserve (result : LegacyTaskReconciliationResult) (key : String) :
    LegacyTaskReconciliationResult :=
  { result with preservedByStatus := countUp key result.preservedByStatus }

def count (result : LegacyTaskReconciliationResult) (reconciled : ReconciledLegacyTask) :
    LegacyTaskReconciliationResult :=
  { result with
    orphanRetryCount := result.orphanRetryCount + (reconciled.task.status = .retry : Bool).toNat
    orphanFailedCount := result.orphanFailedCount + (reconciled.task.status ≠ .retry : Bool).toNat
    runAppendedCount := result.runAppendedCount + (reconciled.runAction = .appended : Bool).toNat
    runFinalizedCount := result.runFinalizedCount + (reconciled.runAction = .finalized : Bool).toNat
    runPreservedCount :=
      result.runPreservedCount + (reconciled.runAction = .preserved : Bool).toNat }

end LegacyTaskReconciliationResult

/-- One turn of the loop of `reconcile_legacy_tasks`. -/
def reconcileTask (context : CutoverContext) (clock reconciledAt : Time) (taskId : ℕ)
    (result : LegacyTaskReconciliationResult) (db : Database) :
    Except CutoverError (LegacyTaskReconciliationResult × Database) := do
  let task ← (requireTask db taskId).mapError .task
  if task.status ≠ .running then return (result.preserve (statusText task.status), db)
  if owned task then return (result.preserve "running_v2_owned", db)
  let delay := context.retryBackoff.delayFor (orphanRetryCount task - 1)
  match ← reconcileLegacyOrphan context db clock taskId (reconciledAt + delay) reconciledAt with
  | (none, db) => return (result.preserve "running_concurrent_change", db)
  | (some reconciled, db) => return (result.count reconciled, db)

def reconcileAll (context : CutoverContext) (clock reconciledAt : Time) :
    List ℕ → LegacyTaskReconciliationResult → Database →
    Except CutoverError (LegacyTaskReconciliationResult × Database)
  | [], result, db => .ok (result, db)
  | taskId :: rest, result, db => do
    let (result, db) ← reconcileTask context clock reconciledAt taskId result db
    reconcileAll context clock reconciledAt rest result db

def taskIds (db : Database) : List ℕ := (db.tasks.rows.map Prod.fst).insertionSort (· ≤ ·)

def reconcileLegacyTasks (context : CutoverContext) (db : Database) (clock reconciledAt : Time) :
    Except CutoverError (LegacyTaskReconciliationResult × Database) :=
  reconcileAll context clock reconciledAt (taskIds db)
    { inspectedCount := db.tasks.rows.length } db

section Passes
variable {context : CutoverContext} {db db' : Database} {clock reconciledAt : Time} {taskId : ℕ}
  {P : Task → List (ℕ × TaskRun) → Prop} {result result' : LegacyTaskReconciliationResult}

/-- A turn leaves the rows alone or takes one orphan back. -/
theorem reconcileTask_ok
    (h : reconcileTask context clock reconciledAt taskId result db = .ok (result', db')) :
    db' = db ∨ ∃ nextAttemptAt answer,
      reconcileLegacyOrphan context db clock taskId nextAttemptAt reconciledAt =
        .ok (answer, db') := by
  unfold reconcileTask at h
  cases htask : requireTask db taskId with
  | error e =>
    rw [htask] at h
    cases h
  | ok task =>
    rw [htask] at h
    simp only [bind, Except.bind, Except.mapError, pure, Except.pure] at h
    split_ifs at h with hstatus howned
    · cases h
      exact .inl rfl
    · cases h
      exact .inl rfl
    · split at h
      · cases h
      next answer hanswer =>
      split at h
      · cases h
        exact .inr ⟨_, _, hanswer⟩
      · cases h
        exact .inr ⟨_, _, hanswer⟩

theorem Throughout.of_turn (h : Throughout P db)
    (hok : reconcileTask context clock reconciledAt taskId result db = .ok (result', db'))
    (hfree : ∀ task runs, unowned task → task.status ≠ .running → activeOwners runs = [] →
      P task runs) : Throughout P db' := by
  rcases reconcileTask_ok hok with rfl | ⟨nextAttemptAt, orphan, horphan⟩
  · exact h
  · exact Throughout.of_orphan h horphan hfree

theorem Throughout.of_reconciled (h : Throughout P db) {ids : List ℕ}
    (hok : reconcileAll context clock reconciledAt ids result db = .ok (result', db'))
    (hfree : ∀ task runs, unowned task → task.status ≠ .running → activeOwners runs = [] →
      P task runs) : Throughout P db' := by
  induction ids generalizing result db with
  | nil =>
    cases hok
    exact h
  | cons taskId ids ih =>
    unfold reconcileAll at hok
    simp only [bind, Except.bind] at hok
    split at hok
    · cases hok
    next answer hanswer =>
    exact ih (Throughout.of_turn h hanswer hfree) hok

end Passes

end MediaSync.LegacyCutover
