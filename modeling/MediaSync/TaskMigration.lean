import MediaSync.LegacyCutover

/-!
# From one task table to tasks and runs

The first version kept one row for a task and its last execution. The migration
gives every task the columns of the second version and makes a run of what its
row tells about an execution; a task that was running becomes a running task
without an owner, with a running run. The cutover that follows ends that run,
and nothing is left for a second one to do.
-/
namespace MediaSync.TaskMigration
open JsonValues RowTables TaskTables TaskRepository TaskOwnership TaskWorker LegacyCutover

/-- A task row of the first version; its status is free text. -/
structure LegacyTask where
  subscriptionId : Option ℕ := none
  fileId : Option ℕ := none
  type : String
  triggerType : String
  status : String
  idempotencyKey : Option String := none
  message : Option String := none
  errorCode : Option String := none
  attemptCount : ℕ := 0
  maxAttempts : ℕ := 3
  nextAttemptAt : Option Time := none
  startedAt : Option Time := none
  finishedAt : Option Time := none
  createdAt : Time
  updatedAt : Time
  deriving DecidableEq, Repr

structure LegacyDatabase where
  accounts : Table CloudAccount := .empty
  subscriptions : Table Subscription := .empty
  files : Table CloudFile := .empty
  folderCheckpoints : Table FolderCheckpoint := .empty
  tasks : Table LegacyTask := .empty

/-- `TASK_STATUS_SQL`, as the check of the new table reads it. -/
def parseStatus (text : String) : Option TaskStatus :=
  [TaskStatus.pending, .running, .retry, .waitingCredential, .cancelRequested, .success, .failed,
    .cancelled].find? fun status => statusText status = text

def entryNumber (row : LegacyTask) : ℕ := if 0 < row.attemptCount then row.attemptCount else 1

/-- The row tells about an execution. -/
def hasHistory (row : LegacyTask) : Bool :=
  row.status ∈ ["running", "success", "failed", "cancelled"] || 0 < row.attemptCount ||
    row.startedAt.isSome || row.finishedAt.isSome

def migratedRetryCount (row : LegacyTask) : ℕ :=
  if row.status = "failed" ∧ 0 < row.attemptCount then row.attemptCount
  else if row.status = "failed" then 1
  else if row.status = "pending" ∧ 0 < row.attemptCount then row.attemptCount
  else 0

def migratedTask (subscriptions : Table Subscription) (status : TaskStatus) (row : LegacyTask) :
    Task where
  accountId := row.subscriptionId.bind fun id =>
    (subscriptions.get? id).map Subscription.cloudAccountId
  subscriptionId := row.subscriptionId
  fileId := row.fileId
  type := row.type
  triggerType := row.triggerType
  status := status
  idempotencyKey := row.idempotencyKey
  retryCount := migratedRetryCount row
  maxRetries := row.maxAttempts - 1
  nextAttemptAt := row.nextAttemptAt
  lastErrorCode := row.errorCode
  lastErrorMessage := if row.errorCode.isSome ∨ row.status = "failed" then row.message else none
  completedAt := if row.status ∈ ["success", "failed", "cancelled"] then row.finishedAt else none
  message := row.message
  errorCode := row.errorCode
  attemptCount := row.attemptCount
  maxAttempts := row.maxAttempts
  startedAt := row.startedAt
  finishedAt := row.finishedAt
  createdAt := row.createdAt
  updatedAt := row.updatedAt

def migratedRunStatus (row : LegacyTask) : TaskRunStatus :=
  if row.status = "running" then .running
  else if row.status = "success" then .success
  else if row.status = "cancelled" then .cancelled
  else .failed

def migratedRun (taskId : ℕ) (row : LegacyTask) : TaskRun where
  taskId := taskId
  runNumber := entryNumber row
  workerId := some "legacy-v0.1"
  status := migratedRunStatus row
  startedAt := row.startedAt.getD row.createdAt
  finishedAt :=
    if row.status = "running" then none else some (row.finishedAt.getD row.updatedAt)
  resultSummary := if row.status = "success" then row.message else none
  errorCode := row.errorCode
  errorMessage :=
    if row.status = "failed" ∨ (row.status = "pending" ∧ 0 < row.attemptCount) then row.message
    else none
  metrics := [("schema_version", .int 1), ("migrated_from", .str "v0.1")]
  createdAt := row.createdAt
  updatedAt := row.updatedAt

def migratedRuns : List (ℕ × LegacyTask) → Table TaskRun → Table TaskRun
  | [], runs => runs
  | (taskId, row) :: rest, runs =>
    migratedRuns rest (if hasHistory row then runs.insert (migratedRun taskId row) else runs)

/-- `upgrade` of migration 0006; a status outside the list stops the copy. -/
def upgrade (legacy : LegacyDatabase) : Except TaskError Database :=
  if legacy.tasks.select (fun _ row => (parseStatus row.status).isNone) ≠ [] then .error .integrity
  else .ok
    { accounts := legacy.accounts
      subscriptions := legacy.subscriptions
      files := legacy.files
      folderCheckpoints := legacy.folderCheckpoints
      tasks := legacy.tasks.map fun _ row =>
        migratedTask legacy.subscriptions ((parseStatus row.status).getD .pending) row
      taskRuns := migratedRuns legacy.tasks.rows .empty }

/-! ## The migrated rows -/

/-- Nobody owns the task, and its runs have ended unless it is running. -/
def Migrated (task : Task) (runs : List (ℕ × TaskRun)) : Prop :=
  unowned task ∧ (activeOwners runs = [] ∧ task.status ≠ .running ∨
    task.status = .running ∧ ∃ runId run, runs = [(runId, run)] ∧ run.status = .running)

theorem select_migratedRuns {rows : List (ℕ × LegacyTask)} (hkeys : (rows.map Prod.fst).Nodup)
    (runs : Table TaskRun) (id : ℕ) :
    ∃ key, (migratedRuns rows runs).select (fun _ run => run.taskId = id) =
      runs.select (fun _ run => run.taskId = id) ++
        ((rows.find? fun row => row.1 = id).toList.filter fun row => hasHistory row.2).map
          fun row => (key, migratedRun row.1 row.2) := by
  induction rows generalizing runs with
  | nil => exact ⟨0, by simp [migratedRuns]⟩
  | cons row rows ih =>
    obtain ⟨taskId, legacy⟩ := row
    rw [List.map_cons, List.nodup_cons] at hkeys
    obtain ⟨key, hselect⟩ := ih hkeys.2
      (if hasHistory legacy then runs.insert (migratedRun taskId legacy) else runs)
    rw [migratedRuns, hselect]
    by_cases hid : taskId = id
    · subst hid
      have hnone : (rows.find? fun row => row.1 = taskId) = none := by
        rw [List.find?_eq_none]
        intro row hmem heq
        exact hkeys.1 (List.mem_map.mpr ⟨row, hmem, of_decide_eq_true heq⟩)
      refine ⟨runs.nextId, ?_⟩
      rw [hnone, List.find?_cons_of_pos (by simp)]
      split_ifs with hhistory
      · rw [Table.select_insert]
        simp [hhistory, migratedRun]
      · simp [hhistory]
    · refine ⟨key, ?_⟩
      rw [List.find?_cons_of_neg (by simpa using hid)]
      congr 1
      split_ifs
      · rw [Table.select_insert]
        simp [migratedRun, hid]
      · rfl

/-- The migrated row of a task and its runs. -/
theorem upgrade_ok {legacy : LegacyDatabase} {db : Database} (h : upgrade legacy = .ok db)
    (id : ℕ) :
    (db.tasks.get? id = (legacy.tasks.get? id).map fun row =>
      migratedTask legacy.subscriptions ((parseStatus row.status).getD .pending) row) ∧
    ∃ key, runsOf db id = ((legacy.tasks.get? id).toList.filter hasHistory).map fun row =>
      (key, migratedRun id row) := by
  unfold upgrade at h
  split_ifs at h
  cases h
  refine ⟨Table.get?_map _ _ id, ?_⟩
  obtain ⟨key, hselect⟩ := select_migratedRuns legacy.tasks.keyed .empty id
  refine ⟨key, hselect.trans ?_⟩
  rw [Table.get?]
  cases hfind : legacy.tasks.rows.find? fun row => row.1 = id with
  | none => rfl
  | some row =>
    have hid : row.1 = id := by simpa using List.find?_some hfind
    rw [← hid]
    cases hhistory : hasHistory row.2 <;> simp [hhistory, Table.select, Table.empty]

theorem parseStatus_running {text : String} :
    (parseStatus text).getD .pending = .running ↔ text = "running" := by
  constructor
  · intro h
    cases hparse : parseStatus text with
    | none =>
      rw [hparse] at h
      cases h
    | some status =>
      rw [hparse, Option.getD_some] at h
      subst h
      have htext : statusText .running = text := by simpa using List.find?_some hparse
      exact htext.symm
  · rintro rfl
    decide

theorem migratedRun_running {id : ℕ} {row : LegacyTask} :
    (migratedRun id row).status = .running ↔ row.status = "running" := by
  rw [migratedRun, migratedRunStatus]
  split_ifs with h <;> simp [h]

theorem migratedTask_migrated (subscriptions : Table Subscription) (id key : ℕ)
    (row : LegacyTask) :
    Migrated (migratedTask subscriptions ((parseStatus row.status).getD .pending) row)
      (((some row).toList.filter hasHistory).map fun row => (key, migratedRun id row)) := by
  refine ⟨rfl, ?_⟩
  by_cases hrunning : row.status = "running"
  · right
    refine ⟨parseStatus_running.mpr hrunning, key, migratedRun id row, ?_,
      migratedRun_running.mpr hrunning⟩
    simp [hasHistory, hrunning]
  · left
    refine ⟨?_, mt parseStatus_running.mp hrunning⟩
    rw [activeOwners, List.map_eq_nil_iff, List.filter_eq_nil_iff]
    intro run hrun
    obtain ⟨row', hrow', rfl⟩ := List.mem_map.mp hrun
    have heq : row' = row := by
      simpa using (List.mem_filter.mp hrow').1
    rw [decide_eq_true_eq, heq, migratedRun_running]
    exact hrunning

theorem upgrade_migrated {legacy : LegacyDatabase} {db : Database} (h : upgrade legacy = .ok db) :
    Throughout Migrated db where
  rows id task htask := by
    obtain ⟨htasks, key, hruns⟩ := upgrade_ok h id
    rw [htasks, Option.map_eq_some_iff] at htask
    obtain ⟨row, hrow, rfl⟩ := htask
    rw [hruns, hrow]
    exact migratedTask_migrated legacy.subscriptions id key row
  linked runId run hrun := by
    obtain ⟨htasks, key, hruns⟩ := upgrade_ok h run.taskId
    have hmem : (runId, run) ∈ runsOf db run.taskId := mem_runsOf.mpr ⟨hrun, rfl⟩
    cases hrow : legacy.tasks.get? run.taskId with
    | none =>
      rw [hruns, hrow] at hmem
      cases hmem
    | some row =>
      rw [htasks, hrow]
      rfl

/-! ## What a turn of the cutover does -/

/-- A task that was running was taken back, and its one run was cut off. -/
def CutBack (context : CutoverContext) (reconciledAt : Time) (db db' : Database) (id : ℕ) : Prop :=
  ∃ task runId run nextAttemptAt, db.tasks.get? id = some task ∧ task.status = .running ∧
    runsOf db id = [(runId, run)] ∧
    db'.tasks.get? id =
      some (cutOver (orphanTarget task) (orphanRetryCount task) nextAttemptAt reconciledAt task) ∧
    runsOf db' id = [(runId, cutOff context reconciledAt run)]

/-- Every task is left as it is, with its runs, or cut back. -/
def Follows (context : CutoverContext) (reconciledAt : Time) (db db' : Database) : Prop :=
  ∀ id, (db'.tasks.get? id = db.tasks.get? id ∧ runsOf db' id = runsOf db id) ∨
    CutBack context reconciledAt db db' id

namespace Follows
variable {context : CutoverContext} {reconciledAt : Time} {db db' db'' : Database}

theorem refl (db : Database) : Follows context reconciledAt db db := fun _ => .inl ⟨rfl, rfl⟩

/-- What was cut back does not run and is left alone afterwards. -/
theorem trans (h : Follows context reconciledAt db db')
    (h' : Follows context reconciledAt db' db'') : Follows context reconciledAt db db'' := by
  intro id
  rcases h id with ⟨htask, hruns⟩ | hcut
  · rcases h' id with ⟨htask', hruns'⟩ | ⟨task, runId, run, next, hget, hrest⟩
    · exact .inl ⟨htask'.trans htask, hruns'.trans hruns⟩
    · exact .inr ⟨task, runId, run, next, htask ▸ hget, hrest.1, hruns ▸ hrest.2.1, hrest.2.2⟩
  · obtain ⟨task, runId, run, next, hget, hrunning, hrun, hget', hrun'⟩ := hcut
    refine .inr ⟨task, runId, run, next, hget, hrunning, hrun, ?_⟩
    rcases h' id with ⟨htask', hruns'⟩ | ⟨task', _, _, _, hagain, hstatus, _⟩
    · exact ⟨htask'.trans hget', hruns'.trans hrun'⟩
    · rw [hget', Option.some.injEq] at hagain
      rw [← hagain] at hstatus
      exact absurd hstatus (orphanTarget_ne_running task)

theorem kept (h : Follows context reconciledAt db db') (id : ℕ) :
    (db'.tasks.get? id).isSome = (db.tasks.get? id).isSome := by
  rcases h id with ⟨htask, _⟩ | ⟨task, _, _, _, hget, _, _, hget', _⟩
  · rw [htask]
  · rw [hget, hget']
    rfl

theorem idle (h : Follows context reconciledAt db db') (id : ℕ)
    (hidle : ∀ task, db.tasks.get? id = some task → task.status ≠ .running) (task : Task)
    (htask : db'.tasks.get? id = some task) : task.status ≠ .running := by
  rcases h id with ⟨hsame, _⟩ | ⟨old, _, _, _, hget, hrunning, _⟩
  · exact hidle task (hsame ▸ htask)
  · exact absurd hrunning (hidle old hget)

end Follows

theorem select_of_task (db : Database) (taskId : ℕ) (q : TaskRun → Bool) :
    db.taskRuns.select (fun _ run => run.taskId = taskId && q run) =
      (runsOf db taskId).filter fun row => q row.2 := by
  rw [runsOf, Table.select, Table.select, List.filter_filter]
  exact List.filter_congr fun row _ => Bool.and_comm _ _

section Turns
variable {context : CutoverContext} {db db' : Database} {clock nextAttemptAt reconciledAt : Time}
  {taskId runId : ℕ} {task : Task} {run : TaskRun} {result : LegacyTaskReconciliationResult}

/-- The tables after an orphan was taken back with its run. -/
def withLostRun (context : CutoverContext) (db : Database) (taskId : ℕ) (task : Task) (runId : ℕ)
    (nextAttemptAt reconciledAt : Time) : Database :=
  { withOrphan db taskId task nextAttemptAt reconciledAt with
    taskRuns := db.taskRuns.update (fun id run => id = runId && run.status = .running)
      fun _ => cutOff context reconciledAt }

/-- The one run of a migrated task is ended with it. -/
theorem reconcileLegacyOrphan_migrated (htask : db.tasks.get? taskId = some task)
    (horphan : isOrphan task) (hruns : runsOf db taskId = [(runId, run)])
    (hr : run.status = .running) :
    reconcileLegacyOrphan context db clock taskId nextAttemptAt reconciledAt =
      .ok (some ⟨cutOver (orphanTarget task) (orphanRetryCount task) nextAttemptAt reconciledAt
          task, runId, .finalized⟩,
        withLostRun context db taskId task runId nextAttemptAt reconciledAt) := by
  have hactive : db.taskRuns.select (fun _ => isRunningRunOf taskId) = [(runId, run)] := by
    rw [show isRunningRunOf taskId = fun run => run.taskId = taskId && run.status = .running
      from rfl, select_of_task db taskId fun run => run.status = .running, hruns]
    simp [hr]
  have hequivalent : equivalentRun db taskId = none := by
    rw [equivalentRun]
    simp only [Bool.and_assoc]
    rw [select_of_task db taskId fun run => run.status = .lost &&
      run.errorCode = some legacyCutoverErrorCode, hruns]
    simp [hr]
  have hrequire : requireTask db taskId = .ok task := by
    rw [requireTask, htask]
  unfold reconcileLegacyOrphan
  rw [hrequire, hactive, hequivalent]
  simp [bind, Except.bind, Except.mapError, pure, Except.pure, horphan, withLostRun, withOrphan]

theorem follows_withLostRun (htask : db.tasks.get? taskId = some task) (horphan : isOrphan task)
    (hruns : runsOf db taskId = [(runId, run)]) (hr : run.status = .running) :
    Follows context reconciledAt db
      (withLostRun context db taskId task runId nextAttemptAt reconciledAt) := by
  have hrow : (runId, run) ∈ runsOf db taskId := by
    rw [hruns]
    exact List.mem_singleton_self _
  obtain ⟨hget, howner⟩ := mem_runsOf.mp hrow
  have hmapped (id : ℕ) :
      runsOf (withLostRun context db taskId task runId nextAttemptAt reconciledAt) id =
        (runsOf db id).map fun row => (row.1, if row.1 = runId && row.2.status = .running then
          cutOff context reconciledAt row.2 else row.2) := by
    simp only [runsOf, withLostRun]
    rw [Table.select_update _ fun _ run _ => by rfl]
  intro id
  by_cases hid : id = taskId
  · subst hid
    refine .inr ⟨task, runId, run, nextAttemptAt, htask, ?_, hruns, ?_, ?_⟩
    · exact of_decide_eq_true (Bool.and_eq_true_iff.mp horphan).1
    · rw [withLostRun, withOrphan, Table.get?_update, htask, Option.map_some,
        if_pos (by simpa using horphan)]
    · rw [hmapped, hruns]
      simp [hr]
  · refine .inl ⟨?_, ?_⟩
    · rw [withLostRun, withOrphan, Table.get?_update]
      cases db.tasks.get? id with
      | none => rfl
      | some other => simp [hid]
    · rw [hmapped]
      refine (List.map_congr_left fun row hmem => ?_).trans (List.map_id' _)
      have hother : row.1 ≠ runId := fun heq => by
        obtain ⟨hget', howner'⟩ := mem_runsOf.mp hmem
        rw [heq, hget, Option.some.injEq] at hget'
        rw [← hget', howner] at howner'
        exact hid howner'.symm
      simp [hother]

theorem requireTask_some (h : db.tasks.get? taskId = some task) :
    requireTask db taskId = .ok task := by
  rw [requireTask, h]

/-- A turn over a task that is not running only counts it. -/
theorem reconcileTask_idle (htask : db.tasks.get? taskId = some task)
    (hidle : task.status ≠ .running) :
    reconcileTask context clock reconciledAt taskId result db =
      .ok (result.preserve (statusText task.status), db) := by
  unfold reconcileTask
  rw [requireTask_some htask]
  simp [bind, Except.bind, Except.mapError, pure, Except.pure, hidle]

theorem reconcileTask_orphan (context : CutoverContext) (clock reconciledAt : Time)
    (result : LegacyTaskReconciliationResult) (htask : db.tasks.get? taskId = some task)
    (horphan : isOrphan task) (hruns : runsOf db taskId = [(runId, run)])
    (hr : run.status = .running) :
    ∃ result' nextAttemptAt, reconcileTask context clock reconciledAt taskId result db =
      .ok (result', withLostRun context db taskId task runId nextAttemptAt reconciledAt) := by
  have hcases := horphan
  simp only [isOrphan, Bool.and_eq_true, decide_eq_true_eq, Bool.not_eq_true'] at hcases
  unfold reconcileTask
  rw [requireTask_some htask]
  simp only [bind, Except.bind, Except.mapError, pure, Except.pure, hcases, ne_eq,
    not_true_eq_false, if_false, Bool.false_eq_true,
    reconcileLegacyOrphan_migrated htask horphan hruns hr]
  exact ⟨_, _, rfl⟩

theorem reconcileTask_migrated (context : CutoverContext) (clock reconciledAt : Time)
    (result : LegacyTaskReconciliationResult) (h : Throughout Migrated db)
    (hsome : (db.tasks.get? taskId).isSome) :
    ∃ result' db', reconcileTask context clock reconciledAt taskId result db =
      .ok (result', db') ∧ Follows context reconciledAt db db' ∧
      ∀ task, db'.tasks.get? taskId = some task → task.status ≠ .running := by
  obtain ⟨task, htask⟩ := Option.isSome_iff_exists.mp hsome
  obtain ⟨hunowned, ⟨-, hidle⟩ | ⟨hrunning, runId, run, hruns, hr⟩⟩ := h.rows taskId task htask
  · refine ⟨_, db, reconcileTask_idle htask hidle, .refl db, fun task' htask' => ?_⟩
    rw [htask, Option.some.injEq] at htask'
    exact htask' ▸ hidle
  · have horphan : isOrphan task := by
      simp [isOrphan, hrunning, owned_eq_false hunowned]
    obtain ⟨result', nextAttemptAt, hturn⟩ :=
      reconcileTask_orphan context clock reconciledAt result htask horphan hruns hr
    refine ⟨result', _, hturn, follows_withLostRun htask horphan hruns hr, fun task' htask' => ?_⟩
    rw [withLostRun, withOrphan, Table.get?_update, htask, Option.map_some,
      if_pos (by simpa using horphan), Option.some.injEq] at htask'
    exact htask' ▸ orphanTarget_ne_running task

/-- The pass over a migrated table, turn by turn. -/
theorem reconcileAll_migrated (context : CutoverContext) (clock reconciledAt : Time)
    (result : LegacyTaskReconciliationResult) {ids : List ℕ} (h : Throughout Migrated db)
    (hsome : ∀ id ∈ ids, (db.tasks.get? id).isSome) :
    ∃ result' db', reconcileAll context clock reconciledAt ids result db = .ok (result', db') ∧
      Follows context reconciledAt db db' ∧ ∀ id ∈ ids, ∀ task, db'.tasks.get? id = some task →
        task.status ≠ .running := by
  induction ids generalizing result db with
  | nil => exact ⟨result, db, rfl, .refl db, by simp⟩
  | cons taskId ids ih =>
    rw [List.forall_mem_cons] at hsome
    obtain ⟨result₁, db₁, hturn, hfollows, hidle⟩ :=
      reconcileTask_migrated context clock reconciledAt result h hsome.1
    have h₁ : Throughout Migrated db₁ := Throughout.of_turn h hturn
      fun _ _ hunowned hstatus hruns => ⟨hunowned, .inl ⟨hruns, hstatus⟩⟩
    obtain ⟨result', db', hrest, hfollows', hidle'⟩ := ih result₁ h₁
      fun id hid => (hfollows.kept id).trans (hsome.2 id hid)
    refine ⟨result', db', ?_, hfollows.trans hfollows', List.forall_mem_cons.mpr
      ⟨hfollows'.idle taskId hidle, hidle'⟩⟩
    rw [reconcileAll, hturn]
    exact hrest

/-- A pass over tasks none of which is running changes nothing. -/
theorem reconcileAll_idle (context : CutoverContext) (clock reconciledAt : Time)
    (result : LegacyTaskReconciliationResult) {ids : List ℕ}
    (hidle : ∀ id ∈ ids, ∃ task, db.tasks.get? id = some task ∧ task.status ≠ .running) :
    ∃ result', reconcileAll context clock reconciledAt ids result db = .ok (result', db) := by
  induction ids generalizing result with
  | nil => exact ⟨result, rfl⟩
  | cons taskId ids ih =>
    rw [List.forall_mem_cons] at hidle
    obtain ⟨⟨task, htask, hstatus⟩, hrest⟩ := hidle
    obtain ⟨result', hok⟩ := ih (result.preserve (statusText task.status)) hrest
    refine ⟨result', ?_⟩
    rw [reconcileAll, reconcileTask_idle htask hstatus]
    exact hok

end Turns

theorem reconcileLegacyTasks_migrated (context : CutoverContext) (clock reconciledAt : Time)
    {db : Database} (h : Throughout Migrated db) :
    ∃ result db', reconcileLegacyTasks context db clock reconciledAt = .ok (result, db') ∧
      Throughout Migrated db' ∧ Follows context reconciledAt db db' ∧
      ∀ id task, db'.tasks.get? id = some task → task.status ≠ .running := by
  have hids (id : ℕ) : id ∈ taskIds db ↔ (db.tasks.get? id).isSome := by
    rw [taskIds, List.mem_insertionSort, List.mem_map, Option.isSome_iff_exists]
    constructor
    · rintro ⟨row, hrow, rfl⟩
      exact ⟨row.2, Table.mem_iff_get?.mp hrow⟩
    · intro ⟨task, htask⟩
      exact ⟨(id, task), Table.mem_iff_get?.mpr htask, rfl⟩
  obtain ⟨result, db', hok, hfollows, hidle⟩ := reconcileAll_migrated context clock reconciledAt
    { inspectedCount := db.tasks.rows.length } h fun id hid => (hids id).mp hid
  refine ⟨result, db', hok, Throughout.of_reconciled h hok fun _ _ hunowned hstatus hruns =>
    ⟨hunowned, .inl ⟨hruns, hstatus⟩⟩, hfollows, fun id task htask => ?_⟩
  refine hidle id ((hids id).mpr ?_) task htask
  rw [← hfollows.kept id, htask]
  rfl

/-! ## The tables after both steps -/

/-- The row that the migration makes of a row. -/
def migratedRow (legacy : LegacyDatabase) (row : LegacyTask) : Task :=
  migratedTask legacy.subscriptions ((parseStatus row.status).getD .pending) row

/-- What the second version needs of the tables of the first, and what becomes
of every row: a running one is cut back with its run, and any other keeps all
columns that the migration gave it, and so does its run. -/
structure Settled (context : CutoverContext) (reconciledAt : Time) (legacy : LegacyDatabase)
    (db : Database) : Prop where
  running_owned : ∀ id task, db.tasks.get? id = some task → task.status = .running → owned task
  run_owned : ∀ runId run, db.taskRuns.get? runId = some run → run.status = .running →
    ∃ task, db.tasks.get? run.taskId = some task ∧ owned task
  history : ∀ id row, legacy.tasks.get? id = some row →
    (runsOf db id).map (fun run => (run.2.runNumber, run.2.startedAt)) =
      if hasHistory row then [(entryNumber row, row.startedAt.getD row.createdAt)] else []
  fresh : ∀ id, nextRunNumber db id ∉ (runsOf db id).map fun run => run.2.runNumber
  kept : ∀ id, (db.tasks.get? id).isSome = (legacy.tasks.get? id).isSome
  carried : ∀ id row, legacy.tasks.get? id = some row → row.status ≠ "running" →
    db.tasks.get? id = some (migratedRow legacy row) ∧
      ∃ runId, runsOf db id = if hasHistory row then [(runId, migratedRun id row)] else []
  cut : ∀ id row, legacy.tasks.get? id = some row → row.status = "running" →
    let task := migratedRow legacy row
    (∃ nextAttemptAt, db.tasks.get? id =
      some (cutOver (orphanTarget task) (orphanRetryCount task) nextAttemptAt reconciledAt task)) ∧
      ∃ runId, runsOf db id = [(runId, cutOff context reconciledAt (migratedRun id row))]

theorem nextRunNumber_fresh (db : Database) (taskId : ℕ) :
    nextRunNumber db taskId ∉ (runsOf db taskId).map fun run => run.2.runNumber := by
  intro hmem
  have hle : nextRunNumber db taskId ≤
      ((runsOf db taskId).map fun run => run.2.runNumber).foldr max 0 :=
    List.le_max_of_le hmem le_rfl
  exact absurd hle (Nat.not_succ_le_self _)

section Settling
variable {context : CutoverContext} {reconciledAt : Time} {legacy : LegacyDatabase}
  {db db' : Database} {id : ℕ} {row : LegacyTask}

theorem upgrade_row (h : upgrade legacy = .ok db) (hrow : legacy.tasks.get? id = some row) :
    db.tasks.get? id = some (migratedRow legacy row) ∧
      ∃ runId, runsOf db id = if hasHistory row then [(runId, migratedRun id row)] else [] := by
  obtain ⟨htask, key, hruns⟩ := upgrade_ok h id
  rw [hrow] at htask hruns
  refine ⟨htask, key, hruns.trans ?_⟩
  cases hhistory : hasHistory row <;> simp [hhistory]

theorem migratedRow_running : (migratedRow legacy row).status = .running ↔
    row.status = "running" := parseStatus_running

theorem carried_of_follows (h : upgrade legacy = .ok db)
    (hfollows : Follows context reconciledAt db db') (hrow : legacy.tasks.get? id = some row)
    (hidle : row.status ≠ "running") : db'.tasks.get? id = some (migratedRow legacy row) ∧
      ∃ runId, runsOf db' id = if hasHistory row then [(runId, migratedRun id row)] else [] := by
  obtain ⟨htask, runId, hruns⟩ := upgrade_row h hrow
  rcases hfollows id with ⟨hsame, hsameRuns⟩ | ⟨task, _, _, _, hget, hrunning, _⟩
  · exact ⟨hsame.trans htask, runId, hsameRuns.trans hruns⟩
  · rw [htask, Option.some.injEq] at hget
    rw [← hget] at hrunning
    exact absurd (migratedRow_running.mp hrunning) hidle

theorem cut_of_follows (h : upgrade legacy = .ok db)
    (hfollows : Follows context reconciledAt db db')
    (hstopped : ∀ id task, db'.tasks.get? id = some task → task.status ≠ .running)
    (hrow : legacy.tasks.get? id = some row) (hrunning : row.status = "running") :
    let task := migratedRow legacy row
    (∃ nextAttemptAt, db'.tasks.get? id =
      some (cutOver (orphanTarget task) (orphanRetryCount task) nextAttemptAt reconciledAt task)) ∧
      ∃ runId, runsOf db' id = [(runId, cutOff context reconciledAt (migratedRun id row))] := by
  obtain ⟨htask, runId, hruns⟩ := upgrade_row h hrow
  rw [if_pos (by simp [hasHistory, hrunning])] at hruns
  rcases hfollows id with ⟨hsame, _⟩ | ⟨task, key, run, next, hget, _, hrun, hget', hrun'⟩
  · exact absurd (migratedRow_running.mpr hrunning) (hstopped id _ (hsame.trans htask))
  · rw [htask, Option.some.injEq] at hget
    rw [hruns, List.cons.injEq, Prod.mk.injEq] at hrun
    obtain ⟨⟨-, rfl⟩, -⟩ := hrun
    subst hget
    exact ⟨⟨next, hget'⟩, key, hrun'⟩

theorem settled_of_migrated (h : upgrade legacy = .ok db) (hmigrated : Throughout Migrated db')
    (hfollows : Follows context reconciledAt db db')
    (hidle : ∀ id task, db'.tasks.get? id = some task → task.status ≠ .running) :
    Settled context reconciledAt legacy db' where
  running_owned id task htask hrunning := absurd hrunning (hidle id task htask)
  run_owned runId run hrun hrunning := by
    obtain ⟨task, htask⟩ := Option.isSome_iff_exists.mp (hmigrated.linked runId run hrun)
    have hmem : (runId, run) ∈ runsOf db' run.taskId := mem_runsOf.mpr ⟨hrun, rfl⟩
    obtain ⟨-, ⟨hactive, -⟩ | ⟨hstatus, -⟩⟩ := hmigrated.rows _ task htask
    · rw [activeOwners, List.map_eq_nil_iff, List.filter_eq_nil_iff] at hactive
      exact absurd (decide_eq_true hrunning) (hactive _ hmem)
    · exact absurd hstatus (hidle _ task htask)
  history id row hrow := by
    by_cases hrunning : row.status = "running"
    · obtain ⟨-, runId, hruns⟩ := cut_of_follows h hfollows hidle hrow hrunning
      rw [hruns, if_pos (by simp [hasHistory, hrunning])]
      rfl
    · obtain ⟨-, runId, hruns⟩ := carried_of_follows h hfollows hrow hrunning
      rw [hruns]
      cases hasHistory row <;> rfl
  fresh id := nextRunNumber_fresh db' id
  kept id := by
    rw [hfollows.kept id, (upgrade_ok h id).1, Option.isSome_map]
  carried id row hrow := carried_of_follows h hfollows hrow
  cut id row hrow := cut_of_follows h hfollows hidle hrow

end Settling

/-- Every table of the first version is migrated and reconciled, and a second
pass finds nothing to do. -/
theorem migration_settles (legacy : LegacyDatabase)
    (hstatus : ∀ id row, legacy.tasks.get? id = some row → (parseStatus row.status).isSome)
    (context : CutoverContext) (clock reconciledAt : Time) :
    ∃ db result db', upgrade legacy = .ok db ∧
      reconcileLegacyTasks context db clock reconciledAt = .ok (result, db') ∧
      Settled context reconciledAt legacy db' ∧
      ∀ (later : CutoverContext) (clock' reconciledAt' : Time), ∃ result',
        reconcileLegacyTasks later db' clock' reconciledAt' = .ok (result', db') := by
  have hnone : legacy.tasks.select (fun _ row => (parseStatus row.status).isNone) = [] := by
    by_contra hne
    obtain ⟨id, row, hrow, hparse⟩ := Table.select_ne_nil.mp hne
    rw [← Option.not_isSome, hstatus id row hrow] at hparse
    contradiction
  obtain ⟨db, hupgrade⟩ : ∃ db, upgrade legacy = .ok db := by
    rw [upgrade, if_neg (not_not.mpr hnone)]
    exact ⟨_, rfl⟩
  obtain ⟨result, db', hok, hmigrated, hfollows, hidle⟩ :=
    reconcileLegacyTasks_migrated context clock reconciledAt (upgrade_migrated hupgrade)
  refine ⟨db, result, db', hupgrade, hok, settled_of_migrated hupgrade hmigrated hfollows hidle,
    fun later clock' reconciledAt' => ?_⟩
  apply reconcileAll_idle
  intro id hid
  rw [taskIds, List.mem_insertionSort] at hid
  obtain ⟨row, hrow, rfl⟩ := List.mem_map.mp hid
  exact ⟨row.2, Table.mem_iff_get?.mp hrow, hidle _ _ (Table.mem_iff_get?.mp hrow)⟩

def sampleRunning : LegacyTask where
  type := "subscription_scan"
  triggerType := "scheduled"
  status := "running"
  startedAt := some 5
  createdAt := 4
  updatedAt := 5

def sampleFailed : LegacyTask where
  type := "transfer"
  triggerType := "auto"
  status := "failed"
  message := some "offline"
  attemptCount := 2
  maxAttempts := 2
  createdAt := 1
  updatedAt := 3

/-- One task was running when the first version stopped, and one had failed twice. -/
def sampleLegacy : LegacyDatabase where
  tasks := (Table.empty.insert sampleRunning).insert sampleFailed

theorem sampleDelay_pos : (0 : Time) < 30000000 := by decide

theorem sampleDelay_le : (30000000 : Time) ≤ 900000000 := by decide

def sampleContext : CutoverContext where
  durationMs startedAt finishedAt := ((finishedAt - startedAt) / 1000).toNat
  retryBackoff := ⟨30000000, 900000000, sampleDelay_pos, sampleDelay_le⟩

theorem migration_settles_sample :
    ∃ db result db', upgrade sampleLegacy = .ok db ∧
      reconcileLegacyTasks sampleContext db 9 9 = .ok (result, db') ∧
      Settled sampleContext 9 sampleLegacy db' ∧
      ∀ (later : CutoverContext) (clock' reconciledAt' : Time), ∃ result',
        reconcileLegacyTasks later db' clock' reconciledAt' = .ok (result', db') := by
  have hall : ∀ row ∈ sampleLegacy.tasks.rows, (parseStatus row.2.status).isSome := by
    decide +kernel
  exact migration_settles sampleLegacy
    (fun id row hrow => hall (id, row) (Table.mem_iff_get?.mpr hrow)) sampleContext 9 9

end MediaSync.TaskMigration
