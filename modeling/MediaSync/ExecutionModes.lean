import MediaSync.ClaimOrder
import MediaSync.LegacyCutover

/-!
# Two executors on one task table

Tasks are carried out inside the API process or by a worker. The first keeps
its executions in memory: a task it runs has no owner and no run. Only one of
the two is up at a time, and either may stop at any moment.

`Holding` is what both leave behind in the tables: an owner and its one running
run go together, and a task that waits has neither. The one step that breaks it
is a restart of the legacy executor that puts a task back into the queue which
a worker was running when it stopped.
-/
namespace MediaSync.ExecutionModes
open JsonValues RowTables TaskTables TaskRepository TaskOwnership TaskWorker LegacyCutover

/-! ## The legacy executor -/

def restartMessage : String := "应用重启后已恢复，等待重新执行"

def isFileTask (task : Task) : Bool := task.type = "transfer" || task.type = "download"

def recoveredAtStart (now : Time) (task : Task) : Task :=
  if isFileTask task then
    { task with status := .pending, message := some restartMessage, nextAttemptAt := none,
                updatedAt := now }
  else { task with status := .failed, message := some restartMessage, updatedAt := now }

/-- What `start_scheduler` does to the tasks. -/
def startScheduler (now : Time) (db : Database) : Database :=
  { db with tasks := db.tasks.update (fun _ task => task.status = .running) fun _ =>
      recoveredAtStart now }

/-- The scan task that `run_scan` finds: the one created last. -/
def existingScan (db : Database) (subscriptionId : ℕ) : Option (ℕ × Task) :=
  letI : Preorder ℤ := Int.instLinearOrder.toPreorder
  (db.tasks.select fun _ task => task.subscriptionId = some subscriptionId &&
    task.type = "scan" && task.status ∈ [TaskStatus.pending, .running]).argmax fun row =>
      row.2.createdAt

def begun (now : Time) (task : Task) : Task :=
  { task with status := .running, startedAt := some now, updatedAt := now }

def scanTask (now : Time) (subscriptionId : ℕ) (triggerType : String) : Task where
  subscriptionId := some subscriptionId
  type := "scan"
  triggerType := triggerType
  status := .running
  startedAt := some now
  createdAt := now
  updatedAt := now

def setTask (db : Database) (taskId : ℕ) (f : Task → Task) : Database :=
  { db with tasks := db.tasks.update (fun id _ => id = taskId) fun _ => f }

def scanning (subscriptionId : ℕ) (db : Database) : Database :=
  { db with
    subscriptions := db.subscriptions.update (fun id _ => id = subscriptionId)
      fun _ subscription => { subscription with status := "scanning" } }

/-- The first transaction of `run_scan`; without an answer nothing is executed. -/
def runScanBegins (now : Time) (subscriptionId : ℕ) (triggerType : String) (db : Database) :
    Option (ℕ × Database) :=
  if (db.subscriptions.get? subscriptionId).isNone then none
  else match existingScan db subscriptionId with
    | some (taskId, task) =>
      if task.status = .running then none
      else some (taskId, scanning subscriptionId (setTask db taskId (begun now)))
    | none => some (db.tasks.nextId, scanning subscriptionId
        { db with tasks := db.tasks.insert (scanTask now subscriptionId triggerType) })

def begunAgain (now : Time) (task : Task) : Task :=
  { begun now task with attemptCount := task.attemptCount + 1 }

def isDue (now : Time) (type : String) (task : Task) : Bool :=
  task.type = type && task.status = .pending && (task.nextAttemptAt.all fun due => due ≤ now)

/-- A task that has lost its file or its subscription. -/
def unfounded (now : Time) (task : Task) : Task :=
  { task with
    status := .failed
    message := some "Transfer task is missing file or subscription"
    finishedAt := some now
    updatedAt := now }

def founded (db : Database) (task : Task) : Bool :=
  (task.fileId.any fun id => (db.files.get? id).isSome) &&
    task.subscriptionId.any fun id => (db.subscriptions.get? id).isSome

def saving (fileId : Option ℕ) (db : Database) : Database :=
  { db with
    files := db.files.update (fun id _ => some id = fileId)
      fun _ file => { file with status := "saving" } }

/-- The first transaction of `run_transfer` on a task that is due. -/
def runTransferBegins (now : Time) (taskId : ℕ) (db : Database) : Option (Option ℕ × Database) :=
  match db.tasks.get? taskId with
  | none => none
  | some task =>
    if !isDue now "transfer" task then none
    else if !founded db task then some (none, setTask db taskId (unfounded now))
    else some (some taskId, saving task.fileId (setTask db taskId (begunAgain now)))

def downloading (now : Time) (task : Task) : Task :=
  { begunAgain now task with message := some "正在获取下载地址" }

/-- The first transaction of `process_pending_downloads`. -/
def processDownloadsBegins (now : Time) (blocked : Bool) (db : Database) : Option (ℕ × Database) :=
  if blocked then none
  else match (db.tasks.select fun _ => isDue now "download").argmin Prod.fst with
    | none => none
    | some (taskId, _) => some (taskId, setTask db taskId (downloading now))

inductive ScanEnd where
  | success (message : String)
  | failed (code text : String)

def scanEnded (now : Time) : ScanEnd → Task → Task
  | .success message, task =>
    { task with status := .success, message := some message, finishedAt := some now,
                updatedAt := now }
  | .failed code text, task =>
    { task with status := .failed, errorCode := some code, message := some text,
                finishedAt := some now, updatedAt := now }

inductive TransferNote where
  | writeIntent
  | providerOperation (operationId : String)

def transferNoted (now : Time) : TransferNote → Task → Task
  | .writeIntent, task =>
    { task with providerWriteIntentAt := task.providerWriteIntentAt <|> some now
                providerOperationStatus := some .intent, updatedAt := now }
  | .providerOperation operationId, task =>
    { task with providerOperationId := some operationId
                providerOperationStatus := some .pending, updatedAt := now }

inductive TransferEnd where
  | saved (message : String) (result : List (String × Json))
  | raised (uncertain : Bool) (code text : String) (delay : Time)

def transferEnded (now : Time) : TransferEnd → Task → Task
  | .saved message result, task =>
    { task with
      status := .success
      errorCode := none
      providerOperationStatus :=
        if task.providerOperationId.isSome then some .succeeded else task.providerOperationStatus
      providerResult := if task.providerOperationId.isSome then some result else task.providerResult
      message := some message
      finishedAt := some now
      nextAttemptAt := none
      updatedAt := now }
  | .raised uncertain code text delay, task =>
    let task := { task with errorCode := some code, message := some text, updatedAt := now }
    if uncertain then
      { task with providerOperationStatus := some .uncertain, status := .failed,
                  finishedAt := some now, nextAttemptAt := none }
    else if task.maxAttempts ≤ task.attemptCount then
      { task with status := .failed, finishedAt := some now, nextAttemptAt := none }
    else { task with status := .pending, nextAttemptAt := some (now + delay) }

def outcomeStatus : TaskOutcomeStatus → TaskStatus
  | .deferred => .pending
  | .success => .success
  | .retry => .retry
  | .failed => .failed
  | .waitingCredential => .waitingCredential
  | .cancelled => .cancelled

/-- A download that was cancelled while it was only put off. -/
def downloadOutcome (outcome : OutcomeFields) (task : Task) : OutcomeFields :=
  if task.status = .cancelRequested ∧ outcome.status = .deferred then
    { status := .cancelled, summary := some "下载已取消，临时文件保留" }
  else outcome

def downloadEnded (now : Time) (outcome : OutcomeFields) (task : Task) : Task :=
  let outcome := downloadOutcome outcome task
  { task with
    status := outcomeStatus outcome.status
    nextAttemptAt := if outcome.status = .deferred then some (now + 1000000) else none
    message := outcome.summary <|> outcome.errorMessage
    errorCode := outcome.errorCode
    finishedAt := if outcome.status = .deferred then none else some now
    updatedAt := now }

/-! ## Histories -/

inductive Mode where
  | stopped | legacy | process
  deriving DecidableEq, Repr

/-- The tables, which executor is up, and the tasks that it runs in memory. -/
structure State where
  db : Database
  mode : Mode
  running : List ℕ

inductive Event where
  | repository (op : Operation)
  | elsewhere (accounts : Table CloudAccount) (subscriptions : Table Subscription)
      (files : Table CloudFile) (folderCheckpoints : Table FolderCheckpoint)
  | stop
  | startProcess
  | startLegacy (schedulerEnabled : Bool) (now : Time)
  | reconcile (context : CutoverContext) (clock reconciledAt : Time)
  | scanBegins (now : Time) (subscriptionId : ℕ) (triggerType : String)
  | transferBegins (now : Time) (taskId : ℕ)
  | downloadBegins (now : Time) (blocked : Bool)
  | transferNotes (now : Time) (taskId : ℕ) (note : TransferNote)
  | scanEnds (now : Time) (taskId : ℕ) (outcome : ScanEnd)
  | transferEnds (now : Time) (taskId : ℕ) (outcome : TransferEnd)
  | downloadEnds (now : Time) (taskId : ℕ) (outcome : OutcomeFields)

/-- Calls that requests of users make, whichever executor is up. -/
def userCall : Operation → Bool
  | .createTask .. | .transition .. => true
  | _ => false

def State.begins (s : State) : Option (ℕ × Database) → State
  | some (taskId, db) => { s with db := db, running := taskId :: s.running }
  | none => s

def State.ends (s : State) (taskId : ℕ) (f : Task → Task) : State :=
  if taskId ∈ s.running then
    { s with db := setTask s.db taskId f, running := s.running.filter (· ≠ taskId) }
  else s

def Event.step (s : State) : Event → State
  | repository op =>
    if userCall op || s.mode = .process then { s with db := op.apply s.db } else s
  | elsewhere accounts subscriptions files folderCheckpoints =>
    { s with db := { s.db with accounts := accounts, subscriptions := subscriptions,
                               files := files, folderCheckpoints := folderCheckpoints } }
  | stop => { s with mode := .stopped, running := [] }
  | startProcess => if s.mode = .stopped then { s with mode := .process } else s
  | startLegacy schedulerEnabled now =>
    if s.mode = .stopped then
      { s with mode := .legacy
               db := if schedulerEnabled then startScheduler now s.db else s.db }
    else s
  | reconcile context clock reconciledAt =>
    if s.mode = .legacy then s
    else match reconcileLegacyTasks context s.db clock reconciledAt with
      | .ok (_, db) => { s with db := db }
      | .error _ => s
  | scanBegins now subscriptionId triggerType =>
    if s.mode = .legacy then s.begins (runScanBegins now subscriptionId triggerType s.db) else s
  | transferBegins now taskId =>
    if s.mode = .legacy then
      match runTransferBegins now taskId s.db with
      | some (some taskId, db) => s.begins (some (taskId, db))
      | some (none, db) => { s with db := db }
      | none => s
    else s
  | downloadBegins now blocked =>
    if s.mode = .legacy then s.begins (processDownloadsBegins now blocked s.db) else s
  | transferNotes now taskId note =>
    if taskId ∈ s.running then { s with db := setTask s.db taskId (transferNoted now note) } else s
  | scanEnds now taskId outcome => s.ends taskId (scanEnded now outcome)
  | transferEnds now taskId outcome => s.ends taskId (transferEnded now outcome)
  | downloadEnds now taskId outcome => s.ends taskId (downloadEnded now outcome)

/-! ## What both executors leave behind -/

def waits (status : TaskStatus) : Bool := !leased status && !status.terminal

structure Holding (task : Task) (runs : List (ℕ × TaskRun)) : Prop where
  complete : owned task ∨ unowned task
  active : owned task → activeOwners runs = [(task.lockedBy, task.lockToken)]
  single : (activeOwners runs).length ≤ 1
  waiting : waits task.status → unowned task ∧ activeOwners runs = []

/-- The four columns that say who owns a task. -/
def ownerColumns (task : Task) : Option String × Option String × Option Time × Option Time :=
  (task.lockedBy, task.lockToken, task.lockedAt, task.leaseUntil)

theorem unowned_iff {task : Task} : unowned task ↔
    ownerColumns task = (none, none, none, none) := by
  unfold unowned ownerColumns
  simp only [Bool.and_eq_true, Option.isNone_iff_eq_none, Prod.mk.injEq, and_assoc]

theorem owned_congr {task task' : Task} (h : ownerColumns task' = ownerColumns task) :
    owned task' = owned task := by
  unfold ownerColumns at h
  simp only [Prod.mk.injEq] at h
  unfold owned
  rw [h.1, h.2.1, h.2.2.1, h.2.2.2]

section Rows
variable {task task' : Task} {runs : List (ℕ × TaskRun)}

theorem Holding.owned_of_lockedBy (h : Holding task runs) {workerId : String}
    (hw : task.lockedBy = some workerId) : owned task := by
  rcases h.complete with ho | hu
  · exact ho
  · rw [unowned_iff, ownerColumns, hw] at hu
    cases hu

/-- A task that is written to without changing hands. -/
theorem Holding.rewritten (h : Holding task runs) (howner : ownerColumns task' = ownerColumns task)
    (hwaits : waits task'.status → unowned task ∧ activeOwners runs = []) :
    Holding task' runs where
  complete := by
    rw [owned_congr howner, unowned_iff, howner, ← unowned_iff]
    exact h.complete
  active ho := by
    rw [owned_congr howner] at ho
    unfold ownerColumns at howner
    simp only [Prod.mk.injEq] at howner
    rw [h.active ho, howner.1, howner.2.1]
  single := h.single
  waiting hw := by
    rw [unowned_iff, howner, ← unowned_iff]
    exact hwaits hw

/-- A task that belongs to nobody and that nobody runs. -/
theorem Holding.free (hidle : unowned task) (hactive : activeOwners runs = []) :
    Holding task runs where
  complete := .inr hidle
  active ho := by
    rw [owned_eq_false hidle] at ho
    cases ho
  single := by
    rw [hactive]
    exact Nat.zero_le _
  waiting _ := ⟨hidle, hactive⟩

/-- Only the owners of running runs matter. -/
theorem Holding.of_runs {runs' : List (ℕ × TaskRun)} (h : Holding task runs)
    (heq : activeOwners runs' = activeOwners runs) : Holding task runs' := by
  refine ⟨h.complete, fun ho => ?_, ?_, fun hw => ?_⟩ <;> rw [heq]
  · exact h.active ho
  · exact h.single
  · exact h.waiting hw

/-- A lease that is renewed. -/
theorem Holding.extended (h : Holding task runs) (ho : owned task) (hl : leased task.status)
    (now until' : Time) : Holding (TaskRepository.extended now until' task) runs where
  complete := by
    left
    unfold owned at ho ⊢
    simp only [Bool.and_eq_true] at ho
    simp [TaskRepository.extended, ho]
  active _ := h.active ho
  single := h.single
  waiting hw := by
    unfold waits at hw
    simp [TaskRepository.extended, hl] at hw

theorem waits_transition {expected target : TaskStatus} (hcan : canTransition expected target)
    (hrun : target ≠ .running) (hleased : leased expected → target = .cancelRequested)
    (hw : waits target) : waits expected := by
  revert hcan hrun hleased hw
  cases expected <;> cases target <;> decide

end Rows

section Operations
variable {db db' : Database} {clock : Time} {taskId taskRunId : ℕ}
  {workerId lockToken : String} {expected target : TaskStatus}

theorem createTask_holding (h : Throughout Holding db) {new : NewTask} {id : ℕ}
    (hok : createTask db clock new = .ok (id, db')) : Throughout Holding db' := by
  obtain ⟨-, -, heq⟩ := createTask_ok hok
  subst heq
  refine h.of_inserted rfl rfl ?_
  exact .free rfl rfl

theorem transition_holding (h : Throughout Holding db) {details : TransitionDetails}
    (hok : transition db clock taskId expected target details = .ok db') :
    Throughout Holding db' := by
  obtain ⟨hcan, hrun, hleased, heq⟩ := transition_ok hok
  subst heq
  refine h.of_tasks fun id task _ hp hholding => ?_
  simp only [Bool.and_eq_true, decide_eq_true_eq] at hp
  exact hholding.rewritten rfl fun hw =>
    hholding.waiting (hp.2 ▸ waits_transition hcan hrun hleased hw)

theorem claimNext_holding (h : Throughout Holding db) {leaseDuration : Time}
    {claimedAt : Option Time} {claim : Option TaskClaim}
    (hok : claimNext db clock lockToken workerId leaseDuration claimedAt = .ok (claim, db')) :
    Throughout Holding db' := by
  refine h.of_claimed hok ?_
  intro id task until' run _ _ hnone hstatus hworker htoken _ _
  have hactive : activeOwners (runsOf db id ++ [(db.taskRuns.nextId, run)]) =
      [(some workerId, some lockToken)] := by
    rw [activeOwners_append, if_pos hstatus, hworker, htoken, activeOwners, hnone]
    rfl
  refine ⟨.inl rfl, fun _ => hactive, by rw [hactive]; exact le_rfl, fun hw => ?_⟩
  unfold waits at hw
  rw [claimed_leased] at hw
  cases hw

theorem createRun_unheld (h : Throughout Holding db) {startedAt lastHeartbeatAt : Option Time}
    {result : ℕ × Database} :
    createRun db clock taskId workerId lockToken startedAt lastHeartbeatAt ≠ .ok result := by
  intro hok
  obtain ⟨⟨task, htask, -, hworker, -⟩, hnone, -⟩ := createRun_ok hok
  have hholding := h.rows taskId task htask
  have hactive := hholding.active (hholding.owned_of_lockedBy hworker)
  rw [activeOwners, running_runsOf hnone] at hactive
  cases hactive

theorem heartbeat_holding (h : Throughout Holding db) {leaseDuration : Time}
    {heartbeatAt : Option Time}
    (hok : heartbeat db clock taskId workerId lockToken leaseDuration heartbeatAt = .ok db') :
    Throughout Holding db' := by
  obtain ⟨-, -, heq⟩ := heartbeat_ok hok
  subst heq
  refine h.of_updated taskId (fun id task hp => ?_) (fun id run _ hq => ?_) (fun _ => rfl)
    fun task htask => ?_
  · simp only [ownedBy, Bool.and_eq_true, decide_eq_true_eq] at hp
    exact hp.1.1.1.1
  · simp only [activeRunOf, Bool.and_eq_true, decide_eq_true_eq] at hq
    exact hq.1.1.1
  · have hholding := h.rows taskId task htask
    have hsame : activeOwners ((runsOf db taskId).map fun row =>
        (row.1, if activeRunOf taskId workerId lockToken row.2 then
          beaten (heartbeatAt.getD clock) row.2 else row.2)) = activeOwners (runsOf db taskId) :=
      activeOwners_map_of_same (fun _ => rfl) (fun _ => rfl) fun _ => rfl
    refine .of_runs ?_ hsame
    split_ifs with hp
    · simp only [ownedBy, Bool.and_eq_true, decide_eq_true_eq] at hp
      exact hholding.extended (hholding.owned_of_lockedBy hp.1.1.1.2) hp.2 _ _
    · exact hholding

theorem finishRun_holding (h : Throughout Holding db) {runStatus : TaskRunStatus}
    {details : FinishDetails}
    (hok : finishRun db clock taskId taskRunId workerId lockToken expected target runStatus
      details = .ok db') : Throughout Holding db' := by
  obtain ⟨-, -, hterminal, -, howned, hactive, heq⟩ := finishRun_ok hok
  subst heq
  obtain ⟨id, task, htask, hp⟩ := Table.select_ne_nil.mp howned
  obtain ⟨runId, run, hget, hq⟩ := Table.select_ne_nil.mp hactive
  have hp' := hp
  have hq' := hq
  simp only [ownedBy, activeRunOf, Bool.and_eq_true, decide_eq_true_eq] at hp' hq'
  obtain ⟨⟨⟨⟨hid, hworker⟩, -⟩, -⟩, -⟩ := hp'
  obtain ⟨-, ⟨⟨hrunTask, hrunning⟩, -⟩, -⟩ := hq'
  subst hid
  refine h.of_updated id (fun _ _ hp => ?_) (fun _ _ _ hq => ?_) (fun _ => rfl)
    fun task' htask' => ?_
  · simp only [ownedBy, Bool.and_eq_true, decide_eq_true_eq] at hp
    exact hp.1.1.1.1
  · simp only [activeRunOf, Bool.and_eq_true, decide_eq_true_eq] at hq
    exact hq.2.1.1.1
  · rw [htask, Option.some.injEq] at htask'
    subst htask'
    have hholding := h.rows id task htask
    have hrow : (runId, run) ∈ runsOf db id := mem_runsOf.mpr ⟨hget, hrunTask⟩
    rw [if_pos hp]
    apply Holding.free rfl
    apply activeOwners_map_closed
    · intro run hr
      change runStatus = .running at hr
      rw [hr] at hterminal
      cases hterminal
    · intro row hrow' hr
      obtain ⟨heq, -⟩ := activeOwners_singleton
        (hholding.active (hholding.owned_of_lockedBy hworker)) hrow hrunning hrow' hr
      rw [heq]
      exact hq

theorem recoverExpiredLease_holding (h : Throughout Holding db) {lease : ExpiredTaskLease}
    {nextAttemptAt recoveredAt : Option Time} {done : Bool}
    (hok : recoverExpiredLease db clock lease nextAttemptAt recoveredAt = .ok (done, db')) :
    Throughout Holding db' := by
  rcases recoverExpiredLease_ok hok with ⟨-, heq⟩ | ⟨id, task, target, retryAt, -, hmem, -, -, heq⟩
  · exact heq ▸ h
  subst heq
  rw [Table.mem_select] at hmem
  obtain ⟨htask, hheld⟩ := hmem
  have hheld' := hheld
  simp only [Bool.and_eq_true, decide_eq_true_eq] at hheld'
  obtain ⟨⟨⟨⟨hid, -⟩, hworker⟩, htoken⟩, -⟩ := hheld'
  subst hid
  refine h.of_updated lease.taskId (fun _ _ hp => ?_) (fun _ _ _ hq => ?_) (fun _ => rfl)
    fun task' htask' => ?_
  · simp only [Bool.and_eq_true, decide_eq_true_eq] at hp
    exact hp.1.1.1.1
  · simp only [activeRunOf, Bool.and_eq_true, decide_eq_true_eq] at hq
    exact hq.1.1.1
  · rw [htask, Option.some.injEq] at htask'
    subst htask'
    have hholding := h.rows lease.taskId task htask
    rw [if_pos hheld]
    apply Holding.free rfl
    apply activeOwners_map_closed
    · intro run hr
      cases hr
    · intro row hrow hr
      obtain ⟨-, hrunWorker, hrunToken⟩ := activeOwners_singleton
        (hholding.active (hholding.owned_of_lockedBy hworker)) hrow hr hrow hr
      simp only [activeRunOf, Bool.and_eq_true, decide_eq_true_eq]
      exact ⟨⟨⟨(mem_runsOf.mp hrow).2, hr⟩, hrunWorker.trans hworker⟩, hrunToken.trans htoken⟩

theorem apply_holding (h : Throughout Holding db) (op : Operation) :
    Throughout Holding (op.apply db) := by
  rcases op.apply_cases db with heq | ⟨db', hok, heq⟩
  · rw [heq]
    exact h
  rw [heq]
  cases op with
  | createTask =>
    obtain ⟨id, hok⟩ := map_snd_ok hok
    exact createTask_holding h hok
  | transition => exact transition_holding h hok
  | claimNext =>
    obtain ⟨claim, hok⟩ := map_snd_ok hok
    exact claimNext_holding h hok
  | createRun =>
    obtain ⟨id, hok⟩ := map_snd_ok hok
    exact absurd hok (createRun_unheld h)
  | heartbeat => exact heartbeat_holding h hok
  | finishRun => exact finishRun_holding h hok
  | listExpiredLeases =>
    rw [map_const_ok hok]
    exact h
  | recoverExpiredLease =>
    obtain ⟨done, hok⟩ := map_snd_ok hok
    exact recoverExpiredLease_holding h hok

end Operations

/-! ## Steps -/

/-- The task is there, belongs to nobody, and has no running run. -/
def Free (db : Database) (id : ℕ) : Prop :=
  ∃ task, db.tasks.get? id = some task ∧ unowned task ∧ activeOwners (runsOf db id) = []

/-- What a step of a history keeps. -/
structure Sound (s : State) : Prop where
  held : Throughout Holding s.db
  free : ∀ id ∈ s.running, Free s.db id
  legacy : s.running ≠ [] → s.mode = .legacy

section Steps
variable {db db' : Database} {id taskId : ℕ}

theorem Free.of_updated {p : ℕ → Task → Bool} {f : Task → Task} (h : Free db id)
    (hf : ∀ task, ownerColumns (f task) = ownerColumns task) :
    Free { db with tasks := db.tasks.update p fun _ => f } id := by
  obtain ⟨task, htask, hidle, hactive⟩ := h
  refine ⟨if p id task then f task else task, ?_, ?_, hactive⟩
  · rw [Table.get?_update, htask]
    rfl
  · split_ifs
    · rw [unowned_iff, hf, ← unowned_iff]
      exact hidle
    · exact hidle

theorem Free.of_inserted {task : Task} (h : Free db id) :
    Free { db with tasks := db.tasks.insert task } id := by
  obtain ⟨old, hold, hidle, hactive⟩ := h
  exact ⟨old, Table.get?_insert_of_some hold, hidle, hactive⟩

theorem free_of_queued (h : Throughout Holding db) {task : Task}
    (htask : db.tasks.get? id = some task) (hw : waits task.status) : Free db id := by
  obtain ⟨hidle, hactive⟩ := (h.rows id task htask).waiting hw
  exact ⟨task, htask, hidle, hactive⟩

/-- Writing to a free task. -/
theorem setTask_holding {f : Task → Task} (h : Throughout Holding db) (hfree : Free db taskId)
    (hf : ∀ task, ownerColumns (f task) = ownerColumns task) :
    Throughout Holding (setTask db taskId f) := by
  obtain ⟨task, htask, hidle, hactive⟩ := hfree
  refine h.of_tasks fun id other hother hp hholding => ?_
  have hid := of_decide_eq_true hp
  subst hid
  rw [htask, Option.some.injEq] at hother
  subst hother
  exact hholding.rewritten (hf _) fun _ => ⟨hidle, hactive⟩

/-- Other tables do not matter. -/
theorem Throughout.of_same {P : Task → List (ℕ × TaskRun) → Prop} (h : Throughout P db)
    (htasks : db'.tasks = db.tasks) (hruns : db'.taskRuns = db.taskRuns) : Throughout P db' where
  rows id task htask := by
    have hrows := h.rows id task (htasks ▸ htask)
    unfold runsOf at hrows ⊢
    rw [hruns]
    exact hrows
  linked id run hrun := htasks ▸ h.linked id run (hruns ▸ hrun)

theorem Free.of_same (h : Free db id) (htasks : db'.tasks = db.tasks)
    (hruns : db'.taskRuns = db.taskRuns) : Free db' id := by
  obtain ⟨task, htask, hidle, hactive⟩ := h
  refine ⟨task, htasks ▸ htask, hidle, ?_⟩
  unfold runsOf at hactive ⊢
  rw [hruns]
  exact hactive

theorem userCall_free {op : Operation} (hop : userCall op) (h : Free db id) :
    Free (op.apply db) id := by
  rcases op.apply_cases db with heq | ⟨db', hok, heq⟩
  · rw [heq]
    exact h
  rw [heq]
  cases op with
  | createTask =>
    obtain ⟨_, hok⟩ := map_snd_ok hok
    obtain ⟨-, -, rfl⟩ := createTask_ok hok
    exact h.of_inserted
  | transition =>
    obtain ⟨-, -, -, rfl⟩ := transition_ok hok
    exact h.of_updated fun _ => rfl
  | _ => cases hop

theorem recoveredAtStart_owner (now : Time) (task : Task) :
    ownerColumns (recoveredAtStart now task) = ownerColumns task := by
  unfold recoveredAtStart
  split_ifs <;> rfl

theorem transferNoted_owner (now : Time) (note : TransferNote) (task : Task) :
    ownerColumns (transferNoted now note task) = ownerColumns task := by
  cases note <;> rfl

theorem scanEnded_owner (now : Time) (outcome : ScanEnd) (task : Task) :
    ownerColumns (scanEnded now outcome task) = ownerColumns task := by
  cases outcome <;> rfl

theorem transferEnded_owner (now : Time) (outcome : TransferEnd) (task : Task) :
    ownerColumns (transferEnded now outcome task) = ownerColumns task := by
  cases outcome with
  | saved => rfl
  | raised =>
    unfold transferEnded
    dsimp only
    split_ifs <;> rfl

/-- What beginning an execution does: it takes a free task, or makes one. -/
structure Begun (db db' : Database) (taskId : ℕ) : Prop where
  held : Throughout Holding db'
  free : Free db' taskId
  others : ∀ id, Free db id → Free db' id

theorem begun_of_free {f : Task → Task} (h : Throughout Holding db) (hfree : Free db taskId)
    (hf : ∀ task, ownerColumns (f task) = ownerColumns task) :
    Begun db (setTask db taskId f) taskId where
  held := setTask_holding h hfree hf
  free := hfree.of_updated hf
  others _ hother := hother.of_updated hf

theorem Begun.of_same {db'' : Database} (h : Begun db db' taskId) (htasks : db''.tasks = db'.tasks)
    (hruns : db''.taskRuns = db'.taskRuns) : Begun db db'' taskId where
  held := Throughout.of_same h.held htasks hruns
  free := h.free.of_same htasks hruns
  others id hother := (h.others id hother).of_same htasks hruns

theorem runScanBegins_begun (h : Throughout Holding db) {now : Time} {subscriptionId : ℕ}
    {triggerType : String}
    (hok : runScanBegins now subscriptionId triggerType db = some (taskId, db')) :
    Begun db db' taskId := by
  unfold runScanBegins at hok
  split_ifs at hok with hsub
  split at hok
  next id task hexisting =>
    split_ifs at hok with hrunning
    cases hok
    have hmem := Table.mem_select.mp (List.argmax_mem hexisting)
    obtain ⟨htask, hp⟩ := hmem
    have hpending : task.status = .pending := by
      simp only [Bool.and_eq_true, decide_eq_true_eq, List.mem_cons, List.not_mem_nil,
        or_false] at hp
      exact hp.2.resolve_right hrunning
    have hbegun := begun_of_free (f := begun now) h
      (free_of_queued h htask (by rw [hpending]; rfl)) fun _ => rfl
    exact hbegun.of_same rfl rfl
  next hexisting =>
    cases hok
    have hnew : Throughout Holding
        { db with tasks := db.tasks.insert (scanTask now subscriptionId triggerType) } :=
      h.of_inserted rfl rfl (.free rfl rfl)
    refine ⟨Throughout.of_same hnew rfl rfl, ?_,
      fun id hother => hother.of_inserted.of_same rfl rfl⟩
    exact ⟨_, Table.get?_insert_nextId _ _, rfl, by
      change activeOwners (runsOf db db.tasks.nextId) = []
      rw [h.runsOf_nextId]
      rfl⟩

theorem isDue_waits {now : Time} {type : String} {task : Task} (h : isDue now type task) :
    waits task.status := by
  unfold isDue at h
  simp only [Bool.and_eq_true, decide_eq_true_eq] at h
  rw [h.1.2]
  rfl

theorem runTransferBegins_begun (h : Throughout Holding db) {now : Time} {begins : Option ℕ}
    (hok : runTransferBegins now taskId db = some (begins, db')) :
    Begun db db' taskId ∧ ∀ id ∈ begins, id = taskId := by
  unfold runTransferBegins at hok
  split at hok
  · cases hok
  next task htask =>
  split_ifs at hok with hdue hfounded
  · cases hok
    have hfree := free_of_queued h htask (isDue_waits (by simpa using hdue))
    exact ⟨begun_of_free h hfree fun _ => rfl, fun _ => nofun⟩
  · cases hok
    have hfree := free_of_queued h htask (isDue_waits (by simpa using hdue))
    have hbegun := begun_of_free (f := begunAgain now) h hfree fun _ => rfl
    exact ⟨hbegun.of_same rfl rfl, fun id hid => (Option.some.inj hid).symm⟩

theorem processDownloadsBegins_begun (h : Throughout Holding db) {now : Time} {blocked : Bool}
    (hok : processDownloadsBegins now blocked db = some (taskId, db')) : Begun db db' taskId := by
  unfold processDownloadsBegins at hok
  split_ifs at hok
  split at hok
  · cases hok
  next id task hfirst =>
  cases hok
  obtain ⟨htask, hdue⟩ := Table.mem_select.mp (List.argmin_mem hfirst)
  exact begun_of_free h (free_of_queued h htask (isDue_waits hdue)) fun _ => rfl

end Steps

/-! ## Restarts of the legacy executor -/

/-- A transfer or download that a worker was running. -/
def abandoned (db : Database) (id : ℕ) (task : Task) : Bool :=
  task.status = .running && isFileTask task &&
    (!unowned task || db.taskRuns.select (fun _ => isRunningRunOf id) ≠ [])

/-- No restart of the legacy executor finds an abandoned task. -/
def Event.clean (s : State) : Event → Bool
  | startLegacy true _ => s.mode ≠ .stopped || s.db.tasks.select (abandoned s.db) = []
  | _ => true

def allClean : List Event → State → Bool
  | [], _ => true
  | event :: events, s => event.clean s && allClean events (event.step s)

section Restart
variable {db : Database} {now : Time}

theorem activeOwners_eq_nil {id : ℕ} : activeOwners (runsOf db id) = [] ↔
    db.taskRuns.select (fun _ => isRunningRunOf id) = [] := by
  unfold activeOwners
  rw [List.map_eq_nil_iff, runsOf, Table.select, Table.select, List.filter_filter]
  have hfilter : (db.taskRuns.rows.filter fun row =>
      decide (row.2.status = .running) && decide (row.2.taskId = id)) =
      db.taskRuns.rows.filter fun row => isRunningRunOf id row.2 :=
    List.filter_congr fun row _ => Bool.and_comm _ _
  rw [hfilter]

theorem startScheduler_holding (h : Throughout Holding db)
    (hclean : db.tasks.select (abandoned db) = []) :
    Throughout Holding (startScheduler now db) := by
  refine h.of_tasks fun id task htask hp hholding => ?_
  refine hholding.rewritten (recoveredAtStart_owner now task) fun hw => ?_
  have hfile : isFileTask task := by
    by_contra hnot
    rw [recoveredAtStart, if_neg hnot] at hw
    cases hw
  have hnot : abandoned db id task = false := by
    by_contra habandoned
    have hmem := Table.mem_select.mpr ⟨htask, by simpa using habandoned⟩
    rw [hclean] at hmem
    exact absurd hmem List.not_mem_nil
  unfold abandoned at hnot
  rw [hp, hfile] at hnot
  simp only [Bool.and_self, Bool.true_and, Bool.or_eq_false_iff, Bool.not_eq_false',
    decide_eq_false_iff_not, not_not] at hnot
  exact ⟨hnot.1, activeOwners_eq_nil.mpr hnot.2⟩

end Restart

/-- The states a history goes through, the first one included. -/
def states : List Event → State → List State
  | [], s => [s]
  | event :: events, s => s :: states events (event.step s)

section Histories
variable {s : State}

theorem Sound.begins (h : Sound s) (hmode : s.mode = .legacy) {answer : Option (ℕ × Database)}
    (hbegun : ∀ taskId db, answer = some (taskId, db) → Begun s.db db taskId) :
    Sound (s.begins answer) := by
  cases answer with
  | none => exact h
  | some begun =>
    obtain ⟨taskId, db⟩ := begun
    have hb := hbegun taskId db rfl
    refine ⟨hb.held, fun id hid => ?_, fun _ => hmode⟩
    rcases List.mem_cons.mp hid with rfl | hid
    · exact hb.free
    · exact hb.others id (h.free id hid)

theorem Sound.ends (h : Sound s) (taskId : ℕ) {f : Task → Task}
    (hf : ∀ task, ownerColumns (f task) = ownerColumns task) : Sound (s.ends taskId f) := by
  unfold State.ends
  split_ifs with hmem
  · refine ⟨setTask_holding h.held (h.free taskId hmem) hf, fun id hid => ?_, fun hne => ?_⟩
    · exact (h.free id (List.mem_of_mem_filter hid)).of_updated hf
    · exact h.legacy (List.ne_nil_of_mem hmem)
  · exact h

theorem Sound.step (h : Sound s) {event : Event} (hclean : event.clean s) :
    Sound (event.step s) := by
  cases event with
  | repository op =>
    rw [Event.step]
    split_ifs with hallowed
    · refine ⟨apply_holding h.held op, fun id hid => ?_, h.legacy⟩
      have hlegacy := h.legacy (List.ne_nil_of_mem hid)
      rw [hlegacy] at hallowed
      exact userCall_free (by simpa using hallowed) (h.free id hid)
    · exact h
  | elsewhere =>
    exact ⟨Throughout.of_same h.held rfl rfl, fun id hid => (h.free id hid).of_same rfl rfl,
      h.legacy⟩
  | stop => exact ⟨h.held, fun _ hid => absurd hid List.not_mem_nil, fun hne => absurd rfl hne⟩
  | startProcess =>
    rw [Event.step]
    split_ifs with hstopped
    · have hnone : s.running = [] := by
        by_contra hne
        rw [h.legacy hne] at hstopped
        cases hstopped
      refine ⟨h.held, fun id hid => ?_, fun hne => absurd hnone hne⟩
      change id ∈ s.running at hid
      rw [hnone] at hid
      exact absurd hid List.not_mem_nil
    · exact h
  | startLegacy schedulerEnabled now =>
    rw [Event.step]
    split_ifs with hstopped henabled
    · unfold Event.clean at hclean
      rw [henabled] at hclean
      simp only [hstopped, ne_eq, not_true_eq_false, decide_false, Bool.false_or,
        decide_eq_true_eq] at hclean
      exact ⟨startScheduler_holding h.held hclean, fun id hid =>
        (h.free id hid).of_updated fun task => recoveredAtStart_owner now task, fun _ => rfl⟩
    · exact ⟨h.held, h.free, fun _ => rfl⟩
    · exact h
  | reconcile context clock reconciledAt =>
    rw [Event.step]
    split_ifs with hmode
    · exact h
    · have hnone : s.running = [] := by
        by_contra hne
        exact hmode (h.legacy hne)
      split
      next result db hok =>
        refine ⟨Throughout.of_reconciled h.held hok fun _ _ hidle _ => Holding.free hidle,
          fun id hid => ?_, h.legacy⟩
        change id ∈ s.running at hid
        rw [hnone] at hid
        exact absurd hid List.not_mem_nil
      · exact h
  | scanBegins now subscriptionId triggerType =>
    rw [Event.step]
    split_ifs with hmode
    · exact h.begins hmode fun _ _ hok => runScanBegins_begun h.held hok
    · exact h
  | transferBegins now taskId =>
    rw [Event.step]
    split_ifs with hmode
    · split
      next id db hok =>
        obtain ⟨hbegun, hid⟩ := runTransferBegins_begun h.held hok
        have hid := hid id rfl
        subst hid
        exact h.begins hmode fun _ _ heq => by cases heq; exact hbegun
      next db hok =>
        obtain ⟨hbegun, -⟩ := runTransferBegins_begun h.held hok
        exact ⟨hbegun.held, fun id hid => hbegun.others id (h.free id hid), h.legacy⟩
      · exact h
    · exact h
  | downloadBegins now blocked =>
    rw [Event.step]
    split_ifs with hmode
    · exact h.begins hmode fun _ _ hok => processDownloadsBegins_begun h.held hok
    · exact h
  | transferNotes now taskId note =>
    rw [Event.step]
    split_ifs with hmem
    · have hf := transferNoted_owner now note
      exact ⟨setTask_holding h.held (h.free taskId hmem) hf, fun id hid =>
        (h.free id hid).of_updated hf, h.legacy⟩
    · exact h
  | scanEnds now taskId outcome => exact h.ends taskId (scanEnded_owner now outcome)
  | transferEnds now taskId outcome => exact h.ends taskId (transferEnded_owner now outcome)
  | downloadEnds now taskId outcome => exact h.ends taskId fun _ => rfl

theorem Sound.everywhere (h : Sound s) {events : List Event} (hclean : allClean events s) :
    ∀ s' ∈ states events s, Sound s' := by
  induction events generalizing s with
  | nil =>
    intro s' hs'
    rw [List.mem_singleton.mp hs']
    exact h
  | cons event events ih =>
    unfold allClean at hclean
    rw [Bool.and_eq_true] at hclean
    intro s' hs'
    rcases List.mem_cons.mp hs' with rfl | hs'
    · exact h
    · exact ih (h.step hclean.1) hclean.2 s' hs'

/-! ## Claiming -/

/-- Claiming the first claimable task creates its run, when none is running. -/
theorem claimNext_claims {db : Database} {clock : Time} {lockToken workerId : String}
    {leaseDuration : Time} {claimedAt : Option Time} (hworker : workerId ≠ "")
    (hlease : 0 < leaseDuration) {id : ℕ} {task : Task}
    (hfirst : firstClaimable (db.tasks.select fun _ task =>
      isClaimable (claimedAt.getD clock) task) = some (id, task))
    (hidle : activeOwners (runsOf db id) = []) :
    ∃ claim db', claimNext db clock lockToken workerId leaseDuration claimedAt =
      .ok (some claim, db') ∧ claim.taskId = id := by
  have hclaim := ClaimOrder.claimNext_first lockToken hworker hlease
    (ClaimOrder.firstClaimable_first hfirst)
  have hruns : ClaimOrder.runningRuns db id = [] := activeOwners_eq_nil.mp hidle
  rw [if_neg (not_not.mpr hruns)] at hclaim
  obtain ⟨claim, db', hok, hclaims⟩ := hclaim
  exact ⟨claim, db', hok, hclaims.taskId⟩

/-- Every task in the queue belongs to nobody, has no running run, and can be
claimed when its turn comes. -/
structure Claimable (db : Database) : Prop where
  unowned : ∀ id task, db.tasks.get? id = some task → queued task.status →
    ownerColumns task = (none, none, none, none)
  idle : ∀ id task, db.tasks.get? id = some task → queued task.status →
    ∀ runId run, db.taskRuns.get? runId = some run → run.taskId = id → run.status ≠ .running
  claimed : ∀ clock lockToken workerId leaseDuration claimedAt id task, workerId ≠ "" →
    0 < leaseDuration → firstClaimable (db.tasks.select fun _ task =>
      isClaimable (Option.getD claimedAt clock) task) = some (id, task) → queued task.status →
    ∃ claim db', claimNext db clock lockToken workerId leaseDuration claimedAt =
      .ok (some claim, db') ∧ claim.taskId = id

theorem waits_of_queued {status : TaskStatus} (h : queued status) : waits status := by
  revert h
  cases status <;> decide

theorem Sound.claimable (h : Sound s) : Claimable s.db where
  unowned id task htask hqueued :=
    unowned_iff.mp ((h.held.rows id task htask).waiting (waits_of_queued hqueued)).1
  idle id task htask hqueued runId run hrun hid hrunning := by
    have hactive := ((h.held.rows id task htask).waiting (waits_of_queued hqueued)).2
    rw [activeOwners_eq_nil] at hactive
    have hmem : (runId, run) ∈ s.db.taskRuns.select fun _ => isRunningRunOf id :=
      Table.mem_select.mpr ⟨hrun, by simp [isRunningRunOf, hid, hrunning]⟩
    rw [hactive] at hmem
    exact absurd hmem List.not_mem_nil
  claimed clock lockToken workerId leaseDuration claimedAt id task hworker hlease hfirst
    hqueued := by
    obtain ⟨htask, -⟩ := Table.mem_select.mp (List.argmin_mem hfirst)
    exact claimNext_claims hworker hlease hfirst
      ((h.held.rows id task htask).waiting (waits_of_queued hqueued)).2

/-- An abandoned task is back in the queue after the restart, and cannot be
claimed there. -/
theorem not_claimable_of_abandoned {db : Database} {now : Time}
    (h : db.tasks.select (abandoned db) ≠ []) : ¬Claimable (startScheduler now db) := by
  intro hclaimable
  obtain ⟨id, task, htask, habandoned⟩ := Table.select_ne_nil.mp h
  unfold abandoned at habandoned
  simp only [Bool.and_eq_true, decide_eq_true_eq, Bool.or_eq_true, Bool.not_eq_true'] at habandoned
  obtain ⟨⟨hrunning, hfile⟩, howned⟩ := habandoned
  have hget : (startScheduler now db).tasks.get? id = some (recoveredAtStart now task) := by
    unfold startScheduler
    rw [Table.get?_update, htask, Option.map_some, if_pos (by simpa using hrunning)]
  have hqueued : queued (recoveredAtStart now task).status := by
    rw [recoveredAtStart, if_pos hfile]
    rfl
  rcases howned with howned | hruns
  · have hidle := hclaimable.unowned id _ hget hqueued
    rw [recoveredAtStart_owner, ← unowned_iff, howned] at hidle
    cases hidle
  · obtain ⟨runId, run, hrun, hof⟩ := Table.select_ne_nil.mp hruns
    simp only [isRunningRunOf, Bool.and_eq_true, decide_eq_true_eq] at hof
    exact hclaimable.idle id _ hget hqueued runId run hrun hof.1 hof.2

theorem head_mem_states (events : List Event) (s : State) : s ∈ states events s := by
  cases events <;> exact List.mem_cons_self ..

/-- A restart that finds an abandoned task breaks the queue at once. -/
theorem Event.clean_of_claimable {event : Event} (h : Claimable (event.step s).db) :
    event.clean s := by
  by_contra hdirty
  cases event with
  | startLegacy schedulerEnabled now =>
    cases schedulerEnabled with
    | false => exact hdirty rfl
    | true =>
      rw [Event.clean] at hdirty
      simp only [ne_eq, Bool.or_eq_true, decide_eq_true_eq, not_or, not_not] at hdirty
      rw [Event.step, if_pos hdirty.1] at h
      exact not_claimable_of_abandoned hdirty.2 h
  | _ => exact hdirty rfl

theorem Sound.claimable_iff (h : Sound s) (events : List Event) :
    (∀ s' ∈ states events s, Claimable s'.db) ↔ allClean events s := by
  constructor
  · intro hall
    induction events generalizing s with
    | nil => rfl
    | cons event events ih =>
      have hnext := hall _ (List.mem_cons_of_mem _ (head_mem_states events (event.step s)))
      have hclean := Event.clean_of_claimable hnext
      unfold allClean
      rw [Bool.and_eq_true]
      exact ⟨hclean, ih (h.step hclean) fun s' hs' => hall s' (List.mem_cons_of_mem _ hs')⟩
  · intro hclean s' hs'
    exact (h.everywhere hclean s' hs').claimable

theorem Sound.start {db : Database} (h : Throughout Holding db) : Sound ⟨db, .stopped, []⟩ where
  held := h
  free _ hid := absurd hid List.not_mem_nil
  legacy hne := absurd rfl hne

/-- Along any history that begins with both executors down, every waiting task
can be claimed if and only if no restart of the legacy executor finds a transfer
or a download that a worker was running. -/
theorem queue_stays_claimable (start : Database) (h : Throughout Holding start)
    (events : List Event) :
    (∀ s ∈ states events ⟨start, .stopped, []⟩, Claimable s.db) ↔
      allClean events ⟨start, .stopped, []⟩ :=
  (Sound.start h).claimable_iff events

end Histories

section Abandoned

def sampleStart : Database :=
  { accounts := Table.empty.insert { provider := "pan123", name := "main", refreshToken := "t" } }

theorem sampleStart_holding : Throughout Holding sampleStart where
  rows _ _ htask := by
    rw [sampleStart, Table.get?_empty] at htask
    cases htask
  linked _ _ hrun := by
    rw [sampleStart, Table.get?_empty] at hrun
    cases hrun

/-- A worker claims a download and stops. -/
def claimedDownload : List Event :=
  [.repository (.createTask 10 { type := "download", accountId := some 1 }), .startProcess,
    .repository (.claimNext 11 "token" "worker" 60 none), .stop]

/-- The worker comes back, and a later cycle takes the lost download up again. -/
theorem queue_stays_claimable_sample :
    Throughout Holding sampleStart ∧
      ∀ s ∈ states (claimedDownload ++ [.startProcess, .repository (.recoverExpiredLease 80
          ⟨1, .running, "worker", "token", 71, 0⟩ (some 110) none)]) ⟨sampleStart, .stopped, []⟩,
        Claimable s.db :=
  ⟨sampleStart_holding, (queue_stays_claimable sampleStart sampleStart_holding _).mpr (by decide)⟩

/-- The legacy executor comes up instead: the download is pending and still
bears the worker's name, so that no worker will claim it. -/
theorem abandoned_download_stuck : ¬∀ s ∈ states (claimedDownload ++ [.startLegacy true 20])
    ⟨sampleStart, .stopped, []⟩, Claimable s.db := by
  intro hall
  have hlast := hall _ (List.mem_cons_of_mem _ (List.mem_cons_of_mem _ (List.mem_cons_of_mem _
    (List.mem_cons_of_mem _ (List.mem_cons_of_mem _ (List.mem_cons_self ..))))))
  refine not_claimable_of_abandoned ?_ hlast
  decide

end Abandoned

end MediaSync.ExecutionModes
