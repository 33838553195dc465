import MediaSync.ClaimOrder
import MediaSync.TransferRetries
import MediaSync.TransferWrites

/-!
# Workers, transfers and retries as one system

Any number of cycles and of retry requests run at once. Beside them time
passes, the cloud goes on with what it has accepted, leases are extended, tasks
are created and cancelled. A cloud drive is told what to save and not for which
task. To say which task a save was for, the model gives every task a handler
context of its own.
-/
namespace MediaSync.TransferEngine
open FaultPrograms Interleavings RowTables TaskTables TaskRepository TaskWorker TransferOperation
open TransferHandler WorkerCycles TransferRetries ProgramModes

/-! ## The system -/

/-- `token` is the lock token that a cycle draws, `others` are the handlers
beside the one for transfers, `progress` is what the cloud does on its own. -/
structure Engine (χ δ : Type) where
  token : ℕ → String
  context : ℕ → HandlerContext χ
  others : TaskHandlerRegistry χ
  className : TransferError → String
  progress : δ → χ → χ

inductive EngineJob where
  | cycle (runtime : WorkerRuntime) (blocked : Bool) (durationMs : ℕ)
  | retry (fileId : ℕ)

inductive JobEnd where
  | cycle (result : Except CycleError WorkerCycleResult)
  | retry (result : Except RetryError ℕ)

inductive EngineMove (δ : Type) where
  | elapse (time : ℕ)
  | progress (i : δ)
  | beat (runtime : WorkerRuntime) (claimed : ClaimedExecution)
  | transition (taskId : ℕ) (expected target : TaskStatus) (details : TransitionDetails)
  | create (new : NewTask)

namespace Engine
variable {χ δ : Type} (engine : Engine χ δ)

/-- `build_handler_registry` -/
def handlers : TaskHandlerRegistry χ := fun taskType version =>
  if taskType = "transfer" ∧ version = 1 then
    some fun probe task => transferTaskHandler (engine.context task.taskId) probe task
  else engine.others taskType version

def cycle (k : ℕ) (runtime : WorkerRuntime) (blocked : Bool) (durationMs : ℕ) : Job :=
  ⟨runtime, engine.token k, blocked, durationMs⟩

def program (k : ℕ) : EngineJob → Prog (EngineWorld χ) Unit JobEnd
  | .cycle runtime blocked durationMs => do
    let result ← Prog.attempt
      (runOnce (engine.cycle k runtime blocked durationMs) engine.handlers engine.className)
    pure (.cycle result)
  | .retry fileId => do
    let result ← Prog.attempt (retryFile fileId)
    pure (.retry result)

/-- A task that somebody else creates. -/
def createTask (new : NewTask) (w : EngineWorld χ) : EngineWorld χ :=
  match TaskRepository.createTask w.db w.clock new with
  | .ok (_, db) => { w with db := db }
  | .error _ => w

def move : EngineMove δ → EngineWorld χ → EngineWorld χ
  | .elapse time, w => { w with clock := w.clock + time }
  | .progress i, w => { w with cloud := engine.progress i w.cloud }
  | .beat runtime claimed, w => beat runtime claimed w
  | .transition taskId expected target details, w => requestCancel taskId expected target details w
  | .create new, w => createTask new w

def system : System ℕ EngineJob (EngineMove δ) (EngineWorld χ) Unit JobEnd where
  program := engine.program
  move := engine.move
  abandon _ w := w

end Engine

/-! ## What the repository leaves of a task -/

/-- The columns that no call on the repository rewrites. -/
def constants (task : Task) : Task :=
  { task with
    status := .pending
    retryCount := 0
    nextAttemptAt := none
    blockedReason := none
    blockedAt := none
    cancelRequestedAt := none
    lockedBy := none
    lockToken := none
    lockedAt := none
    leaseUntil := none
    lastErrorCode := none
    lastErrorMessage := none
    completedAt := none
    updatedAt := 0 }

/-- A task after a call that neither creates nor claims one. -/
structure Carried (task task' : Task) : Prop where
  same : constants task' = constants task
  lock : task'.lockToken = none ∨ task'.lockToken = task.lockToken
  ended : task.status.terminal → task'.status.terminal

theorem Carried.refl (task : Task) : Carried task task := ⟨rfl, .inr rfl, id⟩

theorem Carried.trans {task task' task'' : Task} (h : Carried task task')
    (h' : Carried task' task'') : Carried task task'' where
  same := h'.same.trans h.same
  lock := by
    rcases h'.lock with hnone | hsame
    · exact .inl hnone
    · rw [hsame]
      exact h.lock
  ended hend := h'.ended (h.ended hend)

structure Carries (db db' : Database) : Prop where
  rows (id : ℕ) (task' : Task) : db'.tasks.get? id = some task' →
    ∃ task, db.tasks.get? id = some task ∧ Carried task task'
  present (id : ℕ) (task : Task) : db.tasks.get? id = some task →
    ∃ task', db'.tasks.get? id = some task'

namespace Carries
variable {db db' db'' : Database}

theorem of_tasks (h : db'.tasks = db.tasks) : Carries db db' where
  rows id task' htask' := ⟨task', by rw [← h, htask'], Carried.refl task'⟩
  present id task htask := ⟨task, by rw [h, htask]⟩

theorem trans (h : Carries db db') (h' : Carries db' db'') : Carries db db'' where
  rows id task'' htask'' := by
    obtain ⟨task', htask', hsecond⟩ := h'.rows id task'' htask''
    obtain ⟨task, htask, hfirst⟩ := h.rows id task' htask'
    exact ⟨task, htask, hfirst.trans hsecond⟩
  present id task htask := by
    obtain ⟨task', htask'⟩ := h.present id task htask
    exact h'.present id task' htask'

/-- An UPDATE of rows that may be carried on like this. -/
theorem of_update {p : ℕ → Task → Bool} {f : Task → Task} {runs : Table TaskRun}
    (hf : ∀ id task, db.tasks.get? id = some task → p id task → Carried task (f task)) :
    Carries db { db with tasks := db.tasks.update p fun _ => f, taskRuns := runs } where
  rows id task' htask' := by
    rw [Table.get?_update, Option.map_eq_some_iff] at htask'
    obtain ⟨task, htask, rfl⟩ := htask'
    refine ⟨task, htask, ?_⟩
    split_ifs with hp
    · exact hf id task htask hp
    · exact Carried.refl task
  present id task htask := ⟨_, by rw [Table.get?_update, htask, Option.map_some]⟩

end Carries

section Calls
variable {db db' : Database} {now clock : Time}

theorem ended_of_canTransition {source target : TaskStatus} (h : canTransition source target)
    (hend : source.terminal) : target.terminal := by
  rw [not_canTransition_of_terminal hend] at h
  cases h

theorem transition_carries {taskId : ℕ} {expected target : TaskStatus} {details : TransitionDetails}
    (h : transition db clock taskId expected target details = .ok db') : Carries db db' := by
  obtain ⟨hcan, -, -, rfl⟩ := transition_ok h
  apply Carries.of_update
  intro id task _ hp
  refine ⟨rfl, .inr rfl, fun hend => ?_⟩
  simp only [Bool.and_eq_true, decide_eq_true_eq] at hp
  exact ended_of_canTransition hcan (hp.2 ▸ hend)

theorem heartbeat_carries {runtime : WorkerRuntime} {claimed : ClaimedExecution}
    (h : runtime.heartbeat now clock claimed db = .ok db') : Carries db db' := by
  obtain ⟨-, -, rfl⟩ := heartbeat_ok h
  apply Carries.of_update
  exact fun id task _ _ => ⟨rfl, .inr rfl, fun hend => hend⟩

theorem finish_carries {runtime : WorkerRuntime} {claimed : ClaimedExecution}
    {outcome : TaskOutcome} {durationMs : ℕ} {status : TaskStatus}
    (h : runtime.finish now clock claimed outcome durationMs db = .ok (status, db')) :
    Carries db db' := by
  obtain ⟨task, fields, verdict, -, -, -, -, -, -, hrun⟩ := finish_ok h
  obtain ⟨hcan, -, -, -, -, -, rfl⟩ := finishRun_ok hrun
  apply Carries.of_update
  intro id row _ hp
  refine ⟨rfl, .inl rfl, fun hend => ?_⟩
  simp only [Bool.and_eq_true, decide_eq_true_eq] at hp
  exact ended_of_canTransition hcan (hp.2 ▸ hend)

theorem recoverExpiredLease_carries {lease : ExpiredTaskLease}
    {nextAttemptAt recoveredAt : Option Time} {done : Bool} (hlease : leased lease.status)
    (h : recoverExpiredLease db clock lease nextAttemptAt recoveredAt = .ok (done, db')) :
    Carries db db' := by
  rcases recoverExpiredLease_ok h with ⟨-, rfl⟩ | ⟨id, task, target, retryAt, -, -, -, -, rfl⟩
  · exact Carries.of_tasks rfl
  apply Carries.of_update
  intro id row _ hp
  refine ⟨rfl, .inl rfl, fun hend => ?_⟩
  simp only [Bool.and_eq_true, decide_eq_true_eq] at hp
  rw [← hp.1.1.1.2, TaskOwnership.not_leased_of_terminal hend] at hlease
  cases hlease

theorem listExpiredLeases_leased {limit : ℕ} {expiredAt : Option Time}
    {leases : List ExpiredTaskLease}
    (h : listExpiredLeases db clock limit expiredAt = .ok leases) {lease : ExpiredTaskLease}
    (hmem : lease ∈ leases) : leased lease.status := by
  unfold listExpiredLeases at h
  simp only [bind, Except.bind, throw, throwThe, MonadExceptOf.throw, pure, Except.pure] at h
  split_ifs at h
  cases h
  obtain ⟨row, hrow, hlease⟩ := List.mem_filterMap.mp hmem
  have hselected := List.mem_of_mem_take hrow
  rw [List.mem_insertionSort] at hselected
  have hheld := (Table.mem_select.mp hselected).2
  simp only [Bool.and_eq_true] at hheld
  obtain ⟨workerId, -, hlease⟩ := Option.bind_eq_some_iff.mp hlease
  obtain ⟨lockToken, -, hlease⟩ := Option.bind_eq_some_iff.mp hlease
  obtain ⟨leaseUntil, -, hlease⟩ := Option.bind_eq_some_iff.mp hlease
  cases hlease
  exact hheld.1.1.1

theorem recoverLeases_carries {runtime : WorkerRuntime} (leases : List ExpiredTaskLease) {count : ℕ}
    (hleases : ∀ lease ∈ leases, leased lease.status)
    (h : runtime.recoverLeases now clock leases db = .ok (count, db')) : Carries db db' := by
  induction leases generalizing db count with
  | nil =>
    cases h
    exact Carries.of_tasks rfl
  | cons lease leases ih =>
    rw [List.forall_mem_cons] at hleases
    obtain ⟨done, middle, rest, hfirst, hrest⟩ := recoverLeases_cons h
    exact (recoverExpiredLease_carries hleases.1 hfirst).trans (ih hleases.2 hrest)

/-- What a claim has handed out. -/
structure HandedOut (runtime : WorkerRuntime) (now : Time) (lockToken : String)
    (claimed : ClaimedExecution) (db db' : Database) : Prop where
  drawn : claimed.lockToken = lockToken
  row : ∃ task runId, db.tasks.get? claimed.invocation.taskId = some task ∧
    isClaimable now task ∧
    db'.tasks.get? claimed.invocation.taskId =
      some (TaskRepository.claimed runtime.workerId lockToken now
        (now + runtime.leaseDuration) task) ∧
    claimed.invocation = TaskInvocation.fromTask claimed.invocation.taskId
      (TaskRepository.claimed runtime.workerId lockToken now (now + runtime.leaseDuration) task)
        runId
  others (id : ℕ) : id ≠ claimed.invocation.taskId → db'.tasks.get? id = db.tasks.get? id

/-- The first transaction of a cycle: leases are recovered, and a task may be
claimed. -/
theorem recoverAndClaim_cases {runtime : WorkerRuntime} {lockToken : String} {blocked : Bool}
    {cycle : WorkerRuntime.Cycle}
    (h : runtime.recoverAndClaim now clock lockToken blocked db = .ok (cycle, db')) :
    (cycle.claim = none ∧ Carries db db') ∨ ∃ claimed middle, cycle.claim = some claimed ∧
      Carries db middle ∧ HandedOut runtime now lockToken claimed middle db' := by
  unfold WorkerRuntime.recoverAndClaim at h
  obtain ⟨leases, hleases, h⟩ := bind_ok h
  obtain ⟨⟨count, middle⟩, hrecovered, h⟩ := bind_ok h
  have hcarries := recoverLeases_carries leases
    (fun lease hmem => listExpiredLeases_leased hleases hmem) hrecovered
  change runtime.claimUnlessBlocked now clock lockToken blocked count middle = _ at h
  unfold WorkerRuntime.claimUnlessBlocked at h
  split at h
  · cases h
    exact .inl ⟨rfl, hcarries⟩
  · obtain ⟨⟨claim, claimedDb⟩, hclaim, h⟩ := bind_ok h
    cases h
    cases claim with
    | none =>
      rcases claimNext_ok hclaim with ⟨-, rfl⟩ | ⟨id, task, started, -, -, -, run, hrun⟩
      · exact .inl ⟨rfl, hcarries⟩
      · obtain ⟨hsame, -⟩ := ClaimOrder.claimNext_ok_none runtime.named
          (runtime.beats.1.trans runtime.beats.2) hclaim
        rw [hsame]
        exact .inl ⟨rfl, hcarries⟩
    | some claim =>
      obtain ⟨task, hfirst, hclaims⟩ := ClaimOrder.claimNext_some hclaim
      refine .inr ⟨_, middle, rfl, hcarries, hclaims.token, ⟨task, claim.taskRunId, hfirst.get,
        hfirst.claimable, ?_, ?_⟩, hclaims.others⟩
      · exact hclaims.stored.trans (congrArg some hclaims.row)
      · exact congrArg (fun row => TaskInvocation.fromTask claim.taskId row claim.taskRunId)
          hclaims.row

end Calls

/-! ## A cycle in modes -/

section Cycles
variable {χ S : Type} {allowed : S → EngineWorld χ → EngineWorld χ → S → Prop}

/-- A transaction of the engine that neither creates nor claims a task. -/
structure Engined (w w' : EngineWorld χ) : Prop where
  only : w' = { w with db := w'.db }
  carries : Carries w.db w'.db

theorem Engined.refl (w : EngineWorld χ) : Engined w w := ⟨rfl, Carries.of_tasks rfl⟩

/-- What follows the handler: only transactions of the engine. -/
theorem handled_within (job : Job) (claimed : ClaimedExecution) (outcome : TaskOutcome)
    (durationMs recoveredCount : ℕ) : Within Engined
      (finalize job claimed outcome durationMs recoveredCount : CycleProg χ WorkerCycleResult) := by
  apply Within.handle
  · apply Within.bind
    · apply Within.bind (Within.look Engined.refl)
      intro now
      apply Within.effect
      intro w
      split
      · rename_i status db hfinish
        exact ⟨rfl, finish_carries hfinish⟩
      · exact Engined.refl w
    · exact fun _ => Within.pure _
  · intro e
    unfold finishRaised
    split
    · exact Within.pure _
    · exact Within.throw _

/-- A cycle keeps to a protocol if its transactions do, and if its handler does
from the mode on that the claim leads to. -/
theorem runOnce_follows {job : Job} {handlers : TaskHandlerRegistry χ}
    {className : TransferError → String} {P : ClaimedExecution → S → Prop} {s : S}
    (hengine : ∀ s w w', Engined w w' → allowed s w w' s)
    (hclaim : ∀ now w claimed middle db', Carries w.db middle →
      HandedOut job.runtime now job.lockToken claimed middle db' →
      ∃ s', allowed s w { w with db := db' } s' ∧ P claimed s')
    (hhandler : ∀ claimed s' handler, P claimed s' →
      handlers claimed.invocation.taskType claimed.invocation.payloadVersion = some handler →
      Follows allowed (fun _ _ => True)
        (handler (cancellationRequested job claimed) claimed.invocation) s') :
    Follows allowed (fun _ _ => True) (runOnce job handlers className) s := by
  have hlook (s : S) (w : EngineWorld χ) : allowed s w w s := hengine s w w (Engined.refl w)
  have hfinal (claimed : ClaimedExecution) (outcome : TaskOutcome) (durationMs count : ℕ) (s : S) :
      Follows allowed (fun _ _ => True) (finalize job claimed outcome durationMs count) s :=
    Follows.within (handled_within job claimed outcome durationMs count) (hengine s) fun _ =>
      trivial
  unfold runOnce
  apply Follows.bind (P := fun r s' => ∀ cycle claimed, r = .ok cycle → cycle.claim = some claimed →
    P claimed s')
  · unfold recoverAndClaim
    apply Follows.after (Within.look Engined.refl) (hengine s)
    · intro now
      have hcommit (w : EngineWorld χ) (cycle : WorkerRuntime.Cycle) (db : Database)
          (hok : job.runtime.recoverAndClaim now w.clock job.lockToken job.blocked w.db =
            .ok (cycle, db)) : ∃ s', allowed s w { w with db := db } s' ∧
          ∀ claimed, cycle.claim = some claimed → P claimed s' := by
        rcases recoverAndClaim_cases hok with ⟨hnone, hcarries⟩ |
          ⟨claimed, middle, hsome, hcarries, hout⟩
        · exact ⟨s, hengine s _ _ ⟨rfl, hcarries⟩, by simp [hnone]⟩
        · obtain ⟨s', hallowed, hP⟩ := hclaim now w claimed middle db hcarries hout
          refine ⟨s', hallowed, fun other hother => ?_⟩
          rw [hsome] at hother
          cases hother
          exact hP
      apply Follows.effect
      · simp
      · intro w
        split
        · rename_i cycle db hok
          obtain ⟨s', hallowed, hP⟩ := hcommit w cycle db hok
          refine ⟨s', hallowed, fun other claimed hother hclaimed => ?_⟩
          cases hother
          exact hP claimed hclaimed
        · exact ⟨s, hlook s w, by simp⟩
      · intro w
        split
        · rename_i cycle db hok
          obtain ⟨s', hallowed, -⟩ := hcommit w cycle db hok
          exact ⟨s', hallowed, by simp⟩
        · exact ⟨s, hlook s w, by simp⟩
    · simp
  · intro cycle s' hP
    unfold afterClaim
    split
    · exact Follows.pure trivial
    · split
      · exact Follows.pure trivial
      · rename_i claimed hclaimed
        unfold execute
        split
        · exact hfinal claimed _ _ _ s'
        · rename_i handler hresolved
          apply Follows.bind (P := fun _ _ => True)
          · exact Follows.attempt (hhandler claimed s' handler (hP cycle claimed rfl hclaimed)
              hresolved)
          · intro result s'' _
            unfold handled
            apply Follows.after (Within.look Engined.refl) (hengine s'')
            · intro lost
              cases lost with
              | true => exact Follows.pure trivial
              | false => exact hfinal claimed _ _ _ s''
            · exact fun _ => trivial
          · exact fun _ _ _ => trivial
  · exact fun _ _ _ => trivial

/-- The probe looks at the database only. -/
theorem cancellationRequested_within {R : EngineWorld χ → EngineWorld χ → Prop} (hR : ∀ w, R w w)
    (job : Job) (claimed : ClaimedExecution) :
    Within R (cancellationRequested job claimed) := Within.look hR

end Cycles

end MediaSync.TransferEngine
