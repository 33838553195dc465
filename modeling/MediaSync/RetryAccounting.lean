import MediaSync.TaskOwnership
import MediaSync.TaskWorker

/-!
# What a task has used of its retries

Two places count a retry: a worker that finishes a run, and the recovery of a
lease that ran out. The count of a task is the number of its runs that failed
or were lost, through every history of the engine.
-/
namespace MediaSync.RetryAccounting
open JsonValues RowTables TaskTables TaskRepository TaskOwnership TaskWorker

/-- A run that counts against the budget. -/
def failing (status : TaskRunStatus) : Bool := status ∈ [.failed, .lost]

def failures (runs : List (ℕ × TaskRun)) : ℕ :=
  runs.countP fun row => failing row.2.status

/-- A task that may still be carried out and was not asked to stop. -/
def continuing (status : TaskStatus) : Bool :=
  status ∈ [.pending, .retry, .running, .waitingCredential]

structure Accounted (task : Task) (runs : List (ℕ × TaskRun)) : Prop where
  counted : task.retryCount = failures runs
  within : continuing task.status → task.retryCount ≤ task.maxRetries
  bounded : task.cancelRequestedAt = none →
    task.retryCount ≤ task.maxRetries + if task.status = .failed then 1 else 0
  requested : task.status = .cancelRequested → task.cancelRequestedAt ≠ none

def AccountedAt (db : Database) (id : ℕ) : Prop :=
  ∀ task, db.tasks.get? id = some task → Accounted task (runsOf db id)

/-! ## Runs -/

section Runs
variable {runs : List (ℕ × TaskRun)} {q : ℕ × TaskRun → Bool} {g : TaskRun → TaskRun}

theorem failures_append (id : ℕ) {run : TaskRun} (h : run.status = .running) :
    failures (runs ++ [(id, run)]) = failures runs := by
  unfold failures
  rw [List.countP_append, List.countP_singleton, h]
  rfl

/-- Closing running runs counts those that are closed as failing. -/
theorem failures_map (hq : ∀ row ∈ runs, q row → row.2.status = .running) {status : TaskRunStatus}
    (hg : ∀ run, (g run).status = status) :
    failures (runs.map fun row => (row.1, if q row then g row.2 else row.2)) =
      failures runs + if failing status then (runs.filter q).length else 0 := by
  induction runs with
  | nil => simp [failures]
  | cons row runs ih =>
    have hrest := ih fun row' hrow' => hq row' (List.mem_cons_of_mem _ hrow')
    have hhead := hq row (List.mem_cons_self ..)
    unfold failures at hrest ⊢
    rw [List.map_cons, List.countP_cons, List.countP_cons, List.filter_cons, hrest]
    cases hrow : q row with
    | false =>
      simp only [Bool.false_eq_true, if_false]
      omega
    | true =>
      have hrunning : failing row.2.status = false := by
        rw [hhead hrow]
        rfl
      simp only [if_true, hg, hrunning, Bool.false_eq_true, if_false, List.length_cons]
      cases failing status <;> simp
      omega

/-- Updating runs that keep their status. -/
theorem failures_map_same (runs : List (ℕ × TaskRun)) (hg : ∀ run, (g run).status = run.status) :
    failures (runs.map fun row => (row.1, if q row then g row.2 else row.2)) = failures runs := by
  unfold failures
  rw [List.countP_map]
  congr 1
  funext row
  simp only [Function.comp]
  split
  · rw [hg]
  · rfl

/-- The owner of a task has one running run. -/
theorem one_active {task : Task} (h : Custody task runs) (ho : owned task)
    (hq : ∀ row ∈ runs, q row = true ↔ row.2.status = .running) : (runs.filter q).length = 1 := by
  have hactive := congrArg List.length h.active
  rw [if_pos ho, activeOwners, List.length_map, List.length_singleton] at hactive
  rw [← hactive]
  congr 1
  refine List.filter_congr fun row hrow => ?_
  rw [Bool.eq_iff_iff, decide_eq_true_eq]
  exact hq row hrow

end Runs

/-! ## One call -/

section Calls
variable {db db' : Database} {now clock : Time} {id : ℕ}

/-- Updating rows of tasks and runs in place. -/
theorem accountedAt_updated {p : ℕ → Task → Bool} {f : Task → Task} {q : ℕ → TaskRun → Bool}
    {g : TaskRun → TaskRun} (hg : ∀ run, (g run).taskId = run.taskId)
    (h : ∀ task, db.tasks.get? id = some task →
      Accounted (if p id task then f task else task) ((runsOf db id).map fun row =>
        (row.1, if q row.1 row.2 then g row.2 else row.2))) :
    AccountedAt { db with
      tasks := db.tasks.update p fun _ => f
      taskRuns := db.taskRuns.update q fun _ => g } id := by
  intro task htask
  rw [Table.get?_update, Option.map_eq_some_iff] at htask
  obtain ⟨before, hbefore, rfl⟩ := htask
  rw [runsOf, Table.select_update _ fun _ run _ => by rw [hg]]
  exact h before hbefore

/-- Updating rows of tasks only. -/
theorem accountedAt_tasks {p : ℕ → Task → Bool} {f : Task → Task}
    (h : ∀ task, db.tasks.get? id = some task →
      Accounted (if p id task then f task else task) (runsOf db id)) :
    AccountedAt { db with tasks := db.tasks.update p fun _ => f } id := by
  intro task htask
  rw [Table.get?_update, Option.map_eq_some_iff] at htask
  obtain ⟨before, hbefore, rfl⟩ := htask
  exact h before hbefore

theorem createTask_accounted {new : NewTask} {new' : ℕ} (h : AccountedAt db id)
    (hid : (db.tasks.get? id).isSome) (hok : createTask db clock new = .ok (new', db')) :
    AccountedAt db' id := by
  obtain ⟨-, -, rfl⟩ := createTask_ok hok
  obtain ⟨before, hbefore⟩ := Option.isSome_iff_exists.mp hid
  have hkept := Table.get?_insert_of_some (a := new.row clock) hbefore
  intro task htask
  rw [hkept] at htask
  exact h task (hbefore.trans htask)

theorem canTransition_continuing {source target : TaskStatus} (h : canTransition source target)
    (hsource : source ≠ .cancelRequested) : continuing source := by
  cases source <;> first | rfl | cases h | exact absurd rfl hsource

theorem not_continuing_of_cancel {target : TaskStatus} (h : canTransition .cancelRequested target) :
    continuing target = false := by
  cases target <;> first | rfl | cases h

/-- Away from a running task, a transition can only request its cancellation. -/
theorem transitioned_accounted {task : Task} {runs : List (ℕ × TaskRun)} (h : Accounted task runs)
    {target : TaskStatus} {details : TransitionDetails} (hcan : canTransition task.status target)
    (hrun : target ≠ .running) (hleased : leased task.status → target = .cancelRequested) :
    Accounted (transitioned target now details task) runs where
  counted := h.counted
  within hcontinuing := by
    refine h.within (canTransition_continuing hcan fun hsource => ?_)
    have htarget := hleased (by rw [hsource]; rfl)
    rw [show (transitioned target now details task).status = target from rfl, htarget]
      at hcontinuing
    cases hcontinuing
  bounded hnever := by
    have htarget : target ≠ .cancelRequested := by
      rintro rfl
      cases hbefore : task.cancelRequestedAt <;> simp [transitioned, hbefore] at hnever
    have hsource : task.status ≠ .cancelRequested := fun hsource =>
      htarget (hleased (by rw [hsource]; rfl))
    have hwithin := h.within (canTransition_continuing hcan hsource)
    exact hwithin.trans (Nat.le_add_right ..)
  requested htarget := by
    have htarget' : target = .cancelRequested := htarget
    subst htarget'
    cases hbefore : task.cancelRequestedAt <;> simp [transitioned, hbefore]

theorem transition_accounted {taskId : ℕ} {expected target : TaskStatus}
    {details : TransitionDetails} (h : AccountedAt db id)
    (hok : transition db clock taskId expected target details = .ok db') : AccountedAt db' id := by
  obtain ⟨hcan, hrun, hleased, rfl⟩ := transition_ok hok
  refine accountedAt_tasks fun task htask => ?_
  split
  · rename_i hp
    simp only [Bool.and_eq_true, decide_eq_true_eq] at hp
    exact transitioned_accounted (h task htask) (hp.2 ▸ hcan) hrun (hp.2 ▸ hleased)
  · exact h task htask

theorem claimed_accounted {task : Task} {runs : List (ℕ × TaskRun)} (h : Accounted task runs)
    {workerId lockToken : String} {until' : Time} (hclaimable : isClaimable now task)
    (runId : ℕ) {run : TaskRun} (hrunning : run.status = .running) :
    Accounted (claimed workerId lockToken now until' task) (runs ++ [(runId, run)]) where
  counted := by
    rw [failures_append runId hrunning]
    exact h.counted
  within hcontinuing := by
    have hqueued : continuing task.status := by
      unfold isClaimable queued at hclaimable
      by_cases hcancel : task.status = .cancelRequested
      · simp [claimed, hcancel, continuing] at hcontinuing
      · simp only [hcancel, decide_false, Bool.false_and, Bool.or_false, Bool.and_eq_true,
          decide_eq_true_eq, List.mem_cons, List.not_mem_nil, or_false] at hclaimable
        rcases hclaimable.1.1 with hs | hs <;> rw [hs] <;> rfl
    exact h.within hqueued
  bounded hnever := by
    have hbounded := h.bounded hnever
    have hunfailed : task.status ≠ .failed := by
      rintro hfailed
      simp [isClaimable, queued, hfailed] at hclaimable
    rw [if_neg hunfailed] at hbounded
    exact hbounded.trans (Nat.le_add_right ..)
  requested hcancel := by
    refine h.requested ?_
    by_contra hother
    simp [claimed, hother] at hcancel

theorem claimNext_accounted {workerId lockToken : String} {leaseDuration : Time}
    {claimedAt : Option Time} {claim : Option TaskClaim} (h : AccountedAt db id)
    (hok : claimNext db clock lockToken workerId leaseDuration claimedAt = .ok (claim, db')) :
    AccountedAt db' id := by
  rcases claimNext_ok hok with ⟨-, rfl⟩ | ⟨taskId, task, started, htask, hclaimable, rfl, run, hrun⟩
  · exact h
  obtain ⟨-, -, -, rfl⟩ := createRun_ok hrun
  intro after hafter
  rw [Table.get?_update, Option.map_eq_some_iff] at hafter
  obtain ⟨before, hbefore, rfl⟩ := hafter
  rw [runsOf, Table.select_insert, newRun_taskId]
  by_cases hid : id = taskId
  · subst hid
    rw [htask] at hbefore
    cases hbefore
    simp only [decide_true, hclaimable, Bool.and_self, if_true]
    exact claimed_accounted (h _ htask) hclaimable _ rfl
  · have hother : ¬ taskId = id := fun heq => hid heq.symm
    simp only [hid, hother, decide_false, Bool.false_and, Bool.false_eq_true, if_false,
      List.append_nil]
    exact h before hbefore

theorem heartbeat_accounted {taskId : ℕ} {workerId lockToken : String} {leaseDuration : Time}
    {heartbeatAt : Option Time} (h : AccountedAt db id)
    (hok : heartbeat db clock taskId workerId lockToken leaseDuration heartbeatAt = .ok db') :
    AccountedAt db' id := by
  obtain ⟨-, -, rfl⟩ := heartbeat_ok hok
  refine accountedAt_updated (fun _ => rfl) fun task htask => ?_
  have hbefore := h task htask
  have hsame := failures_map_same (runsOf db id)
    (q := fun row => activeRunOf taskId workerId lockToken row.2)
    (g := beaten (heartbeatAt.getD clock)) fun _ => rfl
  split
  · exact ⟨hbefore.counted.trans hsame.symm, hbefore.within, hbefore.bounded, hbefore.requested⟩
  · exact ⟨hbefore.counted.trans hsame.symm, hbefore.within, hbefore.bounded, hbefore.requested⟩

/-- What a finished run counts, and when the task may go on. -/
structure Counts (task : Task) (fields : OutcomeFields) (verdict : WorkerRuntime.Verdict) :
    Prop where
  failing : failing verdict.runStatus = decide (fields.status ∈ [.retry, .failed])
  ends : verdict.taskStatus ≠ .cancelRequested
  budget : fields.status ∈ [.retry, .failed] → verdict.taskStatus ≠ .failed →
    task.retryCount + 1 ≤ task.maxRetries
  spared : verdict.taskStatus ≠ .failed → fields.status ∉ [.retry, .failed] ∨
    task.retryCount + 1 ≤ task.maxRetries

theorem verdict_counts {runtime : WorkerRuntime} {task : Task} {fields : OutcomeFields}
    {verdict : WorkerRuntime.Verdict} (h : runtime.verdict now task fields = .ok verdict) :
    Counts task fields verdict := by
  unfold WorkerRuntime.verdict at h
  split at h
  · rename_i hstatus
    split at h
    · cases h
      exact ⟨by rw [hstatus]; rfl, TaskStatus.noConfusion, by simp [hstatus],
      fun _ => .inl (by simp [hstatus])⟩
    · cases h
  · rename_i hstatus
    unfold WorkerRuntime.retryVerdict at h
    split at h
    · cases h
      exact ⟨by rw [hstatus]; rfl, TaskStatus.noConfusion, fun _ h => absurd rfl h,
      fun h => absurd rfl h⟩
    · rename_i hbudget
      have hbudget' : task.retryCount + 1 ≤ task.maxRetries := by omega
      cases hdelay : runtime.backoff.bounded
          (fields.retryAfter.getD (runtime.backoff.delayFor task.retryCount)) with
      | error e =>
        rw [hdelay] at h
        cases h
      | ok delay =>
        rw [hdelay] at h
        cases h
        exact ⟨by rw [hstatus]; rfl, TaskStatus.noConfusion, fun _ _ => hbudget',
          fun _ => .inr hbudget'⟩
  · rename_i hstatus
    cases h
    exact ⟨by rw [hstatus]; rfl, TaskStatus.noConfusion, by simp [hstatus],
      fun _ => .inl (by simp [hstatus])⟩
  · rename_i hstatus
    cases h
    exact ⟨by rw [hstatus]; rfl, TaskStatus.noConfusion, by simp [hstatus],
      fun _ => .inl (by simp [hstatus])⟩
  · rename_i hstatus
    cases h
    exact ⟨by rw [hstatus]; rfl, TaskStatus.noConfusion, fun _ h => absurd rfl h,
      fun h => absurd rfl h⟩
  · rename_i hstatus
    cases h
    exact ⟨by rw [hstatus]; rfl, TaskStatus.noConfusion, by simp [hstatus],
      fun _ => .inl (by simp [hstatus])⟩

theorem finished_accounted {task : Task} {runs runs' : List (ℕ × TaskRun)} {fields : OutcomeFields}
    {verdict : WorkerRuntime.Verdict} {durationMs : ℕ} (h : Accounted task runs)
    (hcounts : Counts task fields verdict) (hcan : canTransition task.status verdict.taskStatus)
    (hruns : failures runs' = failures runs + if failing verdict.runStatus then 1 else 0) :
    Accounted (finished clock verdict.taskStatus
      (WorkerRuntime.finishDetails now durationMs fields verdict) task) runs' where
  counted := by
    rw [hruns, hcounts.failing, ← h.counted]
    rfl
  within hcontinuing := by
    have hunfailed : verdict.taskStatus ≠ .failed := by
      rintro hfailed
      rw [show (finished clock verdict.taskStatus
        (WorkerRuntime.finishDetails now durationMs fields verdict) task).status =
          verdict.taskStatus from rfl, hfailed] at hcontinuing
      cases hcontinuing
    have hsource : task.status ≠ .cancelRequested := by
      rintro hsource
      rw [hsource] at hcan
      change continuing verdict.taskStatus = true at hcontinuing
      rw [not_continuing_of_cancel hcan] at hcontinuing
      cases hcontinuing
    have hwithin := h.within (canTransition_continuing hcan hsource)
    change task.retryCount + (if decide (fields.status ∈ [.retry, .failed]) then 1 else 0) ≤
      task.maxRetries
    by_cases hcounted : fields.status ∈ [.retry, .failed]
    · have hbudget := hcounts.budget hcounted hunfailed
      simpa [hcounted] using hbudget
    · simpa [hcounted] using hwithin
  bounded hnever := by
    have hsource : task.status ≠ .cancelRequested := fun hsource =>
      h.requested hsource (by simpa [finished, released, taskTransitionValues, hcounts.ends]
        using hnever)
    have hwithin := h.within (canTransition_continuing hcan hsource)
    change task.retryCount + (if decide (fields.status ∈ [.retry, .failed]) then 1 else 0) ≤
      task.maxRetries + if verdict.taskStatus = .failed then 1 else 0
    by_cases hfailed : verdict.taskStatus = .failed
    · rw [if_pos hfailed]
      split <;> omega
    · rcases hcounts.spared hfailed with hspared | hbudget
      · simp only [hspared, decide_false, Bool.false_eq_true, if_false]
        omega
      · split <;> omega
  requested hcancel := absurd hcancel hcounts.ends

/-- The running runs of an owned task are the active runs of its owner. -/
theorem active_iff {task : Task} {workerId lockToken : String} (hown : OwnershipInvariant db)
    (htask : db.tasks.get? id = some task) (hworker : task.lockedBy = some workerId)
    (htoken : task.lockToken = some lockToken) :
    ∀ row ∈ runsOf db id, activeRunOf id workerId lockToken row.2 = true ↔
      row.2.status = .running := by
  intro row hrow
  have hcustody := hown.custody id task htask
  constructor
  · intro hactive
    simp only [activeRunOf, Bool.and_eq_true, decide_eq_true_eq] at hactive
    exact hactive.1.1.2
  · intro hrunning
    obtain ⟨-, hrunWorker, hrunToken⟩ := hcustody.active_run (hcustody.owned_of_lockedBy hworker)
      hrow hrunning hrow hrunning
    simp only [activeRunOf, Bool.and_eq_true, decide_eq_true_eq]
    exact ⟨⟨⟨(mem_runsOf.mp hrow).2, hrunning⟩, hrunWorker.trans hworker⟩, hrunToken.trans htoken⟩

/-- An update of the runs of one task leaves those of the others. -/
theorem runsOf_others {k : ℕ} {q : ℕ × TaskRun → Bool} {g : TaskRun → TaskRun} (hid : id ≠ k)
    (hq : ∀ row, q row → row.2.taskId = k) :
    ((runsOf db id).map fun row => (row.1, if q row then g row.2 else row.2)) = runsOf db id := by
  refine (List.map_congr_left fun row hrow => ?_).trans (List.map_id' _)
  have huntouched : q row = false := by
    by_contra htouched
    exact hid ((mem_runsOf.mp hrow).2 ▸ hq row (by simpa using htouched))
  rw [huntouched]
  rfl

theorem finish_accounted {runtime : WorkerRuntime} {claimed : ClaimedExecution}
    {outcome : TaskOutcome} {durationMs : ℕ} {status : TaskStatus} (hown : OwnershipInvariant db)
    (h : AccountedAt db id)
    (hok : runtime.finish now clock claimed outcome durationMs db = .ok (status, db')) :
    AccountedAt db' id := by
  obtain ⟨task, fields, verdict, htask, howns, -, -, hverdict, -, hrun⟩ := finish_ok hok
  obtain ⟨hcan, -, -, -, howned, hactive, rfl⟩ := finishRun_ok hrun
  refine accountedAt_updated (fun _ => rfl) fun before hbefore => ?_
  by_cases hid : id = claimed.invocation.taskId
  · subst hid
    rw [htask] at hbefore
    cases hbefore
    simp only [WorkerRuntime.owns, Bool.and_eq_true, decide_eq_true_eq] at howns
    have hiff := active_iff hown htask howns.1 howns.2
    have hcustody := hown.custody _ task htask
    have howner := hcustody.owned_of_lockedBy howns.1
    obtain ⟨runId, run, hget, hq⟩ := Table.select_ne_nil.mp hactive
    have hq' := hq
    simp only [activeRunOf, Bool.and_eq_true, decide_eq_true_eq] at hq'
    have hrow : (runId, run) ∈ runsOf db claimed.invocation.taskId :=
      mem_runsOf.mpr ⟨hget, hq'.2.1.1.1⟩
    have hone : ∀ row ∈ runsOf db claimed.invocation.taskId,
        (row.1 = claimed.invocation.taskRunId && activeRunOf claimed.invocation.taskId
          runtime.workerId claimed.lockToken row.2) = true ↔ row.2.status = .running := by
      intro row hrow'
      rw [← hiff row hrow', Bool.and_eq_true]
      refine ⟨fun hboth => hboth.2, fun hr => ?_⟩
      have hsame := (hcustody.active_run howner hrow hq'.2.1.1.2 hrow' ((hiff row hrow').mp hr)).1
      rw [hsame]
      exact Bool.and_eq_true_iff.mp hq
    have hp : (ownedBy claimed.invocation.taskId runtime.workerId claimed.lockToken clock
        claimed.invocation.taskId task && decide (task.status = task.status)) = true := by
      obtain ⟨id', task', htask', hp⟩ := Table.select_ne_nil.mp howned
      have hsame : id' = claimed.invocation.taskId := by
        simp only [ownedBy, Bool.and_eq_true, decide_eq_true_eq] at hp
        exact hp.1.1.1.1
      subst hsame
      rw [htask] at htask'
      cases htask'
      exact hp
    rw [if_pos hp]
    refine finished_accounted (h _ htask) (verdict_counts hverdict) hcan ?_
    refine (failures_map (g := closed clock verdict.runStatus _)
      (fun row hrow' => (hone row hrow').mp) fun _ => rfl).trans ?_
    rw [one_active hcustody howner hone]
  · rw [runsOf_others (g := closed clock verdict.runStatus _) hid fun row hq => ?_]
    · have hother : (ownedBy claimed.invocation.taskId runtime.workerId claimed.lockToken clock id
          before && decide (before.status = task.status)) = false := by
        simp [ownedBy, hid]
      rw [hother]
      exact h before hbefore
    · simp only [activeRunOf, Bool.and_eq_true, decide_eq_true_eq] at hq
      exact hq.2.1.1.1

theorem recovered_accounted {task : Task} {runs runs' : List (ℕ × TaskRun)}
    (h : Accounted task runs)
    (hcustody : Custody task runs) (ho : owned task) {nextAttemptAt retryAt : Option Time}
    {target : TaskStatus} (htarget : recoveryTarget task nextAttemptAt = .ok (target, retryAt))
    (hruns : failures runs' = failures runs + 1) :
    Accounted (recovered now target retryAt (task.retryCount + 1) task) runs' where
  counted := by
    rw [hruns, ← h.counted]
    rfl
  within hcontinuing := by
    unfold recoveryTarget at htarget
    split_ifs at htarget with hcancel hspent hmissing
    · cases htarget
      cases hcontinuing
    · cases htarget
      cases hcontinuing
    · cases htarget
      change task.retryCount + 1 ≤ task.maxRetries
      omega
  bounded hnever := by
    have hnever' : task.cancelRequestedAt = none := hnever
    unfold recoveryTarget at htarget
    split_ifs at htarget with hcancel hspent hmissing
    · exact absurd hnever' (h.requested hcancel)
    · cases htarget
      have hrunning : task.status = .running := by
        by_contra hother
        have hidle := hcustody.idle_unowned (leased_eq_false hother hcancel)
        rw [owned_eq_false hidle] at ho
        cases ho
      have hwithin := h.within (by rw [hrunning]; rfl)
      change task.retryCount + 1 ≤ task.maxRetries + 1
      omega
    · cases htarget
      change task.retryCount + 1 ≤ task.maxRetries + 0
      omega
  requested hcancel := by
    unfold recoveryTarget at htarget
    split_ifs at htarget with hbefore hspent hmissing
    · exact h.requested hbefore
    · cases htarget
      cases hcancel
    · cases htarget
      cases hcancel

theorem recoverExpiredLease_accounted {lease : ExpiredTaskLease} {done : Bool}
    {nextAttemptAt recoveredAt : Option Time} (hown : OwnershipInvariant db) (h : AccountedAt db id)
    (hok : recoverExpiredLease db clock lease nextAttemptAt recoveredAt = .ok (done, db')) :
    AccountedAt db' id := by
  rcases recoverExpiredLease_ok hok with ⟨-, rfl⟩ |
    ⟨taskId, task, target, retryAt, -, hmem, htarget, -, rfl⟩
  · exact h
  obtain ⟨htask, hheld⟩ := Table.mem_select.mp hmem
  have hheld' := hheld
  simp only [Bool.and_eq_true, decide_eq_true_eq] at hheld'
  obtain ⟨⟨⟨⟨rfl, -⟩, hworker⟩, htoken⟩, -⟩ := hheld'
  refine accountedAt_updated (fun _ => rfl) fun before hbefore => ?_
  by_cases hid : id = lease.taskId
  · subst hid
    rw [htask] at hbefore
    cases hbefore
    have hiff := active_iff hown htask hworker htoken
    have hcustody := hown.custody _ task htask
    have howner := hcustody.owned_of_lockedBy hworker
    rw [if_pos hheld]
    refine recovered_accounted (h _ htask) hcustody howner htarget ?_
    refine (failures_map (g := lost (recoveredAt.getD clock))
      (fun row hrow => (hiff row hrow).mp) fun _ => rfl).trans ?_
    rw [one_active hcustody howner hiff]
    rfl
  · rw [runsOf_others (g := lost (recoveredAt.getD clock)) hid fun row hq => ?_]
    · simp only [hid, decide_false, Bool.false_and, Bool.false_eq_true, if_false]
      exact h before hbefore
    · simp only [activeRunOf, Bool.and_eq_true, decide_eq_true_eq] at hq
      exact hq.1.1.1

end Calls

/-! ## The engine -/

/-- One transaction of the engine or of somebody who asks it for something. -/
inductive Step where
  | create (clock : Time) (new : NewTask)
  | transition (clock : Time) (taskId : ℕ) (expected target : TaskStatus)
      (details : TransitionDetails)
  | recoverAndClaim (runtime : WorkerRuntime) (now clock : Time) (lockToken : String)
      (blocked : Bool)
  | heartbeat (runtime : WorkerRuntime) (now clock : Time) (claimed : ClaimedExecution)
  | finish (runtime : WorkerRuntime) (now clock : Time) (claimed : ClaimedExecution)
      (outcome : TaskOutcome) (durationMs : ℕ)

namespace Step

/-- What the transaction commits, if it does not raise. -/
def commits (db : Database) : Step → Option Database
  | create clock new => ((createTask db clock new).map Prod.snd).toOption
  | transition clock taskId expected target details =>
    (TaskRepository.transition db clock taskId expected target details).toOption
  | recoverAndClaim runtime now clock lockToken blocked =>
    ((runtime.recoverAndClaim now clock lockToken blocked db).map Prod.snd).toOption
  | heartbeat runtime now clock claimed => (runtime.heartbeat now clock claimed db).toOption
  | finish runtime now clock claimed outcome durationMs =>
    ((runtime.finish now clock claimed outcome durationMs db).map Prod.snd).toOption

def apply (db : Database) (step : Step) : Database := (step.commits db).getD db

end Step

/-- The database after a history; a crash is a history that goes on without the
finish of a run. -/
def history (steps : List Step) (db : Database) : Database := steps.foldl Step.apply db

section Steps
variable {db db' : Database} {now clock : Time} {id : ℕ}

theorem operation_present (op : Operation) (h : (db.tasks.get? id).isSome) :
    ((op.apply db).tasks.get? id).isSome := by
  rcases op.apply_cases db with heq | ⟨db', hok, heq⟩
  · rw [heq]
    exact h
  rw [heq]
  cases op with
  | createTask clock new =>
    obtain ⟨_, hok⟩ := map_snd_ok hok
    obtain ⟨-, -, rfl⟩ := createTask_ok hok
    obtain ⟨task, htask⟩ := Option.isSome_iff_exists.mp h
    rw [Table.get?_insert_of_some htask]
    rfl
  | transition =>
    obtain ⟨-, -, -, rfl⟩ := transition_ok hok
    rwa [Table.get?_update, Option.isSome_map]
  | claimNext =>
    obtain ⟨_, hok⟩ := map_snd_ok hok
    rcases claimNext_ok hok with ⟨-, rfl⟩ | ⟨_, _, _, -, -, rfl, _, hrun⟩
    · exact h
    · obtain ⟨-, -, -, rfl⟩ := createRun_ok hrun
      rwa [Table.get?_update, Option.isSome_map]
  | createRun =>
    obtain ⟨_, hok⟩ := map_snd_ok hok
    obtain ⟨-, -, -, rfl⟩ := createRun_ok hok
    exact h
  | heartbeat =>
    obtain ⟨-, -, rfl⟩ := heartbeat_ok hok
    rwa [Table.get?_update, Option.isSome_map]
  | finishRun =>
    obtain ⟨-, -, -, -, -, -, rfl⟩ := finishRun_ok hok
    rwa [Table.get?_update, Option.isSome_map]
  | listExpiredLeases =>
    rw [map_const_ok hok]
    exact h
  | recoverExpiredLease =>
    obtain ⟨_, hok⟩ := map_snd_ok hok
    rcases recoverExpiredLease_ok hok with ⟨-, rfl⟩ | ⟨_, _, _, _, -, -, -, -, rfl⟩
    · exact h
    · rwa [Table.get?_update, Option.isSome_map]

theorem apply_ok {op : Operation} (hok : op.result db = .ok db') : op.apply db = db' := by
  unfold Operation.apply
  rw [hok]

/-- Whether a call inserts a task. -/
def inserts : Operation → Bool
  | .createTask _ _ => true
  | _ => false

/-! ### What is never rewritten -/

/-- The columns of a task that say what it is for. -/
def identity (task : Task) :
    String × List (String × Json) × Option String × Option ℕ × Option ℕ :=
  (task.type, task.payload, task.idempotencyKey, task.subscriptionId, task.fileId)

def identities (db : Database) :
    List (ℕ × String × List (String × Json) × Option String × Option ℕ × Option ℕ) :=
  db.tasks.rows.map fun row => (row.1, identity row.2)

theorem identities_updated {p : ℕ → Task → Bool} {f : Task → Task} {runs : Table TaskRun}
    (hf : ∀ task, identity (f task) = identity task) :
    identities { db with tasks := db.tasks.update p fun _ => f, taskRuns := runs } =
      identities db := by
  simp only [identities, Table.update, List.map_map]
  refine List.map_congr_left fun row _ => ?_
  rw [Function.comp_apply]
  split
  · rw [hf]
  · rfl

/-- A call that inserts nothing rewrites no task's identity. -/
theorem operation_identities {op : Operation} (hop : inserts op = false) :
    identities (op.apply db) = identities db := by
  rcases op.apply_cases db with heq | ⟨db', hok, heq⟩
  · rw [heq]
  rw [heq]
  cases op with
  | createTask => cases hop
  | transition =>
    obtain ⟨-, -, -, rfl⟩ := transition_ok hok
    exact identities_updated fun _ => rfl
  | claimNext =>
    obtain ⟨_, hok⟩ := map_snd_ok hok
    rcases claimNext_ok hok with ⟨-, rfl⟩ | ⟨_, _, _, -, -, rfl, _, hrun⟩
    · rfl
    · obtain ⟨-, -, -, rfl⟩ := createRun_ok hrun
      exact identities_updated fun _ => rfl
  | createRun =>
    obtain ⟨_, hok⟩ := map_snd_ok hok
    obtain ⟨-, -, -, rfl⟩ := createRun_ok hok
    rfl
  | heartbeat =>
    obtain ⟨-, -, rfl⟩ := heartbeat_ok hok
    exact identities_updated fun _ => rfl
  | finishRun =>
    obtain ⟨-, -, -, -, -, -, rfl⟩ := finishRun_ok hok
    exact identities_updated fun _ => rfl
  | listExpiredLeases =>
    rw [map_const_ok hok]
  | recoverExpiredLease =>
    obtain ⟨_, hok⟩ := map_snd_ok hok
    rcases recoverExpiredLease_ok hok with ⟨-, rfl⟩ | ⟨_, _, _, _, -, -, -, -, rfl⟩
    · rfl
    · exact identities_updated fun _ => rfl

theorem runAll_identities (ops : List Operation) (hops : ∀ op ∈ ops, inserts op = false) :
    identities (runAll ops db) = identities db := by
  induction ops generalizing db with
  | nil => rfl
  | cons op ops ih =>
    have hfirst : identities (op.apply db) = identities db :=
      operation_identities (hops op (List.mem_cons_self ..))
    exact (ih fun op' hop' => hops op' (List.mem_cons_of_mem _ hop')).trans hfirst

/-- The task a row had before, under the same identities. -/
theorem identities_get? (h : identities db' = identities db) {task' : Task}
    (htask' : db'.tasks.get? id = some task') :
    ∃ task, db.tasks.get? id = some task ∧ identity task' = identity task := by
  have hmem : (id, identity task') ∈ identities db' :=
    List.mem_map_of_mem (f := fun row : ℕ × Task => (row.1, identity row.2))
      (Table.mem_iff_get?.mpr htask')
  rw [h, identities, List.mem_map] at hmem
  obtain ⟨⟨_, task⟩, hrow, hsame⟩ := hmem
  obtain ⟨hid, hidentity⟩ := Prod.mk.inj hsame
  exact ⟨task, hid ▸ Table.mem_iff_get?.mp hrow, hidentity.symm⟩

theorem recoverLeases_calls {runtime : WorkerRuntime} (leases : List ExpiredTaskLease) {count : ℕ}
    (hok : runtime.recoverLeases now clock leases db = .ok (count, db')) :
    ∃ ops, runAll ops db = db' ∧ ∀ op ∈ ops, inserts op = false := by
  induction leases generalizing db count with
  | nil =>
    cases hok
    exact ⟨[], rfl, fun _ h => nomatch h⟩
  | cons lease leases ih =>
    obtain ⟨done, middle, rest, hfirst, hrest⟩ := recoverLeases_cons hok
    obtain ⟨ops, hops, hinserts⟩ := ih hrest
    have hop : (Operation.recoverExpiredLease clock lease
        (some (now + runtime.backoff.delayFor lease.retryCount)) (some now)).apply db = middle :=
      apply_ok (by rw [Operation.result, hfirst]; rfl)
    refine ⟨.recoverExpiredLease clock lease
      (some (now + runtime.backoff.delayFor lease.retryCount)) (some now) :: ops, ?_,
      List.forall_mem_cons.mpr ⟨rfl, hinserts⟩⟩
    change runAll ops (Operation.apply db _) = db'
    rw [hop, hops]

theorem recoverLeases_accounted {runtime : WorkerRuntime} (leases : List ExpiredTaskLease)
    {count : ℕ} (hown : OwnershipInvariant db) (h : AccountedAt db id)
    (hok : runtime.recoverLeases now clock leases db = .ok (count, db')) : AccountedAt db' id := by
  induction leases generalizing db count with
  | nil =>
    cases hok
    exact h
  | cons lease leases ih =>
    obtain ⟨done, middle, rest, hfirst, hrest⟩ := recoverLeases_cons hok
    have hmiddle : OwnershipInvariant middle := recoverExpiredLease_custody hown hfirst
    exact ih hmiddle (recoverExpiredLease_accounted hown h hfirst) hrest

theorem toOption_some {ε α : Type} {r : Except ε α} {a : α} (h : r.toOption = some a) :
    r = .ok a := by
  cases r with
  | error e => cases h
  | ok b =>
    cases h
    rfl

/-- Whether a transaction creates a task. -/
def Step.creates : Step → Bool
  | .create _ _ => true
  | _ => false

/-- What a transaction of the engine commits is what calls on the repository
make of the database. -/
theorem commits_calls {step : Step} (hcommits : step.commits db = some db') :
    ∃ ops, runAll ops db = db' ∧ (step.creates = false → ∀ op ∈ ops, inserts op = false) := by
  cases step with
  | create clock new =>
    exact ⟨[.createTask clock new], apply_ok (toOption_some hcommits), fun h => nomatch h⟩
  | transition clock taskId expected target details =>
    exact ⟨[.transition clock taskId expected target details], apply_ok (toOption_some hcommits),
      fun _ => by simp [inserts]⟩
  | recoverAndClaim runtime now clock lockToken blocked =>
    obtain ⟨cycle, hok⟩ := map_snd_ok (toOption_some hcommits)
    obtain ⟨leases, count, middle, hrecovered, hclaim⟩ := recoverAndClaim_ok hok
    obtain ⟨ops, rfl, hinserts⟩ := recoverLeases_calls leases hrecovered
    rcases claimUnlessBlocked_ok hclaim with rfl | ⟨claim, -, hclaimed⟩
    · exact ⟨ops, rfl, fun _ => hinserts⟩
    · have hop : (Operation.claimNext clock lockToken runtime.workerId runtime.leaseDuration
          (some now)).apply (runAll ops db) = db' :=
        apply_ok (by rw [Operation.result, hclaimed]; rfl)
      refine ⟨ops ++ [.claimNext clock lockToken runtime.workerId runtime.leaseDuration
        (some now)], ?_, fun _ op hmem => ?_⟩
      · unfold runAll at hop ⊢
        rw [List.foldl_append]
        exact hop
      · rcases List.mem_append.mp hmem with h | h
        · exact hinserts op h
        · rw [List.mem_singleton.mp h]
          rfl
  | heartbeat runtime now clock claimed =>
    exact ⟨[.heartbeat clock claimed.invocation.taskId runtime.workerId claimed.lockToken
      runtime.leaseDuration (some now)], apply_ok (toOption_some hcommits), fun _ => by
        simp [inserts]⟩
  | finish runtime now clock claimed outcome durationMs =>
    obtain ⟨status, hok⟩ := map_snd_ok (toOption_some hcommits)
    obtain ⟨task, fields, verdict, -, -, -, -, -, -, hrun⟩ := finish_ok hok
    exact ⟨[.finishRun clock claimed.invocation.taskId claimed.invocation.taskRunId
      runtime.workerId claimed.lockToken task.status verdict.taskStatus verdict.runStatus
      (WorkerRuntime.finishDetails now durationMs fields verdict)], apply_ok hrun, fun _ => by
        simp [inserts]⟩

theorem commits_accounted {step : Step} (hown : OwnershipInvariant db)
    (hpresent : (db.tasks.get? id).isSome) (h : AccountedAt db id)
    (hcommits : step.commits db = some db') : AccountedAt db' id := by
  cases step with
  | create clock new =>
    obtain ⟨new', hcreated⟩ := map_snd_ok (toOption_some hcommits)
    exact createTask_accounted h hpresent hcreated
  | transition => exact transition_accounted h (toOption_some hcommits)
  | recoverAndClaim runtime now clock lockToken blocked =>
    obtain ⟨cycle, hok⟩ := map_snd_ok (toOption_some hcommits)
    obtain ⟨leases, count, middle, hrecovered, hclaim⟩ := recoverAndClaim_ok hok
    have hmiddle : AccountedAt middle id := recoverLeases_accounted leases hown h hrecovered
    rcases claimUnlessBlocked_ok hclaim with rfl | ⟨claim, -, hclaimed⟩
    · exact hmiddle
    · exact claimNext_accounted hmiddle hclaimed
  | heartbeat => exact heartbeat_accounted h (toOption_some hcommits)
  | finish =>
    obtain ⟨status, hok⟩ := map_snd_ok (toOption_some hcommits)
    exact finish_accounted hown h hok

theorem runAll_present (ops : List Operation) (h : (db.tasks.get? id).isSome) :
    ((runAll ops db).tasks.get? id).isSome := by
  induction ops generalizing db with
  | nil => exact h
  | cons op ops ih => exact ih (operation_present op h)

theorem step_calls (step : Step) (db : Database) : ∃ ops, step.apply db = runAll ops db ∧
    (step.creates = false → ∀ op ∈ ops, inserts op = false) := by
  unfold Step.apply
  cases hcommits : step.commits db with
  | none => exact ⟨[], rfl, fun _ _ h => nomatch h⟩
  | some db' =>
    obtain ⟨ops, rfl, hinserts⟩ := commits_calls hcommits
    exact ⟨ops, rfl, hinserts⟩

theorem step_accounted (step : Step) (hown : OwnershipInvariant db)
    (hpresent : (db.tasks.get? id).isSome) (h : AccountedAt db id) :
    AccountedAt (step.apply db) id := by
  unfold Step.apply
  cases hcommits : step.commits db with
  | none => exact h
  | some db' => exact commits_accounted hown hpresent h hcommits

theorem history_ownership (steps : List Step) (h : OwnershipInvariant db) :
    OwnershipInvariant (history steps db) := by
  induction steps generalizing db with
  | nil => exact h
  | cons step steps ih =>
    obtain ⟨ops, hops, -⟩ := step_calls step db
    refine ih ?_
    rw [hops]
    exact h.runAll ops

theorem history_present (steps : List Step) (h : (db.tasks.get? id).isSome) :
    ((history steps db).tasks.get? id).isSome := by
  induction steps generalizing db with
  | nil => exact h
  | cons step steps ih =>
    obtain ⟨ops, hops, -⟩ := step_calls step db
    refine ih ?_
    rw [hops]
    exact runAll_present ops h

theorem history_accounted (steps : List Step) (hown : OwnershipInvariant db)
    (hpresent : (db.tasks.get? id).isSome) (h : AccountedAt db id) :
    AccountedAt (history steps db) id := by
  induction steps generalizing db with
  | nil => exact h
  | cons step steps ih =>
    obtain ⟨ops, hops, -⟩ := step_calls step db
    have haccounted := step_accounted step hown hpresent h
    refine ih ?_ ?_ haccounted
    · rw [hops]
      exact hown.runAll ops
    · rw [hops]
      exact runAll_present ops hpresent

/-- A task that was created with no retries used. -/
theorem created_accounted {new : NewTask} (hown : OwnershipInvariant db) (hnew : new.retryCount = 0)
    (hok : createTask db clock new = .ok (id, db')) :
    (db'.tasks.get? id).isSome ∧ AccountedAt db' id := by
  have hcustody : OwnershipInvariant db' := createTask_custody hown hok
  obtain ⟨-, rfl, rfl⟩ := createTask_ok hok
  have hrow := Table.get?_insert_nextId db.tasks (new.row clock)
  have hnone : runsOf db db.tasks.nextId = [] := by
    rw [runsOf, Table.select, List.filter_eq_nil_iff]
    intro row hmem htask
    have hlinked := hown.linked row.1 row.2 (Table.mem_iff_get?.mp hmem)
    rw [of_decide_eq_true htask, Table.get?_nextId] at hlinked
    contradiction
  refine ⟨by rw [hrow]; rfl, fun task htask => ?_⟩
  rw [hrow] at htask
  cases htask
  change Accounted (new.row clock) (runsOf db db.tasks.nextId)
  rw [hnone]
  exact ⟨hnew, fun _ => by change new.retryCount ≤ _; omega,
    fun _ => by change new.retryCount ≤ _; omega, TaskStatus.noConfusion⟩

/-- Through every history of the engine, before and after the task is created. -/
theorem retries_accounted (c : Time) (start : Database) (before after : List Step) (new : NewTask)
    {created : Database} (hnew : new.retryCount = 0)
    (hok : createTask (history before { start with tasks := .empty, taskRuns := .empty }) c new =
      .ok (id, created)) :
    ∃ task, (history after created).tasks.get? id = some task ∧
      task.retryCount = failures (runsOf (history after created) id) ∧
      (continuing task.status → task.retryCount ≤ task.maxRetries) ∧
      (task.cancelRequestedAt = none →
        failures (runsOf (history after created) id) ≤ task.maxRetries + 1) := by
  have hown := history_ownership before (OwnershipInvariant.empty start)
  obtain ⟨hpresent, haccounted⟩ := created_accounted hown hnew hok
  have hcreated : OwnershipInvariant created := createTask_custody hown hok
  have hafter := history_accounted after hcreated hpresent haccounted
  have hstill := history_present after hpresent
  obtain ⟨task, htask⟩ := Option.isSome_iff_exists.mp hstill
  have htaskAccounted := hafter task htask
  refine ⟨task, htask, htaskAccounted.counted, htaskAccounted.within, fun hnever => ?_⟩
  have hbounded := htaskAccounted.bounded hnever
  rw [htaskAccounted.counted] at hbounded
  refine hbounded.trans ?_
  split <;> omega

end Steps

/-! ## A sample -/

def sampleRuntime : WorkerRuntime where
  workerId := "worker"
  backoff := { positive := by decide, ordered := by decide }
  named := by decide
  beats := by decide
  limited := by decide

def sampleScan : NewTask := { type := "scan", maxRetries := 1 }

def sampleCreated : Database :=
  { tasks := Table.insert .empty (sampleScan.row 0) }

/-- A claim whose lease runs out, and the recovery of it. -/
def sampleSteps : List Step :=
  [.recoverAndClaim sampleRuntime 1 1 "token" false,
    .recoverAndClaim sampleRuntime 60000001 60000001 "other" true]

theorem sample_accounted :
    ∃ task, (history sampleSteps sampleCreated).tasks.get? 1 = some task ∧
      task.retryCount = failures (runsOf (history sampleSteps sampleCreated) 1) ∧
      (continuing task.status → task.retryCount ≤ task.maxRetries) ∧
      (task.cancelRequestedAt = none →
        failures (runsOf (history sampleSteps sampleCreated) 1) ≤ task.maxRetries + 1) :=
  retries_accounted 0 {} [] sampleSteps sampleScan rfl rfl

end MediaSync.RetryAccounting
