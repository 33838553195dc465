import MediaSync.OneSave
import MediaSync.RetryAccounting

/-!
# Handlers beside the bookkeeping

The engine's own transactions look at who owns a task, those of a handler do
not: an execution that has lost its task long ago still writes into the row. It
only writes what it knows of its save, so who owns a task, how often it was
tried and how it ended stay as the engine left them.
-/
namespace MediaSync.EngineCustody
open FaultPrograms Interleavings RowTables TaskTables TaskRepository TaskOwnership TaskWorker
open RetryAccounting TransferOperation TransferHandler TransferWrites WorkerCycles TransferRetries
open TransferEngine ProgramModes OneSave

/-! ## Transactions -/

/-- Every task is owned as its runs say, and has used as many retries. -/
structure Orderly (db : Database) : Prop where
  owned : OwnershipInvariant db
  accounted (id : ℕ) : AccountedAt db id

/-- A task without what its handler has noted. -/
def bookkept (task : Task) : Task :=
  { task with
    providerWriteIntentAt := none
    providerOperationId := none
    providerOperationStatus := none
    providerResult := none
    updatedAt := 0 }

/-- What has ended is not reopened, and nothing but notes is added to it. -/
structure Settled (db db' : Database) : Prop where
  tasks (id : ℕ) (task : Task) : db.tasks.get? id = some task → task.status.terminal →
    ∃ task', db'.tasks.get? id = some task' ∧ bookkept task' = bookkept task
  runs (id : ℕ) (run : TaskRun) : db.taskRuns.get? id = some run → run.status.terminal →
    db'.taskRuns.get? id = some run

theorem Settled.refl (db : Database) : Settled db db :=
  ⟨fun _ task h _ => ⟨task, h, rfl⟩, fun _ _ h _ => h⟩

theorem status_of_bookkept {task task' : Task} (h : bookkept task' = bookkept task) :
    task'.status = task.status := by
  have hstatus := congrArg Task.status h
  exact hstatus

theorem Settled.trans {db db' db'' : Database} (h : Settled db db') (h' : Settled db' db'') :
    Settled db db'' where
  tasks id task htask hend := by
    obtain ⟨task', htask', hsame⟩ := h.tasks id task htask hend
    obtain ⟨task'', htask'', hsame'⟩ :=
      h'.tasks id task' htask' (by rw [status_of_bookkept hsame]; exact hend)
    exact ⟨task'', htask'', hsame'.trans hsame⟩
  runs id run hrun hend := h'.runs id run (h.runs id run hrun hend) hend

theorem Settled.of_frozen {db db' : Database} (h : Frozen db db') : Settled db db' where
  tasks id task htask hend := ⟨task, h.tasks id task htask hend, rfl⟩
  runs := h.runs

/-- One effect of a process, or one move of the surroundings. -/
inductive Transacts {χ : Type} (w w' : EngineWorld χ) : Prop
  | beside (same : w'.db = w.db)
  | step (step : Step) (same : step.creates = false) (result : w'.db = step.apply w.db)
  | created (clock : Time) (new : NewTask) (id : ℕ) (db : Database) (unused : new.retryCount = 0)
      (created : TaskRepository.createTask w.db clock new = .ok (id, db))
      (tasks : w'.db.tasks = db.tasks) (runs : w'.db.taskRuns = db.taskRuns)
  | wrote (invocation : TaskInvocation) (written : Written invocation w.db w'.db)

section Transactions
variable {χ : Type} {w w' : EngineWorld χ} {db db' : Database} {invocation : TaskInvocation}

theorem mark_bookkept (mark : TaskMark) (task : Task) :
    bookkept (mark.apply task) = bookkept task := by
  cases mark <;> rfl

theorem mark_custody (mark : TaskMark) {task : Task} {runs : List (ℕ × TaskRun)}
    (h : Custody task runs) : Custody (mark.apply task) runs := by
  cases mark <;> exact ⟨h.complete, h.running_owned, h.idle_unowned, h.active, h.numbered⟩

theorem mark_accounted (mark : TaskMark) {task : Task} {runs : List (ℕ × TaskRun)}
    (h : Accounted task runs) : Accounted (mark.apply task) runs := by
  cases mark <;> exact ⟨h.counted, h.within, h.bounded, h.requested⟩

theorem Orderly.congr (h : Orderly db) (htasks : db'.tasks = db.tasks)
    (hruns : db'.taskRuns = db.taskRuns) : Orderly db' := by
  have hsame (id : ℕ) : runsOf db' id = runsOf db id := by
    unfold runsOf
    rw [hruns]
  constructor
  · constructor
    · intro id task htask
      rw [hsame]
      exact h.owned.custody id task (htasks ▸ htask)
    · intro id run hrun
      rw [htasks]
      exact h.owned.linked id run (hruns ▸ hrun)
  · intro id task htask
    rw [hsame]
    exact h.accounted id task (htasks ▸ htask)

theorem written_orderly (hwritten : Written invocation db db') (h : Orderly db) : Orderly db' := by
  cases hwritten with
  | same => exact h
  | file => exact h.congr rfl rfl
  | credential => exact h.congr rfl rfl
  | task task mark =>
    constructor
    · apply Throughout.ownership
      exact h.owned.throughout.of_tasks fun _ _ _ _ hcustody => mark_custody mark hcustody
    · intro id
      apply accountedAt_tasks
      intro row hrow
      split_ifs
      · exact mark_accounted mark (h.accounted id row hrow)
      · exact h.accounted id row hrow

theorem written_settled (hwritten : Written invocation db db') : Settled db db' := by
  cases hwritten with
  | same => exact Settled.refl db
  | file => exact ⟨fun _ task h _ => ⟨task, h, rfl⟩, fun _ _ h _ => h⟩
  | credential => exact ⟨fun _ task h _ => ⟨task, h, rfl⟩, fun _ _ h _ => h⟩
  | task task mark =>
    constructor
    · intro id row hrow _
      refine ⟨_, (Table.get?_update ..).trans (congrArg _ hrow), ?_⟩
      dsimp only
      split_ifs
      · exact mark_bookkept mark row
      · rfl
    · exact fun _ _ h _ => h

theorem created_orderly {clock : Time} {new : NewTask} {id : ℕ} (hunused : new.retryCount = 0)
    (hcreated : TaskRepository.createTask db clock new = .ok (id, db')) (h : Orderly db) :
    Orderly db' := by
  refine ⟨createTask_custody h.owned hcreated, fun other => ?_⟩
  by_cases hother : (db.tasks.get? other).isSome
  · exact createTask_accounted (h.accounted other) hother hcreated
  · by_cases hid : other = id
    · rw [hid]
      exact (created_accounted h.owned hunused hcreated).2
    · intro task htask
      obtain ⟨-, rfl, rfl⟩ := createTask_ok hcreated
      dsimp only at htask
      rw [Table.get?_insert, if_neg hid] at htask
      rw [htask] at hother
      exact absurd rfl hother

theorem step_orderly (step : Step) (hsame : step.creates = false) (h : Orderly db) :
    Orderly (step.apply db) := by
  obtain ⟨ops, hops, hinserts⟩ := step_calls step db
  refine ⟨by rw [hops]; exact h.owned.runAll ops, fun id => ?_⟩
  by_cases hid : (db.tasks.get? id).isSome
  · exact step_accounted step h.owned hid (h.accounted id)
  · -- a transaction that creates no task leaves the missing one missing
    intro task' htask'
    rw [hops] at htask'
    obtain ⟨task, htask, -⟩ := identities_get? (runAll_identities ops (hinserts hsame)) htask'
    rw [htask] at hid
    exact absurd rfl hid

theorem Transacts.orderly (htransacts : Transacts w w') (h : Orderly w.db) : Orderly w'.db := by
  cases htransacts with
  | beside same => rwa [same]
  | step step same result =>
    rw [result]
    exact step_orderly step same h
  | created clock new id db unused created tasks runs =>
    exact (created_orderly unused created h).congr tasks runs
  | wrote invocation written => exact written_orderly written h

theorem Transacts.settled (htransacts : Transacts w w') (h : Orderly w.db) :
    Settled w.db w'.db := by
  cases htransacts with
  | beside same =>
    rw [same]
    exact Settled.refl w.db
  | step step same result =>
    obtain ⟨ops, hops, -⟩ := step_calls step w.db
    rw [result, hops]
    exact Settled.of_frozen (h.owned.frozen_runAll ops)
  | created clock new id db unused created tasks runs =>
    obtain ⟨-, -, rfl⟩ := createTask_ok created
    constructor
    · intro other task htask _
      refine ⟨task, ?_, rfl⟩
      rw [tasks]
      exact Table.get?_insert_of_some htask
    · intro other run hrun _
      rw [runs]
      exact hrun
  | wrote invocation written => exact written_settled written

end Transactions

/-! ## Programs -/

theorem apply_of_commits {step : Step} {db db' : Database} (h : step.commits db = some db') :
    step.apply db = db' := by
  unfold Step.apply
  rw [h]
  rfl

section Programs
variable {χ δ : Type}

/-- The transactions of a cycle are steps of the engine; the rest is its handler's. -/
theorem runOnce_within {R : EngineWorld χ → EngineWorld χ → Prop} {job : Job}
    {handlers : TaskHandlerRegistry χ} {className : TransferError → String} (hrefl : ∀ w, R w w)
    (hstep : ∀ w (step : Step), step.creates = false → R w { w with db := step.apply w.db })
    (hhandler : ∀ claimed handler,
      handlers claimed.invocation.taskType claimed.invocation.payloadVersion = some handler →
      Within R (handler (cancellationRequested job claimed) claimed.invocation)) :
    Within R (runOnce job handlers className) := by
  have hfinal (claimed : ClaimedExecution) (outcome : TaskOutcome) (durationMs count : ℕ) :
      Within R (finalize job claimed outcome durationMs count : CycleProg χ WorkerCycleResult) := by
    apply Within.handle
    · apply Within.bind
      · apply Within.bind (Within.look hrefl)
        intro now
        apply Within.effect
        intro w
        split
        · rename_i status db hfinish
          have happlied := hstep w (.finish job.runtime now w.clock claimed outcome durationMs) rfl
          have hcommits : Step.commits w.db
              (.finish job.runtime now w.clock claimed outcome durationMs) = some db := by
            simp only [Step.commits, hfinish]
            rfl
          rw [apply_of_commits hcommits] at happlied
          exact happlied
        · exact hrefl w
      · exact fun _ => Within.pure _
    · intro e
      unfold finishRaised
      split
      · exact Within.pure _
      · exact Within.throw _
  unfold runOnce
  apply Within.bind
  · unfold recoverAndClaim
    apply Within.bind (Within.look hrefl)
    intro now
    apply Within.effect
    intro w
    split
    · rename_i cycle db hclaim
      have happlied := hstep w
        (.recoverAndClaim job.runtime now w.clock job.lockToken job.blocked) rfl
      have hcommits : Step.commits w.db
          (.recoverAndClaim job.runtime now w.clock job.lockToken job.blocked) = some db := by
        simp only [Step.commits, hclaim]
        rfl
      rw [apply_of_commits hcommits] at happlied
      exact happlied
    · exact hrefl w
  · intro cycle
    unfold afterClaim
    split
    · exact Within.pure _
    · split
      · exact Within.pure _
      · rename_i claimed hclaimed
        unfold execute
        split
        · exact hfinal claimed _ _ _
        · rename_i handler hresolved
          apply Within.bind (hhandler claimed handler hresolved).attempt
          intro result
          unfold handled
          apply Within.bind (Within.look hrefl)
          intro lost
          split
          · exact Within.pure _
          · exact hfinal claimed _ _ _

/-- What is relied on: providers work on the cloud only, and the other handlers
write what a transfer may write or create tasks. -/
structure Lawful (engine : Engine χ δ) : Prop where
  providers (taskId : ℕ) (account : CloudAccount) (drive : Option String)
    (provider : CloudDriveProvider (EngineWorld χ)) :
    (engine.context taskId).runtimeProvider account drive = .ok provider →
      Reads (OnCloud fun _ _ => True) provider ∧ Asks (OnCloud fun _ _ => True) provider.saving ∧
        Starts (OnCloud fun _ _ => True) provider.saving
  others (taskType : String) (version : ℕ) (handler : TaskHandler χ) :
    engine.others taskType version = some handler → ∀ probe invocation,
      Within (fun w w' => w' = w) probe → Within Transacts (handler probe invocation)

variable {engine : Engine χ δ}

theorem transferTaskHandler_transacts (h : Lawful engine) (taskId : ℕ)
    {probe : EngineProg χ Bool} (hprobe : Within (fun w w' => w' = w) probe)
    (invocation : TaskInvocation) :
    Within Transacts (transferTaskHandler (engine.context taskId) probe invocation) := by
  have hallowed (_ : Unit) (w w' : EngineWorld χ)
      (hworked : Worked (fun _ _ => True) invocation w w') : Transacts w w' :=
    .wrote invocation hworked.written
  have hlooks : Within (Worked (fun _ _ => True) invocation) probe := by
    apply hprobe.mono
    rintro w w' rfl
    exact ⟨.same, rfl, rfl, trivial⟩
  apply Follows.toWithin (Q := fun _ _ => True) (s := ())
  apply transferTaskHandler_follows (fun _ => trivial) hallowed hlooks
  intro account drive provider hbuilt
  obtain ⟨hreads, hasks, hstarts⟩ := h.providers taskId account drive provider hbuilt
  apply Works.of_starts (fun _ => trivial) hallowed hlooks
  · exact Reads.mono hreads fun _ _ => Worked.of_onCloud
  · exact Asks.mono hasks fun _ _ => Worked.of_onCloud
  · intro _
    cases hsaving : provider.saving with
    | direct saveSharedItem => trivial
    | resumable start query =>
      rw [hsaving] at hstarts
      intro share item target
      apply Follows.within (hstarts share item target)
      · exact fun w w' hcloud => hallowed () w w' (Worked.of_onCloud hcloud)
      · exact fun _ => trivial

theorem retryFile_transacts (fileId : ℕ) :
    Within Transacts (retryFile fileId : RetryProg χ ℕ) := by
  have hlook {α : Type} {view : EngineWorld χ → Except RetryError α} :
      Within Transacts (Prog.look .interrupted view) := Within.look fun _ => .beside rfl
  unfold retryFile enqueueTransferRetry enqueueSuccessor
  apply Within.bind hlook
  intro file
  apply Within.bind hlook
  intro existing
  split
  · exact Within.pure _
  · apply Within.bind hlook
    intro predecessor
    apply Within.bind hlook
    intro subscription
    apply Within.effect
    intro w
    split
    · rename_i id db hcreated
      exact Transacts.created w.clock _ id db rfl hcreated rfl rfl
    · exact .beside rfl

theorem program_transacts (h : Lawful engine) (k : ℕ) (job : EngineJob) :
    Within Transacts (engine.program k job) := by
  cases job with
  | cycle runtime blocked durationMs =>
    refine Within.bind (Within.attempt ?_) fun _ => Within.pure _
    apply runOnce_within (fun w => .beside rfl) fun w step hsame => .step step hsame rfl
    intro claimed handler hresolved
    have hprobe : Within (fun w w' => w' = w) (cancellationRequested
        (engine.cycle k runtime blocked durationMs) claimed : EngineProg χ Bool) :=
      cancellationRequested_within (R := fun w w' => w' = w) (fun _ => rfl) _ claimed
    unfold Engine.handlers at hresolved
    split at hresolved
    · cases hresolved
      exact transferTaskHandler_transacts h _ hprobe _
    · exact h.others _ _ handler hresolved _ _ hprobe
  | retry fileId => exact Within.bind (retryFile_transacts fileId).attempt fun _ => Within.pure _

/-- A move that creates a task creates it with no retries used. -/
def fresh : Happening ℕ EngineJob (EngineMove δ) → Bool
  | .move (.create new) => new.retryCount = 0
  | _ => true

theorem move_transacts {i : EngineMove δ} (hfresh : fresh (.move i)) (w : EngineWorld χ) :
    Transacts w (engine.move i w) := by
  cases i with
  | elapse time => exact .beside rfl
  | progress i => exact .beside rfl
  | beat runtime claimed =>
    change Transacts w (beat runtime claimed w)
    unfold beat
    split
    · rename_i db hbeat
      refine .step (.heartbeat runtime w.clock w.clock claimed) rfl (apply_of_commits ?_).symm
      simp only [Step.commits, hbeat]
      rfl
    · exact .beside rfl
    · exact .beside rfl
  | transition taskId expected target details =>
    change Transacts w (requestCancel taskId expected target details w)
    unfold requestCancel
    split
    · rename_i db hmoved
      refine .step (.transition w.clock taskId expected target details) rfl
        (apply_of_commits ?_).symm
      simp only [Step.commits, hmoved]
      rfl
    · exact .beside rfl
  | create new =>
    change Transacts w (Engine.createTask new w)
    unfold Engine.createTask
    split
    · rename_i id db hcreated
      exact .created w.clock new id db (of_decide_eq_true hfresh) hcreated rfl rfl
    · exact .beside rfl

theorem turn_transacts {w w' : EngineWorld χ} {mode mode' : ℕ → Unit}
    {happening : Happening ℕ EngineJob (EngineMove δ)} (hfresh : fresh happening)
    (hturn : Turn engine.system (fun _ _ w w' _ => Transacts w w') w mode happening w' mode') :
    Transacts w w' := by
  cases hturn with
  | rest => exact .beside rfl
  | act k _ _ hstep => exact hstep
  | late k _ _ hstep => exact hstep
  | stop k => exact .beside rfl
  | move i => exact move_transacts hfresh w

/-! ## Runs -/

theorem run_orderly (hlawful : Lawful engine) {pool : Pool ℕ (EngineWorld χ) Unit JobEnd}
    {mode : ℕ → Unit} (start : Database)
    (htracked : Tracked (fun _ _ w w' _ => Transacts w w') (fun _ => ()) pool mode)
    (horderly : Orderly pool.state.db) (hsettled : Settled start pool.state.db)
    (happenings : List (Happening ℕ EngineJob (EngineMove δ)))
    (hfresh : ∀ happening ∈ happenings, fresh happening) :
    ∃ mode, (Orderly (pool.run engine.system happenings).state.db ∧
        Settled start (pool.run engine.system happenings).state.db) ∧
      Tracked (fun _ _ w w' _ => Transacts w w') (fun _ => ()) (pool.run engine.system happenings)
        mode := by
  apply Tracked.run (C := fun _ happening _ => fresh happening)
    (J := fun w _ => Orderly w.db ∧ Settled start w.db) (h := htracked)
  · exact fun k job => Follows.within (program_transacts hlawful k job) (fun _ _ h => h)
      fun _ => trivial
  · rintro w mode happening w' mode' ⟨horderly, hsettled⟩ hfresh hturn
    have htransacts := turn_transacts hfresh hturn
    exact ⟨htransacts.orderly horderly, hsettled.trans (htransacts.settled horderly)⟩
  · exact ⟨horderly, hsettled⟩
  · exact Pool.along_of_forall _ hfresh _

/-- However cycles, stopped or overtaken executions, retries and requests
interleave: a task is owned as its runs say and has used as many retries as its
runs show, and from any moment on a task that has ended keeps everything but the
notes of its handler. -/
theorem engine_keeps_custody (hlawful : Lawful engine) {w : EngineWorld χ} (horderly : Orderly w.db)
    (before after : List (Happening ℕ EngineJob (EngineMove δ)))
    (hfresh : ∀ happening ∈ before ++ after, fresh happening) :
    let middle := (Pool.initial w).run engine.system before
    let final := middle.run engine.system after
    Orderly final.state.db ∧ Settled middle.state.db final.state.db := by
  intro middle final
  obtain ⟨mode, ⟨hmiddle, -⟩, htracked⟩ := run_orderly hlawful w.db (Tracked.initial _ _ w) horderly
    (Settled.refl w.db) before fun happening h => hfresh happening (List.mem_append_left _ h)
  obtain ⟨-, hfinal, -⟩ := run_orderly hlawful middle.state.db htracked hmiddle
    (Settled.refl _) after
    fun happening h => hfresh happening (List.mem_append_right _ h)
  exact hfinal

end Programs

/-! ## A note on a task that has ended -/

theorem slowEngine_lawful : Lawful slowEngine where
  providers taskId account drive provider hbuilt := by
    cases hbuilt
    have hsaves := slowProvider_savesOnce taskId
    refine ⟨Reads.mono hsaves.reads fun w w' h => ⟨h.only, trivial⟩,
      Asks.mono hsaves.asks fun w w' h => ⟨h.only, trivial⟩, fun _ _ _ => ?_⟩
    apply Within.effect
    exact fun w => ⟨rfl, trivial⟩
  others _ _ _ hresolved := by cases hresolved

theorem sampleStart_orderly : Orderly sampleStart.db := by
  let bare := { sampleStart.db with tasks := .empty, taskRuns := .empty }
  have hbare : Orderly bare := by
    refine ⟨OwnershipInvariant.empty sampleStart.db, fun id task htask => ?_⟩
    rw [Table.get?_empty] at htask
    cases htask
  have hcreated : createTask bare 0 sampleTransfer = .ok (1, sampleStart.db) := rfl
  exact created_orderly rfl hcreated hbare

/-- A cycle whose save was accepted stalls, its task is taken from it and
cancelled. -/
def overtakenRun : List (Happening ℕ EngineJob (EngineMove Empty)) :=
  (.start 0 sampleCycle :: acts 0 10) ++ [.move (.elapse 61000000), .start 1 sampleCycle] ++
    acts 1 2 ++ [.move (.transition 1 .retry .cancelled {})]

theorem overtakenRun_settled :
    let middle := (Pool.initial sampleStart).run slowEngine.system overtakenRun
    let final := middle.run slowEngine.system (acts 0 6)
    (Orderly final.state.db ∧ Settled middle.state.db final.state.db) ∧
      operationOf middle.state.db 1 = none ∧ operationOf final.state.db 1 = some "operation" := by
  have hfresh : ∀ happening ∈ overtakenRun ++ acts 0 6, fresh happening :=
    List.all_eq_true.mp (by decide)
  have hkept := engine_keeps_custody slowEngine_lawful sampleStart_orderly overtakenRun (acts 0 6)
    hfresh
  refine ⟨hkept, ?_⟩
  decide +kernel

end MediaSync.EngineCustody
