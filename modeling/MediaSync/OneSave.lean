import MediaSync.TransferEngine

/-!
# A transfer is saved once

A worker that stops between a save the provider has accepted and the note of
its operation id leaves a task that looks as if nothing had been saved: the
next one submits the save again. Whether that happens is decided where a task
is claimed. An execution that was handed an operation id submits nothing, one
that was not submits at most one save, and it may do so late, when the task has
long been taken away from it.
-/
namespace MediaSync.OneSave
open FaultPrograms Interleavings RowTables TaskTables TaskRepository TaskWorker TransferOperation
open TransferHandler TransferWrites WorkerCycles TransferRetries TransferEngine ProgramModes

def lockOf (db : Database) (taskId : ℕ) : Option String :=
  (db.tasks.get? taskId).bind fun task => task.lockToken

def operationOf (db : Database) (taskId : ℕ) : Option String :=
  (db.tasks.get? taskId).bind fun task => task.providerOperationId

section Protocol
variable {χ δ : Type} (accepted : χ → ℕ → ℕ)

/-- Locks are only given up, and no save is accepted. -/
structure Quiet (w w' : EngineWorld χ) : Prop where
  locks (taskId : ℕ) (token : String) : lockOf w'.db taskId = some token →
    lockOf w.db taskId = some token
  saves : accepted w'.cloud = accepted w.cloud

/-- The provider accepts one save for the task. -/
structure Accepts (taskId : ℕ) (w w' : EngineWorld χ) : Prop where
  only : w' = { w with cloud := w'.cloud }
  saves : accepted w'.cloud =
    Function.update (accepted w.cloud) taskId (accepted w.cloud taskId + 1)

/-- One request of a save: before it is accepted and after. -/
inductive Submits (taskId : ℕ) : Bool → EngineWorld χ → EngineWorld χ → Bool → Prop
  | other (s : Bool) (w w' : EngineWorld χ)
      (step : OnCloud (fun c c' => accepted c' = accepted c) w w') : Submits taskId s w w' s
  | accept (w w' : EngineWorld χ) (step : Accepts accepted taskId w w') :
      Submits taskId false w w' true

/-- What is relied on of a provider that works for the task: it works on the
cloud only, and one call that starts a save is accepted at most once. -/
structure SavesOnce (taskId : ℕ) (provider : CloudDriveProvider (EngineWorld χ)) : Prop where
  reads : Reads (OnCloud fun c c' => accepted c' = accepted c) provider
  asks : Asks (OnCloud fun c c' => accepted c' = accepted c) provider.saving
  starts : StartsIn (Submits accepted taskId) false provider.saving

structure Behaves (engine : Engine χ δ) : Prop where
  tokens : Function.Injective engine.token
  providers (taskId : ℕ) (account : CloudAccount) (drive : Option String)
    (provider : CloudDriveProvider (EngineWorld χ)) :
    (engine.context taskId).runtimeProvider account drive = .ok provider →
      SavesOnce accepted taskId provider
  others (taskType : String) (version : ℕ) (handler : TaskHandler χ) :
    engine.others taskType version = some handler → ∀ probe invocation,
      Within (fun w w' => w' = w) probe → Within (Quiet accepted) (handler probe invocation)
  progress (i : δ) (c : χ) : accepted (engine.progress i c) = accepted c

/-! ## The modes of a cycle -/

inductive Mode where
  | fresh
  /-- It carries out the task and was handed no operation id. -/
  | armed (taskId : ℕ)
  | settled
  deriving DecidableEq, Repr

/-- The task is taken, and everybody else's locks are only given up. -/
structure Takes (token : String) (taskId : ℕ) (w w' : EngineWorld χ) : Prop where
  taken : lockOf w'.db taskId = some token
  others (other : ℕ) (t : String) : other ≠ taskId → lockOf w'.db other = some t →
    lockOf w.db other = some t
  saves : accepted w'.cloud = accepted w.cloud

def claimMode (db : Database) (taskId : ℕ) : Mode :=
  if operationOf db taskId = none then .armed taskId else .settled

/-- The mode of an execution before its save is accepted, and after. -/
def saveMode (taskId : ℕ) : Bool → Mode
  | false => .armed taskId
  | true => .settled

inductive Allowed (token : String) : Mode → EngineWorld χ → EngineWorld χ → Mode → Prop
  | quiet (s : Mode) (w w' : EngineWorld χ) (step : Quiet accepted w w') : Allowed token s w w' s
  | claim (taskId : ℕ) (w w' : EngineWorld χ) (step : Takes accepted token taskId w w') :
      Allowed token .fresh w w' (claimMode w.db taskId)
  | accept (taskId : ℕ) (w w' : EngineWorld χ) (step : Accepts accepted taskId w w') :
      Allowed token (.armed taskId) w w' .settled

variable {accepted}

theorem Quiet.refl (w : EngineWorld χ) : Quiet accepted w w := ⟨fun _ _ h => h, rfl⟩

/-- Rows that keep their lock or lose it. -/
theorem locks_of_rows {db db' : Database} (h : ∀ id task', db'.tasks.get? id = some task' →
    task'.lockToken = none ∨ ∃ task,
      db.tasks.get? id = some task ∧ task'.lockToken = task.lockToken)
    (taskId : ℕ) (token : String) (hlock : lockOf db' taskId = some token) :
    lockOf db taskId = some token := by
  obtain ⟨task', htask', htoken⟩ := Option.bind_eq_some_iff.mp hlock
  rcases h taskId task' htask' with hnone | ⟨task, htask, hsame⟩
  · rw [hnone] at htoken
    cases htoken
  · exact Option.bind_eq_some_iff.mpr ⟨task, htask, hsame ▸ htoken⟩

theorem Carries.locks {db db' : Database} (h : Carries db db') (taskId : ℕ) (token : String)
    (hlock : lockOf db' taskId = some token) : lockOf db taskId = some token := by
  refine locks_of_rows (fun id task' htask' => ?_) taskId token hlock
  obtain ⟨task, htask, hcarried⟩ := h.rows id task' htask'
  exact hcarried.lock.imp_right fun hsame => ⟨task, htask, hsame⟩

theorem Carries.operation {db db' : Database} (h : Carries db db') (taskId : ℕ) :
    operationOf db' taskId = operationOf db taskId := by
  unfold operationOf
  cases hget' : db'.tasks.get? taskId with
  | none =>
    cases hget : db.tasks.get? taskId with
    | none => rfl
    | some task =>
      obtain ⟨task', htask'⟩ := h.present taskId task hget
      rw [hget'] at htask'
      cases htask'
  | some task' =>
    obtain ⟨task, htask, hcarried⟩ := h.rows taskId task' hget'
    have hsame := congrArg Task.providerOperationId hcarried.same
    rw [htask]
    exact hsame

theorem Engined.quiet {w w' : EngineWorld χ} (h : Engined w w') : Quiet accepted w w' where
  locks := Carries.locks h.carries
  saves := by rw [h.only]

theorem created_quiet {w : EngineWorld χ} {new : NewTask} {id : ℕ} {db files : Database}
    (h : createTask w.db w.clock new = .ok (id, db)) (hfiles : files.tasks = db.tasks) :
    Quiet accepted w { w with db := files } where
  locks := by
    obtain ⟨-, -, rfl⟩ := createTask_ok h
    refine locks_of_rows fun id task' htask' => ?_
    rw [hfiles, Table.get?_insert] at htask'
    split_ifs at htask' with hnew
    · cases htask'
      exact .inl rfl
    · exact .inr ⟨task', htask', rfl⟩
  saves := rfl

theorem Written.locks {invocation : TaskInvocation} {db db' : Database}
    (h : Written invocation db db') (taskId : ℕ) (token : String)
    (hlock : lockOf db' taskId = some token) : lockOf db taskId = some token := by
  cases h with
  | same => exact hlock
  | file fileId mark named => exact hlock
  | credential accountId refreshToken => exact hlock
  | task task mark stored fits =>
    refine locks_of_rows (fun id task' htask' => .inr ?_) taskId token hlock
    unfold setTask at htask'
    rw [Table.get?_update, Option.map_eq_some_iff] at htask'
    obtain ⟨before, hbefore, rfl⟩ := htask'
    refine ⟨before, hbefore, ?_⟩
    split_ifs
    · cases mark <;> rfl
    · rfl

theorem Worked.quiet {invocation : TaskInvocation} {w w' : EngineWorld χ}
    (h : Worked (fun c c' => accepted c' = accepted c) invocation w w') : Quiet accepted w w' where
  locks := Written.locks h.written
  saves := h.cloud

theorem OnCloud.quiet {w w' : EngineWorld χ}
    (h : OnCloud (fun c c' => accepted c' = accepted c) w w') : Quiet accepted w w' where
  locks := by
    rw [h.only]
    exact fun _ _ hlock => hlock
  saves := h.cloud

theorem submits_allowed (token : String) (taskId : ℕ) (s : Bool) (w w' : EngineWorld χ) (s' : Bool)
    (h : Submits accepted taskId s w w' s') :
    Allowed accepted token (saveMode taskId s) w w' (saveMode taskId s') := by
  cases h with
  | other _ _ _ step => exact Allowed.quiet _ w w' (OnCloud.quiet step)
  | accept _ _ step => exact Allowed.accept taskId w w' step

/-- What the mode says of the execution that has claimed a task. -/
def Holds (claimed : ClaimedExecution) (s : Mode) : Prop :=
  claimed.invocation.providerOperationId = none → s = .armed claimed.invocation.taskId

theorem handedOut_allowed {runtime : WorkerRuntime} {now : Time} {token : String}
    {claimed : ClaimedExecution} {w : EngineWorld χ} {middle db' : Database}
    (hcarries : Carries w.db middle) (hout : HandedOut runtime now token claimed middle db') :
    ∃ s', Allowed accepted token .fresh w { w with db := db' } s' ∧ Holds claimed s' := by
  obtain ⟨task, runId, htask, -, hstored, hinvocation⟩ := hout.row
  refine ⟨claimMode w.db claimed.invocation.taskId,
    Allowed.claim _ _ _ ⟨?_, fun other t hother hlock => ?_, rfl⟩, fun hnone => ?_⟩
  · change (db'.tasks.get? _).bind _ = _
    rw [hstored]
    rfl
  · apply Carries.locks hcarries
    unfold lockOf at hlock ⊢
    rwa [hout.others other hother] at hlock
  · have hoperation : operationOf w.db claimed.invocation.taskId = none := by
      rw [← Carries.operation hcarries]
      unfold operationOf
      rw [htask]
      rw [hinvocation] at hnone
      exact hnone
    exact if_pos hoperation

/-- A cycle keeps to the modes, whatever it claims. -/
theorem cycle_follows {engine : Engine χ δ} (h : Behaves accepted engine) (job : Job) :
    Follows (Allowed accepted job.lockToken) (fun _ _ => True)
      (runOnce job engine.handlers engine.className) .fresh := by
  apply runOnce_follows (P := Holds)
  · exact fun s w w' hengined => Allowed.quiet s w w' (Engined.quiet hengined)
  · exact fun now w claimed middle db' hcarries hout => handedOut_allowed hcarries hout
  · intro claimed s handler hholds hresolved
    have hlooks : Within (fun w w' => w' = w)
        (cancellationRequested job claimed : EngineProg χ Bool) :=
      cancellationRequested_within (R := fun w w' => w' = w) (fun _ => rfl) job claimed
    unfold Engine.handlers at hresolved
    split at hresolved
    · cases hresolved
      have hallowed (s : Mode) (w w' : EngineWorld χ)
          (hworked : Worked (fun c c' => accepted c' = accepted c) claimed.invocation w w') :
          Allowed accepted job.lockToken s w w' s := Allowed.quiet s w w' (Worked.quiet hworked)
      have hprobe : Within (Worked (fun c c' => accepted c' = accepted c) claimed.invocation)
          (cancellationRequested job claimed : EngineProg χ Bool) := by
        apply hlooks.mono
        rintro w w' rfl
        exact ⟨.same, rfl, rfl, rfl⟩
      have hsame (c : χ) : accepted c = accepted c := rfl
      apply transferTaskHandler_follows hsame hallowed hprobe
      intro account drive provider hbuilt
      have hsaves := h.providers _ account drive provider hbuilt
      apply Works.of_starts hsame hallowed hprobe
      · exact Reads.mono hsaves.reads fun _ _ => Worked.of_onCloud
      · exact Asks.mono hsaves.asks fun _ _ => Worked.of_onCloud
      · intro hnone
        have hstarts := hsaves.starts
        rw [hholds hnone]
        cases hsaving : provider.saving with
        | direct saveSharedItem => trivial
        | resumable start query =>
          rw [hsaving] at hstarts
          intro share item target
          exact Follows.image (saveMode claimed.invocation.taskId) (hstarts share item target)
            (submits_allowed job.lockToken claimed.invocation.taskId)
    · apply Follows.within (h.others _ _ handler hresolved _ _ hlooks)
      · exact fun w w' hquiet => Allowed.quiet s w w' hquiet
      · exact fun _ => trivial

theorem retryFile_within (fileId : ℕ) :
    Within (Quiet accepted) (retryFile fileId : RetryProg χ ℕ) := by
  have hlook {α : Type} {view : EngineWorld χ → Except RetryError α} :
      Within (Quiet accepted) (Prog.look .interrupted view) := Within.look Quiet.refl
  unfold retryFile enqueueTransferRetry enqueueSuccessor
  apply Within.bind hlook
  intro file
  apply Within.bind hlook
  intro existing
  split
  · exact Within.pure _
  · apply Within.bind hlook
    intro predecessor
    apply Within.bind hlook
    intro subscription
    apply Within.effect
    intro w
    split
    · rename_i id db hcreated
      exact created_quiet hcreated rfl
    · exact Quiet.refl w

theorem program_follows {engine : Engine χ δ} (h : Behaves accepted engine) (k : ℕ)
    (job : EngineJob) : Follows (Allowed accepted (engine.token k)) (fun _ _ => True)
      (engine.program k job) .fresh := by
  cases job with
  | cycle runtime blocked durationMs =>
    apply Follows.bind (P := fun _ _ => True)
    · exact Follows.attempt (cycle_follows h (engine.cycle k runtime blocked durationMs))
    · exact fun _ _ _ => Follows.pure trivial
    · exact fun _ _ _ => trivial
  | retry fileId =>
    apply Follows.within (R := Quiet accepted)
    · exact Within.bind (retryFile_within fileId).attempt fun _ => Within.pure _
    · exact fun w w' hquiet => Allowed.quiet .fresh w w' hquiet
    · exact fun _ => trivial

/-! ## Runs -/

/-- Who acts, also if nobody learns of it. -/
def acting : Happening ℕ EngineJob (EngineMove δ) → Option ℕ
  | .act k => some k
  | .fault k true => some k
  | _ => none

variable (accepted)

/-- A task is claimed only while none of its saves has been accepted or the
operation id of the one that was is known, and a save is accepted only from the
execution that owns the task. -/
def Reconciled (engine : Engine χ δ) (w : EngineWorld χ)
    (happening : Happening ℕ EngineJob (EngineMove δ)) (w' : EngineWorld χ) : Prop :=
  ∀ k, acting happening = some k → ∀ taskId,
    (lockOf w.db taskId ≠ some (engine.token k) → lockOf w'.db taskId = some (engine.token k) →
      accepted w.cloud taskId = 0 ∨ operationOf w.db taskId ≠ none) ∧
    (accepted w.cloud taskId < accepted w'.cloud taskId →
      lockOf w.db taskId = some (engine.token k))

/-- Who may still save has not saved yet, as long as the task is its own. -/
structure SavedOnce (engine : Engine χ δ) (w : EngineWorld χ) (mode : ℕ → Mode) : Prop where
  once (taskId : ℕ) : accepted w.cloud taskId ≤ 1
  fresh (k : ℕ) : mode k = .fresh → ∀ taskId, lockOf w.db taskId ≠ some (engine.token k)
  armed (k taskId : ℕ) : mode k = .armed taskId → lockOf w.db taskId = some (engine.token k) →
    accepted w.cloud taskId = 0

variable {accepted} {engine : Engine χ δ} {w w' : EngineWorld χ} {mode : ℕ → Mode}

theorem SavedOnce.quiet (h : SavedOnce accepted engine w mode) (hquiet : Quiet accepted w w') :
    SavedOnce accepted engine w' mode where
  once taskId := by
    rw [hquiet.saves]
    exact h.once taskId
  fresh k hk taskId hlock := h.fresh k hk taskId (hquiet.locks taskId _ hlock)
  armed k taskId hk hlock := by
    rw [hquiet.saves]
    exact h.armed k taskId hk (hquiet.locks taskId _ hlock)

theorem SavedOnce.takes (hinjective : Function.Injective engine.token)
    (h : SavedOnce accepted engine w mode) {k taskId : ℕ}
    (htakes : Takes accepted (engine.token k) taskId w w')
    (hfree : operationOf w.db taskId = none → accepted w.cloud taskId = 0) :
    SavedOnce accepted engine w' (Function.update mode k (claimMode w.db taskId)) := by
  have hother {j other : ℕ} (hj : j ≠ k) (hlock : lockOf w'.db other = some (engine.token j)) :
      lockOf w.db other = some (engine.token j) := by
    by_cases hsame : other = taskId
    · rw [hsame, htakes.taken, Option.some.injEq] at hlock
      exact absurd (hinjective hlock).symm hj
    · exact htakes.others other _ hsame hlock
  constructor
  · intro other
    rw [htakes.saves]
    exact h.once other
  · intro j hj other hlock
    by_cases hjk : j = k
    · subst hjk
      rw [Function.update_self] at hj
      unfold claimMode at hj
      split_ifs at hj
    · rw [Function.update_of_ne hjk] at hj
      exact h.fresh j hj other (hother hjk hlock)
  · intro j other hj hlock
    rw [htakes.saves]
    by_cases hjk : j = k
    · subst hjk
      rw [Function.update_self] at hj
      unfold claimMode at hj
      split_ifs at hj with hoperation
      cases hj
      exact hfree hoperation
    · rw [Function.update_of_ne hjk] at hj
      exact h.armed j other hj (hother hjk hlock)

theorem SavedOnce.accepts (hinjective : Function.Injective engine.token)
    (h : SavedOnce accepted engine w mode) {k taskId : ℕ} (hmode : mode k = .armed taskId)
    (haccepts : Accepts accepted taskId w w')
    (howner : lockOf w.db taskId = some (engine.token k)) :
    SavedOnce accepted engine w' (Function.update mode k .settled) := by
  have hdb : w'.db = w.db := by rw [haccepts.only]
  have hbefore := h.armed k taskId hmode howner
  constructor
  · intro other
    rw [haccepts.saves]
    by_cases hsame : other = taskId
    · subst hsame
      rw [Function.update_self]
      omega
    · rw [Function.update_of_ne hsame]
      exact h.once other
  · intro j hj other
    by_cases hjk : j = k
    · subst hjk
      rw [Function.update_self] at hj
      cases hj
    · rw [Function.update_of_ne hjk] at hj
      rw [hdb]
      exact h.fresh j hj other
  · intro j other hj hlock
    by_cases hjk : j = k
    · subst hjk
      rw [Function.update_self] at hj
      cases hj
    · rw [Function.update_of_ne hjk] at hj
      rw [hdb] at hlock
      have hother : other ≠ taskId := by
        rintro rfl
        rw [howner, Option.some.injEq] at hlock
        exact hjk (hinjective hlock).symm
      rw [haccepts.saves, Function.update_of_ne hother]
      exact h.armed j other hj hlock

theorem SavedOnce.allowed (hinjective : Function.Injective engine.token)
    (h : SavedOnce accepted engine w mode) {k : ℕ} {s' : Mode}
    (hstep : Allowed accepted (engine.token k) (mode k) w w' s')
    (hreconciled : ∀ taskId,
      (lockOf w.db taskId ≠ some (engine.token k) → lockOf w'.db taskId = some (engine.token k) →
        accepted w.cloud taskId = 0 ∨ operationOf w.db taskId ≠ none) ∧
      (accepted w.cloud taskId < accepted w'.cloud taskId →
        lockOf w.db taskId = some (engine.token k))) :
    SavedOnce accepted engine w' (Function.update mode k s') := by
  generalize hs : mode k = s at hstep
  cases hstep with
  | quiet _ _ _ hquiet =>
    rw [← hs, Function.update_eq_self]
    exact h.quiet hquiet
  | claim taskId _ _ htakes =>
    apply h.takes hinjective htakes
    intro hoperation
    rcases (hreconciled taskId).1 (h.fresh k hs taskId) htakes.taken with hzero | hknown
    · exact hzero
    · exact absurd hoperation hknown
  | accept taskId _ _ haccepts =>
    apply h.accepts hinjective hs haccepts
    apply (hreconciled taskId).2
    rw [haccepts.saves, Function.update_self]
    exact Nat.lt_succ_self _

theorem move_quiet (h : Behaves accepted engine) (i : EngineMove δ) (w : EngineWorld χ) :
    Quiet accepted w (engine.move i w) := by
  cases i with
  | elapse time => exact ⟨fun _ _ hlock => hlock, rfl⟩
  | progress i => exact ⟨fun _ _ hlock => hlock, h.progress i w.cloud⟩
  | beat runtime claimed =>
    change Quiet accepted w (WorkerCycles.beat runtime claimed w)
    unfold WorkerCycles.beat
    split
    · rename_i db hbeat
      exact ⟨Carries.locks (heartbeat_carries hbeat), rfl⟩
    · exact ⟨fun _ _ hlock => hlock, rfl⟩
    · exact Quiet.refl w
  | transition taskId expected target details =>
    change Quiet accepted w (requestCancel taskId expected target details w)
    unfold requestCancel
    split
    · rename_i db htransition
      exact ⟨Carries.locks (transition_carries htransition), rfl⟩
    · exact Quiet.refl w
  | create new =>
    change Quiet accepted w (Engine.createTask new w)
    unfold Engine.createTask
    split
    · rename_i id db hcreated
      exact created_quiet hcreated rfl
    · exact Quiet.refl w

theorem SavedOnce.turn (hbehaves : Behaves accepted engine) (h : SavedOnce accepted engine w mode)
    {happening : Happening ℕ EngineJob (EngineMove δ)} {mode' : ℕ → Mode}
    (hreconciled : Reconciled accepted engine w happening w')
    (hturn : Turn engine.system (fun k => Allowed accepted (engine.token k)) w mode happening
      w' mode') :
    SavedOnce accepted engine w' mode' := by
  cases hturn with
  | rest => exact h
  | act k _ s' hstep => exact h.allowed hbehaves.tokens hstep (hreconciled k rfl)
  | late k _ s' hstep => exact h.allowed hbehaves.tokens hstep (hreconciled k rfl)
  | stop k => exact h
  | move i => exact h.quiet (move_quiet hbehaves i w)

/-- However cycles, retries and everything beside them interleave, stop and
fail: as long as every step is reconciled, no task is saved twice. -/
theorem saved_at_most_once (hbehaves : Behaves accepted engine)
    (hnew : ∀ k taskId, lockOf w.db taskId ≠ some (engine.token k))
    (hnone : ∀ taskId, accepted w.cloud taskId = 0)
    (happenings : List (Happening ℕ EngineJob (EngineMove δ)))
    (hreconciled : Pool.Along engine.system (fun pool happening =>
      Reconciled accepted engine pool.state happening (pool.step engine.system happening).state)
      happenings (Pool.initial w)) (taskId : ℕ) :
    accepted ((Pool.initial w).run engine.system happenings).state.cloud taskId ≤ 1 := by
  have hinitial : SavedOnce accepted engine w fun _ => .fresh :=
    ⟨fun id => by simp [hnone], fun k _ => hnew k, fun k id hk => by cases hk⟩
  obtain ⟨mode, hsaved, -⟩ := Tracked.run (program_follows hbehaves)
    (fun w mode happening w' mode' h hC hturn => h.turn hbehaves hC hturn) happenings
    (Tracked.initial _ _ w) hinitial hreconciled
  exact hsaved.once taskId

end Protocol

/-! ## A cloud drive that lists what it has accepted -/

def sampleShare : SubscriptionScan.ShareInfo := { shareKey := "share", name := "Show" }

/-- A save is accepted at once and is completed later than anybody asks. -/
def slowProvider (taskId : ℕ) : CloudDriveProvider (EngineWorld (List ℕ)) where
  resolveShare _ _ := pure sampleShare
  ensureFolder parent name := pure ⟨name, savedPath parent name⟩
  findTargetItem _ _ := pure none
  saving := .resumable
    (fun _ _ _ => Prog.effect databaseError fun w =>
      (.ok "operation", { w with cloud := taskId :: w.cloud }))
    (fun operationId => pure { operationId := operationId, completed := false })
  consumeRefreshTokenUpdate := pure none
  requestCount := pure none

def slowContext (taskId : ℕ) : HandlerContext (List ℕ) where
  tokenLoader account := .ok account.refreshToken
  runtimeProvider _ _ := .ok (slowProvider taskId)
  decryptSharePassword subscription := .ok subscription.sharePassword
  encrypt token := token
  lower text := text
  className _ := "Exception"

def slowEngine : Engine (List ℕ) Empty where
  token k := toString k
  context := slowContext
  others _ _ := none
  className _ := "Exception"
  progress i := i.elim

def listed (saves : List ℕ) (taskId : ℕ) : ℕ := saves.count taskId

def sampleAccount : CloudAccount where
  provider := "pikpak"
  name := "Drive"
  refreshToken := "token"

def sampleSubscription : Subscription where
  cloudAccountId := 1
  name := "Show"
  provider := "pikpak"
  shareUrl := "https://mypikpak.com/s/share"
  targetPath := "/Show"

def sampleFile : CloudFile where
  subscriptionId := 1
  remoteFileId := "remote"
  parentRemoteFileId := none
  filename := "episode.mkv"
  size := some 1
  contentHash := none
  fingerprint := "fingerprint"
  firstSeenAt := 0
  lastSeenAt := 0

def sampleTransfer : NewTask where
  accountId := some 1
  subscriptionId := some 1
  fileId := some 1
  type := "transfer"

/-- A transfer that has just been created. -/
def sampleStart : EngineWorld (List ℕ) where
  db := {
    accounts := Table.insert .empty sampleAccount
    subscriptions := Table.insert .empty sampleSubscription
    files := Table.insert .empty sampleFile
    tasks := Table.insert .empty (sampleTransfer.row 0) }
  clock := 0
  cloud := []

def sampleCycle : EngineJob := .cycle RetryAccounting.sampleRuntime false 0

def acts (k n : ℕ) : List (Happening ℕ EngineJob (EngineMove Empty)) := List.replicate n (.act k)

/-- A cycle that stops right after its save was accepted, another one that
recovers its lease, and a third one when the task is due again. -/
def stoppedRun : List (Happening ℕ EngineJob (EngineMove Empty)) :=
  (.start 0 sampleCycle :: acts 0 10) ++
    [.stop 0, .move (.elapse 61000000), .start 1 sampleCycle] ++ acts 1 2 ++
    [.move (.elapse 30000000), .start 2 sampleCycle] ++ acts 2 10

theorem slowProvider_savesOnce (taskId : ℕ) : SavesOnce listed taskId (slowProvider taskId) where
  reads := {
    resolveShare := fun _ _ => Within.pure _
    ensureFolder := fun _ _ => Within.pure _
    findTargetItem := fun _ _ => Within.pure _
    consumeRefreshTokenUpdate := Within.pure _
    requestCount := Within.pure _ }
  asks _ := Within.pure _
  starts _ _ _ := by
    have hcounts (w : EngineWorld (List ℕ)) :
        Accepts listed taskId w { w with cloud := taskId :: w.cloud } := by
      refine ⟨rfl, ?_⟩
      funext other
      by_cases hsame : other = taskId
      · rw [hsame, Function.update_self]
        exact List.count_cons_self
      · rw [Function.update_of_ne hsame]
        exact List.count_cons_of_ne (Ne.symm hsame)
    apply Follows.effect
    · trivial
    · exact fun w => ⟨true, .accept w _ (hcounts w), trivial⟩
    · exact fun w => ⟨true, .accept w _ (hcounts w), trivial⟩

theorem slowEngine_behaves : Behaves listed slowEngine where
  tokens _ _ h := Nat.repr_injective h
  providers taskId account drive provider hbuilt := by
    cases hbuilt
    exact slowProvider_savesOnce taskId
  others _ _ _ hresolved := by cases hresolved
  progress i := i.elim

theorem sampleStart_unlocked (taskId : ℕ) : lockOf sampleStart.db taskId = none := by
  unfold lockOf sampleStart
  dsimp only
  rw [Table.get?_insert]
  split_ifs
  · rfl
  · rfl

/-- A check of one happening: nothing has been saved yet or no lock is drawn,
and what is saved is saved by the owner. -/
def cautious (w w' : EngineWorld (List ℕ)) (k : ℕ) : Bool :=
  (w.cloud = [] || w'.db.tasks.rows.all fun row => lockOf w.db row.1 = row.2.lockToken) &&
    (w'.cloud = w.cloud || (w'.cloud = 1 :: w.cloud && lockOf w.db 1 = some (toString k)))

def allCautious : List (Happening ℕ EngineJob (EngineMove Empty)) →
    Pool ℕ (EngineWorld (List ℕ)) Unit JobEnd → Bool
  | [], _ => true
  | happening :: rest, pool =>
    let next := pool.step slowEngine.system happening
    ((acting happening).all fun k => cautious pool.state next.state k) && allCautious rest next

theorem reconciled_of_cautious {w w' : EngineWorld (List ℕ)}
    {happening : Happening ℕ EngineJob (EngineMove Empty)}
    (h : (acting happening).all fun k => cautious w w' k) :
    Reconciled listed slowEngine w happening w' := by
  intro k hk taskId
  rw [hk, Option.all_some] at h
  simp only [cautious, Bool.and_eq_true, Bool.or_eq_true, decide_eq_true_eq, List.all_eq_true] at h
  obtain ⟨hlocks, hsaves⟩ := h
  constructor
  · intro hbefore hafter
    rcases hlocks with hempty | hkept
    · exact .inl (by rw [hempty]; rfl)
    · obtain ⟨task, htask, htoken⟩ := Option.bind_eq_some_iff.mp hafter
      have hsame := hkept (taskId, task) (Table.mem_iff_get?.mpr htask)
      exact absurd (hsame.trans htoken) hbefore
  · intro hless
    rcases hsaves with hsame | ⟨hcons, howner⟩
    · rw [hsame] at hless
      exact absurd hless (lt_irrefl _)
    · by_cases htask : taskId = 1
      · rw [htask]
        exact howner
      · unfold listed at hless
        rw [hcons, List.count_cons_of_ne (Ne.symm htask)] at hless
        exact absurd hless (lt_irrefl _)

theorem along_of_allCautious (happenings : List (Happening ℕ EngineJob (EngineMove Empty)))
    {pool : Pool ℕ (EngineWorld (List ℕ)) Unit JobEnd} (h : allCautious happenings pool) :
    Pool.Along slowEngine.system (fun pool happening => Reconciled listed slowEngine pool.state
      happening (pool.step slowEngine.system happening).state) happenings pool := by
  induction happenings generalizing pool with
  | nil => trivial
  | cons happening rest ih =>
    unfold allCautious at h
    rw [Bool.and_eq_true] at h
    exact ⟨reconciled_of_cautious h.1, ih h.2⟩

/-- A cycle that saves and records the id of its save. -/
def savingRun : List (Happening ℕ EngineJob (EngineMove Empty)) := .start 0 sampleCycle :: acts 0 12

theorem savingRun_saves :
    listed ((Pool.initial sampleStart).run slowEngine.system savingRun).state.cloud 1 = 1 ∧
      listed ((Pool.initial sampleStart).run slowEngine.system savingRun).state.cloud 1 ≤ 1 := by
  constructor
  · decide +kernel
  · apply saved_at_most_once slowEngine_behaves
    · intro k taskId
      rw [sampleStart_unlocked]
      exact Option.some_ne_none _ |>.symm
    · exact fun _ => rfl
    · exact along_of_allCautious savingRun (by decide +kernel)

/-- The stopped cycle leaves a task that is saved again. -/
theorem saved_twice :
    Behaves listed slowEngine ∧
      listed ((Pool.initial sampleStart).run slowEngine.system stoppedRun).state.cloud 1 = 2 := by
  refine ⟨slowEngine_behaves, ?_⟩
  decide +kernel

end MediaSync.OneSave
