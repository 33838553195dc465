import MediaSync.OneSave

/-!
# Saves and what is known of them

A save is submitted after its intent has been committed to the task row, and
the row keeps it: whatever stops, lags or interleaves, a save that a provider
has accepted is never unknown to the database. How many saves a task may get is
decided where it is claimed: each claim that finds no operation id is good for
one more, and no other event is.
-/
namespace MediaSync.SaveEvidence
open FaultPrograms Interleavings RowTables TaskTables TaskRepository TaskWorker TransferOperation
open TransferHandler TransferWrites WorkerCycles TransferRetries TransferEngine ProgramModes OneSave

/-! ## Notes in the task row -/

/-- The row says that a save was intended or which operation it is. -/
def Noted (db : Database) (taskId : ℕ) : Prop :=
  ∃ task, db.tasks.get? taskId = some task ∧
    (task.providerWriteIntentAt.isSome ∨ task.providerOperationId.isSome)

section Notes
variable {χ δ : Type} {accepted : χ → ℕ → ℕ} {w w' : EngineWorld χ} {db db' : Database}

/-- Notes stay, and no save is accepted. -/
structure KeepsNotes (accepted : χ → ℕ → ℕ) (w w' : EngineWorld χ) : Prop where
  notes (taskId : ℕ) : Noted w.db taskId → Noted w'.db taskId
  saves : accepted w'.cloud = accepted w.cloud

theorem KeepsNotes.refl (w : EngineWorld χ) : KeepsNotes accepted w w := ⟨fun _ h => h, rfl⟩

/-- Rows that keep what they say of a save. -/
theorem noted_of_rows (h : ∀ id task, db.tasks.get? id = some task →
      ∃ task', db'.tasks.get? id = some task' ∧
        (task.providerWriteIntentAt.isSome → task'.providerWriteIntentAt.isSome) ∧
        (task.providerOperationId.isSome → task'.providerOperationId.isSome))
    (taskId : ℕ) (hnoted : Noted db taskId) : Noted db' taskId := by
  obtain ⟨task, htask, hknown⟩ := hnoted
  obtain ⟨task', htask', hintent, hoperation⟩ := h taskId task htask
  exact ⟨task', htask', hknown.imp hintent hoperation⟩

theorem Carries.noted (h : Carries db db') (taskId : ℕ) (hnoted : Noted db taskId) :
    Noted db' taskId := by
  refine noted_of_rows (fun id task htask => ?_) taskId hnoted
  obtain ⟨task', htask'⟩ := h.present id task htask
  obtain ⟨before, hbefore, hcarried⟩ := h.rows id task' htask'
  rw [htask] at hbefore
  cases hbefore
  have hintent := congrArg Task.providerWriteIntentAt hcarried.same
  have hoperation := congrArg Task.providerOperationId hcarried.same
  change task'.providerWriteIntentAt = task.providerWriteIntentAt at hintent
  change task'.providerOperationId = task.providerOperationId at hoperation
  exact ⟨task', htask', by rw [hintent]; exact fun h => h, by rw [hoperation]; exact fun h => h⟩

theorem created_noted {new : NewTask} {id : ℕ} {now : Time} {files : Database}
    (h : createTask db now new = .ok (id, db')) (hfiles : files.tasks = db'.tasks) (taskId : ℕ)
    (hnoted : Noted db taskId) : Noted files taskId := by
  obtain ⟨-, -, rfl⟩ := createTask_ok h
  obtain ⟨task, htask, hknown⟩ := hnoted
  refine ⟨task, ?_, hknown⟩
  rw [hfiles]
  exact Table.get?_insert_of_some htask

theorem Written.noted {invocation : TaskInvocation} (h : Written invocation db db') (taskId : ℕ)
    (hnoted : Noted db taskId) : Noted db' taskId := by
  cases h with
  | same => exact hnoted
  | file fileId mark named => exact hnoted
  | credential accountId refreshToken => exact hnoted
  | task task mark stored fits =>
    refine noted_of_rows (fun id row hrow => ?_) taskId hnoted
    refine ⟨_, (Table.get?_update ..).trans (congrArg _ hrow), ?_⟩
    dsimp only
    split_ifs
    · cases mark with
      | intent now => exact ⟨fun _ => rfl, fun h => h⟩
      | operation operationId now => exact ⟨fun h => h, fun _ => rfl⟩
      | success result now => exact ⟨fun h => h, fun h => h⟩
      | uncertain now => exact ⟨fun h => h, fun h => h⟩
    · exact ⟨fun h => h, fun h => h⟩

theorem Worked.keepsNotes {invocation : TaskInvocation}
    (h : Worked (fun c c' => accepted c' = accepted c) invocation w w') :
    KeepsNotes accepted w w' :=
  ⟨Written.noted h.written, h.cloud⟩

theorem Engined.keepsNotes (h : Engined w w') : KeepsNotes accepted w w' :=
  ⟨Carries.noted h.carries, by rw [h.only]⟩

theorem handedOut_keepsNotes {runtime : WorkerRuntime} {now : Time} {token : String}
    {claimed : ClaimedExecution} {middle : Database} (hcarries : Carries w.db middle)
    (hout : HandedOut runtime now token claimed middle db') :
    KeepsNotes accepted w { w with db := db' } := by
  refine ⟨fun taskId hnoted => ?_, rfl⟩
  refine noted_of_rows (fun id row hrow => ?_) taskId (Carries.noted hcarries taskId hnoted)
  by_cases hid : id = claimed.invocation.taskId
  · obtain ⟨task, runId, htask, -, hstored, -⟩ := hout.row
    subst hid
    rw [htask] at hrow
    cases hrow
    exact ⟨_, hstored, fun h => h, fun h => h⟩
  · exact ⟨row, (hout.others id hid).trans hrow, fun h => h, fun h => h⟩

/-- Once the intent is recorded the row says so. -/
theorem recordWriteIntent_noted {taskId : ℕ} {now : Time}
    (h : recordWriteIntent taskId now db = .ok db') : Noted db' taskId := by
  unfold recordWriteIntent at h
  obtain ⟨task, htask, h⟩ := bind_ok h
  have hstored := requireTransferTask_ok htask
  split at h
  · rename_i hknown
    cases h
    exact ⟨task, hstored, .inr hknown⟩
  · cases h
    refine ⟨_, (Table.get?_update ..).trans (congrArg _ hstored), .inl ?_⟩
    simp only [decide_true, ↓reduceIte, Option.isSome_some]

/-! ## Before and after the note -/

/-- One process: it has not noted anything yet, or it has for this task. -/
inductive Allowed (accepted : χ → ℕ → ℕ) :
    Option ℕ → EngineWorld χ → EngineWorld χ → Option ℕ → Prop
  | keep (s : Option ℕ) (w w' : EngineWorld χ) (step : KeepsNotes accepted w w') :
      Allowed accepted s w w' s
  | note (taskId : ℕ) (w w' : EngineWorld χ) (step : KeepsNotes accepted w w')
      (noted : Noted w'.db taskId) : Allowed accepted none w w' (some taskId)
  | save (taskId : ℕ) (w w' : EngineWorld χ) (only : w' = { w with cloud := w'.cloud })
      (others : ∀ other, other ≠ taskId → accepted w'.cloud other = accepted w.cloud other) :
      Allowed accepted (some taskId) w w' (some taskId)

/-- The request that starts a save for the task saves for no other one. -/
def SavesFor (accepted : χ → ℕ → ℕ) (taskId : ℕ) (c c' : χ) : Prop :=
  ∀ other, other ≠ taskId → accepted c' other = accepted c other

/-- What is relied on: providers work on the cloud only, and nothing but the
request that starts a save of a task is accepted as one. -/
structure Careful (accepted : χ → ℕ → ℕ) (engine : Engine χ δ) : Prop where
  providers (taskId : ℕ) (account : CloudAccount) (drive : Option String)
    (provider : CloudDriveProvider (EngineWorld χ)) :
    (engine.context taskId).runtimeProvider account drive = .ok provider →
      Reads (OnCloud fun c c' => accepted c' = accepted c) provider ∧
        Asks (OnCloud fun c c' => accepted c' = accepted c) provider.saving ∧
        Starts (OnCloud (SavesFor accepted taskId)) provider.saving
  others (taskType : String) (version : ℕ) (handler : TaskHandler χ) :
    engine.others taskType version = some handler → ∀ probe invocation,
      Within (fun w w' => w' = w) probe → Within (KeepsNotes accepted) (handler probe invocation)
  progress (i : δ) (c : χ) : accepted (engine.progress i c) = accepted c

/-- A save is submitted in the mode that its note leads to. -/
theorem submitSave_follows {invocation : TaskInvocation} {probe : EngineProg χ Bool}
    {request : EngineProg χ String}
    (hrecords : Records (Worked (fun c c' => accepted c' = accepted c) invocation)
      (callbacksOf probe invocation.taskId))
    (hrequest : Within (OnCloud (SavesFor accepted invocation.taskId)) request) :
    Follows (Allowed accepted) (fun _ _ => True)
      (submitSave (callbacksOf probe invocation.taskId) request) none := by
  have hworked (s : Option ℕ) (w w' : EngineWorld χ)
      (h : Worked (fun c c' => accepted c' = accepted c) invocation w w') :
      Allowed accepted s w w' s := .keep s w w' (Worked.keepsNotes h)
  unfold submitSave
  apply Follows.bind (P := fun r s => ∀ u, r = .ok u → s = some invocation.taskId)
  · -- the note is committed before the request is made
    have hkept (w : EngineWorld χ) (db : Database)
        (hdone : recordWriteIntent invocation.taskId w.clock w.db = .ok db) :
        KeepsNotes accepted w { w with db := db } :=
      ⟨Written.noted (recordWriteIntent_written hdone), rfl⟩
    change Follows (Allowed accepted) _ (update (recordWriteIntent invocation.taskId)) none
    apply update_follows
    · exact fun w => .keep none w w (KeepsNotes.refl w)
    · simp
    · intro w db hdone
      exact ⟨.keep none _ _ (hkept w db hdone), some invocation.taskId,
        .note _ _ _ (hkept w db hdone) (recordWriteIntent_noted hdone), fun _ _ => rfl⟩
  · intro u s hs
    rw [hs u rfl]
    apply Follows.bind (P := fun _ s => s = some invocation.taskId)
    · apply Follows.within (providerStep_within hrequest)
      · exact fun w w' h => .save invocation.taskId w w' h.only h.cloud
      · exact fun _ => rfl
    · intro operationId s _
      exact Follows.within (recordOperation_within hrecords operationId) (hworked s) fun _ =>
        trivial
    · exact fun _ _ _ => trivial
  · exact fun _ _ _ => trivial

variable {engine : Engine χ δ}

theorem cycle_follows (h : Careful accepted engine) (job : Job) :
    Follows (Allowed accepted) (fun _ _ => True)
      (runOnce job engine.handlers engine.className) none := by
  apply runOnce_follows (P := fun _ s => s = none)
  · exact fun s w w' hengined => .keep s w w' (Engined.keepsNotes hengined)
  · exact fun now w claimed middle db' hcarries hout =>
      ⟨none, .keep none _ _ (handedOut_keepsNotes hcarries hout), rfl⟩
  · rintro claimed s handler rfl hresolved
    have hlooks : Within (fun w w' => w' = w)
        (cancellationRequested job claimed : EngineProg χ Bool) :=
      cancellationRequested_within (R := fun w w' => w' = w) (fun _ => rfl) job claimed
    unfold Engine.handlers at hresolved
    split at hresolved
    · cases hresolved
      have hallowed (s : Option ℕ) (w w' : EngineWorld χ)
          (hworked : Worked (fun c c' => accepted c' = accepted c) claimed.invocation w w') :
          Allowed accepted s w w' s := .keep s w w' (Worked.keepsNotes hworked)
      have hprobe : Within (Worked (fun c c' => accepted c' = accepted c) claimed.invocation)
          (cancellationRequested job claimed : EngineProg χ Bool) := by
        apply hlooks.mono
        rintro w w' rfl
        exact ⟨.same, rfl, rfl, rfl⟩
      have hsame (c : χ) : accepted c = accepted c := rfl
      apply transferTaskHandler_follows hsame hallowed hprobe
      intro account drive provider hbuilt
      obtain ⟨hreads, hasks, hstarts⟩ := h.providers _ account drive provider hbuilt
      refine ⟨Reads.mono hreads fun _ _ => Worked.of_onCloud, Asks.mono hasks fun _ _ =>
        Worked.of_onCloud, fun _ => ?_⟩
      cases hsaving : provider.saving with
      | direct saveSharedItem => trivial
      | resumable start query =>
        rw [hsaving] at hstarts
        exact fun share item target =>
          submitSave_follows (callbacks_worked hsame hprobe) (hstarts share item target)
    · apply Follows.within (h.others _ _ handler hresolved _ _ hlooks)
      · exact fun w w' hkept => .keep none w w' hkept
      · exact fun _ => trivial

theorem retryFile_within (fileId : ℕ) :
    Within (KeepsNotes accepted) (retryFile fileId : RetryProg χ ℕ) := by
  have hlook {α : Type} {view : EngineWorld χ → Except RetryError α} :
      Within (KeepsNotes accepted) (Prog.look .interrupted view) := Within.look KeepsNotes.refl
  unfold retryFile enqueueTransferRetry enqueueSuccessor
  apply Within.bind hlook
  intro file
  apply Within.bind hlook
  intro existing
  split
  · exact Within.pure _
  · apply Within.bind hlook
    intro predecessor
    apply Within.bind hlook
    intro subscription
    apply Within.effect
    intro w
    split
    · rename_i id db hcreated
      exact ⟨created_noted hcreated rfl, rfl⟩
    · exact KeepsNotes.refl w

theorem program_follows (h : Careful accepted engine) (k : ℕ) (job : EngineJob) :
    Follows (Allowed accepted) (fun _ _ => True) (engine.program k job) none := by
  cases job with
  | cycle runtime blocked durationMs =>
    apply Follows.bind (P := fun _ _ => True)
    · exact Follows.attempt (cycle_follows h (engine.cycle k runtime blocked durationMs))
    · exact fun _ _ _ => Follows.pure trivial
    · exact fun _ _ _ => trivial
  | retry fileId =>
    apply Follows.within (R := KeepsNotes accepted)
    · exact Within.bind (retryFile_within fileId).attempt fun _ => Within.pure _
    · exact fun w w' hkept => .keep none w w' hkept
    · exact fun _ => trivial

theorem move_keepsNotes (h : Careful accepted engine) (i : EngineMove δ) (w : EngineWorld χ) :
    KeepsNotes accepted w (engine.move i w) := by
  cases i with
  | elapse time => exact ⟨fun _ hnoted => hnoted, rfl⟩
  | progress i => exact ⟨fun _ hnoted => hnoted, h.progress i w.cloud⟩
  | beat runtime claimed =>
    change KeepsNotes accepted w (WorkerCycles.beat runtime claimed w)
    unfold WorkerCycles.beat
    split
    · rename_i db hbeat
      exact ⟨Carries.noted (heartbeat_carries hbeat), rfl⟩
    · exact ⟨fun _ hnoted => hnoted, rfl⟩
    · exact KeepsNotes.refl w
  | transition taskId expected target details =>
    change KeepsNotes accepted w (requestCancel taskId expected target details w)
    unfold requestCancel
    split
    · rename_i db hmoved
      exact ⟨Carries.noted (transition_carries hmoved), rfl⟩
    · exact KeepsNotes.refl w
  | create new =>
    change KeepsNotes accepted w (Engine.createTask new w)
    unfold Engine.createTask
    split
    · rename_i id db hcreated
      exact ⟨created_noted hcreated rfl, rfl⟩
    · exact KeepsNotes.refl w

/-- Whoever may submit has noted it, and so has everybody whose save was
accepted since `start`. -/
structure Evident (accepted : χ → ℕ → ℕ) (start w : EngineWorld χ) (mode : ℕ → Option ℕ) :
    Prop where
  noted (k taskId : ℕ) : mode k = some taskId → Noted w.db taskId
  saved (taskId : ℕ) : accepted w.cloud taskId ≠ accepted start.cloud taskId → Noted w.db taskId

variable {start : EngineWorld χ} {mode : ℕ → Option ℕ}

theorem Evident.keep (h : Evident accepted start w mode) (hkept : KeepsNotes accepted w w') :
    Evident accepted start w' mode where
  noted k taskId hk := hkept.notes taskId (h.noted k taskId hk)
  saved taskId hsaved := by
    rw [hkept.saves] at hsaved
    exact hkept.notes taskId (h.saved taskId hsaved)

theorem Evident.allowed (h : Evident accepted start w mode) {k : ℕ} {s' : Option ℕ}
    (hstep : Allowed accepted (mode k) w w' s') :
    Evident accepted start w' (Function.update mode k s') := by
  generalize hs : mode k = s at hstep
  cases hstep with
  | keep _ _ _ hkept =>
    rw [← hs, Function.update_eq_self]
    exact h.keep hkept
  | note taskId _ _ hkept hnoted =>
    have hafter := h.keep hkept
    refine ⟨fun j other hj => ?_, hafter.saved⟩
    by_cases hjk : j = k
    · rw [hjk, Function.update_self, Option.some.injEq] at hj
      exact hj ▸ hnoted
    · rw [Function.update_of_ne hjk] at hj
      exact hafter.noted j other hj
  | save taskId _ _ honly hothers =>
    have hdb : w'.db = w.db := by rw [honly]
    rw [← hs, Function.update_eq_self]
    refine ⟨fun j other hj => hdb ▸ h.noted j other hj, fun other hsaved => ?_⟩
    rw [hdb]
    by_cases hother : other = taskId
    · exact hother ▸ h.noted k taskId hs
    · rw [hothers other hother] at hsaved
      exact h.saved other hsaved

theorem Evident.turn (hcareful : Careful accepted engine) (h : Evident accepted start w mode)
    {happening : Happening ℕ EngineJob (EngineMove δ)} {mode' : ℕ → Option ℕ}
    (hturn : Turn engine.system (fun _ => Allowed accepted) w mode happening w' mode') :
    Evident accepted start w' mode' := by
  cases hturn with
  | rest => exact h
  | act k _ s' hstep => exact h.allowed hstep
  | late k _ s' hstep => exact h.allowed hstep
  | stop k => exact h
  | move i => exact h.keep (move_keepsNotes hcareful i w)

/-- At every moment of every run: if a save of a task has been accepted, the
task row has an intent or an operation id. -/
theorem accepted_is_noted (hcareful : Careful accepted engine) (start : EngineWorld χ)
    (happenings : List (Happening ℕ EngineJob (EngineMove δ))) (taskId : ℕ)
    (hsaved : accepted ((Pool.initial start).run engine.system happenings).state.cloud taskId ≠
      accepted start.cloud taskId) :
    Noted ((Pool.initial start).run engine.system happenings).state.db taskId := by
  have hinitial : Evident accepted start start fun _ => none :=
    ⟨fun k id hk => (by cases hk), fun id hne => absurd rfl hne⟩
  obtain ⟨mode, hevident, -⟩ := Tracked.run (C := fun _ _ _ => True)
    (fun k job => program_follows hcareful k job)
    (fun w mode happening w' mode' h _ hturn => h.turn hcareful hturn) happenings
    (Tracked.initial _ _ start) hinitial (Pool.along_true _ _ _)
  exact hevident.saved taskId hsaved

/-! ## How many saves -/

/-- The task is handed to somebody while nothing is known of its save. -/
def unknownClaim (w w' : EngineWorld χ) (taskId : ℕ) : Bool :=
  operationOf w.db taskId = none && lockOf w'.db taskId ≠ none &&
    lockOf w'.db taskId ≠ lockOf w.db taskId

/-- The claims of a task, along a run, that find no operation id. -/
def unknownClaims (engine : Engine χ δ) (taskId : ℕ) :
    List (Happening ℕ EngineJob (EngineMove δ)) → Pool ℕ (EngineWorld χ) Unit JobEnd → ℕ
  | [], _ => 0
  | happening :: rest, pool =>
    let next := pool.step engine.system happening
    (if unknownClaim pool.state next.state taskId then 1 else 0) +
      unknownClaims engine taskId rest next

/-- Up to `n` saves of the task: those that were accepted, and those that an
execution may still submit. -/
structure Budgeted (accepted : χ → ℕ → ℕ) (engine : Engine χ δ) (taskId n : ℕ)
    (w : EngineWorld χ) (mode : ℕ → Mode) : Prop where
  fresh (k : ℕ) : mode k = .fresh → ∀ id, lockOf w.db id ≠ some (engine.token k)
  pending : ∃ armed : Finset ℕ, (∀ k, mode k = .armed taskId → k ∈ armed) ∧
    accepted w.cloud taskId + armed.card ≤ n

section Counts
variable {n taskId : ℕ} {mode : ℕ → Mode}

theorem Budgeted.mono (h : Budgeted accepted engine taskId n w mode) {m : ℕ} (hle : n ≤ m) :
    Budgeted accepted engine taskId m w mode := by
  obtain ⟨armed, hmem, hcard⟩ := h.pending
  exact ⟨h.fresh, armed, hmem, hcard.trans hle⟩

theorem Budgeted.quiet (h : Budgeted accepted engine taskId n w mode)
    (hquiet : Quiet accepted w w') : Budgeted accepted engine taskId n w' mode where
  fresh k hk id hlock := h.fresh k hk id (hquiet.locks id _ hlock)
  pending := by
    rw [hquiet.saves]
    exact h.pending

/-- One more execution is armed only where a claim found no operation id. -/
theorem Budgeted.takes (hinjective : Function.Injective engine.token)
    (h : Budgeted accepted engine taskId n w mode) {k id : ℕ} (hk : mode k = .fresh)
    (htakes : Takes accepted (engine.token k) id w w') :
    Budgeted accepted engine taskId (n + if unknownClaim w w' taskId then 1 else 0) w'
      (Function.update mode k (claimMode w.db id)) where
  fresh j hj other hlock := by
    by_cases hjk : j = k
    · rw [hjk, Function.update_self] at hj
      unfold claimMode at hj
      split_ifs at hj
    · rw [Function.update_of_ne hjk] at hj
      by_cases hother : other = id
      · rw [hother, htakes.taken, Option.some.injEq] at hlock
        exact hjk (hinjective hlock).symm
      · exact h.fresh j hj other (htakes.others other _ hother hlock)
  pending := by
    obtain ⟨armed, hmem, hcard⟩ := h.pending
    rw [htakes.saves]
    by_cases hclaimed : claimMode w.db id = .armed taskId
    · -- it is this task, it had no operation id, and the token is a new one
      have hunknown : operationOf w.db taskId = none ∧ id = taskId := by
        unfold claimMode at hclaimed
        split_ifs at hclaimed with hnone
        cases hclaimed
        exact ⟨hnone, rfl⟩
      obtain ⟨hnone, rfl⟩ := hunknown
      have hcounted : unknownClaim w w' id = true := by
        have hnew := h.fresh k hk id
        unfold unknownClaim
        rw [hnone, htakes.taken, Bool.and_eq_true, Bool.and_eq_true]
        exact ⟨⟨decide_eq_true rfl, decide_eq_true (Option.some_ne_none _)⟩,
          decide_eq_true (Ne.symm hnew)⟩
      refine ⟨insert k armed, fun j hj => ?_, ?_⟩
      · by_cases hjk : j = k
        · exact hjk ▸ Finset.mem_insert_self k armed
        · rw [Function.update_of_ne hjk] at hj
          exact Finset.mem_insert_of_mem (hmem j hj)
      · have hinsert := Finset.card_insert_le k armed
        rw [if_pos hcounted]
        omega
    · refine ⟨armed, fun j hj => ?_, hcard.trans (Nat.le_add_right _ _)⟩
      by_cases hjk : j = k
      · rw [hjk, Function.update_self] at hj
        exact absurd hj hclaimed
      · rw [Function.update_of_ne hjk] at hj
        exact hmem j hj

/-- An accepted save is one that its execution cannot submit again. -/
theorem Budgeted.accepts (h : Budgeted accepted engine taskId n w mode) {k id : ℕ}
    (hk : mode k = .armed id) (haccepts : Accepts accepted id w w') :
    Budgeted accepted engine taskId n w' (Function.update mode k .settled) where
  fresh j hj := by
    have hdb : w'.db = w.db := by rw [haccepts.only]
    by_cases hjk : j = k
    · rw [hjk, Function.update_self] at hj
      cases hj
    · rw [Function.update_of_ne hjk] at hj
      rw [hdb]
      exact h.fresh j hj
  pending := by
    obtain ⟨armed, hmem, hcard⟩ := h.pending
    have hothers (j : ℕ) (hj : Function.update mode k Mode.settled j = .armed taskId) :
        j ≠ k ∧ j ∈ armed := by
      by_cases hjk : j = k
      · rw [hjk, Function.update_self] at hj
        cases hj
      · rw [Function.update_of_ne hjk] at hj
        exact ⟨hjk, hmem j hj⟩
    rw [haccepts.saves]
    by_cases hid : taskId = id
    · subst hid
      refine ⟨armed.erase k, fun j hj => Finset.mem_erase.mpr (hothers j hj), ?_⟩
      have herase := Finset.card_erase_add_one (hmem k hk)
      rw [Function.update_self]
      omega
    · rw [Function.update_of_ne hid]
      exact ⟨armed, fun j hj => (hothers j hj).2, hcard⟩

theorem Budgeted.turn (hbehaves : Behaves accepted engine)
    (h : Budgeted accepted engine taskId n w mode)
    {happening : Happening ℕ EngineJob (EngineMove δ)} {mode' : ℕ → Mode}
    (hturn : Turn engine.system (fun k => OneSave.Allowed accepted (engine.token k)) w mode
      happening w' mode') :
    Budgeted accepted engine taskId (n + if unknownClaim w w' taskId then 1 else 0) w' mode' := by
  have hallowed (k : ℕ) (s' : Mode)
      (hstep : OneSave.Allowed accepted (engine.token k) (mode k) w w' s') :
      Budgeted accepted engine taskId (n + if unknownClaim w w' taskId then 1 else 0) w'
        (Function.update mode k s') := by
    generalize hs : mode k = s at hstep
    cases hstep with
    | quiet _ _ _ hquiet =>
      rw [← hs, Function.update_eq_self]
      exact (h.quiet hquiet).mono (Nat.le_add_right _ _)
    | claim id _ _ htakes => exact h.takes hbehaves.tokens hs htakes
    | accept id _ _ haccepts => exact (h.accepts hs haccepts).mono (Nat.le_add_right _ _)
  cases hturn with
  | rest => exact h.mono (Nat.le_add_right _ _)
  | act k _ s' hstep => exact hallowed k s' hstep
  | late k _ s' hstep => exact hallowed k s' hstep
  | stop k => exact h.mono (Nat.le_add_right _ _)
  | move i => exact (h.quiet (move_quiet hbehaves i w)).mono (Nat.le_add_right _ _)

theorem run_budgeted (hbehaves : Behaves accepted engine)
    (happenings : List (Happening ℕ EngineJob (EngineMove δ)))
    {pool : Pool ℕ (EngineWorld χ) Unit JobEnd}
    (htracked : Tracked (fun k => OneSave.Allowed accepted (engine.token k)) (fun _ => .fresh) pool
      mode)
    (h : Budgeted accepted engine taskId n pool.state mode) :
    ∃ mode, Budgeted accepted engine taskId (n + unknownClaims engine taskId happenings pool)
      (pool.run engine.system happenings).state mode := by
  induction happenings generalizing pool n mode with
  | nil => exact ⟨mode, h⟩
  | cons happening rest ih =>
    have hprogram (k : ℕ) (job : EngineJob) :
        Follows (OneSave.Allowed accepted (engine.token k)) (fun _ _ => True)
          (engine.system.program k job) .fresh := OneSave.program_follows hbehaves k job
    obtain ⟨mode', hturn, htracked'⟩ := htracked.step hprogram happening
    obtain ⟨final, hfinal⟩ := ih htracked' (h.turn hbehaves hturn)
    refine ⟨final, hfinal.mono (le_of_eq ?_)⟩
    rw [unknownClaims, Nat.add_assoc]

/-- In every run a task gets at most one save for each time it was claimed
without its operation id. -/
theorem saves_le_unknownClaims (hbehaves : Behaves accepted engine)
    (hnew : ∀ k id, lockOf start.db id ≠ some (engine.token k))
    (happenings : List (Happening ℕ EngineJob (EngineMove δ))) (taskId : ℕ) :
    accepted ((Pool.initial start).run engine.system happenings).state.cloud taskId ≤
      accepted start.cloud taskId + unknownClaims engine taskId happenings
        (Pool.initial start) := by
  have hinitial : Budgeted accepted engine taskId (accepted start.cloud taskId) start
      fun _ => .fresh :=
    ⟨fun k _ => hnew k, ∅, fun k hk => (by cases hk), le_of_eq (by simp)⟩
  obtain ⟨mode, hfinal⟩ := run_budgeted hbehaves happenings (Tracked.initial _ _ start) hinitial
  obtain ⟨armed, -, hcard⟩ := hfinal.pending
  exact (Nat.le_add_right _ _).trans hcard

end Counts

end Notes

/-! ## Samples -/

theorem slowEngine_careful : Careful listed slowEngine where
  providers taskId account drive provider hbuilt := by
    cases hbuilt
    have hsaves := slowProvider_savesOnce taskId
    refine ⟨hsaves.reads, hsaves.asks, fun _ _ _ => ?_⟩
    apply Within.effect
    refine fun w => ⟨rfl, fun other hother => ?_⟩
    exact List.count_cons_of_ne (Ne.symm hother)
  others _ _ _ hresolved := by cases hresolved
  progress i := i.elim

/-- The save of a worker that stopped right after it was accepted. -/
theorem savingRun_noted :
    Noted ((Pool.initial sampleStart).run slowEngine.system
      (.start 0 sampleCycle :: acts 0 10)).state.db 1 :=
  accepted_is_noted slowEngine_careful sampleStart (.start 0 sampleCycle :: acts 0 10) 1
    (by decide +kernel)

/-- The bound is reached: two claims without the id, and two saves. -/
theorem stoppedRun_saves :
    listed ((Pool.initial sampleStart).run slowEngine.system stoppedRun).state.cloud 1 ≤
        listed sampleStart.cloud 1 +
          unknownClaims slowEngine 1 stoppedRun (Pool.initial sampleStart) ∧
      unknownClaims slowEngine 1 stoppedRun (Pool.initial sampleStart) = 2 := by
  constructor
  · apply saves_le_unknownClaims slowEngine_behaves
    intro k id
    rw [sampleStart_unlocked]
    exact Option.some_ne_none _ |>.symm
  · decide +kernel

end MediaSync.SaveEvidence
