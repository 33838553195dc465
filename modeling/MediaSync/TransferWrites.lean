import MediaSync.Common.ProgramModes
import MediaSync.WorkerCycles

/-!
# What a transfer writes

Everything the transfer handler can do to the world, said once: it marks the
file row, notes what it knows of the save in the task row, replaces a rotated
credential, and leaves the cloud to its provider. A provider has no access to
the database.
-/
namespace MediaSync.TransferWrites
open FaultPrograms RowTables TaskTables TaskWorker SubscriptionScan ProviderOperations
open TransferOperation TransferHandler ProgramModes

/-! ## The parts of a transfer -/

section Parts
variable {σ : Type}

/-- Everything a provider does apart from saving. -/
structure Reads (R : σ → σ → Prop) (provider : CloudDriveProvider σ) : Prop where
  resolveShare (url : String) (password : Option String) :
    Within R (provider.resolveShare url password)
  ensureFolder (parent : FolderRef) (name : String) : Within R (provider.ensureFolder parent name)
  findTargetItem (target : FolderRef) (name : String) :
    Within R (provider.findTargetItem target name)
  consumeRefreshTokenUpdate : Within R provider.consumeRefreshTokenUpdate
  requestCount : Within R provider.requestCount

/-- What the caller of a transfer does on its way. -/
structure Records (R : σ → σ → Prop) (callbacks : Callbacks σ) : Prop where
  cancellationRequested : Within R callbacks.cancellationRequested
  recordWriteIntent : Within R callbacks.recordWriteIntent
  recordProviderOperation (operationId : String) :
    Within R (callbacks.recordProviderOperation operationId)

/-- A save that is a single request, and the question for a save under way. -/
def Asks (R : σ → σ → Prop) : Saving σ → Prop
  | .direct saveSharedItem => ∀ share item target, Within R (saveSharedItem share item target)
  | .resumable _ querySaveOperation => ∀ operationId, Within R (querySaveOperation operationId)

/-- The request that starts a save. -/
def Starts (R : σ → σ → Prop) : Saving σ → Prop
  | .direct _ => True
  | .resumable startSaveSharedItem _ =>
    ∀ share item target, Within R (startSaveSharedItem share item target)

variable {R : σ → σ → Prop} {provider : CloudDriveProvider σ} {spec : TransferSpec}
  {callbacks : Callbacks σ}

theorem Reads.mono {R' : σ → σ → Prop} (h : Reads R provider) (hR : ∀ w w', R w w' → R' w w') :
    Reads R' provider where
  resolveShare url password := (h.resolveShare url password).mono hR
  ensureFolder parent name := (h.ensureFolder parent name).mono hR
  findTargetItem target name := (h.findTargetItem target name).mono hR
  consumeRefreshTokenUpdate := h.consumeRefreshTokenUpdate.mono hR
  requestCount := h.requestCount.mono hR

theorem Asks.mono {R' : σ → σ → Prop} {saving : Saving σ} (h : Asks R saving)
    (hR : ∀ w w', R w w' → R' w w') : Asks R' saving := by
  cases saving with
  | direct saveSharedItem => exact fun share item target => (h share item target).mono hR
  | resumable start query => exact fun operationId => (h operationId).mono hR

theorem providerStep_within {α : Type} {stage : String} {request : Prog σ TransferError α}
    (h : Within R request) : Within R (providerStep stage request) :=
  h.handle fun _ => Within.throw _

theorem raiseIfCancelled_within (h : Records R callbacks) (text : String) :
    Within R (callbacks.raiseIfCancelled text) := by
  unfold Callbacks.raiseIfCancelled
  apply Within.bind h.cancellationRequested
  intro cancelled
  cases cancelled with
  | true => exact Within.throw _
  | false => exact Within.pure _

theorem ensurePartsOf_within {raiseIfCancelled : Prog σ TransferError Unit}
    {ensureFolder : FolderRef → String → Prog σ TransferError FolderRef}
    (hraise : Within R raiseIfCancelled)
    (hensure : ∀ parent name, Within R (ensureFolder parent name))
    (parts : List String) (target : FolderRef) :
    Within R (ensurePartsOf raiseIfCancelled ensureFolder parts target) := by
  induction parts generalizing target with
  | nil => exact Within.pure _
  | cons part parts ih =>
    unfold ensurePartsOf
    split
    · exact ih target
    · apply Within.bind hraise
      intro _
      exact Within.bind (hensure target part) fun next => ih next

theorem prepare_within (hreads : Reads R provider) (hrecords : Records R callbacks) :
    Within R (prepare provider spec callbacks) := by
  unfold prepare
  apply Within.bind (raiseIfCancelled_within hrecords _)
  intro _
  apply Within.bind (providerStep_within (hreads.resolveShare _ _))
  intro share
  apply Within.bind (providerStep_within ?_)
  · exact fun target => Within.pure _
  · exact ensurePartsOf_within (raiseIfCancelled_within hrecords _) hreads.ensureFolder _ _

theorem findExisting_within (hreads : Reads R provider) (target : FolderRef)
    (providerOperationId : Option String) :
    Within R (findExisting provider spec target providerOperationId) := by
  cases providerOperationId with
  | none => exact providerStep_within (hreads.findTargetItem target spec.filename)
  | some operationId => exact Within.pure _

theorem acceptExisting_within (target : FolderRef) (existing : RemoteItem) :
    Within R (acceptExisting provider spec target existing) := by
  unfold acceptExisting
  exact Within.bind (Within.ofExcept _) fun _ => Within.pure _

theorem finishSave_within {querySaveOperation : String → Prog σ TransferError SaveOperation}
    {operationId : String} (h : Within R (querySaveOperation operationId)) (target : FolderRef) :
    Within R (finishSave spec target querySaveOperation operationId) := by
  unfold finishSave
  apply Within.bind (providerStep_within h)
  intro operation
  split
  · exact Within.throw _
  · split
    · exact Within.pure _
    · exact Within.throw _

/-- What follows the request that has started a save. -/
theorem recordOperation_within (hrecords : Records R callbacks) (operationId : String) :
    Within R (do
      tryCatch (callbacks.recordProviderOperation operationId) fun _ =>
        throw (writeUncertain "cloud-drive operation was accepted but its ID was not persisted")
      pure operationId) := by
  apply Within.bind
  · exact (hrecords.recordProviderOperation operationId).handle fun _ => Within.throw _
  · exact fun _ => Within.pure _

/-! ### In modes

Only the request that starts a save may change the mode. -/

variable {S : Type} {allowed : S → σ → σ → S → Prop}

/-- The request that starts a save keeps to the protocol from `s` on. -/
def StartsIn (allowed : S → σ → σ → S → Prop) (s : S) : Saving σ → Prop
  | .direct _ => True
  | .resumable startSaveSharedItem _ => ∀ share item target,
    Follows allowed (fun _ _ => True) (startSaveSharedItem share item target) s

/-- Submitting a save keeps to the protocol from `s` on, with the notes before
and after the request. -/
def SubmitsIn (allowed : S → σ → σ → S → Prop) (callbacks : Callbacks σ) (s : S) : Saving σ → Prop
  | .direct _ => True
  | .resumable startSaveSharedItem _ => ∀ share item target,
    Follows allowed (fun _ _ => True)
      (submitSave callbacks (startSaveSharedItem share item target)) s

/-- Where the notes do not change the mode. -/
theorem StartsIn.submits {s : S} {saving : Saving σ} (h : StartsIn allowed s saving)
    (hallowed : ∀ s w w', R w w' → allowed s w w' s) (hrecords : Records R callbacks) :
    SubmitsIn allowed callbacks s saving := by
  cases saving with
  | direct saveSharedItem => trivial
  | resumable start query =>
    intro share item target
    apply Follows.after hrecords.recordWriteIntent (hallowed s)
    · intro _
      apply Follows.bind (P := fun _ _ => True)
      · apply Follows.handle (h share item target)
        · exact fun _ _ _ => trivial
        · exact fun _ _ _ => Follows.throw trivial
      · intro operationId s' _
        exact Follows.within (recordOperation_within hrecords operationId) (hallowed s') fun _ =>
          trivial
      · exact fun _ _ _ => trivial
    · exact fun _ => trivial

theorem saveItem_follows {s : S} (hallowed : ∀ s w w', R w w' → allowed s w w' s)
    (hasks : Asks R provider.saving) (providerOperationId : Option String)
    (hsubmits : providerOperationId = none → SubmitsIn allowed callbacks s provider.saving)
    (share : ShareInfo) (target : FolderRef) : Follows allowed (fun _ _ => True)
      (saveItem provider spec callbacks share target providerOperationId) s := by
  have hwithin {α : Type} {p : Prog σ TransferError α} (hp : Within R p) (s : S) :
      Follows allowed (fun _ _ => True) p s := Follows.within hp (hallowed s) fun _ => trivial
  unfold saveItem
  cases hsaving : provider.saving with
  | direct saveSharedItem =>
    rw [hsaving] at hasks
    apply hwithin
    exact Within.bind (providerStep_within (hasks share spec.source target)) fun _ => Within.pure _
  | resumable start query =>
    rw [hsaving] at hasks hsubmits
    apply Follows.bind (P := fun _ _ => True)
    · cases providerOperationId with
      | some operationId => exact Follows.pure trivial
      | none => exact hsubmits rfl share spec.source target
    · exact fun operationId s' _ => hwithin (finishSave_within (hasks operationId) target) s'
    · exact fun _ _ _ => trivial

theorem executeTransfer_follows {s : S} (hallowed : ∀ s w w', R w w' → allowed s w w' s)
    (hreads : Reads R provider) (hrecords : Records R callbacks) (hasks : Asks R provider.saving)
    (providerOperationId : Option String)
    (hsubmits : providerOperationId = none → SubmitsIn allowed callbacks s provider.saving) :
    Follows allowed (fun _ _ => True)
      (executeTransfer provider spec callbacks providerOperationId) s := by
  unfold executeTransfer
  apply Follows.after (prepare_within hreads hrecords) (hallowed s)
  · rintro ⟨share, target⟩
    apply Follows.after (findExisting_within hreads target providerOperationId) (hallowed s)
    · intro existing
      cases existing with
      | some existing =>
        exact Follows.within (acceptExisting_within target existing) (hallowed s) fun _ => trivial
      | none =>
        apply Follows.after (raiseIfCancelled_within hrecords _) (hallowed s)
        · exact fun _ => saveItem_follows hallowed hasks providerOperationId hsubmits share target
        · exact fun _ => trivial
    · exact fun _ => trivial
  · exact fun _ => trivial

end Parts

/-! ## Marks -/

inductive FileMark where
  | saving
  | saved (result : TransferOperationResult) (now : Time)
  | failed (disposition : FailureDisposition) (exhausted : Bool)
  | cancelled
  deriving DecidableEq, Repr

def FileMark.apply : FileMark → CloudFile → CloudFile
  | .saving => TransferHandler.saving
  | .saved result now => savedAs result now
  | .failed disposition exhausted => failedAs disposition exhausted
  | .cancelled => cancelledFile

/-- What a task row learns of its save. -/
inductive TaskMark where
  | intent (now : Time)
  | operation (operationId : String) (now : Time)
  | success (result : TransferOperationResult) (now : Time)
  | uncertain (now : Time)
  deriving DecidableEq, Repr

def TaskMark.apply : TaskMark → Task → Task
  | .intent now, task => { task with
      providerWriteIntentAt := some (task.providerWriteIntentAt.getD now)
      providerOperationStatus := some .intent
      updatedAt := now }
  | .operation operationId now, task => { task with
      providerOperationId := some operationId
      providerOperationStatus := some .pending
      updatedAt := now }
  | .success result now, task => { task with
      providerOperationStatus := some .succeeded
      providerResult := some (resultFields result)
      updatedAt := now }
  | .uncertain now, task => { task with
      providerOperationStatus := some .uncertain
      updatedAt := now }

/-- When a mark is made: an id is recorded over no other, success only with an
id, and what is unknown only without one. -/
def TaskMark.fits : TaskMark → Task → Prop
  | .intent _, task => task.providerOperationId = none
  | .operation operationId _, task => task.providerOperationId ∈ [none, some operationId]
  | .success _ _, task => task.providerOperationId ≠ none
  | .uncertain _, task => task.providerOperationId = none

/-- What one transaction of the handler does to the database. -/
inductive Written (invocation : TaskInvocation) (db : Database) : Database → Prop
  | same : Written invocation db db
  | file (fileId : ℕ) (mark : FileMark) (named : invocation.fileId = some fileId) :
      Written invocation db (setFile db fileId mark.apply)
  | task (task : Task) (mark : TaskMark) (stored : db.tasks.get? invocation.taskId = some task)
      (fits : mark.fits task) : Written invocation db (setTask db invocation.taskId mark.apply)
  | credential (accountId : ℕ) (refreshToken : String) :
      Written invocation db (setRefreshToken accountId refreshToken db)

variable {χ : Type}

/-- A provider works on the cloud only. -/
structure OnCloud (R : χ → χ → Prop) (w w' : EngineWorld χ) : Prop where
  only : w' = { w with cloud := w'.cloud }
  cloud : R w.cloud w'.cloud

/-- One effect of the handler. -/
structure Worked (R : χ → χ → Prop) (invocation : TaskInvocation) (w w' : EngineWorld χ) :
    Prop where
  written : Written invocation w.db w'.db
  clock : w'.clock = w.clock
  lost : w'.lost = w.lost
  cloud : R w.cloud w'.cloud

theorem Worked.of_onCloud {R : χ → χ → Prop} {invocation : TaskInvocation} {w w' : EngineWorld χ}
    (h : OnCloud R w w') : Worked R invocation w w' := by
  obtain ⟨honly, hcloud⟩ := h
  rw [honly]
  exact ⟨.same, rfl, rfl, hcloud⟩

/-! ## Transactions -/

section Transactions
variable {R : χ → χ → Prop} {invocation : TaskInvocation} {db db' : Database}

theorem update_worked (hR : ∀ c, R c c)
    {act : Time → Database → Except TransferError Database}
    (hact : ∀ now db db', act now db = .ok db' → Written invocation db db') :
    Within (Worked R invocation) (update act : EngineProg χ Unit) := by
  apply Within.effect
  intro w
  cases hdone : act w.clock w.db with
  | error e => simpa [hdone, Except.map] using (⟨.same, rfl, rfl, hR _⟩ : Worked R invocation w w)
  | ok db' =>
    simpa [hdone, Except.map] using
      (⟨hact _ _ _ hdone, rfl, rfl, hR _⟩ : Worked R invocation w { w with db := db' })

/-- A transaction in modes: what it commits decides the next mode. -/
theorem update_follows {S : Type} {allowed : S → EngineWorld χ → EngineWorld χ → S → Prop}
    {Q : Except TransferError Unit → S → Prop} {s : S}
    {act : Time → Database → Except TransferError Database}
    (hlook : ∀ w, allowed s w w s) (herror : ∀ e, Q (.error e) s)
    (hcommit : ∀ (w : EngineWorld χ) db, act w.clock w.db = .ok db →
      allowed s w { w with db := db } s ∧
        ∃ s', allowed s w { w with db := db } s' ∧ Q (.ok ()) s') :
    Follows allowed Q (update act) s := by
  apply Follows.effect (herror _)
  · intro w
    cases hdone : act w.clock w.db with
    | error e => exact ⟨s, by simpa [hdone, Except.map] using ⟨hlook w, herror e⟩⟩
    | ok db =>
      obtain ⟨-, s', hallowed, hQ⟩ := hcommit w db hdone
      exact ⟨s', by simpa [hdone, Except.map] using ⟨hallowed, hQ⟩⟩
  · intro w
    cases hdone : act w.clock w.db with
    | error e => exact ⟨s, by simpa [hdone, Except.map] using ⟨hlook w, herror _⟩⟩
    | ok db => exact ⟨s, by simpa [hdone, Except.map] using ⟨(hcommit w db hdone).1, herror _⟩⟩

theorem look_worked (hR : ∀ c, R c c) {α : Type} {failure : TransferError}
    {view : EngineWorld χ → Except TransferError α} :
    Within (Worked R invocation) (Prog.look failure view) :=
  Within.look fun _ => ⟨.same, rfl, rfl, hR _⟩

theorem changeFile_written {fileId : ℕ} (hfile : invocation.fileId = some fileId) (mark : FileMark)
    (h : changeFile fileId mark.apply db = .ok db') : Written invocation db db' := by
  unfold changeFile at h
  obtain ⟨file, -, h⟩ := bind_ok h
  cases h
  exact .file fileId mark hfile

theorem requireTransferTask_ok {taskId : ℕ} {task : Task}
    (h : requireTransferTask db taskId = .ok task) : db.tasks.get? taskId = some task := by
  unfold requireTransferTask at h
  split at h
  · cases h
  · cases h
    assumption

theorem recordWriteIntent_written {now : Time}
    (h : recordWriteIntent invocation.taskId now db = .ok db') : Written invocation db db' := by
  unfold recordWriteIntent at h
  obtain ⟨task, htask, h⟩ := bind_ok h
  split at h
  · cases h
    exact .same
  · rename_i hid
    cases h
    exact .task task (.intent now) (requireTransferTask_ok htask)
      (by simpa [TaskMark.fits] using hid)

theorem recordProviderOperation_written {operationId : String} {now : Time}
    (h : recordProviderOperation invocation.taskId operationId now db = .ok db') :
    Written invocation db db' := by
  unfold recordProviderOperation at h
  obtain ⟨task, htask, h⟩ := bind_ok h
  split at h
  · cases h
  · rename_i hid
    cases h
    exact .task task (.operation operationId now) (requireTransferTask_ok htask)
      (by simpa [TaskMark.fits] using not_not.mp hid)

theorem recordProviderSuccess_written {result : TransferOperationResult} {now : Time}
    (h : recordProviderSuccess invocation.taskId result now db = .ok db') :
    Written invocation db db' := by
  unfold recordProviderSuccess at h
  obtain ⟨task, htask, h⟩ := bind_ok h
  split at h
  · cases h
    exact .same
  · rename_i hid
    cases h
    exact .task task (.success result now) (requireTransferTask_ok htask)
      (by simpa [TaskMark.fits] using hid)

theorem recordProviderUncertain_written (now : Time) (db : Database) :
    Written invocation db (recordProviderUncertain invocation.taskId now db) := by
  unfold recordProviderUncertain
  split
  · exact .same
  · rename_i task htask
    split
    · rename_i hid
      exact .task task (.uncertain now) htask (by simpa [TaskMark.fits] using hid)
    · exact .same

end Transactions

/-! ## The handler -/

section Handler
variable {R : χ → χ → Prop} {context : HandlerContext χ} {invocation : TaskInvocation}
  {probe : EngineProg χ Bool} {provider : CloudDriveProvider (EngineWorld χ)}

theorem callbacks_worked (hR : ∀ c, R c c) (hprobe : Within (Worked R invocation) probe) :
    Records (Worked R invocation) (callbacksOf probe invocation.taskId) where
  cancellationRequested := hprobe
  recordWriteIntent := update_worked hR fun _ _ _ => recordWriteIntent_written
  recordProviderOperation _ := update_worked hR fun _ _ _ => recordProviderOperation_written

theorem persistProviderToken_worked (hR : ∀ c, R c c) (accountId : ℕ)
    (hreads : Reads (Worked R invocation) provider) :
    Within (Worked R invocation) (persistProviderToken context accountId provider) := by
  unfold persistProviderToken
  apply Within.bind (look_worked hR)
  intro account
  apply Within.bind hreads.consumeRefreshTokenUpdate
  intro rotated
  split
  · exact Within.pure _
  · apply update_worked hR
    intro now db db' h
    cases h
    exact .credential accountId _

theorem failFile_worked (hR : ∀ c, R c c) {fileId : ℕ} (hfile : invocation.fileId = some fileId)
    (disposition : FailureDisposition) :
    Within (Worked R invocation)
      (failFile invocation fileId disposition : EngineProg χ TaskOutcome) := by
  unfold failFile
  apply Within.bind
  · exact update_worked hR fun _ _ _ => changeFile_written hfile (.failed disposition _)
  · exact fun _ => Within.ofExcept _

theorem cancelFile_worked (hR : ∀ c, R c c) {fileId : ℕ} (hfile : invocation.fileId = some fileId)
    (outcome : TaskOutcome) :
    Within (Worked R invocation) (do
      update fun _ db => .ok (markCancelled fileId db)
      pure outcome : EngineProg χ TaskOutcome) := by
  apply Within.bind
  · apply update_worked hR
    intro now db db' h
    cases h
    exact .file fileId .cancelled hfile
  · exact fun _ => Within.pure _

theorem recordUncertain_worked (hR : ∀ c, R c c) (e : TransferError) :
    Within (Worked R invocation) (recordUncertain invocation.taskId e : EngineProg χ Unit) := by
  unfold recordUncertain
  split
  · apply update_worked hR
    intro now db db' h
    cases h
    exact recordProviderUncertain_written now db
  · exact Within.pure _

theorem settleSuccess_worked (hR : ∀ c, R c c) {source : TransferSource χ}
    (hfile : invocation.fileId = some source.fileId)
    (hreads : Reads (Worked R invocation) source.provider) (tokenPersisted : Bool)
    (result : TransferOperationResult) :
    Within (Worked R invocation)
      (settleSuccess invocation.taskId source tokenPersisted result) := by
  unfold settleSuccess
  apply Within.bind
  · apply Within.attempt
    apply Within.bind
    · exact update_worked hR fun _ _ _ => recordProviderSuccess_written
    · exact fun _ => update_worked hR fun now _ _ => changeFile_written hfile (.saved result now)
  · intro kept
    cases kept with
    | error e => exact Within.pure _
    | ok _ =>
      dsimp only
      split
      · exact Within.pure _
      · exact Within.bind hreads.requestCount fun _ => Within.pure _

theorem settleFailure_worked (hR : ∀ c, R c c) (hprobe : Within (Worked R invocation) probe)
    {fileId : ℕ} (hfile : invocation.fileId = some fileId) (tokenPersisted : Bool)
    (e : TransferError) : Within (Worked R invocation)
      (settleFailure context probe invocation fileId tokenPersisted e) := by
  unfold settleFailure
  apply Within.bind (recordUncertain_worked hR e)
  intro _
  apply Within.bind hprobe
  intro cancelled
  cases cancelled with
  | true => exact cancelFile_worked hR hfile _
  | false => exact failFile_worked hR hfile _

theorem settle_worked (hR : ∀ c, R c c) (hprobe : Within (Worked R invocation) probe)
    {source : TransferSource χ} (hfile : invocation.fileId = some source.fileId)
    (hreads : Reads (Worked R invocation) source.provider) (tokenPersisted : Bool)
    (result : Except TransferError TransferOperationResult) : Within (Worked R invocation)
      (settle context probe invocation source tokenPersisted result) := by
  unfold settle
  split
  · exact settleSuccess_worked hR hfile hreads tokenPersisted _
  · exact cancelFile_worked hR hfile _
  · exact settleFailure_worked hR hprobe hfile tokenPersisted _

theorem sourceFailed_worked (hR : ∀ c, R c c) {fileId : ℕ}
    (hfile : invocation.fileId = some fileId) (e : TransferError) :
    Within (Worked R invocation)
      (sourceFailed context invocation fileId e : EngineProg χ TaskOutcome) := by
  unfold sourceFailed
  split
  · exact Within.ofExcept _
  · exact failFile_worked hR hfile _

/-- The source of a payload names the file of the invocation. -/
theorem parse_fileId {payload : TransferPayload}
    (h : TransferPayload.parse invocation = .ok payload) :
    invocation.fileId = some payload.fileId := by
  unfold TransferPayload.parse at h
  split_ifs at h with htype hversion hextra
  · split at h <;> cases h
  · split at h
    · rename_i subscriptionId fileId hsubscription hfile
      cases h
      exact hfile
    · cases h

theorem loadSource_ok {payload : TransferPayload} {db : Database} {source : TransferSource χ}
    (h : loadSource context payload db = .ok source) : source.fileId = payload.fileId ∧
      ∃ account drive, context.runtimeProvider account drive = .ok source.provider := by
  unfold loadSource at h
  split at h
  · cases h
  split_ifs at h
  split at h
  · cases h
  split at h
  · cases h
  obtain ⟨token, -, h⟩ := bind_ok h
  obtain ⟨built, hbuilt, h⟩ := bind_ok h
  obtain ⟨password, -, h⟩ := bind_ok h
  cases h
  exact ⟨rfl, _, _, hbuilt⟩

/-- What a provider that the handler builds does to the world. -/
structure Works {S : Type} (R : χ → χ → Prop)
    (allowed : S → EngineWorld χ → EngineWorld χ → S → Prop) (probe : EngineProg χ Bool)
    (invocation : TaskInvocation) (s : S) (provider : CloudDriveProvider (EngineWorld χ)) :
    Prop where
  reads : Reads (Worked R invocation) provider
  asks : Asks (Worked R invocation) provider.saving
  submits : invocation.providerOperationId = none →
    SubmitsIn allowed (callbacksOf probe invocation.taskId) s provider.saving

variable {S : Type} {allowed : S → EngineWorld χ → EngineWorld χ → S → Prop}

/-- A provider of which nothing but the request that starts a save changes the mode. -/
theorem Works.of_starts (hR : ∀ c, R c c) {s : S}
    (hallowed : ∀ s w w', Worked R invocation w w' → allowed s w w' s)
    (hprobe : Within (Worked R invocation) probe) (hreads : Reads (Worked R invocation) provider)
    (hasks : Asks (Worked R invocation) provider.saving)
    (hstarts : invocation.providerOperationId = none → StartsIn allowed s provider.saving) :
    Works R allowed probe invocation s provider :=
  ⟨hreads, hasks, fun hnone => (hstarts hnone).submits hallowed (callbacks_worked hR hprobe)⟩

theorem transferSource_follows (hR : ∀ c, R c c) {s : S}
    (hallowed : ∀ s w w', Worked R invocation w w' → allowed s w w' s)
    (hprobe : Within (Worked R invocation) probe) {source : TransferSource χ}
    (hfile : invocation.fileId = some source.fileId)
    (hworks : Works R allowed probe invocation s source.provider) :
    Follows allowed (fun _ _ => True) (transferSource context probe invocation source) s := by
  unfold transferSource
  apply Follows.after (update_worked hR fun _ _ _ => changeFile_written hfile .saving) (hallowed s)
  · intro _
    apply Follows.bind (P := fun _ _ => True)
    · exact Follows.attempt (executeTransfer_follows hallowed hworks.reads
        (callbacks_worked hR hprobe) hworks.asks _ hworks.submits)
    · intro result s' _
      apply Follows.within (R := Worked R invocation) _ (hallowed s') fun _ => trivial
      apply Within.bind
      · exact (persistProviderToken_worked hR source.accountId hworks.reads).attempt
      · exact fun persisted => settle_worked hR hprobe hfile hworks.reads _ result
    · exact fun _ _ _ => trivial
  · exact fun _ => trivial

/-- The whole handler: every effect but the requests that start a save is one of
`Worked`. -/
theorem transferTaskHandler_follows (hR : ∀ c, R c c) {s : S}
    (hallowed : ∀ s w w', Worked R invocation w w' → allowed s w w' s)
    (hprobe : Within (Worked R invocation) probe)
    (hworks : ∀ account drive provider, context.runtimeProvider account drive = .ok provider →
      Works R allowed probe invocation s provider) :
    Follows allowed (fun _ _ => True) (transferTaskHandler context probe invocation) s := by
  have hwithin {p : EngineProg χ TaskOutcome} (hp : Within (Worked R invocation) p) (s : S) :
      Follows allowed (fun _ _ => True) p s := Follows.within hp (hallowed s) fun _ => trivial
  unfold transferTaskHandler
  split
  · exact Follows.pure trivial
  · rename_i payload hpayload
    have hfile := parse_fileId hpayload
    apply Follows.after hprobe (hallowed s)
    · intro cancelled
      cases cancelled with
      | true => exact hwithin (cancelFile_worked hR hfile _) s
      | false =>
        -- a source that answers was loaded with a provider of the context
        apply Follows.bind (P := fun r s' => s' = s ∧ ∀ source, r = .ok (.ok source) →
          source.fileId = payload.fileId ∧
            ∃ account drive, context.runtimeProvider account drive = .ok source.provider)
        · apply Follows.attempt
          have hlook (w : EngineWorld χ) : allowed s w w s :=
            hallowed s w w ⟨.same, rfl, rfl, hR _⟩
          apply Follows.effect
          · exact ⟨rfl, by simp⟩
          · intro w
            refine ⟨s, hlook w, rfl, fun source hsource => ?_⟩
            exact loadSource_ok (Except.ok.inj hsource)
          · exact fun w => ⟨s, hlook w, rfl, by simp⟩
        · rintro loaded s' ⟨rfl, hloaded⟩
          cases loaded with
          | error e => exact hwithin (sourceFailed_worked hR hfile e) s'
          | ok source =>
            obtain ⟨hsame, account, drive, hbuilt⟩ := hloaded source rfl
            rw [← hsame] at hfile
            exact transferSource_follows hR hallowed hprobe hfile (hworks account drive _ hbuilt)
        · exact fun _ _ _ => trivial
    · exact fun _ => trivial

end Handler

end MediaSync.TransferWrites
