import MediaSync.TaskWorker
import MediaSync.TransferOperation

/-!
# The transfer handler

The handler that carries out transfer tasks. Everything it writes, the file row,
what it knows of a save at the provider and a rotated credential, is written in
transactions of their own while the task runs. None of them looks at who owns
the task. Only the probe for a cancellation does, and raises if it is somebody
else.
-/
namespace MediaSync.TransferHandler
open FaultPrograms JsonValues RowTables TaskTables TaskRepository TaskWorker SubscriptionScan
open TransferOperation

/-! ## The world of an execution -/

/-- What executions share: the database, the clock, the cloud drives, and which
lock tokens have been refused a heartbeat. -/
structure EngineWorld (χ : Type) where
  db : Database
  clock : Time
  cloud : χ
  lost : List String := []

abbrev EngineProg (χ α : Type) := Prog (EngineWorld χ) TransferError α

/-- The exception of a database that is locked or gone. -/
def databaseError : TransferError :=
  .other (some (some "e3q8")) "(sqlite3.OperationalError) database is locked"

section Transactions
variable {χ α : Type}

/-- One transaction of a session of its own. -/
def transact (act : Time → Database → Except TransferError (α × Database)) : EngineProg χ α :=
  Prog.effect databaseError fun w =>
    match act w.clock w.db with
    | .ok (a, db) => (.ok a, { w with db := db })
    | .error e => (.error e, w)

/-- A transaction that answers nothing. -/
def update (act : Time → Database → Except TransferError Database) : EngineProg χ Unit :=
  transact fun now db => (act now db).map fun db => ((), db)

end Transactions

/-! ## Failures -/

inductive FailureStatus where
  | retry | failed | waitingCredential
  deriving DecidableEq, Repr

structure FailureDisposition where
  status : FailureStatus
  errorCode : Option String
  safeMessage : String
  blockedReason : Option String := none
  deriving DecidableEq, Repr

/-- `_CREDENTIAL_ERROR_MARKERS` -/
def credentialErrorMarkers : List String :=
  ["refresh token", "refreshtoken", "access token", "accesstoken", "invalid_grant",
    "token expired", "token is expired", "token invalid", "token is invalid", "unauthorized"]

/-- `needle in text` -/
def occursIn (needle text : String) : Bool := decide (needle.toList <:+: text.toList)

/-- The errors that name themselves in what is shown of them. -/
def speaksForItself (e : RequestError) : Bool :=
  match e.kind with
  | .aliyun _ | .pikpak | .pikpakCredential => true
  | .plain | .writeUncertain => false

def transferStages : List String :=
  ["resolve share", "prepare target directory", "check existing target file",
    "submit shared file copy", "check copy result", "copy shared file"]

/-- The two error classes whose code begins like this are shown as they are. -/
def ownCode (code : String) : Bool := "QUARK_".isPrefixOf code || "PAN123_".isPrefixOf code

def requestMessage (e : RequestError) : String :=
  let message :=
    if speaksForItself e || ownCode e.code then e.message
    else "cloud-drive request failed and can be retried"
  match e.kind, e.transferStage with
  | .aliyun _, some stage =>
    if stage ∈ transferStages then "Transfer step: " ++ stage ++ "; " ++ message else message
  | _, _ => message

section Classify
variable (lower : String → String)

/-- The error is about the credential of the account. -/
def credentialInvalid : TransferError → Bool
  | .value text => occursIn "credential" (lower text)
  | .request e =>
    (credentialErrorMarkers.any fun marker => occursIn marker (lower e.message)) ||
      match e.kind with
      | .aliyun invalid => invalid
      | .pikpakCredential => true
      | .plain | .pikpak | .writeUncertain => false
  | _ => false

def waitForCredential (e : TransferError) : FailureDisposition where
  status := .waitingCredential
  errorCode := some "CREDENTIAL_INVALID"
  safeMessage := match e with
    | .request e => if speaksForItself e then e.message
      else "cloud-drive credential is invalid or expired"
    | _ => "cloud-drive credential is invalid or expired"
  blockedReason := some "cloud-drive credential requires user action"

/-- `_classify_failure` -/
def classifyFailure (e : TransferError) : FailureDisposition :=
  match e with
  | .sourceNotFound _ => ⟨.failed, some "TRANSFER_SOURCE_NOT_FOUND",
      "transfer source file, subscription, or account was not found", none⟩
  | .notConfigured code _ => ⟨.failed, some code, "cloud-drive provider is not configured", none⟩
  | .capability code _ =>
    ⟨.failed, some code, "cloud-drive provider does not support this transfer", none⟩
  | .request request =>
    if credentialInvalid lower e then waitForCredential e
    else if request.kind = .writeUncertain then
      ⟨.failed, some request.code,
        "cloud-drive write result is uncertain and requires reconciliation", none⟩
    else ⟨.retry, some request.code, requestMessage request, none⟩
  | .provider code _ =>
    ⟨.failed, some code, "cloud-drive provider configuration is invalid", none⟩
  | .value _ =>
    if credentialInvalid lower e then waitForCredential e
    else ⟨.retry, some "TRANSFER_EXECUTION_FAILED",
      "cloud-drive transfer failed and can be retried", none⟩
  | .cancelled _ | .ownershipLost _ _ => ⟨.retry, some "TRANSFER_EXECUTION_FAILED",
      "cloud-drive transfer failed and can be retried", none⟩
  | .other code _ => ⟨.retry, code.getD (some "TRANSFER_EXECUTION_FAILED"),
      "cloud-drive transfer failed and can be retried", none⟩

/-- `_retry_exhausted` -/
def retryExhausted (task : TaskInvocation) (disposition : FailureDisposition) : Bool :=
  disposition.status = .retry && task.maxRetries ≤ task.retryCount

def withoutSuffix (text suffix : String) : String :=
  if suffix.toList <:+ text.toList then
    String.ofList (text.toList.take (text.toList.length - suffix.toList.length))
  else text

/-- `_failure_for_context` -/
def failureForContext (task : TaskInvocation) (e : TransferError) : FailureDisposition :=
  let disposition := classifyFailure lower e
  if retryExhausted task disposition then
    { disposition with
      safeMessage := withoutSuffix disposition.safeMessage " and can be retried" ++
        "; automatic retries exhausted" }
  else disposition

end Classify

/-! ## Outcomes -/

/-- An outcome that is built without a check that could fail. -/
def plainOutcome (status : TaskOutcomeStatus) (summary : String)
    (h : status = .success ∨ status = .failed ∨ status = .cancelled)
    (errorCode errorMessage : Option String := none)
    (metrics : Option (List (String × Json)) := none) : TaskOutcome where
  status := status
  summary := some summary
  errorCode := errorCode
  errorMessage := errorMessage
  metrics := metrics
  wellFormed := by rcases h with rfl | rfl | rfl <;> rfl

def cancelledOutcome (summary : String) : TaskOutcome :=
  plainOutcome .cancelled summary (.inr (.inr rfl))

def retryOutcome (summary errorCode errorMessage : String) : TaskOutcome where
  status := .retry
  summary := some summary
  errorCode := some errorCode
  errorMessage := some errorMessage
  wellFormed := rfl

/-- `TaskOutcome(...)` raises for fields that do not go together. -/
def buildOutcome (fields : OutcomeFields) : Except TransferError TaskOutcome :=
  if h : fields.wellFormed = true then .ok ⟨fields, h⟩
  else .error (.value "retry outcome requires error_code")

def FailureStatus.outcome : FailureStatus → TaskOutcomeStatus
  | .retry => .retry
  | .failed => .failed
  | .waitingCredential => .waitingCredential

/-- `_outcome_for_failure` -/
def outcomeForFailure (disposition : FailureDisposition) : Except TransferError TaskOutcome :=
  buildOutcome {
    status := disposition.status.outcome
    summary := some (if disposition.status = .waitingCredential then
      "Transfer is waiting for a valid cloud-drive credential" else disposition.safeMessage)
    errorCode := disposition.errorCode
    errorMessage := some disposition.safeMessage
    blockedReason :=
      if disposition.status = .waitingCredential then disposition.blockedReason else none }

/-! ## The payload and the source -/

structure TransferPayload where
  subscriptionId : ℕ
  fileId : ℕ
  deriving DecidableEq, Repr

/-- `TransferPayloadV1.parse` -/
def TransferPayload.parse (task : TaskInvocation) : Except String TransferPayload :=
  if task.taskType ≠ "transfer" then .error "transfer handler requires task type 'transfer'"
  else if task.payloadVersion ≠ 1 then
    .error ("unsupported transfer payload version " ++ toString task.payloadVersion)
  else match task.subscriptionId, task.fileId with
  | some subscriptionId, some fileId =>
    if task.payload ≠ [] then .error "transfer payload v1 does not accept extra fields"
    else .ok ⟨subscriptionId, fileId⟩
  | _, _ => .error "transfer payload v1 requires subscription_id and file_id"

/-- What the handler is built with, and what it takes from its libraries:
`str.lower` and the name of an exception's class. -/
structure HandlerContext (χ : Type) where
  tokenLoader : CloudAccount → Except TransferError String
  runtimeProvider : CloudAccount → Option String →
    Except TransferError (CloudDriveProvider (EngineWorld χ))
  decryptSharePassword : Subscription → Except TransferError (Option String)
  encrypt : String → String
  lower : String → String
  className : TransferError → String

structure TransferSource (χ : Type) where
  fileId : ℕ
  accountId : ℕ
  provider : CloudDriveProvider (EngineWorld χ)
  spec : TransferSpec

def specOf (subscription : Subscription) (sharePassword : Option String) (file : CloudFile) :
    TransferSpec where
  shareUrl := subscription.shareUrl
  sharePassword := sharePassword
  targetPath := subscription.targetPath
  remoteFileId := file.remoteFileId
  parentRemoteFileId := file.parentRemoteFileId
  filename := file.filename
  relativePath := file.relativePath
  itemType := file.itemType
  size := file.size
  contentHash := file.contentHash

/-- What a row that is missing behind a reference raises. -/
def missingAttribute : TransferError := .other none "'NoneType' object has no attribute"

/-- `_load_source` -/
def loadSource {χ : Type} (context : HandlerContext χ) (payload : TransferPayload)
    (db : Database) : Except TransferError (TransferSource χ) := do
  match db.files.get? payload.fileId with
  | none => .error (.sourceNotFound "transfer source file or subscription was not found")
  | some file =>
    if file.subscriptionId ≠ payload.subscriptionId then
      .error (.sourceNotFound "transfer source file or subscription was not found")
    else match db.subscriptions.get? file.subscriptionId with
    | none => .error missingAttribute
    | some subscription =>
      match db.accounts.get? subscription.cloudAccountId with
      | none => .error missingAttribute
      | some account => do
        let _ ← context.tokenLoader account
        let provider ← context.runtimeProvider account subscription.targetDriveId
        let sharePassword ← context.decryptSharePassword subscription
        return ⟨payload.fileId, subscription.cloudAccountId, provider,
          specOf subscription sharePassword file⟩

/-! ## What is written -/

def requireFile (db : Database) (fileId : ℕ) : Except TransferError CloudFile :=
  match db.files.get? fileId with
  | none => .error (.sourceNotFound "transfer source file was not found")
  | some file => .ok file

/-- A file row that must be there is changed. -/
def changeFile (fileId : ℕ) (f : CloudFile → CloudFile) (db : Database) :
    Except TransferError Database := do
  let _ ← requireFile db fileId
  return setFile db fileId f

def setTask (db : Database) (taskId : ℕ) (f : Task → Task) : Database :=
  { db with tasks := db.tasks.update (fun id _ => id = taskId) fun _ => f }

def requireTransferTask (db : Database) (taskId : ℕ) : Except TransferError Task :=
  match db.tasks.get? taskId with
  | none => .error (.sourceNotFound "transfer task was not found")
  | some task => .ok task

def saving (file : CloudFile) : CloudFile := { file with status := "saving", lastError := none }

/-- `_mark_saving` -/
def markSaving (fileId : ℕ) (db : Database) : Except TransferError Database :=
  changeFile fileId saving db

/-- `_record_write_intent` -/
def recordWriteIntent (taskId : ℕ) (now : Time) (db : Database) :
    Except TransferError Database := do
  let task ← requireTransferTask db taskId
  if task.providerOperationId.isSome then return db
  else return setTask db taskId fun task => { task with
    providerWriteIntentAt := some (task.providerWriteIntentAt.getD now)
    providerOperationStatus := some .intent
    updatedAt := now }

/-- `_record_provider_operation` -/
def recordProviderOperation (taskId : ℕ) (operationId : String) (now : Time) (db : Database) :
    Except TransferError Database := do
  let task ← requireTransferTask db taskId
  if ¬(task.providerOperationId = none ∨ task.providerOperationId = some operationId) then
    .error (.other none "transfer task already has another provider operation")
  else return setTask db taskId fun task => { task with
    providerOperationId := some operationId
    providerOperationStatus := some .pending
    updatedAt := now }

def resultFields (result : TransferOperationResult) : List (String × Json) :=
  [("target_file_id", .str result.targetFileId), ("target_path", .str result.targetPath)]

/-- `_record_provider_success` -/
def recordProviderSuccess (taskId : ℕ) (result : TransferOperationResult) (now : Time)
    (db : Database) : Except TransferError Database := do
  let task ← requireTransferTask db taskId
  if task.providerOperationId.isNone then return db
  else return setTask db taskId fun task => { task with
    providerOperationStatus := some .succeeded
    providerResult := some (resultFields result)
    updatedAt := now }

/-- `_record_provider_uncertain` -/
def recordProviderUncertain (taskId : ℕ) (now : Time) (db : Database) : Database :=
  match db.tasks.get? taskId with
  | none => db
  | some task =>
    if task.providerOperationId.isNone then
      setTask db taskId fun task => { task with
        providerOperationStatus := some .uncertain
        updatedAt := now }
    else db

def savedAs (result : TransferOperationResult) (now : Time) (file : CloudFile) : CloudFile :=
  { file with
    status := "saved"
    targetFileId := some result.targetFileId
    targetPath := some result.targetPath
    savedAt := some now
    lastError := none }

/-- `_mark_success` -/
def markSuccess (fileId : ℕ) (result : TransferOperationResult) (now : Time) (db : Database) :
    Except TransferError Database := changeFile fileId (savedAs result now) db

def failedAs (disposition : FailureDisposition) (exhausted : Bool) (file : CloudFile) : CloudFile :=
  { file with
    status := if disposition.status = .failed ∨ exhausted then "failed" else "pending"
    lastError := some disposition.safeMessage }

/-- `_mark_failure` -/
def markFailure (fileId : ℕ) (disposition : FailureDisposition) (exhausted : Bool)
    (db : Database) : Except TransferError Database :=
  changeFile fileId (failedAs disposition exhausted) db

def cancelledFile (file : CloudFile) : CloudFile :=
  { file with status := "pending", lastError := some "transfer cancelled" }

/-- `_mark_cancelled`; a file that is gone needs no mark. -/
def markCancelled (fileId : ℕ) (db : Database) : Database := setFile db fileId cancelledFile

def requireAccount (db : Database) (accountId : ℕ) : Except TransferError CloudAccount :=
  match db.accounts.get? accountId with
  | none => .error (.sourceNotFound "transfer cloud account was not found")
  | some account => .ok account

def setRefreshToken (accountId : ℕ) (refreshToken : String) (db : Database) : Database :=
  { db with
    accounts := db.accounts.update (fun id _ => id = accountId) fun _ account =>
      { account with refreshToken := refreshToken } }

section Handler
variable {χ : Type} (context : HandlerContext χ)

/-- `_persist_provider_token`; a provider hands out a rotated token once. -/
def persistProviderToken (accountId : ℕ) (provider : CloudDriveProvider (EngineWorld χ)) :
    EngineProg χ Unit := do
  let _ ← Prog.look databaseError fun w => requireAccount w.db accountId
  let rotated ← provider.consumeRefreshTokenUpdate
  match rotated.filter (· ≠ "") with
  | none => pure ()
  | some token => update fun _ db => .ok (setRefreshToken accountId (context.encrypt token) db)

/-! ## The handler -/

def callbacksOf (probe : EngineProg χ Bool) (taskId : ℕ) : Callbacks (EngineWorld χ) where
  cancellationRequested := probe
  recordWriteIntent := update (recordWriteIntent taskId)
  recordProviderOperation operationId := update (recordProviderOperation taskId operationId)

def successOutcome (provider : CloudDriveProvider (EngineWorld χ))
    (result : TransferOperationResult) : EngineProg χ TaskOutcome := do
  let requestCount ← provider.requestCount
  pure (plainOutcome .success ("Transferred to " ++ result.targetPath) (.inl rfl) none none
    (some (("already_existed", .bool result.alreadyExisted) ::
      (requestCount.map fun count => ("provider_request_count", Json.int count)).toList)))

/-- A transfer that has returned: its result is kept, then its credential. -/
def settleSuccess (taskId : ℕ) (source : TransferSource χ) (tokenPersisted : Bool)
    (result : TransferOperationResult) : EngineProg χ TaskOutcome := do
  let kept ← Prog.attempt (do
    update (recordProviderSuccess taskId result)
    update (markSuccess source.fileId result) : EngineProg χ Unit)
  match kept with
  | .error _ => pure (retryOutcome "Remote transfer succeeded but local state was not persisted"
      "TRANSFER_STATE_PERSIST_FAILED" "local transfer state persistence failed")
  | .ok _ =>
    if !tokenPersisted then
      pure (retryOutcome "Remote transfer succeeded but rotated credential was not persisted"
        "CREDENTIAL_PERSIST_FAILED" "rotated provider credential persistence failed")
    else successOutcome source.provider result

def credentialNotPersisted : FailureDisposition :=
  ⟨.retry, some "CREDENTIAL_PERSIST_FAILED", "rotated provider credential persistence failed", none⟩

/-- The file is marked with a failure, and the outcome says the same. -/
def failFile (task : TaskInvocation) (fileId : ℕ) (disposition : FailureDisposition) :
    EngineProg χ TaskOutcome := do
  update fun _ => markFailure fileId disposition (retryExhausted task disposition)
  Prog.ofExcept (outcomeForFailure disposition)

/-- A write whose result is unknown is recorded as such. -/
def recordUncertain (taskId : ℕ) (e : TransferError) : EngineProg χ Unit :=
  if e.isWriteUncertain then update fun now db => .ok (recordProviderUncertain taskId now db)
  else pure ()

/-- A transfer that has raised. -/
def settleFailure (probe : EngineProg χ Bool) (task : TaskInvocation) (fileId : ℕ)
    (tokenPersisted : Bool) (e : TransferError) : EngineProg χ TaskOutcome := do
  recordUncertain task.taskId e
  let disposition :=
    if tokenPersisted then failureForContext context.lower task e else credentialNotPersisted
  if ← probe then do
    update fun _ db => .ok (markCancelled fileId db)
    pure (cancelledOutcome "Transfer cancelled after a failed provider operation")
  else failFile task fileId disposition

/-- What becomes of the result of a transfer. -/
def settle (probe : EngineProg χ Bool) (task : TaskInvocation) (source : TransferSource χ)
    (tokenPersisted : Bool) :
    Except TransferError TransferOperationResult → EngineProg χ TaskOutcome
  | .ok result => settleSuccess task.taskId source tokenPersisted result
  | .error (.cancelled _) => do
    update fun _ db => .ok (markCancelled source.fileId db)
    pure (cancelledOutcome "Transfer cancelled before remote save")
  | .error e => settleFailure context probe task source.fileId tokenPersisted e

/-- The transfer itself, once its source is loaded. -/
def transferSource (probe : EngineProg χ Bool) (task : TaskInvocation)
    (source : TransferSource χ) : EngineProg χ TaskOutcome := do
  update fun _ => markSaving source.fileId
  let result ← Prog.attempt (executeTransfer source.provider source.spec
    (callbacksOf probe task.taskId) task.providerOperationId)
  let persisted ← Prog.attempt (persistProviderToken context source.accountId source.provider)
  settle context probe task source persisted.isOk result

/-- A source that could not be loaded. -/
def sourceFailed (task : TaskInvocation) (fileId : ℕ) (e : TransferError) :
    EngineProg χ TaskOutcome :=
  let disposition := failureForContext context.lower task e
  match e with
  | .sourceNotFound _ => Prog.ofExcept (outcomeForFailure disposition)
  | _ => failFile task fileId disposition

/-- `TransferTaskHandler.__call__` -/
def transferTaskHandler (probe : EngineProg χ Bool) (task : TaskInvocation) :
    EngineProg χ TaskOutcome :=
  match TransferPayload.parse task with
  | .error text => pure (plainOutcome .failed "Transfer payload validation failed" (.inr (.inl rfl))
      (some "INVALID_TRANSFER_PAYLOAD") (some text))
  | .ok payload => do
    if ← probe then do
      update fun _ db => .ok (markCancelled payload.fileId db)
      pure (cancelledOutcome "Transfer cancelled before execution")
    else
      let loaded ← Prog.attempt (Prog.look databaseError fun w =>
        loadSource context payload w.db : EngineProg χ (TransferSource χ))
      match loaded with
      | .error e => sourceFailed context task payload.fileId e
      | .ok source => transferSource context probe task source

end Handler

end MediaSync.TransferHandler
