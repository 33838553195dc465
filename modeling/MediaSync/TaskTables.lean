import MediaSync.Common.JsonValues
import MediaSync.Common.RowTables

/-!
# The rows behind subscriptions, files and tasks

The columns of the tables that scanning and task execution share, with the
defaults of the source's models. Primary keys are the keys of the tables and
not columns. A moment is a number of microseconds; the database stores every
moment in UTC, so stored and passed moments compare as numbers.

The last part is what the schema itself enforces on a new task: the unique
idempotency key and the references to rows that exist.
-/
namespace MediaSync.TaskTables
open JsonValues RowTables

abbrev Time := ℤ

inductive TaskStatus where
  | pending | running | retry | waitingCredential | cancelRequested
  | success | failed | cancelled
  deriving DecidableEq, Repr

inductive TaskRunStatus where
  | running | success | failed | blocked | lost | cancelled
  deriving DecidableEq, Repr

inductive ProviderOperationStatus where
  | intent | pending | succeeded | uncertain
  deriving DecidableEq, Repr

/-- `TERMINAL_TASK_STATUSES` -/
def TaskStatus.terminal : TaskStatus → Bool
  | .success | .failed | .cancelled => true
  | _ => false

/-- `TERMINAL_TASK_RUN_STATUSES` -/
def TaskRunStatus.terminal : TaskRunStatus → Bool
  | .running => false
  | _ => true

/-- `ALLOWED_TASK_TRANSITIONS` -/
def canTransition : TaskStatus → TaskStatus → Bool
  | .pending, target => target ∈ [.running, .cancelled]
  | .running, target =>
    target ∈ [.pending, .success, .failed, .retry, .waitingCredential, .cancelRequested]
  | .retry, target => target ∈ [.running, .cancelled]
  | .waitingCredential, target => target ∈ [.pending, .cancelled]
  | .cancelRequested, target => target ∈ [.cancelRequested, .cancelled, .success]
  | .success, _ | .failed, _ | .cancelled, _ => false

theorem not_canTransition_of_terminal {source target : TaskStatus} (h : source.terminal) :
    canTransition source target = false := by
  cases source <;> first | rfl | exact absurd h (by decide)

structure CloudAccount where
  provider : String
  name : String
  refreshToken : String
  defaultDriveId : Option String := none
  status : String := "active"
  lastVerifiedAt : Option Time := none
  lastError : Option String := none
  deriving DecidableEq, Repr

structure Subscription where
  cloudAccountId : ℕ
  name : String
  provider : String
  shareUrl : String
  shareKey : Option String := none
  sharePassword : Option String := none
  sourceFolderId : Option String := some "root"
  targetPath : String
  targetDriveId : Option String := none
  targetDriveType : Option String := none
  targetFolderId : Option String := none
  schedule : String := "interval:30m"
  enabled : Bool := true
  status : String := "pending"
  initialSyncMode : String := "all"
  lastScannedAt : Option Time := none
  lastFullScannedAt : Option Time := none
  nextScanAt : Option Time := none
  lastError : Option String := none
  deriving DecidableEq, Repr

structure CloudFile where
  subscriptionId : ℕ
  remoteFileId : String
  parentRemoteFileId : Option String
  filename : String
  relativePath : String := ""
  itemType : String := "file"
  size : Option ℤ
  contentHash : Option String
  fingerprint : String
  status : String := "discovered"
  targetFileId : Option String := none
  targetPath : Option String := none
  firstSeenAt : Time
  lastSeenAt : Time
  savedAt : Option Time := none
  lastError : Option String := none
  deriving DecidableEq, Repr

structure FolderCheckpoint where
  subscriptionId : ℕ
  remoteFolderId : String
  relativePath : String
  lastScannedAt : Option Time := none
  lastSeenAt : Time
  deriving DecidableEq, Repr

structure Task where
  accountId : Option ℕ := none
  subscriptionId : Option ℕ := none
  fileId : Option ℕ := none
  type : String
  triggerType : String := "scheduled"
  status : TaskStatus := .pending
  priority : ℕ := 0
  payloadVersion : ℕ := 1
  payload : List (String × Json) := []
  idempotencyKey : Option String := none
  retryCount : ℕ := 0
  maxRetries : ℕ := 3
  nextAttemptAt : Option Time := none
  blockedReason : Option String := none
  blockedAt : Option Time := none
  cancelRequestedAt : Option Time := none
  lockedBy : Option String := none
  lockToken : Option String := none
  lockedAt : Option Time := none
  leaseUntil : Option Time := none
  lastErrorCode : Option String := none
  lastErrorMessage : Option String := none
  completedAt : Option Time := none
  providerWriteIntentAt : Option Time := none
  providerOperationId : Option String := none
  providerOperationStatus : Option ProviderOperationStatus := none
  providerResult : Option (List (String × Json)) := none
  message : Option String := none
  errorCode : Option String := none
  attemptCount : ℕ := 0
  maxAttempts : ℕ := 3
  startedAt : Option Time := none
  finishedAt : Option Time := none
  createdAt : Time
  updatedAt : Time
  deriving DecidableEq, Repr

structure TaskRun where
  taskId : ℕ
  runNumber : ℕ
  workerId : Option String := none
  lockToken : Option String := none
  status : TaskRunStatus := .running
  startedAt : Time
  finishedAt : Option Time := none
  lastHeartbeatAt : Option Time := none
  durationMs : Option ℕ := none
  resultSummary : Option String := none
  errorCode : Option String := none
  errorMessage : Option String := none
  metrics : List (String × Json) := []
  createdAt : Time
  updatedAt : Time
  deriving DecidableEq, Repr

structure Database where
  accounts : Table CloudAccount := .empty
  subscriptions : Table Subscription := .empty
  files : Table CloudFile := .empty
  folderCheckpoints : Table FolderCheckpoint := .empty
  tasks : Table Task := .empty
  taskRuns : Table TaskRun := .empty
  deriving DecidableEq

/-- The columns a caller of `create_task` sets. Ownership, history and outcome
columns are not among them: no caller passes any, and they take their defaults. -/
structure NewTask where
  accountId : Option ℕ := none
  subscriptionId : Option ℕ := none
  fileId : Option ℕ := none
  type : String
  triggerType : String := "scheduled"
  status : Option TaskStatus := none
  priority : ℕ := 0
  payloadVersion : ℕ := 1
  payload : List (String × Json) := []
  idempotencyKey : Option String := none
  retryCount : ℕ := 0
  maxRetries : ℕ := 3
  providerWriteIntentAt : Option Time := none
  providerOperationId : Option String := none
  providerOperationStatus : Option ProviderOperationStatus := none
  message : Option String := none
  deriving DecidableEq, Repr

def NewTask.row (new : NewTask) (now : Time) : Task where
  accountId := new.accountId
  subscriptionId := new.subscriptionId
  fileId := new.fileId
  type := new.type
  triggerType := new.triggerType
  priority := new.priority
  payloadVersion := new.payloadVersion
  payload := new.payload
  idempotencyKey := new.idempotencyKey
  retryCount := new.retryCount
  maxRetries := new.maxRetries
  providerWriteIntentAt := new.providerWriteIntentAt
  providerOperationId := new.providerOperationId
  providerOperationStatus := new.providerOperationStatus
  message := new.message
  createdAt := now
  updatedAt := now

namespace Database

/-- The task, if any, that holds an idempotency key. -/
def keyTaken (db : Database) (key : String) : Bool :=
  (db.tasks.select fun _ task => task.idempotencyKey = some key) ≠ []

/-- What the schema checks when a task row is inserted. -/
def admitsTask (db : Database) (task : Task) : Bool :=
  (task.idempotencyKey.all fun key => !db.keyTaken key) &&
  (task.accountId.all fun id => (db.accounts.get? id).isSome) &&
  (task.subscriptionId.all fun id => (db.subscriptions.get? id).isSome) &&
  (task.fileId.all fun id => (db.files.get? id).isSome)

theorem keyTaken_iff {db : Database} {key : String} : db.keyTaken key ↔
    ∃ id task, db.tasks.get? id = some task ∧ task.idempotencyKey = some key := by
  unfold keyTaken
  rw [decide_eq_true_eq, Table.select_ne_nil]
  simp only [decide_eq_true_eq]

end Database

end MediaSync.TaskTables
