import MediaSync.Common.PythonText
import MediaSync.ScanEnqueue
import MediaSync.WorkerCycles

/-!
# Retrying a transfer

A transfer that has ended is retried by a task of its own, which names the one
it follows in its key and takes over what that one knows of its save. The looks
before the insert are statements of their own, the insert and what is written
with it are one transaction.
-/
namespace MediaSync.TransferRetries
open FaultPrograms PythonText RowTables TaskTables TaskRepository SubscriptionScan TransferHandler

inductive RetryError where
  | notFound (detail : String)
  | attribute
  | task (e : TaskError)
  | interrupted
  deriving DecidableEq, Repr

abbrev RetryProg (χ α : Type) := Prog (EngineWorld χ) RetryError α

/-- Transfer tasks of the file that have ended. -/
def isEndedTransfer (fileId : ℕ) (task : Task) : Bool :=
  task.type = "transfer" && task.fileId = some fileId && task.status.terminal

/-- `predecessor`: the latest of them -/
def lastEnded (db : Database) (fileId : ℕ) : Option (ℕ × Task) :=
  letI : Preorder ℤ := Int.instLinearOrder.toPreorder
  (db.tasks.select fun _ task => isEndedTransfer fileId task).argmax fun row =>
    (toLex (row.2.createdAt, row.1) : ℤ ×ₗ ℕ)

def retryKey (fileId predecessorId : ℕ) : String :=
  "transfer-retry:" ++ toString fileId ++ ":" ++ toString predecessorId

def successor (fileId : ℕ) (file : CloudFile) (subscription : Subscription)
    (predecessor : Option (ℕ × Task)) : NewTask where
  accountId := some subscription.cloudAccountId
  subscriptionId := some file.subscriptionId
  fileId := some fileId
  type := "transfer"
  triggerType := "retry"
  status := some .pending
  payloadVersion := 1
  payload := []
  idempotencyKey := some (retryKey fileId (predecessor.elim 0 Prod.fst))
  providerWriteIntentAt := predecessor.bind fun row => row.2.providerWriteIntentAt
  providerOperationId := predecessor.bind fun row => row.2.providerOperationId
  providerOperationStatus := predecessor.bind fun row => row.2.providerOperationStatus

def retried (file : CloudFile) : CloudFile := { file with status := "pending", lastError := none }

section Requests
variable {χ : Type}

/-- The successor and the mark of its file, committed together. -/
def insertSuccessor (fileId : ℕ) (new : NewTask) : RetryProg χ ℕ :=
  Prog.effect .interrupted fun w =>
    match createTask w.db w.clock new with
    | .ok (id, db) => (.ok id, { w with db := setFile db fileId retried })
    | .error e => (.error (.task e), w)

def requireSubscription (db : Database) (file : CloudFile) : Except RetryError Subscription :=
  match db.subscriptions.get? file.subscriptionId with
  | none => .error .attribute
  | some subscription => .ok subscription

/-- `enqueue_transfer_retry`, once no task of the file is active -/
def enqueueSuccessor (fileId : ℕ) (file : CloudFile) : RetryProg χ ℕ := do
  let predecessor ← Prog.look .interrupted fun w => .ok (lastEnded w.db fileId)
  let subscription ← Prog.look .interrupted fun w => requireSubscription w.db file
  insertSuccessor fileId (successor fileId file subscription predecessor)

/-- `enqueue_transfer_retry` -/
def enqueueTransferRetry (fileId : ℕ) (file : CloudFile) : RetryProg χ ℕ := do
  let existing ← Prog.look .interrupted fun w =>
    .ok (ScanEnqueue.activeTask w.db "transfer" none (some fileId))
  match existing with
  | some row => pure row.1
  | none => enqueueSuccessor fileId file

/-- `retry_file` -/
def retryFile (fileId : ℕ) : RetryProg χ ℕ := do
  let file ← Prog.look .interrupted fun w =>
    match w.db.files.get? fileId with
    | none => .error (.notFound "File not found")
    | some file => .ok file
  enqueueTransferRetry fileId file

end Requests

/-! ## Keys -/

theorem notMem_toString (n : ℕ) : ':' ∉ (toString n).toList := by
  intro h
  have hdigit := Nat.isDigit_of_mem_toDigits (by decide) (by decide)
    (by simpa [Nat.toString_eq_ofList_toDigits] using h : ':' ∈ Nat.toDigits 10 n)
  exact absurd hdigit (by decide)

/-- A key names its file and the task it follows. -/
theorem retryKey_inj {fileId fileId' predecessorId predecessorId' : ℕ}
    (h : retryKey fileId predecessorId = retryKey fileId' predecessorId') :
    fileId = fileId' ∧ predecessorId = predecessorId' := by
  have htail : (toString fileId).toList ++ ':' :: (toString predecessorId).toList =
      (toString fileId').toList ++ ':' :: (toString predecessorId').toList := by
    have hlist := congrArg String.toList h
    simp only [retryKey, String.toList_append, List.append_assoc] at hlist
    exact List.append_cancel_left hlist
  have hpieces := congrArg (splitChar ':') htail
  rw [splitChar_append (notMem_toString fileId),
    splitChar_append (notMem_toString fileId')] at hpieces
  have hfile := (List.cons.inj hpieces).1
  rw [hfile] at htail
  have hpredecessor := (List.cons.inj (List.append_cancel_left htail)).2
  exact ⟨Nat.repr_injective (String.toList_injective hfile),
    Nat.repr_injective (String.toList_injective hpredecessor)⟩

end MediaSync.TransferRetries
