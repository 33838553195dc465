import MediaSync.RetryAccounting
import MediaSync.Common.SharedStore

/-!
# Asking for scans

A scan is asked for by hand, or by the scheduler when a subscription is due.
Both look for a scan task that has not ended and insert one if there is none.
The look and the insert are statements of their own: the write lock is only
taken by the insert, so the look may be out of date by then.

Beside the database stand the time, what the update gate answers, and for each
session the subscriptions that it has found free and not yet inserted for.
-/
namespace MediaSync.ScanEnqueue
open FaultPrograms Interleavings SharedStore JsonValues RowTables TaskTables TaskRepository

/-! ## Active tasks -/

/-- `_active_task`: the latest task of that type that has not ended. -/
def activeTask (db : Database) (taskType : String) (subscriptionId fileId : Option ℕ) :
    Option (ℕ × Task) :=
  letI : Preorder ℤ := Int.instLinearOrder.toPreorder
  (db.tasks.select fun _ task => task.type = taskType && !task.status.terminal &&
    (subscriptionId.all fun id => task.subscriptionId = some id) &&
    (fileId.all fun id => task.fileId = some id)).argmax fun row =>
      (toLex (row.2.createdAt, row.1) : ℤ ×ₗ ℕ)

/-- A scan task of the subscription that has not ended. -/
def isActiveScan (subscriptionId : ℕ) (task : Task) : Bool :=
  task.type = "scan" && task.subscriptionId = some subscriptionId && !task.status.terminal

/-! ## Sessions -/

inductive EnqueueError where
  | notFound (detail : String)
  | conflict (detail : String)
  | tooManyRequests (detail : String)
  | value (text : String)
  | task (e : TaskError)
  | interrupted
  deriving DecidableEq, Repr

structure Beside where
  now : Time
  /-- The update gate lets nothing be enqueued. -/
  blocked : Bool := false
  /-- What each session found free and has not inserted for. -/
  found : ℕ → List ℕ := fun _ => []

namespace Beside

def find (k subscriptionId : ℕ) (beside : Beside) : Beside :=
  { beside with found := fun j =>
      if j = k then subscriptionId :: beside.found k else beside.found j }

def settle (k subscriptionId : ℕ) (beside : Beside) : Beside :=
  { beside with found := fun j =>
      if j = k then (beside.found k).filter (· ≠ subscriptionId) else beside.found j }

def forget (k : ℕ) (beside : Beside) : Beside :=
  { beside with found := fun j => if j = k then [] else beside.found j }

end Beside

abbrev World := Shared ℕ Database Beside

abbrev Enqueue (α : Type) := Prog World EnqueueError α

structure Settings where
  manualScanCooldownSeconds : ℤ
  /-- `parse_schedule` and the next moment: when a subscription is due again. -/
  dueAgain : String → Time → Except String Time
  /-- `isoformat` of a slot, in microseconds. -/
  isoformat : Time → String

section Requests
variable (settings : Settings) (k : ℕ)

/-- The look for an active scan; a session that finds none will insert one. -/
def findScan (subscriptionId : ℕ) : Enqueue (Option ℕ) :=
  query k .interrupted
    (fun _ db => .ok ((activeTask db "scan" (some subscriptionId) none).map Prod.fst))
    fun found => if found.isNone then Beside.find k subscriptionId else id

/-- Inserts a task for a subscription, with whatever else is flushed with it. -/
def insertScan (subscriptionId : ℕ) (flushed : Database → Database) (new : NewTask) :
    Enqueue ℕ :=
  statement k .interrupted
    (fun beside db => (createTask (flushed db) beside.now new).mapError .task)
    fun _ => Beside.settle k subscriptionId

/-! ## By hand -/

def manualScan (subscriptionId : ℕ) (subscription : Subscription) (forceFull : Bool) : NewTask where
  accountId := some subscription.cloudAccountId
  subscriptionId := some subscriptionId
  type := "scan"
  triggerType := "manual"
  status := some .pending
  payloadVersion := 1
  payload := [("force_full", .bool forceFull)]

/-- `enqueue_manual_scan`: the task, and whether it is new -/
def enqueueManualScan (subscriptionId : ℕ) (subscription : Subscription) (forceFull : Bool) :
    Enqueue (ℕ × Bool) := do
  let existing ← findScan k subscriptionId
  match existing with
  | some taskId => pure (taskId, false)
  | none =>
    let taskId ← insertScan k subscriptionId id (manualScan subscriptionId subscription forceFull)
    pure (taskId, true)

/-- What is left of the pause after a scan, in microseconds. -/
def remaining (now lastScannedAt : Time) : Time :=
  settings.manualScanCooldownSeconds * 1000000 - (now - lastScannedAt)

def checkScannable (now : Time) (subscription : Subscription) : Except EnqueueError Unit :=
  if !subscription.enabled then .error (.conflict "Subscription is disabled")
  else match subscription.lastScannedAt with
  | none => .ok ()
  | some lastScannedAt =>
    if 0 < remaining settings now lastScannedAt then
      .error (.tooManyRequests ("请等待 " ++
        toString (remaining settings now lastScannedAt / 1000000 + 1) ++ " 秒后再手动扫描"))
    else .ok ()

/-- `scan_subscription` -/
def scanSubscription (subscriptionId : ℕ) (full : Bool) : Enqueue (ℕ × Bool) :=
  session k .interrupted (Beside.forget k) do
    let (now, subscription) ← query k .interrupted (fun beside db =>
      match db.subscriptions.get? subscriptionId with
      | none => .error (.notFound "Subscription not found")
      | some subscription => .ok (beside.now, subscription)) fun _ => id
    Prog.ofExcept (checkScannable settings now subscription)
    enqueueManualScan k subscriptionId subscription full

/-! ## By the scheduler -/

/-- Due subscriptions, the longest due first. -/
def dueBefore (a b : ℕ × Subscription) : Prop :=
  toLex ((a.2.nextScanAt.getD 0 : ℤ), a.1) ≤ toLex ((b.2.nextScanAt.getD 0 : ℤ), b.1)

instance : DecidableRel dueBefore := fun _ _ => inferInstanceAs (Decidable (_ ≤ _))

def dueSubscriptions (db : Database) (now : Time) (limit : ℕ) : List (ℕ × Subscription) :=
  ((db.subscriptions.select fun _ subscription => subscription.enabled &&
    subscription.nextScanAt.any fun due => due ≤ now).insertionSort dueBefore).take limit

/-- `_scheduled_scan_key` -/
def scheduledScanKey (subscriptionId : ℕ) (dueAt : Time) : String :=
  "scan:" ++ toString subscriptionId ++ ":scheduled:" ++ settings.isoformat dueAt

def scheduledScan (subscriptionId : ℕ) (subscription : Subscription) (dueAt : Time) :
    NewTask where
  accountId := some subscription.cloudAccountId
  subscriptionId := some subscriptionId
  type := "scan"
  triggerType := "scheduled"
  status := some .pending
  payloadVersion := 1
  payload := [("force_full", .bool false)]
  idempotencyKey := some (scheduledScanKey settings subscriptionId dueAt)

/-- The new slots that a flush writes. -/
def reschedule (moved : List (ℕ × Time)) (db : Database) : Database :=
  { db with
    subscriptions := db.subscriptions.update (fun id _ => (moved.lookup id).isSome)
      fun id subscription => { subscription with nextScanAt := moved.lookup id } }

structure Enqueued where
  inspectedCount : ℕ := 0
  enqueuedCount : ℕ := 0
  skippedActiveCount : ℕ := 0
  taskIds : List ℕ := []
  gated : Bool := false
  deriving DecidableEq, Repr

/-- The loop over the due subscriptions; `moved` is not flushed yet. -/
def enqueueDue (now : Time) : List (ℕ × Subscription) → List (ℕ × Time) → Enqueued →
    Enqueue Enqueued
  | [], moved, result => do
    if moved.isEmpty then pure result
    else do
      statement k .interrupted (fun _ db => .ok ((), reschedule moved db)) fun _ => id
      pure result
  | (subscriptionId, subscription) :: rest, moved, result =>
    match subscription.nextScanAt with
    | none => enqueueDue now rest moved result
    | some dueAt => do
      let next ← Prog.ofExcept ((settings.dueAgain subscription.schedule now).mapError .value)
      let moved := (subscriptionId, next) :: moved
      let active ← findScan k subscriptionId
      if active.isSome then
        enqueueDue now rest moved
          { result with skippedActiveCount := result.skippedActiveCount + 1 }
      else do
        let taskId ← insertScan k subscriptionId (reschedule moved)
          (scheduledScan settings subscriptionId subscription dueAt)
        enqueueDue now rest []
          { result with
            enqueuedCount := result.enqueuedCount + 1
            taskIds := result.taskIds ++ [taskId] }

/-- `enqueue_due_scan_tasks` -/
def enqueueDueScanTasks (limit : ℕ) : Enqueue Enqueued :=
  if limit < 1 ∨ 1000 < limit then throw (.value "limit must be between 1 and 1000")
  else do
    let (now, due) ← query k .interrupted
      (fun beside db => .ok (beside.now, dueSubscriptions db beside.now limit)) fun _ => id
    enqueueDue settings k now due [] { inspectedCount := due.length }

/-- `SchedulerRuntime.run_once` -/
def runOnce (batchSize : ℕ) : Enqueue Enqueued :=
  session k .interrupted (Beside.forget k) do
    let blocked ← query k .interrupted (fun beside _ => .ok beside.blocked) fun _ => id
    if blocked then pure { gated := true }
    else enqueueDueScanTasks settings k batchSize

end Requests

/-! ## The system -/

inductive Job where
  | manual (subscriptionId : ℕ) (full : Bool)
  | scheduled (batchSize : ℕ)
  deriving DecidableEq, Repr

def Job.program (settings : Settings) (k : ℕ) : Job → Enqueue Unit
  | .manual subscriptionId full => do
    let _ ← scanSubscription settings k subscriptionId full
    pure ()
  | .scheduled batchSize => do
    let _ ← runOnce settings k batchSize
    pure ()

/-- What workers do to tasks, each a transaction; they create none. -/
def worked (step : RetryAccounting.Step) (db : Database) : Database :=
  if step.creates then db else step.apply db

inductive Move where
  | work (step : RetryAccounting.Step)
  /-- Subscriptions are added, patched or scanned. -/
  | subscriptions (rows : Table Subscription)
  | tick (now : Time)
  | gate (blocked : Bool)

def World.move (w : World) : Move → World
  | .work step => w.transact (worked step)
  | .subscriptions rows => w.transact fun db => { db with subscriptions := rows }
  | .tick now => { w with outside := { w.outside with now := now } }
  | .gate blocked => { w with outside := { w.outside with blocked := blocked } }

/-- A session that is gone holds nothing. -/
def World.abandon (w : World) (k : ℕ) : World :=
  { w.rollback k with outside := w.outside.forget k }

def system (settings : Settings) : System ℕ Job Move World EnqueueError Unit where
  program := Job.program settings
  move i w := World.move w i
  abandon k w := World.abandon w k

end MediaSync.ScanEnqueue
