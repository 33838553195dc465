import MediaSync.Common.IsoInstants
import MediaSync.ProviderOperations
import MediaSync.SingleScan

/-!
# Schedules that keep running

The scheduler asks for the scans that are due and moves every subscription it
inspected to its next slot. A slot is also set when a subscription is created
or patched. The idempotency key of a scheduled scan has the slot that was due,
so it must not be the slot of an earlier scan of the subscription.

The scheduler's cycle runs statement by statement. Between its statements
workers finish tasks, other tasks are added, subscriptions are created and
patched, and time passes.
-/
namespace MediaSync.ScanSchedules
open FaultPrograms SharedStore JsonValues PythonText RowTables TaskTables TaskRepository
open ScanEnqueue

/-! ## Intervals -/

/-- `datetime.max` -/
def maxInstant : Time := 253402300799999999

def microsecondsPerDay : ℤ := 86400000000

/-- `timedelta` of so many microseconds -/
def timedelta (micros : ℤ) : Except String Time :=
  let days := micros / microsecondsPerDay
  if 2147483647 < days then .error "Python int too large to convert to C int"
  else if 999999999 < days then
    .error ("days=" ++ toString days ++ "; must have magnitude <= 999999999")
  else .ok micros

/-- An interval, checked. -/
def interval (micros : ℤ) : Except String Time := do
  let delta ← timedelta micros
  if delta < 15 * 60000000 then .error "Schedule interval must be at least 15 minutes"
  else .ok delta

/-- `parse_schedule`: the interval, in microseconds -/
def parseSchedule (value : String) : Except String Time :=
  let invalid := "Schedule must use interval:<number>m or interval:<number>h"
  match afterLiteral "interval:" (strip value.toList) with
  | none => .error invalid
  | some rest =>
    let (digits, unit) := digitsPrefix rest
    if digits = [] ∨ ¬(unit = ['m'] ∨ unit = ['h']) then .error invalid
    else match intOfDigits digits with
    | none => .error ("Exceeds the limit (4300 digits) for integer string conversion: value has " ++
        toString digits.length ++ " digits; use sys.set_int_max_str_digits() to increase the limit")
    | some amount =>
      if amount < 1 then .error "Schedule interval must be positive"
      else interval (amount * if unit = ['m'] then 60000000 else 3600000000)

example : parseSchedule " interval:30m\n" = .ok 1800000000 := by decide +kernel

/-- A moment and an interval added up. -/
def later (now delta : Time) : Except String Time :=
  if maxInstant < now + delta then .error "date value out of range" else .ok (now + delta)

/-- `now + parse_schedule(schedule).delta` -/
def dueAgain (schedule : String) (now : Time) : Except String Time := do
  later now (← parseSchedule schedule)

/-- The settings of a scheduler that parses schedules and writes slots in full. -/
def schedulerSettings (manualScanCooldownSeconds : ℤ) : Settings where
  manualScanCooldownSeconds := manualScanCooldownSeconds
  dueAgain := dueAgain
  isoformat := IsoInstants.isoformat

/-! ## Subscriptions -/

structure ShareInfo where
  shareKey : String
  rootFolderId : String := "root"
  deriving DecidableEq, Repr

structure SubscriptionCreate where
  name : String
  cloudAccountId : ℕ
  provider : String
  shareUrl : String
  sharePassword : Option String := none
  sourceFolderId : Option String := none
  targetPath : String
  targetDriveId : Option String := none
  targetDriveType : Option String := none
  schedule : String := "interval:30m"
  initialSyncMode : String := "all"
  enabled : Bool := true
  deriving DecidableEq, Repr

/-- The fields that were sent; a field may be sent as null. -/
structure SubscriptionUpdate where
  name : Option (Option String) := none
  targetPath : Option (Option String) := none
  targetDriveId : Option (Option String) := none
  targetDriveType : Option (Option String) := none
  schedule : Option (Option String) := none
  initialSyncMode : Option (Option String) := none
  enabled : Option (Option Bool) := none
  deriving DecidableEq, Repr

/-- `a or b`, where no text and an empty text are false -/
def textOr (a b : Option String) : Option String := if a.any (· ≠ "") then a else b

/-- The slot of a row that is written now; a disabled one has none. -/
def slot (enabled : Bool) (now delta : Time) : Except String (Option Time) :=
  if enabled then (later now delta).map some else .ok none

/-- `create_subscription`, after the share was resolved; `encrypted` is the
password of the share as it is stored. No target folder is set, so the unique
constraint on source and target refuses nothing. -/
def createSubscription (db : Database) (now : Time) (payload : SubscriptionCreate)
    (share : ShareInfo) (encrypted : String) : Except String (ℕ × Database) :=
  match db.accounts.get? payload.cloudAccountId with
  | none => .error "Cloud account not found"
  | some account =>
    if account.provider ≠ payload.provider then
      .error "Subscription provider does not match cloud account"
    else do
      let delta ← parseSchedule payload.schedule
      let next ← slot payload.enabled now delta
      return (db.subscriptions.nextId, { db with
        subscriptions := db.subscriptions.insert {
          cloudAccountId := payload.cloudAccountId
          name := payload.name
          provider := payload.provider
          shareUrl := payload.shareUrl
          shareKey := some share.shareKey
          sharePassword := if payload.sharePassword.any (· ≠ "") then some encrypted else none
          sourceFolderId := textOr payload.sourceFolderId (some share.rootFolderId)
          targetPath := payload.targetPath
          targetDriveId := textOr payload.targetDriveId account.defaultDriveId
          targetDriveType := textOr payload.targetDriveType (some "default")
          schedule := payload.schedule
          enabled := payload.enabled
          status := if payload.enabled then "active" else "disabled"
          initialSyncMode := payload.initialSyncMode
          nextScanAt := next } })

/-- A field of the row that must not be null. -/
def required {α : Type} (column : String) (old : α) : Option (Option α) → Except String α
  | none => .ok old
  | some (some value) => .ok value
  | some none => .error ("NOT NULL constraint failed: subscriptions." ++ column)

/-- The columns of a subscription after a patch, without the slot. -/
def SubscriptionUpdate.applied (payload : SubscriptionUpdate) (subscription : Subscription) :
    Except String Subscription := do
  let name ← required "name" subscription.name payload.name
  let targetPath ← required "target_path" subscription.targetPath payload.targetPath
  let schedule ← required "schedule" subscription.schedule payload.schedule
  let mode ← required "initial_sync_mode" subscription.initialSyncMode payload.initialSyncMode
  let enabled ← required "enabled" subscription.enabled payload.enabled
  return { subscription with
    name := name
    targetPath := targetPath
    targetDriveId := payload.targetDriveId.getD subscription.targetDriveId
    targetDriveType := payload.targetDriveType.getD subscription.targetDriveType
    schedule := schedule
    initialSyncMode := mode
    enabled := enabled
    status := match payload.enabled.join with
      | none => subscription.status
      | some on => if on then "active" else "disabled" }

/-- The slot of a patched row, whose schedule is only parsed if it is enabled. -/
def patchedSlot (now : Time) (changed : Subscription) : Except String (Option Time) :=
  if changed.enabled then do
    let delta ← parseSchedule changed.schedule
    slot true now delta
  else .ok none

/-- `update_subscription`; a sent schedule was parsed when the request was read -/
def updateSubscription (db : Database) (now : Time) (subscriptionId : ℕ)
    (payload : SubscriptionUpdate) : Except String Database :=
  match db.subscriptions.get? subscriptionId with
  | none => .error "Subscription not found"
  | some subscription => do
    let changed ← payload.applied subscription
    let next ← patchedSlot now changed
    return { db with
      subscriptions := db.subscriptions.update (fun id _ => id = subscriptionId)
        fun _ _ => { changed with nextScanAt := next } }

/-! ## The system -/

/-- A key that only the scheduler gives out. -/
def isScheduledKey (key : String) : Bool := "scan:".toList.isPrefixOf key.toList

/-- What happens while the scheduler runs, each a transaction. -/
inductive Move where
  /-- A worker does something with tasks that are there. -/
  | work (step : RetryAccounting.Step)
  /-- A task is added by somebody else. -/
  | enqueue (new : NewTask)
  | connect (account : CloudAccount)
  | create (payload : SubscriptionCreate) (share : ShareInfo) (encrypted : String)
  | patch (subscriptionId : ℕ) (payload : SubscriptionUpdate)
  /-- The columns of a subscription that a scan reports in. -/
  | scanned (subscriptionId : ℕ) (status : String) (lastScannedAt lastFullScannedAt : Option Time)
    (lastError : Option String)
  | tick (elapsed : ℕ)
  | gate (blocked : Bool)

/-- What a transaction leaves: what it wrote, or what was there. -/
def settled {ε : Type} (db : Database) (result : Except ε Database) : Database :=
  match result with
  | .ok db' => db'
  | .error _ => db

def enqueued (new : NewTask) (now : Time) (db : Database) : Database :=
  if new.idempotencyKey.any isScheduledKey then db
  else settled db ((createTask db now new).map Prod.snd)

def reported (subscriptionId : ℕ) (status : String) (lastScannedAt lastFullScannedAt : Option Time)
    (lastError : Option String) (db : Database) : Database :=
  { db with
    subscriptions := db.subscriptions.update (fun id _ => id = subscriptionId)
      fun _ subscription => { subscription with
        status := status
        lastScannedAt := lastScannedAt
        lastFullScannedAt := lastFullScannedAt
        lastError := lastError } }

/-- The transaction of a move. -/
def Move.transaction (now : Time) : Move → Database → Database
  | .work step => worked step
  | .enqueue new => enqueued new now
  | .connect account => fun db => { db with accounts := db.accounts.insert account }
  | .create payload share encrypted => fun db =>
    settled db ((createSubscription db now payload share encrypted).map Prod.snd)
  | .patch subscriptionId payload => fun db =>
    settled db (updateSubscription db now subscriptionId payload)
  | .scanned subscriptionId status lastScannedAt lastFullScannedAt lastError =>
    reported subscriptionId status lastScannedAt lastFullScannedAt lastError
  | .tick _ | .gate _ => id

def Move.beside : Move → Beside → Beside
  | .tick elapsed, beside => { beside with now := beside.now + elapsed }
  | .gate blocked, beside => { beside with blocked := blocked }
  | _, beside => beside

instance : Surroundings World Move where
  move move w :=
    { w.transact (move.transaction w.outside.now) with outside := move.beside w.outside }

/-- Before anything happened there are accounts only. -/
def start (accounts : Table CloudAccount) (now : Time) (blocked : Bool) : World where
  committed := { accounts := accounts }
  outside := { now := now, blocked := blocked }

inductive Happening where
  | move (move : Move)
  /-- A cycle of the scheduler, with what else happens and what goes wrong in it. -/
  | cycle (batchSize : ℕ) (events : Schedule Move)

section Histories
variable (cooldown : ℤ) (k : ℕ)

/-- A cycle of the scheduler, from the first statement on. -/
def cycle (batchSize : ℕ) (events : Schedule Move) (w : World) :
    Outcome EnqueueError Enqueued × World × Schedule Move :=
  (runOnce (schedulerSettings cooldown) k batchSize).run events w

/-- After a cycle the session is closed, however the cycle ended. -/
def happen (w : World) : Happening → World
  | .move move => Surroundings.move move w
  | .cycle batchSize events => (cycle cooldown k batchSize events w).2.1.abandon k

def history (happenings : List Happening) (w : World) : World :=
  happenings.foldl (happen cooldown k) w

end Histories

end MediaSync.ScanSchedules
