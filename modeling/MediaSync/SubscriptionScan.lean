import MediaSync.Common.FaultPrograms
import MediaSync.Common.PosixPaths
import MediaSync.TaskRepository

/-!
# Scanning a subscription

A scan lists the folders of a share page by page and records what it sees. One
page is one transaction: every item of the page is recorded, new folders get a
checkpoint, and a new or changed file gets a transfer task unless a task with
its idempotency key exists.

The provider is a party with a state of its own. Its answers, the digest and
the text of a moment are parameters: nothing below depends on what they are.
The loops of the source carry fuel here, one unit for each page and folder.
-/
namespace MediaSync.SubscriptionScan
open FaultPrograms JsonValues RowTables PosixPaths TaskTables TaskRepository

structure RemoteItem where
  remoteFileId : String
  parentId : Option String
  filename : String
  itemType : String
  size : Option ℤ := none
  contentHash : Option String := none
  updatedAt : Option Time := none
  metadata : List (String × Json) := []
  deriving DecidableEq, Repr

structure RemotePage where
  items : List RemoteItem
  nextMarker : Option String := none
  deriving DecidableEq, Repr

def RemotePage.itemIds (page : RemotePage) : List String := page.items.map RemoteItem.remoteFileId

structure ShareInfo where
  shareKey : String
  name : String
  rootFolderId : String := "root"
  deriving DecidableEq, Repr

/-- What the source takes from its standard library. -/
structure Texts where
  sha256 : String → String
  isoformat : Time → String

def fingerprintText (texts : Texts) (item : RemoteItem) : String :=
  "\x00".intercalate
    [item.remoteFileId, item.itemType,
      match item.size with
      | none => ""
      | some size => if size = 0 then "" else toString size,
      item.contentHash.getD "",
      (item.updatedAt.map texts.isoformat).getD ""]

def fingerprintItem (texts : Texts) (item : RemoteItem) : String :=
  texts.sha256 (fingerprintText texts item)

def transferKey (subscriptionId : ℕ) (remoteFileId fingerprint : String) : String :=
  "transfer:" ++ toString subscriptionId ++ ":" ++ remoteFileId ++ ":" ++ fingerprint

def transferTask (subscriptionId fileId : ℕ) (key : String) : NewTask where
  subscriptionId := some subscriptionId
  fileId := some fileId
  type := "transfer"
  triggerType := "scheduled"
  status := some .pending
  idempotencyKey := some key

def setFile (db : Database) (fileId : ℕ) (f : CloudFile → CloudFile) : Database :=
  { db with files := db.files.update (fun id _ => id = fileId) fun _ => f }

def markPending (file : CloudFile) : CloudFile := { file with status := "pending" }

/-- `_queue_transfer` -/
def queueTransfer (db : Database) (now : Time) (subscriptionId fileId : ℕ) (file : CloudFile) :
    Except TaskError Database :=
  let key := transferKey subscriptionId file.remoteFileId file.fingerprint
  if db.keyTaken key then .ok db
  else (createTask (setFile db fileId markPending) now
    (transferTask subscriptionId fileId key)).map Prod.snd

def newFile (subscriptionId : ℕ) (item : RemoteItem) (relativePath fingerprint : String)
    (now : Time) : CloudFile where
  subscriptionId := subscriptionId
  remoteFileId := item.remoteFileId
  parentRemoteFileId := item.parentId
  filename := item.filename
  relativePath := relativePath
  itemType := item.itemType
  size := item.size
  contentHash := item.contentHash
  fingerprint := fingerprint
  status := "discovered"
  firstSeenAt := now
  lastSeenAt := now

def seenAgain (item : RemoteItem) (relativePath fingerprint : String) (now : Time)
    (file : CloudFile) : CloudFile :=
  { file with
    parentRemoteFileId := item.parentId
    filename := item.filename
    relativePath := relativePath
    itemType := item.itemType
    size := item.size
    contentHash := item.contentHash
    fingerprint := fingerprint
    lastSeenAt := now }

def findFile (db : Database) (subscriptionId : ℕ) (remoteFileId : String) :
    Option (ℕ × CloudFile) :=
  (db.files.select fun _ file =>
    file.subscriptionId = subscriptionId && file.remoteFileId = remoteFileId).head?

def findCheckpoint (db : Database) (subscriptionId : ℕ) (remoteFolderId : String) :
    Option (ℕ × FolderCheckpoint) :=
  (db.folderCheckpoints.select fun _ checkpoint =>
    checkpoint.subscriptionId = subscriptionId && checkpoint.remoteFolderId = remoteFolderId).head?

/-- The file row of an item after the first half of `_record_item`: its key,
the row, whether it is new and whether its fingerprint changed. -/
structure Recorded where
  db : Database
  fileId : ℕ
  file : CloudFile
  isNew : Bool
  changed : Bool

def recordFile (texts : Texts) (db : Database) (now : Time) (subscriptionId : ℕ)
    (item : RemoteItem) (relativePath : String) : Except TaskError Recorded :=
  let fingerprint := fingerprintItem texts item
  match findFile db subscriptionId item.remoteFileId with
  | none =>
    if (db.subscriptions.get? subscriptionId).isNone then .error .integrity
    else
      let file := newFile subscriptionId item relativePath fingerprint now
      .ok ⟨{ db with files := db.files.insert file }, db.files.nextId, file, true, false⟩
  | some (fileId, file) =>
    .ok ⟨setFile db fileId (seenAgain item relativePath fingerprint now), fileId,
      seenAgain item relativePath fingerprint now file, false, file.fingerprint ≠ fingerprint⟩

def recordCheckpoint (db : Database) (now : Time) (subscriptionId : ℕ) (item : RemoteItem)
    (relativePath : String) : Database × ℕ :=
  match findCheckpoint db subscriptionId item.remoteFileId with
  | none =>
    ({ db with
      folderCheckpoints := db.folderCheckpoints.insert
        { subscriptionId := subscriptionId
          remoteFolderId := item.remoteFileId
          relativePath := relativePath
          lastSeenAt := now } }, db.folderCheckpoints.nextId)
  | some (checkpointId, _) =>
    ({ db with
      folderCheckpoints := db.folderCheckpoints.update (fun id _ => id = checkpointId)
        fun _ checkpoint => { checkpoint with relativePath := relativePath, lastSeenAt := now } },
      checkpointId)

/-- `_record_item`; the checkpoint is answered by its key. -/
def recordItem (texts : Texts) (db : Database) (now : Time) (subscriptionId : ℕ)
    (item : RemoteItem) (relativePath : String) (createTransfers : Bool) :
    Except TaskError (Database × ℕ × Option ℕ) := do
  let recorded ← recordFile texts db now subscriptionId item relativePath
  let discovered := recorded.isNew.toNat
  if item.itemType = "folder" then
    let (db, checkpointId) := recordCheckpoint recorded.db now subscriptionId item relativePath
    return (db, discovered, some checkpointId)
  else if createTransfers && (recorded.isNew || recorded.changed) then
    let db ← queueTransfer recorded.db now subscriptionId recorded.fileId recorded.file
    return (db, discovered, none)
  else return (recorded.db, discovered, none)

/-- The items of one page, recorded in order in one transaction. -/
def recordPage (texts : Texts) (now : Time) (subscriptionId : ℕ) (parentPath : PurePosixPath)
    (createTransfers : Bool) :
    List RemoteItem → Database → Except TaskError (Database × ℕ × List ℕ)
  | [], db => .ok (db, 0, [])
  | item :: items, db => do
    let (db, discovered, checkpoint) ← recordItem texts db now subscriptionId item
      (parentPath.join item.filename).toString createTransfers
    let (db, rest, checkpoints) ←
      recordPage texts now subscriptionId parentPath createTransfers items db
    return (db, discovered + rest, checkpoint.toList ++ checkpoints)

/-- The part of a cloud drive that a scan talks to. -/
structure ShareProvider (π : Type) where
  resolveShare : String → Option String → π → Except String ShareInfo × π
  listShareItems : ShareInfo → String → Option String → π → Except String RemotePage × π

structure ScanSettings where
  folderScanBatchSize : ℕ
  fullScanInterval : Time
  legacyExecution : Bool
  deriving DecidableEq, Repr

/-- Everything a scan needs that does not change while it runs. -/
structure ScanContext (π : Type) where
  texts : Texts
  provider : ShareProvider π
  settings : ScanSettings
  decryptSharePassword : String → Except String String
  scheduleDelta : String → Except String Time

structure ScanWorld (π : Type) where
  db : Database
  provider : π
  clock : Time
  cancellationRequested : Bool

inductive ScanError where
  | cancelled (text : String)
  | pagination (text : String)
  | provider (text : String)
  | task (e : TaskError)
  | value (text : String)
  | interrupted
  | outOfFuel
  deriving DecidableEq, Repr

structure ScanResult where
  discovered : ℕ := 0
  foldersScanned : ℕ := 0
  deriving DecidableEq, Repr

def ScanResult.add (a b : ScanResult) : ScanResult :=
  ⟨a.discovered + b.discovered, a.foldersScanned + b.foldersScanned⟩

structure ScanDomainResult where
  scan : ScanResult
  fullScan : Bool
  checkpointCount : ℕ
  deriving DecidableEq, Repr

section Program
variable {π : Type}

abbrev ScanProg (π : Type) := Prog (ScanWorld π) ScanError

/-- One transaction on the database at the time the clock shows. -/
def transact {α : Type} (act : Time → Database → Except ScanError (α × Database)) : ScanProg π α :=
  Prog.effect .interrupted fun w =>
    match act w.clock w.db with
    | .ok (a, db) => (.ok a, { w with db := db })
    | .error e => (.error e, w)

def raiseIfCancelled : ScanProg π Unit := do
  if ← Prog.look .interrupted fun w => .ok w.cancellationRequested then
    throw (.cancelled "scan cancelled at a safe traversal boundary")

def listShareItems (context : ScanContext π) (share : ShareInfo) (parentId : String)
    (marker : Option String) : ScanProg π RemotePage :=
  Prog.effect .interrupted fun w =>
    let (page, provider) := context.provider.listShareItems share parentId marker w.provider
    (page.mapError .provider, { w with provider := provider })

/-- The truth value of an optional text. -/
def given (text : Option String) : Bool := text.any fun text => text ≠ ""

structure FolderScan where
  subscriptionId : ℕ
  share : ShareInfo
  createTransfers : Bool

def commitPage (context : ScanContext π) (scan : FolderScan) (parentPath : PurePosixPath)
    (page : RemotePage) : ScanProg π (ℕ × List ℕ) :=
  transact fun now db =>
    match recordPage context.texts now scan.subscriptionId parentPath scan.createTransfers
      page.items db with
    | .ok (db, discovered, checkpoints) => .ok ((discovered, checkpoints), db)
    | .error e => .error (.task e)

/-- A page must bring an item, and its cursor must be a new one. -/
def checkProgress (page : RemotePage) (seenMarkers seenItemIds : List String) :
    Except ScanError Unit :=
  if page.itemIds.all (· ∈ seenItemIds) then
    .error (.pagination "Cloud-drive listing repeated items without progress")
  else if given page.nextMarker && page.nextMarker.any (· ∈ seenMarkers) then
    .error (.pagination "Cloud-drive listing repeated a pagination cursor")
  else .ok ()

/-- The page loop of `_scan_folder_contents`. -/
def scanPages (context : ScanContext π) (scan : FolderScan) (parentId : String)
    (parentPath : PurePosixPath) : ℕ → Option String → List String → List String → ScanResult →
    List ℕ → ScanProg π (ScanResult × List ℕ)
  | 0, _, _, _, _, _ => throw .outOfFuel
  | fuel + 1, marker, seenMarkers, seenItemIds, result, childFolders => do
    raiseIfCancelled
    let page ← listShareItems context scan.share parentId marker
    if page.items = [] then
      return (result, childFolders)
    Prog.ofExcept (checkProgress page seenMarkers seenItemIds)
    let (discovered, checkpoints) ← commitPage context scan parentPath page
    let result := { result with discovered := result.discovered + discovered }
    if !given page.nextMarker then
      return (result, childFolders ++ checkpoints)
    scanPages context scan parentId parentPath fuel page.nextMarker
      (page.nextMarker.toList ++ seenMarkers) (page.itemIds ++ seenItemIds) result
      (childFolders ++ checkpoints)

def scanFolderContents (context : ScanContext π) (scan : FolderScan) (fuel : ℕ)
    (parentId : String) (parentPath : PurePosixPath) : ScanProg π (ScanResult × List ℕ) :=
  scanPages context scan parentId parentPath fuel none [] [] { foldersScanned := 1 } []

def stampCheckpoint (checkpointId : ℕ) (now : Time) (db : Database) : Database :=
  { db with
    folderCheckpoints := db.folderCheckpoints.update (fun id _ => id = checkpointId)
      fun _ checkpoint => { checkpoint with lastScannedAt := some now } }

/-- Visits checkpointed folders in order and stamps each one afterwards. -/
def scanCheckpoints (visit : FolderCheckpoint → ScanProg π ScanResult) :
    List ℕ → ScanResult → ScanProg π ScanResult
  | [], result => return result
  | checkpointId :: rest, result => do
    raiseIfCancelled
    let checkpoint ← Prog.look .interrupted fun w =>
      match w.db.folderCheckpoints.get? checkpointId with
      | some checkpoint => .ok checkpoint
      | none => .error .interrupted
    let child ← visit checkpoint
    transact fun now db => .ok ((), stampCheckpoint checkpointId now db)
    scanCheckpoints visit rest (result.add child)

/-- `_scan_folder_full` -/
def scanFolderFull (context : ScanContext π) (scan : FolderScan) :
    ℕ → String → PurePosixPath → ScanProg π ScanResult
  | 0, _, _ => throw .outOfFuel
  | fuel + 1, parentId, parentPath => do
    let (result, childFolders) ← scanFolderContents context scan fuel parentId parentPath
    scanCheckpoints (fun checkpoint => scanFolderFull context scan fuel checkpoint.remoteFolderId
      (PurePosixPath.ofString checkpoint.relativePath)) childFolders result

/-- Checkpoints never scanned come first, then the longest unscanned ones. -/
def scannedBefore (a b : ℕ × FolderCheckpoint) : Prop :=
  match a.2.lastScannedAt, b.2.lastScannedAt with
  | none, none => a.1 ≤ b.1
  | none, some _ => True
  | some _, none => False
  | some s, some t => s < t ∨ (s = t ∧ a.1 ≤ b.1)

instance : DecidableRel scannedBefore := fun a b => by
  unfold scannedBefore
  split <;> infer_instance

def dueCheckpoints (db : Database) (subscriptionId batchSize : ℕ) : List ℕ :=
  (((db.folderCheckpoints.select fun _ checkpoint => checkpoint.subscriptionId =
    subscriptionId).insertionSort scannedBefore).take batchSize).map Prod.fst

/-- `_scan_folder_batch` -/
def scanFolderBatch (context : ScanContext π) (scan : FolderScan) (fuel : ℕ)
    (rootFolderId : String) : ScanProg π ScanResult := do
  let (result, _) ← scanFolderContents context scan fuel rootFolderId (PurePosixPath.ofString "")
  let checkpoints ← Prog.look .interrupted fun w =>
    .ok (dueCheckpoints w.db scan.subscriptionId context.settings.folderScanBatchSize)
  scanCheckpoints (fun checkpoint => do
    let (folder, _) ← scanFolderContents context scan fuel checkpoint.remoteFolderId
      (PurePosixPath.ofString checkpoint.relativePath)
    return folder) checkpoints result

/-- `_full_scan_due` -/
def fullScanDue (settings : ScanSettings) (now : Time) (subscription : Subscription)
    (forceFull : Bool) : Bool :=
  forceFull || subscription.lastFullScannedAt.all fun last => settings.fullScanInterval ≤ now - last

/-- `decrypt_share_password` -/
def decryptSharePassword (context : ScanContext π) (subscription : Subscription) :
    Except String (Option String) :=
  if given subscription.sharePassword then
    (context.decryptSharePassword (subscription.sharePassword.getD "")).map some
  else .ok none

def resolveShare (context : ScanContext π) (subscription : Subscription) :
    ScanProg π ShareInfo := do
  let password ← Prog.ofExcept ((decryptSharePassword context subscription).mapError .value)
  Prog.effect .interrupted fun w =>
    let (share, provider) := context.provider.resolveShare subscription.shareUrl password w.provider
    (share.mapError .provider, { w with provider := provider })

def scanFinished (fullScan : Bool) (now : Time) (nextScanAt : Option Time) (enabled : Bool)
    (subscription : Subscription) : Subscription :=
  { subscription with
    lastScannedAt := some now
    lastFullScannedAt := if fullScan then some now else subscription.lastFullScannedAt
    nextScanAt := nextScanAt <|> subscription.nextScanAt
    status := if enabled then "active" else "disabled"
    lastError := none }

def setSubscription (db : Database) (subscriptionId : ℕ) (f : Subscription → Subscription) :
    Database :=
  { db with subscriptions := db.subscriptions.update (fun id _ => id = subscriptionId) fun _ => f }

/-- Only the legacy scheduler is told when to scan again. -/
def nextScanAt (context : ScanContext π) (now : Time) (subscription : Subscription) :
    Except ScanError (Option Time) :=
  if context.settings.legacyExecution then
    ((context.scheduleDelta subscription.schedule).map fun delta => some (now + delta)).mapError
      .value
  else .ok none

/-- The last transaction of a scan: the outcome is written to the subscription. -/
def finishScan (context : ScanContext π) (subscriptionId : ℕ) (subscription : Subscription)
    (fullScan : Bool) : ScanProg π ℕ :=
  transact fun now db =>
    match nextScanAt context now subscription with
    | .error e => .error e
    | .ok next =>
      .ok ((db.folderCheckpoints.select fun _ checkpoint =>
        checkpoint.subscriptionId = subscriptionId).length,
        setSubscription db subscriptionId (scanFinished fullScan now next subscription.enabled))

/-- The checkpoints a full scan has not seen are dropped. -/
def dropUnseen (subscriptionId : ℕ) (startedAt : Time) (db : Database) : Database :=
  { db with folderCheckpoints := db.folderCheckpoints.delete fun _ checkpoint =>
      checkpoint.subscriptionId = subscriptionId && checkpoint.lastSeenAt < startedAt }

/-- The listing half of a scan, with the clean-up that follows a full one. -/
def scanFolders (context : ScanContext π) (scan : FolderScan) (fuel : ℕ) (fullScan : Bool)
    (startedAt : Time) (rootFolderId : String) : ScanProg π ScanResult :=
  if fullScan then do
    let result ← scanFolderFull context scan fuel rootFolderId (PurePosixPath.ofString "")
    raiseIfCancelled
    transact fun _ db => .ok ((), dropUnseen scan.subscriptionId startedAt db)
    return result
  else scanFolderBatch context scan fuel rootFolderId

def executeScanDomain (context : ScanContext π) (fuel subscriptionId : ℕ)
    (subscription : Subscription) (forceFull : Bool) : ScanProg π ScanDomainResult := do
  raiseIfCancelled
  let share ← resolveShare context subscription
  let firstScan := subscription.lastScannedAt.isNone
  let createTransfers := !(firstScan && subscription.initialSyncMode = "future_only")
  let startedAt ← Prog.look .interrupted fun w => .ok w.clock
  let fullScan := fullScanDue context.settings startedAt subscription forceFull
  let rootFolderId :=
    (subscription.sourceFolderId.filter (· ≠ "")).getD share.rootFolderId
  let scan : FolderScan := ⟨subscriptionId, share, createTransfers⟩
  let result ← scanFolders context scan fuel fullScan startedAt rootFolderId
  raiseIfCancelled
  let checkpointCount ← finishScan context subscriptionId subscription fullScan
  return ⟨result, fullScan, checkpointCount⟩

end Program

end MediaSync.SubscriptionScan
