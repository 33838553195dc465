import MediaSync.Common.PosixPaths
import MediaSync.Common.PythonText
import MediaSync.ScanEnqueue

/-!
# Asking for downloads

A download goes to a destination: a root directory and a path below it. Its
deduplication key names the destination and the task before it, so two requests
that go by the same last task ask for the same key.

Every look at the database, the insert and the update are statements of their
own. Directories come and go, and change hands; where links lead does not
change.
-/
namespace MediaSync.DownloadRequests
open FaultPrograms Interleavings SharedStore JsonValues RowTables TaskTables TaskRepository
open PosixPaths PythonText

/-! ## Directories -/

/-- `Path.resolve`: links lead to a normal absolute path without links, and
that leads to itself. -/
structure Links where
  follow : String → String
  follow_follow (path : String) : follow (follow path) = follow path
  absolute (path : String) : (PurePosixPath.ofString (follow path)).root ≠ []
  normal (path : String) : (PurePosixPath.ofString (follow path)).toString = follow path

structure Disk where
  present : String → Bool
  isDirectory : String → Bool
  writable : String → Bool
  isSymlink : String → Bool
  /-- Device and inode. -/
  stat : String → Option (ℤ × ℤ)

/-- No links: an absolute path in its normal form leads to itself. -/
def Links.plain : Links where
  follow path :=
    if (PurePosixPath.ofString path).root ≠ [] ∧ (PurePosixPath.ofString path).toString = path then
      path
    else "/"
  follow_follow path := by
    by_cases h : (PurePosixPath.ofString path).root ≠ [] ∧
        (PurePosixPath.ofString path).toString = path
    · simp only [if_pos h]
    · simp only [if_neg h]
      decide
  absolute path := by
    split_ifs with h
    · exact h.1
    · decide
  normal path := by
    split_ifs with h
    · exact h.2
    · decide

structure Settings where
  links : Links
  /-- The home directory of a user, the own one under the empty name. -/
  home : String → Option String
  /-- `hashlib.sha256(text.encode()).hexdigest()` -/
  sha256 : String → String

inductive RequestError where
  | http (status : ℕ) (detail : String)
  | value (text : String)
  | runtime (text : String)
  | os
  | attribute
  | task (e : TaskError)
  | interrupted
  deriving DecidableEq, Repr

section Directories
variable (settings : Settings) (disk : Disk)

/-- `Path.expanduser` -/
def expandUser (path : PurePosixPath) : Except RequestError PurePosixPath :=
  match path.root, path.parts with
  | [], ('~' :: user) :: rest =>
    match settings.home (String.ofList user) with
    | none => .error (.runtime "Could not determine home directory.")
    | some home =>
      let home := PurePosixPath.ofString home
      .ok ⟨home.root, home.parts ++ rest⟩
  | _, _ => .ok path

/-- `validate_directory` -/
def validateDirectory (value : String) : Except RequestError String := do
  let path ← expandUser settings (.ofString value)
  if path.root = [] then throw (.value "请选择绝对路径")
  let resolved := settings.links.follow path.toString
  if !disk.present resolved then throw (.value "目录不存在或无法访问，请检查 NAS 是否已挂载")
  if !disk.isDirectory resolved then throw (.value "请选择已存在的目录")
  if !disk.writable resolved then throw (.value "当前服务没有该目录的写入权限")
  return resolved

def reservedSuffixes : List String := [".mediasync.part", ".mediasync.json", ".mediasync.json.tmp"]

/-- File names that a resumable download uses. -/
def reserved (part : List Char) : Bool :=
  part.head? = some '.' && reservedSuffixes.any fun suffix => suffix.toList.isSuffixOf part

/-- `destination_path` -/
def destinationPath (root relative : String) : Except String PurePosixPath := do
  let path := PurePosixPath.ofString relative
  if relative = "" ∨ path.root ≠ [] ∨ (PurePosixPath.splitSlash relative.toList).any fun piece =>
      piece = ['.', '.'] || piece = ['.'] then
    throw "下载路径必须是根目录下的相对路径，不能包含 . 或 .."
  if '\\' ∈ relative.toList ∨ Char.ofNat 0 ∈ relative.toList then throw "下载路径包含无效字符"
  if path.parts.any reserved then throw "文件名使用了下载恢复文件保留格式，无法下载"
  if !disk.isDirectory root then throw "下载根目录不存在，请先创建目录或挂载 NAS"
  let base := PurePosixPath.ofString (settings.links.follow root)
  let target : PurePosixPath := ⟨base.root, base.parts ++ path.parts⟩
  if path.parts.inits.tail.any fun parts =>
      disk.isSymlink (PurePosixPath.toString ⟨base.root, base.parts ++ parts⟩) then
    throw "下载路径不能经过符号链接"
  let resolved := PurePosixPath.ofString (settings.links.follow target.toString)
  if (resolved.relativeTo base).isNone then throw "下载路径超出根目录"
  return target

/-- The path of a destination below its root, as text. -/
def relativeDestination (root relative : String) : Except RequestError String := do
  let target ← (destinationPath settings disk root relative).mapError (.http 400)
  match target.relativeTo (.ofString root) with
  | some path => return path.toString
  | none => throw (.value "path is not in the subpath")

end Directories

/-! ## The tasks of a destination -/

/-- `ACTIVE_DOWNLOAD_STATUSES` -/
def activeDownloadStatuses : List TaskStatus :=
  [.pending, .running, .retry, .cancelRequested, .waitingCredential]

theorem mem_activeDownloadStatuses (status : TaskStatus) :
    status ∈ activeDownloadStatuses ↔ status.terminal = false := by
  cases status <;> decide

def isDownload (root relative : String) (task : Task) : Bool :=
  task.type = "download" && task.payload.lookup "root" = some (.str root) &&
    task.payload.lookup "relative_path" = some (.str relative)

/-- What `_destination_tasks` has found, the latest task first. -/
abbrev Found := List (String × ℕ × Task)

def Found.active (found : Found) (relative : String) : List (ℕ × Task) :=
  (found.filter fun row => row.1 = relative && row.2.2.status ∈ activeDownloadStatuses).map
    Prod.snd

def Found.latest (found : Found) (relative : String) : Option (ℕ × Task) := found.lookup relative

/-- The active tasks of some destinations, and the latest task of each. -/
def lookDestinations (db : Database) (root : String) (relatives : List String) : Found :=
  relatives.flatMap fun relative =>
    let scope := db.tasks.select fun _ task => isDownload root relative task
    ((scope.filter fun row => row.2.status ∈ activeDownloadStatuses ||
      scope.all fun other => other.1 ≤ row.1).insertionSort fun a b => b.1 ≤ a.1).map fun row =>
        (relative, row)

structure Beside where
  now : Time
  disk : Disk
  /-- `default_download_root` -/
  defaultRoot : Except String String

abbrev World := Shared ℕ Database Beside

abbrev Request (α : Type) := Prog World RequestError α

section Requests
variable (settings : Settings) (k : ℕ)

/-- A look at the database. -/
def select {α : Type} (view : Database → α) : Request α :=
  query k .interrupted (fun _ db => .ok (view db)) fun _ => id

/-- A look at the disk. -/
def inspect {α : Type} (view : Beside → Except RequestError α) : Request α :=
  query k .interrupted (fun beside _ => view beside) fun _ => id

/-- `_destination_tasks`, two hundred destinations at a time -/
def destinationTasks (root : String) : List (List String) → Request Found
  | [] => pure []
  | relatives :: rest => do
    let found ← select k fun db => lookDestinations db root relatives
    let more ← destinationTasks root rest
    pure (found ++ more)

/-- `_check_destination` -/
def checkDestination (tasks : List (ℕ × Task)) (fileId : Option ℕ) :
    Except RequestError (Option (ℕ × Task)) :=
  if tasks.any fun row => row.2.fileId ≠ fileId then
    .error (.http 409 "其他文件正在使用相同下载路径，请选择不同子目录")
  else .ok tasks.head?

/-! ## Creating a download -/

structure Wanted where
  fileId : ℕ
  file : CloudFile
  subscription : Subscription

def downloadKey (root relative : String) (predecessorId : ℕ) : String :=
  "download:" ++ settings.sha256 (root ++ String.singleton (Char.ofNat 0) ++ relative) ++ ":" ++
    toString predecessorId

def downloadTask (wanted : Wanted) (root relative : String) (predecessorId : ℕ) (stat : ℤ × ℤ) :
    NewTask where
  accountId := some wanted.subscription.cloudAccountId
  subscriptionId := some wanted.file.subscriptionId
  fileId := some wanted.fileId
  type := "download"
  triggerType := if predecessorId = 0 then "manual" else "retry"
  status := some .pending
  payload := [("relative_path", .str relative), ("root", .str root),
    ("root_identity", .arr [.int stat.1, .int stat.2])]
  idempotencyKey := some (downloadKey settings root relative predecessorId)
  message := some ("等待下载 → " ++ relative)

def taskWithKey (db : Database) (key : String) : Option (ℕ × Task) :=
  (db.tasks.select fun _ task => task.idempotencyKey = some key).head?

/-- The insert in a savepoint: nothing is inserted where the schema objects. -/
def insertDownload (new : NewTask) : Request (Option ℕ) :=
  statement k .interrupted
    (fun beside db =>
      match createTask db beside.now new with
      | .ok (id, db') => .ok (some id, db')
      | .error .integrity => .ok (none, db)
      | .error e => .error (.task e))
    fun _ => id

/-- `_create_download` -/
def createDownload (wanted : Wanted) (root relative : String) (predecessorId : ℕ) :
    Request (Option ℕ) := do
  let stat ← inspect k fun beside =>
    match beside.disk.stat root with
    | some stat => .ok stat
    | none => .error .os
  let key := downloadKey settings root relative predecessorId
  let existing ← select k fun db => taskWithKey db key
  match existing with
  | some row =>
    let task ← Prog.ofExcept (checkDestination [row] (some wanted.fileId))
    pure (task.map Prod.fst)
  | none =>
    let created ← insertDownload k (downloadTask settings wanted root relative predecessorId stat)
    match created with
    | some id => pure (some id)
    | none =>
      let existing ← select k fun db => taskWithKey db key
      match existing with
      | none => throw (.task .integrity)
      | some row =>
        let task ← Prog.ofExcept (checkDestination [row] (some wanted.fileId))
        pure (task.map Prod.fst)

/-! ## Enqueueing -/

structure DownloadRequest where
  fileIds : List ℕ
  root : Option String := none
  directory : String := ""
  deriving DecidableEq, Repr

/-- The selected files, with their subscriptions. -/
def selectFiles (db : Database) (ids : List ℕ) : List Wanted :=
  ids.filterMap fun id => do
    let file ← db.files.get? id
    let subscription ← db.subscriptions.get? file.subscriptionId
    return ⟨id, file, subscription⟩

/-- The files of a request, five hundred at a time. -/
def loadFiles : List (List ℕ) → Request (List Wanted)
  | [] => pure []
  | ids :: rest => do
    let files ← select k fun db => selectFiles db ids
    let more ← loadFiles rest
    pure (files ++ more)

def isTransferred (wanted : Wanted) : Bool :=
  wanted.subscription.provider = "pikpak" && wanted.file.status = "saved" &&
    (wanted.file.targetFileId.any fun id => id ≠ "") && wanted.file.itemType = "file"

def requestedPath (directory : String) (file : CloudFile) : String :=
  "/".intercalate ([String.ofList (strip directory.toList),
    if file.relativePath = "" then file.filename else file.relativePath].filter (· ≠ ""))

/-- The destination of each file; no two files of a request share one. -/
def prepare (request : DownloadRequest) (root : String) (files : List Wanted) :
    List ℕ → List (Wanted × String) → Request (List (Wanted × String))
  | [], prepared => pure prepared
  | fileId :: rest, prepared =>
    match files.find? fun wanted => wanted.fileId = fileId with
    | none => throw (.http 404 "文件不存在")
    | some wanted =>
      if !isTransferred wanted then throw (.http 400 "请选择已转存的 PikPak 文件")
      else do
        let relative ← inspect k fun beside => relativeDestination settings beside.disk root
          (requestedPath request.directory wanted.file)
        if relative ∈ prepared.map Prod.snd then
          throw (.http 409 "所选文件包含相同下载路径，请按订阅选择不同子目录")
        else prepare request root files rest (prepared ++ [(wanted, relative)])

/-- The last loop: a task for each file, an active one if there is one. -/
def enqueuePrepared (root : String) (found : Found) :
    List (Wanted × String) → List ℕ → Request (List ℕ)
  | [], ids => pure ids
  | (wanted, relative) :: rest, ids => do
    let task ← Prog.ofExcept (checkDestination (found.active relative) (some wanted.fileId))
    match task with
    | some row => enqueuePrepared root found rest (ids ++ [row.1])
    | none =>
      let id ← createDownload settings k wanted root relative
        (((found.latest relative).map Prod.fst).getD 0)
      enqueuePrepared root found rest (ids ++ id.toList)

/-- The text of a `ValueError` becomes a bad request. -/
def badRequest {α : Type} (r : Except RequestError α) (detail : String → String) :
    Except RequestError α :=
  r.mapError fun e => match e with
    | .value text => .http 400 (detail text)
    | e => e

/-- The root a request names, or else the default one. -/
def namedRoot (request : DownloadRequest) (beside : Beside) : Except RequestError String :=
  match request.root.filter (· ≠ "") with
  | some root => .ok root
  | none => beside.defaultRoot.mapError .value

def requestedRoot (request : DownloadRequest) (beside : Beside) : Except RequestError String :=
  badRequest ((namedRoot request beside).bind fun value =>
    validateDirectory settings beside.disk value) id

/-- `enqueue_downloads` -/
def enqueueDownloads (request : DownloadRequest) : Request (List ℕ) :=
  session k .interrupted id do
    let root ← inspect k (requestedRoot settings request)
    let selected := request.fileIds.eraseDups
    let files ← loadFiles k (selected.toChunks 500)
    let prepared ← prepare settings k request root files selected []
    let found ← destinationTasks k root ((prepared.map Prod.snd).toChunks 200)
    Prog.ofExcept (prepared.forM fun row => do
      let _ ← checkDestination (found.active row.2) (some row.1.fileId)
      pure ())
    enqueuePrepared settings k root found prepared []

/-! ## Retrying and cancelling -/

def update (taskId : ℕ) (expected target : TaskStatus) : Request Unit :=
  statement k .interrupted
    (fun beside db => ((transition db beside.now taskId expected target {}).map fun db' =>
      ((), db')).mapError .task)
    fun _ => id

/-- A download by its key. -/
def selectDownload (taskId : ℕ) : Request Task :=
  query k .interrupted (fun _ db =>
    match (db.tasks.get? taskId).filter fun task => task.type = "download" with
    | none => .error (.http 404 "下载任务不存在")
    | some task => .ok task) fun _ => id

def badDirectory : String := "下载目录不可用，请检查 NAS 挂载后重试"

/-- The root of an earlier task, as it is now. A value that is not a text is
no absolute path. -/
def storedRoot (task : Task) (beside : Beside) : Except RequestError String :=
  match task.payload.lookup "root" with
  | some (.str root) =>
    badRequest (validateDirectory settings beside.disk root) fun _ => badDirectory
  | _ => .error (.http 400 badDirectory)

/-- `retry_download`; the destination of a download task is a text. -/
def retryDownload (taskId : ℕ) : Request (Option ℕ) :=
  session k .interrupted id do
    let task ← selectDownload k taskId
    if task.status = .waitingCredential then do
      update k taskId .waitingCredential .pending
      pure (some taskId)
    else if task.status ≠ .failed ∧ task.status ≠ .cancelled then
      throw (.http 409 "只能重试失败或已取消的下载")
    else do
      let root ← inspect k (storedRoot settings task)
      match task.payload.lookup "relative_path" with
      | some (.str relative) =>
        let found ← destinationTasks k root [[relative]]
        let successor ← Prog.ofExcept (checkDestination (found.active relative) task.fileId)
        match successor with
        | some row => pure (some row.1)
        | none =>
          let wanted ← query k .interrupted (fun _ db =>
            match (task.fileId.toList.flatMap fun id => selectFiles db [id]).head? with
            | none => .error .attribute
            | some wanted => .ok wanted) fun _ => id
          createDownload settings k wanted root relative taskId
      | _ => throw .attribute

/-- `cancel_download` -/
def cancelDownload (taskId : ℕ) : Request ℕ :=
  session k .interrupted id do
    let task ← selectDownload k taskId
    if task.status = .running then do
      update k taskId .running .cancelRequested
      pure taskId
    else if task.status ∈ [.pending, .retry, .waitingCredential] then do
      update k taskId task.status .cancelled
      pure taskId
    else throw (.http 409 "当前下载不能取消")

end Requests

/-! ## The system -/

inductive Job where
  | enqueue (request : DownloadRequest)
  | retry (taskId : ℕ)
  | cancel (taskId : ℕ)
  deriving DecidableEq, Repr

def Job.program (settings : Settings) (k : ℕ) : Job → Request Unit
  | .enqueue request => do
    let _ ← enqueueDownloads settings k request
    pure ()
  | .retry taskId => do
    let _ ← retryDownload settings k taskId
    pure ()
  | .cancel taskId => do
    let _ ← cancelDownload k taskId
    pure ()

/-- Other parts insert tasks too, but no downloads. -/
def createOther (new : NewTask) (clock : Time) (db : Database) : Database :=
  if new.type = "download" then db
  else match createTask db clock new with
    | .ok (_, db') => db'
    | .error _ => db

inductive Move where
  | work (step : RetryAccounting.Step)
  | create (new : NewTask)
  /-- Accounts, subscriptions and files are added, patched, scanned or saved. -/
  | rows (accounts : Table CloudAccount) (subscriptions : Table Subscription)
    (files : Table CloudFile)
  | disk (disk : Disk) (defaultRoot : Except String String)
  | tick (now : Time)

def World.move (w : World) : Move → World
  | .work step => w.transact (ScanEnqueue.worked step)
  | .create new => w.transact (createOther new w.outside.now)
  | .rows accounts subscriptions files => w.transact fun db =>
    { db with
      accounts := accounts
      subscriptions := subscriptions
      files := files }
  | .disk disk defaultRoot =>
    { w with outside := { w.outside with disk := disk, defaultRoot := defaultRoot } }
  | .tick now => { w with outside := { w.outside with now := now } }

def system (settings : Settings) : System ℕ Job Move World RequestError Unit where
  program := Job.program settings
  move i w := World.move w i
  abandon k w := w.rollback k

end MediaSync.DownloadRequests
