import MediaSync.SubscriptionScan
import MediaSync.TaskOwnership

/-!
# Transfers over the life of subscriptions

Subscriptions are created, scanned and deleted, and their tasks are carried
out, in any order. A deleted subscription takes its files with it and leaves
its tasks, which from then on refer to no row. Row keys are handed out again,
so a later subscription can bear the key that an idempotency key still names.

`owed` collects, along such a history, every file that was first recorded with
transfers on. The history serves a file when a transfer task refers to it.
-/
namespace MediaSync.SubscriptionHistory
open FaultPrograms RowTables PosixPaths TaskTables TaskRepository SubscriptionScan

inductive HttpError where
  | notFound (detail : String)
  | conflict (detail : String)
  deriving DecidableEq, Repr

/-- `uq_subscription_source_target`; a missing column is equal to nothing. -/
def sameSource (a b : Subscription) : Bool :=
  a.cloudAccountId = b.cloudAccountId &&
    (a.shareKey.any fun key => b.shareKey = some key) &&
    (a.sourceFolderId.any fun folder => b.sourceFolderId = some folder) &&
    (a.targetFolderId.any fun folder => b.targetFolderId = some folder)

/-- The insert of `create_subscription`, after the share was resolved. -/
def addSubscription (db : Database) (subscription : Subscription) : Except HttpError Database :=
  if (db.accounts.get? subscription.cloudAccountId).isNone then
    .error (.notFound "Cloud account not found")
  else if (db.subscriptions.select fun _ other => sameSource subscription other) ≠ [] then
    .error (.conflict "Subscription already exists")
  else .ok { db with subscriptions := db.subscriptions.insert subscription }

/-- The tasks of a deleted subscription refer to nothing. -/
def detached (task : Task) : Task := { task with subscriptionId := none, fileId := none }

def withoutFile (task : Task) : Task := { task with fileId := none }

/-- The task refers to a file of the subscription. -/
def usesFileOf (db : Database) (subscriptionId : ℕ) (task : Task) : Bool :=
  task.fileId.any fun fileId =>
    (db.files.get? fileId).any fun file => file.subscriptionId = subscriptionId

/-- The rows that go with a subscription row, and the references to them. -/
def cascade (db : Database) (subscriptionId : ℕ) : Database :=
  { db with
    subscriptions := db.subscriptions.delete fun id _ => id = subscriptionId
    files := db.files.delete fun _ file => file.subscriptionId = subscriptionId
    folderCheckpoints :=
      db.folderCheckpoints.delete fun _ checkpoint => checkpoint.subscriptionId = subscriptionId
    tasks := db.tasks.update (fun _ => usesFileOf db subscriptionId) fun _ => withoutFile }

def deleteSubscription (db : Database) (subscriptionId : ℕ) : Except HttpError Database :=
  if (db.subscriptions.get? subscriptionId).isNone then
    .error (.notFound "Subscription not found")
  else if (db.tasks.select fun _ task =>
      task.subscriptionId = some subscriptionId && !task.status.terminal) ≠ [] then
    .error (.conflict "订阅仍有活动任务，请先停用订阅并等待任务结束后再删除")
  else
    let tasks := db.tasks.update (fun _ task => task.subscriptionId = some subscriptionId) fun _ =>
      detached
    .ok (cascade { db with tasks := tasks } subscriptionId)

/-- What can happen to the rows of subscriptions, files and tasks. -/
inductive Event where
  | addSubscription (subscription : Subscription)
  | page (now : Time) (subscriptionId : ℕ) (parentPath : PurePosixPath) (createTransfers : Bool)
      (items : List RemoteItem)
  | stampCheckpoint (checkpointId : ℕ) (now : Time)
  | dropUnseen (subscriptionId : ℕ) (startedAt : Time)
  | scanFinished (subscriptionId : ℕ) (fullScan : Bool) (now : Time) (nextScanAt : Option Time)
      (enabled : Bool)
  | task (op : TaskOwnership.Operation)
  | deleteSubscription (subscriptionId : ℕ)

/-- A transaction that raises leaves the rows as they were. -/
def committed {ε : Type} (db : Database) (result : Except ε Database) : Database :=
  match result with
  | .ok db' => db'
  | .error _ => db

def Event.apply (texts : Texts) (db : Database) : Event → Database
  | addSubscription subscription =>
    committed db (SubscriptionHistory.addSubscription db subscription)
  | page now subscriptionId parentPath createTransfers items =>
    committed db ((recordPage texts now subscriptionId parentPath createTransfers items db).map
      Prod.fst)
  | stampCheckpoint checkpointId now => SubscriptionScan.stampCheckpoint checkpointId now db
  | dropUnseen subscriptionId startedAt => SubscriptionScan.dropUnseen subscriptionId startedAt db
  | scanFinished subscriptionId fullScan now nextScanAt enabled =>
    setSubscription db subscriptionId
      (SubscriptionScan.scanFinished fullScan now nextScanAt enabled)
  | task op => op.apply db
  | deleteSubscription subscriptionId =>
    committed db (SubscriptionHistory.deleteSubscription db subscriptionId)

/-- An item is owed a transfer when it is a file, transfers are on and no row
of the subscription has its remote id. -/
def owedItem (db : Database) (subscriptionId : ℕ) (createTransfers : Bool) (item : RemoteItem) :
    Bool :=
  createTransfers && item.itemType ≠ "folder" &&
    (findFile db subscriptionId item.remoteFileId).isNone

/-- The file keys that a page gives to the items it owes a transfer. -/
def owedByPage (texts : Texts) (now : Time) (subscriptionId : ℕ) (parentPath : PurePosixPath)
    (createTransfers : Bool) : List RemoteItem → Database → List ℕ
  | [], _ => []
  | item :: items, db =>
    let rest := committed db ((recordItem texts db now subscriptionId item
      (parentPath.join item.filename).toString createTransfers).map Prod.fst)
    (if owedItem db subscriptionId createTransfers item then [db.files.nextId] else []) ++
      owedByPage texts now subscriptionId parentPath createTransfers items rest

/-- No task holds the key of an item that is owed a transfer, at the moment the
item is recorded. -/
def clearPage (texts : Texts) (now : Time) (subscriptionId : ℕ) (parentPath : PurePosixPath)
    (createTransfers : Bool) : List RemoteItem → Database → Bool
  | [], _ => true
  | item :: items, db =>
    let rest := committed db ((recordItem texts db now subscriptionId item
      (parentPath.join item.filename).toString createTransfers).map Prod.fst)
    (owedItem db subscriptionId createTransfers item →
      !db.keyTaken (transferKey subscriptionId item.remoteFileId (fingerprintItem texts item))) &&
      clearPage texts now subscriptionId parentPath createTransfers items rest

def Event.clear (texts : Texts) (db : Database) : Event → Bool
  | page now subscriptionId parentPath createTransfers items =>
    clearPage texts now subscriptionId parentPath createTransfers items db
  | _ => true

/-- The rows, and the files that are owed a transfer with their subscription. -/
structure State where
  db : Database
  owed : List (ℕ × ℕ)

def Event.step (texts : Texts) (s : State) (event : Event) : State where
  db := event.apply texts s.db
  owed :=
    match event with
    | page now subscriptionId parentPath createTransfers items =>
      if (recordPage texts now subscriptionId parentPath createTransfers items s.db).isOk then
        s.owed ++ (owedByPage texts now subscriptionId parentPath createTransfers items s.db).map
          fun fileId => (subscriptionId, fileId)
      else s.owed
    | deleteSubscription subscriptionId =>
      if (SubscriptionHistory.deleteSubscription s.db subscriptionId).isOk then
        s.owed.filter fun entry => entry.1 ≠ subscriptionId
      else s.owed
    | _ => s.owed

/-- A transfer task that refers to the subscription and to the file. -/
def hasTransfer (db : Database) (subscriptionId fileId : ℕ) : Bool :=
  (db.tasks.select fun _ task => task.type = "transfer" &&
    task.subscriptionId = some subscriptionId && task.fileId = some fileId) ≠ []

def State.served (s : State) : Bool := s.owed.all fun entry => hasTransfer s.db entry.1 entry.2

/-- The states a history goes through, the first one included. -/
def states (texts : Texts) : List Event → State → List State
  | [], s => [s]
  | event :: events, s => s :: states texts events (event.step texts s)

/-- Every event of a history is clear in the state it happens in. -/
def allClear (texts : Texts) : List Event → State → Bool
  | [], _ => true
  | event :: events, s => event.clear texts s.db && allClear texts events (event.step texts s)

/-- Accounts, and nothing else yet. -/
def initial (accounts : Table CloudAccount) : State := ⟨{ accounts := accounts }, []⟩

/-- What a task is for: the columns no operation on an existing task writes. -/
def refs (task : Task) : String × Option ℕ × Option ℕ :=
  (task.type, task.subscriptionId, task.fileId)

theorem hasTransfer_iff {db : Database} {subscriptionId fileId : ℕ} :
    hasTransfer db subscriptionId fileId ↔ ∃ id task, db.tasks.get? id = some task ∧
      refs task = ("transfer", some subscriptionId, some fileId) := by
  unfold hasTransfer refs
  rw [decide_eq_true_eq, Table.select_ne_nil]
  simp only [Bool.and_eq_true, decide_eq_true_eq, Prod.mk.injEq, and_assoc]

/-- Tasks and files are still there, and new tasks refer to files that exist. -/
structure Carried (db db' : Database) : Prop where
  files : ∀ id file, db.files.get? id = some file →
    ∃ file', db'.files.get? id = some file' ∧ file'.subscriptionId = file.subscriptionId
  kept : ∀ id task, db.tasks.get? id = some task →
    ∃ task', db'.tasks.get? id = some task' ∧ refs task' = refs task
  grounded : ∀ id task', db'.tasks.get? id = some task' →
    (∃ task, db.tasks.get? id = some task ∧ refs task' = refs task) ∨
      ∀ fileId, task'.fileId = some fileId → (db'.files.get? fileId).isSome

structure Grounded (s : State) : Prop where
  tasks : ∀ id task, s.db.tasks.get? id = some task → ∀ fileId, task.fileId = some fileId →
    (s.db.files.get? fileId).isSome
  owed : ∀ entry ∈ s.owed, ∃ file, s.db.files.get? entry.2 = some file ∧
    file.subscriptionId = entry.1

theorem Carried.refl (db : Database) : Carried db db where
  files _ file h := ⟨file, h, rfl⟩
  kept _ task h := ⟨task, h, rfl⟩
  grounded _ task h := .inl ⟨task, h, rfl⟩

theorem Carried.of_same {db db' : Database} (hfiles : db'.files = db.files)
    (htasks : db'.tasks = db.tasks) : Carried db db' where
  files _ file h := ⟨file, hfiles ▸ h, rfl⟩
  kept _ task h := ⟨task, htasks ▸ h, rfl⟩
  grounded _ task h := .inl ⟨task, htasks ▸ h, rfl⟩

theorem Carried.file_isSome {db db' : Database} (h : Carried db db') {id : ℕ}
    (hfile : (db.files.get? id).isSome) : (db'.files.get? id).isSome := by
  obtain ⟨file, hfile⟩ := Option.isSome_iff_exists.mp hfile
  obtain ⟨file', hfile', -⟩ := h.files id file hfile
  rw [hfile']
  rfl

theorem Carried.trans {db db' db'' : Database} (h : Carried db db') (h' : Carried db' db'') :
    Carried db db'' where
  files id file hget := by
    obtain ⟨file', hget', heq⟩ := h.files id file hget
    obtain ⟨file'', hget'', heq'⟩ := h'.files id file' hget'
    exact ⟨file'', hget'', heq'.trans heq⟩
  kept id task hget := by
    obtain ⟨task', hget', heq⟩ := h.kept id task hget
    obtain ⟨task'', hget'', heq'⟩ := h'.kept id task' hget'
    exact ⟨task'', hget'', heq'.trans heq⟩
  grounded id task'' hget'' := by
    rcases h'.grounded id task'' hget'' with ⟨task', hget', heq'⟩ | hnew
    · rcases h.grounded id task' hget' with ⟨task, hget, heq⟩ | hnew
      · exact .inl ⟨task, hget, heq'.trans heq⟩
      · refine .inr fun fileId hfile => h'.file_isSome (hnew fileId ?_)
        rw [← (Prod.mk.inj (Prod.mk.inj heq').2).2, hfile]
    · exact .inr hnew

theorem Carried.grounded_state {db db' : Database} (h : Carried db db') {owed : List (ℕ × ℕ)}
    (hs : Grounded ⟨db, owed⟩) : Grounded ⟨db', owed⟩ where
  tasks id task' hget fileId hfile := by
    rcases h.grounded id task' hget with ⟨task, hold, heq⟩ | hnew
    · refine h.file_isSome (hs.tasks id task hold fileId ?_)
      rw [← (Prod.mk.inj (Prod.mk.inj heq).2).2, hfile]
    · exact hnew fileId hfile
  owed entry hentry := by
    obtain ⟨file, hget, hsub⟩ := hs.owed entry hentry
    obtain ⟨file', hget', heq⟩ := h.files _ file hget
    exact ⟨file', hget', heq.trans hsub⟩

theorem Carried.hasTransfer {db db' : Database} (h : Carried db db') {subscriptionId fileId : ℕ}
    (ht : hasTransfer db subscriptionId fileId) :
    SubscriptionHistory.hasTransfer db' subscriptionId fileId := by
  obtain ⟨id, task, hget, heq⟩ := hasTransfer_iff.mp ht
  obtain ⟨task', hget', heq'⟩ := h.kept id task hget
  exact hasTransfer_iff.mpr ⟨id, task', hget', heq'.trans heq⟩

theorem Carried.served {db db' : Database} (h : Carried db db') {owed : List (ℕ × ℕ)}
    (hs : State.served ⟨db, owed⟩) : State.served ⟨db', owed⟩ := by
  unfold State.served at hs ⊢
  rw [List.all_eq_true] at hs ⊢
  exact fun entry hentry => h.hasTransfer (hs entry hentry)

/-- Updating tasks without touching what they are for. -/
theorem Carried.of_updated {db : Database} {p : ℕ → Task → Bool} {f : Task → Task}
    {runs : Table TaskRun} (hf : ∀ task, refs (f task) = refs task) :
    Carried db { db with tasks := db.tasks.update p fun _ => f, taskRuns := runs } where
  files _ file h := ⟨file, h, rfl⟩
  kept id task h := by
    rw [Table.get?_update, h]
    refine ⟨_, rfl, ?_⟩
    dsimp only
    split_ifs
    · exact hf task
    · rfl
  grounded id task' h := by
    rw [Table.get?_update, Option.map_eq_some_iff] at h
    obtain ⟨task, hget, heq⟩ := h
    refine .inl ⟨task, hget, ?_⟩
    rw [← heq]
    split_ifs
    · exact hf task
    · rfl

/-- Inserting a task that the schema admits. -/
theorem Carried.of_inserted {db db' : Database} {task : Task} (hfiles : db'.files = db.files)
    (htasks : db'.tasks = db.tasks.insert task)
    (hfile : ∀ fileId, task.fileId = some fileId → (db.files.get? fileId).isSome) :
    Carried db db' where
  files _ file h := ⟨file, hfiles ▸ h, rfl⟩
  kept id task h := ⟨task, by rw [htasks, Table.get?_insert_of_some h], rfl⟩
  grounded id task' h := by
    rw [htasks, Table.get?_insert] at h
    split_ifs at h
    · cases h
      exact .inr fun fileId hf => hfiles ▸ hfile fileId hf
    · exact .inl ⟨task', h, rfl⟩

theorem admitsTask_file {db : Database} {task : Task} (h : db.admitsTask task) {fileId : ℕ}
    (hf : task.fileId = some fileId) : (db.files.get? fileId).isSome := by
  unfold Database.admitsTask at h
  rw [hf] at h
  simp only [Bool.and_eq_true] at h
  simpa using h.2

theorem operation_carried (op : TaskOwnership.Operation) (db : Database) :
    Carried db (op.apply db) := by
  rcases op.apply_cases db with heq | ⟨db', hok, heq⟩
  · rw [heq]
    exact .refl db
  rw [heq]
  cases op with
  | createTask clock new =>
    obtain ⟨id, hok⟩ := TaskOwnership.map_snd_ok hok
    obtain ⟨hadmits, -, heq⟩ := createTask_ok hok
    exact .of_inserted (by rw [heq]) (by rw [heq]) fun _ => admitsTask_file hadmits
  | transition =>
    obtain ⟨-, -, -, heq⟩ := transition_ok hok
    rw [heq]
    exact .of_updated fun _ => rfl
  | claimNext =>
    obtain ⟨claim, hok⟩ := TaskOwnership.map_snd_ok hok
    rcases claimNext_ok hok with ⟨-, heq⟩ | ⟨id, task, started, -, -, heq, run, hrun⟩
    · rw [heq]
      exact .refl db
    obtain ⟨-, -, -, heq'⟩ := createRun_ok hrun
    have hstarted : Carried db started := by
      rw [heq]
      exact .of_updated fun _ => rfl
    exact hstarted.trans (.of_same (by rw [heq']) (by rw [heq']))
  | createRun =>
    obtain ⟨id, hok⟩ := TaskOwnership.map_snd_ok hok
    obtain ⟨-, -, -, heq⟩ := createRun_ok hok
    exact .of_same (by rw [heq]) (by rw [heq])
  | heartbeat =>
    obtain ⟨-, -, heq⟩ := heartbeat_ok hok
    rw [heq]
    exact .of_updated fun _ => rfl
  | finishRun =>
    obtain ⟨-, -, -, -, -, -, heq⟩ := finishRun_ok hok
    rw [heq]
    exact .of_updated fun _ => rfl
  | listExpiredLeases =>
    rw [TaskOwnership.map_const_ok hok]
    exact .refl db
  | recoverExpiredLease =>
    obtain ⟨done, hok⟩ := TaskOwnership.map_snd_ok hok
    rcases recoverExpiredLease_ok hok with ⟨-, heq⟩ | ⟨id, task, target, retryAt, -, -, -, -, heq⟩
    · rw [heq]
      exact .refl db
    rw [heq]
    exact .of_updated fun _ => rfl

section Items
variable {texts : Texts} {db db' : Database} {now : Time} {subscriptionId : ℕ} {item : RemoteItem}
  {relativePath : String} {createTransfers : Bool}

/-- Writing to file rows without moving them to another subscription. -/
theorem Carried.of_setFile (db : Database) (fileId : ℕ) {f : CloudFile → CloudFile}
    (hf : ∀ file, (f file).subscriptionId = file.subscriptionId) :
    Carried db (setFile db fileId f) where
  files id file h := by
    unfold setFile
    rw [Table.get?_update, h]
    refine ⟨_, rfl, ?_⟩
    dsimp only
    split_ifs
    · exact hf file
    · rfl
  kept _ task h := ⟨task, h, rfl⟩
  grounded _ task h := .inl ⟨task, h, rfl⟩

theorem recordFile_new {recorded : Recorded}
    (hfind : findFile db subscriptionId item.remoteFileId = none)
    (h : recordFile texts db now subscriptionId item relativePath = .ok recorded) :
    (db.subscriptions.get? subscriptionId).isSome ∧
      recorded = ⟨{ db with files := db.files.insert (newFile subscriptionId item relativePath
        (fingerprintItem texts item) now) }, db.files.nextId, newFile subscriptionId item
        relativePath (fingerprintItem texts item) now, true, false⟩ := by
  unfold recordFile at h
  rw [hfind] at h
  dsimp only at h
  split_ifs at h with hsub
  cases h
  exact ⟨by simpa [Option.isSome_iff_ne_none] using hsub, rfl⟩

theorem recordFile_carried {recorded : Recorded}
    (h : recordFile texts db now subscriptionId item relativePath = .ok recorded) :
    Carried db recorded.db := by
  cases hfind : findFile db subscriptionId item.remoteFileId with
  | none =>
    obtain ⟨-, heq⟩ := recordFile_new hfind h
    subst heq
    exact ⟨fun id file hget => ⟨file, Table.get?_insert_of_some hget, rfl⟩,
      fun _ task hget => ⟨task, hget, rfl⟩, fun _ task hget => .inl ⟨task, hget, rfl⟩⟩
  | some found =>
    unfold recordFile at h
    rw [hfind] at h
    cases h
    exact .of_setFile db found.1 fun _ => rfl

theorem queueTransfer_carried {fileId : ℕ} {file : CloudFile}
    (h : queueTransfer db now subscriptionId fileId file = .ok db') : Carried db db' := by
  unfold queueTransfer at h
  dsimp only at h
  split_ifs at h
  · cases h
    exact .refl db
  · obtain ⟨id, hok⟩ := TaskOwnership.map_snd_ok h
    obtain ⟨hadmits, -, heq⟩ := createTask_ok hok
    have hset := Carried.of_setFile (f := markPending) db fileId fun _ => rfl
    rw [heq]
    exact hset.trans (.of_inserted rfl rfl fun _ => admitsTask_file hadmits)

theorem recordItem_carried {result : ℕ × Option ℕ}
    (h : recordItem texts db now subscriptionId item relativePath createTransfers =
      .ok (db', result)) : Carried db db' := by
  unfold recordItem at h
  simp only [bind, Except.bind, pure, Except.pure] at h
  split at h
  · cases h
  next recorded hrecorded =>
  have hfile := recordFile_carried hrecorded
  split_ifs at h
  · cases h
    refine hfile.trans (.of_same ?_ ?_) <;> unfold recordCheckpoint <;> split <;> rfl
  · split at h
    · cases h
    next queued hqueued =>
    cases h
    exact hfile.trans (queueTransfer_carried hqueued)
  · cases h
    exact hfile

/-- What an item that is owed a transfer gets when no task holds its key. -/
theorem recordItem_owed {result : ℕ × Option ℕ}
    (h : recordItem texts db now subscriptionId item relativePath createTransfers =
      .ok (db', result))
    (howed : owedItem db subscriptionId createTransfers item)
    (hkey : db.keyTaken (transferKey subscriptionId item.remoteFileId
      (fingerprintItem texts item)) = false) :
    (∃ file, db'.files.get? db.files.nextId = some file ∧
      file.subscriptionId = subscriptionId) ∧ hasTransfer db' subscriptionId db.files.nextId := by
  unfold owedItem at howed
  simp only [Bool.and_eq_true, decide_eq_true_eq, Option.isNone_iff_eq_none] at howed
  obtain ⟨⟨hct, hfolder⟩, hfind⟩ := howed
  unfold recordItem at h
  simp only [bind, Except.bind, pure, Except.pure] at h
  split at h
  · cases h
  next recorded hrecorded =>
  obtain ⟨hsub, heq⟩ := recordFile_new hfind hrecorded
  subst heq
  rw [if_neg hfolder, hct] at h
  simp only [Bool.true_or, Bool.and_self, if_true] at h
  split at h
  · cases h
  next queued hqueued =>
  cases h
  have hcarried := queueTransfer_carried hqueued
  refine ⟨?_, ?_⟩
  · obtain ⟨file, hget, hsame⟩ := hcarried.files _ _ (Table.get?_insert_nextId db.files _)
    exact ⟨file, hget, hsame⟩
  · unfold queueTransfer at hqueued
    dsimp only at hqueued
    rw [if_neg (by rw [Bool.not_eq_true]; exact hkey)] at hqueued
    obtain ⟨id, hok⟩ := TaskOwnership.map_snd_ok hqueued
    obtain ⟨-, -, heq⟩ := createTask_ok hok
    rw [heq]
    exact hasTransfer_iff.mpr ⟨_, _, Table.get?_insert_nextId _ _, rfl⟩

end Items

/-- Everything owed exists and is served. -/
def Kept (s : State) : Prop := Grounded s ∧ s.served

theorem Carried.keeps {db db' : Database} (h : Carried db db') {owed : List (ℕ × ℕ)}
    (hs : Kept ⟨db, owed⟩) : Kept ⟨db', owed⟩ :=
  ⟨h.grounded_state hs.1, h.served hs.2⟩

theorem Kept.owe {db : Database} {owed : List (ℕ × ℕ)} (h : Kept ⟨db, owed⟩)
    {subscriptionId fileId : ℕ}
    (hfile : ∃ file, db.files.get? fileId = some file ∧ file.subscriptionId = subscriptionId)
    (ht : hasTransfer db subscriptionId fileId) :
    Kept ⟨db, owed ++ [(subscriptionId, fileId)]⟩ := by
  refine ⟨⟨h.1.tasks, fun entry hentry => ?_⟩, ?_⟩
  · rcases List.mem_append.mp hentry with hold | hnew
    · exact h.1.owed entry hold
    · rw [List.mem_singleton.mp hnew]
      exact hfile
  · have hserved := h.2
    unfold State.served at hserved ⊢
    rw [List.all_append, hserved, List.all_cons, ht]
    rfl

theorem recordPage_keeps {texts : Texts} {now : Time} {subscriptionId : ℕ}
    {parentPath : PurePosixPath} {createTransfers : Bool} {items : List RemoteItem}
    {db db' : Database} {result : ℕ × List ℕ} {owed : List (ℕ × ℕ)}
    (hok : recordPage texts now subscriptionId parentPath createTransfers items db =
      .ok (db', result))
    (hclear : clearPage texts now subscriptionId parentPath createTransfers items db)
    (hs : Kept ⟨db, owed⟩) :
    Kept ⟨db', owed ++ (owedByPage texts now subscriptionId parentPath createTransfers items
      db).map fun fileId => (subscriptionId, fileId)⟩ := by
  induction items generalizing db owed result with
  | nil =>
    cases hok
    simpa [owedByPage] using hs
  | cons item items ih =>
    unfold recordPage at hok
    simp only [bind, Except.bind, pure, Except.pure] at hok
    split at hok
    · cases hok
    next first hfirst =>
    split at hok
    · cases hok
    next rest hrest =>
    cases hok
    unfold clearPage at hclear
    unfold owedByPage
    rw [hfirst] at hclear ⊢
    simp only [Except.map, committed, Bool.and_eq_true, decide_eq_true_eq,
      Bool.not_eq_true'] at hclear ⊢
    have hcarried := recordItem_carried hfirst
    rw [List.map_append, ← List.append_assoc]
    refine ih hrest hclear.2 ?_
    by_cases howed : owedItem db subscriptionId createTransfers item
    · rw [if_pos howed, List.map_singleton]
      obtain ⟨hfile, htransfer⟩ := recordItem_owed hfirst howed (hclear.1 howed)
      exact (hcarried.keeps hs).owe hfile htransfer
    · rw [if_neg howed, List.map_nil, List.append_nil]
      exact hcarried.keeps hs

theorem get?_cascade {db : Database} {subscriptionId : ℕ} {id : ℕ} :
    (cascade db subscriptionId).tasks.get? id = (db.tasks.get? id).map fun task =>
      if usesFileOf db subscriptionId task then withoutFile task else task := by
  unfold cascade
  rw [Table.get?_update]

theorem deleteSubscription_keeps {db db' : Database} {subscriptionId : ℕ} {owed : List (ℕ × ℕ)}
    (hok : deleteSubscription db subscriptionId = .ok db') (hs : Kept ⟨db, owed⟩) :
    Kept ⟨db', owed.filter fun entry => entry.1 ≠ subscriptionId⟩ := by
  unfold deleteSubscription at hok
  split_ifs at hok
  cases hok
  have hfile (id : ℕ) (file : CloudFile) (hget : db.files.get? id = some file)
      (hsub : file.subscriptionId ≠ subscriptionId) :
      (db.files.delete fun _ file => file.subscriptionId = subscriptionId).get? id = some file := by
    rw [Table.get?_delete, hget, Option.filter_some_eq_some]
    simpa using hsub
  refine ⟨⟨fun id task' hget fileId hf => ?_, fun entry hentry => ?_⟩, ?_⟩
  · rw [get?_cascade, Table.get?_update, Option.map_map, Option.map_eq_some_iff] at hget
    obtain ⟨task, hget, heq⟩ := hget
    simp only [Function.comp_apply, decide_eq_true_eq] at heq
    by_cases hsub : task.subscriptionId = some subscriptionId
    · rw [if_pos hsub] at heq
      rw [← heq] at hf
      split_ifs at hf <;> cases hf
    · rw [if_neg hsub] at heq
      split_ifs at heq with huses
      · rw [← heq] at hf
        cases hf
      · subst heq
        obtain ⟨file, hgetFile⟩ := Option.isSome_iff_exists.mp (hs.1.tasks id task hget fileId hf)
        change (Table.get? (db.files.delete _) fileId).isSome
        rw [hfile fileId file hgetFile]
        · rfl
        · intro hsame
          refine huses ?_
          unfold usesFileOf
          simp [hf, hgetFile, hsame]
  · obtain ⟨hmem, hne⟩ := List.mem_filter.mp hentry
    obtain ⟨file, hget, hsub⟩ := hs.1.owed entry hmem
    refine ⟨file, hfile _ _ hget ?_, hsub⟩
    rw [hsub]
    simpa using hne
  · have hserved := hs.2
    unfold State.served at hserved ⊢
    rw [List.all_eq_true] at hserved ⊢
    intro entry hentry
    obtain ⟨hmem, hne⟩ := List.mem_filter.mp hentry
    obtain ⟨file, hgetFile, hsub⟩ := hs.1.owed entry hmem
    obtain ⟨id, task, hget, hrefs⟩ := hasTransfer_iff.mp (hserved entry hmem)
    have hne : entry.1 ≠ subscriptionId := by simpa using hne
    have hrefs' := hrefs
    unfold refs at hrefs'
    simp only [Prod.mk.injEq] at hrefs'
    obtain ⟨-, htaskSub, htaskFile⟩ := hrefs'
    refine hasTransfer_iff.mpr ⟨id, task, ?_, hrefs⟩
    rw [get?_cascade, Table.get?_update, hget, Option.map_some, Option.map_some, if_neg, if_neg]
    · rw [decide_eq_true_eq, htaskSub, Option.some.injEq]
      exact hne
    · rw [if_neg]
      · unfold usesFileOf
        simp [htaskFile, hgetFile, hsub, hne]
      · rw [decide_eq_true_eq, htaskSub, Option.some.injEq]
        exact hne

theorem event_keeps {texts : Texts} {s : State} {event : Event} (hs : Kept s)
    (hclear : event.clear texts s.db) : Kept (event.step texts s) := by
  cases event with
  | addSubscription subscription =>
    refine Carried.keeps ?_ hs
    simp only [Event.apply]
    cases hok : addSubscription s.db subscription with
    | error e => exact .refl _
    | ok db' =>
      unfold addSubscription at hok
      split_ifs at hok
      cases hok
      exact .of_same rfl rfl
  | page now subscriptionId parentPath createTransfers items =>
    simp only [Event.step, Event.apply]
    cases hok : recordPage texts now subscriptionId parentPath createTransfers items s.db with
    | error e => exact hs
    | ok result => exact recordPage_keeps hok hclear hs
  | stampCheckpoint | dropUnseen | scanFinished =>
    change Kept ⟨_, s.owed⟩
    refine (?_ : Carried s.db _).keeps hs
    exact .of_same rfl rfl
  | task op =>
    change Kept ⟨op.apply s.db, s.owed⟩
    exact (operation_carried op s.db).keeps hs
  | deleteSubscription subscriptionId =>
    simp only [Event.step, Event.apply]
    cases hok : deleteSubscription s.db subscriptionId with
    | error e => exact hs
    | ok db' => exact deleteSubscription_keeps hok hs

/-- In a history whose pages find no task that holds the key of an item they
owe a transfer, every state serves every file it owes. -/
theorem clear_history_served (texts : Texts) (accounts : Table CloudAccount) (events : List Event)
    (hclear : allClear texts events (initial accounts)) :
    ∀ s ∈ states texts events (initial accounts), s.served := by
  have hrun : ∀ (events : List Event) (s : State), Kept s → allClear texts events s →
      ∀ s' ∈ states texts events s, s'.served := by
    intro events
    induction events with
    | nil =>
      intro s hs _ s' hmem
      rw [List.mem_singleton.mp hmem]
      exact hs.2
    | cons event events ih =>
      intro s hs hclear s' hmem
      unfold allClear at hclear
      rw [Bool.and_eq_true] at hclear
      rcases List.mem_cons.mp hmem with hfirst | hrest
      · rw [hfirst]
        exact hs.2
      · exact ih _ (event_keeps hs hclear.1) hclear.2 s' hrest
  refine hrun events (initial accounts) ⟨⟨fun id task hget => ?_, fun _ h => ?_⟩, rfl⟩ hclear
  · change Table.empty.get? id = some task at hget
    rw [Table.get?_empty] at hget
    contradiction
  · exact absurd h List.not_mem_nil

/-- The events a scan of one subscription consists of. -/
def Event.ofScan (subscriptionId : ℕ) : Event → Prop
  | page _ scanned _ _ _ => scanned = subscriptionId
  | dropUnseen scanned _ => scanned = subscriptionId
  | scanFinished scanned _ _ _ _ => scanned = subscriptionId
  | stampCheckpoint _ _ => True
  | _ => False

/-- Scan events lead from one database to the other. -/
def Scanned (texts : Texts) (subscriptionId : ℕ) (db db' : Database) : Prop :=
  ∃ events : List Event, (∀ event ∈ events, event.ofScan subscriptionId) ∧
    db' = events.foldl (Event.apply texts) db

theorem Scanned.refl (texts : Texts) (subscriptionId : ℕ) (db : Database) :
    Scanned texts subscriptionId db db :=
  ⟨[], fun _ h => absurd h List.not_mem_nil, rfl⟩

theorem scanned_event {texts : Texts} {subscriptionId : ℕ} {db : Database} (event : Event)
    (h : event.ofScan subscriptionId) : Scanned texts subscriptionId db (event.apply texts db) :=
  ⟨[event], fun _ hmem => List.mem_singleton.mp hmem ▸ h, rfl⟩

theorem Scanned.trans {texts : Texts} {subscriptionId : ℕ} {db db' db'' : Database}
    (h : Scanned texts subscriptionId db db') (h' : Scanned texts subscriptionId db' db'') :
    Scanned texts subscriptionId db db'' := by
  obtain ⟨events, hscan, heq⟩ := h
  obtain ⟨events', hscan', heq'⟩ := h'
  refine ⟨events ++ events', fun event hmem => ?_, ?_⟩
  · rcases List.mem_append.mp hmem with hleft | hright
    · exact hscan event hleft
    · exact hscan' event hright
  · rw [List.foldl_append, ← heq, heq']

section Program
variable {π ι : Type} {context : ScanContext π} {subscriptionId : ℕ}

/-- The scan relation between the worlds before and after an effect. -/
def ScannedWorld (context : ScanContext π) (subscriptionId : ℕ) (w w' : ScanWorld π) : Prop :=
  Scanned context.texts subscriptionId w.db w'.db

theorem ScannedWorld.refl (w : ScanWorld π) : ScannedWorld context subscriptionId w w :=
  Scanned.refl _ _ _

theorem raiseIfCancelled_within :
    Within (ScannedWorld context subscriptionId) raiseIfCancelled := by
  refine .bind (.look ScannedWorld.refl) fun requested => ?_
  split_ifs
  · exact .throw _
  · exact .pure _

theorem transact_within {α : Type} {act : Time → Database → Except ScanError (α × Database)}
    (hact : ∀ now db a db', act now db = .ok (a, db') →
      Scanned context.texts subscriptionId db db') :
    Within (ScannedWorld context subscriptionId) (transact act) := by
  refine .effect fun w => ?_
  cases hok : act w.clock w.db with
  | error e => exact .refl w
  | ok result => exact hact _ _ _ _ hok

theorem recordPage_scanned {now : Time} {parentPath : PurePosixPath} {createTransfers : Bool}
    {items : List RemoteItem} {db db' : Database} {result : ℕ × List ℕ}
    (hok : recordPage context.texts now subscriptionId parentPath createTransfers items db =
      .ok (db', result)) : Scanned context.texts subscriptionId db db' := by
  have hpage : Scanned context.texts subscriptionId db _ :=
    scanned_event (.page now subscriptionId parentPath createTransfers items) rfl
  simp only [Event.apply, hok, Except.map, committed] at hpage
  exact hpage

theorem commitPage_within {scan : FolderScan} (hscan : scan.subscriptionId = subscriptionId)
    {parentPath : PurePosixPath} {page : RemotePage} :
    Within (ScannedWorld context subscriptionId) (commitPage context scan parentPath page) := by
  refine transact_within fun now db result db' hok => ?_
  split at hok
  next recorded hrecorded =>
    cases hok
    exact recordPage_scanned (hscan ▸ hrecorded)
  · cases hok

theorem scanPages_within {scan : FolderScan} (hscan : scan.subscriptionId = subscriptionId)
    {parentId : String} {parentPath : PurePosixPath} (fuel : ℕ) (marker : Option String)
    (seenMarkers seenItemIds : List String) (result : ScanResult) (childFolders : List ℕ) :
    Within (ScannedWorld context subscriptionId) (scanPages context scan parentId parentPath fuel
      marker seenMarkers seenItemIds result childFolders) := by
  induction fuel generalizing marker seenMarkers seenItemIds result childFolders with
  | zero => exact .throw _
  | succ fuel ih =>
    refine .bind raiseIfCancelled_within fun _ => .bind (.effect fun w => .refl w) fun page => ?_
    dsimp only
    split_ifs
    · exact .pure _
    · exact .bind (.ofExcept _) fun _ => .bind (commitPage_within hscan) fun _ => .pure _
    · exact .bind (.ofExcept _) fun _ => .bind (commitPage_within hscan) fun _ => ih _ _ _ _ _

theorem scanCheckpoints_within {visit : FolderCheckpoint → ScanProg π ScanResult}
    (hvisit : ∀ checkpoint, Within (ScannedWorld context subscriptionId) (visit checkpoint))
    (checkpoints : List ℕ) (result : ScanResult) :
    Within (ScannedWorld context subscriptionId) (scanCheckpoints visit checkpoints result) := by
  induction checkpoints generalizing result with
  | nil => exact .pure _
  | cons checkpointId rest ih =>
    refine .bind raiseIfCancelled_within fun _ => .bind (.look ScannedWorld.refl) fun checkpoint =>
      .bind (hvisit checkpoint) fun child => .bind (transact_within ?_) fun _ => ih _
    intro now db _ db' hok
    cases hok
    exact scanned_event (.stampCheckpoint checkpointId now) trivial

theorem scanFolderFull_within {scan : FolderScan} (hscan : scan.subscriptionId = subscriptionId)
    (fuel : ℕ) (parentId : String) (parentPath : PurePosixPath) :
    Within (ScannedWorld context subscriptionId)
      (scanFolderFull context scan fuel parentId parentPath) := by
  induction fuel generalizing parentId parentPath with
  | zero => exact .throw _
  | succ fuel ih =>
    exact .bind (scanPages_within hscan _ _ _ _ _ _) fun found =>
      scanCheckpoints_within (fun checkpoint => ih _ _) _ _

theorem scanFolderBatch_within {scan : FolderScan} (hscan : scan.subscriptionId = subscriptionId)
    (fuel : ℕ) (rootFolderId : String) :
    Within (ScannedWorld context subscriptionId)
      (scanFolderBatch context scan fuel rootFolderId) :=
  .bind (scanPages_within hscan _ _ _ _ _ _) fun _ => .bind (.look ScannedWorld.refl) fun _ =>
    scanCheckpoints_within (fun _ => .bind (scanPages_within hscan _ _ _ _ _ _) fun _ => .pure _)
      _ _

theorem resolveShare_within (subscription : Subscription) :
    Within (ScannedWorld context subscriptionId) (resolveShare context subscription) := by
  unfold resolveShare
  exact .bind (.ofExcept _) fun _ => .effect fun w => .refl w

theorem finishScan_within (subscription : Subscription) (fullScan : Bool) :
    Within (ScannedWorld context subscriptionId)
      (finishScan context subscriptionId subscription fullScan) := by
  refine transact_within fun now db result db' hok => ?_
  split at hok
  · cases hok
  next next hnext =>
    cases hok
    exact scanned_event (.scanFinished subscriptionId fullScan now next subscription.enabled) rfl

theorem scanFolders_within {scan : FolderScan} (hscan : scan.subscriptionId = subscriptionId)
    (fuel : ℕ) (fullScan : Bool) (startedAt : Time) (rootFolderId : String) :
    Within (ScannedWorld context subscriptionId)
      (scanFolders context scan fuel fullScan startedAt rootFolderId) := by
  unfold scanFolders
  split_ifs
  · refine .bind (scanFolderFull_within hscan _ _ _) fun result =>
      .bind raiseIfCancelled_within fun _ => .bind (transact_within ?_) fun _ => .pure _
    intro now db _ db' hok
    cases hok
    exact scanned_event (.dropUnseen scan.subscriptionId startedAt) hscan
  · exact scanFolderBatch_within hscan _ _

theorem executeScanDomain_within (fuel : ℕ) (subscription : Subscription) (forceFull : Bool) :
    Within (ScannedWorld context subscriptionId)
      (executeScanDomain context fuel subscriptionId subscription forceFull) :=
  .bind raiseIfCancelled_within fun _ => .bind (resolveShare_within _) fun _ =>
    .bind (.look ScannedWorld.refl) fun _ => .bind (scanFolders_within (by rfl) _ _ _ _) fun _ =>
      .bind raiseIfCancelled_within fun _ => .bind (finishScan_within _ _) fun _ => .pure _

/-- However a scan ends, what it did to the rows is a history of scan events. -/
theorem scan_is_history [Surroundings (ScanWorld π) ι]
    (hmove : ∀ (i : ι) (w : ScanWorld π), ScannedWorld context subscriptionId w
      (Surroundings.move i w)) (fuel : ℕ) (subscription : Subscription) (forceFull : Bool)
    (es : Schedule ι) (w : ScanWorld π) :
    Scanned context.texts subscriptionId w.db
      ((executeScanDomain context fuel subscriptionId subscription forceFull).run es w).2.1.db :=
  (executeScanDomain_within fuel subscription forceFull).run ScannedWorld.refl Scanned.trans hmove
    es w

end Program

section Recreated

/-- The digest of the sample item, and no other. -/
def sampleTexts : Texts where
  sha256 text :=
    if text = "f1\x00file\x007\x00\x00" then
      "859afe11fe406cfb897932cdac6119a1200129bb47533cc3bfc28fcdca714f21"
    else ""
  isoformat _ := ""

def sampleAccounts : Table CloudAccount :=
  Table.empty.insert { provider := "pan123", name := "main", refreshToken := "token" }

def sampleSubscription : Subscription where
  cloudAccountId := 1
  name := "show"
  provider := "pan123"
  shareUrl := "https://share.example/1"
  targetPath := "/shows"

def samplePage (now : Time) : Event :=
  .page now 1 (.ofString "") true
    [{ remoteFileId := "f1", parentId := none, filename := "e01.mkv", itemType := "file",
       size := some 7 }]

/-- A subscription is scanned, its transfer succeeds, it is deleted, created
again and scanned again. -/
def recreated : List Event :=
  [.addSubscription sampleSubscription, samplePage 10,
    .task (.claimNext 11 "token" "worker" 60 none),
    .task (.finishRun 12 1 1 "worker" "token" .running .success .success {}),
    .deleteSubscription 1, .addSubscription sampleSubscription, samplePage 20]

/-- The second subscription gets the key of the first one, and its file the key
of a task that has long ended: the file waits for a transfer that never comes. -/
theorem recreated_not_served :
    ¬ ∀ s ∈ states sampleTexts recreated (initial sampleAccounts), s.served := by
  decide

theorem clear_history_served_once :
    (states sampleTexts (recreated.take 6) (initial sampleAccounts)).all State.served = true :=
  List.all_eq_true.mpr
    (clear_history_served sampleTexts sampleAccounts (recreated.take 6) (by decide))

end Recreated

end MediaSync.SubscriptionHistory
