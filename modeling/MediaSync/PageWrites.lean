import MediaSync.SubscriptionHistory

/-!
# What recording a page writes

A page of a listing is recorded item by item: rows of files and folder
checkpoints are written, and pending transfer tasks of the subscription are
created. A relation that allows these writes holds across the whole page.
-/
namespace MediaSync.PageWrites
open RowTables TaskTables TaskRepository SubscriptionScan

/-- The relation allows every write of a page. -/
structure Allows (subscriptionId : ℕ) (R : Database → Database → Prop) : Prop where
  trans {db db' db'' : Database} : R db db' → R db' db'' → R db db''
  rows {db db' : Database} : db'.accounts = db.accounts → db'.subscriptions = db.subscriptions →
    db'.tasks = db.tasks → R db db'
  queue {db db' : Database} {now : Time} {fileId id : ℕ} {key : String} :
    createTask db now (transferTask subscriptionId fileId key) = .ok (id, db') → R db db'

section Writes
variable {texts : Texts} {now : Time} {subscriptionId : ℕ} {createTransfers : Bool}
  {db db' : Database} {R : Database → Database → Prop}

theorem recordFile_writes (hR : Allows subscriptionId R) {item : RemoteItem} {path : String}
    {recorded : Recorded}
    (h : recordFile texts db now subscriptionId item path = .ok recorded) : R db recorded.db := by
  unfold recordFile at h
  split at h
  · split_ifs at h
    cases h
    exact hR.rows rfl rfl rfl
  · cases h
    exact hR.rows rfl rfl rfl

theorem queueTransfer_writes (hR : Allows subscriptionId R) {fileId : ℕ} {file : CloudFile}
    (h : queueTransfer db now subscriptionId fileId file = .ok db') : R db db' := by
  unfold queueTransfer at h
  dsimp only at h
  split_ifs at h
  · cases h
    exact hR.rows rfl rfl rfl
  · obtain ⟨id, hok⟩ := TaskOwnership.map_snd_ok h
    have hmarked : R db (setFile db fileId markPending) := hR.rows rfl rfl rfl
    exact hR.trans hmarked (hR.queue hok)

theorem recordItem_writes (hR : Allows subscriptionId R) {item : RemoteItem} {path : String}
    {result : ℕ × Option ℕ}
    (h : recordItem texts db now subscriptionId item path createTransfers = .ok (db', result)) :
    R db db' := by
  unfold recordItem at h
  obtain ⟨recorded, hfile, h⟩ := FaultPrograms.bind_ok h
  have hrecorded := recordFile_writes hR hfile
  dsimp only at h
  split_ifs at h
  · cases h
    refine hR.trans hrecorded ?_
    unfold recordCheckpoint
    split
    · exact hR.rows rfl rfl rfl
    · exact hR.rows rfl rfl rfl
  · obtain ⟨queued, hqueue, h⟩ := FaultPrograms.bind_ok h
    cases h
    exact hR.trans hrecorded (queueTransfer_writes hR hqueue)
  · cases h
    exact hrecorded

theorem recordPage_writes (hR : Allows subscriptionId R) {parentPath : PosixPaths.PurePosixPath}
    {items : List RemoteItem} {result : ℕ × List ℕ}
    (h : recordPage texts now subscriptionId parentPath createTransfers items db =
      .ok (db', result)) : R db db' := by
  induction items generalizing db result with
  | nil =>
    cases h
    exact hR.rows rfl rfl rfl
  | cons item items ih =>
    unfold recordPage at h
    obtain ⟨⟨db₁, first⟩, hitem, h⟩ := FaultPrograms.bind_ok h
    obtain ⟨⟨db₂, rest⟩, hrest, h⟩ := FaultPrograms.bind_ok h
    cases h
    exact hR.trans (recordItem_writes hR hitem) (ih hrest)

/-- The transaction that records a page. -/
theorem page_writes (hR : Allows subscriptionId R) (texts : Texts) (now : Time)
    (parentPath : PosixPaths.PurePosixPath) (createTransfers : Bool) (items : List RemoteItem) :
    R db (SubscriptionHistory.committed db
      ((recordPage texts now subscriptionId parentPath createTransfers items db).map
        Prod.fst)) := by
  cases hpage : recordPage texts now subscriptionId parentPath createTransfers items db with
  | error e => exact hR.rows rfl rfl rfl
  | ok result => exact recordPage_writes hR hpage

end Writes

end MediaSync.PageWrites
