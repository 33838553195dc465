import MediaSync.Common.QuietRuns
import MediaSync.RemoteTrees
import MediaSync.TaskOwnership

/-!
# What a full scan covers

A full scan walks the remote tree and visits a folder once for each time a page
shows it. What it records at a folder's place in the tree stays recorded, since
an item has one place: `Retains` says what no step of the scan undoes. The scan
covers the tree when no page shows a folder again, every last page brings
something new or nothing at all, and the root has no checkpoint of its own.
-/
namespace MediaSync.FullScanCoverage
open FaultPrograms QuietRuns RowTables PosixPaths TaskTables TaskRepository SubscriptionScan
  PreorderWalks RemoteTrees

/-! ## What the rows say -/

def RecordedAt (db : Database) (subscriptionId : ℕ) (id path : String) : Prop :=
  ∃ fileId file, findFile db subscriptionId id = some (fileId, file) ∧ file.relativePath = path

/-- The checkpoint row of a folder that has been seen since the scan began. -/
def CheckpointAt (db : Database) (subscriptionId : ℕ) (startedAt : Time) (checkpointId : ℕ)
    (id path : String) : Prop :=
  ∃ checkpoint, db.folderCheckpoints.get? checkpointId = some checkpoint ∧
    checkpoint.subscriptionId = subscriptionId ∧ checkpoint.remoteFolderId = id ∧
    checkpoint.relativePath = path ∧ startedAt ≤ checkpoint.lastSeenAt

/-- What a step of a scan leaves in place, where `P` gives each remote id its
relative path. Checkpoints of ids without a path are neither made nor touched. -/
structure Retains (P : String → String → Prop) (subscriptionId : ℕ) (startedAt : Time)
    (db db' : Database) : Prop where
  subscription : (db.subscriptions.get? subscriptionId).isSome →
    (db'.subscriptions.get? subscriptionId).isSome
  files : ∀ id path, P id path → RecordedAt db subscriptionId id path →
    RecordedAt db' subscriptionId id path
  checkpoints : ∀ checkpointId id path, P id path →
    CheckpointAt db subscriptionId startedAt checkpointId id path →
    CheckpointAt db' subscriptionId startedAt checkpointId id path
  others : ∀ id, (∀ path, ¬P id path) → ∀ checkpointId checkpoint',
    db'.folderCheckpoints.get? checkpointId = some checkpoint' →
    checkpoint'.subscriptionId = subscriptionId → checkpoint'.remoteFolderId = id →
    ∃ checkpoint, db.folderCheckpoints.get? checkpointId = some checkpoint ∧
      checkpoint.subscriptionId = subscriptionId ∧ checkpoint.remoteFolderId = id ∧
      checkpoint.lastSeenAt = checkpoint'.lastSeenAt

theorem forall₂_right {α β : Type} {R : α → β → Prop} {as : List α} {bs : List β}
    (h : List.Forall₂ R as bs) {b : β} (hb : b ∈ bs) : ∃ a ∈ as, R a b := by
  induction h with
  | nil => exact absurd hb List.not_mem_nil
  | cons hR _ ih =>
    rcases List.mem_cons.mp hb with rfl | hb
    · exact ⟨_, List.mem_cons_self .., hR⟩
    · obtain ⟨a, ha, hRa⟩ := ih hb
      exact ⟨a, List.mem_cons_of_mem _ ha, hRa⟩

section Rows
variable {P : String → String → Prop} {subscriptionId : ℕ} {startedAt : Time}
  {db db' db'' : Database}

theorem Retains.refl (db : Database) : Retains P subscriptionId startedAt db db where
  subscription h := h
  files _ _ _ h := h
  checkpoints _ _ _ _ h := h
  others _ _ _ checkpoint' hget hsub hid := ⟨checkpoint', hget, hsub, hid, rfl⟩

theorem Retains.trans (h : Retains P subscriptionId startedAt db db')
    (h' : Retains P subscriptionId startedAt db' db'') :
    Retains P subscriptionId startedAt db db'' where
  subscription hsub := h'.subscription (h.subscription hsub)
  files id path hP hfile := h'.files id path hP (h.files id path hP hfile)
  checkpoints checkpointId id path hP hat :=
    h'.checkpoints checkpointId id path hP (h.checkpoints checkpointId id path hP hat)
  others id hP checkpointId checkpoint'' hget hsub hid := by
    obtain ⟨checkpoint', hget', hsub', hid', hseen'⟩ :=
      h'.others id hP checkpointId checkpoint'' hget hsub hid
    obtain ⟨checkpoint, hget, hsub, hid, hseen⟩ :=
      h.others id hP checkpointId checkpoint' hget' hsub' hid'
    exact ⟨checkpoint, hget, hsub, hid, hseen.trans hseen'⟩

/-- A step that leaves the checkpoints alone. -/
theorem Retains.of_files (hsub : db'.subscriptions = db.subscriptions)
    (hcheckpoints : db'.folderCheckpoints = db.folderCheckpoints)
    (hfiles : ∀ id path, P id path → RecordedAt db subscriptionId id path →
      RecordedAt db' subscriptionId id path) : Retains P subscriptionId startedAt db db' where
  subscription h := hsub ▸ h
  files := hfiles
  checkpoints _ _ _ _ h := by
    unfold CheckpointAt
    rw [hcheckpoints]
    exact h
  others _ _ _ checkpoint' hget hsame hid := ⟨checkpoint', hcheckpoints ▸ hget, hsame, hid, rfl⟩

/-- Writing to file rows without giving them to another item. -/
theorem findFile_setFile {fileId : ℕ} {f : CloudFile → CloudFile}
    (hsub : ∀ file, (f file).subscriptionId = file.subscriptionId)
    (hid : ∀ file, (f file).remoteFileId = file.remoteFileId) (id : String) :
    findFile (setFile db fileId f) subscriptionId id =
      (findFile db subscriptionId id).map fun row =>
      (row.1, if row.1 = fileId then f row.2 else row.2) := by
  unfold findFile setFile
  dsimp only
  rw [Table.select_update, List.head?_map]
  · simp only [decide_eq_true_eq]
  · intro _ file _
    rw [hsub, hid]

theorem findFile_insert (file : CloudFile) (id : String) :
    findFile { db with files := db.files.insert file } subscriptionId id =
      (findFile db subscriptionId id).or
        (if file.subscriptionId = subscriptionId ∧ file.remoteFileId = id then
          some (db.files.nextId, file) else none) := by
  unfold findFile
  dsimp only
  rw [Table.select_insert, List.head?_append]
  congr 1
  by_cases h : file.subscriptionId = subscriptionId ∧ file.remoteFileId = id
  · simp [h]
  · rw [if_neg h, if_neg (by simpa using h)]
    rfl

theorem findFile_some {id : String} {fileId : ℕ} {file : CloudFile}
    (h : findFile db subscriptionId id = some (fileId, file)) :
    db.files.get? fileId = some file ∧ file.subscriptionId = subscriptionId ∧
      file.remoteFileId = id := by
  obtain ⟨hget, hfile⟩ := Table.mem_select.mp (List.mem_of_head? h)
  simp only [Bool.and_eq_true, decide_eq_true_eq] at hfile
  exact ⟨hget, hfile⟩

theorem findCheckpoint_some {id : String} {checkpointId : ℕ} {checkpoint : FolderCheckpoint}
    (h : findCheckpoint db subscriptionId id = some (checkpointId, checkpoint)) :
    db.folderCheckpoints.get? checkpointId = some checkpoint ∧
      checkpoint.subscriptionId = subscriptionId ∧ checkpoint.remoteFolderId = id := by
  obtain ⟨hget, hrow⟩ := Table.mem_select.mp (List.mem_of_head? h)
  simp only [Bool.and_eq_true, decide_eq_true_eq] at hrow
  exact ⟨hget, hrow⟩

theorem findCheckpoint_isSome {id : String} : (findCheckpoint db subscriptionId id).isSome ↔
    ∃ checkpointId checkpoint, db.folderCheckpoints.get? checkpointId = some checkpoint ∧
      checkpoint.subscriptionId = subscriptionId ∧ checkpoint.remoteFolderId = id := by
  constructor
  · intro h
    obtain ⟨⟨checkpointId, checkpoint⟩, hfind⟩ := Option.isSome_iff_exists.mp h
    exact ⟨checkpointId, checkpoint, findCheckpoint_some hfind⟩
  · rintro ⟨checkpointId, checkpoint, hget, hsub, hid⟩
    have hmem : (checkpointId, checkpoint) ∈ db.folderCheckpoints.select fun _ checkpoint =>
        checkpoint.subscriptionId = subscriptionId && checkpoint.remoteFolderId = id :=
      Table.mem_select.mpr ⟨hget, by simp [hsub, hid]⟩
    unfold findCheckpoint
    rw [List.isSome_head?]
    exact fun hnil => List.ne_nil_of_mem hmem (List.isEmpty_iff.mp (by simpa using hnil))

theorem CheckpointAt.found {checkpointId : ℕ} {id path : String}
    (h : CheckpointAt db subscriptionId startedAt checkpointId id path) :
    (findCheckpoint db subscriptionId id).isSome := by
  obtain ⟨checkpoint, hget, hsub, hid, -⟩ := h
  exact findCheckpoint_isSome.mpr ⟨checkpointId, checkpoint, hget, hsub, hid⟩

section Items
variable {texts : Texts} {now : Time} {item : RemoteItem} {path : String} {createTransfers : Bool}

/-- Marking a file leaves its place as it is. -/
theorem Retains.of_setFile {fileId : ℕ} {f : CloudFile → CloudFile}
    (hsub : ∀ file, (f file).subscriptionId = file.subscriptionId)
    (hid : ∀ file, (f file).remoteFileId = file.remoteFileId)
    (hpath : ∀ id path file, P id path → findFile db subscriptionId id = some (fileId, file) →
      file.relativePath = path → (f file).relativePath = path) :
    Retains P subscriptionId startedAt db (setFile db fileId f) := by
  refine .of_files rfl rfl fun id path hP hrecorded => ?_
  obtain ⟨key, file, hfind, hfile⟩ := hrecorded
  refine ⟨key, if key = fileId then f file else file, ?_, ?_⟩
  · rw [findFile_setFile hsub hid, hfind]
    rfl
  · split_ifs with hkey
    · subst hkey
      exact hpath id path file hP hfind hfile
    · exact hfile

theorem recordFile_retains (texts : Texts) (now startedAt : Time)
    (hunique : ∀ path', P item.remoteFileId path' → path' = path)
    (hsub : (db.subscriptions.get? subscriptionId).isSome) :
    ∃ recorded, recordFile texts db now subscriptionId item path = .ok recorded ∧
      Retains P subscriptionId startedAt db recorded.db ∧
      RecordedAt recorded.db subscriptionId item.remoteFileId path ∧
      (recorded.db.files.get? recorded.fileId).isSome := by
  unfold recordFile
  cases hfind : findFile db subscriptionId item.remoteFileId with
  | none =>
    dsimp only
    rw [if_neg (by simpa [Option.isSome_iff_ne_none] using hsub)]
    refine ⟨_, rfl, .of_files rfl rfl fun id path' _ hrecorded => ?_, ?_, ?_⟩
    · obtain ⟨key, file, hkey, hfile⟩ := hrecorded
      refine ⟨key, file, ?_, hfile⟩
      rw [findFile_insert, hkey]
      rfl
    · refine ⟨db.files.nextId, newFile subscriptionId item path (fingerprintItem texts item) now,
        ?_, rfl⟩
      rw [findFile_insert, hfind, if_pos ⟨rfl, rfl⟩]
      rfl
    · simp
  | some found =>
    obtain ⟨fileId, file⟩ := found
    refine ⟨_, rfl,
      .of_setFile (fun _ => rfl) (fun _ => rfl) fun id path' other hP hother hfile => ?_, ?_, ?_⟩
    · have hsame := (findFile_some hother).2.2
      have hitem := (findFile_some hfind).2.2
      have hrow := (findFile_some hother).1.symm.trans (findFile_some hfind).1
      cases hrow
      exact (hunique path' (by rw [← hitem, hsame]; exact hP)).symm
    · refine ⟨fileId, seenAgain item path (fingerprintItem texts item) now file, ?_, rfl⟩
      dsimp only
      rw [findFile_setFile (f := seenAgain item path (fingerprintItem texts item) now)
        (fun _ => rfl) fun _ => rfl, hfind, Option.map_some, if_pos rfl]
    · dsimp only [setFile]
      rw [Table.get?_update, (findFile_some hfind).1]
      rfl

theorem queueTransfer_retains (P : String → String → Prop) (now startedAt : Time)
    {fileId : ℕ} (file : CloudFile)
    (hsub : (db.subscriptions.get? subscriptionId).isSome) (hfile : (db.files.get? fileId).isSome) :
    ∃ db', queueTransfer db now subscriptionId fileId file = .ok db' ∧
      Retains P subscriptionId startedAt db db' := by
  unfold queueTransfer
  dsimp only
  split_ifs with hkey
  · exact ⟨db, rfl, .refl db⟩
  · set key := transferKey subscriptionId file.remoteFileId file.fingerprint
    have hadmits : (setFile db fileId markPending).admitsTask
        ((transferTask subscriptionId fileId key).row now) := by
      have hfree : db.keyTaken key = false := by simpa using hkey
      have hfile' : ((setFile db fileId markPending).files.get? fileId).isSome := by
        unfold setFile
        rw [Table.get?_update, Option.isSome_map]
        exact hfile
      unfold Database.admitsTask
      simp only [transferTask, NewTask.row, Option.all_some, Option.all_none, Bool.and_true,
        Bool.and_eq_true, Bool.not_eq_true']
      exact ⟨⟨hfree, hsub⟩, hfile'⟩
    have hmark : Retains P subscriptionId startedAt db (setFile db fileId markPending) :=
      .of_setFile (fun _ => rfl) (fun _ => rfl) fun _ _ _ _ _ hfile => hfile
    unfold createTask
    rw [if_neg (by simp [transferTask]), if_neg (by simpa using hadmits)]
    refine ⟨_, rfl, ?_⟩
    exact hmark.trans (.of_files rfl rfl fun _ _ _ h => h)

theorem recordCheckpoint_retains (db : Database) (hP : P item.remoteFileId path)
    (hunique : ∀ path', P item.remoteFileId path' → path' = path) (hnow : startedAt ≤ now) :
    Retains P subscriptionId startedAt db
        (recordCheckpoint db now subscriptionId item path).1 ∧
      CheckpointAt (recordCheckpoint db now subscriptionId item path).1 subscriptionId startedAt
        (recordCheckpoint db now subscriptionId item path).2 item.remoteFileId path := by
  unfold recordCheckpoint
  cases hfind : findCheckpoint db subscriptionId item.remoteFileId with
  | none =>
    refine ⟨⟨fun h => h, fun _ _ _ h => h, ?_, ?_⟩, ?_⟩
    · rintro key id path' - ⟨checkpoint, hget, hrow⟩
      exact ⟨checkpoint, Table.get?_insert_of_some hget, hrow⟩
    · intro id hnone key checkpoint' hget hsub hid
      rw [Table.get?_insert] at hget
      split_ifs at hget
      · cases hget
        subst hid
        exact absurd hP (hnone path)
      · exact ⟨checkpoint', hget, hsub, hid, rfl⟩
    · exact ⟨_, Table.get?_insert_nextId _ _, rfl, rfl, rfl, hnow⟩
  | some found =>
    obtain ⟨checkpointId, checkpoint⟩ := found
    obtain ⟨hget, hsub, hid⟩ := findCheckpoint_some hfind
    refine ⟨⟨fun h => h, fun _ _ _ h => h, ?_, ?_⟩, ?_⟩
    · rintro key id path' hP' ⟨other, hother, hsub', hid', hpath', hseen⟩
      unfold CheckpointAt
      dsimp only
      rw [Table.get?_update, hother]
      refine ⟨_, rfl, ?_⟩
      split_ifs with hkey
      · have hkey := of_decide_eq_true hkey
        subst hkey
        cases hget.symm.trans hother
        exact ⟨hsub, hid', (hunique path' (by rw [← hid, hid']; exact hP')).symm, hnow⟩
      · exact ⟨hsub', hid', hpath', hseen⟩
    · intro id hnone key checkpoint' hget' hsub' hid'
      dsimp only at hget'
      rw [Table.get?_update, Option.map_eq_some_iff] at hget'
      obtain ⟨other, hother, heq⟩ := hget'
      split_ifs at heq with hkey
      · have hkey := of_decide_eq_true hkey
        subst hkey
        cases hget.symm.trans hother
        subst heq
        exact absurd hP (by rw [← hid]; exact hid' ▸ hnone path)
      · subst heq
        exact ⟨other, hother, hsub', hid', rfl⟩
    · unfold CheckpointAt
      dsimp only
      rw [Table.get?_update, hget]
      exact ⟨_, rfl, by simp [hsub, hid, hnow]⟩

/-- What an item at its place leaves behind. -/
structure Placed (subscriptionId : ℕ) (startedAt : Time) (item : RemoteItem) (path : String)
    (db : Database) (checkpoint : Option ℕ) : Prop where
  recorded : RecordedAt db subscriptionId item.remoteFileId path
  folder : checkpoint.isSome = isFolder item
  seen : ∀ checkpointId ∈ checkpoint,
    CheckpointAt db subscriptionId startedAt checkpointId item.remoteFileId path

theorem recordItem_retains (texts : Texts) (createTransfers : Bool) (hP : P item.remoteFileId path)
    (hunique : ∀ path', P item.remoteFileId path' → path' = path) (hnow : startedAt ≤ now)
    (hsub : (db.subscriptions.get? subscriptionId).isSome) :
    ∃ db' discovered checkpoint,
      recordItem texts db now subscriptionId item path createTransfers =
        .ok (db', discovered, checkpoint) ∧
      Retains P subscriptionId startedAt db db' ∧
      Placed subscriptionId startedAt item path db' checkpoint := by
  obtain ⟨recorded, hok, hretains, hrecorded, hfile⟩ :=
    recordFile_retains texts now startedAt hunique hsub
  unfold recordItem
  simp only [hok, bind, Except.bind, pure, Except.pure]
  split_ifs with hfolder hqueue
  · obtain ⟨hcheckpoint, hseen⟩ := recordCheckpoint_retains recorded.db hP hunique hnow
    refine ⟨_, _, _, rfl, hretains.trans hcheckpoint, ?_, ?_, ?_⟩
    · exact hcheckpoint.files _ _ hP hrecorded
    · simp [isFolder, hfolder]
    · rintro checkpointId ⟨⟩
      exact hseen
  · obtain ⟨db', hok', hqueued⟩ := queueTransfer_retains P now startedAt recorded.file
      (hretains.subscription hsub) hfile
    rw [hok']
    refine ⟨_, _, _, rfl, hretains.trans hqueued, ?_, ?_, ?_⟩
    · exact hqueued.files _ _ hP hrecorded
    · simp [isFolder, hfolder]
    · rintro checkpointId ⟨⟩
  · refine ⟨_, _, _, rfl, hretains, hrecorded, ?_, ?_⟩
    · simp [isFolder, hfolder]
    · rintro checkpointId ⟨⟩

/-- The checkpoint row of a folder at its place. -/
def FolderAt (P : String → String → Prop) (subscriptionId : ℕ) (startedAt : Time)
    (parentPath : PurePosixPath) (db : Database) (checkpointId : ℕ) (item : RemoteItem) : Prop :=
  P item.remoteFileId (parentPath.join item.filename).toString ∧
    CheckpointAt db subscriptionId startedAt checkpointId item.remoteFileId
      (parentPath.join item.filename).toString

theorem Retains.foldersAt (h : Retains P subscriptionId startedAt db db')
    {parentPath : PurePosixPath} {ids : List ℕ} {items : List RemoteItem}
    (hat : List.Forall₂ (FolderAt P subscriptionId startedAt parentPath db) ids items) :
    List.Forall₂ (FolderAt P subscriptionId startedAt parentPath db') ids items :=
  hat.imp fun _ _ hfolder => ⟨hfolder.1, h.checkpoints _ _ _ hfolder.1 hfolder.2⟩

theorem recordPage_retains (texts : Texts) {now : Time} {parentPath : PurePosixPath}
    (createTransfers : Bool) (hunique : ∀ id path path', P id path → P id path' → path = path')
    (hnow : startedAt ≤ now) {items : List RemoteItem}
    (hP : ∀ item ∈ items, P item.remoteFileId (parentPath.join item.filename).toString)
    (hsub : (db.subscriptions.get? subscriptionId).isSome) :
    ∃ db' discovered checkpoints,
      recordPage texts now subscriptionId parentPath createTransfers items db =
        .ok (db', discovered, checkpoints) ∧
      Retains P subscriptionId startedAt db db' ∧
      (∀ item ∈ items, RecordedAt db' subscriptionId item.remoteFileId
        (parentPath.join item.filename).toString) ∧
      List.Forall₂ (FolderAt P subscriptionId startedAt parentPath db') checkpoints
        (items.filter isFolder) := by
  induction items generalizing db with
  | nil => exact ⟨db, 0, [], rfl, .refl db, fun _ h => absurd h List.not_mem_nil, .nil⟩
  | cons item items ih =>
    have hitem := hP item (List.mem_cons_self ..)
    obtain ⟨db₁, discovered, checkpoint, hok, hretains, hplaced⟩ :=
      recordItem_retains texts createTransfers hitem (fun path' h => hunique _ _ _ h hitem)
        hnow hsub
    obtain ⟨db', rest, checkpoints, hok', hretains', hrecorded, hfolders⟩ :=
      ih (fun item' h => hP item' (List.mem_cons_of_mem _ h)) (hretains.subscription hsub)
    refine ⟨db', discovered + rest, checkpoint.toList ++ checkpoints, ?_,
      hretains.trans hretains', ?_, ?_⟩
    · simp only [recordPage, hok, hok', bind, Except.bind, pure, Except.pure]
    · intro item' hmem
      rcases List.mem_cons.mp hmem with rfl | hmem
      · exact hretains'.files _ _ hitem hplaced.recorded
      · exact hrecorded item' hmem
    · cases checkpoint with
      | none =>
        rw [List.filter_cons_of_neg (by simp [← hplaced.folder])]
        exact hfolders
      | some checkpointId =>
        rw [List.filter_cons_of_pos (by simp [← hplaced.folder])]
        exact .cons ⟨hitem, hretains'.checkpoints _ _ _ hitem (hplaced.seen _ rfl)⟩ hfolders

end Items

end Rows

/-! ## Walking the tree -/

/-- Time passes between two effects of a scan. -/
inductive ScanMove where
  | pass (time : ℕ)

instance {π : Type} : Surroundings (ScanWorld π) ScanMove where
  move
    | .pass time, w => { w with clock := w.clock + time }

theorem moved_pass {π : Type} {w w' : ScanWorld π} (h : Moved ScanMove w w') :
    ∃ time : ℕ, w' = { w with clock := w.clock + time } := by
  induction h with
  | refl w => exact ⟨0, by simp⟩
  | step i _ ih =>
    obtain ⟨earlier⟩ := i
    obtain ⟨time, rfl⟩ := ih
    refine ⟨earlier + time, ?_⟩
    simp only [Surroundings.move, Nat.cast_add, add_assoc]

theorem db_of_moved {π : Type} {w w' : ScanWorld π} (h : Moved ScanMove w w') : w'.db = w.db := by
  obtain ⟨time, rfl⟩ := moved_pass h
  rfl

theorem clock_of_moved {π : Type} {w w' : ScanWorld π} (h : Moved ScanMove w w') :
    w.clock ≤ w'.clock := by
  obtain ⟨time, rfl⟩ := moved_pass h
  exact Int.le_add_of_nonneg_right (Int.natCast_nonneg time)

/-- The scan can go on: its subscription is there and nobody has cancelled it. -/
structure Ready (subscriptionId : ℕ) (startedAt : Time) (w : ScanWorld Asked) : Prop where
  subscription : (w.db.subscriptions.get? subscriptionId).isSome
  clock : startedAt ≤ w.clock
  going : w.cancellationRequested = false

/-- The scan has gone from one state to another and has asked for the first
pages of these folders on the way. -/
structure Went (tree : RemoteTree) (subscriptionId : ℕ) (startedAt : Time) (folders : List String)
    (w w' : ScanWorld Asked) : Prop where
  rows : Retains tree.Located subscriptionId startedAt w.db w'.db
  ready : Ready subscriptionId startedAt w'
  asked : listed w'.provider = listed w.provider ++ folders

/-- Every item of the folder is recorded at its place, and its last page was
not refused. -/
structure Visited (tree : RemoteTree) (subscriptionId : ℕ) (startedAt : Time) (folder : String)
    (db : Database) : Prop where
  ends : EndsFresh (tree.pages folder)
  recorded : ∀ path, tree.At folder path → ∀ item ∈ tree.items folder,
    RecordedAt db subscriptionId item.remoteFileId (path.join item.filename).toString
  seen : ∀ path, tree.At folder path → ∀ item ∈ tree.subfolders folder,
    ∃ checkpointId, CheckpointAt db subscriptionId startedAt checkpointId item.remoteFileId
      (path.join item.filename).toString

/-- The scan has visited these folders. -/
structure Walked (tree : RemoteTree) (subscriptionId : ℕ) (startedAt : Time) (folders : List String)
    (w w' : ScanWorld Asked) : Prop extends Went tree subscriptionId startedAt folders w w' where
  visited : ∀ folder ∈ folders, Visited tree subscriptionId startedAt folder w'.db

/-- A scan stops at the first folder whose last page it refuses. -/
def Refused (tree : RemoteTree) (folders : List String) : Prop :=
  ∃ folder ∈ folders, ¬EndsFresh (tree.pages folder)

section Walk
variable {tree : RemoteTree} {subscriptionId : ℕ} {startedAt : Time}
  {folders folders' : List String}
  {w w' w'' : ScanWorld Asked} {folder : String} {path : PurePosixPath}

theorem located_item (hat : tree.At folder path) {item : RemoteItem}
    (hitem : item ∈ tree.items folder) :
    tree.Located item.remoteFileId (path.join item.filename).toString :=
  ⟨folder, path, item, hat, hitem, rfl, rfl⟩

theorem Visited.retained {db db' : Database} (h : Visited tree subscriptionId startedAt folder db)
    (hrows : Retains tree.Located subscriptionId startedAt db db') :
    Visited tree subscriptionId startedAt folder db' where
  ends := h.ends
  recorded path hat item hitem :=
    hrows.files _ _ (located_item hat hitem) (h.recorded path hat item hitem)
  seen path hat item hitem := by
    obtain ⟨checkpointId, hseen⟩ := h.seen path hat item hitem
    have hlocated := located_item hat (RemoteTree.mem_items_of_subfolders hitem)
    exact ⟨checkpointId, hrows.checkpoints _ _ _ hlocated hseen⟩

theorem Went.refl (hw : Ready subscriptionId startedAt w) :
    Went tree subscriptionId startedAt [] w w where
  rows := .refl w.db
  ready := hw
  asked := (List.append_nil _).symm

theorem Went.trans (h : Went tree subscriptionId startedAt folders w w')
    (h' : Went tree subscriptionId startedAt folders' w' w'') :
    Went tree subscriptionId startedAt (folders ++ folders') w w'' where
  rows := h.rows.trans h'.rows
  ready := h'.ready
  asked := by rw [h'.asked, h.asked, List.append_assoc]

theorem Went.of_moved (hw : Ready subscriptionId startedAt w) (h : Moved ScanMove w w') :
    Went tree subscriptionId startedAt [] w w' := by
  have hclock := hw.clock.trans (clock_of_moved h)
  obtain ⟨time, rfl⟩ := moved_pass h
  exact ⟨.refl _, ⟨hw.subscription, hclock, hw.going⟩, (List.append_nil _).symm⟩

theorem Walked.trans (h : Walked tree subscriptionId startedAt folders w w')
    (h' : Walked tree subscriptionId startedAt folders' w' w'') :
    Walked tree subscriptionId startedAt (folders ++ folders') w w'' where
  toWent := h.toWent.trans h'.toWent
  visited folder hmem := by
    rcases List.mem_append.mp hmem with hmem | hmem
    · exact (h.visited folder hmem).retained h'.rows
    · exact h'.visited folder hmem

/-- A step on the way that asks for no folder. -/
theorem Walked.andThen (h : Walked tree subscriptionId startedAt folders w w')
    (h' : Went tree subscriptionId startedAt [] w' w'') :
    Walked tree subscriptionId startedAt folders w w'' := by
  have hwalked : Walked tree subscriptionId startedAt [] w' w'' :=
    ⟨h', fun _ hmem => absurd hmem List.not_mem_nil⟩
  simpa using h.trans hwalked

theorem Walked.after (h : Went tree subscriptionId startedAt [] w w')
    (h' : Walked tree subscriptionId startedAt folders w' w'') :
    Walked tree subscriptionId startedAt folders w w'' := by
  have hwalked : Walked tree subscriptionId startedAt [] w w' :=
    ⟨h, fun _ hmem => absurd hmem List.not_mem_nil⟩
  simpa using hwalked.trans h'

/-- A transaction that happens at the present moment and cannot fail. -/
theorem transact_ends (tree : RemoteTree) {α : Type}
    {act : Time → Database → Except ScanError (α × Database)}
    {Q : α → ScanWorld Asked → Prop} {E : ScanError → ScanWorld Asked → Prop}
    (hw : Ready subscriptionId startedAt w)
    (h : ∀ w₁, w₁.db = w.db → Went tree subscriptionId startedAt [] w w₁ →
      ∃ a db, act w₁.clock w₁.db = .ok (a, db) ∧ Q a { w₁ with db := db }) :
    Ends ScanMove (transact act) Q E w := by
  apply Ends.effect
  · intro w₁ hmoved a hok
    obtain ⟨b, db, hact, hQ⟩ := h w₁ (db_of_moved hmoved) (.of_moved hw hmoved)
    simp only [hact] at hok ⊢
    cases hok
    exact hQ
  · intro w₁ hmoved e herror
    obtain ⟨b, db, hact, -⟩ := h w₁ (db_of_moved hmoved) (.of_moved hw hmoved)
    simp only [hact] at herror
    cases herror

theorem raiseIfCancelled_ends {Q : Unit → ScanWorld Asked → Prop}
    {E : ScanError → ScanWorld Asked → Prop} (hw : Ready subscriptionId startedAt w)
    (h : ∀ w₁, w₁.db = w.db → Went tree subscriptionId startedAt [] w w₁ → Q () w₁) :
    Ends ScanMove raiseIfCancelled Q E w := by
  unfold raiseIfCancelled
  refine .bind (.look ?_ ?_)
  · intro w₁ hmoved cancelled hview
    have hwent : Went tree subscriptionId startedAt [] w w₁ := .of_moved hw hmoved
    cases hview
    rw [hwent.ready.going]
    exact .pure (h w₁ (db_of_moved hmoved) hwent)
  · rintro w₁ - e ⟨⟩

variable {context : ScanContext Asked} {scan : FolderScan} {share : ShareInfo}

/-- Asking for the next page of a listing. -/
theorem listShareItems_ends (hprovider : context.provider = tree.provider share)
    {before after : List RemotePage} {page : RemotePage}
    (hpages : tree.pages folder = before ++ page :: after) {Q : RemotePage → ScanWorld Asked → Prop}
    {E : ScanError → ScanWorld Asked → Prop} (hw : Ready subscriptionId startedAt w)
    (h : ∀ w₁, Went tree subscriptionId startedAt (if before = [] then [folder] else []) w w₁ →
      Q page w₁) :
    Ends ScanMove (listShareItems context scan.share folder (cursor before)) Q E w := by
  have hpaginated := hpages ▸ tree.paginated folder
  have hpage : pageFor (tree.pages folder) (cursor before) = some page :=
    hpages ▸ pageFor_cursor hpaginated
  have hcursor : (cursor before).isNone = decide (before = []) := cursor_isNone hpaginated
  apply Ends.effect
  · intro w₁ hmoved answer hok
    have hwent : Went tree subscriptionId startedAt [] w w₁ := .of_moved hw hmoved
    rw [hprovider] at hok ⊢
    simp only [RemoteTree.provider, hpage] at hok ⊢
    cases hok
    refine h _ ⟨hwent.rows, ⟨hwent.ready.subscription, hwent.ready.clock, hwent.ready.going⟩, ?_⟩
    have hasked : listed w₁.provider = listed w.provider := by simpa using hwent.asked
    dsimp only
    rw [listed_append, hasked]
    congr 1
    simp only [listed, List.filter_singleton]
    by_cases hbefore : before = []
    · simp [hbefore, cursor]
    · have hsome : cursor before ≠ none := by
        intro hnone
        rw [hnone] at hcursor
        exact hbefore (of_decide_eq_true hcursor.symm)
      simp [hbefore, hsome]
  · intro w₁ hmoved e herror
    rw [hprovider] at herror
    simp only [RemoteTree.provider, hpage] at herror
    cases herror

theorem commitPage_ends (hat : tree.At folder path) {page : RemotePage}
    (hpage : ∀ item ∈ page.items, item ∈ tree.items folder)
    {Q : ℕ × List ℕ → ScanWorld Asked → Prop} {E : ScanError → ScanWorld Asked → Prop}
    (hw : Ready scan.subscriptionId startedAt w)
    (h : ∀ w₁ discovered checkpoints, Went tree scan.subscriptionId startedAt [] w w₁ →
      (∀ item ∈ page.items, RecordedAt w₁.db scan.subscriptionId item.remoteFileId
        (path.join item.filename).toString) →
      List.Forall₂ (FolderAt tree.Located scan.subscriptionId startedAt path w₁.db) checkpoints
        (page.items.filter isFolder) → Q (discovered, checkpoints) w₁) :
    Ends ScanMove (commitPage context scan path page) Q E w := by
  apply transact_ends tree hw
  intro w₁ _ hwent
  obtain ⟨db', discovered, checkpoints, hok, hretains, hrecorded, hfolders⟩ :=
    recordPage_retains (P := tree.Located) context.texts scan.createTransfers
      (fun _ _ _ => RemoteTree.Located.unique) hwent.ready.clock
      (fun item hitem => located_item hat (hpage item hitem)) hwent.ready.subscription
  simp only [hok]
  refine ⟨_, _, rfl, h _ discovered checkpoints ?_ hrecorded hfolders⟩
  have hready : Ready scan.subscriptionId startedAt { w₁ with db := db' } :=
    ⟨hretains.subscription hwent.ready.subscription, hwent.ready.clock, hwent.ready.going⟩
  exact hwent.trans ⟨hretains, hready, (List.append_nil _).symm⟩

theorem checkProgress_ok {page : RemotePage} {seenMarkers seenItemIds : List String}
    (h : checkProgress page seenMarkers seenItemIds = .ok ()) :
    ∃ id ∈ page.itemIds, id ∉ seenItemIds := by
  unfold checkProgress at h
  split_ifs at h with hall
  simpa using hall

theorem checkProgress_eq_ok {page : RemotePage} {seenMarkers seenItemIds : List String}
    (hitem : ∃ id ∈ page.itemIds, id ∉ seenItemIds)
    (hmarker : given page.nextMarker → ∀ marker ∈ page.nextMarker, marker ∉ seenMarkers) :
    checkProgress page seenMarkers seenItemIds = .ok () := by
  unfold checkProgress
  rw [if_neg (by simpa using hitem), if_neg]
  rw [Bool.and_eq_true, not_and]
  intro hgiven
  obtain ⟨marker, hsome⟩ := Option.isSome_iff_exists.mp (isSome_of_given hgiven)
  have hnew := hmarker hgiven marker hsome
  simpa [hsome] using hnew

/-- What the page loop leaves behind when it comes to the end of a listing. -/
structure Listed (tree : RemoteTree) (subscriptionId : ℕ) (startedAt : Time) (folder : String)
    (path : PurePosixPath) (before rest : List RemotePage) (children : List ℕ)
    (w w' : ScanWorld Asked) (children' : List ℕ) : Prop
    extends Went tree subscriptionId startedAt (if before = [] then [folder] else []) w w' where
  ends : EndsFresh (tree.pages folder)
  recorded : ∀ item ∈ entries rest, RecordedAt w'.db subscriptionId item.remoteFileId
    (path.join item.filename).toString
  folders : ∃ found, children' = children ++ found ∧
    List.Forall₂ (FolderAt tree.Located subscriptionId startedAt path w'.db) found
      ((entries rest).filter isFolder)

/-- One page, and then the pages after it. -/
theorem Listed.cons {before rest : List RemotePage} {page : RemotePage}
    {children checkpoints children' : List ℕ} (hat : tree.At folder path)
    (hpage : ∀ item ∈ page.items, item ∈ tree.items folder)
    (hwent : Went tree subscriptionId startedAt (if before = [] then [folder] else []) w w')
    (hrecorded : ∀ item ∈ page.items, RecordedAt w'.db subscriptionId item.remoteFileId
      (path.join item.filename).toString)
    (hfolders : List.Forall₂ (FolderAt tree.Located subscriptionId startedAt path w'.db) checkpoints
      (page.items.filter isFolder))
    (h : Listed tree subscriptionId startedAt folder path (before ++ [page]) rest
      (children ++ checkpoints) w' w'' children') :
    Listed tree subscriptionId startedAt folder path before (page :: rest) children w w''
      children' := by
  obtain ⟨hrest, hends, hlater, found, rfl, hfound⟩ := h
  rw [if_neg (by simp)] at hrest
  refine ⟨?_, hends, ?_, checkpoints ++ found, by rw [List.append_assoc], ?_⟩
  · simpa using hwent.trans hrest
  · intro item hitem
    rcases List.mem_append.mp hitem with hitem | hitem
    · exact hrest.rows.files _ _ (located_item hat (hpage item hitem)) (hrecorded item hitem)
    · exact hlater item hitem
  · change List.Forall₂ _ _ ((page.items ++ entries rest).filter isFolder)
    rw [List.filter_append]
    exact List.rel_append (hrest.rows.foldersAt hfolders) hfound

theorem scanPages_ends (hprovider : context.provider = tree.provider share)
    (hat : tree.At folder path) (rest : List RemotePage) (hrest : rest ≠ []) {fuel : ℕ}
    (hfuel : rest.length ≤ fuel) {before : List RemotePage}
    (hpages : tree.pages folder = before ++ rest) {seenMarkers seenItemIds : List String}
    (hmarkers : ∀ marker ∈ seenMarkers, ∃ earlier ∈ before, earlier.nextMarker = some marker)
    (hids : ∀ id, id ∈ seenItemIds ↔ ∃ earlier ∈ before, id ∈ earlier.itemIds)
    (result : ScanResult) (children : List ℕ) (hw : Ready scan.subscriptionId startedAt w) :
    Ends ScanMove (scanPages context scan folder path fuel (cursor before) seenMarkers seenItemIds
        result children)
      (fun answer w' => Listed tree scan.subscriptionId startedAt folder path before rest children
        w w' answer.2 ∧ answer.1.foldersScanned = result.foldersScanned)
      (fun _ _ => ¬EndsFresh (tree.pages folder)) w := by
  induction rest generalizing fuel before seenMarkers seenItemIds result children w with
  | nil => exact absurd rfl hrest
  | cons page rest ih =>
    obtain ⟨fuel, rfl⟩ : ∃ n, fuel = n + 1 := ⟨fuel - 1, by rw [List.length_cons] at hfuel; omega⟩
    unfold scanPages
    refine .bind (raiseIfCancelled_ends hw fun w₁ _ (h₁ : Went tree _ _ _ _ _) => ?_)
    refine .bind (listShareItems_ends hprovider hpages h₁.ready fun w₂ h₂ => ?_)
    have hwent := h₁.trans h₂
    rw [List.nil_append] at hwent
    have hpaginated := hpages ▸ tree.paginated folder
    have hpage (item : RemoteItem) (hitem : item ∈ page.items) : item ∈ tree.items folder := by
      rw [RemoteTree.items, hpages]
      exact List.mem_flatMap.mpr ⟨page, by simp, hitem⟩
    have hnew (hbrings : ∃ id ∈ page.itemIds, id ∉ seenItemIds) : Brings before page := by
      obtain ⟨id, hid, hunseen⟩ := hbrings
      exact ⟨id, hid, fun earlier hmem hin => hunseen ((hids id).mpr ⟨earlier, hmem, hin⟩)⟩
    by_cases hitems : page.items = []
    · rw [if_pos hitems]
      have hlast := hpaginated.after_empty hitems
      subst hlast
      have hnone : entries [page] = [] := by simp [entries, hitems]
      refine .pure ⟨⟨hwent, ?_, ?_, [], (List.append_nil _).symm, ?_⟩, rfl⟩
      · rw [hpages]
        exact endsFresh_concat.mpr (.inl hitems)
      · rw [hnone]
        exact fun _ h => absurd h List.not_mem_nil
      · rw [hnone]
        exact .nil
    · rw [if_neg hitems]
      refine .bind (.ofExcept (fun _ hprogress => ?_) ?_)
      · have hbrings := hnew (checkProgress_ok hprogress)
        refine .bind (commitPage_ends hat ?_ h₂.ready fun w₃ discovered checkpoints h₃ hrecorded
          hfolders => ?_)
        · exact hpage
        have hwent₃ := hwent.trans h₃
        rw [List.append_nil] at hwent₃
        dsimp only
        cases hgiven : given page.nextMarker with
        | false =>
          have hlast : rest = [] := by
            by_contra hne
            have := (hpaginated.continues before page rest rfl hne).1
            rw [hgiven] at this
            cases this
          subst hlast
          have hone : entries [page] = page.items := by simp [entries]
          simp only [Bool.not_false, if_true]
          refine .pure ⟨⟨hwent₃, ?_, ?_, checkpoints, rfl, ?_⟩, rfl⟩
          · rw [hpages]
            exact endsFresh_concat.mpr (.inr hbrings)
          · rw [hone]
            exact hrecorded
          · rw [hone]
            exact hfolders
        | true =>
          have hmore : rest ≠ [] := by
            rintro rfl
            rcases hpaginated.ends before page rfl with hnil | hnot
            · exact hitems hnil
            · rw [hgiven] at hnot
              cases hnot
          have hcursor : page.nextMarker = cursor (before ++ [page]) := by simp [cursor]
          have hmarkers' : ∀ marker ∈ page.nextMarker.toList ++ seenMarkers,
              ∃ earlier ∈ before ++ [page], earlier.nextMarker = some marker := by
            intro marker hmem
            rcases List.mem_append.mp hmem with hmem | hmem
            · exact ⟨page, by simp, by simpa using hmem⟩
            · obtain ⟨earlier, hearlier, heq⟩ := hmarkers marker hmem
              exact ⟨earlier, List.mem_append_left _ hearlier, heq⟩
          have hids' (id : String) : id ∈ page.itemIds ++ seenItemIds ↔
              ∃ earlier ∈ before ++ [page], id ∈ earlier.itemIds := by
            simp only [List.mem_append, hids, List.mem_singleton, or_and_right, exists_or,
              exists_eq_left]
            exact or_comm
          have hrec := ih hmore (Nat.le_of_succ_le_succ hfuel)
            (by simpa using hpages) hmarkers' hids'
            { result with discovered := result.discovered + discovered } (children ++ checkpoints)
            h₃.ready
          rw [← hcursor] at hrec
          simp only [Bool.not_true, Bool.false_eq_true, if_false]
          exact hrec.mono (fun answer w' h => ⟨h.1.cons hat hpage hwent₃ hrecorded hfolders, h.2⟩)
            fun _ _ h => h
      · intro e herror hfresh
        have hcontinues (hne : rest ≠ []) := hpaginated.continues before page rest rfl hne
        have hbrings : Brings before page := by
          rcases eq_or_ne rest [] with rfl | hne
          · exact (hfresh before page hpages).resolve_left hitems
          · exact (hcontinues hne).2.2
        have hunseen : ∃ id ∈ page.itemIds, id ∉ seenItemIds := by
          obtain ⟨id, hid, hfree⟩ := hbrings
          refine ⟨id, hid, fun hseen => ?_⟩
          obtain ⟨earlier, hmem, hin⟩ := (hids id).mp hseen
          exact hfree earlier hmem hin
        have hmarker : given page.nextMarker → ∀ marker ∈ page.nextMarker,
            marker ∉ seenMarkers := by
          intro hgiven marker hmarker hseen
          have hne : rest ≠ [] := by
            rintro rfl
            rcases hpaginated.ends before page rfl with hnil | hnot
            · exact hitems hnil
            · rw [hgiven] at hnot
              cases hnot
          obtain ⟨earlier, hmem, heq⟩ := hmarkers marker hseen
          exact (hcontinues hne).2.1 earlier hmem (heq.trans hmarker.symm)
        rw [checkProgress_eq_ok hunseen hmarker] at herror
        cases herror

/-- The contents of one folder, read to the end. -/
theorem scanFolderContents_ends (hprovider : context.provider = tree.provider share)
    (hat : tree.At folder path) {fuel : ℕ} (hfuel : (tree.pages folder).length ≤ fuel)
    (hw : Ready scan.subscriptionId startedAt w) :
    Ends ScanMove (scanFolderContents context scan fuel folder path)
      (fun answer w' => Walked tree scan.subscriptionId startedAt [folder] w w' ∧
        answer.1.foldersScanned = 1 ∧
        List.Forall₂ (FolderAt tree.Located scan.subscriptionId startedAt path w'.db) answer.2
          (tree.subfolders folder))
      (fun _ _ => Refused tree [folder]) w := by
  have hpages : Ends ScanMove (scanPages context scan folder path fuel (cursor []) [] []
      { foldersScanned := 1 } []) _ _ w :=
    scanPages_ends hprovider hat (tree.pages folder) (tree.paginated folder).nonempty hfuel rfl
      (by simp) (by simp) { foldersScanned := 1 } [] hw
  refine hpages.mono ?_ fun _ _ h => ⟨folder, List.mem_singleton_self _, h⟩
  rintro ⟨result, children⟩ w' ⟨⟨hwent, hends, hrecorded, found, rfl, hfound⟩, hcount⟩
  refine ⟨⟨hwent, fun other hmem => ?_⟩, hcount, hfound⟩
  obtain rfl := List.mem_singleton.mp hmem
  refine ⟨hends, fun path' hat' item hitem => ?_, fun path' hat' item hitem => ?_⟩
  · rw [hat'.unique hat]
    exact hrecorded item hitem
  · rw [hat'.unique hat]
    obtain ⟨checkpointId, -, -, hseen⟩ := forall₂_right hfound hitem
    exact ⟨checkpointId, hseen⟩

theorem stampCheckpoint_retains {P : String → String → Prop} (checkpointId : ℕ) (now : Time)
    (db : Database) :
    Retains P subscriptionId startedAt db (stampCheckpoint checkpointId now db) where
  subscription h := h
  files _ _ _ h := h
  checkpoints key id path _ := by
    rintro ⟨checkpoint, hget, hsub, hid, hpath, hseen⟩
    unfold CheckpointAt stampCheckpoint
    dsimp only
    rw [Table.get?_update, hget]
    refine ⟨_, rfl, ?_⟩
    split_ifs
    · exact ⟨hsub, hid, hpath, hseen⟩
    · exact ⟨hsub, hid, hpath, hseen⟩
  others id _ key checkpoint' hget hsub hid := by
    unfold stampCheckpoint at hget
    dsimp only at hget
    rw [Table.get?_update, Option.map_eq_some_iff] at hget
    obtain ⟨checkpoint, hget, heq⟩ := hget
    split_ifs at heq
    · subst heq
      exact ⟨checkpoint, hget, hsub, hid, rfl⟩
    · subst heq
      exact ⟨checkpoint, hget, hsub, hid, rfl⟩

/-- Visiting folders one after the other, each stamped when it is done. -/
theorem scanCheckpoints_ends {visit : FolderCheckpoint → ScanProg Asked ScanResult}
    (folders : RemoteItem → List String) {items : List RemoteItem} {ids : List ℕ}
    (hvisit : ∀ item ∈ items, ∀ checkpoint : FolderCheckpoint,
      checkpoint.remoteFolderId = item.remoteFileId →
      checkpoint.relativePath = (path.join item.filename).toString →
      ∀ w, Ready scan.subscriptionId startedAt w → Ends ScanMove (visit checkpoint)
        (fun result w' => Walked tree scan.subscriptionId startedAt (folders item) w w' ∧
          result.foldersScanned = (folders item).length)
        (fun _ _ => Refused tree (folders item)) w)
    (hat : List.Forall₂ (FolderAt tree.Located scan.subscriptionId startedAt path w.db) ids items)
    (result : ScanResult) (hw : Ready scan.subscriptionId startedAt w) :
    Ends ScanMove (scanCheckpoints visit ids result)
      (fun result' w' => Walked tree scan.subscriptionId startedAt (items.flatMap folders) w w' ∧
        result'.foldersScanned = result.foldersScanned + (items.flatMap folders).length)
      (fun _ _ => Refused tree (items.flatMap folders)) w := by
  induction items generalizing ids result w with
  | nil =>
    cases hat
    exact .pure ⟨⟨.refl hw, fun _ h => absurd h List.not_mem_nil⟩, rfl⟩
  | cons item items ih =>
    cases hat with
    | @cons checkpointId _ rest _ hfolder hrest =>
    unfold scanCheckpoints
    refine .bind (raiseIfCancelled_ends hw fun w₁ _ (h₁ : Went tree _ _ _ _ _) => ?_)
    refine .bind (.look ?_ ?_)
    · intro w₂ hmoved checkpoint hview
      have h₂ := h₁.trans (.of_moved h₁.ready hmoved)
      rw [List.append_nil] at h₂
      obtain ⟨row, hget, -, hid, hpath, -⟩ := h₂.rows.checkpoints _ _ _ hfolder.1 hfolder.2
      rw [hget] at hview
      cases hview
      have hrefused (h : Refused tree (folders item)) :
          Refused tree ((item :: items).flatMap folders) := by
        obtain ⟨folder, hmem, hends⟩ := h
        exact ⟨folder, List.mem_flatMap.mpr ⟨item, List.mem_cons_self .., hmem⟩, hends⟩
      refine .bind ((hvisit item (List.mem_cons_self ..) checkpoint hid hpath w₂ h₂.ready).mono ?_
        fun _ _ h => hrefused h)
      rintro child w₃ ⟨h₃, hchild⟩
      refine .bind (transact_ends _ h₃.ready fun w₄ _ (h₄ : Went tree _ _ _ _ _) => ⟨_, _, rfl, ?_⟩)
      have hstamp : Went tree scan.subscriptionId startedAt [] w₄
          { w₄ with db := stampCheckpoint checkpointId w₄.clock w₄.db } :=
        ⟨stampCheckpoint_retains _ _ _, ⟨h₄.ready.subscription, h₄.ready.clock, h₄.ready.going⟩,
          (List.append_nil _).symm⟩
      have hdone := (Walked.after h₂ h₃).andThen (h₄.trans hstamp)
      refine (ih (fun item' hmem => hvisit item' (List.mem_cons_of_mem _ hmem))
        (hdone.rows.foldersAt hrest) (result.add child) hdone.ready).mono ?_ ?_
      · rintro result' w' ⟨hwalked, hcount⟩
        refine ⟨by simpa using hdone.trans hwalked, ?_⟩
        have hadd : (result.add child).foldersScanned =
            result.foldersScanned + child.foldersScanned := rfl
        rw [hcount, hadd, hchild, List.flatMap_cons, List.length_append, add_assoc]
      · rintro e w' ⟨folder, hmem, hends⟩
        exact ⟨folder, by rw [List.flatMap_cons]; exact List.mem_append_right _ hmem, hends⟩
    · intro w₂ hmoved e herror
      have h₂ := h₁.trans (.of_moved h₁.ready hmoved)
      obtain ⟨row, hget, -⟩ := h₂.rows.checkpoints _ _ _ hfolder.1 hfolder.2
      rw [hget] at herror
      cases herror

/-- A full scan walks a folder and everything below it. -/
theorem scanFolderFull_ends (hprovider : context.provider = tree.provider share) {most fuel : ℕ}
    (hmost : ∀ other, tree.branching.Reaches folder other → (tree.pages other).length ≤ most)
    (hfuel : tree.height folder + most + 1 ≤ fuel) (hat : tree.At folder path)
    (hw : Ready scan.subscriptionId startedAt w) :
    Ends ScanMove (scanFolderFull context scan fuel folder path)
      (fun result w' =>
        Walked tree scan.subscriptionId startedAt (tree.branching.preorder folder) w w' ∧
          result.foldersScanned = (tree.branching.preorder folder).length)
      (fun _ _ => Refused tree (tree.branching.preorder folder)) w := by
  induction fuel generalizing folder path w with
  | zero => omega
  | succ fuel ih =>
    have hpreorder : tree.branching.preorder folder =
        folder :: (tree.subfolders folder).flatMap fun item =>
          tree.branching.preorder item.remoteFileId := by
      rw [Branching.preorder_eq]
      simp only [RemoteTree.branching, List.flatMap_map]
    have hcontents : (tree.pages folder).length ≤ fuel := (hmost folder .refl).trans (by omega)
    rw [hpreorder]
    unfold scanFolderFull
    refine .bind ((scanFolderContents_ends hprovider hat hcontents hw).mono ?_ ?_)
    · rintro ⟨result, childFolders⟩ w₁ ⟨hwalked, hcount, hfolders⟩
      refine (scanCheckpoints_ends (fun item => tree.branching.preorder item.remoteFileId) ?_
        hfolders result hwalked.ready).mono ?_ ?_
      · intro item hitem checkpoint hid hpath w₂ hw₂
        have hchild : tree.branching.Child folder item.remoteFileId := List.mem_map_of_mem hitem
        have hlower := tree.branching.lower folder item.remoteFileId hchild
        have hplace : PurePosixPath.ofString checkpoint.relativePath = path.join item.filename := by
          rw [hpath, PurePosixPath.ofString_toString (hat.normal.join _)]
        rw [hid, hplace]
        exact ih (fun other h => hmost other (.head hchild h))
          (by change tree.height item.remoteFileId < tree.height folder at hlower; omega)
          (.sub hat hitem) hw₂
      · rintro result' w' ⟨hchildren, hcount'⟩
        refine ⟨hwalked.trans hchildren, ?_⟩
        rw [hcount', hcount, List.length_cons]
        omega
      · rintro e w' ⟨other, hmem, hends⟩
        exact ⟨other, List.mem_cons_of_mem _ hmem, hends⟩
    · rintro e w' ⟨other, hmem, hends⟩
      obtain rfl := List.mem_singleton.mp hmem
      exact ⟨other, List.mem_cons_self .., hends⟩

end Walk

/-! ## The whole scan -/

section Domain
variable {tree : RemoteTree} {context : ScanContext Asked} {share : ShareInfo} {subscriptionId : ℕ}
  {subscription : Subscription} {startedAt : Time} {w w' : ScanWorld Asked}

theorem dropUnseen_retains {P : String → String → Prop} (db : Database) :
    Retains P subscriptionId startedAt db (dropUnseen subscriptionId startedAt db) where
  subscription h := h
  files _ _ _ h := h
  checkpoints key id path _ := by
    rintro ⟨checkpoint, hget, hsub, hid, hpath, hseen⟩
    refine ⟨checkpoint, ?_, hsub, hid, hpath, hseen⟩
    unfold dropUnseen
    dsimp only
    rw [Table.get?_delete, hget]
    simp [hseen]
  others id _ key checkpoint hget hsub hid := by
    unfold dropUnseen at hget
    dsimp only at hget
    rw [Table.get?_delete, Option.filter_eq_some_iff] at hget
    exact ⟨checkpoint, hget.1, hsub, hid, rfl⟩

theorem dropUnseen_kept {db : Database} {checkpointId : ℕ} {checkpoint : FolderCheckpoint}
    (hget : (dropUnseen subscriptionId startedAt db).folderCheckpoints.get? checkpointId =
      some checkpoint) (hsub : checkpoint.subscriptionId = subscriptionId) :
    startedAt ≤ checkpoint.lastSeenAt := by
  unfold dropUnseen at hget
  dsimp only at hget
  rw [Table.get?_delete, Option.filter_eq_some_iff] at hget
  simpa [hsub] using hget.2

theorem setSubscription_retains {P : String → String → Prop} (f : Subscription → Subscription)
    (db : Database) :
    Retains P subscriptionId startedAt db (setSubscription db subscriptionId f) where
  subscription h := by
    unfold setSubscription
    dsimp only
    rw [Table.get?_update, Option.isSome_map]
    exact h
  files _ _ _ h := h
  checkpoints _ _ _ _ h := h
  others _ _ _ checkpoint hget hsub hid := ⟨checkpoint, hget, hsub, hid, rfl⟩

/-- What a full scan leaves behind. -/
structure Scanned (tree : RemoteTree) (subscriptionId : ℕ) (startedAt : Time)
    (w w' : ScanWorld Asked) : Prop extends
    Walked tree subscriptionId startedAt tree.walk w w' where
  kept : ∀ checkpointId checkpoint, w'.db.folderCheckpoints.get? checkpointId = some checkpoint →
    checkpoint.subscriptionId = subscriptionId → startedAt ≤ checkpoint.lastSeenAt

/-- The scan meets no error of its own making: the share resolves to the root
of the tree, its password can be read, and the schedule too. -/
structure Undisturbed (tree : RemoteTree) (share : ShareInfo) (context : ScanContext Asked)
    (subscription : Subscription) : Prop where
  provider : context.provider = tree.provider share
  root : (subscription.sourceFolderId.filter (· ≠ "")).getD share.rootFolderId = tree.rootFolderId
  password : given subscription.sharePassword →
    ∃ password, context.decryptSharePassword (subscription.sharePassword.getD "") = .ok password
  schedule : context.settings.legacyExecution →
    ∃ delta, context.scheduleDelta subscription.schedule = .ok delta

theorem resolveShare_ends (hundisturbed : Undisturbed tree share context subscription)
    {Q : ShareInfo → ScanWorld Asked → Prop} {E : ScanError → ScanWorld Asked → Prop}
    (hw : Ready subscriptionId startedAt w)
    (h : ∀ w₁, w₁.db = w.db → Went tree subscriptionId startedAt [] w w₁ → Q share w₁) :
    Ends ScanMove (resolveShare context subscription) Q E w := by
  have hresolve : Ends ScanMove (Prog.effect ScanError.interrupted fun w =>
      ((Except.ok share : Except ScanError ShareInfo), w)) Q E w := by
    apply Ends.effect
    · rintro w₁ hmoved a ⟨⟩
      exact h w₁ (db_of_moved hmoved) (.of_moved hw hmoved)
    · rintro w₁ - e ⟨⟩
  have hpassword : ∃ password, decryptSharePassword context subscription = .ok password := by
    unfold decryptSharePassword
    cases hgiven : given subscription.sharePassword with
    | false => exact ⟨none, rfl⟩
    | true =>
      obtain ⟨password, hpassword⟩ := hundisturbed.password hgiven
      rw [if_pos rfl, hpassword]
      exact ⟨some password, rfl⟩
  obtain ⟨password, hpassword⟩ := hpassword
  unfold resolveShare
  rw [hundisturbed.provider, hpassword]
  exact .bind (.ofExcept (fun _ _ => hresolve) (by rintro e ⟨⟩))

theorem finishScan_ends (hundisturbed : Undisturbed tree share context subscription)
    {Q : ℕ → ScanWorld Asked → Prop} {E : ScanError → ScanWorld Asked → Prop}
    (hw : Ready subscriptionId startedAt w)
    (h : ∀ w₁ count, w₁.db.folderCheckpoints = w.db.folderCheckpoints →
      Went tree subscriptionId startedAt [] w w₁ → Q count w₁) :
    Ends ScanMove (finishScan context subscriptionId subscription true) Q E w := by
  have hnext (now : Time) : ∃ next, nextScanAt context now subscription = .ok next := by
    unfold nextScanAt
    split_ifs with hlegacy
    · obtain ⟨delta, hdelta⟩ := hundisturbed.schedule hlegacy
      rw [hdelta]
      exact ⟨_, rfl⟩
    · exact ⟨none, rfl⟩
  apply transact_ends tree hw
  intro w₁ hdb hwent
  obtain ⟨next, hok⟩ := hnext w₁.clock
  simp only [hok]
  refine ⟨_, _, rfl, h _ _ (by rw [← hdb]; rfl) ?_⟩
  have hrows : Retains tree.Located subscriptionId startedAt w₁.db
      (setSubscription w₁.db subscriptionId
        (scanFinished true w₁.clock next subscription.enabled)) :=
    setSubscription_retains _ _
  exact hwent.trans ⟨hrows, ⟨hrows.subscription hwent.ready.subscription, hwent.ready.clock,
    hwent.ready.going⟩, (List.append_nil _).symm⟩

theorem scanFolders_ends (hundisturbed : Undisturbed tree share context subscription)
    {fuel : ℕ} (hfuel : tree.turns ≤ fuel) {scan : FolderScan}
    (hw : Ready scan.subscriptionId startedAt w) :
    Ends ScanMove (scanFolders context scan fuel true startedAt tree.rootFolderId)
      (fun result w' => Scanned tree scan.subscriptionId startedAt w w' ∧
        result.foldersScanned = tree.walk.length)
      (fun _ _ => Refused tree tree.walk) w := by
  have hmost (other : String) (h : tree.branching.Reaches tree.rootFolderId other) :
      (tree.pages other).length ≤ (tree.walk.map fun folder => (tree.pages folder).length).sum :=
    List.single_le_sum (by simp) _ (List.mem_map_of_mem (Branching.mem_preorder _ |>.mpr h))
  unfold scanFolders
  simp only [if_true]
  refine .bind ((scanFolderFull_ends hundisturbed.provider hmost hfuel .root hw).mono ?_
    fun _ _ h => h)
  rintro result w₁ ⟨hwalked, hcount⟩
  refine .bind (raiseIfCancelled_ends hwalked.ready fun w₂ _ (h₂ : Went tree _ _ _ _ _) => ?_)
  refine .bind (transact_ends _ h₂.ready fun w₃ _ (h₃ : Went tree _ _ _ _ _) => ⟨_, _, rfl, ?_⟩)
  have hdrop : Went tree scan.subscriptionId startedAt [] w₃
      { w₃ with db := dropUnseen scan.subscriptionId startedAt w₃.db } :=
    ⟨dropUnseen_retains _, ⟨h₃.ready.subscription, h₃.ready.clock, h₃.ready.going⟩,
      (List.append_nil _).symm⟩
  refine .pure ⟨⟨hwalked.andThen (h₂.trans (h₃.trans hdrop)), ?_⟩, hcount⟩
  intro checkpointId checkpoint hget hsub
  exact dropUnseen_kept hget hsub

theorem fullScanDue_later {settings : ScanSettings} {now later : Time} {forceFull : Bool}
    (h : fullScanDue settings now subscription forceFull) (hlater : now ≤ later) :
    fullScanDue settings later subscription forceFull := by
  unfold fullScanDue at h ⊢
  cases hlast : subscription.lastFullScannedAt with
  | none => simp
  | some last =>
    rw [hlast] at h
    simp only [Bool.or_eq_true, Option.all_some, decide_eq_true_eq] at h ⊢
    exact h.imp id fun hinterval => hinterval.trans (Int.sub_le_sub_right hlater last)

/-- Nothing has happened yet but that time has passed. -/
theorem Went.restart (h : Went tree subscriptionId startedAt [] w w') (hdb : w'.db = w.db) :
    Went tree subscriptionId w'.clock [] w w' where
  rows := by
    rw [hdb]
    exact .refl w.db
  ready := ⟨h.ready.subscription, le_rfl, h.ready.going⟩
  asked := h.asked

theorem executeScanDomain_ends (hundisturbed : Undisturbed tree share context subscription)
    {fuel : ℕ} (hfuel : tree.turns ≤ fuel) {forceFull : Bool}
    (hrow : w.db.subscriptions.get? subscriptionId = some subscription)
    (hgoing : w.cancellationRequested = false)
    (hdue : fullScanDue context.settings w.clock subscription forceFull) :
    Ends ScanMove (executeScanDomain context fuel subscriptionId subscription forceFull)
      (fun result w' => result.scan.foldersScanned = tree.walk.length ∧
        ∃ startedAt, w.clock ≤ startedAt ∧ Scanned tree subscriptionId startedAt w w')
      (fun _ _ => Refused tree tree.walk) w := by
  have hw : Ready subscriptionId w.clock w := ⟨by rw [hrow]; rfl, le_rfl, hgoing⟩
  unfold executeScanDomain
  refine .bind (raiseIfCancelled_ends hw fun w₁ hdb₁ (h₁ : Went tree _ _ _ _ _) => ?_)
  refine .bind (resolveShare_ends hundisturbed h₁.ready fun w₂ hdb₂ h₂ => ?_)
  refine .bind (.look ?_ (by rintro w₃ - e ⟨⟩))
  rintro w₃ hmoved startedAt ⟨⟩
  have h₃ := ((h₁.trans h₂).trans (.of_moved h₂.ready hmoved)).restart
    ((db_of_moved hmoved).trans (hdb₂.trans hdb₁))
  have hlater : w.clock ≤ w₃.clock := (h₂.ready.clock).trans (clock_of_moved hmoved)
  simp only [hundisturbed.root, fullScanDue_later hdue hlater]
  refine .bind ((scanFolders_ends hundisturbed hfuel h₃.ready).mono ?_ fun _ _ h => h)
  rintro result w₄ ⟨hscanned, hcount⟩
  refine .bind (raiseIfCancelled_ends hscanned.ready fun w₅ hdb₅ (h₅ : Went tree _ _ _ _ _) => ?_)
  refine .bind (finishScan_ends hundisturbed h₅.ready fun w₆ count hcheckpoints h₆ => ?_)
  refine .pure ⟨hcount, w₃.clock, hlater, ?_, ?_⟩
  · exact Walked.after h₃ (hscanned.toWalked.andThen (h₅.trans h₆))
  · rw [hcheckpoints, hdb₅]
    exact hscanned.kept

end Domain

/-! ## Coverage -/

/-- The scan has listed each folder of the tree once and recorded every item of
every page at its place, and no folder it has listed lost its checkpoint. -/
structure Coverage (tree : RemoteTree) (subscriptionId : ℕ) (w : ScanWorld Asked)
    (result : ScanDomainResult) (w' : ScanWorld Asked) : Prop where
  folders : result.scan.foldersScanned = tree.folders.ncard
  once : ∀ folder ∈ tree.folders,
    (listed w'.provider).count folder = (listed w.provider).count folder + 1
  recorded : ∀ folder path, tree.At folder path → ∀ item ∈ tree.items folder,
    RecordedAt w'.db subscriptionId item.remoteFileId (path.join item.filename).toString
  kept : ∀ folder ∈ tree.folders,
    folder ≠ tree.rootFolderId ∨ (findCheckpoint w.db subscriptionId folder).isSome →
    (findCheckpoint w'.db subscriptionId folder).isSome

/-- The full scan succeeds and covers the tree, however much time passes. -/
def Covers (tree : RemoteTree) (context : ScanContext Asked) (fuel subscriptionId : ℕ)
    (subscription : Subscription) (forceFull : Bool) (w : ScanWorld Asked) : Prop :=
  Ends ScanMove (executeScanDomain context fuel subscriptionId subscription forceFull)
    (Coverage tree subscriptionId w) (fun _ _ => False) w

/-- No page shows a sub-folder again that its folder has shown, and every last
page is empty or brings something new. -/
def ShownOnce (tree : RemoteTree) : Prop :=
  ∀ folder ∈ tree.folders, ((tree.subfolders folder).map RemoteItem.remoteFileId).Nodup ∧
    EndsFresh (tree.pages folder)

section Coverage
variable {tree : RemoteTree} {context : ScanContext Asked} {share : ShareInfo}
  {subscriptionId fuel : ℕ} {subscription : Subscription} {forceFull : Bool} {startedAt : Time}
  {w w' : ScanWorld Asked}

theorem walk_nodup (h : ShownOnce tree) : tree.walk.Nodup :=
  RemoteTree.nodup_walk.mpr fun folder hmem => (h folder hmem).1

theorem coverage_of_scanned (h : ShownOnce tree)
    (hroot : (findCheckpoint w.db subscriptionId tree.rootFolderId).isNone)
    {result : ScanDomainResult} (hcount : result.scan.foldersScanned = tree.walk.length)
    (hscanned : Scanned tree subscriptionId startedAt w w') :
    Coverage tree subscriptionId w result w' where
  folders := hcount.trans (RemoteTree.length_walk.mpr (walk_nodup h))
  once folder hmem := by
    rw [hscanned.asked, List.count_append,
      List.count_eq_one_of_mem (walk_nodup h) (RemoteTree.mem_walk.mpr hmem)]
  recorded folder path hat item hitem :=
    (hscanned.visited folder (RemoteTree.mem_walk.mpr ⟨path, hat⟩)).recorded path hat item hitem
  kept folder hmem hwas := by
    obtain ⟨path, hat⟩ := hmem
    cases hat with
    | root =>
      rw [Option.isNone_iff_eq_none] at hroot
      simp [hroot] at hwas
    | @sub parent parentPath item hparent hitem =>
      have hvisited := hscanned.visited parent (RemoteTree.mem_walk.mpr ⟨parentPath, hparent⟩)
      obtain ⟨checkpointId, hseen⟩ := hvisited.seen parentPath hparent item hitem
      exact hseen.found

/-- Later than every checkpoint was last seen. -/
theorem exists_later (w : ScanWorld Asked) : ∃ time : ℕ, ∀ checkpointId checkpoint,
    w.db.folderCheckpoints.get? checkpointId = some checkpoint →
    checkpoint.lastSeenAt < w.clock + time := by
  let ages := w.db.folderCheckpoints.rows.map fun row => (row.2.lastSeenAt - w.clock).toNat
  refine ⟨ages.sum + 1, fun checkpointId checkpoint hget => ?_⟩
  have hage : (checkpoint.lastSeenAt - w.clock).toNat ≤ ages.sum :=
    List.single_le_sum (by simp) _ (List.mem_map_of_mem (Table.mem_iff_get?.mpr hget))
  have hself : checkpoint.lastSeenAt - w.clock ≤ (ages.sum : ℤ) :=
    (Int.self_le_toNat _).trans (Int.ofNat_le.mpr hage)
  rw [Nat.cast_add, Nat.cast_one]
  linarith

theorem shownOnce_of_covers (hundisturbed : Undisturbed tree share context subscription)
    (hfuel : tree.turns ≤ fuel)
    (hrow : w.db.subscriptions.get? subscriptionId = some subscription)
    (hgoing : w.cancellationRequested = false)
    (hdue : fullScanDue context.settings w.clock subscription forceFull)
    (h : Covers tree context fuel subscriptionId subscription forceFull w) : ShownOnce tree := by
  rcases (h.and (executeScanDomain_ends hundisturbed hfuel hrow hgoing hdue)).outcome with
    ⟨result, w', hcoverage, hcount, startedAt, -, hscanned⟩ | ⟨e, w', hfalse, -⟩
  · have hnodup : tree.walk.Nodup :=
      RemoteTree.length_walk.mp (hcount.symm.trans hcoverage.folders)
    intro folder hmem
    exact ⟨RemoteTree.nodup_walk.mp hnodup folder hmem,
      (hscanned.visited folder (RemoteTree.mem_walk.mpr hmem)).ends⟩
  · exact hfalse.elim

/-- A checkpoint of the root is never seen again: when enough time has passed
before the scan begins, the clean-up drops it. -/
theorem root_unchecked_of_covers (hundisturbed : Undisturbed tree share context subscription)
    (hfuel : tree.turns ≤ fuel)
    (hrow : w.db.subscriptions.get? subscriptionId = some subscription)
    (hgoing : w.cancellationRequested = false)
    (hdue : fullScanDue context.settings w.clock subscription forceFull)
    (h : Covers tree context fuel subscriptionId subscription forceFull w) :
    (findCheckpoint w.db subscriptionId tree.rootFolderId).isNone := by
  by_contra hsome
  obtain ⟨time, hlater⟩ := exists_later w
  let w₁ : ScanWorld Asked := { w with clock := w.clock + time }
  have hclock : w.clock ≤ w₁.clock := Int.le_add_of_nonneg_right (Int.natCast_nonneg time)
  have hsettled : Ends ScanMove
      (executeScanDomain context fuel subscriptionId subscription forceFull)
      (Coverage tree subscriptionId w) (fun _ _ => False) w₁ :=
    Ends.settled h [.pass time]
  rcases (hsettled.and (executeScanDomain_ends hundisturbed hfuel hrow hgoing
    (fullScanDue_later hdue hclock))).outcome with
    ⟨result, w', hcoverage, -, startedAt, hstarted, hscanned⟩ | ⟨e, w', hfalse, -⟩
  · have hkept := hcoverage.kept tree.rootFolderId ⟨_, .root⟩
      (.inr (by simpa [Option.isSome_iff_ne_none] using hsome))
    obtain ⟨checkpointId, checkpoint', hget', hsub', hid'⟩ := findCheckpoint_isSome.mp hkept
    obtain ⟨checkpoint, hget, -, -, hseen⟩ := hscanned.rows.others tree.rootFolderId
      RemoteTree.root_not_located checkpointId checkpoint' hget' hsub' hid'
    have hold := hlater checkpointId checkpoint hget
    have hnew := hstarted.trans (hscanned.kept checkpointId checkpoint' hget' hsub')
    rw [hseen] at hold
    exact absurd hnew (not_le_of_gt hold)
  · exact hfalse.elim

/-- A full scan covers the tree if and only if no page repeats a sub-folder, no
last page only repeats items, and the root has no checkpoint row. -/
theorem full_scan_covers (hundisturbed : Undisturbed tree share context subscription)
    (hfuel : tree.turns ≤ fuel)
    (hrow : w.db.subscriptions.get? subscriptionId = some subscription)
    (hgoing : w.cancellationRequested = false)
    (hdue : fullScanDue context.settings w.clock subscription forceFull) :
    Covers tree context fuel subscriptionId subscription forceFull w ↔
      ShownOnce tree ∧ (findCheckpoint w.db subscriptionId tree.rootFolderId).isNone := by
  constructor
  · intro h
    exact ⟨shownOnce_of_covers hundisturbed hfuel hrow hgoing hdue h,
      root_unchecked_of_covers hundisturbed hfuel hrow hgoing hdue h⟩
  · rintro ⟨hshown, hroot⟩
    refine (executeScanDomain_ends hundisturbed hfuel hrow hgoing hdue).mono ?_ ?_
    · rintro result w' ⟨hcount, startedAt, -, hscanned⟩
      exact coverage_of_scanned hshown hroot hcount hscanned
    · rintro e w' ⟨folder, hmem, hends⟩
      exact hends (hshown folder (RemoteTree.mem_walk.mp hmem)).2

end Coverage

/-! ## A listing that shifts -/

section Shifted

def season : RemoteItem where
  remoteFileId := "season"
  parentId := some "root"
  filename := "Season 1"
  itemType := "folder"

def trailer : RemoteItem where
  remoteFileId := "trailer"
  parentId := some "root"
  filename := "trailer.mkv"
  itemType := "file"
  size := some 700

def episode : RemoteItem where
  remoteFileId := "e01"
  parentId := some "season"
  filename := "e01.mkv"
  itemType := "file"
  size := some 900

/-- Two pages of the root and one of the season; in a listing that has shifted,
the season is on both pages. -/
def shownPages (shifted : Bool) (folder : String) : List RemotePage :=
  if folder = "root" then
    [⟨[season], some "2"⟩, ⟨if shifted then [season, trailer] else [trailer], none⟩]
  else if folder = "season" then [⟨[episode], none⟩]
  else [⟨[], none⟩]

theorem shownPages_cases {shifted : Bool} {folder : String} {item : RemoteItem}
    (h : item ∈ entries (shownPages shifted folder)) :
    folder = "root" ∧ (item = season ∨ item = trailer) ∨ folder = "season" ∧ item = episode := by
  unfold shownPages entries at h
  split_ifs at h with hroot hshifted hseason <;> simp_all

def sampleTree (shifted : Bool) : RemoteTree where
  rootFolderId := "root"
  pages := shownPages shifted
  height folder := if folder = "root" then 1 else 0
  paginated folder := by
    unfold shownPages
    split_ifs
    · exact paginated_pair rfl (List.cons_ne_nil _ _) (.inr rfl)
    · exact paginated_pair rfl (List.cons_ne_nil _ _) (.inr rfl)
    · exact paginated_singleton (.inr rfl)
    · exact paginated_singleton (.inr rfl)
  rootApart folder item h := by
    rcases shownPages_cases h with ⟨-, rfl | rfl⟩ | ⟨-, rfl⟩ <;> decide
  lower folder item h hfolder := by
    rcases shownPages_cases h with ⟨rfl, rfl | rfl⟩ | ⟨-, rfl⟩
    · decide
    · cases hfolder
    · cases hfolder
  onePosition folder item h folder' item' h' heq := by
    rcases shownPages_cases h with ⟨rfl, rfl | rfl⟩ | ⟨rfl, rfl⟩ <;>
      rcases shownPages_cases h' with ⟨rfl, rfl | rfl⟩ | ⟨rfl, rfl⟩ <;>
        first | exact ⟨rfl, rfl, rfl⟩ | exact absurd heq (by decide)

/-- The digests of the sample items, and no others. -/
def sampleTexts : Texts where
  sha256 text :=
    if text = "season\x00folder\x00\x00\x00" then
      "8ccaa5836d0dd79c3d21efe1a7c2bb3151204617ea4aca15a4838230288007c7"
    else if text = "trailer\x00file\x00700\x00\x00" then
      "521d7f68ab5e7426eb58c4dfa3cc2a6741c279dcdedd96045f2ae32e8f48ba3d"
    else if text = "e01\x00file\x00900\x00\x00" then
      "9a94b8933939cb595d88033eeb189b405b066db9a79accd6fb8dabc190e98c9e"
    else ""
  isoformat _ := ""

def sampleShare : ShareInfo := ⟨"show", "Show", "root"⟩

def sampleContext (tree : RemoteTree) : ScanContext Asked where
  texts := sampleTexts
  provider := tree.provider sampleShare
  settings := ⟨20, 86400, false⟩
  decryptSharePassword := .ok
  scheduleDelta _ := .ok 1800

def sampleSubscription : Subscription where
  cloudAccountId := 1
  name := "show"
  provider := "pan123"
  shareUrl := "https://share.example/1"
  targetPath := "/shows"

def sampleWorld : ScanWorld Asked where
  db :=
    { accounts := Table.empty.insert { provider := "pan123", name := "main", refreshToken := "t" }
      subscriptions := Table.empty.insert sampleSubscription }
  provider := []
  clock := 100
  cancellationRequested := false

theorem sample_undisturbed (shifted : Bool) : Undisturbed (sampleTree shifted) sampleShare
    (sampleContext (sampleTree shifted)) sampleSubscription :=
  ⟨rfl, rfl, fun h => absurd h (by decide), fun h => absurd h Bool.false_ne_true⟩

theorem sample_folders {shifted : Bool} {folder : String}
    (h : folder ∈ (sampleTree shifted).folders) : folder = "root" ∨ folder = "season" := by
  obtain ⟨path, hat⟩ := h
  cases hat with
  | root => exact .inl rfl
  | @sub parent parentPath item hparent hitem =>
    rcases shownPages_cases (RemoteTree.mem_items_of_subfolders hitem) with
      ⟨-, rfl | rfl⟩ | ⟨-, rfl⟩
    · exact .inr rfl
    · cases (List.mem_filter.mp hitem).2
    · cases (List.mem_filter.mp hitem).2

/-- Every page shows its folders once, and the scan covers the tree. -/
theorem full_scan_covers_sample :
    Covers (sampleTree false) (sampleContext (sampleTree false)) (sampleTree false).turns 1
      sampleSubscription false sampleWorld := by
  refine (full_scan_covers (sample_undisturbed false) le_rfl rfl rfl (by decide)).mpr
    ⟨fun folder hmem => ?_, by decide⟩
  rcases sample_folders hmem with rfl | rfl
  · refine ⟨by decide, ?_⟩
    change EndsFresh ([⟨[season], some "2"⟩] ++ [⟨[trailer], none⟩])
    exact endsFresh_concat.mpr (.inr (by decide))
  · refine ⟨by decide, ?_⟩
    change EndsFresh ([] ++ [⟨[episode], none⟩])
    exact endsFresh_concat.mpr (.inr (by decide))

/-- The season is on both pages of the root. The scan visits it twice and counts
three folders where there are two. -/
theorem shifted_listing_not_covered :
    Undisturbed (sampleTree true) sampleShare (sampleContext (sampleTree true))
      sampleSubscription ∧
    ¬Covers (sampleTree true) (sampleContext (sampleTree true)) (sampleTree true).turns 1
      sampleSubscription false sampleWorld := by
  refine ⟨sample_undisturbed true, fun h => ?_⟩
  have hshown := shownOnce_of_covers (sample_undisturbed true) le_rfl rfl rfl (by decide) h
  exact absurd (hshown "root" ⟨_, .root⟩).1 (by decide)

end Shifted

end MediaSync.FullScanCoverage
