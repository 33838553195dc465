import MediaSync.FullScanCoverage
import MediaSync.Common.Rotations
import MediaSync.Common.TracedRuns

/-!
# Incremental scans rotate over the folders

An incremental scan lists the root and a batch of checkpointed folders, the
never-scanned ones first and then the longest unscanned. Listing stamps a
folder with a time later than any stamp of an earlier scan, so the scans are
turns of a rotation over the checkpoints.

The batch is chosen after the root has been listed to its last page. A folder
that shows up while the batch is being listed waits for the next scan.
-/
namespace MediaSync.FolderRotation
open FaultPrograms TracedRuns RowTables PosixPaths TaskTables TaskRepository SubscriptionScan
open Rotations
open FullScanCoverage (findCheckpoint_some)

/-! ## What the provider was asked -/

/-- One request for a page of a folder, and its answer. -/
structure Listing where
  folderId : String
  marker : Option String
  answer : Except String RemotePage
  deriving DecidableEq

abbrev Logged (π : Type) := π × List Listing

/-- The same provider with a log of the pages it was asked for. -/
def recording {π : Type} (provider : ShareProvider π) : ShareProvider (Logged π) where
  resolveShare url password s :=
    ((provider.resolveShare url password s.1).1, (provider.resolveShare url password s.1).2, s.2)
  listShareItems share folderId marker s :=
    let (answer, state) := provider.listShareItems share folderId marker s.1
    (answer, state, s.2 ++ [⟨folderId, marker, answer⟩])

def recorded {π : Type} (context : ScanContext π) : ScanContext (Logged π) where
  texts := context.texts
  provider := recording context.provider
  settings := context.settings
  decryptSharePassword := context.decryptSharePassword
  scheduleDelta := context.scheduleDelta

/-- The folders whose listing was begun, in order. -/
def listed (log : List Listing) : List String :=
  (log.filter fun entry => entry.marker.isNone).map Listing.folderId

theorem listed_append (log log' : List Listing) :
    listed (log ++ log') = listed log ++ listed log' := by
  unfold listed
  rw [List.filter_append, List.map_append]

/-- The answer shows the folder. -/
def Listing.shows (entry : Listing) (folder : String) : Prop :=
  ∃ page, entry.answer = .ok page ∧
    ∃ item ∈ page.items, item.itemType = "folder" ∧ item.remoteFileId = folder

/-- The pages of a folder from a cursor on, to the last one: one without items,
or without a further cursor. -/
inductive Paged (folder : String) : Option String → List Listing → Prop
  | last {marker : Option String} {page : RemotePage}
      (h : page.items = [] ∨ given page.nextMarker = false) :
      Paged folder marker [⟨folder, marker, .ok page⟩]
  | next {marker : Option String} {page : RemotePage} {rest : List Listing}
      (h : given page.nextMarker = true) (hrest : Paged folder page.nextMarker rest) :
      Paged folder marker (⟨folder, marker, .ok page⟩ :: rest)

/-- The folders are listed one after the other, each to its last page. -/
inductive Listings : List String → List Listing → Prop
  | nil : Listings [] []
  | cons {folder : String} {folders : List String} {pages rest : List Listing}
      (h : Paged folder none pages) (hrest : Listings folders rest) :
      Listings (folder :: folders) (pages ++ rest)

theorem Paged.listed {folder : String} {marker : Option String} {pages : List Listing}
    (h : Paged folder marker pages) : listed pages = if marker.isNone then [folder] else [] := by
  have hfirst (marker : Option String) (page : RemotePage) :
      FolderRotation.listed [⟨folder, marker, .ok page⟩] =
        if marker.isNone then [folder] else [] := by
    cases marker <;> rfl
  induction h with
  | last h => exact hfirst _ _
  | @next marker page rest hgiven _ ih =>
    have hcursor : page.nextMarker.isNone = false := by
      cases hmarker : page.nextMarker with
      | none =>
        rw [hmarker] at hgiven
        cases hgiven
      | some _ => rfl
    rw [hcursor, if_neg Bool.false_ne_true] at ih
    rw [← List.singleton_append, listed_append, ih, List.append_nil, hfirst]

theorem Listings.listed {folders : List String} {pages : List Listing}
    (h : Listings folders pages) : listed pages = folders := by
  induction h with
  | nil => rfl
  | cons h _ ih =>
    rw [listed_append, h.listed, ih, Option.isNone_none, if_pos rfl, List.singleton_append]

/-! ## The checkpoints of one subscription -/

def checkpointsOf (db : Database) (subscriptionId : ℕ) : List (ℕ × FolderCheckpoint) :=
  db.folderCheckpoints.select fun _ checkpoint => checkpoint.subscriptionId = subscriptionId

def Checkpointed (db : Database) (subscriptionId : ℕ) (folder : String) : Prop :=
  ∃ row ∈ checkpointsOf db subscriptionId, row.2.remoteFolderId = folder

/-- What may happen between two effects of a scan: time passes, the scan is
cancelled, or anything is written except to this subscription's checkpoints. -/
inductive OtherMove (subscriptionId : ℕ) where
  | pass (time : ℕ)
  | cancel
  | act (f : Database → Database)
    (kept : ∀ db, checkpointsOf (f db) subscriptionId = checkpointsOf db subscriptionId)

instance {π : Type} {subscriptionId : ℕ} :
    Surroundings (ScanWorld π) (OtherMove subscriptionId) where
  move
    | .pass time, w => { w with clock := w.clock + time }
    | .cancel, w => { w with cancellationRequested := true }
    | .act f _, w => { w with db := f w.db }

section Rows
variable {subscriptionId id : ℕ} {checkpoint checkpoint' : FolderCheckpoint}
  {db db' db'' : Database}

theorem mem_checkpointsOf : (id, checkpoint) ∈ checkpointsOf db subscriptionId ↔
    db.folderCheckpoints.get? id = some checkpoint ∧
      checkpoint.subscriptionId = subscriptionId := by
  rw [checkpointsOf, Table.mem_select, decide_eq_true_eq]

theorem checkpoint_unique (h : (id, checkpoint) ∈ checkpointsOf db subscriptionId)
    (h' : (id, checkpoint') ∈ checkpointsOf db subscriptionId) : checkpoint = checkpoint' :=
  Option.some.inj ((mem_checkpointsOf.mp h).1.symm.trans (mem_checkpointsOf.mp h').1)

/-- A transaction that stamps no checkpoint: those there are stay, and new ones
have never been scanned. -/
structure Grew (subscriptionId : ℕ) (db db' : Database) : Prop where
  kept : ∀ id checkpoint, (id, checkpoint) ∈ checkpointsOf db subscriptionId →
    ∃ checkpoint', (id, checkpoint') ∈ checkpointsOf db' subscriptionId ∧
      checkpoint'.remoteFolderId = checkpoint.remoteFolderId ∧
      checkpoint'.lastScannedAt = checkpoint.lastScannedAt
  fresh : ∀ id checkpoint', (id, checkpoint') ∈ checkpointsOf db' subscriptionId →
    (∃ checkpoint, (id, checkpoint) ∈ checkpointsOf db subscriptionId) ∨
      checkpoint'.lastScannedAt = none

theorem Grew.of_same (h : checkpointsOf db' subscriptionId = checkpointsOf db subscriptionId) :
    Grew subscriptionId db db' where
  kept _ checkpoint hrow := ⟨checkpoint, h ▸ hrow, rfl, rfl⟩
  fresh _ checkpoint' hrow := .inl ⟨checkpoint', h ▸ hrow⟩

theorem Grew.trans (h : Grew subscriptionId db db') (h' : Grew subscriptionId db' db'') :
    Grew subscriptionId db db'' where
  kept id checkpoint hrow := by
    obtain ⟨checkpoint', hrow', hfolder, hscanned⟩ := h.kept id checkpoint hrow
    obtain ⟨checkpoint'', hrow'', hfolder', hscanned'⟩ := h'.kept id checkpoint' hrow'
    exact ⟨checkpoint'', hrow'', hfolder'.trans hfolder, hscanned'.trans hscanned⟩
  fresh id checkpoint'' hrow'' := by
    rcases h'.fresh id checkpoint'' hrow'' with ⟨checkpoint', hrow'⟩ | hnone
    · rcases h.fresh id checkpoint' hrow' with hold | hnone
      · exact .inl hold
      · obtain ⟨other, hother, -, hscanned⟩ := h'.kept id checkpoint' hrow'
        rw [checkpoint_unique hrow'' hother, hscanned]
        exact .inr hnone
    · exact .inr hnone

theorem Grew.checkpointed {folder : String} (h : Grew subscriptionId db db')
    (hfolder : Checkpointed db subscriptionId folder) : Checkpointed db' subscriptionId folder := by
  obtain ⟨⟨id, checkpoint⟩, hrow, rfl⟩ := hfolder
  obtain ⟨checkpoint', hrow', hname, -⟩ := h.kept id checkpoint hrow
  exact ⟨_, hrow', hname⟩

theorem recordFile_checkpoints {texts : Texts} {now : Time} {item : RemoteItem} {path : String}
    {recorded : Recorded} (h : recordFile texts db now subscriptionId item path = .ok recorded) :
    recorded.db.folderCheckpoints = db.folderCheckpoints := by
  unfold recordFile at h
  split at h
  · split_ifs at h
    cases h
    rfl
  · cases h
    rfl

theorem queueTransfer_checkpoints {now : Time} {fileId : ℕ} {file : CloudFile}
    (h : queueTransfer db now subscriptionId fileId file = .ok db') :
    db'.folderCheckpoints = db.folderCheckpoints := by
  unfold queueTransfer createTask at h
  dsimp only at h
  split_ifs at h <;> cases h <;> rfl

theorem recordCheckpoint_grew (db : Database) (now : Time) (item : RemoteItem) (path : String) :
    Grew subscriptionId db (recordCheckpoint db now subscriptionId item path).1 := by
  unfold recordCheckpoint
  cases hfind : findCheckpoint db subscriptionId item.remoteFileId with
  | none =>
    constructor
    · intro id checkpoint hrow
      obtain ⟨hget, hsub⟩ := mem_checkpointsOf.mp hrow
      exact ⟨checkpoint, mem_checkpointsOf.mpr ⟨Table.get?_insert_of_some hget, hsub⟩, rfl, rfl⟩
    · intro id checkpoint' hrow
      obtain ⟨hget, hsub⟩ := mem_checkpointsOf.mp hrow
      dsimp only at hget
      rw [Table.get?_insert] at hget
      split_ifs at hget
      · cases hget
        exact .inr rfl
      · exact .inl ⟨checkpoint', mem_checkpointsOf.mpr ⟨hget, hsub⟩⟩
  | some found =>
    constructor
    · intro id checkpoint hrow
      obtain ⟨hget, hsub⟩ := mem_checkpointsOf.mp hrow
      simp only [mem_checkpointsOf, Table.get?_update, hget, Option.map_some, Option.some.injEq]
      refine ⟨_, ⟨rfl, ?_⟩, ?_, ?_⟩ <;> split_ifs <;> first | exact hsub | rfl
    · intro id checkpoint' hrow
      obtain ⟨hget, hsub⟩ := mem_checkpointsOf.mp hrow
      dsimp only at hget
      rw [Table.get?_update, Option.map_eq_some_iff] at hget
      obtain ⟨checkpoint, hget, heq⟩ := hget
      refine .inl ⟨checkpoint, mem_checkpointsOf.mpr ⟨hget, ?_⟩⟩
      rw [← hsub, ← heq]
      split_ifs <;> rfl

theorem recordCheckpoint_checkpointed (db : Database) (now : Time) (item : RemoteItem)
    (path : String) :
    Checkpointed (recordCheckpoint db now subscriptionId item path).1 subscriptionId
      item.remoteFileId := by
  cases hfind : findCheckpoint db subscriptionId item.remoteFileId with
  | none =>
    unfold recordCheckpoint
    rw [hfind]
    exact ⟨_, mem_checkpointsOf.mpr ⟨Table.get?_insert_nextId .., rfl⟩, rfl⟩
  | some found =>
    obtain ⟨hget, hsub, hname⟩ := findCheckpoint_some hfind
    exact (recordCheckpoint_grew db now item path).checkpointed
      ⟨found, mem_checkpointsOf.mpr ⟨hget, hsub⟩, hname⟩

theorem recordItem_grew {texts : Texts} {now : Time} {item : RemoteItem} {path : String}
    {createTransfers : Bool} {discovered : ℕ} {found : Option ℕ}
    (h : recordItem texts db now subscriptionId item path createTransfers =
      .ok (db', discovered, found)) : Grew subscriptionId db db' := by
  have hsame {db₁ db₂ : Database} (heq : db₂.folderCheckpoints = db₁.folderCheckpoints) :
      Grew subscriptionId db₁ db₂ :=
    .of_same (by rw [checkpointsOf, heq]; rfl)
  unfold recordItem at h
  cases hfile : recordFile texts db now subscriptionId item path with
  | error e =>
    rw [hfile] at h
    cases h
  | ok recorded =>
    have hrecorded := hsame (recordFile_checkpoints hfile)
    simp only [hfile, bind, Except.bind, pure, Except.pure] at h
    split_ifs at h with hfolder hqueue
    · cases h
      exact hrecorded.trans (recordCheckpoint_grew _ _ _ _)
    · cases hqueued : queueTransfer recorded.db now subscriptionId recorded.fileId
        recorded.file with
      | error e =>
        rw [hqueued] at h
        cases h
      | ok queued =>
        rw [hqueued] at h
        cases h
        exact hrecorded.trans (hsame (queueTransfer_checkpoints hqueued))
    · cases h
      exact hrecorded

theorem recordItem_checkpointed {texts : Texts} {now : Time} {item : RemoteItem} {path : String}
    {createTransfers : Bool} {discovered : ℕ} {found : Option ℕ}
    (h : recordItem texts db now subscriptionId item path createTransfers =
      .ok (db', discovered, found)) (hfolder : item.itemType = "folder") :
    Checkpointed db' subscriptionId item.remoteFileId := by
  unfold recordItem at h
  cases hfile : recordFile texts db now subscriptionId item path with
  | error e =>
    rw [hfile] at h
    cases h
  | ok recorded =>
    simp only [hfile, bind, Except.bind, pure, Except.pure, hfolder, if_true] at h
    cases h
    exact recordCheckpoint_checkpointed _ _ _ _

theorem recordPage_grew {texts : Texts} {now : Time} {parentPath : PurePosixPath}
    {createTransfers : Bool} {items : List RemoteItem} {discovered : ℕ} {found : List ℕ}
    (h : recordPage texts now subscriptionId parentPath createTransfers items db =
      .ok (db', discovered, found)) : Grew subscriptionId db db' := by
  induction items generalizing db discovered found with
  | nil =>
    cases h
    exact .of_same rfl
  | cons item items ih =>
    unfold recordPage at h
    obtain ⟨⟨db₁, first⟩, hitem, h⟩ := bind_ok h
    obtain ⟨⟨db₂, rest⟩, hrest, h⟩ := bind_ok h
    cases h
    exact (recordItem_grew hitem).trans (ih hrest)

/-- Every folder of a page has a checkpoint when the page is recorded. -/
theorem recordPage_checkpointed {texts : Texts} {now : Time} {parentPath : PurePosixPath}
    {createTransfers : Bool} {items : List RemoteItem} {discovered : ℕ} {found : List ℕ}
    (h : recordPage texts now subscriptionId parentPath createTransfers items db =
      .ok (db', discovered, found)) {item : RemoteItem} (hmem : item ∈ items)
    (hfolder : item.itemType = "folder") : Checkpointed db' subscriptionId item.remoteFileId := by
  induction items generalizing db discovered found with
  | nil => cases hmem
  | cons first items ih =>
    unfold recordPage at h
    obtain ⟨⟨db₁, recorded⟩, hitem, h⟩ := bind_ok h
    obtain ⟨⟨db₂, rest⟩, hrest, h⟩ := bind_ok h
    cases h
    rcases List.mem_cons.mp hmem with rfl | hlater
    · exact (recordPage_grew hrest).checkpointed (recordItem_checkpointed hitem hfolder)
    · exact ih hrest hlater

end Rows

/-! ## One scan -/

/-- The scan has gone from one state to another, has asked for these pages on the
way and has stamped these checkpoints. -/
structure Went {π : Type} (subscriptionId : ℕ) (stamps : List ℕ) (pages : List Listing)
    (w w' : ScanWorld (Logged π)) : Prop where
  clock : w.clock ≤ w'.clock
  kept : ∀ id checkpoint, (id, checkpoint) ∈ checkpointsOf w.db subscriptionId →
    ∃ checkpoint', (id, checkpoint') ∈ checkpointsOf w'.db subscriptionId ∧
      checkpoint'.remoteFolderId = checkpoint.remoteFolderId ∧
      (id ∉ stamps → checkpoint'.lastScannedAt = checkpoint.lastScannedAt)
  stamped : ∀ id ∈ stamps, ∃ checkpoint' time,
    (id, checkpoint') ∈ checkpointsOf w'.db subscriptionId ∧
      checkpoint'.lastScannedAt = some time ∧ w.clock ≤ time ∧ time ≤ w'.clock
  fresh : ∀ id checkpoint', (id, checkpoint') ∈ checkpointsOf w'.db subscriptionId →
    id ∈ stamps ∨ (∃ checkpoint, (id, checkpoint) ∈ checkpointsOf w.db subscriptionId) ∨
      checkpoint'.lastScannedAt = none
  asked : w'.provider.2 = w.provider.2 ++ pages

section Program
variable {π : Type} {subscriptionId : ℕ} {stamps stamps' : List ℕ} {pages pages' : List Listing}
  {w w' w'' : ScanWorld (Logged π)}

theorem Went.of_grew (hclock : w.clock ≤ w'.clock) (h : Grew subscriptionId w.db w'.db)
    (hasked : w'.provider.2 = w.provider.2 ++ pages) : Went subscriptionId [] pages w w' where
  clock := hclock
  kept id checkpoint hrow := by
    obtain ⟨checkpoint', hrow', hfolder, hscanned⟩ := h.kept id checkpoint hrow
    exact ⟨checkpoint', hrow', hfolder, fun _ => hscanned⟩
  stamped _ hmem := absurd hmem List.not_mem_nil
  fresh id checkpoint' hrow := .inr (h.fresh id checkpoint' hrow)
  asked := hasked

/-- A step that writes nothing the rotation depends on. -/
theorem Went.of_same (hclock : w.clock ≤ w'.clock)
    (hrows : checkpointsOf w'.db subscriptionId = checkpointsOf w.db subscriptionId)
    (hasked : w'.provider = w.provider) : Went subscriptionId [] [] w w' :=
  .of_grew hclock (.of_same hrows) (by rw [hasked, List.append_nil])

theorem Went.trans (h : Went subscriptionId stamps pages w w')
    (h' : Went subscriptionId stamps' pages' w' w'') :
    Went subscriptionId (stamps ++ stamps') (pages ++ pages') w w'' where
  clock := h.clock.trans h'.clock
  kept id checkpoint hrow := by
    obtain ⟨checkpoint', hrow', hfolder, hscanned⟩ := h.kept id checkpoint hrow
    obtain ⟨checkpoint'', hrow'', hfolder', hscanned'⟩ := h'.kept id checkpoint' hrow'
    refine ⟨checkpoint'', hrow'', hfolder'.trans hfolder, fun hnot => ?_⟩
    rw [List.mem_append, not_or] at hnot
    exact (hscanned' hnot.2).trans (hscanned hnot.1)
  stamped id hmem := by
    by_cases hlater : id ∈ stamps'
    · obtain ⟨checkpoint'', time, hrow, hscanned, hfrom, hto⟩ := h'.stamped id hlater
      exact ⟨checkpoint'', time, hrow, hscanned, h.clock.trans hfrom, hto⟩
    · have hearlier := (List.mem_append.mp hmem).resolve_right hlater
      obtain ⟨checkpoint', time, hrow, hscanned, hfrom, hto⟩ := h.stamped id hearlier
      obtain ⟨checkpoint'', hrow', -, hsame⟩ := h'.kept id checkpoint' hrow
      exact ⟨checkpoint'', time, hrow', (hsame hlater).trans hscanned, hfrom, hto.trans h'.clock⟩
  fresh id checkpoint'' hrow'' := by
    by_cases hlater : id ∈ stamps'
    · exact .inl (List.mem_append_right _ hlater)
    rcases (h'.fresh id checkpoint'' hrow'').resolve_left hlater with ⟨checkpoint', hrow'⟩ | hnone
    · rcases h.fresh id checkpoint' hrow' with hearlier | hold | hnone
      · exact .inl (List.mem_append_left _ hearlier)
      · exact .inr (.inl hold)
      · obtain ⟨other, hother, -, hsame⟩ := h'.kept id checkpoint' hrow'
        rw [checkpoint_unique hrow'' hother, hsame hlater]
        exact .inr (.inr hnone)
    · exact .inr (.inr hnone)
  asked := by rw [h'.asked, h.asked, List.append_assoc]

theorem Went.after (h : Went subscriptionId [] [] w w')
    (h' : Went subscriptionId stamps pages w' w'') : Went subscriptionId stamps pages w w'' := by
  simpa using h.trans h'

theorem Went.andThen (h : Went subscriptionId stamps pages w w')
    (h' : Went subscriptionId [] [] w' w'') : Went subscriptionId stamps pages w w'' := by
  simpa using h.trans h'

theorem Went.checkpointed {folder : String} (h : Went subscriptionId stamps pages w w')
    (hfolder : Checkpointed w.db subscriptionId folder) :
    Checkpointed w'.db subscriptionId folder := by
  obtain ⟨⟨id, checkpoint⟩, hrow, rfl⟩ := hfolder
  obtain ⟨checkpoint', hrow', hname, -⟩ := h.kept id checkpoint hrow
  exact ⟨_, hrow', hname⟩

theorem went_of_moved (h : Moved (OtherMove subscriptionId) w w') :
    Went subscriptionId [] [] w w' := by
  induction h with
  | refl w => exact .of_same le_rfl rfl rfl
  | @step w w' i _ ih =>
    have hmove : Went subscriptionId [] [] w (Surroundings.move i w) := by
      cases i with
      | pass time => exact .of_same (Int.le_add_of_nonneg_right (Int.natCast_nonneg time)) rfl rfl
      | cancel => exact .of_same le_rfl rfl rfl
      | act f kept => exact .of_same le_rfl (kept w.db) rfl
    exact hmove.after ih

/-- A transaction that returned was made at the present moment. -/
theorem transact_returns {α : Type}
    {act : Time → Database → Except ScanError (α × Database)} {a : α}
    (h : Returns (OtherMove subscriptionId) (transact act) w a w') :
    ∃ w₁ db, Went subscriptionId [] [] w w₁ ∧ act w₁.clock w₁.db = .ok (a, db) ∧
      w' = { w₁ with db := db } := by
  obtain ⟨w₁, hmoved, hact⟩ := h.effect
  refine ⟨w₁, w'.db, went_of_moved hmoved, ?_⟩
  split at hact
  next b db heq =>
    cases hact
    exact ⟨heq, rfl⟩
  next e heq => cases hact

theorem raiseIfCancelled_returns
    (h : Returns (OtherMove subscriptionId) (raiseIfCancelled : ScanProg (Logged π) Unit) w () w') :
    Went subscriptionId [] [] w w' := by
  unfold raiseIfCancelled at h
  obtain ⟨cancelled, w₁, hlook, hrest⟩ := h.bind
  obtain ⟨hmoved, -⟩ := hlook.look
  cases cancelled with
  | true =>
    rw [if_pos rfl] at hrest
    exact hrest.throw.elim
  | false =>
    rw [if_neg Bool.false_ne_true] at hrest
    obtain ⟨-, rfl⟩ := hrest.pure
    exact went_of_moved hmoved

/-- The request for the share that `step` made was answered with it. -/
def Answered (context : ScanContext π) (subscription : Subscription)
    (step : ScanWorld (Logged π) × ScanWorld (Logged π)) (share : ShareInfo) : Prop :=
  ∃ password, decryptSharePassword context subscription = .ok password ∧
    context.provider.resolveShare subscription.shareUrl password step.1.provider.1 =
      (.ok share, step.2.provider.1)

theorem resolveShare_returned {context : ScanContext π} {subscription : Subscription}
    {share : ShareInfo} {steps : List (ScanWorld (Logged π) × ScanWorld (Logged π))}
    (h : Returned (OtherMove subscriptionId) (resolveShare (recorded context) subscription) w share
      w' steps) :
    Went subscriptionId [] [] w w' ∧ ∃ step ∈ steps, Answered context subscription step share := by
  unfold resolveShare at h
  obtain ⟨password, w₁, before, after, hpassword, hask, rfl⟩ := h.bind
  obtain ⟨hdecrypted, rfl⟩ := hpassword.returns.ofExcept
  obtain ⟨w₂, hmoved, hact, rfl⟩ := hask.effect
  obtain ⟨hanswer, rfl⟩ := Prod.mk.inj hact
  refine ⟨(went_of_moved hmoved).after (.of_grew le_rfl (.of_same rfl) (List.append_nil _).symm),
    _, List.mem_append_right _ (List.mem_singleton_self _), password, ?_, ?_⟩
  · exact mapError_ok hdecrypted
  · exact Prod.ext (mapError_ok hanswer) rfl

theorem listShareItems_returns {context : ScanContext π} {share : ShareInfo} {folder : String}
    {marker : Option String} {page : RemotePage}
    (h : Returns (OtherMove subscriptionId) (listShareItems (recorded context) share folder marker)
      w page w') : Went subscriptionId [] [⟨folder, marker, .ok page⟩] w w' := by
  obtain ⟨w₁, hmoved, hact⟩ := h.effect
  obtain ⟨hanswer, rfl⟩ := Prod.mk.inj hact
  refine (went_of_moved hmoved).after (.of_grew le_rfl (.of_same rfl) ?_)
  change w₁.provider.2 ++ [⟨folder, marker, _⟩] = _
  have hpage : (context.provider.listShareItems share folder marker w₁.provider.1).1 = .ok page :=
    mapError_ok hanswer
  rw [hpage]

theorem commitPage_returns {context : ScanContext π} {scan : FolderScan}
    {parentPath : PurePosixPath} {page : RemotePage} {answer : ℕ × List ℕ}
    (h : Returns (OtherMove scan.subscriptionId)
      (commitPage (recorded context) scan parentPath page) w answer w') :
    Went scan.subscriptionId [] [] w w' ∧ ∀ item ∈ page.items, item.itemType = "folder" →
      Checkpointed w'.db scan.subscriptionId item.remoteFileId := by
  obtain ⟨w₁, db, hwent, hact, rfl⟩ := transact_returns h
  split at hact
  next heq =>
    cases hact
    exact ⟨hwent.after (.of_grew le_rfl (recordPage_grew heq) (List.append_nil _).symm),
      fun item hitem hfolder => recordPage_checkpointed heq hitem hfolder⟩
  next heq => cases hact

/-- A folder has been listed from a cursor on, and what it showed has
checkpoints. -/
structure ListedFrom (subscriptionId : ℕ) (folder : String) (marker : Option String)
    (pages : List Listing) (w w' : ScanWorld (Logged π)) : Prop where
  went : Went subscriptionId [] pages w w'
  paged : Paged folder marker pages
  shown : ∀ entry ∈ pages, ∀ child, entry.shows child → Checkpointed w'.db subscriptionId child

theorem ListedFrom.later {folder : String} {marker : Option String}
    (h : ListedFrom subscriptionId folder marker pages w w')
    (h' : Went subscriptionId [] [] w' w'') :
    ListedFrom subscriptionId folder marker pages w w'' where
  went := h.went.andThen h'
  paged := h.paged
  shown entry hentry child hchild := h'.checkpointed (h.shown entry hentry child hchild)

/-- The pages after the first one are asked for by a cursor. -/
theorem scanPages_returns {context : ScanContext π} {scan : FolderScan} {folder : String}
    {path : PurePosixPath} {fuel : ℕ} {marker : Option String}
    {seenMarkers seenItemIds : List String}
    {result : ScanResult} {children : List ℕ} {answer : ScanResult × List ℕ}
    (h : Returns (OtherMove scan.subscriptionId) (scanPages (recorded context) scan folder path fuel
      marker seenMarkers seenItemIds result children) w answer w') :
    ∃ pages, ListedFrom scan.subscriptionId folder marker pages w w' := by
  induction fuel generalizing marker seenMarkers seenItemIds result children w with
  | zero => exact h.throw.elim
  | succ fuel ih =>
    unfold scanPages at h
    obtain ⟨_, w₁, hcheck, hlist⟩ := h.bind
    obtain ⟨page, w₂, hpage, hread⟩ := hlist.bind
    have hasked := (raiseIfCancelled_returns hcheck).after (listShareItems_returns hpage)
    by_cases hitems : page.items = []
    · rw [if_pos hitems] at hread
      obtain ⟨-, rfl⟩ := hread.pure
      refine ⟨_, hasked, .last (.inl hitems), fun entry hentry child hchild => ?_⟩
      obtain rfl := List.mem_singleton.mp hentry
      obtain ⟨_, hanswer, item, hitem, -⟩ := hchild
      cases hanswer
      rw [hitems] at hitem
      cases hitem
    · rw [if_neg hitems] at hread
      obtain ⟨_, w₃, hprogress, hrecord⟩ := hread.bind
      obtain ⟨-, rfl⟩ := hprogress.ofExcept
      obtain ⟨found, w₄, hcommit, hnext⟩ := hrecord.bind
      obtain ⟨hquiet, hfolders⟩ := commitPage_returns hcommit
      have hrecorded := hasked.andThen hquiet
      have hshown (child : String) (hchild : Listing.shows ⟨folder, marker, .ok page⟩ child) :
          Checkpointed w₄.db scan.subscriptionId child := by
        obtain ⟨_, hanswer, item, hitem, hfolder, rfl⟩ := hchild
        cases hanswer
        exact hfolders item hitem hfolder
      dsimp only at hnext
      cases hgiven : given page.nextMarker with
      | false =>
        rw [hgiven, if_pos (by rfl)] at hnext
        obtain ⟨-, rfl⟩ := hnext.pure
        refine ⟨_, hrecorded, .last (.inr hgiven), fun entry hentry => ?_⟩
        rw [List.mem_singleton.mp hentry]
        exact hshown
      | true =>
        rw [hgiven, if_neg (by simp)] at hnext
        obtain ⟨rest, hrest⟩ := ih hnext
        refine ⟨_, hrecorded.trans hrest.went, .next hgiven hrest.paged, fun entry hentry => ?_⟩
        rcases List.mem_cons.mp hentry with rfl | hlater
        · exact fun child hchild => hrest.went.checkpointed (hshown child hchild)
        · exact hrest.shown entry hlater

theorem scanFolderContents_returns {context : ScanContext π} {scan : FolderScan} {folder : String}
    {path : PurePosixPath} {fuel : ℕ} {answer : ScanResult × List ℕ}
    (h : Returns (OtherMove scan.subscriptionId)
      (scanFolderContents (recorded context) scan fuel folder path) w answer w') :
    ∃ pages, ListedFrom scan.subscriptionId folder none pages w w' :=
  scanPages_returns h

theorem stampCheckpoint_went {id : ℕ} {checkpoint : FolderCheckpoint}
    (hrow : (id, checkpoint) ∈ checkpointsOf w.db subscriptionId) :
    Went subscriptionId [id] [] w { w with db := stampCheckpoint id w.clock w.db } := by
  have hstamped (other : ℕ) (row : FolderCheckpoint) :
      (other, row) ∈ checkpointsOf (stampCheckpoint id w.clock w.db) subscriptionId ↔
        ∃ old, (other, old) ∈ checkpointsOf w.db subscriptionId ∧
          row = if other = id then { old with lastScannedAt := some w.clock } else old := by
    simp only [mem_checkpointsOf, stampCheckpoint, Table.get?_update, Option.map_eq_some_iff,
      decide_eq_true_eq]
    constructor
    · rintro ⟨⟨old, hget, rfl⟩, hsub⟩
      refine ⟨old, ⟨hget, ?_⟩, rfl⟩
      split_ifs at hsub <;> exact hsub
    · rintro ⟨old, ⟨hget, hsub⟩, rfl⟩
      refine ⟨⟨old, hget, rfl⟩, ?_⟩
      split_ifs <;> exact hsub
  refine ⟨le_rfl, fun other row hother => ⟨_, (hstamped _ _).mpr ⟨row, hother, rfl⟩, ?_, ?_⟩, ?_,
    ?_, (List.append_nil _).symm⟩
  · split_ifs <;> rfl
  · intro hnot
    rw [if_neg (by simpa using hnot)]
  · intro other hmem
    obtain rfl := List.mem_singleton.mp hmem
    exact ⟨_, w.clock, (hstamped _ _).mpr ⟨checkpoint, hrow, rfl⟩, by rw [if_pos rfl],
      le_rfl, le_rfl⟩
  · intro other row hother
    obtain ⟨old, hold, -⟩ := (hstamped _ _).mp hother
    exact .inr (.inl ⟨old, hold⟩)

/-- Checkpointed folders are listed in order and stamped one after the other. -/
theorem scanCheckpoints_returns {visit : FolderCheckpoint → ScanProg (Logged π) ScanResult}
    (hvisit : ∀ checkpoint w answer w',
      Returns (OtherMove subscriptionId) (visit checkpoint) w answer w' → ∃ pages,
        ListedFrom subscriptionId checkpoint.remoteFolderId none pages w w')
    {batch : List (ℕ × FolderCheckpoint)}
    (hrows : ∀ row ∈ batch, ∃ checkpoint, (row.1, checkpoint) ∈ checkpointsOf w.db subscriptionId ∧
      checkpoint.remoteFolderId = row.2.remoteFolderId)
    {result answer : ScanResult}
    (h : Returns (OtherMove subscriptionId) (scanCheckpoints visit (batch.map Prod.fst) result) w
      answer w') :
    ∃ pages, Went subscriptionId (batch.map Prod.fst) pages w w' ∧
      Listings (batch.map fun row => row.2.remoteFolderId) pages := by
  induction batch generalizing result w with
  | nil =>
    obtain ⟨-, rfl⟩ := h.pure
    exact ⟨[], .of_same le_rfl rfl rfl, .nil⟩
  | cons row batch ih =>
    obtain ⟨id, chosen⟩ := row
    obtain ⟨first, hfirst, hfolder⟩ := hrows _ (List.mem_cons_self ..)
    unfold scanCheckpoints at h
    obtain ⟨_, w₁, hcheck, hlook⟩ := h.bind
    obtain ⟨checkpoint, w₂, hview, hlist⟩ := hlook.bind
    obtain ⟨hmoved, hview⟩ := hview.look
    have hquiet := (raiseIfCancelled_returns hcheck).after (went_of_moved hmoved)
    obtain ⟨row, hrow, hsame, -⟩ := hquiet.kept id first hfirst
    have hname : checkpoint.remoteFolderId = chosen.remoteFolderId := by
      dsimp only at hview
      rw [(mem_checkpointsOf.mp hrow).1] at hview
      cases hview
      exact hsame.trans hfolder
    obtain ⟨child, w₃, hvisited, hstamp⟩ := hlist.bind
    obtain ⟨pages, hfound⟩ := hvisit checkpoint w₂ child w₃ hvisited
    have hlisted := hquiet.after hfound.went
    have hpaged := hfound.paged
    obtain ⟨_, w₄, hstamp, hrest⟩ := hstamp.bind
    obtain ⟨w₅, db, hstill, hact, hw₄⟩ := transact_returns hstamp
    cases hact
    subst hw₄
    have hbefore := hlisted.andThen hstill
    obtain ⟨_, hthere, -⟩ := hbefore.kept id first hfirst
    have hstamped := hbefore.trans (stampCheckpoint_went hthere)
    rw [hname] at hpaged
    have hlater := ih (fun other hother => ?_) hrest
    · obtain ⟨rest, hlater, hlistings⟩ := hlater
      exact ⟨pages ++ rest, by simpa using hstamped.trans hlater, .cons hpaged hlistings⟩
    · obtain ⟨old, hold, hother⟩ := hrows other (List.mem_cons_of_mem _ hother)
      obtain ⟨new, hnew, hkept, -⟩ := hstamped.kept other.1 old hold
      exact ⟨new, hnew, hkept.trans hother⟩

/-- The batch of an incremental scan, with the rows as they are when it is
chosen. -/
def batchOf (db : Database) (subscriptionId size : ℕ) : List (ℕ × FolderCheckpoint) :=
  ((checkpointsOf db subscriptionId).insertionSort scannedBefore).take size

theorem mem_of_batch {db : Database} {size : ℕ} {row : ℕ × FolderCheckpoint}
    (h : row ∈ batchOf db subscriptionId size) : row ∈ checkpointsOf db subscriptionId :=
  (List.perm_insertionSort _ _).mem_iff.mp (List.mem_of_mem_take h)

/-- A scan that lists the root and then the batch that is due in the state
`chosen`. -/
structure Incremental (subscriptionId size : ℕ) (root : String) (rootPages pages : List Listing)
    (w chosen w' : ScanWorld (Logged π)) : Prop where
  root : ListedFrom subscriptionId root none rootPages w chosen
  after : Went subscriptionId ((batchOf chosen.db subscriptionId size).map Prod.fst) pages chosen w'
  batch : Listings
    ((batchOf chosen.db subscriptionId size).map fun row => row.2.remoteFolderId) pages

theorem Incremental.before {size : ℕ} {root : String} {rootPages : List Listing}
    {chosen : ScanWorld (Logged π)}
    (h : Incremental subscriptionId size root rootPages pages w chosen w') :
    Went subscriptionId [] rootPages w chosen := h.root.went

theorem scanFolderBatch_returned {context : ScanContext π} {scan : FolderScan} {fuel : ℕ}
    {root : String} {answer : ScanResult}
    {steps : List (ScanWorld (Logged π) × ScanWorld (Logged π))}
    (h : Returned (OtherMove scan.subscriptionId)
      (scanFolderBatch (recorded context) scan fuel root) w answer w' steps) :
    ∃ chosen rootPages pages, (chosen, chosen) ∈ steps ∧ Incremental scan.subscriptionId
      context.settings.folderScanBatchSize root rootPages pages w chosen w' := by
  unfold scanFolderBatch at h
  obtain ⟨_, w₁, first, rest, hroot, hbatch, rfl⟩ := h.bind
  obtain ⟨ids, w₂, looked, later, hlook, hvisits, rfl⟩ := hbatch.bind
  obtain ⟨hmoved, hview, rfl⟩ := hlook.look
  cases hview
  obtain ⟨rootPages, hlisted⟩ := scanFolderContents_returns hroot.returns
  have hvisited := scanCheckpoints_returns (fun checkpoint w answer w' hvisit => ?_)
    (fun row hrow => ⟨row.2, mem_of_batch hrow, rfl⟩) hvisits.returns
  · obtain ⟨pages, hafter, hlistings⟩ := hvisited
    exact ⟨w₂, rootPages, pages, by simp, hlisted.later (went_of_moved hmoved), hafter, hlistings⟩
  · obtain ⟨_, w₃, hcontents, hanswer⟩ := hvisit.bind
    obtain ⟨-, rfl⟩ := hanswer.pure
    exact scanFolderContents_returns hcontents

/-- A successful incremental scan of the subscription, by the row that was read
for it; `steps` are its effects. -/
def ScannedBy (context : ScanContext π) (subscriptionId : ℕ) (subscription : Subscription)
    (steps : List (ScanWorld (Logged π) × ScanWorld (Logged π))) (w w' : ScanWorld (Logged π)) :
    Prop :=
  ∃ fuel forceFull result, Returned (OtherMove subscriptionId)
      (executeScanDomain (recorded context) fuel subscriptionId subscription forceFull) w result w'
      steps ∧
    result.fullScan = false

def Scanned (context : ScanContext π) (subscriptionId : ℕ) (w w' : ScanWorld (Logged π)) : Prop :=
  ∃ subscription steps, ScannedBy context subscriptionId subscription steps w w'

/-- The folder the scan starts from: the one that the subscription names, or the
root of the share as the provider has answered in this scan. -/
def StartsFrom (context : ScanContext π) (subscription : Subscription)
    (steps : List (ScanWorld (Logged π) × ScanWorld (Logged π))) (root : String) : Prop :=
  ∃ step ∈ steps, ∃ share, Answered context subscription step share ∧
    root = (subscription.sourceFolderId.filter (· ≠ "")).getD share.rootFolderId

/-- A scan that starts from `root` and chooses its batch in `chosen`, a state
that one of its effects has seen. -/
def Passes (context : ScanContext π) (subscriptionId : ℕ) (root : String)
    (w chosen w' : ScanWorld (Logged π)) : Prop :=
  ∃ subscription steps, ScannedBy context subscriptionId subscription steps w w' ∧
    StartsFrom context subscription steps root ∧ (chosen, chosen) ∈ steps

theorem Scanned.incremental {context : ScanContext π} (h : Scanned context subscriptionId w w') :
    ∃ root chosen rootPages pages, Passes context subscriptionId root w chosen w' ∧
      Incremental subscriptionId context.settings.folderScanBatchSize root rootPages pages w chosen
        w' := by
  obtain ⟨subscription, steps, hby⟩ := h
  obtain ⟨fuel, forceFull, result, hreturned, hpart⟩ := hby
  unfold executeScanDomain at hreturned
  obtain ⟨_, w₁, checked, steps₁, hcheck, hshare, hsteps₁⟩ := hreturned.bind
  obtain ⟨share, w₂, resolved, steps₂, hshare, hstart, hsteps₂⟩ := hshare.bind
  obtain ⟨startedAt, w₃, looked, steps₃, hlook, hscan, hsteps₃⟩ := hstart.bind
  obtain ⟨hquiet, step, hstep, hanswer⟩ := resolveShare_returned hshare
  have hfirst := ((raiseIfCancelled_returns hcheck.returns).after hquiet).after
    (went_of_moved hlook.look.1)
  obtain ⟨counted, w₄, scanned, steps₄, hfolders, hrest, hsteps₄⟩ := hscan.bind
  obtain ⟨_, w₅, hagain, hlast⟩ := hrest.returns.bind
  obtain ⟨count, w₆, hfinish, hanswered⟩ := hlast.bind
  obtain ⟨rfl, rfl⟩ := hanswered.pure
  obtain ⟨w₇, db, hstill, hact, rfl⟩ := transact_returns hfinish
  have hlast : Went subscriptionId [] [] w₇ { w₇ with db := db } := by
    split at hact
    next => cases hact
    next =>
      cases hact
      exact .of_same le_rfl rfl rfl
  have hby : ScannedBy context subscriptionId subscription steps w { w₇ with db := db } :=
    ⟨fuel, forceFull, _, hreturned, hpart⟩
  unfold scanFolders at hfolders
  dsimp only at hpart
  rw [hpart, if_neg Bool.false_ne_true] at hfolders
  let scan : FolderScan := ⟨subscriptionId, share,
    !(subscription.lastScannedAt.isNone && subscription.initialSyncMode = "future_only")⟩
  have hbatch : Returned (OtherMove scan.subscriptionId)
      (scanFolderBatch (recorded context) scan fuel _) w₃ counted w₄ scanned := hfolders
  obtain ⟨chosen, rootPages, pages, hchosen, hscan⟩ := scanFolderBatch_returned hbatch
  refine ⟨_, chosen, rootPages, pages,
    ⟨subscription, steps, hby, ⟨step, ?_, share, hanswer, rfl⟩, ?_⟩,
    ⟨⟨hfirst.after hscan.before, hscan.root.paged, hscan.root.shown⟩,
    ((hscan.after.andThen (raiseIfCancelled_returns hagain)).andThen hstill).andThen hlast,
    hscan.batch⟩⟩
  · simp [hsteps₁, hsteps₂, hstep]
  · simp [hsteps₁, hsteps₂, hsteps₃, hsteps₄, hchosen]

end Program

/-! ## Which folders are due -/

/-- The time of the last scan, with no scan before every time. -/
def stampOf (checkpoint : FolderCheckpoint) : WithBot Time :=
  match checkpoint.lastScannedAt with
  | none => ⊥
  | some time => time

theorem stampOf_congr {checkpoint checkpoint' : FolderCheckpoint}
    (h : checkpoint'.lastScannedAt = checkpoint.lastScannedAt) :
    stampOf checkpoint' = stampOf checkpoint := by
  unfold stampOf
  rw [h]

theorem scannedBefore_iff (a b : ℕ × FolderCheckpoint) : scannedBefore a b ↔
    toLex (stampOf a.2, a.1) ≤ toLex (stampOf b.2, b.1) := by
  rw [Prod.Lex.toLex_le_toLex]
  unfold scannedBefore stampOf
  cases ha : a.2.lastScannedAt <;> cases hb : b.2.lastScannedAt <;> simp [WithBot.bot_lt_coe]

instance : Std.Total scannedBefore where
  total a b := by
    rw [scannedBefore_iff, scannedBefore_iff]
    exact le_total _ _

instance : IsTrans (ℕ × FolderCheckpoint) scannedBefore where
  trans a b c := by
    rw [scannedBefore_iff, scannedBefore_iff, scannedBefore_iff]
    exact le_trans

section Due
variable {db : Database} {subscriptionId size : ℕ}

theorem batchOf_length : (batchOf db subscriptionId size).length =
    min size (checkpointsOf db subscriptionId).length := by
  rw [batchOf, List.length_take, List.length_insertionSort]

theorem batchOf_sorted (db : Database) (subscriptionId size : ℕ) :
    (batchOf db subscriptionId size).Pairwise scannedBefore :=
  (List.pairwise_insertionSort scannedBefore _).sublist (List.take_sublist _ _)

/-- The batch comes before every other checkpoint. -/
theorem batchOf_first {row other : ℕ × FolderCheckpoint}
    (hrow : row ∈ batchOf db subscriptionId size) (hother : other ∈ checkpointsOf db subscriptionId)
    (hwaits : other ∉ batchOf db subscriptionId size) : scannedBefore row other := by
  have hsorted := List.pairwise_insertionSort scannedBefore (checkpointsOf db subscriptionId)
  rw [← List.take_append_drop size (List.insertionSort _ _), List.pairwise_append] at hsorted
  refine hsorted.2.2 row hrow other ?_
  have hmem := (List.perm_insertionSort scannedBefore _).mem_iff.mpr hother
  rw [← List.take_append_drop size (List.insertionSort _ _), List.mem_append] at hmem
  exact hmem.resolve_left hwaits

theorem checkpointsOf_nodup : ((checkpointsOf db subscriptionId).map Prod.fst).Nodup :=
  (db.folderCheckpoints.keyed).sublist (List.Sublist.map _ List.filter_sublist)

theorem batchOf_nodup : ((batchOf db subscriptionId size).map Prod.fst).Nodup := by
  have hsorted : (((checkpointsOf db subscriptionId).insertionSort scannedBefore).map
      Prod.fst).Nodup :=
    ((List.perm_insertionSort scannedBefore _).map Prod.fst).nodup_iff.mpr checkpointsOf_nodup
  exact hsorted.sublist ((List.take_sublist _ _).map _)

/-- What the rotation reads of a row. -/
def plain (row : ℕ × FolderCheckpoint) : ℕ × FolderCheckpoint :=
  (row.1, { row.2 with relativePath := "", lastSeenAt := 0 })

theorem scannedBefore_antisymm {a b : ℕ × FolderCheckpoint} (h : scannedBefore a b)
    (h' : scannedBefore b a) : a.1 = b.1 := by
  rw [scannedBefore_iff] at h h'
  exact (Prod.mk.inj (toLex_inj.mp (le_antisymm h h'))).2

/-- While no folder appears the same folders are due. -/
theorem batchOf_plain (size : ℕ) {db' : Database} (h : Grew subscriptionId db db')
    (hsame : ∀ id checkpoint', (id, checkpoint') ∈ checkpointsOf db' subscriptionId →
      ∃ checkpoint, (id, checkpoint) ∈ checkpointsOf db subscriptionId) :
    (batchOf db' subscriptionId size).map plain = (batchOf db subscriptionId size).map plain := by
  have hplain {id : ℕ} {row row' : FolderCheckpoint}
      (hrow : (id, row) ∈ checkpointsOf db subscriptionId)
      (hrow' : (id, row') ∈ checkpointsOf db' subscriptionId) :
        plain (id, row') = plain (id, row) := by
    obtain ⟨new, hnew, hfolder, hscanned⟩ := h.kept id row hrow
    obtain rfl := checkpoint_unique hrow' hnew
    have hsub := (mem_checkpointsOf.mp hrow).2.trans (mem_checkpointsOf.mp hrow').2.symm
    simp only [plain, hfolder, hscanned, hsub]
  have hnodup (db : Database) : ((checkpointsOf db subscriptionId).map plain).Nodup := by
    apply List.Nodup.of_map Prod.fst
    rw [List.map_map]
    exact checkpointsOf_nodup
  have hperm : ((checkpointsOf db' subscriptionId).map plain).Perm
      ((checkpointsOf db subscriptionId).map plain) := by
    refine (List.perm_ext_iff_of_nodup (hnodup db') (hnodup db)).mpr fun key => ?_
    rw [List.mem_map, List.mem_map]
    constructor
    · rintro ⟨⟨id, row'⟩, hrow', rfl⟩
      obtain ⟨row, hrow⟩ := hsame id row' hrow'
      exact ⟨_, hrow, (hplain hrow hrow').symm⟩
    · rintro ⟨⟨id, row⟩, hrow, rfl⟩
      obtain ⟨row', hrow', -⟩ := h.kept id row hrow
      exact ⟨_, hrow', hplain hrow hrow'⟩
  have hsorted (db : Database) :
      (((checkpointsOf db subscriptionId).insertionSort scannedBefore).map plain).Pairwise
        scannedBefore :=
    List.pairwise_map.mpr (List.pairwise_insertionSort scannedBefore _)
  have hsort (db : Database) := (List.perm_insertionSort scannedBefore
    (checkpointsOf db subscriptionId)).map plain
  unfold batchOf
  rw [List.map_take, List.map_take]
  congr 1
  refine List.Perm.eq_of_pairwise (fun a b ha hb hab hba => ?_) (hsorted db') (hsorted db)
    (((hsort db').trans hperm).trans (hsort db).symm)
  obtain ⟨⟨id, row'⟩, hrow', rfl⟩ := List.mem_map.mp ((hsort db').mem_iff.mp ha)
  obtain ⟨⟨other, row⟩, hrow, rfl⟩ := List.mem_map.mp ((hsort db).mem_iff.mp hb)
  obtain rfl : id = other := scannedBefore_antisymm hab hba
  exact hplain hrow hrow'

end Due

/-! ## Runs of scans -/

section Runs
variable {π : Type} {subscriptionId size : ℕ} {root : String} {rootPages pages : List Listing}
  {db db' : Database} {w chosen w' : ScanWorld (Logged π)} {id : ℕ} {checkpoint : FolderCheckpoint}

def stampAt (db : Database) (subscriptionId id : ℕ) : WithBot Time :=
  match (db.folderCheckpoints.get? id).filter fun row => row.subscriptionId = subscriptionId with
  | none => ⊥
  | some checkpoint => stampOf checkpoint

theorem stampAt_row (h : (id, checkpoint) ∈ checkpointsOf db subscriptionId) :
    stampAt db subscriptionId id = stampOf checkpoint := by
  obtain ⟨hget, hsub⟩ := mem_checkpointsOf.mp h
  rw [stampAt, hget, Option.filter_some, if_pos (by simpa using hsub)]

theorem stampAt_congr (h : checkpointsOf db' subscriptionId = checkpointsOf db subscriptionId) :
    stampAt db' subscriptionId = stampAt db subscriptionId := by
  have hsame (id : ℕ) : (db'.folderCheckpoints.get? id).filter
      (fun row => decide (row.subscriptionId = subscriptionId)) =
      (db.folderCheckpoints.get? id).filter fun row =>
        decide (row.subscriptionId = subscriptionId) := by
    ext checkpoint
    rw [Option.filter_eq_some_iff, Option.filter_eq_some_iff, decide_eq_true_eq,
      ← mem_checkpointsOf, ← mem_checkpointsOf, h]
  funext id
  unfold stampAt
  rw [hsame]

def checkpointIds (db : Database) (subscriptionId : ℕ) : Finset ℕ :=
  ((checkpointsOf db subscriptionId).map Prod.fst).toFinset

theorem mem_checkpointIds : id ∈ checkpointIds db subscriptionId ↔
    ∃ checkpoint, (id, checkpoint) ∈ checkpointsOf db subscriptionId := by
  rw [checkpointIds, List.mem_toFinset, List.mem_map]
  constructor
  · rintro ⟨⟨id, checkpoint⟩, hrow, rfl⟩
    exact ⟨checkpoint, hrow⟩
  · rintro ⟨checkpoint, hrow⟩
    exact ⟨_, hrow, rfl⟩

theorem checkpointIds_card :
    (checkpointIds db subscriptionId).card = (checkpointsOf db subscriptionId).length := by
  rw [checkpointIds, List.toFinset_card_of_nodup checkpointsOf_nodup, List.length_map]

def batchIds (db : Database) (subscriptionId size : ℕ) : Finset ℕ :=
  ((batchOf db subscriptionId size).map Prod.fst).toFinset

theorem mem_batchIds (h : (id, checkpoint) ∈ checkpointsOf db subscriptionId) :
    id ∈ batchIds db subscriptionId size ↔ (id, checkpoint) ∈ batchOf db subscriptionId size := by
  rw [batchIds, List.mem_toFinset, List.mem_map]
  constructor
  · rintro ⟨⟨id, row⟩, hrow, rfl⟩
    rw [checkpoint_unique h (mem_of_batch hrow)]
    exact hrow
  · exact fun hrow => ⟨_, hrow, rfl⟩

/-- Every checkpoint has been scanned before the present moment, if at all. -/
def Past (subscriptionId : ℕ) (w : ScanWorld (Logged π)) : Prop :=
  ∀ row ∈ checkpointsOf w.db subscriptionId, stampOf row.2 < (w.clock : WithBot Time)

/-- No folder has appeared. -/
def SameFolders (subscriptionId : ℕ) (w w' : ScanWorld (Logged π)) : Prop :=
  checkpointIds w'.db subscriptionId ⊆ checkpointIds w.db subscriptionId

theorem Went.ids_subset {stamps : List ℕ} (h : Went subscriptionId stamps pages w w') :
    checkpointIds w.db subscriptionId ⊆ checkpointIds w'.db subscriptionId := by
  intro id hid
  obtain ⟨checkpoint, hrow⟩ := mem_checkpointIds.mp hid
  obtain ⟨checkpoint', hrow', -⟩ := h.kept id checkpoint hrow
  exact mem_checkpointIds.mpr ⟨checkpoint', hrow'⟩

theorem Went.stampAt_kept {stamps : List ℕ} (h : Went subscriptionId stamps pages w w')
    (hid : id ∈ checkpointIds w.db subscriptionId)
    (hnot : id ∉ stamps) : stampAt w'.db subscriptionId id = stampAt w.db subscriptionId id := by
  obtain ⟨checkpoint, hrow⟩ := mem_checkpointIds.mp hid
  obtain ⟨checkpoint', hrow', -, hscanned⟩ := h.kept id checkpoint hrow
  rw [stampAt_row hrow', stampAt_row hrow, stampOf_congr (hscanned hnot)]

/-- A scan that finds no new folder is a turn of the rotation. -/
theorem Incremental.turn (h : Incremental subscriptionId size root rootPages pages w chosen w')
    (hpast : Past subscriptionId w) (hsame : SameFolders subscriptionId w w') :
    Turn (checkpointIds w.db subscriptionId) size (stampAt w.db subscriptionId)
      (stampAt w'.db subscriptionId) (batchIds chosen.db subscriptionId size) := by
  have hids : checkpointIds chosen.db subscriptionId = checkpointIds w.db subscriptionId :=
    (h.after.ids_subset.trans hsame).antisymm h.before.ids_subset
  have hstamp (id : ℕ) (hid : id ∈ checkpointIds w.db subscriptionId) :
      stampAt chosen.db subscriptionId id = stampAt w.db subscriptionId id :=
    h.before.stampAt_kept hid List.not_mem_nil
  have hrow (id : ℕ) (hid : id ∈ checkpointIds w.db subscriptionId) :
      ∃ checkpoint, (id, checkpoint) ∈ checkpointsOf chosen.db subscriptionId :=
    mem_checkpointIds.mp (hids ▸ hid)
  constructor
  · intro id hid
    obtain ⟨⟨id, row⟩, hbatch, rfl⟩ := List.mem_map.mp (List.mem_toFinset.mp hid)
    rw [← hids]
    exact mem_checkpointIds.mpr ⟨row, mem_of_batch hbatch⟩
  · rw [← hids, checkpointIds_card, batchIds, List.toFinset_card_of_nodup batchOf_nodup,
      List.length_map, batchOf_length]
  · intro a ha k hk hnot
    obtain ⟨⟨a, row⟩, hbatch, rfl⟩ := List.mem_map.mp (List.mem_toFinset.mp ha)
    have hmem := mem_of_batch hbatch
    obtain ⟨other, hother⟩ := hrow k hk
    have hle := (scannedBefore_iff _ _).mp
      (batchOf_first hbatch hother ((mem_batchIds hother).not.mp hnot))
    rw [place, place, ← hstamp a (hids ▸ mem_checkpointIds.mpr ⟨row, hmem⟩), ← hstamp k hk,
      stampAt_row hmem, stampAt_row hother]
    refine lt_of_le_of_ne hle fun heq => hnot ?_
    rw [← (Prod.mk.inj (toLex_inj.mp heq)).2]
    exact ha
  · intro a ha k hk
    obtain ⟨row, hrow⟩ := mem_checkpointIds.mp hk
    obtain ⟨checkpoint, time, hstamped, hscanned, hfrom, -⟩ :=
      h.after.stamped a (List.mem_toFinset.mp ha)
    have htime : stampOf checkpoint = (time : WithBot Time) := by
      unfold stampOf
      rw [hscanned]
    rw [stampAt_row hrow, stampAt_row hstamped, htime]
    exact (hpast _ hrow).trans_le (WithBot.coe_le_coe.mpr (h.before.clock.trans hfrom))
  · intro k hk hnot
    rw [← hstamp k hk]
    exact h.after.stampAt_kept (hids ▸ hk) fun hmem => hnot (List.mem_toFinset.mpr hmem)

/-- Every stamp lies in the past when the next scan begins. -/
theorem Incremental.past (h : Incremental subscriptionId size root rootPages pages w chosen w')
    (hpast : Past subscriptionId w) : ∀ row ∈ checkpointsOf w'.db subscriptionId,
      stampOf row.2 ≤ (w'.clock : WithBot Time) := by
  have hwent := h.before.trans h.after
  rintro ⟨id, checkpoint⟩ hrow
  by_cases hid : id ∈ (batchOf chosen.db subscriptionId size).map Prod.fst
  · obtain ⟨stamped, time, hstamped, hscanned, -, hto⟩ := hwent.stamped id (by simpa using hid)
    rw [checkpoint_unique hrow hstamped]
    unfold stampOf
    rw [hscanned]
    exact WithBot.coe_le_coe.mpr hto
  · rcases (hwent.fresh id checkpoint hrow).resolve_left (by simpa using hid) with
      ⟨old, hold⟩ | hnone
    · obtain ⟨same, hsame, -, hscanned⟩ := hwent.kept id old hold
      rw [checkpoint_unique hrow hsame, stampOf_congr (hscanned (by simpa using hid))]
      exact (hpast _ hold).le.trans (WithBot.coe_le_coe.mpr hwent.clock)
    · unfold stampOf
      rw [hnone]
      exact bot_le

/-- Successful incremental scans one after the other, on a clock that has moved
on whenever the next one begins. -/
structure ScanRun (context : ScanContext π) (subscriptionId : ℕ)
    (scans : List (ScanWorld (Logged π) × ScanWorld (Logged π))) : Prop where
  scanned : ∀ scan ∈ scans, Scanned context subscriptionId scan.1 scan.2
  between : scans.IsChain fun scan next => scan.2.clock < next.1.clock ∧
    checkpointsOf next.1.db subscriptionId = checkpointsOf scan.2.db subscriptionId
  past : ∀ scan ∈ scans.head?, Past subscriptionId scan.1

/-- The folders a scan has begun to list. -/
def listedIn (scan : ScanWorld (Logged π) × ScanWorld (Logged π)) : List String :=
  (listed scan.2.provider.2).drop (listed scan.1.provider.2).length

theorem Incremental.listedIn
    (h : Incremental subscriptionId size root rootPages pages w chosen w') :
    listedIn (w, w') =
      root :: (batchOf chosen.db subscriptionId size).map fun row => row.2.remoteFolderId := by
  rw [FolderRotation.listedIn, h.after.asked, h.before.asked, List.append_assoc, listed_append,
    List.drop_left, listed_append, h.root.paged.listed, h.batch.listed]
  rfl

section Sequences
variable {context : ScanContext π} {scan next : ScanWorld (Logged π) × ScanWorld (Logged π)}
  {scans before after : List (ScanWorld (Logged π) × ScanWorld (Logged π))}

theorem ScanRun.tail (h : ScanRun context subscriptionId (scan :: scans)) :
    ScanRun context subscriptionId scans where
  scanned next hnext := h.scanned next (List.mem_cons_of_mem _ hnext)
  between := h.between.tail
  past next hnext := by
    obtain ⟨rest, rfl⟩ := List.head?_eq_some_iff.mp hnext
    obtain ⟨hclock, hrows⟩ := (List.isChain_cons_cons.mp h.between).1
    obtain ⟨root, chosen, rootPages, pages, -, hscan⟩ :=
      (h.scanned scan (List.mem_cons_self ..)).incremental
    intro row hrow
    rw [hrows] at hrow
    exact (hscan.past (h.past scan rfl) row hrow).trans_lt (WithBot.coe_lt_coe.mpr hclock)

theorem ScanRun.drop (h : ScanRun context subscriptionId (before ++ scans)) :
    ScanRun context subscriptionId scans := by
  induction before with
  | nil => exact h
  | cons scan before ih => exact ih h.tail

theorem ScanRun.left (h : ScanRun context subscriptionId (scans ++ after)) :
    ScanRun context subscriptionId scans where
  scanned scan hscan := h.scanned scan (List.mem_append_left _ hscan)
  between := h.between.left_of_append
  past scan hscan := h.past scan (List.mem_head?_append_of_mem_head? hscan)

/-- What holds of the checkpoints at the end of a scan holds at the start of the
next one. -/
theorem ScanRun.resumes (h : ScanRun context subscriptionId (scan :: next :: scans)) :
    checkpointsOf next.1.db subscriptionId = checkpointsOf scan.2.db subscriptionId :=
  (List.isChain_cons_cons.mp h.between).1.2

/-- The batch of this scan is a turn of the rotation and gets listed. -/
def Turned (context : ScanContext π) (subscriptionId : ℕ)
    (scan : ScanWorld (Logged π) × ScanWorld (Logged π)) (batch : Finset ℕ) : Prop :=
  Turn (checkpointIds scan.1.db subscriptionId) context.settings.folderScanBatchSize
      (stampAt scan.1.db subscriptionId) (stampAt scan.2.db subscriptionId) batch ∧
    ∀ id ∈ batch, ∀ checkpoint, (id, checkpoint) ∈ checkpointsOf scan.1.db subscriptionId →
      checkpoint.remoteFolderId ∈ (listedIn scan).tail

theorem ScanRun.turned (h : ScanRun context subscriptionId (scan :: scans))
    (hsame : SameFolders subscriptionId scan.1 scan.2) :
    ∃ batch, Turned context subscriptionId scan batch := by
  obtain ⟨root, chosen, rootPages, pages, -, hscan⟩ :=
    (h.scanned _ (List.mem_cons_self ..)).incremental
  refine ⟨_, hscan.turn (h.past _ rfl) hsame, fun id hid checkpoint hrow => ?_⟩
  obtain ⟨row, hchosen, hname, -⟩ := hscan.before.kept id checkpoint hrow
  rw [hscan.listedIn, List.tail_cons, ← hname]
  exact List.mem_map_of_mem (f := fun row : ℕ × FolderCheckpoint => row.2.remoteFolderId)
    ((mem_batchIds hchosen).mp hid)

/-- The checkpoints a scan starts with are there when the next one starts. -/
theorem ScanRun.kept (h : ScanRun context subscriptionId (scan :: next :: scans))
    (hrow : (id, checkpoint) ∈ checkpointsOf scan.1.db subscriptionId) :
    ∃ checkpoint', (id, checkpoint') ∈ checkpointsOf next.1.db subscriptionId ∧
      checkpoint'.remoteFolderId = checkpoint.remoteFolderId ∧
      (checkpoint.remoteFolderId ∉ (listedIn scan).tail →
        checkpoint'.lastScannedAt = checkpoint.lastScannedAt) := by
  obtain ⟨root, chosen, rootPages, pages, -, hscan⟩ :=
    (h.scanned _ (List.mem_cons_self ..)).incremental
  have hwent := hscan.before.trans hscan.after
  obtain ⟨checkpoint', hrow', hname, hscanned⟩ := hwent.kept id checkpoint hrow
  refine ⟨checkpoint', h.resumes ▸ hrow', hname, fun hnot => hscanned fun hmem => hnot ?_⟩
  obtain ⟨row, hchosen, hsame, -⟩ := hscan.before.kept id checkpoint hrow
  obtain ⟨⟨id, other⟩, hbatch, rfl⟩ := List.mem_map.mp hmem
  rw [hscan.listedIn, List.tail_cons, ← hsame, checkpoint_unique hchosen (mem_of_batch hbatch)]
  exact List.mem_map_of_mem (f := fun row : ℕ × FolderCheckpoint => row.2.remoteFolderId) hbatch

/-- Scans that find no new folder are turns of the rotation. -/
theorem ScanRun.turns (h : ScanRun context subscriptionId (scan :: scans))
    (hsame : ∀ other ∈ scan :: scans, SameFolders subscriptionId other.1 other.2) :
    ∃ batches last, Turns (checkpointIds scan.1.db subscriptionId)
        context.settings.folderScanBatchSize (stampAt scan.1.db subscriptionId) batches last ∧
      batches.length = (scan :: scans).length ∧
      ∀ batch ∈ batches, ∃ other ∈ scan :: scans, ∀ id ∈ batch, ∀ checkpoint,
        (id, checkpoint) ∈ checkpointsOf scan.1.db subscriptionId →
        checkpoint.remoteFolderId ∈ (listedIn other).tail := by
  induction scans generalizing scan with
  | nil =>
    obtain ⟨batch, hturn, hlisted⟩ := h.turned (hsame _ (List.mem_cons_self ..))
    refine ⟨[batch], _, .cons hturn (.nil _), rfl, fun other hother => ?_⟩
    rw [List.mem_singleton.mp hother]
    exact ⟨scan, List.mem_cons_self .., hlisted⟩
  | cons next scans ih =>
    obtain ⟨batch, hturn, hlisted⟩ := h.turned (hsame _ (List.mem_cons_self ..))
    obtain ⟨batches, last, hturns, hlength, hlater⟩ :=
      ih h.tail fun other hother => hsame other (List.mem_cons_of_mem _ hother)
    have hids :
        checkpointIds next.1.db subscriptionId = checkpointIds scan.1.db subscriptionId := by
      obtain ⟨root, chosen, rootPages, pages, -, hscan⟩ :=
        (h.scanned _ (List.mem_cons_self ..)).incremental
      rw [checkpointIds, h.resumes]
      exact (hsame scan (List.mem_cons_self ..)).antisymm
        (hscan.before.trans hscan.after).ids_subset
    rw [hids, stampAt_congr h.resumes] at hturns
    refine ⟨batch :: batches, last, .cons hturn hturns, by simp [hlength], ?_⟩
    intro other hother
    rcases List.mem_cons.mp hother with rfl | hother
    · exact ⟨scan, List.mem_cons_self .., hlisted⟩
    · obtain ⟨later, hmem, hlisted⟩ := hlater other hother
      refine ⟨later, List.mem_cons_of_mem _ hmem, fun id hid checkpoint hrow => ?_⟩
      obtain ⟨checkpoint', hrow', hname, -⟩ := h.kept hrow
      rw [← hname]
      exact hlisted id hid checkpoint' hrow'

/-- The batch goes from folders that were never scanned to those that were. -/
theorem split_batch {rows : List (ℕ × FolderCheckpoint)} (h : rows.Pairwise scannedBefore) :
    rows = (rows.filter fun row => row.2.lastScannedAt.isNone) ++
      rows.filter fun row => row.2.lastScannedAt.isSome := by
  induction rows with
  | nil => rfl
  | cons row rows ih =>
    rw [List.pairwise_cons] at h
    cases hrow : row.2.lastScannedAt with
    | none =>
      rw [List.filter_cons_of_pos (by simp [hrow]), List.filter_cons_of_neg (by simp [hrow]),
        List.cons_append, ← ih h.2]
    | some time =>
      have hlater : (rows.filter fun row => row.2.lastScannedAt.isNone) = [] := by
        rw [List.filter_eq_nil_iff]
        intro other hother hnone
        have hbefore := h.1 other hother
        unfold scannedBefore at hbefore
        rw [hrow, Option.isNone_iff_eq_none.mp hnone] at hbefore
        exact hbefore
      have hrest := ih h.2
      rw [hlater, List.nil_append] at hrest
      rw [List.filter_cons_of_neg (by simp [hrow]), List.filter_cons_of_pos (by simp [hrow]),
        hlater, List.nil_append, ← hrest]

/-- How a scan that starts in `w` lists the folders: the root to its last page,
and then, in the state `chosen` that this has left, those of the batch, first the
ones never listed before and then the others. -/
structure Ordered (subscriptionId size : ℕ) (root : String) (w chosen w' : ScanWorld (Logged π))
    (first again : List (ℕ × FolderCheckpoint)) : Prop where
  names : listedIn (w, w') = root :: (first ++ again).map fun row => row.2.remoteFolderId
  rootListed : ∃ pages, chosen.provider.2 = w.provider.2 ++ pages ∧ Paged root none pages ∧
    ∀ entry ∈ pages, ∀ folder, entry.shows folder → Checkpointed chosen.db subscriptionId folder
  batchListed : ∃ pages, w'.provider.2 = chosen.provider.2 ++ pages ∧
    Listings ((first ++ again).map fun row => row.2.remoteFolderId) pages
  grew : Grew subscriptionId w.db chosen.db
  batch : first ++ again = batchOf chosen.db subscriptionId size
  unscanned : ∀ row ∈ first, row.2.lastScannedAt = none
  scanned : ∀ row ∈ again, row.2.lastScannedAt ≠ none
  waits : again ≠ [] → ∀ row ∈ checkpointsOf chosen.db subscriptionId,
    row.2.lastScannedAt = none → row ∈ first
  lasts : ∀ row ∈ checkpointsOf chosen.db subscriptionId, ∃ checkpoint',
    (row.1, checkpoint') ∈ checkpointsOf w'.db subscriptionId ∧
      checkpoint'.remoteFolderId = row.2.remoteFolderId ∧
      (row ∉ first ++ again → checkpoint'.lastScannedAt = row.2.lastScannedAt)

theorem Incremental.ordered (h : Incremental subscriptionId size root rootPages pages w chosen w') :
    ∃ first again, Ordered subscriptionId size root w chosen w' first again := by
  have hsplit := split_batch (batchOf_sorted chosen.db subscriptionId size)
  refine ⟨_, _, ?_, ⟨rootPages, h.before.asked, h.root.paged, h.root.shown⟩,
    ⟨pages, h.after.asked, ?_⟩, ?_, hsplit.symm, ?_, ?_, ?_, ?_⟩
  · rw [h.listedIn, ← hsplit]
  · rw [← hsplit]
    exact h.batch
  · constructor
    · intro id checkpoint hrow
      obtain ⟨checkpoint', hrow', hname, hscanned⟩ := h.before.kept id checkpoint hrow
      exact ⟨checkpoint', hrow', hname, hscanned List.not_mem_nil⟩
    · intro id checkpoint' hrow'
      exact (h.before.fresh id checkpoint' hrow').resolve_left List.not_mem_nil
  · exact fun row hrow => by simpa using (List.mem_filter.mp hrow).2
  · exact fun row hrow => Option.isSome_iff_ne_none.mp (List.mem_filter.mp hrow).2
  · intro hagain row hrow hnone
    obtain ⟨old, hold⟩ := List.exists_mem_of_ne_nil _ hagain
    obtain ⟨hbatch, hscanned⟩ := List.mem_filter.mp hold
    rw [List.mem_filter, hnone]
    refine ⟨?_, rfl⟩
    by_contra hwaits
    have hbefore := batchOf_first hbatch hrow hwaits
    unfold scannedBefore at hbefore
    rw [hnone] at hbefore
    obtain ⟨time, htime⟩ := Option.isSome_iff_exists.mp hscanned
    rw [htime] at hbefore
    exact hbefore
  · rintro ⟨id, checkpoint⟩ hrow
    obtain ⟨checkpoint', hrow', hname, hscanned⟩ := h.after.kept id checkpoint hrow
    refine ⟨checkpoint', hrow', hname, fun hwaits => hscanned fun hid => hwaits ?_⟩
    rw [← hsplit]
    obtain ⟨⟨id, other⟩, hbatch, rfl⟩ := List.mem_map.mp hid
    rw [checkpoint_unique hrow (mem_of_batch hbatch)]
    exact hbatch

/-- While no folder appears, the batch is what was due when the scan began. -/
theorem Ordered.due {first again : List (ℕ × FolderCheckpoint)}
    (h : Ordered subscriptionId size root w chosen w' first again)
    (hsame : SameFolders subscriptionId w w') : listedIn (w, w') =
      root :: (batchOf w.db subscriptionId size).map fun row => row.2.remoteFolderId := by
  have hplain := batchOf_plain size h.grew fun id checkpoint' hrow => by
    obtain ⟨checkpoint'', hlast, -⟩ := h.lasts _ hrow
    exact mem_checkpointIds.mp (hsame (mem_checkpointIds.mpr ⟨checkpoint'', hlast⟩))
  have hnames := congrArg (List.map fun row : ℕ × FolderCheckpoint => row.2.remoteFolderId) hplain
  rw [List.map_map, List.map_map] at hnames
  rw [h.names, h.batch]
  exact congrArg _ hnames

/-- A folder that is known when the batch of a scan is chosen: from before the
scan, or from listing the root. -/
def Known (context : ScanContext π) (subscriptionId : ℕ)
    (scan : ScanWorld (Logged π) × ScanWorld (Logged π)) (row : ℕ × FolderCheckpoint) : Prop :=
  row ∈ checkpointsOf scan.1.db subscriptionId ∨ ∃ root chosen first again,
    Ordered subscriptionId context.settings.folderScanBatchSize root scan.1 chosen scan.2
      first again ∧ row ∈ checkpointsOf chosen.db subscriptionId

/-- The folder has a checkpoint that no earlier scan has stamped. -/
def FirstTime (subscriptionId : ℕ) (scan : ScanWorld (Logged π) × ScanWorld (Logged π))
    (folder : String) : Prop :=
  ∃ id checkpoint', (id, checkpoint') ∈ checkpointsOf scan.2.db subscriptionId ∧
    checkpoint'.remoteFolderId = folder ∧
    ∀ checkpoint, (id, checkpoint) ∈ checkpointsOf scan.1.db subscriptionId →
      checkpoint.lastScannedAt = none

/-- In the scan that chose its batch in `chosen`, nothing is listed again before
a folder that was known then and never scanned. -/
theorem Ordered.unscanned_first {first again : List (ℕ × FolderCheckpoint)}
    (h : Ordered subscriptionId size root w chosen w' first again)
    (hrow : (id, checkpoint) ∈ checkpointsOf chosen.db subscriptionId)
    (hnever : checkpoint.lastScannedAt = none) {pre post : List String} {folder : String}
    (hlist : (listedIn (w, w')).tail = pre ++ folder :: post)
    (hpre : checkpoint.remoteFolderId ∉ pre) (hother : folder ≠ checkpoint.remoteFolderId) :
    FirstTime subscriptionId (w, w') folder := by
  rw [h.names, List.tail_cons, List.map_append, eq_comm] at hlist
  have hwaits (hagain : again.map (fun row => row.2.remoteFolderId) ≠ []) :
      checkpoint.remoteFolderId ∈ first.map fun row => row.2.remoteFolderId := by
    have hmem := h.waits (fun hnil => hagain (by rw [hnil]; rfl)) _ hrow hnever
    exact List.mem_map_of_mem (f := fun row : ℕ × FolderCheckpoint => row.2.remoteFolderId) hmem
  have hfolder : folder ∈ first.map fun row => row.2.remoteFolderId := by
    rcases List.append_eq_append_iff.mp hlist with ⟨rest, hfirst, hrest⟩ | ⟨rest, hfirst, hagain⟩
    · cases rest with
      | nil =>
        rw [List.nil_append] at hrest
        rw [List.append_nil] at hfirst
        exact absurd (hfirst ▸ hwaits (hrest ▸ List.cons_ne_nil _ _)) hpre
      | cons other rest =>
        obtain ⟨rfl, -⟩ := List.cons.inj hrest
        rw [hfirst]
        exact List.mem_append_right _ (List.mem_cons_self ..)
    · have hmem := hwaits (by rw [hagain]; simp)
      exact absurd (hfirst ▸ List.mem_append_left _ hmem) hpre
  obtain ⟨⟨key, found⟩, hfound, rfl⟩ := List.mem_map.mp hfolder
  have hbatch := mem_of_batch (h.batch ▸ List.mem_append_left again hfound)
  obtain ⟨checkpoint', hrow', hsame, -⟩ := h.lasts _ hbatch
  refine ⟨key, checkpoint', hrow', hsame, fun old hold => ?_⟩
  obtain ⟨other, hother, -, hstamp⟩ := h.grew.kept key old hold
  rw [← hstamp, checkpoint_unique hother hbatch]
  exact h.unscanned _ hfound

/-- A known folder is there after the scan, unscanned if it was not listed. -/
theorem Known.kept {scan : ScanWorld (Logged π) × ScanWorld (Logged π)}
    (h : Known context subscriptionId scan (id, checkpoint))
    (hscanned : Scanned context subscriptionId scan.1 scan.2)
    (hpassed : checkpoint.remoteFolderId ∉ (listedIn scan).tail) :
    ∃ checkpoint', (id, checkpoint') ∈ checkpointsOf scan.2.db subscriptionId ∧
      checkpoint'.remoteFolderId = checkpoint.remoteFolderId ∧
      checkpoint'.lastScannedAt = checkpoint.lastScannedAt := by
  have hchosen {root : String} {chosen : ScanWorld (Logged π)} {checkpoint : FolderCheckpoint}
      {first again : List (ℕ × FolderCheckpoint)}
      (hordered : Ordered subscriptionId context.settings.folderScanBatchSize root scan.1 chosen
        scan.2 first again)
      (hrow : (id, checkpoint) ∈ checkpointsOf chosen.db subscriptionId)
      (hpassed : checkpoint.remoteFolderId ∉ (listedIn scan).tail) :
      ∃ checkpoint', (id, checkpoint') ∈ checkpointsOf scan.2.db subscriptionId ∧
        checkpoint'.remoteFolderId = checkpoint.remoteFolderId ∧
        checkpoint'.lastScannedAt = checkpoint.lastScannedAt := by
    obtain ⟨checkpoint', hrow', hname, hstamp⟩ := hordered.lasts _ hrow
    refine ⟨checkpoint', hrow', hname, hstamp fun hbatch => hpassed ?_⟩
    rw [show listedIn scan = _ from hordered.names, List.tail_cons]
    exact List.mem_map_of_mem (f := fun row : ℕ × FolderCheckpoint => row.2.remoteFolderId) hbatch
  rcases h with hrow | ⟨root, chosen, first, again, hordered, hrow⟩
  · obtain ⟨root, chosen, rootPages, pages, -, hscan⟩ := hscanned.incremental
    obtain ⟨first, again, hordered⟩ := hscan.ordered
    obtain ⟨row, hkept, hname, hstamp⟩ := hordered.grew.kept id checkpoint hrow
    rw [← hname, ← hstamp]
    exact hchosen hordered hkept (hname ▸ hpassed)
  · exact hchosen hordered hrow hpassed

/-- Nothing is listed again before a folder that was never scanned. -/
theorem ScanRun.unscanned_first (h : ScanRun context subscriptionId (before ++ scan :: after))
    {start : ScanWorld (Logged π) × ScanWorld (Logged π)}
    (hstart : start ∈ (before ++ [scan]).head?)
    (hknown : Known context subscriptionId start (id, checkpoint))
    (hnever : checkpoint.lastScannedAt = none)
    (hearlier : ∀ earlier ∈ before, checkpoint.remoteFolderId ∉ (listedIn earlier).tail)
    {pre post : List String} {folder : String}
    (hlist : (listedIn scan).tail = pre ++ folder :: post)
    (hpre : checkpoint.remoteFolderId ∉ pre) (hother : folder ≠ checkpoint.remoteFolderId) :
    FirstTime subscriptionId scan folder := by
  induction before generalizing start checkpoint with
  | nil =>
    cases hstart
    rcases hknown with hrow | ⟨root, chosen, first, again, hordered, hrow⟩
    · obtain ⟨root, chosen, rootPages, pages, -, hscan⟩ :=
        (h.scanned _ (List.mem_cons_self ..)).incremental
      obtain ⟨first, again, hordered⟩ := hscan.ordered
      obtain ⟨row, hkept, hname, hstamp⟩ := hordered.grew.kept id checkpoint hrow
      exact hordered.unscanned_first hkept (hstamp.trans hnever) hlist (hname ▸ hpre)
        (hname ▸ hother)
    · exact hordered.unscanned_first hrow hnever hlist hpre hother
  | cons earlier before ih =>
    cases hstart
    have hhead : ∃ next rest, before ++ scan :: after = next :: rest ∧
        next ∈ (before ++ [scan]).head? := by
      cases before with
      | nil => exact ⟨scan, after, rfl, rfl⟩
      | cons next before => exact ⟨next, before ++ scan :: after, rfl, rfl⟩
    obtain ⟨next, rest, hrest, hnext⟩ := hhead
    have hpassed := hearlier earlier (List.mem_cons_self ..)
    obtain ⟨checkpoint', hrow', hname, hstamp⟩ :=
      hknown.kept (h.scanned _ (List.mem_cons_self ..)) hpassed
    have hrun := h
    rw [List.cons_append, hrest] at hrun
    refine ih h.tail hnext (.inl (hrun.resumes ▸ hrow')) (hstamp.trans hnever) ?_ (hname ▸ hpre)
      (hname ▸ hother)
    intro other hmem
    rw [hname]
    exact hearlier other (List.mem_cons_of_mem _ hmem)

end Sequences

/-- Successful incremental scans take turns over the folders. Each lists the
root and then the folders that are due when this is done, those without a scan
first and then the longest unscanned. While no folder appears, every folder is
listed within ⌈n / b⌉ scans. A folder that is known when a batch is chosen and was
never scanned is listed before any folder is listed again. -/
theorem incremental_scans_rotate (context : ScanContext π) (subscriptionId : ℕ)
    (hsize : 0 < context.settings.folderScanBatchSize)
    (scans : List (ScanWorld (Logged π) × ScanWorld (Logged π)))
    (hrun : ScanRun context subscriptionId scans) :
    (∀ db : Database,
      ((batchOf db subscriptionId context.settings.folderScanBatchSize).map Prod.fst).Nodup ∧
      (batchOf db subscriptionId context.settings.folderScanBatchSize).length =
        min context.settings.folderScanBatchSize (checkpointsOf db subscriptionId).length ∧
      ∀ row ∈ batchOf db subscriptionId context.settings.folderScanBatchSize,
        row ∈ checkpointsOf db subscriptionId ∧ ∀ other ∈ checkpointsOf db subscriptionId,
          other ∉ batchOf db subscriptionId context.settings.folderScanBatchSize →
          scannedBefore row other) ∧
    (∀ scan ∈ scans, ∃ root chosen first again,
      Passes context subscriptionId root scan.1 chosen scan.2 ∧
      Ordered subscriptionId context.settings.folderScanBatchSize root scan.1 chosen scan.2 first
        again ∧
      (SameFolders subscriptionId scan.1 scan.2 → listedIn scan = root ::
        (batchOf scan.1.db subscriptionId context.settings.folderScanBatchSize).map
          fun row => row.2.remoteFolderId)) ∧
    (∀ before window after, scans = before ++ window ++ after →
      (∀ scan ∈ window, SameFolders subscriptionId scan.1 scan.2) → ∀ start ∈ window.head?,
      (checkpointsOf start.1.db subscriptionId).length ⌈/⌉ context.settings.folderScanBatchSize ≤
        window.length →
      ∀ row ∈ checkpointsOf start.1.db subscriptionId,
        ∃ scan ∈ window, row.2.remoteFolderId ∈ (listedIn scan).tail) ∧
    ∀ earlier before scan after, scans = earlier ++ (before ++ scan :: after) →
      ∀ start ∈ (before ++ [scan]).head?, ∀ row, Known context subscriptionId start row →
      row.2.lastScannedAt = none →
      (∀ passed ∈ before, row.2.remoteFolderId ∉ (listedIn passed).tail) →
      ∀ pre folder post, (listedIn scan).tail = pre ++ folder :: post →
        row.2.remoteFolderId ∉ pre → folder ≠ row.2.remoteFolderId →
        FirstTime subscriptionId scan folder := by
  refine ⟨fun db => ⟨batchOf_nodup, batchOf_length, fun row hrow => ⟨mem_of_batch hrow,
    fun other => batchOf_first hrow⟩⟩, fun scan hscan => ?_, ?_, ?_⟩
  · obtain ⟨root, chosen, rootPages, pages, hpasses, hincremental⟩ :=
      (hrun.scanned scan hscan).incremental
    obtain ⟨first, again, hordered⟩ := hincremental.ordered
    exact ⟨root, chosen, first, again, hpasses, hordered, hordered.due⟩
  · rintro before window after rfl hsame start hstart henough ⟨id, checkpoint⟩ hrow
    obtain ⟨rest, rfl⟩ := List.head?_eq_some_iff.mp hstart
    rw [List.append_assoc] at hrun
    have hwindow := hrun.drop.left
    obtain ⟨batches, last, hturns, hlength, hlisted⟩ := hwindow.turns hsame
    rw [ceilDiv_le_iff_le_mul hsize, ← checkpointIds_card, ← hlength] at henough
    obtain ⟨batch, hbatch, hid⟩ := hturns.serves henough (mem_checkpointIds.mpr ⟨checkpoint, hrow⟩)
    obtain ⟨scan, hscan, hlisted⟩ := hlisted batch hbatch
    exact ⟨scan, hscan, hlisted id hid checkpoint hrow⟩
  · rintro earlier before scan after rfl start hstart ⟨id, checkpoint⟩ hknown hnever hpassed pre
      folder post hlist hpre hother
    exact hrun.drop.unscanned_first hstart hknown hnever hpassed hlist hpre hother

end Runs

/-! ## A folder found on the way -/

def folderItem (id : String) (parentId : String) : RemoteItem where
  remoteFileId := id
  parentId := some parentId
  filename := id
  itemType := "folder"

/-- The digests of the three folders, and no others. -/
def folderTexts : Texts where
  sha256 text :=
    if text = "a\x00folder\x00\x00\x00" then
      "1e67b0a83bb8141ac15ef884b32a22c505e2df27af5604f8cbf20dbd1d0beed6"
    else if text = "b\x00folder\x00\x00\x00" then
      "6737c43e9c08adaf01b69c86944e3332528d890e052456797dbf36c8f09d3181"
    else if text = "c\x00folder\x00\x00\x00" then
      "eabf485b1c43cf62309d433900dd7d55c31f303d65de961e56b0c3f67c06b705"
    else ""
  isoformat _ := ""

/-- The root holds `a` and `b`, and `a` holds `c`. -/
def shownFolders (folder : String) : List RemoteItem :=
  if folder = "root" then [folderItem "a" "root", folderItem "b" "root"]
  else if folder = "a" then [folderItem "c" "a"]
  else []

def foldersContext : ScanContext Unit where
  texts := folderTexts
  provider :=
    { resolveShare := fun _ _ s => (.ok ⟨"show", "Show", "root"⟩, s)
      listShareItems := fun _ folder _ s => (.ok ⟨shownFolders folder, none⟩, s) }
  settings := ⟨2, 86400, false⟩
  decryptSharePassword := .ok
  scheduleDelta _ := .ok 1800

def foldersSubscription : Subscription where
  cloudAccountId := 1
  name := "show"
  provider := "pan123"
  shareUrl := "https://share.example/1"
  targetPath := "/shows"
  lastScannedAt := some 60
  lastFullScannedAt := some 60

def scannedFolder (id : String) (time : Time) : FolderCheckpoint where
  subscriptionId := 1
  remoteFolderId := id
  relativePath := id
  lastScannedAt := some time
  lastSeenAt := time

def foldersStart : ScanWorld (Logged Unit) where
  db :=
    { accounts := Table.empty.insert { provider := "pan123", name := "main", refreshToken := "t" }
      subscriptions := Table.empty.insert foldersSubscription
      folderCheckpoints := (Table.empty.insert (scannedFolder "a" 50)).insert
        (scannedFolder "b" 51) }
  provider := ((), [])
  clock := 100
  cancellationRequested := false

/-- One scan; time passes before every effect. -/
def foldersRun (w : ScanWorld (Logged Unit)) :
    Outcome ScanError ScanDomainResult × ScanWorld (Logged Unit) × Schedule (OtherMove 1) :=
  (executeScanDomain (recorded foldersContext) 9 1 foldersSubscription false).run
    (List.replicate 40 ⟨[.pass 1], .none⟩) w

theorem foldersRun_scanned {w : ScanWorld (Logged Unit)} (result : ScanDomainResult)
    (h : (foldersRun w).1 = .value result) (hpart : result.fullScan = false) :
    Scanned foldersContext 1 w (foldersRun w).2.1 :=
  ⟨foldersSubscription, _, 9, false, result, .of_run rfl h, hpart⟩

def foldersScan : ScanWorld (Logged Unit) × ScanWorld (Logged Unit) :=
  (foldersStart, (foldersRun foldersStart).2.1)

theorem folders_scanned : Scanned foldersContext 1 foldersStart foldersScan.2 :=
  foldersRun_scanned ⟨⟨3, 3⟩, false, 3⟩ (by decide +kernel) rfl

theorem folders_past : Past 1 foldersStart := by
  unfold Past
  decide

/-- The next scan, a moment later. -/
def nextScan (scan : ScanWorld (Logged Unit) × ScanWorld (Logged Unit)) :
    ScanWorld (Logged Unit) × ScanWorld (Logged Unit) :=
  let start := { scan.2 with clock := scan.2.clock + 1 }
  (start, (foldersRun start).2.1)

/-- Two more scans: one that lists `c` and `a`, and one that lists `b` and `c`. -/
def foldersScans : List (ScanWorld (Logged Unit) × ScanWorld (Logged Unit)) :=
  [foldersScan, nextScan foldersScan, nextScan (nextScan foldersScan)]

theorem folders_run : ScanRun foldersContext 1 foldersScans where
  scanned scan hscan := by
    rcases List.mem_cons.mp hscan with rfl | hlater
    · exact folders_scanned
    rcases List.mem_cons.mp hlater with rfl | hlast
    · exact foldersRun_scanned ⟨⟨0, 3⟩, false, 3⟩ (by decide +kernel) rfl
    · rw [List.mem_singleton.mp hlast]
      exact foldersRun_scanned ⟨⟨0, 3⟩, false, 3⟩ (by decide +kernel) rfl
  between := List.isChain_cons_cons.mpr ⟨⟨Int.lt_succ _, rfl⟩,
    List.isChain_cons_cons.mpr ⟨⟨Int.lt_succ _, rfl⟩, List.isChain_singleton _⟩⟩
  past scan hscan := by
    cases hscan
    exact folders_past

/-- The first scan finds `c` when its batch is chosen. The second one lists it
before it lists `a` again, and with the third one all have been listed. -/
theorem incremental_scans_rotate_folders :
    (∀ row ∈ checkpointsOf foldersScan.2.db 1, ∃ scan ∈ foldersScans.tail,
      row.2.remoteFolderId ∈ (listedIn scan).tail) ∧
    (∃ chosen first again, Ordered 1 2 "root" (nextScan foldersScan).1 chosen
      (nextScan foldersScan).2 first again) ∧
    ∀ pre folder post, (listedIn (nextScan foldersScan)).tail = pre ++ folder :: post →
      "c" ∉ pre → folder ≠ "c" → FirstTime 1 (nextScan foldersScan) folder := by
  obtain ⟨-, hordered, hwindow, hfirst⟩ :=
    incremental_scans_rotate foldersContext 1 (by decide) foldersScans folders_run
  have hsame : ∀ scan ∈ foldersScans.tail, SameFolders 1 scan.1 scan.2 := by
    unfold SameFolders
    decide +kernel
  have hfound : ∃ row ∈ checkpointsOf foldersScan.2.db 1,
      row.2.remoteFolderId = "c" ∧ row.2.lastScannedAt = none := by decide +kernel
  refine ⟨?_, ?_, ?_⟩
  · exact hwindow [foldersScan] foldersScans.tail [] rfl hsame (nextScan foldersScan) rfl
      (by decide +kernel)
  · obtain ⟨root, chosen, first, again, -, hordered, -⟩ :=
      hordered (nextScan foldersScan) (List.mem_cons_of_mem _ (List.mem_cons_self ..))
    have hhead : (listedIn (nextScan foldersScan)).head? = some "root" := by decide +kernel
    have hroot : root = "root" :=
      Option.some.inj ((congrArg List.head? hordered.names).symm.trans hhead)
    exact ⟨chosen, first, again, hroot ▸ hordered⟩
  · obtain ⟨row, hrow, hname, hnever⟩ := hfound
    rw [← hname]
    exact hfirst [foldersScan] [] (nextScan foldersScan) _ rfl _ rfl row (.inl hrow) hnever
      fun _ h => absurd h List.not_mem_nil

/-- A folder that a scan finds is listed before any folder is listed again. -/
def FoundFirst {π : Type} (subscriptionId : ℕ) (w w' : ScanWorld (Logged π)) : Prop :=
  ∀ before found between later after folder,
    w'.provider.2 = w.provider.2 ++ before ++ found :: between ++ later :: after →
    found.shows folder →
    (∀ row ∈ checkpointsOf w.db subscriptionId, row.2.remoteFolderId ≠ folder) →
    later.marker = none →
    (∃ row ∈ checkpointsOf w.db subscriptionId, row.2.remoteFolderId = later.folderId ∧
      row.2.lastScannedAt ≠ none) →
    ∃ entry ∈ between, entry.folderId = folder ∧ entry.marker = none

/-- Folder `a` shows `c` after the batch has been chosen, and `b` is listed again
before `c` is listed at all. -/
theorem found_folder_waits :
    ¬∀ (context : ScanContext Unit) (subscriptionId : ℕ) (w w' : ScanWorld (Logged Unit)),
      0 < context.settings.folderScanBatchSize → Past subscriptionId w →
      Scanned context subscriptionId w w' → FoundFirst subscriptionId w w' := by
  intro h
  have hfound := h foldersContext 1 foldersStart foldersScan.2 (by decide) folders_past
    folders_scanned
  have hlog : foldersScan.2.provider.2 =
      [⟨"root", none, .ok ⟨shownFolders "root", none⟩⟩, ⟨"a", none, .ok ⟨shownFolders "a", none⟩⟩,
        ⟨"b", none, .ok ⟨[], none⟩⟩] := by
    decide +kernel
  obtain ⟨entry, hentry, -⟩ := hfound [⟨"root", none, .ok ⟨shownFolders "root", none⟩⟩]
    ⟨"a", none, .ok ⟨shownFolders "a", none⟩⟩ [] ⟨"b", none, .ok ⟨[], none⟩⟩ [] "c" hlog
    ⟨_, rfl, folderItem "c" "a", by decide, rfl, rfl⟩ (by decide) rfl
    ⟨(2, scannedFolder "b" 51), by decide, rfl, by decide⟩
  exact List.not_mem_nil hentry

end MediaSync.FolderRotation
