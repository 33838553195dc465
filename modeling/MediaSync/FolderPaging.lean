import MediaSync.Common.TracedRuns
import MediaSync.FolderRotation

/-!
# The pages of one folder

A folder is listed page by page until the service says that there are no more.
Every page that is accepted brings an item that no page before it had, so a
service that has finitely many items is asked at most once more than it has
items, whatever cursors it hands out. An accepted page is recorded in one
transaction before the next one is asked for.
-/
namespace MediaSync.FolderPaging
open FaultPrograms TracedRuns RowTables PosixPaths TaskTables TaskRepository SubscriptionScan
open FolderRotation (Listing Logged recording recorded)

/-! ## Accepted pages -/

/-- The pages among some answers. -/
def pagesOf (log : List Listing) : List RemotePage := log.filterMap fun entry =>
    entry.answer.toOption

/-- The pages that pass the checks, up to the first one that does not. -/
def acceptedPages : List RemotePage → List String → List String → List RemotePage
  | [], _, _ => []
  | page :: pages, seenMarkers, seenItemIds =>
    if page.items = [] then []
    else match checkProgress page seenMarkers seenItemIds with
      | .error _ => []
      | .ok _ =>
        page :: acceptedPages pages (page.nextMarker.toList ++ seenMarkers)
          (page.itemIds ++ seenItemIds)

/-- The file row of an item, seen at that time. -/
def SeenAt (db : Database) (subscriptionId : ℕ) (now : Time) (id : String) : Prop :=
  ∃ fileId file, db.files.get? fileId = some file ∧ file.subscriptionId = subscriptionId ∧
    file.remoteFileId = id ∧ file.lastSeenAt = now

section Rows
variable {texts : Texts} {now : Time} {subscriptionId : ℕ} {db db' : Database} {item : RemoteItem}
  {path id : String} {createTransfers : Bool}

theorem SeenAt.setFile (h : SeenAt db subscriptionId now id) {fileId : ℕ}
    {f : CloudFile → CloudFile} (hf : ∀ file, (f file).subscriptionId = file.subscriptionId ∧
      (f file).remoteFileId = file.remoteFileId ∧
      (file.lastSeenAt = now → (f file).lastSeenAt = now)) :
    SeenAt (setFile db fileId f) subscriptionId now id := by
  obtain ⟨key, file, hget, hsub, hid, hseen⟩ := h
  unfold SeenAt SubscriptionScan.setFile
  simp only [Table.get?_update, decide_eq_true_eq]
  refine ⟨key, if key = fileId then f file else file, by rw [hget]; rfl, ?_⟩
  split_ifs
  · exact ⟨(hf file).1.trans hsub, (hf file).2.1.trans hid, (hf file).2.2 hseen⟩
  · exact ⟨hsub, hid, hseen⟩

theorem SeenAt.of_files (h : SeenAt db subscriptionId now id) (hfiles : db'.files = db.files) :
    SeenAt db' subscriptionId now id := by
  unfold SeenAt
  rw [hfiles]
  exact h

theorem recordFile_seen {recorded : Recorded}
    (h : recordFile texts db now subscriptionId item path = .ok recorded) :
    SeenAt recorded.db subscriptionId now item.remoteFileId ∧
      ∀ id, SeenAt db subscriptionId now id → SeenAt recorded.db subscriptionId now id := by
  unfold recordFile at h
  split at h
  · split_ifs at h
    cases h
    refine ⟨⟨_, _, Table.get?_insert_nextId _ _, rfl, rfl, rfl⟩, ?_⟩
    rintro id ⟨key, file, hget, hfile⟩
    exact ⟨key, file, Table.get?_insert_of_some hget, hfile⟩
  · rename_i fileId file hfind
    cases h
    obtain ⟨hget, hsub, hid⟩ := FullScanCoverage.findFile_some hfind
    refine ⟨⟨fileId, seenAgain item path (fingerprintItem texts item) now file, ?_, hsub, hid, rfl⟩,
      fun id hseen => hseen.setFile fun file => ⟨rfl, rfl, fun _ => rfl⟩⟩
    unfold SubscriptionScan.setFile
    dsimp only
    rw [Table.get?_update, hget, Option.map_some, if_pos (decide_eq_true rfl)]

theorem queueTransfer_seen {fileId : ℕ} {file : CloudFile}
    (h : queueTransfer db now subscriptionId fileId file = .ok db')
    (hseen : SeenAt db subscriptionId now id) : SeenAt db' subscriptionId now id := by
  have hmarked : SeenAt (setFile db fileId markPending) subscriptionId now id :=
    hseen.setFile fun file => ⟨rfl, rfl, fun h => h⟩
  unfold queueTransfer createTask at h
  dsimp only at h
  split_ifs at h <;> cases h
  · exact hseen
  · exact hmarked.of_files rfl

theorem recordCheckpoint_files :
    (recordCheckpoint db now subscriptionId item path).1.files = db.files := by
  unfold recordCheckpoint
  split <;> rfl

theorem recordItem_seen {discovered : ℕ} {checkpoint : Option ℕ}
    (h : recordItem texts db now subscriptionId item path createTransfers =
      .ok (db', discovered, checkpoint)) :
    SeenAt db' subscriptionId now item.remoteFileId ∧
      ∀ id, SeenAt db subscriptionId now id → SeenAt db' subscriptionId now id := by
  unfold recordItem at h
  obtain ⟨recorded, hfile, h⟩ := bind_ok h
  obtain ⟨hitem, hkept⟩ := recordFile_seen hfile
  dsimp only at h
  split_ifs at h
  · cases h
    exact ⟨hitem.of_files recordCheckpoint_files,
      fun id hseen => (hkept id hseen).of_files recordCheckpoint_files⟩
  · obtain ⟨queued, hqueue, h⟩ := bind_ok h
    cases h
    exact ⟨queueTransfer_seen hqueue hitem,
      fun id hseen => queueTransfer_seen hqueue (hkept id hseen)⟩
  · cases h
    exact ⟨hitem, hkept⟩

/-- Every item of a recorded page has its row. -/
theorem recordPage_seen {parentPath : PurePosixPath} {items : List RemoteItem} {discovered : ℕ}
    {checkpoints : List ℕ}
    (h : recordPage texts now subscriptionId parentPath createTransfers items db =
      .ok (db', discovered, checkpoints)) :
    (∀ item ∈ items, SeenAt db' subscriptionId now item.remoteFileId) ∧
      ∀ id, SeenAt db subscriptionId now id → SeenAt db' subscriptionId now id := by
  induction items generalizing db discovered checkpoints with
  | nil =>
    cases h
    exact ⟨fun _ hmem => absurd hmem List.not_mem_nil, fun _ hseen => hseen⟩
  | cons item items ih =>
    unfold recordPage at h
    obtain ⟨⟨db₁, count, checkpoint⟩, hitem, h⟩ := bind_ok h
    obtain ⟨⟨db₂, rest, found⟩, hrest, h⟩ := bind_ok h
    cases h
    obtain ⟨hfirst, hkept⟩ := recordItem_seen hitem
    obtain ⟨hitems, hlater⟩ := ih hrest
    refine ⟨?_, fun id hseen => hlater id (hkept id hseen)⟩
    rw [List.forall_mem_cons]
    exact ⟨hlater _ hfirst, hitems⟩

end Rows

/-! ## The effects of the loop -/

/-- What may happen between two effects of a scan: time passes, the scan is
cancelled, others write to the database, and the service changes. -/
inductive PagingMove (π : Type) where
  | pass (time : ℕ)
  | cancel
  | act (f : Database → Database)
  | serve (f : π → π)

instance {π : Type} : Surroundings (ScanWorld (Logged π)) (PagingMove π) where
  move
    | .pass time, w => { w with clock := w.clock + time }
    | .cancel, w => { w with cancellationRequested := true }
    | .act f, w => { w with db := f w.db }
    | .serve f, w => { w with provider := (f w.provider.1, w.provider.2) }

/-- The effect from the first to the second state records the page. -/
structure Committed {π : Type} (context : ScanContext π) (scan : FolderScan)
    (parentPath : PurePosixPath) (page : RemotePage)
    (step : ScanWorld (Logged π) × ScanWorld (Logged π)) : Prop where
  transaction : ∃ discovered checkpoints, recordPage context.texts step.1.clock
    scan.subscriptionId parentPath scan.createTransfers page.items step.1.db =
      .ok (step.2.db, discovered, checkpoints)
  items : ∀ item ∈ page.items,
    SeenAt step.2.db scan.subscriptionId step.1.clock item.remoteFileId

section Effects
variable {π : Type} {context : ScanContext π} {scan : FolderScan} {parentPath : PurePosixPath}
  {w w' : ScanWorld (Logged π)}

theorem log_of_moved (h : Moved (PagingMove π) w w') : w'.provider.2 = w.provider.2 :=
  h.preserves (P := fun w' => w'.provider.2 = w.provider.2)
    (fun move w' hw' => by cases move <;> exact hw') rfl

theorem raiseIfCancelled_traced :
    Traced (PagingMove π) raiseIfCancelled (fun o w' _ => w'.provider.2 = w.provider.2 ∧
      ∀ e, o = .raised e → e ≠ .outOfFuel) w := by
  unfold raiseIfCancelled
  refine .bind (.look (fun w₁ h => ⟨log_of_moved h, ?_⟩)
    (fun w₁ h => ⟨⟨log_of_moved h, ?_⟩, log_of_moved h, ?_⟩) fun w₁ h => ?_)
  · rintro e ⟨⟩
  · rintro e ⟨⟩
    exact ScanError.noConfusion
  · rintro e ⟨⟩
    exact ScanError.noConfusion
  · dsimp only
    rw [andThen]
    split
    · refine .throw ⟨log_of_moved h, ?_⟩
      rintro e ⟨⟩
      exact ScanError.noConfusion
    · refine .pure ⟨log_of_moved h, ?_⟩
      rintro e ⟨⟩

/-- What a request for a page adds to the log. -/
def Asked (ids : Finset String) (w : ScanWorld (Logged π)) (o : Outcome ScanError RemotePage)
    (w' : ScanWorld (Logged π)) : Prop :=
  match o with
  | .value page => (∀ id ∈ page.itemIds, id ∈ ids) ∧
    ∃ entry : Listing, entry.answer = .ok page ∧ w'.provider.2 = w.provider.2 ++ [entry]
  | .raised e => e ≠ .outOfFuel ∧ ∃ log, w'.provider.2 = w.provider.2 ++ log ∧ log.length ≤ 1 ∧
    (e = .interrupted ∨ pagesOf log = [])
  | .crashed => w'.provider.2 = w.provider.2

/-- A service whose items all have ids in a finite set. -/
def Finite (context : ScanContext π) (ids : Finset String) : Prop :=
  ∀ share parentId marker state page,
    (context.provider.listShareItems share parentId marker state).1 = .ok page →
      ∀ id ∈ page.itemIds, id ∈ ids

theorem listShareItems_traced {ids : Finset String} (hids : Finite context ids) (share : ShareInfo)
    (parentId : String) (marker : Option String) :
    Traced (PagingMove π) (listShareItems (recorded context) share parentId marker)
      (fun o w' _ => Asked ids w o w') w := by
  refine .effect (fun w₁ h => log_of_moved h) (fun w₁ h => ⟨⟨ScanError.noConfusion, [], ?_⟩,
    ScanError.noConfusion,
    [⟨parentId, marker, (context.provider.listShareItems share parentId marker w₁.provider.1).1⟩],
    ?_⟩) fun w₁ h => ?_
  · exact ⟨by rw [log_of_moved h, List.append_nil], Nat.zero_le _, .inl rfl⟩
  · exact ⟨congrArg (· ++ _) (log_of_moved h), le_rfl, .inl rfl⟩
  · dsimp only [recorded, recording]
    cases hanswer : (context.provider.listShareItems share parentId marker w₁.provider.1).1 with
    | ok page =>
      exact ⟨hids _ _ _ _ _ hanswer, ⟨parentId, marker, .ok page⟩, rfl,
        congrArg (· ++ [_]) (log_of_moved h)⟩
    | error text =>
      exact ⟨ScanError.noConfusion, [⟨parentId, marker, .error text⟩],
        congrArg (· ++ [_]) (log_of_moved h), le_rfl, .inr rfl⟩

/-- An error with which recording a page ends the call. -/
def Unrecorded (e : ScanError) : Prop := e = .interrupted ∨ ∃ error, e = .task error

theorem commitPage_traced (page : RemotePage) :
    Traced (PagingMove π) (commitPage (recorded context) scan parentPath page)
      (fun o w' steps => w'.provider.2 = w.provider.2 ∧
        (∀ r, o = .value r → ∃ step ∈ steps, Committed context scan parentPath page step) ∧
        ∀ e, o = .raised e → Unrecorded e) w := by
  refine .effect (fun w₁ h => ⟨log_of_moved h, fun _ h => (nomatch h), fun _ h => nomatch h⟩)
    (fun w₁ h => ⟨⟨log_of_moved h, fun _ h => (nomatch h), ?_⟩, ?_, fun _ h => (nomatch h), ?_⟩)
    fun w₁ h => ?_
  · rintro e ⟨⟩
    exact .inl rfl
  · rw [← log_of_moved h]
    split <;> rfl
  · rintro e ⟨⟩
    exact .inl rfl
  · cases hpage : recordPage context.texts w₁.clock scan.subscriptionId parentPath
        scan.createTransfers page.items w₁.db with
    | ok answer =>
      obtain ⟨db, discovered, checkpoints⟩ := answer
      simp only [recorded, hpage]
      refine ⟨log_of_moved h, fun r _ => ⟨_, List.mem_singleton_self _, ?_⟩, fun _ h => nomatch h⟩
      exact ⟨⟨discovered, checkpoints, hpage⟩, (recordPage_seen hpage).1⟩
    | error e =>
      simp only [recorded, hpage]
      refine ⟨log_of_moved h, fun _ h => (nomatch h), ?_⟩
      rintro e' ⟨⟩
      exact .inr ⟨e, rfl⟩

end Effects

/-! ## The loop -/

/-- The recorded pages among the accepted ones: all of them, but for one whose
recording was what ended the call. -/
def AllRecorded {α : Type} (accepted committed : List RemotePage) : Outcome ScanError α → Prop
  | .value _ => accepted = committed
  | .raised e => accepted = committed ∨ Unrecorded e ∧ ∃ page, accepted = committed ++ [page]
  | .crashed => accepted = committed ∨ ∃ page, accepted = committed ++ [page]

theorem AllRecorded.cons {α : Type} {accepted committed : List RemotePage}
    {o : Outcome ScanError α} (page : RemotePage) (h : AllRecorded accepted committed o) :
    AllRecorded (page :: accepted) (page :: committed) o := by
  match o, h with
  | .value _, h => exact congrArg (page :: ·) h
  | .raised e, .inl h => exact .inl (congrArg (page :: ·) h)
  | .raised e, .inr ⟨he, last, h⟩ => exact .inr ⟨he, last, congrArg (page :: ·) h⟩
  | .crashed, .inl h => exact .inl (congrArg (page :: ·) h)
  | .crashed, .inr ⟨last, h⟩ => exact .inr ⟨last, congrArg (page :: ·) h⟩

/-- An answer that never came to be recorded. -/
theorem AllRecorded.of_interrupted {α : Type} {log : List Listing}
    (seenMarkers seenItemIds : List String)
    (hlength : log.length ≤ 1) {e : ScanError} (he : e = .interrupted ∨ pagesOf log = []) :
    AllRecorded (acceptedPages (pagesOf log) seenMarkers seenItemIds) []
      (.raised e : Outcome ScanError α) := by
  rcases he with rfl | hnone
  · rcases hpages : pagesOf log with _ | ⟨page, pages⟩
    · exact .inl rfl
    · have hle : (pagesOf log).length ≤ log.length := List.length_filterMap_le _ _
      rw [hpages, List.length_cons] at hle
      obtain rfl : pages = [] := List.length_eq_zero_iff.mp (by omega)
      unfold acceptedPages
      split_ifs
      · exact .inl rfl
      · split
        · exact .inl rfl
        · exact .inr ⟨.inl rfl, page, rfl⟩
  · rw [hnone]
    exact .inl rfl

/-- What the loop asks for and records. -/
structure Paged {π α : Type} (context : ScanContext π) (scan : FolderScan)
    (parentPath : PurePosixPath) (seenMarkers seenItemIds : List String) (bound : ℕ)
    (w : ScanWorld (Logged π)) (o : Outcome ScanError α) (w' : ScanWorld (Logged π))
    (steps : List (ScanWorld (Logged π) × ScanWorld (Logged π))) : Prop where
  fueled : ∀ e, o = .raised e → e ≠ .outOfFuel
  pages : ∃ log, w'.provider.2 = w.provider.2 ++ log ∧ log.length ≤ bound ∧
    ∃ committed, AllRecorded (acceptedPages (pagesOf log) seenMarkers seenItemIds) committed o ∧
      ∀ page ∈ committed, ∃ step ∈ steps, Committed context scan parentPath page step

section Loop
variable {π : Type} {context : ScanContext π} {scan : FolderScan} {parentPath : PurePosixPath}
  {ids : Finset String} {seenMarkers seenItemIds : List String}

/-- The ids that no page has shown. -/
def unseen (ids : Finset String) (seenItemIds : List String) : Finset String :=
  ids.filter fun id => id ∉ seenItemIds

/-- A page that brings an item leaves fewer unseen. -/
theorem unseen_lt {page : RemotePage} (hids : ∀ id ∈ page.itemIds, id ∈ ids)
    (h : checkProgress page seenMarkers seenItemIds = .ok ()) :
    (unseen ids (page.itemIds ++ seenItemIds)).card < (unseen ids seenItemIds).card := by
  obtain ⟨id, hid, hnew⟩ := FullScanCoverage.checkProgress_ok h
  refine Finset.card_lt_card ((Finset.ssubset_iff_of_subset fun other hother => ?_).mpr
    ⟨id, ?_, ?_⟩)
  · simp only [unseen, Finset.mem_filter, List.mem_append, not_or] at hother ⊢
    exact ⟨hother.1, hother.2.2⟩
  · exact Finset.mem_filter.mpr ⟨hids id hid, hnew⟩
  · intro hmem
    exact (Finset.mem_filter.mp hmem).2 (List.mem_append_left _ hid)

theorem pagesOf_cons {entry : Listing} {page : RemotePage} (h : entry.answer = .ok page)
    (log : List Listing) : pagesOf (entry :: log) = page :: pagesOf log := by
  simp [pagesOf, h, Except.toOption]

theorem acceptedPages_cons {page : RemotePage} (hitems : page.items ≠ [])
    (h : checkProgress page seenMarkers seenItemIds = .ok ()) (pages : List RemotePage) :
    acceptedPages (page :: pages) seenMarkers seenItemIds =
      page :: acceptedPages pages (page.nextMarker.toList ++ seenMarkers)
        (page.itemIds ++ seenItemIds) := by
  rw [acceptedPages, if_neg hitems, h]

theorem acceptedPages_empty {page : RemotePage} (hitems : page.items = [])
    (pages : List RemotePage) :
    acceptedPages (page :: pages) seenMarkers seenItemIds = [] := by
  rw [acceptedPages, if_pos hitems]

theorem acceptedPages_error {page : RemotePage} {e : ScanError}
    (h : checkProgress page seenMarkers seenItemIds = .error e) (pages : List RemotePage) :
    acceptedPages (page :: pages) seenMarkers seenItemIds = [] := by
  rw [acceptedPages, h]
  split <;> rfl

theorem checkProgress_error {page : RemotePage} {e : ScanError}
    (h : checkProgress page seenMarkers seenItemIds = .error e) : e ≠ .outOfFuel := by
  unfold checkProgress at h
  split_ifs at h <;> cases h <;> exact ScanError.noConfusion

theorem scanPages_traced (hids : Finite context ids) (parentId : String) (fuel : ℕ)
    (marker : Option String) (seenMarkers seenItemIds : List String) (result : ScanResult)
    (childFolders : List ℕ) (hfuel : (unseen ids seenItemIds).card < fuel)
    (w : ScanWorld (Logged π)) :
    Traced (PagingMove π) (scanPages (recorded context) scan parentId parentPath fuel marker
        seenMarkers seenItemIds result childFolders)
      (Paged context scan parentPath seenMarkers seenItemIds ((unseen ids seenItemIds).card + 1) w)
      w := by
  induction fuel generalizing marker seenMarkers seenItemIds result childFolders w with
  | zero => exact absurd hfuel (Nat.not_lt_zero _)
  | succ fuel ih =>
    unfold scanPages
    refine .bind (raiseIfCancelled_traced.mono ?_)
    rintro (_ | e | _) w₁ steps₁ ⟨hlog₁, hraised₁⟩
    · rw [andThen]
      refine .bind ((listShareItems_traced hids scan.share parentId marker).mono ?_)
      rintro (page | e | _) w₂ steps₂ hasked
      · obtain ⟨hpageIds, entry, hanswer, hlog₂⟩ := hasked
        have hlog : w₂.provider.2 = w.provider.2 ++ [entry] := by rw [hlog₂, hlog₁]
        have hpages (log : List Listing) : pagesOf (entry :: log) = page :: pagesOf log :=
          pagesOf_cons hanswer log
        rw [andThen]
        by_cases hitems : page.items = []
        · rw [if_pos hitems]
          refine .pure ⟨by simp, [entry], hlog, Nat.le_add_left _ _, [], ?_,
            fun _ hmem => absurd hmem List.not_mem_nil⟩
          rw [hpages, acceptedPages_empty hitems]
          rfl
        · rw [if_neg hitems]
          refine .bind (.ofExcept (fun _ hok => ?_) fun e herror => ?_)
          · have hless := unseen_lt hpageIds hok
            rw [andThen]
            refine .bind ((commitPage_traced page).mono ?_)
            rintro (answer | e | _) w₃ steps₃ ⟨hlog₃, hcommitted, hraised₃⟩
            · obtain ⟨step, hstep, hpage⟩ := hcommitted _ rfl
              rw [andThen]
              dsimp only
              split
              · refine .pure ⟨by simp, [entry], hlog₃.trans hlog, Nat.le_add_left _ _,
                  [page], ?_, ?_⟩
                · rw [hpages, acceptedPages_cons hitems hok]
                  rfl
                · intro other hmem
                  rw [List.mem_singleton.mp hmem]
                  exact ⟨step, by simp [hstep], hpage⟩
              · refine (ih _ _ _ _ _ (by omega) w₃).mono fun o w' steps h => ?_
                obtain ⟨log, hlog', hlength, committed, haccepted, hsteps⟩ := h.pages
                refine ⟨h.fueled, entry :: log, ?_, ?_, page :: committed, ?_, ?_⟩
                · rw [hlog', hlog₃, hlog, List.append_assoc, List.singleton_append]
                · rw [List.length_cons]
                  omega
                · rw [hpages, acceptedPages_cons hitems hok]
                  exact haccepted.cons page
                · rw [List.forall_mem_cons]
                  refine ⟨⟨step, by simp [hstep], hpage⟩, fun other hmem => ?_⟩
                  obtain ⟨later, hlater, hother⟩ := hsteps other hmem
                  exact ⟨later, by simp [hlater], hother⟩
            · refine ⟨?_, [entry], hlog₃.trans hlog, Nat.le_add_left _ _, [], ?_,
                fun _ hmem => absurd hmem List.not_mem_nil⟩
              · rintro e' ⟨⟩
                rcases hraised₃ e rfl with rfl | ⟨error, rfl⟩ <;> exact ScanError.noConfusion
              · rw [hpages, acceptedPages_cons hitems hok]
                exact .inr ⟨hraised₃ e rfl, page, rfl⟩
            · refine ⟨by simp, [entry], hlog₃.trans hlog, Nat.le_add_left _ _, [], ?_,
                fun _ hmem => absurd hmem List.not_mem_nil⟩
              rw [hpages, acceptedPages_cons hitems hok]
              exact .inr ⟨page, rfl⟩
          · refine ⟨?_, [entry], hlog, Nat.le_add_left _ _, [], ?_,
              fun _ hmem => absurd hmem List.not_mem_nil⟩
            · rintro e' ⟨⟩
              exact checkProgress_error herror
            · rw [hpages, acceptedPages_error herror]
              exact .inl rfl
      · obtain ⟨hfueled, log, hlog₂, hlength, he⟩ := hasked
        refine ⟨?_, log, by rw [hlog₂, hlog₁], by omega, [], .of_interrupted _ _ hlength he,
          fun _ hmem => absurd hmem List.not_mem_nil⟩
        rintro e' ⟨⟩
        exact hfueled
      · exact ⟨fun _ h => (by cases h), [],
          by rw [hasked, hlog₁, List.append_nil], Nat.zero_le _, [],
          .inl rfl, fun _ hmem => absurd hmem List.not_mem_nil⟩
    · refine ⟨?_, [], by rw [hlog₁, List.append_nil], Nat.zero_le _, [], .inl rfl,
        fun _ hmem => absurd hmem List.not_mem_nil⟩
      rintro e' ⟨⟩
      exact hraised₁ e rfl
    · exact ⟨fun _ h => (by cases h), [], by rw [hlog₁, List.append_nil], Nat.zero_le _, [],
        .inl rfl, fun _ hmem => absurd hmem List.not_mem_nil⟩

end Loop

/-! ## Every folder's paging ends -/

section Folder
variable {π : Type} {context : ScanContext π} {ids : Finset String}

theorem unseen_nil : unseen ids [] = ids := by
  refine Finset.filter_true_of_mem fun id _ => List.not_mem_nil

/-- Whatever pages and cursors a service with finitely many items answers, a
folder is asked for at most once more than there are items, and every page that
passed the checks is recorded by a transaction of the call, but for one whose
recording is what ended it. -/
theorem folder_paging_ends (hids : Finite context ids) {fuel : ℕ} (hfuel : ids.card < fuel)
    (scan : FolderScan) (parentId : String) (parentPath : PurePosixPath)
    (w : ScanWorld (Logged π)) (es : Schedule (PagingMove π)) :
    let (outcome, w', _) := (scanFolderContents (recorded context) scan fuel parentId
      parentPath).run
      es w
    (∀ e, outcome = .raised e → e ≠ .outOfFuel) ∧
      ∃ log, w'.provider.2 = w.provider.2 ++ log ∧ log.length ≤ ids.card + 1 ∧
        ∃ committed, AllRecorded (acceptedPages (pagesOf log) [] []) committed outcome ∧
          ∀ page ∈ committed, ∃ step ∈
            (scanFolderContents (recorded context) scan fuel parentId parentPath).steps es w,
            Committed context scan parentPath page step := by
  have hcard : (unseen ids []).card < fuel := by
    rw [unseen_nil]
    exact hfuel
  have hpaged : Paged context scan parentPath [] [] ((unseen ids []).card + 1) w _ _ _ :=
    scanPages_traced hids parentId fuel none [] [] { foldersScanned := 1 } [] hcard w es
  rw [unseen_nil] at hpaged
  exact ⟨hpaged.fueled, hpaged.pages⟩

end Folder

/-- A service that shows the same item on every page and always says that there is more. -/
def loopingProvider : ShareProvider Unit where
  resolveShare _ _ s := (.ok FullScanCoverage.sampleShare, s)
  listShareItems _ folderId _ s :=
    (.ok { items := [⟨"e01", some folderId, "e01.mkv", "file", some 900, none, none, []⟩]
           nextMarker := some "more" }, s)

def loopingContext : ScanContext Unit where
  texts := FullScanCoverage.sampleTexts
  provider := loopingProvider
  settings := ⟨20, 86400, false⟩
  decryptSharePassword := .ok
  scheduleDelta _ := .ok 1800

theorem looping_finite : Finite loopingContext {"e01"} := by
  rintro share parentId marker state page ⟨⟩ id hid
  exact Finset.mem_singleton.mpr (List.mem_singleton.mp hid)

theorem folder_paging_ends_looping :
    Finite loopingContext {"e01"} ∧
      ∀ (scan : FolderScan) (w : ScanWorld (Logged Unit)) (es : Schedule (PagingMove Unit)),
        let (_, w', _) := (scanFolderContents (recorded loopingContext) scan 2 "root"
          (PurePosixPath.ofString "")).run es w
        ∃ log, w'.provider.2 = w.provider.2 ++ log ∧ log.length ≤ 2 := by
  refine ⟨looping_finite, fun scan w es => ?_⟩
  have hfuel : ({"e01"} : Finset String).card < 2 := by decide
  obtain ⟨-, log, hlog, hlength, -⟩ := folder_paging_ends looping_finite hfuel scan "root"
    (PurePosixPath.ofString "") w es
  exact ⟨log, hlog, hlength⟩

end MediaSync.FolderPaging
