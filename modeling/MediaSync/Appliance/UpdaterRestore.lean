import MediaSync.Appliance.UpdaterSafety

/-!
# Restoring the data files

While no appliance runs, only the updater changes the data files. What it
stages are the files of the verified snapshot, and what it has put back or
removed is as the snapshot says, so a restore that comes to its end leaves the
data files exactly as they were captured.
-/
namespace MediaSync.UpdaterRestore
open FaultPrograms GuardedPrograms PythonText UpdateHandoff UpdateJournal UpdaterWorld
open UpdateSnapshot UpdaterForward UpdaterRollback UpdaterEffects UpdaterRuns UpdaterGuards
open UpdaterPhases UpdaterSafety

section Restore
variable [Tools] {document : HandoffDocument} {directory : SnapshotDirectory}
  {manifest : SnapshotManifest} {w w' : World}

/-! ## Verified snapshots -/

/-- What is known of a snapshot that passes its checks. -/
structure Checks (backup : Option SnapshotDirectory) (directory : SnapshotDirectory)
    (manifest : SnapshotManifest) : Prop where
  backup : backup = some directory
  required (path : String) : path ∈ requiredFiles →
    path ∈ manifest.files.map SnapshotFile.sourcePath
  distinct : (manifest.files.map SnapshotFile.sourcePath).Nodup

theorem verified_ok {operationId : String} {backup : Option SnapshotDirectory}
    (h : verified operationId backup = .ok (directory, manifest)) :
    Checks backup directory manifest := by
  unfold verified at h
  split at h
  · cases h
  · split at h
    · cases h
    · split at h
      · cases h
      · rename_i hmanifest
        cases h
        have hchecks := fileChecks_ok.mp (verifyManifest_ok.mp hmanifest).1
        exact ⟨rfl, hchecks.required, hchecks.distinct⟩

omit [Tools] in
theorem captured_item (h : (manifest.files.map SnapshotFile.sourcePath).Nodup)
    {item : SnapshotFile} (hmem : item ∈ manifest.files) :
    captured directory manifest item.sourcePath = directory.file item.snapshotName := by
  unfold captured
  cases hfound : manifest.files.find? fun entry => entry.sourcePath = item.sourcePath with
  | none =>
    have hnot := List.find?_eq_none.mp hfound item hmem
    simp at hnot
  | some entry =>
    have hpath : entry.sourcePath = item.sourcePath := by simpa using List.find?_some hfound
    have hsame : entry = item :=
      List.inj_on_of_nodup_map h (List.mem_of_find?_eq_some hfound) hmem hpath
    rw [hsame]
    rfl

omit [Tools] in
theorem captured_absent {path : String}
    (h : path ∉ manifest.files.map SnapshotFile.sourcePath) :
    captured directory manifest path = none := by
  have hnone : (manifest.files.find? fun item => item.sourcePath = path) = none := by
    refine List.find?_eq_none.mpr fun item hitem => ?_
    have hother : item.sourcePath ≠ path := fun heq =>
      h (heq ▸ List.mem_map_of_mem hitem)
    simpa using hother
  unfold captured
  rw [hnone]
  rfl

omit [Tools] in
/-- A data file is one of those that are put back or of those that are removed. -/
theorem restored_or_absent {backup : Option SnapshotDirectory}
    (h : Checks backup directory manifest) {path : String} (hpath : path ∈ dataFiles) :
    path ∈ (restoredItems manifest).map SnapshotFile.sourcePath ∨
      path ∈ absentOptionals manifest := by
  by_cases hlisted : path ∈ manifest.files.map SnapshotFile.sourcePath
  · obtain ⟨item, hitem, hsame⟩ := List.mem_map.mp hlisted
    refine .inl (List.mem_map.mpr ⟨item, List.mem_filter.mpr ⟨hitem, ?_⟩, hsame⟩)
    rw [hsame]
    revert hpath
    simp only [dataFiles, List.mem_cons, List.not_mem_nil, or_false]
    rintro (rfl | rfl | rfl | rfl) <;> decide
  · refine .inr (List.mem_filter.mpr ⟨?_, ?_⟩)
    · have hoptional : path ∉ requiredFiles := fun hrequired => hlisted (h.required path hrequired)
      revert hpath hoptional
      simp only [dataFiles, requiredFiles, List.mem_cons, List.not_mem_nil, or_false]
      rintro (rfl | rfl | rfl | rfl) <;> simp
    · refine decide_eq_true fun hback => hlisted ?_
      obtain ⟨item, hitem, hsame⟩ := List.mem_map.mp hback
      exact List.mem_map.mpr ⟨item, (List.mem_filter.mp hitem).1, hsame⟩

/-! ## What the surroundings leave alone -/

theorem gentle_backup (h : Gentle w w') : w'.backup = w.backup := by
  cases h with
  | unrelated h =>
    obtain ⟨_, _, _, _, _, _, _, _, _, _, rfl⟩ := h
    rfl
  | change id next calm => rfl
  | start id c found policy =>
    rcases start_cases w id with hsame | ⟨_, _, _, hsame⟩ <;> rw [hsame]
    rfl
  | write path content c mem running appliance => rfl

theorem start_files (w : World) (id : String) :
    (w.start id).restoring = w.restoring ∧ (w.start id).data = w.data := by
  rcases start_cases w id with hsame | ⟨_, _, _, hsame⟩ <;> rw [hsame] <;> exact ⟨rfl, rfl⟩

theorem move_restoring (m : Move) (w : World) : (w.move m).restoring = w.restoring := by
  cases m with
  | revive id =>
    unfold World.move
    dsimp only
    split
    · rfl
    · split
      · rfl
      · exact (start_files w id).1
  | write id path content =>
    unfold World.move
    dsimp only
    split
    · rfl
    · split <;> rfl
  | exit id => rfl
  | dropHandoff => rfl
  | dropPending => rfl
  | dropEvidence => rfl
  | testify => rfl
  | draw id token => rfl
  | tick now => rfl

/-- While no appliance runs, nobody else writes. -/
theorem move_data (m : Move) (halone : NoCandidate w) (hstopped : SourceStopped w) :
    (w.move m).data = w.data := by
  cases m with
  | revive id =>
    unfold World.move
    dsimp only
    split
    · rfl
    · split
      · rfl
      · exact (start_files w id).2
  | write id path content =>
    unfold World.move
    dsimp only
    split
    · rfl
    · rename_i c hfound
      split
      · rename_i hwrites
        obtain ⟨hrunning, happliance⟩ := Bool.and_eq_true_iff.mp hwrites
        exact (no_appliance halone hstopped (container_mem hfound).1 hrunning happliance).elim
      · rfl
  | exit id => rfl
  | dropHandoff => rfl
  | dropPending => rfl
  | dropEvidence => rfl
  | testify => rfl
  | draw id token => rfl
  | tick now => rfl

/-! ## Between the effects of a restore -/

/-- The candidate is gone, and the snapshot is the one that was checked. -/
structure Checked (document : HandoffDocument) (directory : SnapshotDirectory)
    (manifest : SnapshotManifest) (w : World) : Prop where
  at_ : At document .candidateRemoved w
  cleared : Cleared w
  verified : verified w.operationId w.backup = .ok (directory, manifest)

/-- Some files are staged, and some are as the snapshot has them. -/
structure Restoring (document : HandoffDocument) (directory : SnapshotDirectory)
    (manifest : SnapshotManifest) (staged done : List String) (w : World) : Prop
    extends Checked document directory manifest w where
  staged (path : String) : path ∈ staged →
    w.restoring.lookup path = captured directory manifest path
  done (path : String) : path ∈ done → contentOf w path = captured directory manifest path

/-- Only the data files and what is staged for them change. -/
def Files (w w' : World) : Prop :=
  ∃ data restoring nextStamp,
    w' = { w with data := data, restoring := restoring, nextStamp := nextStamp }

theorem files_step (h : Files w w') : StartsRestored w w' := by
  obtain ⟨_, _, _, rfl⟩ := h
  exact fun h => absurd h (not_startsSource_of_same rfl)

theorem orderly_files (h : Files w w') (hw : Orderly w) : Orderly w' := by
  obtain ⟨_, _, _, rfl⟩ := h
  exact ⟨⟨hw.distinct.used, hw.distinct.source⟩, hw.ids, hw.known, hw.full⟩

theorem before_files (h : Files w w') (hw : Before w) : Before w' := by
  obtain ⟨_, _, _, rfl⟩ := h
  exact ⟨hw.alone, hw.never⟩

theorem cleared_files (h : Files w w') (hw : Cleared w) : Cleared w' := by
  obtain ⟨_, _, _, rfl⟩ := h
  exact ⟨hw.alone, hw.fenced, hw.stopped, hw.captured⟩

theorem apart_files (h : Files w w') : Apart w w' := by
  obtain ⟨_, _, _, rfl⟩ := h
  exact ⟨rfl, rfl⟩

theorem checked_files (h : Files w w') (hw : Checked document directory manifest w) :
    Checked document directory manifest w' := by
  have hcleared := cleared_files h hw.cleared
  refine ⟨at_of hw.at_ (apart_files h) (orderly_files h hw.at_.safe.orderly) (.inr hcleared),
    hcleared, ?_⟩
  obtain ⟨_, _, _, rfl⟩ := h
  exact hw.verified

theorem setData_files (w : World) (path : String) (content : Option Bytes) :
    Files w (w.setData path content) := ⟨_, _, _, rfl⟩

theorem putTemporary_files (w : World) (path : String) (content : Bytes) :
    Files w (w.putTemporary path content) := ⟨_, _, _, rfl⟩

theorem dropTemporary_files (w : World) (path : String) : Files w (w.dropTemporary path) :=
  ⟨_, _, _, rfl⟩

theorem allows_files : AllowsFiles Files where
  refl _ := ⟨_, _, _, rfl⟩
  data := setData_files
  putTemporary := putTemporary_files
  dropTemporary := dropTemporary_files
  replace _ _ _ := ⟨_, _, _, rfl⟩

variable {staged done : List String}

theorem held_checked : Held Move safety (Checked document directory manifest) := by
  refine ⟨fun _ h => h.at_.safe, fun m w h => ?_⟩
  have hgentle := move_gentle m w
  refine ⟨at_gentle hgentle (move_apart m w) h.at_, cleared_gentle hgentle h.cleared, ?_⟩
  rw [← h.verified, ← gentle_backup hgentle, ← (move_apart m w).operationId]
  rfl

theorem held_restoring :
    Held Move safety (Restoring document directory manifest staged done) := by
  refine ⟨fun _ h => h.at_.safe, fun m w h => ⟨held_checked.stable m w h.toChecked,
    fun path hpath => ?_, fun path hpath => ?_⟩⟩
  · change (w.move m).restoring.lookup path = _
    rw [move_restoring]
    exact h.staged path hpath
  · change ((w.move m).data path).map DataFile.content = _
    rw [move_data m h.cleared.alone h.cleared.stopped]
    exact h.done path hpath

/-! ## Staging -/

theorem lookup_dropTemporary {path other : String} (h : other ≠ path) :
    (w.dropTemporary path).restoring.lookup other = w.restoring.lookup other := by
  change List.lookup other (w.restoring.filter fun entry => entry.1 ≠ path) = _
  induction w.restoring with
  | nil => rfl
  | cons entry entries ih =>
    obtain ⟨key, content⟩ := entry
    by_cases hkey : key = path
    · have hother : (other == key) = false := by simpa [hkey] using h
      rw [List.filter_cons_of_neg (by simpa using hkey), ih, List.lookup_cons, hother]
    · rw [List.filter_cons_of_pos (by simpa using hkey), List.lookup_cons, List.lookup_cons, ih]

theorem restoring_mono {staged' done' : List String}
    (h : Restoring document directory manifest staged done w)
    (hstaged : ∀ path ∈ staged', path ∈ staged) (hdone : ∀ path ∈ done', path ∈ done) :
    Restoring document directory manifest staged' done' w :=
  ⟨h.toChecked, fun path hpath => h.staged path (hstaged path hpath),
    fun path hpath => h.done path (hdone path hpath)⟩

theorem stageFile_guarded {item : SnapshotFile} (hitem : item ∈ manifest.files) :
    Guarded Move safety (Restoring document directory manifest staged [])
      (stageFile directory item)
      fun _ => Restoring document directory manifest (item.sourcePath :: staged) [] := by
  have hunlink : Guarded Move safety (Restoring document directory manifest staged [])
      (unlinkTemporary item.sourcePath)
      fun _ => Restoring document directory manifest
        (staged.filter fun path => path ≠ item.sourcePath) [] := by
    have hnext (w : World) (h : Restoring document directory manifest staged [] w) :
        Restoring document directory manifest
          (staged.filter fun path => path ≠ item.sourcePath) []
          (w.dropTemporary item.sourcePath) := by
      refine ⟨checked_files (dropTemporary_files w _) h.toChecked, fun path hpath => ?_,
        fun path hpath => absurd hpath List.not_mem_nil⟩
      obtain ⟨hstaged, hother⟩ := List.mem_filter.mp hpath
      rw [lookup_dropTemporary (of_decide_eq_true hother)]
      exact h.staged path hstaged
    exact Guarded.change held_restoring
      (fun w h => ⟨(hnext w h).at_.safe, files_step (dropTemporary_files w _)⟩) hnext
  have hput (w : World) {content : Bytes}
      (hcontent : directory.file item.snapshotName = some content)
      (h : Restoring document directory manifest
        (staged.filter fun path => path ≠ item.sourcePath) [] w) :
      Restoring document directory manifest (item.sourcePath :: staged) []
        (w.putTemporary item.sourcePath content) := by
    refine ⟨checked_files (putTemporary_files w _ _) h.toChecked, fun path hpath => ?_,
      fun path hpath => absurd hpath List.not_mem_nil⟩
    change List.lookup path ((item.sourcePath, content) :: w.restoring) = _
    rw [List.lookup_cons]
    by_cases hsame : path = item.sourcePath
    · have hdistinct := (verified_ok h.verified).distinct
      rw [hsame, captured_item hdistinct hitem, hcontent]
      simp
    · have hstaged : path ∈ staged.filter fun path => path ≠ item.sourcePath :=
        List.mem_filter.mpr ⟨List.mem_of_ne_of_mem hsame hpath, by simpa using hsame⟩
      have hdiffers : (path == item.sourcePath) = false := by simpa using hsame
      rw [hdiffers]
      exact h.staged path hstaged
  refine hunlink.bind fun _ => ?_
  refine Guarded.effect held_restoring (fun w h => ?_) fun w _ h hok => ?_
  · cases hcontent : directory.file item.snapshotName with
    | none => exact ⟨h.at_.safe, safety.refl w h.at_.safe⟩
    | some content => exact ⟨(hput w hcontent h).at_.safe, files_step (putTemporary_files w _ _)⟩
  · cases hcontent : directory.file item.snapshotName with
    | none =>
      rw [hcontent] at hok
      cases hok
    | some content => exact hput w hcontent h

theorem discardTemporaries_guarded (known : List String) :
    Guarded Move safety Safe (discardTemporaries known) fun _ => Safe := by
  induction known with
  | nil => exact Guarded.pure fun _ h => h
  | cons path paths ih =>
    have hdrop (w : World) : Unrelated w (w.dropTemporary path) :=
      ⟨_, _, _, _, _, _, _, _, _, _, rfl⟩
    have hnext (w : World) (h : Safe w) : Safe (w.dropTemporary path) :=
      safe_gentle (.unrelated (hdrop w)) ⟨rfl, rfl⟩ h
    exact (Guarded.change held_safe (fun w h => ⟨hnext w h, unrelated_step (hdrop w)⟩) hnext).bind
      fun _ => ih

theorem guardTemporaries_guarded {α : Type} {A : World → Prop} {R : α → World → Prop}
    {known : List String} {p : Updater α} (h : Guarded Move safety A p R) :
    Guarded Move safety A (guardTemporaries known p) R :=
  h.handle fun _ => (discardTemporaries_guarded known).bind fun _ => Guarded.throw fun _ h => h

theorem stageFiles_restoring {items : List SnapshotFile} (known : List String)
    (h : ∀ item ∈ items, item ∈ manifest.files) :
    Guarded Move safety (Restoring document directory manifest staged [])
      (stageFiles directory known items)
      fun _ => Restoring document directory manifest
        (items.map SnapshotFile.sourcePath ++ staged) [] := by
  induction items generalizing known staged with
  | nil => exact Guarded.pure fun _ h => h
  | cons item items ih =>
    refine (guardTemporaries_guarded
      (stageFile_guarded (h item (List.mem_cons_self ..)))).bind fun _ => ?_
    refine (ih _ fun item hitem => h item (List.mem_cons_of_mem _ hitem)).post fun _ w hw =>
      restoring_mono hw (fun path hpath => ?_) fun _ hpath => hpath
    simp only [List.map_cons, List.cons_append, List.mem_cons, List.mem_append] at hpath ⊢
    tauto

/-! ## Putting back -/

theorem contentOf_setData (w : World) (path other : String) (content : Option Bytes) :
    contentOf (w.setData path content) other =
      if other = path then content else contentOf w other := by
  unfold contentOf World.setData
  dsimp only
  split
  · cases content <;> rfl
  · rfl

theorem removeOptionals_restoring {paths : List String}
    (h : ∀ path ∈ paths, path ∈ absentOptionals manifest) :
    Guarded Move safety (Restoring document directory manifest staged done)
      (removeOptionals paths)
      fun _ => Restoring document directory manifest staged (paths ++ done) := by
  induction paths generalizing done with
  | nil => exact Guarded.pure fun _ h => h
  | cons path paths ih =>
    have habsent : captured directory manifest path = none := by
      refine captured_absent fun hlisted => ?_
      obtain ⟨hoptional, hmissing⟩ := List.mem_filter.mp (h path (List.mem_cons_self ..))
      obtain ⟨item, hitem, rfl⟩ := List.mem_map.mp hlisted
      refine of_decide_eq_true hmissing (List.mem_map_of_mem (List.mem_filter.mpr ⟨hitem, ?_⟩))
      refine decide_eq_true fun heq => ?_
      rw [heq] at hoptional
      exact absurd hoptional (by decide)
    have hnext (w : World) (hw : Restoring document directory manifest staged done w) :
        Restoring document directory manifest staged (path :: done) (w.setData path none) := by
      refine ⟨checked_files (setData_files w _ _) hw.toChecked, hw.staged, fun other hother => ?_⟩
      rw [contentOf_setData]
      split
      · rename_i hsame
        rw [hsame, habsent]
      · rename_i hdiffers
        exact hw.done other (List.mem_of_ne_of_mem hdiffers hother)
    have hremove : Guarded Move safety (Restoring document directory manifest staged done)
        (removeOptional path)
        fun _ => Restoring document directory manifest staged (path :: done) :=
      Guarded.change held_restoring
        (fun w hw => ⟨(hnext w hw).at_.safe, files_step (setData_files w _ _)⟩) hnext
    refine hremove.bind fun _ =>
      (ih fun path hpath => h path (List.mem_cons_of_mem _ hpath)).post fun _ w hw =>
        restoring_mono hw (fun _ hpath => hpath) fun other hother => ?_
    simp only [List.cons_append, List.mem_cons, List.mem_append] at hother ⊢
    tauto

theorem replaceFile_restoring {path : String} (hpath : path ∉ staged) :
    Guarded Move safety (Restoring document directory manifest (path :: staged) done)
      (replaceFile path)
      fun _ => Restoring document directory manifest staged (path :: done) := by
  have hnext (w : World) {content : Bytes} (hfound : w.restoring.lookup path = some content)
      (hw : Restoring document directory manifest (path :: staged) done w) :
      Restoring document directory manifest staged (path :: done)
        ((w.setData path (some content)).dropTemporary path) := by
    have hfiles : Files w ((w.setData path (some content)).dropTemporary path) :=
      ⟨_, _, _, rfl⟩
    refine ⟨checked_files hfiles hw.toChecked, fun other hother => ?_, fun other hother => ?_⟩
    · have hother' : other ≠ path := by
        rintro rfl
        exact hpath hother
      rw [lookup_dropTemporary hother']
      exact hw.staged other (List.mem_cons_of_mem _ hother)
    · change contentOf (w.setData path (some content)) other = _
      rw [contentOf_setData]
      split
      · rename_i hsame
        rw [hsame, ← hw.staged path (List.mem_cons_self ..), hfound]
      · rename_i hdiffers
        exact hw.done other (List.mem_of_ne_of_mem hdiffers hother)
  refine Guarded.effect held_restoring (fun w hw => ?_) fun w _ hw hok => ?_
  · cases hfound : w.restoring.lookup path with
    | none => exact ⟨hw.at_.safe, safety.refl w hw.at_.safe⟩
    | some content => exact ⟨(hnext w hfound hw).at_.safe, files_step ⟨_, _, _, rfl⟩⟩
  · cases hfound : w.restoring.lookup path with
    | none =>
      rw [hfound] at hok
      cases hok
    | some content => exact hnext w hfound hw

theorem replaceFiles_restoring {paths : List String} (h : paths.Nodup) :
    Guarded Move safety (Restoring document directory manifest paths done) (replaceFiles paths)
      fun _ => Restoring document directory manifest [] (paths ++ done) := by
  induction paths generalizing done with
  | nil => exact Guarded.pure fun _ h => h
  | cons path paths ih =>
    obtain ⟨hpath, hrest⟩ := List.nodup_cons.mp h
    refine (replaceFile_restoring hpath).bind fun _ => (ih hrest).post fun _ w hw =>
      restoring_mono hw (fun _ hpath => hpath) fun other hother => ?_
    simp only [List.cons_append, List.mem_cons, List.mem_append] at hother ⊢
    tauto

/-! ## The whole restore -/

/-- The candidate is gone, and the files are those of the snapshot. -/
def Back (document : HandoffDocument) (w : World) : Prop :=
  At document .candidateRemoved w ∧ Cleared w ∧ Restored w

theorem restoring_back (h : Restoring document directory manifest []
    ((restoredItems manifest).map SnapshotFile.sourcePath ++ absentOptionals manifest) w) :
    Back document w := by
  refine ⟨h.at_, h.cleared, fun directory' manifest' hverified path hpath => ?_⟩
  rw [h.verified] at hverified
  cases hverified
  refine h.done path (List.mem_append.mpr ?_)
  exact restored_or_absent (verified_ok h.verified) hpath

theorem held_back : Held Move safety (Back document) :=
  held_at.and fun m w _ h => by
    have hgentle := move_gentle m w
    exact ⟨cleared_gentle hgentle h.1, restored_gentle hgentle h.1.alone h.1.stopped h.2⟩

theorem held_cleared {c : UpdaterCheckpoint} :
    Held Move safety fun w => At document c w ∧ Cleared w :=
  held_at.and fun m w _ h => cleared_gentle (move_gentle m w) h

theorem verify_checked {operationId : String} (hid : operationId = document.operationId) :
    Guarded Move safety (fun w => At document .candidateRemoved w ∧ Cleared w)
      (verify operationId) fun found => Checked document found.1 found.2 := by
  refine Guarded.look held_cleared fun w found hw hok => ⟨hw.1, hw.2, ?_⟩
  split at hok
  · cases hok
  · rw [hid, hw.1.document] at hok
    exact hok

theorem restore_guarded {operationId : String} (hid : operationId = document.operationId) :
    Guarded Move safety (fun w => At document .candidateRemoved w ∧ Cleared w)
      (restore operationId) fun _ => Back document := by
  refine (verify_checked hid).bind fun found => ?_
  obtain ⟨directory, manifest⟩ := found
  have hstage : Guarded Move safety (Checked document directory manifest)
      (stageFiles directory [] (restoredItems manifest)) fun _ =>
        Restoring document directory manifest
          ((restoredItems manifest).map SnapshotFile.sourcePath ++ []) [] :=
    (stageFiles_restoring [] fun _ hitem => (List.mem_filter.mp hitem).1).pre fun w h =>
      ⟨h, fun _ hpath => absurd hpath List.not_mem_nil,
        fun _ hpath => absurd hpath List.not_mem_nil⟩
  refine hstage.bind fun _ => ?_
  rw [List.append_nil]
  have hput : Guarded Move safety (Restoring document directory manifest
      ((restoredItems manifest).map SnapshotFile.sourcePath) []) (putBack manifest)
      fun _ => Back document := by
    intro w hw
    have hdistinct : ((restoredItems manifest).map SnapshotFile.sourcePath).Nodup :=
      (verified_ok hw.verified).distinct.sublist (List.filter_sublist.map _)
    refine Guarded.bind (removeOptionals_restoring fun _ hpath => hpath)
      (fun _ => (replaceFiles_restoring hdistinct).post fun _ w hw => ?_) w hw
    rw [List.append_nil] at hw
    exact restoring_back hw
  exact (guardTemporaries_guarded hput).bind fun _ => Guarded.pure fun _ h => h

/-- The files are put back if there is a candidate's work to be undone. -/
theorem restoreSnapshot_guarded :
    Guarded Move safety (At document .candidateRemoved) (restoreSnapshot document.operationId)
      fun _ w => At document .candidateRemoved w ∧ UpdaterPhases.phase .snapshotRestored w := by
  have hbefore : Guarded Move safety
      (fun w => At document .candidateRemoved w ∧ Before w)
      (restoreSnapshot document.operationId)
      fun _ w => At document .candidateRemoved w ∧ Before w := by
    have hheld : Held Move safety fun w => At document .candidateRemoved w ∧ Before w :=
      held_at.and fun m w _ h => before_gentle (move_gentle m w) h
    have hfiles : Within Files (restoreSnapshot document.operationId) :=
      Within.bind (Within.look allows_files.refl) fun _ => skipIf_within
        (Within.bind (verify_within allows_files.refl) fun _ =>
          Within.bind (restore_within allows_files) fun _ =>
            Within.bind (verify_within allows_files.refl) fun _ => Within.pure ())
    refine Guarded.within hheld hfiles fun w w' hw h => ?_
    have hkept := before_files h hw.2
    exact ⟨⟨at_of hw.1 (apart_files h) (orderly_files h hw.1.safe.orderly) (.inl hkept), hkept⟩,
      files_step h⟩
  have hcleared : Guarded Move safety
      (fun w => At document .candidateRemoved w ∧ Cleared w)
      (restoreSnapshot document.operationId) fun _ => Back document := by
    have hpresent : Guarded Move safety (fun w => At document .candidateRemoved w ∧ Cleared w)
        (Prog.look .other fun w => (.ok w.backup.isSome : Except UpdaterError Bool))
        fun present w => (At document .candidateRemoved w ∧ Cleared w) ∧ present = true := by
      refine Guarded.look held_cleared fun w present hw hok => ⟨hw, ?_⟩
      cases hok
      obtain ⟨directory, manifest, hverified⟩ := hw.2.captured
      rw [(verified_ok hverified).backup]
      rfl
    refine hpresent.bind fun present => skipIf_guarded (fun habsent w hw => ?_) fun _ => ?_
    · rw [hw.2] at habsent
      cases habsent
    · refine Guarded.pre (B := fun w => At document .candidateRemoved w ∧ Cleared w) ?_
        fun w hw => hw.1
      refine Guarded.bind (S := fun _ w => At document .candidateRemoved w ∧ Cleared w)
        ((verify_checked rfl).post fun _ _ h => ⟨h.at_, h.cleared⟩) fun _ => ?_
      refine (restore_guarded rfl).bind fun _ => ?_
      exact (looks_guarded held_back (verify_within fun _ => rfl)).bind fun _ =>
        Guarded.pure fun _ h => h
  intro w hw
  rcases hw.phase with h | h
  · exact (hbefore.post fun _ _ h => ⟨h.1, .inl h.2⟩) w ⟨hw, h⟩
  · exact (hcleared.post fun _ _ h => ⟨h.1, .inr h.2⟩) w ⟨hw, h⟩

end Restore

end MediaSync.UpdaterRestore
