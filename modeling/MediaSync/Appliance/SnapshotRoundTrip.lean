import MediaSync.Common.CalmRuns
import MediaSync.Appliance.UpdaterRestore

/-!
# A snapshot and back

What a snapshot holds is what the data files held when it was made, so that a
restore that comes to its end, after whatever was written since and however many
restores were cut short before it, leaves the data files as they were then.

A snapshot can be verified again as long as nobody writes into its directory.
The query for the schema revision does, beside a database with a shared memory
file.
-/
namespace MediaSync.SnapshotRoundTrip
open FaultPrograms QuietRuns CalmRuns PythonText UpdateHandoff UpdateJournal UpdaterWorld
open UpdateSnapshot UpdaterEffects UpdaterPhases UpdaterRestore UpdaterRuns

section Snapshots
variable [Tools]

/-! ## While nothing writes -/

/-- A move that writes to no data file. -/
def Spares : Move → Prop
  | .write .. => False
  | _ => True

abbrev StillMove := {move : Move // Spares move}

/-- The files are the same, and so is what they were copied to. -/
structure SameFiles (w w' : World) : Prop where
  data : w'.data = w.data
  document : w'.document = w.document
  backup : w'.backup = w.backup
  staging : w'.staging = w.staging
  restoring : w'.restoring = w.restoring

theorem SameFiles.refl (w : World) : SameFiles w w := ⟨rfl, rfl, rfl, rfl, rfl⟩

theorem SameFiles.trans {w w' w'' : World} (h : SameFiles w w') (k : SameFiles w' w'') :
    SameFiles w w'' :=
  ⟨k.data.trans h.data, k.document.trans h.document, k.backup.trans h.backup,
    k.staging.trans h.staging, k.restoring.trans h.restoring⟩

theorem start_same (w : World) (id : String) : SameFiles w (w.start id) := by
  unfold World.start
  split
  · exact .refl w
  · split
    · exact .refl w
    · exact ⟨rfl, rfl, rfl, rfl, rfl⟩

theorem still_same {w w' : World} (h : Moved StillMove w w') : SameFiles w w' := by
  refine h.preserves (P := SameFiles w) (fun move w' hw' => hw'.trans ?_) (.refl w)
  obtain ⟨move, hspares⟩ := move
  change SameFiles w' (w'.move move)
  cases move with
  | write id path content => exact hspares.elim
  | revive id =>
    unfold World.move
    dsimp only
    split
    · exact .refl w'
    · split
      · exact .refl w'
      · exact start_same w' id
  | _ => exact ⟨rfl, rfl, rfl, rfl, rfl⟩

/-! ## What a snapshot was made of -/

/-- What the source of a copy holds. -/
def original (w : World) (path : String) : Option Bytes :=
  if path = handoffSource then some (Tools.handoffBytes w.document) else contentOf w path

def sidecars (w : World) : List String :=
  [databaseWal, databaseShm].filter fun path => (w.data path).isSome

/-- The paths a snapshot is made of, in order. -/
def sources (w : World) : List String := [database, runtimeSecrets] ++ sidecars w ++ [handoffSource]

def snapshotName (path : String) : String := (snapshotNames.lookup path).getD ""

/-- The entry describes a copy of what its source held. -/
structure Copied (w₀ : World) (directory : SnapshotDirectory) (item : SnapshotFile) : Prop where
  name : item.snapshotName = snapshotName item.sourcePath
  content : ∃ content, original w₀ item.sourcePath = some content ∧
    directory.file item.snapshotName = some content ∧ item.size = content.length ∧
    item.sha256 = Tools.sha256 content

/-- A snapshot of the data files of `w₀`. -/
structure TakenFrom (w₀ : World) (operationId : String) (directory : SnapshotDirectory)
    (manifest : SnapshotManifest) : Prop where
  valid : validOperationId operationId = true
  described : directory.manifest = some manifest
  operation : manifest.operationId = operationId
  paths : manifest.files.map SnapshotFile.sourcePath = sources w₀
  copied : ∀ item ∈ manifest.files, Copied w₀ directory item
  others : ∀ name, name ∉ manifest.files.map SnapshotFile.snapshotName → directory.file name = none
  revision : ((contentOf w₀ database).bind fun content => Tools.alembicRevision content
    (contentOf w₀ databaseWal) (contentOf w₀ databaseShm)) = some manifest.alembicRevision

theorem sources_nodup (w : World) : ((sources w).map snapshotName).Nodup := by
  unfold sources sidecars
  by_cases hwal : (w.data databaseWal).isSome <;> by_cases hshm : (w.data databaseShm).isSome <;>
    simp only [List.filter_cons, List.filter_nil, hwal, hshm, if_true] <;> decide

/-! ## Making it -/

/-- A snapshot of `w₀` in the making. -/
structure Staging (w₀ : World) (directory : SnapshotDirectory) (w : World) : Prop where
  data : w.data = w₀.data
  document : w.document = w₀.document
  staging : w.staging = some directory

section Making
variable {w₀ w w' : World} {directory : SnapshotDirectory} {path : String}

theorem Staging.moved (h : Staging w₀ directory w) (hmoved : Moved StillMove w w') :
    Staging w₀ directory w' :=
  ⟨(still_same hmoved).data.trans h.data, (still_same hmoved).document.trans h.document,
    (still_same hmoved).staging.trans h.staging⟩

theorem sourceFile_content (h : Staging w₀ directory w) {file : DataFile}
    (hfile : sourceFile w path = some file) : original w₀ path = some file.content := by
  unfold sourceFile at hfile
  unfold original contentOf
  split_ifs at hfile ⊢
  · cases hfile
    rw [h.document]
  · rw [h.data] at hfile
    rw [hfile]
    rfl

omit [Tools] in
theorem file_add_self (name : String) (content : Bytes) :
    (directory.add name content).file name = some content := by
  unfold SnapshotDirectory.file SnapshotDirectory.add
  rw [List.lookup_cons_self]

omit [Tools] in
theorem file_add_other {name other : String} (h : other ≠ name) (content : Bytes) :
    (directory.add name content).file other = directory.file other := by
  unfold SnapshotDirectory.file SnapshotDirectory.add
  rw [List.lookup_cons, beq_false_of_ne h]

theorem copySnapshotFile_returns {file : SnapshotFile} (hw : Staging w₀ directory w)
    (h : Returns StillMove (copySnapshotFile path) w file w') :
    ∃ content, original w₀ path = some content ∧
      file = ⟨path, snapshotName path, content.length, Tools.sha256 content⟩ ∧
      Staging w₀ (directory.add (snapshotName path) content) w' := by
  unfold copySnapshotFile at h
  obtain ⟨before, w₁, hbefore, h⟩ := h.bind
  obtain ⟨copied, w₂, hcopy, h⟩ := h.bind
  obtain ⟨after, w₃, hafter, h⟩ := h.bind
  obtain ⟨w₁', hmoved, hact⟩ := hcopy.effect
  have hw₁ := (hw.moved hbefore.look.1).moved hmoved
  have hw₂ : ∃ content, original w₀ path = some content ∧
      copied = ⟨path, snapshotName path, content.length, Tools.sha256 content⟩ ∧
      Staging w₀ (directory.add (snapshotName path) content) w₂ := by
    split at hact
    · cases hact
    · rename_i file hfile
      cases hact
      refine ⟨file.content, sourceFile_content hw₁ hfile, rfl, hw₁.data, hw₁.document, ?_⟩
      change w₁'.staging.map _ = _
      rw [hw₁.staging]
      rfl
  obtain ⟨content, horiginal, hcopied, hstaging⟩ := hw₂
  split at h
  · exact h.throw.elim
  · obtain ⟨rfl, rfl⟩ := h.pure
    exact ⟨content, horiginal, hcopied, hstaging.moved hafter.look.1⟩

theorem copySources_returns {paths : List String} (hnames : (paths.map snapshotName).Nodup)
    {files : List SnapshotFile} (hw : Staging w₀ directory w)
    (h : Returns StillMove (copySources paths) w files w') :
    ∃ directory', Staging w₀ directory' w' ∧ files.map SnapshotFile.sourcePath = paths ∧
      (∀ item ∈ files, Copied w₀ directory' item) ∧
      ∀ name, name ∉ paths.map snapshotName → directory'.file name = directory.file name := by
  induction paths generalizing directory files w with
  | nil =>
    obtain ⟨rfl, rfl⟩ := h.pure
    exact ⟨directory, hw, rfl, fun _ hmem => absurd hmem List.not_mem_nil, fun _ _ => rfl⟩
  | cons path paths ih =>
    rw [List.map_cons, List.nodup_cons] at hnames
    unfold copySources at h
    obtain ⟨file, w₁, hfile, h⟩ := h.bind
    obtain ⟨rest, w₂, hrest, h⟩ := h.bind
    obtain ⟨rfl, rfl⟩ := h.pure
    obtain ⟨content, horiginal, rfl, hw₁⟩ := copySnapshotFile_returns hw hfile
    obtain ⟨directory', hw₂, hpaths, hcopied, hothers⟩ := ih hnames.2 hw₁ hrest
    refine ⟨directory', hw₂, by rw [List.map_cons, hpaths], ?_, fun name hname => ?_⟩
    · rw [List.forall_mem_cons]
      refine ⟨⟨rfl, content, horiginal, ?_, rfl, rfl⟩, hcopied⟩
      exact (hothers _ hnames.1).trans (file_add_self _ _)
    · rw [List.map_cons, List.mem_cons, not_or] at hname
      rw [hothers name hname.2, file_add_other hname.1]

/-- The sidecars are those that exist. -/
theorem sourcePaths_returns {paths : List String} (hw : Staging w₀ directory w)
    (h : Returns StillMove sourcePaths w paths w') :
    paths = sources w₀ ∧ Staging w₀ directory w' := by
  unfold sourcePaths validateSourceFile at h
  obtain ⟨_, w₁, hdatabase, h⟩ := h.bind
  obtain ⟨_, w₂, hsecrets, h⟩ := h.bind
  obtain ⟨_, w₃, hhandoff, h⟩ := h.bind
  obtain ⟨found, w₄, hfound, h⟩ := h.bind
  obtain ⟨rfl, rfl⟩ := h.pure
  obtain ⟨hmoved, hview⟩ := hfound.look
  cases hview
  have hw₄ :=
    (((hw.moved hdatabase.look.1).moved hsecrets.look.1).moved hhandoff.look.1).moved hmoved
  refine ⟨?_, hw₄⟩
  unfold sources sidecars
  rw [hw₄.data]

/-- The staged directory, with its manifest, becomes the snapshot. -/
theorem fillStaging_returns {operationId : String} (hvalid : validOperationId operationId = true)
    (hw : Staging w₀ {} w) (h : Returns StillMove (fillStaging operationId) w () w') :
    ∃ directory manifest, w'.backup = some directory ∧
      TakenFrom w₀ operationId directory manifest := by
  unfold fillStaging readDataRevision Prog.change at h
  obtain ⟨paths, w₁, hpaths, h⟩ := h.bind
  obtain ⟨files, w₂, hfiles, h⟩ := h.bind
  obtain ⟨revision, w₃, hrevision, h⟩ := h.bind
  obtain ⟨_, w₄, hwritten, hmoved⟩ := h.bind
  obtain ⟨rfl, hw₁⟩ := sourcePaths_returns hw hpaths
  obtain ⟨directory, hw₂, hlisted, hcopied, hothers⟩ :=
    copySources_returns (sources_nodup w₀) hw₁ hfiles
  obtain ⟨hsame, hview⟩ := hrevision.look
  have hw₃ := hw₂.moved hsame
  have hread : ((contentOf w₀ database).bind fun content => Tools.alembicRevision content
      (contentOf w₀ databaseWal) (contentOf w₀ databaseShm)) = some revision := by
    unfold contentOf at hview ⊢
    rw [hw₃.data] at hview
    split at hview
    · cases hview
    · rename_i hfound
      cases hview
      exact hfound
  obtain ⟨w₃', hmoved₃, hact⟩ := hwritten.effect
  obtain ⟨w₄', hmoved₄, hact'⟩ := hmoved.effect
  cases hact
  cases hact'
  have hstaging : w₄'.staging =
      some { directory with manifest := some ⟨operationId, revision, files⟩ } := by
    rw [(still_same hmoved₄).staging]
    change w₃'.staging.map _ = _
    rw [(hw₃.moved hmoved₃).staging]
    rfl
  refine ⟨_, _, hstaging, hvalid, rfl, rfl, hlisted,
    fun item hitem => ⟨(hcopied item hitem).name, (hcopied item hitem).content⟩,
    fun name hname => ?_, hread⟩
  have hnames : files.map SnapshotFile.snapshotName = (sources w₀).map snapshotName := by
    rw [← hlisted, List.map_map]
    exact List.map_congr_left fun item hitem => (hcopied item hitem).name
  exact hothers name (hnames ▸ hname)

/-- A snapshot that was made is one of the data files as they were. -/
theorem create_returns {operationId : String}
    (h : Returns StillMove (create operationId) w () w') :
    ∃ directory manifest, w'.backup = some directory ∧
      TakenFrom w operationId directory manifest := by
  unfold create Prog.change at h
  obtain ⟨_, w₁, hread, h⟩ := h.bind
  obtain ⟨present, w₂, hpresent, h⟩ := h.bind
  unfold readHandoff at hread
  obtain ⟨hmoved₁, hview⟩ := hread.look
  have hvalid : validOperationId operationId = true := by
    split_ifs at hview with hinvalid
    simpa using hinvalid
  split at h
  · exact h.throw.elim
  · obtain ⟨_, w₃, hstaged, h⟩ := h.bind
    obtain ⟨w₂', hmoved₂, hact⟩ := hstaged.effect
    cases hact
    have hsame := ((still_same hmoved₁).trans (still_same hpresent.look.1)).trans
      (still_same hmoved₂)
    have hw₃ : Staging w {} { w₂' with staging := some {} } := ⟨hsame.data, hsame.document, rfl⟩
    rcases h.handle with hfilled | ⟨e, w₄, hfailed⟩
    · exact fillStaging_returns hvalid hw₃ hfilled
    · obtain ⟨_, _, _, hthrow⟩ := hfailed.bind
      exact hthrow.throw.elim

end Making

/-! ## It passes its checks -/

omit [Tools] in
theorem snapshotName_inj {path other : String} (hpath : path ∈ dataFiles ++ [handoffSource])
    (hother : other ∈ dataFiles ++ [handoffSource]) (h : snapshotName path = snapshotName other) :
    path = other := by
  have hall : ∀ path ∈ dataFiles ++ [handoffSource], ∀ other ∈ dataFiles ++ [handoffSource],
      snapshotName path = snapshotName other → path = other := by decide
  exact hall path hpath other hother h

section Taken
variable {w₀ : World} {operationId : String} {directory : SnapshotDirectory}
  {manifest : SnapshotManifest} {path : String}

theorem mem_sidecars : path ∈ sidecars w₀ ↔
    path ∈ [databaseWal, databaseShm] ∧ (w₀.data path).isSome := by
  unfold sidecars
  rw [List.mem_filter]

theorem mem_sources : path ∈ sources w₀ ↔
    path ∈ [database, runtimeSecrets, handoffSource] ∨ path ∈ sidecars w₀ := by
  unfold sources
  simp only [List.mem_append, List.mem_cons, List.not_mem_nil, or_false]
  tauto

/-- A source is one of the data files or the handoff. -/
theorem sources_known (h : path ∈ sources w₀) : path ∈ dataFiles ++ [handoffSource] := by
  rw [mem_sources, mem_sidecars] at h
  simp only [dataFiles, List.mem_append, List.mem_cons, List.not_mem_nil, or_false] at h ⊢
  tauto

theorem not_source (hpath : path ∈ dataFiles) (h : path ∉ sources w₀) :
    contentOf w₀ path = none := by
  rw [mem_sources, mem_sidecars] at h
  simp only [dataFiles, List.mem_cons, List.not_mem_nil, or_false] at hpath h
  unfold contentOf
  cases hdata : w₀.data path with
  | none => rfl
  | some file =>
    rw [hdata, Option.isSome_some] at h
    tauto

theorem original_of_data (hpath : path ∈ dataFiles) : original w₀ path = contentOf w₀ path := by
  refine if_neg ?_
  rintro rfl
  exact absurd hpath (by decide)

theorem TakenFrom.item (h : TakenFrom w₀ operationId directory manifest)
    (hpath : path ∈ sources w₀) :
    ∃ item ∈ manifest.files, item.sourcePath = path ∧ Copied w₀ directory item := by
  rw [← h.paths, List.mem_map] at hpath
  obtain ⟨item, hitem, hsame⟩ := hpath
  exact ⟨item, hitem, hsame, h.copied item hitem⟩

theorem TakenFrom.names (h : TakenFrom w₀ operationId directory manifest) :
    manifest.files.map SnapshotFile.snapshotName = (sources w₀).map snapshotName := by
  rw [← h.paths, List.map_map]
  exact List.map_congr_left fun item hitem => (h.copied item hitem).name

theorem TakenFrom.distinct (h : TakenFrom w₀ operationId directory manifest) :
    (manifest.files.map SnapshotFile.sourcePath).Nodup := by
  rw [h.paths]
  exact (sources_nodup w₀).of_map _

/-- The directory has exactly the data files that there were. -/
theorem TakenFrom.file (h : TakenFrom w₀ operationId directory manifest)
    (hpath : path ∈ dataFiles) : directory.file (snapshotName path) = contentOf w₀ path := by
  by_cases hsource : path ∈ sources w₀
  · obtain ⟨item, hitem, rfl, hcopied⟩ := h.item hsource
    obtain ⟨content, horiginal, hfile, -⟩ := hcopied.content
    rw [← hcopied.name, hfile, ← horiginal, original_of_data hpath]
  · rw [not_source hpath hsource]
    refine h.others _ fun hname => ?_
    rw [h.names, List.mem_map] at hname
    obtain ⟨other, hother, hsame⟩ := hname
    exact hsource (snapshotName_inj (sources_known hother)
      (List.mem_append_left _ hpath) hsame ▸ hother)

theorem TakenFrom.captured (h : TakenFrom w₀ operationId directory manifest)
    (hpath : path ∈ dataFiles) :
    UpdaterPhases.captured directory manifest path = contentOf w₀ path := by
  by_cases hsource : path ∈ sources w₀
  · obtain ⟨item, hitem, rfl, hcopied⟩ := h.item hsource
    rw [captured_item h.distinct hitem, hcopied.name, h.file hpath]
  · rw [captured_absent (h.paths ▸ hsource), not_source hpath hsource]

theorem TakenFrom.passes (h : TakenFrom w₀ operationId directory manifest) :
    verifyManifest operationId directory manifest = .ok () := by
  have hlisted (path : String) (hpath : path ∈ requiredFiles) :
      path ∈ manifest.files.map SnapshotFile.sourcePath := by
    rw [h.paths, mem_sources]
    refine .inl ?_
    simp only [requiredFiles, List.mem_cons, List.not_mem_nil, or_false] at hpath ⊢
    exact hpath
  refine verifyManifest_ok.mpr ⟨fileChecks_ok.mpr ⟨h.operation, hlisted, h.distinct,
    fun item hitem => ?_, fun item hitem => ?_⟩, ?_⟩
  · have hsource : item.sourcePath ∈ sources w₀ := h.paths ▸ List.mem_map_of_mem hitem
    have hknown : ∀ path ∈ dataFiles ++ [handoffSource],
        snapshotNames.lookup path = some (snapshotName path) := by decide
    rw [hknown _ (sources_known hsource), (h.copied item hitem).name]
  · obtain ⟨content, -, hfile, hsize, hsha⟩ := (h.copied item hitem).content
    unfold fileVerified
    rw [hfile, Option.any_some, hsize, hsha]
    simp
  · have hfile (path : String) (hpath : path ∈ dataFiles) := h.file hpath
    change (directory.file (snapshotName database)).bind (fun content =>
      Tools.alembicRevision content (directory.file (snapshotName databaseWal))
        (directory.file (snapshotName databaseShm))) = _
    rw [hfile database (by decide), hfile databaseWal (by decide), hfile databaseShm (by decide)]
    exact h.revision

theorem TakenFrom.verified (h : TakenFrom w₀ operationId directory manifest) :
    UpdateSnapshot.verified operationId (some directory) = .ok (directory, manifest) := by
  unfold UpdateSnapshot.verified
  dsimp only
  rw [h.described]
  dsimp only
  rw [h.passes]

end Taken

/-! ## Restoring it -/

/-- What `restore` does with a snapshot that was verified. -/
def restoreFrom (directory : SnapshotDirectory) (manifest : SnapshotManifest) :
    Updater SnapshotManifest := do
  stageFiles directory [] (restoredItems manifest)
  guardTemporaries ((restoredItems manifest).map SnapshotFile.sourcePath) (putBack manifest)
  pure manifest

theorem restore_eq (operationId : String) : restore operationId =
    verify operationId >>= fun found => restoreFrom found.1 found.2 := rfl

/-- Some files are staged, and some are as the snapshot has them. -/
structure Halfway (directory : SnapshotDirectory) (manifest : SnapshotManifest)
    (staged done : List String) (w : World) : Prop where
  staged (path : String) : path ∈ staged →
    w.restoring.lookup path = captured directory manifest path
  done (path : String) : path ∈ done → contentOf w path = captured directory manifest path

/-- The data files are as the snapshot has them. -/
def AsCaptured (directory : SnapshotDirectory) (manifest : SnapshotManifest) (w : World) : Prop :=
  ∀ path ∈ dataFiles, contentOf w path = captured directory manifest path

omit [Tools] in
theorem captured_absentOptional {directory : SnapshotDirectory} {manifest : SnapshotManifest}
    {path : String} (hpath : path ∈ absentOptionals manifest) :
    captured directory manifest path = none := by
  refine captured_absent fun hlisted => ?_
  obtain ⟨hoptional, hmissing⟩ := List.mem_filter.mp hpath
  obtain ⟨item, hitem, rfl⟩ := List.mem_map.mp hlisted
  refine of_decide_eq_true hmissing (List.mem_map_of_mem (List.mem_filter.mpr ⟨hitem, ?_⟩))
  refine decide_eq_true fun heq => ?_
  rw [heq] at hoptional
  exact absurd hoptional (by decide)

section Restoring
variable {calm : Prop} {directory : SnapshotDirectory} {manifest : SnapshotManifest}
  {staged done : List String} {w w' : World}

theorem Halfway.moved (h : Halfway directory manifest staged done w)
    (hmoved : Moved StillMove w w') : Halfway directory manifest staged done w' := by
  have hsame := still_same hmoved
  refine ⟨fun path hpath => ?_, fun path hpath => ?_⟩
  · rw [hsame.restoring]
    exact h.staged path hpath
  · unfold contentOf
    rw [hsame.data]
    exact h.done path hpath

theorem Halfway.mono {staged' done' : List String} (h : Halfway directory manifest staged done w)
    (hstaged : ∀ path ∈ staged', path ∈ staged) (hdone : ∀ path ∈ done', path ∈ done) :
    Halfway directory manifest staged' done' w :=
  ⟨fun path hpath => h.staged path (hstaged path hpath),
    fun path hpath => h.done path (hdone path hpath)⟩

/-- A change of the files that nothing makes fail. -/
theorem change_finishes {failure : UpdaterError} {next : World → World} {Q : World → Prop}
    (h : ∀ w', Moved StillMove w w' → Q (next w')) :
    Finishes calm StillMove (Prog.change failure next) (fun _ => Q) (fun _ _ => ¬calm) w :=
  .effect (fun hcalm _ _ => ⟨hcalm, hcalm⟩) h

theorem discardTemporaries_finishes (known : List String) :
    Finishes calm StillMove (discardTemporaries known) (fun _ _ => True) (fun _ _ => ¬calm) w := by
  induction known generalizing w with
  | nil => exact .pure trivial
  | cons path paths ih =>
    exact (change_finishes (Q := fun _ => True) fun _ _ => trivial).bind fun _ _ _ => ih

theorem guardTemporaries_finishes {α : Type} {known : List String} {p : Updater α}
    {Q : α → World → Prop} (hp : Finishes calm StillMove p Q (fun _ _ => ¬calm) w) :
    Finishes calm StillMove (guardTemporaries known p) Q (fun _ _ => ¬calm) w :=
  hp.handle fun _ _ hcalm => (discardTemporaries_finishes known).bind fun _ _ _ => .throw hcalm

variable (hdistinct : (manifest.files.map SnapshotFile.sourcePath).Nodup)
  (hthere : ∀ item ∈ manifest.files, (directory.file item.snapshotName).isSome)
include hdistinct hthere

theorem stageFile_finishes {item : SnapshotFile} (hitem : item ∈ manifest.files)
    (hw : Halfway directory manifest staged [] w) :
    Finishes calm StillMove (stageFile directory item)
      (fun _ => Halfway directory manifest (item.sourcePath :: staged) [])
        (fun _ _ => ¬calm) w := by
  obtain ⟨content, hcontent⟩ := Option.isSome_iff_exists.mp (hthere item hitem)
  have hunlink : Finishes calm StillMove (unlinkTemporary item.sourcePath)
      (fun _ => Halfway directory manifest (staged.filter fun path => path ≠ item.sourcePath) [])
      (fun _ _ => ¬calm) w := by
    refine change_finishes fun w' hmoved => ⟨fun path hpath => ?_, fun _ hpath => ?_⟩
    · obtain ⟨hstaged, hother⟩ := List.mem_filter.mp hpath
      rw [lookup_dropTemporary (of_decide_eq_true hother)]
      exact (hw.moved hmoved).staged path hstaged
    · cases hpath
  refine hunlink.bind fun _ w₁ hw₁ => .effect (fun hcalm _ _ => ⟨hcalm, hcalm⟩) fun w' hmoved => ?_
  rw [hcontent]
  have hw' := hw₁.moved hmoved
  refine ⟨fun path hpath => ?_, fun _ hpath => nomatch hpath⟩
  change List.lookup path ((item.sourcePath, content) :: w'.restoring) = _
  rw [List.lookup_cons]
  by_cases hsame : path = item.sourcePath
  · rw [hsame, captured_item hdistinct hitem, hcontent, beq_self_eq_true]
  · rw [beq_false_of_ne hsame]
    exact hw'.staged path (List.mem_filter.mpr
      ⟨List.mem_of_ne_of_mem hsame hpath, by simpa using hsame⟩)

theorem stageFiles_finishes {items : List SnapshotFile} (known : List String)
    (hitems : ∀ item ∈ items, item ∈ manifest.files) (hw : Halfway directory manifest staged [] w) :
    Finishes calm StillMove (stageFiles directory known items)
      (fun _ => Halfway directory manifest (items.map SnapshotFile.sourcePath ++ staged) [])
      (fun _ _ => ¬calm) w := by
  induction items generalizing known staged w with
  | nil => exact .pure hw
  | cons item items ih =>
    rw [List.forall_mem_cons] at hitems
    refine (guardTemporaries_finishes
      (stageFile_finishes hdistinct hthere hitems.1 hw)).bind fun _ w₁ hw₁ => ?_
    have hrest := ih (item.sourcePath :: known) hitems.2 hw₁
    rw [List.map_cons, List.cons_append]
    refine hrest.post fun _ _ h => h.mono (fun path hpath => ?_) fun _ hpath => hpath
    simp only [List.mem_cons, List.mem_append] at hpath ⊢
    tauto

omit hdistinct hthere in
theorem removeOptionals_finishes {paths : List String}
    (hpaths : ∀ path ∈ paths, captured directory manifest path = none)
    (hw : Halfway directory manifest staged done w) :
    Finishes calm StillMove (removeOptionals paths)
      (fun _ => Halfway directory manifest staged (paths ++ done)) (fun _ _ => ¬calm) w := by
  induction paths generalizing done w with
  | nil => exact .pure hw
  | cons path paths ih =>
    rw [List.forall_mem_cons] at hpaths
    have hremove : Finishes calm StillMove (removeOptional path)
        (fun _ => Halfway directory manifest staged (path :: done)) (fun _ _ => ¬calm) w := by
      refine change_finishes fun w' hmoved => ⟨(hw.moved hmoved).staged, fun other hother => ?_⟩
      rw [contentOf_setData]
      split
      · rename_i hsame
        rw [hsame, hpaths.1]
      · rename_i hdiffers
        exact (hw.moved hmoved).done other (List.mem_of_ne_of_mem hdiffers hother)
    refine hremove.bind fun _ w₁ hw₁ => (ih hpaths.2 hw₁).post fun _ _ h =>
      h.mono (fun _ hpath => hpath) fun other hother => ?_
    simp only [List.cons_append, List.mem_cons, List.mem_append] at hother ⊢
    tauto

omit hdistinct hthere in
theorem replaceFiles_finishes {paths : List String} (hpaths : paths.Nodup)
    (hfull : ∀ path ∈ paths, (captured directory manifest path).isSome)
    (hw : Halfway directory manifest paths done w) :
    Finishes calm StillMove (replaceFiles paths)
      (fun _ => Halfway directory manifest [] (paths ++ done)) (fun _ _ => ¬calm) w := by
  induction paths generalizing done w with
  | nil => exact .pure hw
  | cons path paths ih =>
    obtain ⟨hpath, hrest⟩ := List.nodup_cons.mp hpaths
    rw [List.forall_mem_cons] at hfull
    obtain ⟨content, hcontent⟩ := Option.isSome_iff_exists.mp hfull.1
    have hreplace : Finishes calm StillMove (replaceFile path)
        (fun _ => Halfway directory manifest paths (path :: done)) (fun _ _ => ¬calm) w := by
      refine .effect (fun hcalm _ _ => ⟨hcalm, hcalm⟩) fun w' hmoved => ?_
      have hw' := hw.moved hmoved
      rw [hw'.staged path (List.mem_cons_self ..), hcontent]
      refine ⟨fun other hother => ?_, fun other hother => ?_⟩
      · have hdiffers : other ≠ path := fun hsame => hpath (hsame ▸ hother)
        rw [lookup_dropTemporary hdiffers]
        exact hw'.staged other (List.mem_cons_of_mem _ hother)
      · change contentOf (w'.setData path (some content)) other = _
        rw [contentOf_setData]
        split
        · rename_i hsame
          rw [hsame, hcontent]
        · rename_i hdiffers
          exact hw'.done other (List.mem_of_ne_of_mem hdiffers hother)
    refine hreplace.bind fun _ w₁ hw₁ => (ih hrest hfull.2 hw₁).post fun _ _ h =>
      h.mono (fun _ hpath => hpath) fun other hother => ?_
    simp only [List.cons_append, List.mem_cons, List.mem_append] at hother ⊢
    tauto

/-- A restore of a snapshot with all its files leaves what it captured. -/
theorem restoreFrom_finishes
    (hrequired : ∀ path ∈ requiredFiles, path ∈ manifest.files.map SnapshotFile.sourcePath) :
    Finishes calm StillMove (restoreFrom directory manifest)
      (fun _ => AsCaptured directory manifest) (fun _ _ => ¬calm) w := by
  have hchecks : Checks (some directory) directory manifest := ⟨rfl, hrequired, hdistinct⟩
  have hitems : ∀ item ∈ restoredItems manifest, item ∈ manifest.files :=
    fun _ hitem => (List.mem_filter.mp hitem).1
  have hpaths : ((restoredItems manifest).map SnapshotFile.sourcePath).Nodup :=
    hdistinct.sublist (List.filter_sublist.map _)
  have habsent : ∀ path ∈ absentOptionals manifest, captured directory manifest path = none :=
    fun path hpath => captured_absentOptional hpath
  have hfull : ∀ path ∈ (restoredItems manifest).map SnapshotFile.sourcePath,
      (captured directory manifest path).isSome := by
    intro path hpath
    obtain ⟨item, hitem, rfl⟩ := List.mem_map.mp hpath
    rw [captured_item hdistinct (hitems item hitem)]
    exact hthere item (hitems item hitem)
  have hstart : Halfway directory manifest [] [] w :=
    ⟨fun _ hpath => absurd hpath List.not_mem_nil, fun _ hpath => absurd hpath List.not_mem_nil⟩
  refine (stageFiles_finishes hdistinct hthere [] hitems hstart).bind fun _ w₁ hw₁ => ?_
  rw [List.append_nil] at hw₁
  have hput : Finishes calm StillMove (putBack manifest)
      (fun _ => AsCaptured directory manifest) (fun _ _ => ¬calm) w₁ := by
    refine (removeOptionals_finishes habsent hw₁).bind fun _ w₂ hw₂ => ?_
    refine (replaceFiles_finishes hpaths hfull hw₂).post fun _ w₃ hw₃ path hpath => ?_
    refine hw₃.done path ?_
    rw [List.append_nil, List.mem_append]
    exact restored_or_absent hchecks hpath
  exact (guardTemporaries_finishes hput).bind fun _ _ h => .pure h

end Restoring

/-! ## Whatever happens later -/

/-- Anything may be done to anything but the snapshot, and restores may be tried
and may stop anywhere. -/
inductive Later (operationId : String) (w₁ : World) : World → Prop
  | refl : Later operationId w₁ w₁
  | changed {w w' : World} (before : Later operationId w₁ w) (same : w'.backup = w.backup) :
      Later operationId w₁ w'
  | tried {w : World} (before : Later operationId w₁ w) (es : Schedule Move) :
      Later operationId w₁ ((restore operationId).run es w).2.1

theorem move_backup (m : Move) (w : World) : (w.move m).backup = w.backup :=
  gentle_backup (move_gentle m w)

theorem still_backup (m : StillMove) (w : World) : (Surroundings.move m w).backup = w.backup :=
  move_backup m.1 w

theorem restoreFrom_within (directory : SnapshotDirectory) (manifest : SnapshotManifest) :
    Within Files (restoreFrom directory manifest) :=
  Within.bind (stageFiles_within allows_files _ _ _) fun _ =>
    Within.bind (guardTemporaries_within allows_files (putBack_within allows_files _)) fun _ =>
      Within.pure _

/-- No run that only changes data files touches the snapshot. -/
theorem files_backup {α ι : Type} [Surroundings World ι]
    (hmove : ∀ (i : ι) (w : World), (Surroundings.move i w).backup = w.backup) {p : Updater α}
    (hp : Within Files p) (es : Schedule ι) (w : World) : (p.run es w).2.1.backup = w.backup := by
  have hwithin : Within (fun w w' : World => w'.backup = w.backup) p :=
    hp.mono fun w w' ⟨_, _, _, hsame⟩ => by rw [hsame]
  exact hwithin.run (fun _ => rfl) (fun h h' => h'.trans h) hmove es w

theorem Later.backup {operationId : String} {w₁ w : World} (h : Later operationId w₁ w) :
    w.backup = w₁.backup := by
  induction h with
  | refl => rfl
  | changed _ hsame ih => exact hsame.trans ih
  | tried _ es ih => exact (files_backup move_backup (restore_within allows_files) es _).trans ih

section RoundTrip
variable {w₀ w : World} {operationId : String} {directory : SnapshotDirectory}
  {manifest : SnapshotManifest}

theorem TakenFrom.restoreFrom (calm : Prop) (h : TakenFrom w₀ operationId directory manifest) :
    Finishes calm StillMove (restoreFrom directory manifest)
      (fun _ w' => ∀ path ∈ dataFiles, contentOf w' path = contentOf w₀ path)
      (fun _ _ => ¬calm) w := by
  have hchecks := verified_ok h.verified
  refine (restoreFrom_finishes hchecks.distinct (fun item hitem => ?_) hchecks.required).post
    fun _ w' hw' path hpath => (hw' path hpath).trans (h.captured hpath)
  obtain ⟨content, -, hfile, -⟩ := (h.copied item hitem).content
  rw [hfile, Option.isSome_some]

theorem TakenFrom.restore (calm : Prop) (h : TakenFrom w₀ operationId directory manifest)
    (hbackup : w.backup = some directory) :
    Finishes calm StillMove (restore operationId)
      (fun _ w' => ∀ path ∈ dataFiles, contentOf w' path = contentOf w₀ path)
      (fun _ _ => ¬calm) w := by
  rw [restore_eq]
  have hverify : Finishes calm StillMove (verify operationId)
      (fun found _ => found = (directory, manifest)) (fun _ _ => ¬calm) w := by
    refine .look (fun hcalm _ _ => hcalm) fun w' hmoved => ?_
    rw [h.valid, (still_same hmoved).backup, hbackup, h.verified]
    rfl
  refine hverify.bind fun found w' hfound => ?_
  rw [hfound]
  exact h.restoreFrom calm

/-- A directory with other contents does not pass. -/
theorem TakenFrom.rejects (h : TakenFrom w₀ operationId directory manifest)
    (hinjective : ∀ a b : Bytes, Tools.sha256 a = Tools.sha256 b → a = b)
    {other : SnapshotDirectory} (hmanifest : other.manifest = some manifest)
    {item : SnapshotFile} (hitem : item ∈ manifest.files)
    (hdiffers : other.file item.snapshotName ≠ directory.file item.snapshotName) :
    (UpdateSnapshot.verified operationId (some other)).isOk = false := by
  have hfailed : fileVerified other item = false := by
    obtain ⟨content, -, hfile, -, hsha⟩ := (h.copied item hitem).content
    rw [hfile] at hdiffers
    unfold fileVerified
    cases hother : other.file item.snapshotName with
    | none => rfl
    | some bytes =>
      rw [Option.any_some, Bool.and_eq_false_iff]
      refine .inr (decide_eq_false fun hsame => hdiffers ?_)
      rw [hother, hinjective _ _ (hsame.trans hsha)]
  have hrejected : verifyManifest operationId other manifest ≠ .ok () := by
    intro hok
    have hstored := (fileChecks_ok.mp (verifyManifest_ok.mp hok).1).stored item hitem
    rw [hfailed] at hstored
    cases hstored
  unfold UpdateSnapshot.verified
  dsimp only
  rw [hmanifest]
  dsimp only
  cases hchecked : verifyManifest operationId other manifest with
  | ok => exact absurd hchecked hrejected
  | error text => rfl

/-- The snapshot of `w₀` can be restored in `w`. -/
structure Restorable (w₀ w : World) (operationId : String) : Prop where
  back (w' : World) (manifest : SnapshotManifest) :
    Returns StillMove (UpdateSnapshot.restore operationId) w manifest w' →
      ∀ path ∈ dataFiles, contentOf w' path = contentOf w₀ path
  completes (es : Schedule StillMove) : Quiet es →
    ∃ manifest w' es', (UpdateSnapshot.restore operationId).run es w = (.value manifest, w', es')
  again (w' w'' : World) (manifest manifest' : SnapshotManifest) :
    Returns StillMove (UpdateSnapshot.restore operationId) w manifest w' →
      Returns StillMove (UpdateSnapshot.restore operationId) w' manifest' w'' →
        ∀ path ∈ dataFiles, contentOf w'' path = contentOf w' path
  rejects (directory other : SnapshotDirectory) (manifest : SnapshotManifest)
    (item : SnapshotFile) :
    w.backup = some directory → directory.manifest = some manifest →
      other.manifest = some manifest → item ∈ manifest.files →
        other.file item.snapshotName ≠ directory.file item.snapshotName →
          ∀ w' w'' found, w'.backup = some other →
            ¬Returns StillMove (verify operationId) w' found w''

/-- A snapshot that was made gives back the data files of that moment, whatever
was done since to anything but itself. -/
theorem snapshot_round_trip {w₁ : World} (hmade : Returns StillMove (create operationId) w₀ () w₁)
    (hlater : Later operationId w₁ w)
    (hinjective : ∀ a b : Bytes, Tools.sha256 a = Tools.sha256 b → a = b) :
    Restorable w₀ w operationId := by
  obtain ⟨directory, manifest, hbackup, htaken⟩ := create_returns hmade
  have hsame : w.backup = some directory := hlater.backup.trans hbackup
  have hback {w w' : World} {restored : SnapshotManifest} (hsame : w.backup = some directory)
      (h : Returns StillMove (UpdateSnapshot.restore operationId) w restored w') :
      ∀ path ∈ dataFiles, contentOf w' path = contentOf w₀ path := by
    obtain ⟨es, es', hrun⟩ := h
    have hend := htaken.restore False hsame es False.elim
    rw [hrun] at hend
    exact hend.1
  refine ⟨fun w' restored h => hback hsame h, fun es hquiet => ?_,
    fun w' w'' restored restored' h h' path hpath => ?_,
    fun directory' other manifest' item hdirectory hmanifest hother hitem hdiffers w' w'' found
      hw' hverify => ?_⟩
  · have hend := htaken.restore True hsame es fun _ => hquiet
    rcases hrun : (UpdateSnapshot.restore operationId).run es w with ⟨restored | e | _, w', es'⟩ <;>
      rw [hrun] at hend
    · exact ⟨restored, w', es', rfl⟩
    · exact absurd trivial hend.1
    · exact absurd trivial hend
  · have hsame' : w'.backup = some directory := by
      obtain ⟨es, es', hrun⟩ := h
      have hkept : ((UpdateSnapshot.restore operationId).run es w).2.1.backup = w.backup :=
        files_backup still_backup (restore_within allows_files) es w
      rw [hrun] at hkept
      exact hkept.trans hsame
    rw [hback hsame' h' path hpath, hback hsame h path hpath]
  · rw [hsame] at hdirectory
    cases hdirectory
    rw [htaken.described] at hmanifest
    cases hmanifest
    unfold verify at hverify
    obtain ⟨hmoved, hview⟩ := hverify.look
    rw [(still_same hmoved).backup, hw', htaken.valid] at hview
    have hrejected := htaken.rejects hinjective hother hitem hdiffers
    change verified operationId (some other) = _ at hview
    rw [hview] at hrejected
    cases hrejected

end RoundTrip

/-! ## A query that writes -/

/-- What is known of a directory when its database is opened. -/
def filesVerified (operationId : String) : Option SnapshotDirectory →
    Except UpdaterError (SnapshotDirectory × SnapshotManifest)
  | none => .error (.snapshot "更新快照不完整")
  | some directory =>
    match directory.manifest with
    | none => .error (.snapshot "更新快照不完整")
    | some manifest =>
      match reportFirst (fileChecks operationId directory manifest) with
      | .error text => .error (.snapshot text)
      | .ok () => .ok (directory, manifest)

theorem filesVerified_ok {operationId : String} {backup : Option SnapshotDirectory}
    {directory : SnapshotDirectory} {manifest : SnapshotManifest} :
    filesVerified operationId backup = .ok (directory, manifest) ↔
      backup = some directory ∧ directory.manifest = some manifest ∧
        reportFirst (fileChecks operationId directory manifest) = .ok () := by
  unfold filesVerified
  constructor
  · intro h
    split at h
    · cases h
    · split at h
      · cases h
      · rename_i hmanifest
        split at h
        · cases h
        · rename_i hchecks
          cases h
          exact ⟨rfl, hmanifest, hchecks⟩
  · rintro ⟨rfl, hmanifest, hchecks⟩
    dsimp only
    rw [hmanifest]
    dsimp only
    rw [hchecks]

/-- A directory after a query that may have written the shared memory file. -/
def queried (directory : SnapshotDirectory) (written : Option Bytes) : SnapshotDirectory :=
  written.elim directory (directory.add "database.sqlite-shm")

def checkFiles (operationId : String) : Updater (SnapshotDirectory × SnapshotManifest) :=
  Prog.look .other fun w =>
    if !validOperationId operationId then .error (.handoff "更新操作标识无效")
    else filesVerified operationId w.backup

/-- `read_alembic_revision` of the database in a snapshot -/
def queryRevision (written : Option Bytes) : Updater String := Prog.effect .other fun w =>
  match w.backup.bind revisionOf with
  | none => (.error (.snapshot "数据库 Alembic revision 无效"), w)
  | some revision =>
    (.ok revision, { w with backup := w.backup.map fun directory => queried directory written })

/-- `verify` with a query that may write -/
def verifyQuerying (written : Option Bytes) (operationId : String) :
    Updater (SnapshotDirectory × SnapshotManifest) := do
  let (directory, manifest) ← checkFiles operationId
  let revision ← queryRevision written
  if revision ≠ manifest.alembicRevision then throw (.snapshot "更新快照 Alembic revision 不匹配")
  else pure (queried directory written, manifest)

inductive Call where
  | verify (written : Option Bytes)
  | restore (written : Option Bytes)
  /-- A data file is written or removed meanwhile. -/
  | write (path : String) (content : Option Bytes)

def Call.prog (operationId : String) : Call → Updater Unit
  | verify written => do
    let _ ← verifyQuerying written operationId
    pure ()
  | restore written => do
    let (directory, manifest) ← verifyQuerying written operationId
    let _ ← restoreFrom directory manifest
    pure ()
  | write path content => Prog.change .other fun w => w.setData path content

/-- Each of the calls returns. -/
def AllReturn (operationId : String) : List (Call × Schedule StillMove) → World → Prop
  | [], _ => True
  | (call, es) :: calls, w =>
    ((call.prog operationId).run es w).1 = .value () ∧
      AllReturn operationId calls ((call.prog operationId).run es w).2.1

/-- The snapshot passes its checks and holds no shared memory file. -/
structure Unshared (operationId : String) (directory : SnapshotDirectory)
    (manifest : SnapshotManifest) : Prop where
  valid : validOperationId operationId = true
  described : directory.manifest = some manifest
  checks : reportFirst (fileChecks operationId directory manifest) = .ok ()
  revision : revisionOf directory = some manifest.alembicRevision
  unshared : ∀ item ∈ manifest.files, item.snapshotName ≠ "database.sqlite-shm"

section Calls
variable {w₀ w : World} {operationId : String} {directory : SnapshotDirectory}
  {manifest : SnapshotManifest}

/-- Writing the shared memory file changes none of the files that are checked. -/
theorem Unshared.queried (h : Unshared operationId directory manifest)
    (hshm : ∀ (content : Bytes) (wal shm shm' : Option Bytes),
      Tools.alembicRevision content wal shm = Tools.alembicRevision content wal shm')
    (written : Option Bytes) :
    Unshared operationId (SnapshotRoundTrip.queried directory written) manifest := by
  cases written with
  | none => exact h
  | some content =>
    change Unshared operationId (directory.add "database.sqlite-shm" content) manifest
    have hchecks := fileChecks_ok.mp h.checks
    refine ⟨h.valid, h.described, fileChecks_ok.mpr ⟨hchecks.operation, hchecks.required,
      hchecks.distinct, hchecks.mapped, fun item hitem => ?_⟩, ?_, h.unshared⟩
    · have hstored := hchecks.stored item hitem
      unfold fileVerified at hstored ⊢
      rw [file_add_other (h.unshared item hitem)]
      exact hstored
    · have hrevision := h.revision
      unfold revisionOf at hrevision ⊢
      rw [file_add_other (by decide), file_add_other (by decide)]
      refine Eq.trans (congrArg _ (funext fun bytes => ?_)) hrevision
      exact hshm bytes _ _ _

theorem verifyQuerying_finishes (h : Unshared operationId directory manifest)
    (hbackup : w.backup = some directory) (written : Option Bytes) :
    Finishes True StillMove (verifyQuerying written operationId)
      (fun found w' => found = (SnapshotRoundTrip.queried directory written, manifest) ∧
        w'.backup = some (SnapshotRoundTrip.queried directory written)) (fun _ _ => ¬True) w := by
  have hfiles : Finishes True StillMove (checkFiles operationId)
      (fun found w' => found = (directory, manifest) ∧ w'.backup = some directory)
      (fun _ _ => ¬True) w := by
    refine .look (fun hcalm => absurd trivial hcalm) fun w' hmoved => ?_
    have hsame := (still_same hmoved).backup.trans hbackup
    rw [h.valid, hsame, filesVerified_ok.mpr ⟨rfl, h.described, h.checks⟩]
    exact ⟨rfl, rfl⟩
  have hquery (w : World) (hbackup : w.backup = some directory) :
      Finishes True StillMove (queryRevision written)
        (fun revision w' => revision = manifest.alembicRevision ∧
          w'.backup = some (SnapshotRoundTrip.queried directory written)) (fun _ _ => ¬True) w := by
    refine .effect (fun hcalm => absurd trivial hcalm) fun w' hmoved => ?_
    rw [(still_same hmoved).backup, hbackup, Option.bind_some, h.revision]
    exact ⟨rfl, rfl⟩
  refine hfiles.bind fun found w₁ hfound => ?_
  obtain ⟨rfl, hw₁⟩ := hfound
  refine (hquery w₁ hw₁).bind fun revision w₂ hrevision => ?_
  obtain ⟨rfl, hw₂⟩ := hrevision
  rw [if_neg (not_not_intro rfl)]
  exact .pure ⟨rfl, hw₂⟩

/-- A checked snapshot has what a restore needs. -/
theorem Unshared.restoreFrom (h : Unshared operationId directory manifest) :
    Finishes True StillMove (SnapshotRoundTrip.restoreFrom directory manifest)
      (fun _ _ => True) (fun _ _ => ¬True) w := by
  have hchecks := fileChecks_ok.mp h.checks
  refine (restoreFrom_finishes hchecks.distinct (fun item hitem => ?_) hchecks.required).post
    fun _ _ _ => trivial
  have hfile := hchecks.stored item hitem
  unfold fileVerified at hfile
  cases hcontent : directory.file item.snapshotName with
  | none =>
    rw [hcontent] at hfile
    cases hfile
  | some content => rfl

theorem Call.prog_finishes (h : Unshared operationId directory manifest)
    (hshm : ∀ (content : Bytes) (wal shm shm' : Option Bytes),
      Tools.alembicRevision content wal shm = Tools.alembicRevision content wal shm')
    (hbackup : w.backup = some directory) (call : Call) :
    Finishes True StillMove (call.prog operationId)
      (fun _ w' => ∃ directory', Unshared operationId directory' manifest ∧
        w'.backup = some directory') (fun _ _ => ¬True) w := by
  cases call with
  | verify written =>
    refine (verifyQuerying_finishes h hbackup written).bind fun found w₁ hfound => ?_
    exact .pure ⟨_, h.queried hshm written, hfound.2⟩
  | restore written =>
    refine (verifyQuerying_finishes h hbackup written).bind fun found w₁ hfound => ?_
    obtain ⟨rfl, hw₁⟩ := hfound
    have hafter := h.queried hshm written
    have hkept := hafter.restoreFrom.keeps (P := fun w' : World => w'.backup = w₁.backup)
      fun es => files_backup still_backup (restoreFrom_within _ _) es w₁
    exact hkept.bind fun _ w₂ hw₂ => .pure ⟨_, hafter, hw₂.2.trans hw₁⟩
  | write path content =>
    refine .effect (fun hcalm => absurd trivial hcalm) fun w' hmoved => ?_
    exact ⟨directory, h, (still_same hmoved).backup.trans hbackup⟩

theorem Unshared.allReturn (h : Unshared operationId directory manifest)
    (hshm : ∀ (content : Bytes) (wal shm shm' : Option Bytes),
      Tools.alembicRevision content wal shm = Tools.alembicRevision content wal shm')
    (hbackup : w.backup = some directory) (calls : List (Call × Schedule StillMove))
    (hquiet : ∀ call ∈ calls, Quiet call.2) : AllReturn operationId calls w := by
  induction calls generalizing directory w with
  | nil => trivial
  | cons call calls ih =>
    obtain ⟨call, es⟩ := call
    rw [List.forall_mem_cons] at hquiet
    have hend := call.prog_finishes h hshm hbackup es fun _ => hquiet.1
    unfold AllReturn
    rcases hrun : (call.prog operationId).run es w with ⟨⟨⟩ | e | _, w', es'⟩ <;> rw [hrun] at hend
    · obtain ⟨directory', h', hbackup'⟩ := hend.1
      exact ⟨rfl, ih h' hbackup' hquiet.2⟩
    · exact absurd trivial hend.1
    · exact absurd trivial hend

theorem TakenFrom.unshared (h : TakenFrom w₀ operationId directory manifest)
    (hnone : contentOf w₀ databaseShm = none) : Unshared operationId directory manifest := by
  obtain ⟨hchecks, hrevision⟩ := verifyManifest_ok.mp h.passes
  refine ⟨h.valid, h.described, hchecks, hrevision, fun item hitem hname => ?_⟩
  have hsource : item.sourcePath ∈ sources w₀ := h.paths ▸ List.mem_map_of_mem hitem
  have hsame : item.sourcePath = databaseShm := by
    refine snapshotName_inj (sources_known hsource) (by decide) ?_
    rw [← (h.copied item hitem).name, hname]
    rfl
  obtain ⟨content, horiginal, -⟩ := (h.copied item hitem).content
  rw [hsame, original_of_data (by decide), hnone] at horiginal
  cases horiginal

/-- What a check has read, and what its query left. -/
theorem verifyQuerying_returns {written : Option Bytes}
    {found : SnapshotDirectory × SnapshotManifest}
    {w' : World} (h : Returns StillMove (verifyQuerying written operationId) w found w') :
    ∃ directory manifest, w.backup = some directory ∧ directory.manifest = some manifest ∧
      reportFirst (fileChecks operationId directory manifest) = .ok () ∧
        w'.backup = some (SnapshotRoundTrip.queried directory written) := by
  unfold verifyQuerying checkFiles queryRevision at h
  obtain ⟨⟨directory, manifest⟩, w₁, hchecked, h⟩ := h.bind
  obtain ⟨revision, w₂, hqueried, h⟩ := h.bind
  obtain ⟨hmoved, hview⟩ := hchecked.look
  split at hview
  · cases hview
  obtain ⟨hbackup, hmanifest, hchecks⟩ := filesVerified_ok.mp hview
  refine ⟨directory, manifest, (still_same hmoved).backup ▸ hbackup, hmanifest, hchecks, ?_⟩
  obtain ⟨w₁', hmoved', hact⟩ := hqueried.effect
  have hsame : w₁'.backup = some directory := (still_same hmoved').backup.trans hbackup
  have hw₂ : w₂.backup = some (SnapshotRoundTrip.queried directory written) := by
    rw [hsame] at hact
    split at hact
    · cases hact
    · cases hact
      rfl
  split at h
  · exact h.throw.elim
  · rw [h.pure.2]
    exact hw₂

/-- A shared memory file that was captured and is written is not accepted again. -/
theorem TakenFrom.refused (h : TakenFrom w₀ operationId directory manifest)
    (hbackup : w.backup = some directory) {content : Bytes}
    (hshm : contentOf w₀ databaseShm = some content) :
    ¬AllReturn operationId
      [(.verify (some (0 :: content)), []), (.verify none, [])] w := by
  rintro ⟨hfirst, hsecond, -⟩
  obtain ⟨found, w₁, hverified, hpure⟩ := (Returns.of_run rfl hfirst).bind
  obtain ⟨-, hw₁⟩ := hpure.pure
  obtain ⟨directory', manifest', hbackup', -, -, hafter⟩ := verifyQuerying_returns hverified
  rw [hbackup] at hbackup'
  cases hbackup'
  rw [← hw₁] at hafter
  obtain ⟨found', w₂, hverified', -⟩ := (Returns.of_run rfl hsecond).bind
  obtain ⟨directory', manifest', hbackup', hmanifest', hchecks, -⟩ :=
    verifyQuerying_returns hverified'
  rw [hafter] at hbackup'
  cases hbackup'
  change directory.manifest = _ at hmanifest'
  rw [h.described] at hmanifest'
  cases hmanifest'
  have hsource : databaseShm ∈ sources w₀ := by
    rw [mem_sources, mem_sidecars]
    unfold contentOf at hshm
    cases hdata : w₀.data databaseShm with
    | none =>
      rw [hdata] at hshm
      cases hshm
    | some file => exact .inr ⟨by decide, rfl⟩
  obtain ⟨item, hitem, hpath, hcopied⟩ := h.item hsource
  have hname : item.snapshotName = "database.sqlite-shm" := by
    rw [hcopied.name, hpath]
    rfl
  obtain ⟨original, horiginal, -, hsize, -⟩ := hcopied.content
  rw [hpath, original_of_data (by decide), hshm] at horiginal
  cases horiginal
  have hverified := (fileChecks_ok.mp hchecks).stored item hitem
  unfold fileVerified at hverified
  rw [hname] at hverified
  change (((directory.add "database.sqlite-shm" (0 :: content)).file "database.sqlite-shm").any
    fun bytes => decide (bytes.length = item.size) && _) = true at hverified
  rw [file_add_self, Option.any_some, Bool.and_eq_true, decide_eq_true_eq, hsize,
    List.length_cons] at hverified
  omega

/-- Every series of checks and restores of a snapshot returns exactly if no
shared memory file was captured. -/
theorem reverified_iff_unshared {w₁ : World}
    (hmade : Returns StillMove (create operationId) w₀ () w₁)
    (hshm : ∀ (content : Bytes) (wal shm shm' : Option Bytes),
      Tools.alembicRevision content wal shm = Tools.alembicRevision content wal shm') :
    (∀ calls : List (Call × Schedule StillMove), (∀ call ∈ calls, Quiet call.2) →
      AllReturn operationId calls w₁) ↔ contentOf w₀ databaseShm = none := by
  obtain ⟨directory, manifest, hbackup, htaken⟩ := create_returns hmade
  constructor
  · intro hall
    cases hcontent : contentOf w₀ databaseShm with
    | none => rfl
    | some content =>
      refine absurd (hall _ ?_) (htaken.refused hbackup hcontent)
      intro call hcall
      simp only [List.mem_cons, List.not_mem_nil, or_false] at hcall
      rcases hcall with rfl | rfl <;> exact fun _ hmem => absurd hmem List.not_mem_nil
  · intro hnone calls hquiet
    exact (htaken.unshared hnone).allReturn hshm hbackup calls hquiet

end Calls

end Snapshots

/-! ## Samples -/

/-- The digests of the sample, and one of its own for every other text. -/
@[reducible] def distinctTools : Tools :=
  { sampleTools with
    sha256 := fun bytes =>
      if bytes ∈ [[1], [2], [3]] then sampleTools.sha256 bytes
      else String.ofList ('x' :: bytes.map Char.ofUInt8) }

theorem distinctTools_injective (a b : Bytes)
    (h : distinctTools.sha256 a = distinctTools.sha256 b) :
    a = b := by
  have hlisted : ∀ a ∈ [[1], [2], [3]], ∀ b ∈ [[1], [2], [3]],
      sampleTools.sha256 a = sampleTools.sha256 b → a = b := by decide
  have hother : ∀ a ∈ [[1], [2], [3]], (sampleTools.sha256 a).toList.head? ≠ some 'x' := by decide
  have hhead (bytes : Bytes) :
      (String.ofList ('x' :: bytes.map Char.ofUInt8)).toList.head? = some 'x' := by
    rw [String.toList_ofList, List.head?_cons]
  change (if a ∈ [[1], [2], [3]] then sampleTools.sha256 a else _) =
    (if b ∈ [[1], [2], [3]] then sampleTools.sha256 b else _) at h
  split_ifs at h with ha hb hb
  · exact hlisted a ha b hb h
  · exact absurd (h ▸ hhead b) (hother a ha)
  · exact absurd (h ▸ hhead a) (hother b hb)
  · rw [String.ofList_inj, List.cons.injEq] at h
    refine List.map_injective_iff.mpr (fun x y hxy => ?_) h.2
    exact UInt8.toUInt32_inj.mp (congrArg Char.val hxy)

/-- The data files of the sample and a sidecar. -/
def worldWith [Tools] (path : String) : World where
  containers := []
  usedIds := []
  nextId := hex64 'c'
  targetImageId := "sha256:" ++ hex64 '2'
  targetCommand := applianceCommand
  document := sampleDocument
  nextToken := sampleToken
  journal := fun _ => none
  data := fun p =>
    if p = database then some ⟨[1], 0⟩
    else if p = runtimeSecrets then some ⟨[2], 0⟩
    else if p = path then some ⟨[4], 0⟩ else none

/-- The world after the snapshot of the sample was made. -/
def madeWith [Tools] (path : String) : World :=
  ((create sampleDocument.operationId).run ([] : Schedule StillMove) (worldWith path)).2.1

theorem madeWith_returns [Tools] {path : String}
    (h : ((create sampleDocument.operationId).run ([] : Schedule StillMove) (worldWith path)).1 =
      .value ()) :
    Returns StillMove (create sampleDocument.operationId) (worldWith path) () (madeWith path) :=
  Returns.of_run rfl h

theorem madeWith_wal :
    letI := distinctTools
    Returns StillMove (create sampleDocument.operationId) (worldWith databaseWal) ()
      (madeWith databaseWal) := by
  let _ := distinctTools
  exact madeWith_returns (by decide +kernel)

/-- The database was written, its log removed, and a restore stopped. -/
def writtenWith [Tools] (path : String) : World :=
  ((restore sampleDocument.operationId).run
    ([⟨[], .none⟩, ⟨[], .none⟩, ⟨[], .crash⟩] : Schedule Move)
    (((madeWith path).setData database (some [7])).setData path none)).2.1

theorem writtenWith_later [Tools] (path : String) :
    Later sampleDocument.operationId (madeWith path) (writtenWith path) := by
  have hsame (w : World) : ((w.setData database (some [7])).setData path none).backup = w.backup :=
    rfl
  exact (Later.changed .refl (hsame _)).tried _

theorem snapshot_round_trip_sample :
    letI := distinctTools
    Restorable (worldWith databaseWal) (writtenWith databaseWal) sampleDocument.operationId := by
  let _ := distinctTools
  exact snapshot_round_trip madeWith_wal (writtenWith_later databaseWal) distinctTools_injective

theorem reverified_iff_unshared_sample :
    letI := distinctTools
    (∀ calls : List (Call × Schedule StillMove), (∀ call ∈ calls, Quiet call.2) →
        AllReturn sampleDocument.operationId calls (madeWith databaseWal)) ↔
      contentOf (worldWith databaseWal) databaseShm = none := by
  let _ := distinctTools
  exact reverified_iff_unshared madeWith_wal fun _ _ _ _ => rfl

/-- A snapshot with a shared memory file is made and not accepted a second time. -/
theorem shared_snapshot_refused :
    letI := sampleTools
    Returns StillMove (create sampleDocument.operationId) (worldWith databaseShm) ()
        (madeWith databaseShm) ∧
      ¬∀ calls : List (Call × Schedule StillMove), (∀ call ∈ calls, Quiet call.2) →
        AllReturn sampleDocument.operationId calls (madeWith databaseShm) := by
  let _ := sampleTools
  have hmade : Returns StillMove (create sampleDocument.operationId) (worldWith databaseShm) ()
      (madeWith databaseShm) := madeWith_returns (by decide +kernel)
  obtain ⟨directory, manifest, hbackup, htaken⟩ := create_returns hmade
  refine ⟨hmade, fun hall => htaken.refused hbackup rfl (hall _ ?_)⟩
  intro call hcall
  simp only [List.mem_cons, List.not_mem_nil, or_false] at hcall
  rcases hcall with rfl | rfl <;> exact fun _ hmem => absurd hmem List.not_mem_nil

end MediaSync.SnapshotRoundTrip
