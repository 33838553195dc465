import MediaSync.Appliance.UpdaterWorld

/-!
# Snapshots of the data directory

Before the candidate touches the data, the database with its sidecars and the
secrets are copied into a directory of their own, with a manifest of sizes and
digests. Restoring copies every file next to the one it will replace and then
replaces them one by one.
-/
namespace MediaSync.UpdateSnapshot
open FaultPrograms PythonText UpdateHandoff UpdateJournal UpdaterWorld

section Snapshots
variable [Tools]

/-! ## The handoff and the pending marker -/

def readHandoff (expected : String) : Updater HandoffDocument :=
  Prog.look (.snapshot "updater handoff 内容无效") fun w =>
    if !validOperationId expected then .error (.handoff "更新操作标识无效")
    else if !w.handoff then .error (.snapshot "updater handoff 文件无效")
    else if w.document.operationId ≠ expected then
      .error (.snapshot "updater handoff 操作标识不匹配")
    else match validateHandoffDocument w.document with
      | .error text => .error (.snapshot text)
      | .ok () => .ok w.document

structure CandidatePreparation where
  marker : PendingUpdateMarker
  createConfig : CreateConfig
  deriving DecidableEq, Repr

/-- `CANDIDATE_TOKEN_PATTERN` -/
def candidateTokenPattern (token : String) : Bool :=
  32 ≤ token.toList.length && token.toList.length ≤ 128 &&
    token.toList.all fun c => nameStart c || c ∈ ['_', '-']

def markerMatches (document : HandoffDocument) (marker : PendingUpdateMarker) : Bool :=
  marker.operationId = document.operationId && marker.targetVersion = document.targetVersion &&
    marker.targetDigest = document.targetDigest && marker.targetRevision = document.targetRevision

/-- `_existing_marker` -/
def existingMarker (document : HandoffDocument) : Updater (Option PendingUpdateMarker) :=
  Prog.look (.candidate "候选验证标记无法安全解析") fun w =>
    match w.pending with
    | none => .ok none
    | some (.invalid reason) => .error (.candidate reason)
    | some (.marker marker) =>
      if markerMatches document marker then .ok (some marker)
      else .error (.candidate "已有候选验证标记与 handoff 不匹配")

/-- `_new_candidate_token` -/
def newCandidateToken : Updater String := Prog.look .other fun w =>
  if candidateTokenPattern w.nextToken then .ok w.nextToken
  else .error (.candidate "候选验证令牌生成失败")

/-- `_write_marker` -/
def writeMarker (marker : PendingUpdateMarker) : Updater Unit :=
  Prog.effect (.candidate "无法持久化候选验证标记") fun w =>
    if w.pending.isSome then (.error (.candidate "候选验证标记已存在"), w)
    else (.ok (), { w with pending := some (.marker marker) })

def internalCandidateEnvironment : List String :=
  ["MEDIASYNC_CANDIDATE_TOKEN", "MEDIASYNC_IMAGE_REVISION", "MEDIASYNC_IMAGE_DIGEST"]

/-- The name of an environment item. -/
def variableName (item : String) : String := String.ofList (item.toList.takeWhile (· ≠ '='))

/-- `build_candidate_create_config` -/
def buildCandidateCreateConfig (document : HandoffDocument) (marker : PendingUpdateMarker) :
    Except UpdaterError CreateConfig :=
  if !markerMatches document marker || !candidateTokenPattern marker.candidateToken then
    .error (.candidate "候选创建配置与 handoff 不匹配")
  else .ok {
    image := document.targetImage
    env := (document.candidate.env.filter fun item =>
        variableName item ∉ internalCandidateEnvironment) ++
      ["MEDIASYNC_CANDIDATE_TOKEN=" ++ marker.candidateToken,
        "MEDIASYNC_IMAGE_REVISION=" ++ marker.targetRevision,
        "MEDIASYNC_IMAGE_DIGEST=" ++ marker.targetDigest]
    labels := (updateRoleLabel, candidateRole) ::
      (updateOperationLabel, document.operationId) :: document.candidate.labels
    mounts := document.candidate.mounts
    restartPolicy := document.candidate.restartPolicy }

def newMarker (document : HandoffDocument) : Updater PendingUpdateMarker := do
  let token ← newCandidateToken
  let marker : PendingUpdateMarker := ⟨document.operationId, document.targetVersion,
    document.targetDigest, document.targetRevision, token⟩
  writeMarker marker
  pure marker

/-- `UpdaterCandidateService.prepare` -/
def prepare (document : HandoffDocument) : Updater CandidatePreparation := do
  let existing ← existingMarker document
  let marker ← existing.elim (newMarker document) pure
  let config ← Prog.ofExcept (buildCandidateCreateConfig document marker)
  pure ⟨marker, config⟩

/-! ## Making a snapshot -/

def database : String := "mediasync.db"

def databaseWal : String := "mediasync.db-wal"

def databaseShm : String := "mediasync.db-shm"

def runtimeSecrets : String := "config/runtime-secrets.json"

def handoffSource : String := "update/handoff.json"

/-- The data files a snapshot is about. -/
def dataFiles : List String := [database, databaseWal, databaseShm, runtimeSecrets]

/-- Which name a file has in a snapshot. -/
def snapshotNames : List (String × String) :=
  [(database, "database.sqlite"), (databaseWal, "database.sqlite-wal"),
    (databaseShm, "database.sqlite-shm"), (runtimeSecrets, "runtime-secrets.json"),
    (handoffSource, "handoff.json")]

/-- A source of the snapshot; the handoff is one of them. -/
def sourceFile (w : World) (path : String) : Option DataFile :=
  if path = handoffSource then
    if w.handoff then some ⟨Tools.handoffBytes w.document, 0⟩ else none
  else w.data path

/-- `validate_source_file` -/
def validateSourceFile (path : String) : Updater Unit := Prog.look .other fun w =>
  if (sourceFile w path).isNone then
    .error (.snapshot ("快照源文件不存在或类型无效：" ++ path))
  else .ok ()

/-- `_source_paths`: the sidecars belong to it while they exist. -/
def sourcePaths : Updater (List String) := do
  validateSourceFile database
  validateSourceFile runtimeSecrets
  validateSourceFile handoffSource
  let sidecars ← Prog.look .other fun w =>
    .ok ([databaseWal, databaseShm].filter fun path => (w.data path).isSome)
  pure ([database, runtimeSecrets] ++ sidecars ++ [handoffSource])

def copySource (path name : String) : Updater SnapshotFile := Prog.effect .other fun w =>
  match sourceFile w path with
  | none => (.error .other, w)
  | some file =>
    (.ok ⟨path, name, file.content.length, Tools.sha256 file.content⟩,
      { w with staging := w.staging.map fun directory => directory.add name file.content })

def statSource (path : String) : Updater ℕ := Prog.look .other fun w =>
  match sourceFile w path with
  | none => .error .other
  | some file => .ok file.stamp

/-- `_copy_snapshot_file` -/
def copySnapshotFile (path : String) : Updater SnapshotFile := do
  let before ← statSource path
  let file ← copySource path ((snapshotNames.lookup path).getD "")
  let after ← statSource path
  if before ≠ after then throw (.snapshot "创建快照期间源文件发生变化")
  else pure file

def copySources : List String → Updater (List SnapshotFile)
  | [] => pure []
  | path :: paths => do
    let file ← copySnapshotFile path
    let files ← copySources paths
    pure (file :: files)

def contentOf (w : World) (path : String) : Option Bytes := (w.data path).map DataFile.content

/-- `read_alembic_revision` of the database in use -/
def readDataRevision : Updater String := Prog.look (.snapshot "无法读取数据库 Alembic revision")
  fun w =>
    match (contentOf w database).bind fun content =>
      Tools.alembicRevision content (contentOf w databaseWal) (contentOf w databaseShm) with
    | none => .error (.snapshot "数据库 Alembic revision 无效")
    | some revision => .ok revision

def discardStaging : Updater Unit := Prog.change .other fun w => { w with staging := none }

def fillStaging (operationId : String) : Updater Unit := do
  let paths ← sourcePaths
  let files ← copySources paths
  let revision ← readDataRevision
  Prog.change .other fun w =>
    { w with staging := w.staging.map fun directory =>
        { directory with manifest := some ⟨operationId, revision, files⟩ } }
  Prog.change .other fun w => { w with backup := w.staging, staging := none }

/-- `UpdateSnapshotService.create` -/
def create (operationId : String) : Updater Unit := do
  let _ ← readHandoff operationId
  let present ← Prog.look .other fun w => .ok w.backup.isSome
  if present then throw (.snapshot "该更新操作的有效快照已存在")
  else do
    Prog.change .other fun w => { w with staging := some {} }
    tryCatch (fillStaging operationId) fun e => do
      let _ ← (Prog.attempt discardStaging : Updater (Except UpdaterError Unit))
      throw e

/-! ## Verifying -/

def requiredFiles : List String := [database, runtimeSecrets, handoffSource]

def fileVerified (directory : SnapshotDirectory) (item : SnapshotFile) : Bool :=
  (directory.file item.snapshotName).any fun content =>
    content.length = item.size && Tools.sha256 content = item.sha256

/-- What is checked of a file that the manifest lists, before the next one. -/
def itemChecks (directory : SnapshotDirectory) (item : SnapshotFile) : List Check :=
  [(snapshotNames.lookup item.sourcePath ≠ some item.snapshotName, "更新快照文件映射无效"),
    (!fileVerified directory item, "更新快照文件校验失败")]

/-- The checks of a manifest before the schema revision is asked for. -/
def fileChecks (operationId : String) (directory : SnapshotDirectory)
    (manifest : SnapshotManifest) : List Check :=
  (decide (manifest.operationId ≠ operationId), "更新快照操作标识不匹配") ::
    (!(requiredFiles.all fun path => path ∈ manifest.files.map SnapshotFile.sourcePath) ||
        !(manifest.files.map SnapshotFile.sourcePath).Nodup, "更新快照文件清单无效") ::
      manifest.files.flatMap (itemChecks directory)

/-- `read_alembic_revision` of the database in a snapshot -/
def revisionOf (directory : SnapshotDirectory) : Option String :=
  (directory.file "database.sqlite").bind fun content => Tools.alembicRevision content
    (directory.file "database.sqlite-wal") (directory.file "database.sqlite-shm")

/-- The checks of a manifest that was read. -/
def verifyManifest (operationId : String) (directory : SnapshotDirectory)
    (manifest : SnapshotManifest) : Except String Unit := do
  reportFirst (fileChecks operationId directory manifest)
  match revisionOf directory with
  | none => .error "数据库 Alembic revision 无效"
  | some revision =>
    if revision ≠ manifest.alembicRevision then .error "更新快照 Alembic revision 不匹配"
    else .ok ()

/-- Every listed file is the one it was when the manifest was written. -/
structure Accounted (operationId : String) (directory : SnapshotDirectory)
    (manifest : SnapshotManifest) : Prop where
  operation : manifest.operationId = operationId
  required (path : String) : path ∈ requiredFiles →
    path ∈ manifest.files.map SnapshotFile.sourcePath
  distinct : (manifest.files.map SnapshotFile.sourcePath).Nodup
  mapped : ∀ item ∈ manifest.files,
    snapshotNames.lookup item.sourcePath = some item.snapshotName
  stored : ∀ item ∈ manifest.files, fileVerified directory item = true

theorem fileChecks_ok {operationId : String} {directory : SnapshotDirectory}
    {manifest : SnapshotManifest} :
    reportFirst (fileChecks operationId directory manifest) = .ok () ↔
      Accounted operationId directory manifest := by
  rw [reportFirst_ok]
  simp only [fileChecks, itemChecks, List.forall_mem_cons, List.forall_mem_flatMap,
    List.not_mem_nil, false_imp_iff, implies_true, and_true, Bool.or_eq_false_iff,
    Bool.not_eq_false', List.all_eq_true, decide_eq_true_eq, decide_eq_false_iff_not, not_not]
  constructor
  · rintro ⟨hoperation, ⟨hrequired, hdistinct⟩, hitems⟩
    exact ⟨hoperation, hrequired, hdistinct, fun item h => (hitems item h).1,
      fun item h => (hitems item h).2⟩
  · rintro ⟨hoperation, hrequired, hdistinct, hmapped, hstored⟩
    exact ⟨hoperation, ⟨hrequired, hdistinct⟩, fun item h => ⟨hmapped item h, hstored item h⟩⟩

/-- The check of a snapshot is that of its files and that of its revision. -/
theorem verifyManifest_ok {operationId : String} {directory : SnapshotDirectory}
    {manifest : SnapshotManifest} : verifyManifest operationId directory manifest = .ok () ↔
      reportFirst (fileChecks operationId directory manifest) = .ok () ∧
        revisionOf directory = some manifest.alembicRevision := by
  unfold verifyManifest
  constructor
  · intro h
    obtain ⟨_, hchecks, h⟩ := bind_ok h
    split at h
    · cases h
    · rename_i revision hrevision
      split_ifs at h with hsame
      exact ⟨hchecks, hrevision.trans (congrArg some (not_not.mp hsame))⟩
  · rintro ⟨hchecks, hrevision⟩
    rw [hchecks, hrevision]
    exact if_neg (not_not_intro rfl)

/-- What is verified of a directory. -/
def verified (operationId : String) : Option SnapshotDirectory →
    Except UpdaterError (SnapshotDirectory × SnapshotManifest)
  | none => .error (.snapshot "更新快照不完整")
  | some directory =>
    match directory.manifest with
    | none => .error (.snapshot "更新快照不完整")
    | some manifest =>
      match verifyManifest operationId directory manifest with
      | .error text => .error (.snapshot text)
      | .ok () => .ok (directory, manifest)

/-- `UpdateSnapshotService.verify` -/
def verify (operationId : String) : Updater (SnapshotDirectory × SnapshotManifest) :=
  Prog.look .other fun w =>
    if !validOperationId operationId then .error (.handoff "更新操作标识无效")
    else verified operationId w.backup

/-! ## Restoring -/

def unlinkTemporary (path : String) : Updater Unit :=
  Prog.change .other fun w => w.dropTemporary path

def discardTemporaries : List String → Updater Unit
  | [] => pure ()
  | path :: paths => do
    unlinkTemporary path
    discardTemporaries paths

/-- Removes the temporaries that are known when `p` raises. -/
def guardTemporaries {α : Type} (known : List String) (p : Updater α) : Updater α :=
  tryCatch p fun e => do
    discardTemporaries known
    throw e

/-- Copies a file of the snapshot next to the one it will replace. -/
def stageFile (directory : SnapshotDirectory) (item : SnapshotFile) : Updater Unit := do
  unlinkTemporary item.sourcePath
  Prog.effect .other fun w =>
    match directory.file item.snapshotName with
    | none => (.error .other, w)
    | some content => (.ok (), w.putTemporary item.sourcePath content)

def stageFiles (directory : SnapshotDirectory) (known : List String) :
    List SnapshotFile → Updater Unit
  | [] => pure ()
  | item :: items => do
    guardTemporaries known (stageFile directory item)
    stageFiles directory (item.sourcePath :: known) items

def removeOptional (path : String) : Updater Unit := Prog.change .other fun w => w.setData path none

def removeOptionals : List String → Updater Unit
  | [] => pure ()
  | path :: paths => do
    removeOptional path
    removeOptionals paths

/-- `os.replace` of a data file by its temporary -/
def replaceFile (path : String) : Updater Unit := Prog.effect .other fun w =>
  match w.restoring.lookup path with
  | none => (.error .other, w)
  | some content => (.ok (), (w.setData path (some content)).dropTemporary path)

def replaceFiles : List String → Updater Unit
  | [] => pure ()
  | path :: paths => do
    replaceFile path
    replaceFiles paths

/-- The entries of a manifest that go back to the data directory. -/
def restoredItems (manifest : SnapshotManifest) : List SnapshotFile :=
  manifest.files.filter fun item => item.sourcePath ≠ handoffSource

/-- The sidecars a snapshot does not have. -/
def absentOptionals (manifest : SnapshotManifest) : List String :=
  [databaseWal, databaseShm].filter fun path =>
    path ∉ (restoredItems manifest).map SnapshotFile.sourcePath

def putBack (manifest : SnapshotManifest) : Updater Unit := do
  removeOptionals (absentOptionals manifest)
  replaceFiles ((restoredItems manifest).map SnapshotFile.sourcePath)

/-- `UpdateSnapshotService.restore` -/
def restore (operationId : String) : Updater SnapshotManifest := do
  let (directory, manifest) ← verify operationId
  stageFiles directory [] (restoredItems manifest)
  guardTemporaries ((restoredItems manifest).map SnapshotFile.sourcePath) (putBack manifest)
  pure manifest

end Snapshots

end MediaSync.UpdateSnapshot
