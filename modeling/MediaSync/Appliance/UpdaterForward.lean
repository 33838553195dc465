import MediaSync.Common.GuardedPrograms
import MediaSync.Appliance.UpdateSnapshot
import MediaSync.Appliance.UpdaterObservation

/-!
# The way forward

The old container is fenced and stopped, its data are copied, and a candidate
takes its name and its place. Every branch of the loop brings about what the
next checkpoint says and then stores that checkpoint, so a run that was
interrupted finds its branch again.
-/
namespace MediaSync.UpdaterForward
open FaultPrograms GuardedPrograms PythonText UpdateHandoff UpdateJournal UpdaterWorld
open UpdaterObservation UpdateSnapshot

section Forward
variable [Tools]

/-- What the health checks and the database answer to an updater that asks. -/
class Verifiers where
  candidateHealthy : HandoffDocument → CandidatePreparation → String → World → Except String Unit
  previousHealthy : HandoffDocument → String → World → Except String Unit
  databaseCommitted : String → World → Bool

/-- What an executor is constructed with. -/
structure Executor where
  socketPath : String
  coordinatorContainerId : String
  deriving DecidableEq, Repr

/-- The short form of its identifier. -/
def Executor.hostname (executor : Executor) : String :=
  String.ofList (executor.coordinatorContainerId.toList.take 12)

/-- What an effect has found out for the record. -/
structure Learned where
  candidateTokenHash : Option String := none
  candidateContainerId : Option String := none
  deriving DecidableEq, Repr

/-- A branch of an executor: an effect, and the checkpoint that is stored when
it has succeeded. -/
structure Branch where
  status : UpdaterStatus
  checkpoint : UpdaterCheckpoint
  effect : Updater Learned

/-! ## The journal -/

def journalCall {α : Type} (call : ℤ → Journal → Answer α) : Updater α :=
  Prog.effect .other fun w =>
    ((call w.now w.journal).1.mapError ofJournal,
      { w with journal := (call w.now w.journal).2 })

def readResult (operationId : String) : Updater (UpdaterResult ⊕ UpdaterResultV2) :=
  Prog.look (.snapshot "updater 结果日志无效") fun w =>
    (read w.journal operationId).mapError ofJournal

/-- `_checkpoint`, of the way forward -/
def checkpoint (operationId : String) (branch : Branch) (learned : Learned) :
    Updater UpdaterResultV2 :=
  journalCall (checkpointV2 operationId
    { status := branch.status
      checkpoint := branch.checkpoint
      candidateTokenHash := learned.candidateTokenHash
      candidateContainerId := learned.candidateContainerId })

/-- `_load_or_start` -/
def loadOrStart (executor : Executor) (document : HandoffDocument) : Updater UpdaterResultV2 := do
  let present ← Prog.look .other fun w => .ok (w.journal document.operationId).isSome
  if present then do
    let result ← readResult document.operationId
    match result with
    | .inl _ => throw (.stateMachine "schema v1 正常路径不支持自动恢复")
    | .inr result => pure result
  else journalCall (startV2 document executor.coordinatorContainerId)

/-- `_validate_resumable` -/
def validateResumable (executor : Executor) (result : ResultFields) : Except UpdaterError Unit :=
  if result.coordinatorContainerId ≠ executor.coordinatorContainerId then
    .error (.stateMachine "updater v2 需要先完成协调器接管")
  else if result.rollbackStarted ∨
      result.status ∈ [.rollingBack, .rolledBack, .failed, .rollbackFailed] then
    .error (.stateMachine "updater v2 当前状态不属于正常路径")
  else .ok ()

/-! ## The old container -/

/-- `_require_source_identity` -/
def requireSourceIdentity (document : HandoffDocument) (expectedPrevious : Bool)
    (container : Container) : Except UpdaterError Unit :=
  let expectedName :=
    if expectedPrevious then previousContainerName document.operationId
    else document.candidate.name
  if !mountMatches container document || container.id ≠ document.currentContainerId ||
      container.image ≠ document.sourceImageId || container.name ≠ expectedName then
    .error (.stateMachine "旧容器身份与 handoff 不匹配")
  else .ok ()

/-- The old container, if it is the one of the document. -/
def inspectSource (document : HandoffDocument) (expectedPrevious : Bool) : Updater Container := do
  let container ← inspectContainer document.currentContainerId
  Prog.ofExcept (requireSourceIdentity document expectedPrevious container)
  pure container

def skipIf (condition : Bool) (p : Updater Unit) : Updater Unit :=
  if condition then pure () else p

def require (condition : Bool) (text : String) : Updater Unit :=
  skipIf condition (throw (.stateMachine text))

def noRestart : RestartPolicy := ⟨"no", 0⟩

/-- `_fence_old_restart` -/
def fenceOldRestart (document : HandoffDocument) : Updater Unit := do
  let container ← inspectSource document false
  skipIf (container.restartPolicy.name = "no")
    (updateRestartPolicy document.currentContainerId noRestart)
  let confirmed ← inspectSource document false
  require (confirmed.restartPolicy.name = "no") "旧容器重启隔离状态未确认"

def stopAndWait (id : String) : Updater Unit := do
  stopContainer id
  waitContainer id

/-- `_stop_old` -/
def stopOld (document : HandoffDocument) : Updater Unit := do
  let container ← inspectSource document false
  skipIf (!container.running) (stopAndWait document.currentContainerId)
  let confirmed ← inspectSource document false
  require (!confirmed.running) "旧容器停止状态未确认"

/-- `_ensure_snapshot` -/
def ensureSnapshot (operationId : String) : Updater Unit := do
  let present ← Prog.look .other fun w => .ok w.backup.isSome
  skipIf present (create operationId)
  let _ ← verify operationId
  pure ()

/-- The old container under its own name gets the name for what is replaced. -/
def renameSource (document : HandoffDocument) (container : Container) : Updater Unit :=
  if container.name = document.candidate.name then do
    Prog.ofExcept (requireSourceIdentity document false container)
    renameContainer document.currentContainerId (previousContainerName document.operationId)
  else if container.name ≠ previousContainerName document.operationId then
    throw (.stateMachine "旧容器名称与更新检查点冲突")
  else Prog.ofExcept (requireSourceIdentity document true container)

/-- `_rename_old` -/
def renameOld (document : HandoffDocument) : Updater Unit := do
  let container ← inspectContainer document.currentContainerId
  renameSource document container
  let _ ← inspectSource document true
  pure ()

/-! ## The candidate -/

def observeWith (executor : Executor) (document : HandoffDocument) (result : ResultFields)
    (preparation : CandidatePreparation) : Updater DockerRecoveryObservation :=
  observe executor.socketPath document result (some preparation.marker) executor.hostname

/-- A candidate is created when none is found. -/
def createMissing (executor : Executor) (document : HandoffDocument) (result : ResultFields)
    (preparation : CandidatePreparation) (observation : DockerRecoveryObservation) :
    Updater DockerRecoveryObservation :=
  if observation.candidate.status = .missing then do
    createContainer document.candidate.name preparation.createConfig
    observeWith executor document result preparation
  else pure observation

/-- Everybody is who they should be. -/
def allMatched (observation : DockerRecoveryObservation) : Bool :=
  observation.source.status = .matched && observation.coordinator.status = .matched &&
    observation.candidate.status = .matched

/-- `_ensure_candidate` -/
def ensureCandidate (executor : Executor) (document : HandoffDocument) (result : ResultFields)
    (preparation : CandidatePreparation) : Updater String := do
  let first ← observeWith executor document result preparation
  let observation ← createMissing executor document result preparation first
  match allMatched observation, observation.candidate.containerId with
  | true, some id => pure id
  | _, _ => throw (.stateMachine "无法唯一确认新建候选容器身份")

/-- `_require_candidate_id` -/
def requireCandidateId (result : ResultFields) : Except UpdaterError String :=
  match result.candidateContainerId with
  | none => .error (.stateMachine "updater v2 检查点缺少候选容器标识")
  | some id => .ok id

/-- `_require_candidate_identity` -/
def requireCandidateIdentity (executor : Executor) (document : HandoffDocument)
    (result : ResultFields) (preparation : CandidatePreparation) : Updater String := do
  let observation ← observeWith executor document result preparation
  let expected ← Prog.ofExcept (requireCandidateId result)
  require (allMatched observation && observation.candidate.containerId = some expected)
    "候选容器身份与 v2 检查点冲突"
  pure expected

/-- `_start_candidate` -/
def startCandidate (candidateId : String) : Updater Unit := do
  let container ← inspectContainer candidateId
  skipIf container.running (startContainer candidateId)
  let confirmed ← inspectContainer candidateId
  require confirmed.running "候选容器启动状态未确认"

def removeSource (document : HandoffDocument) (result : ResultFields) : Updater Unit := do
  let container ← inspectContainer document.currentContainerId
  require (sourceIdentityMatches container document result) "成功清理前旧容器身份不匹配"
  removeContainer document.currentContainerId

/-- `_cleanup_old` -/
def cleanupOld (document : HandoffDocument) (result : ResultFields) : Updater Unit := do
  let summaries ← listContainers
  skipIf (!summaries.any fun container => container.id = document.currentContainerId)
    (removeSource document result)

/-! ## Branches -/

section Branches
variable [Verifiers] (executor : Executor) (document : HandoffDocument)

/-- The answer of the candidate verifier. -/
def verifyCandidate (preparation : CandidatePreparation) (candidateId : String) : Updater Unit :=
  Prog.look unreachable fun w =>
    (Verifiers.candidateHealthy document preparation candidateId w).mapError .stateMachine

/-- The appliance has removed the files of the operation and committed it. -/
def commitConfirmed (operationId : String) (w : World) : Bool :=
  w.pending.isNone && !w.evidence && !w.handoff && Verifiers.databaseCommitted operationId w

/-- `ApplianceCommitWaiter.wait` -/
def waitForCommit (operationId : String) : Updater Unit := Prog.look .other fun w =>
  if !validOperationId operationId then .error (.handoff "更新操作标识无效")
  else if commitConfirmed operationId w then .ok ()
  else .error (.stateMachine "等待 Appliance 提交更新终态超时")

def learnNothing (p : Updater Unit) : Updater Learned := do
  p
  pure {}

def preparePending : Updater Learned := do
  let preparation ← prepare document
  pure { candidateTokenHash := some (tokenHash preparation.marker.candidateToken) }

def prepareCandidate (result : ResultFields) : Updater Learned := do
  let preparation ← prepare document
  let id ← ensureCandidate executor document result preparation
  pure { candidateContainerId := some id }

def bringUpCandidate (result : ResultFields) : Updater Unit := do
  let preparation ← prepare document
  let id ← requireCandidateIdentity executor document result preparation
  startCandidate id

def checkCandidate (result : ResultFields) : Updater Unit := do
  let preparation ← prepare document
  let id ← requireCandidateIdentity executor document result preparation
  verifyCandidate document preparation id

/-- The branch of a record, on the way forward. -/
def forwardBranch (result : ResultFields) : Option Branch :=
  match result.checkpoint with
  | .initialized =>
    some ⟨.snapshotting, .oldRestartFenced, learnNothing (fenceOldRestart document)⟩
  | .oldRestartFenced => some ⟨.snapshotting, .oldStopped, learnNothing (stopOld document)⟩
  | .oldStopped => some ⟨.snapshotting, .pendingReady, preparePending document⟩
  | .pendingReady =>
    some ⟨.snapshotting, .snapshotVerified, learnNothing (ensureSnapshot document.operationId)⟩
  | .snapshotVerified => some ⟨.switching, .oldRenamed, learnNothing (renameOld document)⟩
  | .oldRenamed => some ⟨.switching, .candidateCreated, prepareCandidate executor document result⟩
  | .candidateCreated =>
    some ⟨.switching, .candidateStarted, learnNothing (bringUpCandidate executor document result)⟩
  | .candidateStarted =>
    if result.status = .switching then some ⟨.verifying, .candidateStarted, pure {}⟩
    else some ⟨.verifying, .candidateVerified,
      learnNothing (checkCandidate executor document result)⟩
  | .candidateVerified => some ⟨.commitRequested, .commitRequested, pure {}⟩
  | .commitRequested =>
    some ⟨.success, .commitRequested, learnNothing (waitForCommit document.operationId)⟩
  | _ => none

/-- One turn of the loop. -/
def forwardTurn (result : UpdaterResultV2) : Updater UpdaterResultV2 :=
  match forwardBranch executor document result.toResultFields with
  | none => throw (.stateMachine "updater v2 正常路径检查点无法执行")
  | some branch => do
    let learned ← branch.effect
    checkpoint document.operationId branch learned

def forwardGoing (result : UpdaterResultV2) : Bool := result.status ≠ .success

/-- More turns than there are records on the way forward. -/
def forwardTurns : ℕ := 22

/-- `UpdaterForwardV2.execute`, after the handoff was read -/
def forwardDocument : Updater String := do
  let result ← loadOrStart executor document
  Prog.ofExcept (validateResumable executor result.toResultFields)
  let last ← whileLoop forwardGoing (forwardTurn executor document) .other forwardTurns result
  let candidateId ← Prog.ofExcept (requireCandidateId last.toResultFields)
  cleanupOld document last.toResultFields
  pure candidateId

end Branches

/-- `UpdaterForwardV2.execute`; its constructor takes full identifiers only. -/
def executeForward [Verifiers] (executor : Executor) (operationId : String) : Updater String :=
  if !fullContainerId executor.coordinatorContainerId then throw .other
  else do
    let document ← readHandoff operationId
    forwardDocument executor document

end Forward

end MediaSync.UpdaterForward
