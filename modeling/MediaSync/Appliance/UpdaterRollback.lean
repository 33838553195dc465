import MediaSync.Appliance.UpdaterForward

/-!
# The way back

The candidate is stopped and removed, the snapshot is put back, and the old
container gets its name and its restart policy again and is started. The
branches follow the checkpoints of the way back, so an interrupted rollback is
taken up where it was.
-/
namespace MediaSync.UpdaterRollback
open FaultPrograms GuardedPrograms PythonText UpdateHandoff UpdateJournal UpdaterWorld
open UpdaterObservation UpdateSnapshot UpdaterForward

section Rollback
variable [Tools]

/-! ## The journal -/

/-- `_read_result` -/
def readRollbackResult (executor : Executor) (operationId : String) : Updater UpdaterResultV2 := do
  let result ← readResult operationId
  match result with
  | .inl _ => throw (.stateMachine "schema v1 不支持自动回滚")
  | .inr result =>
    if result.coordinatorContainerId ≠ executor.coordinatorContainerId then
      throw (.stateMachine "updater v2 需要先完成协调器接管")
    else if result.status ∈ [.commitRequested, .success] then
      throw (.stateMachine "提交阶段禁止自动回滚")
    else if result.status ∈ [.failed, .rollbackFailed] then
      throw (.stateMachine "updater v2 当前状态不可再次回滚")
    else pure result

/-- Once the rollback has started, its reason stays in the record. -/
def carryReason (current : UpdaterResult ⊕ UpdaterResultV2) (request : CheckpointRequest) :
    CheckpointRequest :=
  match current with
  | .inl _ => request
  | .inr current =>
    if current.rollbackStarted ∧ request.errorCode = none ∧ request.publicErrorMessage = none then
      { request with
        errorCode := current.errorCode
        publicErrorMessage := current.publicErrorMessage }
    else request

/-- `_checkpoint`, of the way back -/
def rollbackCheckpoint (operationId : String) (request : CheckpointRequest) :
    Updater UpdaterResultV2 := do
  let current ← readResult operationId
  journalCall (checkpointV2 operationId (carryReason current request))

/-- `FORWARD_FAILURE_PHASES` -/
def failurePhase : UpdaterCheckpoint → Option String
  | .initialized => some "隔离旧容器重启策略"
  | .oldRestartFenced => some "停止旧容器"
  | .oldStopped => some "准备候选配置"
  | .pendingReady => some "创建数据快照"
  | .snapshotVerified => some "切换旧容器名称"
  | .oldRenamed => some "创建新版本容器"
  | .candidateCreated => some "启动新版本容器"
  | .candidateStarted => some "验证新版本容器"
  | .candidateVerified => some "提交更新"
  | .commitRequested => some "等待提交确认"
  | _ => none

/-- The record with which the way back begins. -/
def rollbackEntry (phase : String) (candidateTokenHash : String)
    (candidateContainerId : Option String) : CheckpointRequest where
  status := .rollingBack
  checkpoint := .rollbackStarted
  candidateTokenHash := some candidateTokenHash
  candidateContainerId := candidateContainerId
  rollbackStarted := some true
  errorCode := some "update_forward_incomplete"
  publicErrorMessage := some ("更新在“" ++ phase ++ "”阶段未能完成，已自动恢复到更新前版本")

/-! ## Entering -/

/-- The old container does not run and nobody is mistaken for somebody else. -/
def safeStart (result : ResultFields) (observation : DockerRecoveryObservation) : Bool :=
  observation.source.status = .matched && observation.source.running = some false &&
    observation.coordinator.status = .matched &&
    !(observation.candidate.status = .conflict && result.candidateContainerId.isNone)

def beginRollback (executor : Executor) (document : HandoffDocument) (result : UpdaterResultV2)
    (preparation : CandidatePreparation) : Updater UpdaterResultV2 := do
  let observation ← observeWith executor document result.toResultFields preparation
  if !safeStart result.toResultFields observation then
    throw (.stateMachine "回滚起点容器身份无法安全确认")
  else match failurePhase result.checkpoint with
    | none => throw .other
    | some phase =>
      rollbackCheckpoint document.operationId
        (rollbackEntry phase (tokenHash preparation.marker.candidateToken)
          (result.candidateContainerId <|> observation.candidate.containerId))

/-- `_enter_or_resume` -/
def enterOrResume (executor : Executor) (document : HandoffDocument) (result : UpdaterResultV2) :
    Updater (UpdaterResultV2 × CandidatePreparation) := do
  let preparation ← prepare document
  if result.candidateTokenHash ∉ [none, some (tokenHash preparation.marker.candidateToken)] then
    throw (.stateMachine "回滚 pending 与结果身份不匹配")
  else if result.status = .rollingBack then pure (result, preparation)
  else if result.status ∉ [.snapshotting, .switching, .verifying] then
    throw (.stateMachine "当前状态不允许开始自动回滚")
  else do
    let entered ← beginRollback executor document result preparation
    pure (entered, preparation)

/-! ## The candidate -/

/-- `_require_safe_observation` -/
def requireSafeObservation (observation : DockerRecoveryObservation) : Updater Unit :=
  require (observation.source.status = .matched && observation.coordinator.status = .matched &&
    observation.candidate.status ≠ .conflict) "回滚容器身份无法安全确认"

def observeSafely (executor : Executor) (document : HandoffDocument) (result : ResultFields)
    (preparation : CandidatePreparation) : Updater DockerRecoveryObservation := do
  let observation ← observeWith executor document result preparation
  requireSafeObservation observation
  pure observation

def candidateRuns (observation : DockerRecoveryObservation) : Bool :=
  observation.candidate.status = .matched && observation.candidate.running = some true

/-- `_require_candidate_id` -/
def observedCandidateId (observation : DockerRecoveryObservation) : Except UpdaterError String :=
  match observation.candidate.containerId with
  | none => .error (.stateMachine "回滚检查点缺少候选容器标识")
  | some id => .ok id

def stopRunningCandidate (observation : DockerRecoveryObservation) : Updater Unit :=
  skipIf (!(candidateRuns observation)) do
    let id ← Prog.ofExcept (observedCandidateId observation)
    stopAndWait id

/-- `_stop_candidate` -/
def stopCandidate (executor : Executor) (document : HandoffDocument) (result : ResultFields)
    (preparation : CandidatePreparation) : Updater Unit := do
  let observation ← observeSafely executor document result preparation
  stopRunningCandidate observation
  let confirmed ← observeSafely executor document result preparation
  require (!(candidateRuns confirmed)) "候选容器停止状态未确认"

def removeStoppedCandidate (observation : DockerRecoveryObservation) : Updater Unit :=
  skipIf (observation.candidate.status ≠ .matched) do
    require (observation.candidate.running ≠ some true) "运行中的候选容器不得删除"
    let id ← Prog.ofExcept (observedCandidateId observation)
    removeContainer id

/-- `_remove_candidate` -/
def removeCandidate (executor : Executor) (document : HandoffDocument) (result : ResultFields)
    (preparation : CandidatePreparation) : Updater Unit := do
  let observation ← observeSafely executor document result preparation
  removeStoppedCandidate observation
  let confirmed ← observeSafely executor document result preparation
  require (confirmed.candidate.status = .missing) "候选容器删除状态未确认"

/-! ## Files -/

def verifyAndRestore (operationId : String) : Updater Unit := do
  let _ ← verify operationId
  let _ ← restore operationId
  let _ ← verify operationId
  pure ()

/-- `_restore_snapshot` -/
def restoreSnapshot (operationId : String) : Updater Unit := do
  let present ← Prog.look .other fun w => .ok w.backup.isSome
  skipIf (!present) (verifyAndRestore operationId)

/-- `_remove_candidate_evidence` -/
def removeCandidateEvidence : Updater Unit :=
  Prog.change .other fun w => { w with evidence := false }

/-! ## The old container -/

/-- The old container, if it is the one of the record. -/
def inspectOld (document : HandoffDocument) (result : ResultFields) : Updater Container := do
  let container ← inspectContainer document.currentContainerId
  require (sourceIdentityMatches container document result) "旧容器身份与回滚结果不匹配"
  pure container

def restoreSourceName (document : HandoffDocument) (container : Container) : Updater Unit :=
  if container.name = previousContainerName document.operationId then
    renameContainer document.currentContainerId document.candidate.name
  else require (container.name = document.candidate.name) "旧容器名称无法安全恢复"

/-- `_restore_old_name` -/
def restoreOldName (document : HandoffDocument) (result : ResultFields) : Updater Unit := do
  let container ← inspectOld document result
  restoreSourceName document container
  let confirmed ← inspectContainer document.currentContainerId
  require (confirmed.name = document.candidate.name) "旧容器名称恢复状态未确认"

/-- `_restore_old_policy` -/
def restoreOldPolicy (document : HandoffDocument) (result : ResultFields) : Updater Unit := do
  let container ← inspectOld document result
  skipIf (container.restartPolicy = document.candidate.restartPolicy)
    (updateRestartPolicy document.currentContainerId document.candidate.restartPolicy)
  let confirmed ← inspectContainer document.currentContainerId
  require (confirmed.restartPolicy = document.candidate.restartPolicy)
    "旧容器重启策略恢复状态未确认"

/-- `_start_old` -/
def startOld (document : HandoffDocument) (result : ResultFields) : Updater Unit := do
  let container ← inspectOld document result
  skipIf container.running (startContainer document.currentContainerId)
  let confirmed ← inspectContainer document.currentContainerId
  require confirmed.running "旧容器启动状态未确认"

/-! ## Branches -/

section Branches
variable [Verifiers] (executor : Executor) (document : HandoffDocument)
  (preparation : CandidatePreparation)

/-- The answer of the verifier of the old container. -/
def verifyPrevious : Updater Unit := Prog.look unreachable fun w =>
  (Verifiers.previousHealthy document document.currentContainerId w).mapError .stateMachine

/-- The branch of a record, on the way back. -/
def rollbackBranch (result : ResultFields) : Option Branch :=
  match result.checkpoint with
  | .rollbackStarted => some ⟨.rollingBack, .candidateStopped,
      learnNothing (stopCandidate executor document result preparation)⟩
  | .candidateStopped => some ⟨.rollingBack, .candidateRemoved,
      learnNothing (removeCandidate executor document result preparation)⟩
  | .candidateRemoved =>
    some ⟨.rollingBack, .snapshotRestored, learnNothing (restoreSnapshot document.operationId)⟩
  | .snapshotRestored =>
    some ⟨.rollingBack, .candidateEvidenceRemoved, learnNothing removeCandidateEvidence⟩
  | .candidateEvidenceRemoved =>
    some ⟨.rollingBack, .oldNameRestored, learnNothing (restoreOldName document result)⟩
  | .oldNameRestored =>
    some ⟨.rollingBack, .oldPolicyRestored, learnNothing (restoreOldPolicy document result)⟩
  | .oldPolicyRestored =>
    some ⟨.rollingBack, .oldStarted, learnNothing (startOld document result)⟩
  | .oldStarted => some ⟨.rollingBack, .oldVerified, learnNothing (verifyPrevious document)⟩
  | .oldVerified => some ⟨.rollingBack, .rollbackPublished, pure {}⟩
  | .rollbackPublished => some ⟨.rolledBack, .rollbackPublished, pure {}⟩
  | _ => none

/-- One turn of the loop. -/
def rollbackTurn (result : UpdaterResultV2) : Updater UpdaterResultV2 :=
  match rollbackBranch executor document preparation result.toResultFields with
  | none => throw (.stateMachine "updater v2 回滚检查点无法执行")
  | some branch => do
    let _ ← branch.effect
    rollbackCheckpoint document.operationId
      { status := branch.status, checkpoint := branch.checkpoint }

def rollbackGoing (result : UpdaterResultV2) : Bool := result.status ≠ .rolledBack

/-- More turns than there are records on the way back. -/
def rollbackTurns : ℕ := 12

end Branches

section Execution
variable [Verifiers] (executor : Executor) (document : HandoffDocument)

/-- What is tried; its errors are looked at. -/
def rollbackWork (result : UpdaterResultV2) : Updater Unit := do
  let (entered, preparation) ← enterOrResume executor document result
  let _ ← whileLoop rollbackGoing (rollbackTurn executor document preparation) .other rollbackTurns
    entered
  pure ()

/-- `_record_rollback_failed`, before its errors are dropped -/
def markRollbackFailed (operationId : String) : Updater Unit := do
  let current ← readResult operationId
  match current with
  | .inl _ => pure ()
  | .inr result =>
    if result.status ≠ .rollingBack then pure ()
    else do
      let _ ← journalCall (checkpointV2 operationId
        { status := .rollbackFailed
          checkpoint := result.checkpoint
          errorCode := some "automatic_rollback_failed"
          publicErrorMessage := some "自动回滚未能安全完成，需要人工恢复" })
      pure ()

/-- `_record_rollback_failed` -/
def recordRollbackFailed (operationId : String) : Updater Unit := do
  let _ ← (Prog.attempt (markRollbackFailed operationId) : Updater (Except UpdaterError Unit))
  pure ()

/-- An error of the state machine ends the rollback; any other leaves it to be
taken up again. -/
def rollbackError (operationId : String) : UpdaterError → Updater Unit
  | .stateMachine text => do
    recordRollbackFailed operationId
    throw (.stateMachine text)
  | _ => throw (.stateMachine "updater v2 自动回滚暂时失败，可从当前检查点重试")

/-- `UpdaterRollbackV2.execute`, after the handoff was read -/
def rollbackDocument : Updater Unit := do
  let result ← readRollbackResult executor document.operationId
  if result.status = .rolledBack then pure ()
  else tryCatch (rollbackWork executor document result) (rollbackError document.operationId)

/-- `UpdaterRollbackV2.execute`; its constructor takes full identifiers only. -/
def executeRollback (operationId : String) : Updater Unit :=
  if !fullContainerId executor.coordinatorContainerId then throw .other
  else do
    let document ← readHandoff operationId
    rollbackDocument executor document

end Execution

end Rollback

end MediaSync.UpdaterRollback
