import MediaSync.Appliance.UpdaterRollback

/-!
# The coordinator

Whoever runs as the updater first finds out who it is and how far the
operation has come, takes the operation over if somebody else had it, and
hands it to the executor that the decision names. In the end it gives up its
own restart policy.
-/
namespace MediaSync.UpdaterCoordinator
open FaultPrograms GuardedPrograms PythonText UpdateHandoff UpdateJournal UpdaterWorld
open UpdaterObservation UpdateSnapshot UpdaterForward UpdaterRollback

inductive CoordinatorOutcome where
  | completed
  | waitingForDisarm
  | manualRecovery
  deriving DecidableEq, Repr

section Coordinator
variable [Tools]

/-- What a coordinator is constructed with. -/
structure Coordinator where
  socketPath : String
  hostname : String
  operationId : String
  deriving DecidableEq, Repr

/-! ## Who it is -/

/-- The first mount of the data directory is the one of the document. -/
def dataMountWritable (container : Container) (document : HandoffDocument) : Bool :=
  match document.dataMount, container.mounts.find? fun mount => mount.destination = "/data" with
  | some expected, some actual =>
    actual.type = mountType expected.type && mountSource actual expected.type = expected.source &&
      actual.rw
  | _, _ => false

/-- `coordinator_identity_matches` -/
def coordinatorIdentityMatches (container : Container) (document : HandoffDocument)
    (socketPath : String) : Bool :=
  container.label updateRoleLabel = some updaterRole &&
    container.label updateOperationLabel = some document.operationId &&
    container.environment "MEDIASYNC_UPDATE_OPERATION_ID" = some document.operationId &&
    container.cmd = updaterCommand && container.configImage = document.targetImage &&
    container.networkMode = "none" && container.readonlyRootfs &&
    updaterIsolationMatches container && targetsMatch container socketPath &&
    dataMountWritable container document

/-- A container that may be the coordinator itself. -/
def mayBeCoordinator (document : HandoffDocument) (hostname : String) (container : Container) :
    Bool :=
  fullContainerId container.id && hostname.toList.isPrefixOf container.id.toList &&
    container.label updateRoleLabel = some updaterRole &&
    container.label updateOperationLabel = some document.operationId

/-- `identify_current_coordinator` -/
def identifyCurrentCoordinator (coordinator : Coordinator) (document : HandoffDocument) :
    Updater String := do
  let summaries ← listContainers
  match (summaries.filter (mayBeCoordinator document coordinator.hostname)).map Container.id with
  | [id] => do
    let container ← inspectContainer id
    require (coordinatorIdentityMatches container document coordinator.socketPath)
      "当前 updater 容器身份不匹配"
    pure id
  | _ => throw (.stateMachine "无法唯一识别当前 updater 容器")

/-! ## How far the operation has come -/

/-- `_read_optional_result` -/
def readOptionalResult (operationId : String) :
    Updater (Option (UpdaterResult ⊕ UpdaterResultV2)) := do
  let present ← Prog.look .other fun w => .ok (w.journal operationId).isSome
  if present then do
    let result ← readResult operationId
    pure (some result)
  else pure none

/-- `read_pending_marker` -/
def readPendingMarker : Updater (Option PendingFile) := Prog.look .other fun w => .ok w.pending

/-! ## Giving up the restart policy -/

def disarmed (container : Container) : Bool :=
  container.restartPolicy.name = "no" && container.restartPolicy.maximumRetryCount = 0

def disarmNow (id : String) : Updater Bool := do
  updateRestartPolicy id noRestart
  let container ← inspectContainer id
  pure (disarmed container)

/-- `_disarm` -/
def disarm (id : String) : Updater Bool := do
  let result ← (Prog.attempt (disarmNow id) : Updater (Except UpdaterError Bool))
  match result with
  | .ok answer => pure answer
  | .error _ => pure false

/-- `_finish` -/
def finish (id : String) : Updater CoordinatorOutcome := do
  let done ← disarm id
  pure (if done then .completed else .waitingForDisarm)

/-- `_manual` -/
def manual (id : String) : Updater CoordinatorOutcome := do
  let done ← disarm id
  pure (if done then .manualRecovery else .waitingForDisarm)

/-! ## Too many recoveries -/

/-- The record with which the way back begins here. -/
def exhaustedEntry (candidateTokenHash : String) (candidateContainerId : Option String) :
    CheckpointRequest where
  status := .rollingBack
  checkpoint := .rollbackStarted
  candidateTokenHash := some candidateTokenHash
  candidateContainerId := candidateContainerId
  rollbackStarted := some true

/-- The record to be closed, on the way back. -/
def enterExhausted (document : HandoffDocument) (result : UpdaterResultV2) :
    Updater UpdaterResultV2 :=
  if result.status = .rollingBack then pure result
  else do
    let preparation ← prepare document
    journalCall (checkpointV2 document.operationId
      (exhaustedEntry (tokenHash preparation.marker.candidateToken) result.candidateContainerId))

def closeExhausted (document : HandoffDocument) (result : UpdaterResultV2) : Updater Unit := do
  let entered ← enterExhausted document result
  let _ ← journalCall (checkpointV2 document.operationId
    { status := .rollbackFailed
      checkpoint := entered.checkpoint
      errorCode := some "recovery_generation_exhausted"
      publicErrorMessage := some "更新恢复次数已达上限，需要人工恢复" })
  pure ()

/-- `_mark_recovery_exhausted` -/
def markRecoveryExhausted (document : HandoffDocument) (result : UpdaterResultV2) :
    Updater Unit :=
  if result.status = .commitRequested then pure ()
  else do
    let _ ← (Prog.attempt (closeExhausted document result) : Updater (Except UpdaterError Unit))
    pure ()

/-! ## Acting -/

section Acting
variable [Verifiers]

/-- Who runs, for which document. -/
structure Duty where
  coordinator : Coordinator
  document : HandoffDocument
  /-- The identifier of its container. -/
  id : String
  deriving DecidableEq, Repr

variable (duty : Duty)

def Duty.executor : Executor := ⟨duty.coordinator.socketPath, duty.id⟩

def goForward : Updater CoordinatorOutcome := do
  let _ ← executeForward duty.executor duty.coordinator.operationId
  finish duty.id

def goBack : Updater CoordinatorOutcome := do
  executeRollback duty.executor duty.coordinator.operationId
  finish duty.id

def observeDuty (result : ResultFields) (marker : Option PendingUpdateMarker) :
    Updater DockerRecoveryObservation :=
  observe duty.coordinator.socketPath duty.document result marker duty.coordinator.hostname

/-- The candidate of the record runs. -/
def candidateBack (result : ResultFields) (observation : DockerRecoveryObservation) : Bool :=
  observation.candidate.status = .matched &&
    observation.candidate.containerId = result.candidateContainerId &&
    observation.candidate.running = some true

/-- The action for a record that was requested to be committed. -/
def reconcileCommit (result : ResultFields) (marker : Option PendingUpdateMarker)
    (observation : DockerRecoveryObservation) : Updater CoordinatorOutcome :=
  match observation.candidate.containerId with
  | none => manual duty.id
  | some candidateId =>
    if observation.candidate.running = some true then goForward duty
    else do
      startContainer candidateId
      let again ← observeDuty duty result marker
      if candidateBack result again then goForward duty else manual duty.id

def act (result : ResultFields) (marker : Option PendingUpdateMarker)
    (observation : DockerRecoveryObservation) : Updater CoordinatorOutcome :=
  match (decideRecovery result observation).action with
  | .continueForward | .cleanupSuccess => goForward duty
  | .beginRollback | .continueRollback => goBack duty
  | .reconcileCommit => reconcileCommit duty result marker observation
  | .awaitRollbackReconciliation => finish duty.id
  | .manualRecovery => manual duty.id

/-- The record may belong to another coordinator, which is over. -/
def actAsOwner (result : UpdaterResultV2) (marker : Option PendingUpdateMarker)
    (observation : DockerRecoveryObservation) : Updater CoordinatorOutcome :=
  if result.coordinatorContainerId = duty.id then act duty result.toResultFields marker observation
  else do
    let taken ← (Prog.attempt (journalCall (takeoverV2 duty.coordinator.operationId duty.id)) :
      Updater (Except UpdaterError UpdaterResultV2))
    match taken with
    | .ok result => act duty result.toResultFields marker observation
    | .error (.snapshot text) =>
      if result.recoveryGeneration < maxRecoveryGeneration then throw (.snapshot text)
      else do
        markRecoveryExhausted duty.document result
        manual duty.id
    | .error e => throw e

def recover (result : UpdaterResultV2) (marker : Option PendingUpdateMarker) :
    Updater CoordinatorOutcome := do
  let observation ← observeDuty duty result.toResultFields marker
  if observation.coordinator.status ≠ .matched then manual duty.id
  else actAsOwner duty result marker observation

/-- A record that is not terminal. -/
def recoverOpen (result : UpdaterResultV2) : Updater CoordinatorOutcome := do
  let pending ← readPendingMarker
  match pending with
  | some (.invalid _) => manual duty.id
  | some (.marker marker) => recover duty result (some marker)
  | none => recover duty result none

def coordinate (result : Option (UpdaterResult ⊕ UpdaterResultV2)) : Updater CoordinatorOutcome :=
  match result with
  | none => goForward duty
  | some (.inl _) => manual duty.id
  | some (.inr result) =>
    if result.status = .success then goForward duty
    else if result.status ∈ updaterTerminalStatuses then finish duty.id
    else recoverOpen duty result

end Acting

/-- `_run_locked` -/
def runLocked [Verifiers] (coordinator : Coordinator) : Updater CoordinatorOutcome := do
  let document ← readHandoff coordinator.operationId
  let id ← identifyCurrentCoordinator coordinator document
  let result ← readOptionalResult coordinator.operationId
  coordinate ⟨coordinator, document, id⟩ result

end Coordinator

end MediaSync.UpdaterCoordinator
