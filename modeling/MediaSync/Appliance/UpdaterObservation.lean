import MediaSync.Appliance.UpdaterWorld

/-!
# Who is who in an update

An updater recognises the containers of its operation by what the engine tells
about them: the old container, the candidate and the updater itself. From what
it finds and from the result of the operation follows what to do next.
-/
namespace MediaSync.UpdaterObservation
open FaultPrograms PythonText UpdateHandoff UpdateJournal UpdaterWorld

inductive IdentityStatus where
  | missing
  | matched
  | conflict
  deriving DecidableEq, Repr

structure ContainerIdentityObservation where
  status : IdentityStatus
  containerId : Option String := none
  running : Option Bool := none
  reasonCode : Option String := none
  deriving DecidableEq, Repr

structure DockerRecoveryObservation where
  source : ContainerIdentityObservation
  candidate : ContainerIdentityObservation
  coordinator : ContainerIdentityObservation
  deriving DecidableEq, Repr

/-- `_matched` -/
def matchedIdentity (container : Container) : ContainerIdentityObservation :=
  ⟨.matched, some container.id, some container.running, none⟩

def missingIdentity (reason : String) : ContainerIdentityObservation :=
  ⟨.missing, none, none, some reason⟩

def conflictingIdentity (reason : String) : ContainerIdentityObservation :=
  ⟨.conflict, none, none, some reason⟩

/-! ## Identities -/

def previousContainerName (operationId : String) : String :=
  "mediasync-previous-" ++ String.ofList (operationId.toList.takeWhile (· ≠ '-'))

/-- `_mount_source` -/
def mountSource (mount : ContainerMount) (type : MountType) : String :=
  if type = .volume then mount.name else mount.source

/-- The data directory of the container is the one of the document. -/
def mountMatches (container : Container) (document : HandoffDocument) : Bool :=
  match document.dataMount, container.mounts.filter fun mount => mount.destination = "/data" with
  | some expected, [actual] =>
    actual.type = mountType expected.type && mountSource actual expected.type = expected.source &&
      actual.rw = !expected.readOnly
  | _, _ => false

/-- The names the old container may have at a checkpoint. -/
def expectedNames (result : ResultFields) : List String :=
  if result.checkpoint ∈ [.oldRenamed, .candidateCreated, .candidateStarted, .candidateVerified,
      .commitRequested] then [previousContainerName result.operationId]
  else if result.checkpoint ∈ rollbackCheckpoints ∧ rollbackCheckpoints.idxOf result.checkpoint <
      rollbackCheckpoints.idxOf .oldNameRestored then
    [result.sourceContainerName, previousContainerName result.operationId]
  else [result.sourceContainerName]

def sourceIdentityMatches (container : Container) (document : HandoffDocument)
    (result : ResultFields) : Bool :=
  container.id = document.currentContainerId &&
    document.currentContainerId = result.sourceContainerId &&
    container.image = document.sourceImageId && document.sourceImageId = result.sourceImageId &&
    document.candidate.name = result.sourceContainerName &&
    container.name ∈ expectedNames result && mountMatches container document

def normalizeCapability (value : String) : List Char :=
  let upper := value.toList.map Char.toUpper
  (afterLiteral "CAP_" upper).getD upper

def capabilityListMatches (actual expected : List String) : Bool :=
  actual.map normalizeCapability = expected.map normalizeCapability

/-- `updater_isolation_matches` -/
def updaterIsolationMatches (container : Container) : Bool :=
  capabilityListMatches container.capDrop ["ALL"] &&
    capabilityListMatches container.capAdd ["CAP_DAC_OVERRIDE"] &&
    container.securityOpt ∈ [["no-new-privileges:true"], ["no-new-privileges"],
      ["no-new-privileges=true"]]

/-- The mounts are the data directory and the engine's socket, and no others. -/
def targetsMatch (container : Container) (socketPath : String) : Bool :=
  (container.mounts.all fun mount => mount.destination ∈ ["/data", socketPath]) &&
    (["/data", socketPath].all fun target =>
      container.mounts.any fun mount => mount.destination = target)

/-- `_valid_coordinator` -/
def validCoordinator (container : Container) (document : HandoffDocument) (result : ResultFields)
    (socketPath : String) : Bool :=
  container.cmd = updaterCommand && container.configImage = result.targetImage &&
    result.targetImage = document.targetImage && container.networkMode = "none" &&
    container.readonlyRootfs && updaterIsolationMatches container &&
    targetsMatch container socketPath && mountMatches container document

section Observing
variable [Tools]

def tokenHash (token : String) : String := "sha256:" ++ Tools.sha256Text token

/-- `_valid_candidate` -/
def validCandidate (container : Container) (document : HandoffDocument) (result : ResultFields)
    (marker : Option PendingUpdateMarker) : Bool :=
  match container.environment "MEDIASYNC_CANDIDATE_TOKEN" with
  | none => false
  | some token =>
    (marker.all fun m => m.operationId = result.operationId && m.candidateToken = token) &&
      result.candidateTokenHash = some (tokenHash token) &&
      container.name = result.sourceContainerName && container.configImage = result.targetImage &&
      result.targetImage = document.targetImage && container.cmd = applianceCommand &&
      mountMatches container document

/-! ## Observations -/

def observeSource (containers : List Container) (document : HandoffDocument)
    (result : ResultFields) : ContainerIdentityObservation :=
  match containers.filter fun container => container.id = result.sourceContainerId with
  | [] => missingIdentity "source_missing"
  | [container] =>
    if sourceIdentityMatches container document result then matchedIdentity container
    else conflictingIdentity "source_identity_conflict"
  | _ => conflictingIdentity "source_identity_conflict"

def observeCandidate (containers : List Container) (document : HandoffDocument)
    (result : ResultFields) (marker : Option PendingUpdateMarker) :
    ContainerIdentityObservation :=
  let labeled := containers.filter fun container => container.isCandidate result.operationId
  let selected : List Container ⊕ ContainerIdentityObservation :=
    match result.candidateContainerId with
    | none => .inl labeled
    | some id =>
      match containers.filter fun container => container.id = id with
      | [] =>
        if labeled = [] then .inr (missingIdentity "candidate_missing")
        else .inr (conflictingIdentity "candidate_identity_conflict")
      | [container] =>
        if container ∈ labeled then .inl [container]
        else .inr (conflictingIdentity "candidate_identity_conflict")
      | _ => .inr (conflictingIdentity "candidate_identity_conflict")
  match selected with
  | .inr observation => observation
  | .inl [] => missingIdentity "candidate_not_created"
  | .inl (candidate :: others) =>
    if others ≠ [] ∨ labeled.length ≠ 1 then conflictingIdentity "candidate_not_unique"
    else if !validCandidate candidate document result marker then
      conflictingIdentity "candidate_identity_conflict"
    else matchedIdentity candidate

/-- `_observe_coordinator`; the host name is the beginning of an identifier. -/
def observeCoordinator (containers : List Container) (document : HandoffDocument)
    (result : ResultFields) (hostname socketPath : String) : ContainerIdentityObservation :=
  if !containerIdPattern hostname then conflictingIdentity "coordinator_hostname_invalid"
  else
    let ours := containers.filter fun container => container.hasOperation result.operationId
    match ours.filter fun container => hostname.toList.isPrefixOf container.id.toList with
    | [coordinator] =>
      if coordinator.label updateRoleLabel ≠ some updaterRole ∨
          !validCoordinator coordinator document result socketPath then
        conflictingIdentity "coordinator_identity_conflict"
      else matchedIdentity coordinator
    | [] =>
      if ours = [] then missingIdentity "coordinator_not_unique"
      else conflictingIdentity "coordinator_not_unique"
    | _ => conflictingIdentity "coordinator_not_unique"

/-- The containers that are looked at: the two that the result names, and all
that carry the operation's label. -/
def relevantIds (containers : List Container) (result : ResultFields) : List String :=
  ((containers.filter fun container => fullContainerId container.id &&
      (container.id = result.sourceContainerId ||
        some container.id = result.candidateContainerId ||
        container.hasOperation result.operationId)).map Container.id).insertionSort (· ≤ ·)

def inspectAll : List String → Updater (List Container)
  | [] => pure []
  | id :: ids => do
    let container ← Prog.look (.observation "无法读取更新关联容器信息") fun w =>
      match w.container id with
      | none => .error (.observation "无法读取更新关联容器信息")
      | some container => .ok container
    let containers ← inspectAll ids
    pure (container :: containers)

/-- `UpdaterDockerIdentityService.observe` -/
def observe (socketPath : String) (document : HandoffDocument) (result : ResultFields)
    (marker : Option PendingUpdateMarker) (hostname : String) :
    Updater DockerRecoveryObservation := do
  if document.operationId ≠ result.operationId then
    throw (.observation "恢复文档与结果操作标识不匹配")
  else do
    let summaries ← Prog.look (.observation "无法读取 Docker 容器列表") fun w => .ok w.containers
    let containers ← inspectAll (relevantIds summaries result)
    pure ⟨observeSource containers document result,
      observeCandidate containers document result marker,
      observeCoordinator containers document result hostname socketPath⟩

end Observing

/-! ## Decisions -/

inductive RecoveryAction where
  | continueForward
  | beginRollback
  | continueRollback
  | reconcileCommit
  | cleanupSuccess
  | awaitRollbackReconciliation
  | manualRecovery
  deriving DecidableEq, Repr

structure RecoveryDecision where
  action : RecoveryAction
  automatic : Bool
  reasonCode : String
  deriving DecidableEq, Repr

/-- `_manual` -/
def manualDecision (reason : String) : RecoveryDecision := ⟨.manualRecovery, false, reason⟩

/-- `decide_recovery`, for a result of the second version -/
def decideRecovery (result : ResultFields) (observation : DockerRecoveryObservation) :
    RecoveryDecision :=
  if observation.coordinator.status ≠ .matched then
    manualDecision (observation.coordinator.reasonCode.getD "coordinator_unresolved")
  else if observation.source.status = .conflict then
    manualDecision (observation.source.reasonCode.getD "container_identity_conflict")
  else if observation.candidate.status = .conflict then
    manualDecision (observation.candidate.reasonCode.getD "container_identity_conflict")
  else match result.status with
    | .failed => manualDecision "terminal_failed"
    | .rollbackFailed => manualDecision "terminal_rollback_failed"
    | .success => ⟨.cleanupSuccess, true, "success_cleanup"⟩
    | .rolledBack => ⟨.awaitRollbackReconciliation, true, "rolled_back_waiting_for_appliance"⟩
    | .commitRequested =>
      if observation.candidate.status ≠ .matched then manualDecision "commit_candidate_unresolved"
      else ⟨.reconcileCommit, true, "commit_requires_database_reconciliation"⟩
    | .rollingBack =>
      if observation.source.status ≠ .matched then manualDecision "source_container_unresolved"
      else ⟨.continueRollback, true, "rollback_checkpoint_recovery"⟩
    | .switching | .verifying =>
      if observation.source.status ≠ .matched then manualDecision "source_container_unresolved"
      else ⟨.beginRollback, true, "forward_switch_interrupted"⟩
    | .snapshotting =>
      if observation.source.status ≠ .matched then manualDecision "source_container_unresolved"
      else if observation.source.running = some true then
        ⟨.continueForward, true, "source_still_running"⟩
      else ⟨.beginRollback, true, "source_stopped_before_commit"⟩

end MediaSync.UpdaterObservation
