import MediaSync.Common.FaultPrograms
import MediaSync.Appliance.UpdateHandoff

/-!
# The result journal of an update

One record per operation says how far an update has come. Every write is a
new record that replaces the old one, checked as a whole before it is stored;
a record that would be inconsistent cannot be built. The second version of the
record keeps a checkpoint within the status, on the way forward or on the way
back, and counts who took the operation over.
-/
namespace MediaSync.UpdateJournal
open PythonText UpdateHandoff
open FaultPrograms (mapError_ok)

inductive UpdaterStatus where
  | snapshotting
  | switching
  | verifying
  | commitRequested
  | rollingBack
  | success
  | failed
  | rolledBack
  | rollbackFailed
  deriving DecidableEq, Repr

inductive UpdaterCheckpoint where
  | initialized
  | oldRestartFenced
  | oldStopped
  | pendingReady
  | snapshotVerified
  | oldRenamed
  | candidateCreated
  | candidateStarted
  | candidateVerified
  | commitRequested
  | rollbackStarted
  | candidateStopped
  | candidateRemoved
  | snapshotRestored
  | candidateEvidenceRemoved
  | oldNameRestored
  | oldPolicyRestored
  | oldStarted
  | oldVerified
  | rollbackPublished
  deriving DecidableEq, Repr

def maxRecoveryGeneration : ℕ := 3

def updaterTerminalStatuses : List UpdaterStatus :=
  [.success, .failed, .rolledBack, .rollbackFailed]

def updaterTransitions : UpdaterStatus → List UpdaterStatus
  | .snapshotting => [.switching, .rollingBack, .failed]
  | .switching => [.verifying, .rollingBack]
  | .verifying => [.commitRequested, .rollingBack]
  | .commitRequested => [.success]
  | .rollingBack => [.rolledBack, .rollbackFailed]
  | .success | .failed | .rolledBack | .rollbackFailed => []

def forwardCheckpoints : List UpdaterCheckpoint :=
  [.initialized, .oldRestartFenced, .oldStopped, .pendingReady, .snapshotVerified, .oldRenamed,
    .candidateCreated, .candidateStarted, .candidateVerified, .commitRequested]

def rollbackCheckpoints : List UpdaterCheckpoint :=
  [.rollbackStarted, .candidateStopped, .candidateRemoved, .snapshotRestored,
    .candidateEvidenceRemoved, .oldNameRestored, .oldPolicyRestored, .oldStarted, .oldVerified,
    .rollbackPublished]

def statusText : UpdaterStatus → String
  | .snapshotting => "snapshotting"
  | .switching => "switching"
  | .verifying => "verifying"
  | .commitRequested => "commit_requested"
  | .rollingBack => "rolling_back"
  | .success => "success"
  | .failed => "failed"
  | .rolledBack => "rolled_back"
  | .rollbackFailed => "rollback_failed"

/-- `UpdateSnapshotError`, and what a wrong operation identifier raises. -/
inductive JournalError where
  | snapshot (text : String)
  | handoff (text : String)
  deriving DecidableEq, Repr

/-! ## Records -/

/-- A record of the first version. -/
structure UpdaterResult where
  operationId : String
  sequence : ℕ
  status : UpdaterStatus
  updatedAt : ℤ
  errorCode : Option String := none
  publicErrorMessage : Option String := none
  deriving DecidableEq, Repr

/-- The fields of a record of the second version, before they are checked. -/
structure ResultFields where
  operationId : String
  sequence : ℕ
  status : UpdaterStatus
  checkpoint : UpdaterCheckpoint
  recoveryGeneration : ℕ
  coordinatorContainerId : String
  sourceContainerId : String
  sourceImageId : String
  sourceContainerName : String
  targetImage : String
  targetRevision : String
  candidateTokenHash : Option String := none
  candidateContainerId : Option String := none
  rollbackStarted : Bool
  updatedAt : ℤ
  errorCode : Option String := none
  publicErrorMessage : Option String := none
  deriving DecidableEq, Repr

def invalidErrorCode [Alphanumerics] (code : String) : Bool :=
  code.toList.isEmpty || 100 < code.toList.length ||
    !alphanumericText (code.toList.filter (· ≠ '_'))

def tooLong (message : String) : Bool := 1000 < message.toList.length

def officialImage (image : String) : Bool :=
  (partitionAt image).any fun parts => digestPattern parts.2 && parts.1 ∈ officialRepositories

/-- The checkpoints of a status on the way forward. -/
def forwardAllowed : UpdaterStatus → List UpdaterCheckpoint
  | .snapshotting => forwardCheckpoints.take 5
  | .switching => (forwardCheckpoints.drop 5).take 3
  | .verifying => [.candidateStarted, .candidateVerified]
  | .commitRequested | .success => [.commitRequested]
  | .failed => forwardCheckpoints
  | .rollingBack | .rolledBack | .rollbackFailed => []

/-- The checkpoints of a status on the way back. -/
def rollbackAllowed : UpdaterStatus → List UpdaterCheckpoint
  | .rollingBack | .rollbackFailed => rollbackCheckpoints
  | .rolledBack => [.rollbackPublished]
  | .snapshotting | .switching | .verifying | .commitRequested | .success | .failed => []

/-- `_validate_status_checkpoint` -/
def validateStatusCheckpoint (r : ResultFields) : List Check :=
  let forward := decide (r.checkpoint ∈ forwardCheckpoints)
  let index := forwardCheckpoints.idxOf r.checkpoint
  [(forward = r.rollbackStarted, "updater v2 回滚标记与检查点不一致"),
    (r.checkpoint ∉ (if forward then forwardAllowed else rollbackAllowed) r.status,
      "updater v2 状态与检查点不一致"),
    (forward && (decide (forwardCheckpoints.idxOf .pendingReady ≤ index) !=
        r.candidateTokenHash.isSome),
      "updater v2 候选令牌哈希与检查点不一致"),
    (forward && (decide (forwardCheckpoints.idxOf .candidateCreated ≤ index) !=
        r.candidateContainerId.isSome),
      "updater v2 候选容器与检查点不一致"),
    (!forward && r.candidateTokenHash.isNone, "updater v2 回滚缺少候选令牌哈希")]

/-- `validate_invariants`, after the bounds of the sequence and the generation -/
def validateInvariants [Alphanumerics] (r : ResultFields) : Except String Unit :=
  reportFirst ([(decide (r.sequence < 1), "sequence"),
    (decide (maxRecoveryGeneration < r.recoveryGeneration), "recovery_generation"),
    (!validOperationId r.operationId, "updater v2 操作标识无效"),
    (!fullContainerId r.coordinatorContainerId || !fullContainerId r.sourceContainerId,
      "updater v2 容器标识无效"),
    (r.candidateContainerId.any fun id => !fullContainerId id, "updater v2 候选容器标识无效"),
    (!digestPattern r.sourceImageId, "updater v2 源镜像标识无效"),
    (!containerNamePattern r.sourceContainerName, "updater v2 源容器名称无效"),
    (!revisionPattern r.targetRevision, "updater v2 目标修订无效"),
    (!officialImage r.targetImage, "updater v2 目标镜像无效"),
    (r.candidateTokenHash.any fun hash => !digestPattern hash, "updater v2 候选令牌哈希无效"),
    (r.errorCode.any invalidErrorCode, "updater v2 错误代码无效"),
    (r.publicErrorMessage.any tooLong, "updater v2 公开错误信息过长")] ++
    validateStatusCheckpoint r)

/-- A record of the second version: fields that pass every check. -/
structure UpdaterResultV2 [Alphanumerics] extends ResultFields where
  valid : validateInvariants toResultFields = .ok ()

/-- What is stored for an operation. -/
inductive JournalFile [Alphanumerics] where
  | v1 (result : UpdaterResult)
  | v2 (result : UpdaterResultV2)
  | unreadable

/-- The result file of each operation. -/
abbrev Journal [Alphanumerics] := String → Option JournalFile

/-! ## The order of checkpoints -/

/-- Two checkpoints that follow each other on the way forward or on the way back. -/
def Successive (before after : UpdaterCheckpoint) : Prop :=
  ∃ order ∈ [forwardCheckpoints, rollbackCheckpoints], ∃ i : ℕ,
    order[i]? = some before ∧ order[i + 1]? = some after

/-- A checkpoint stays, moves on by one, or leaves the way forward at the start
of the way back. -/
def Moves (before after : UpdaterCheckpoint) : Prop :=
  after = before ∨ Successive before after ∨
    before ∈ forwardCheckpoints ∧ after = .rollbackStarted

theorem checkpoint_cases (checkpoint : UpdaterCheckpoint) :
    (checkpoint ∈ forwardCheckpoints ∧ checkpoint ∉ rollbackCheckpoints) ∨
      (checkpoint ∉ forwardCheckpoints ∧ checkpoint ∈ rollbackCheckpoints) := by
  cases checkpoint <;> decide

theorem not_forward_iff {checkpoint : UpdaterCheckpoint} :
    checkpoint ∉ forwardCheckpoints ↔ checkpoint ∈ rollbackCheckpoints := by
  rcases checkpoint_cases checkpoint with ⟨hf, hr⟩ | ⟨hf, hr⟩ <;> simp [hf, hr]

theorem moves_of_index {order : List UpdaterCheckpoint} {before after : UpdaterCheckpoint}
    (horder : order ∈ [forwardCheckpoints, rollbackCheckpoints]) (hbefore : before ∈ order)
    (hafter : after ∈ order) (h : order.idxOf after = order.idxOf before ∨
      order.idxOf after = order.idxOf before + 1) : Moves before after := by
  have hb := List.getElem?_idxOf hbefore
  have ha := List.getElem?_idxOf hafter
  rcases h with h | h
  · rw [h, hb] at ha
    exact .inl (Option.some.inj ha).symm
  · rw [h] at ha
    exact .inr (.inl ⟨order, horder, _, hb, ha⟩)

/-- The progress within one order of checkpoints. -/
def validateStep (checkpoints : List UpdaterCheckpoint) (current target : UpdaterCheckpoint)
    (currentStatus status : UpdaterStatus) : Except String Unit :=
  let currentIndex := checkpoints.idxOf current
  let targetIndex := checkpoints.idxOf target
  if targetIndex = currentIndex then
    if status = currentStatus then .error "updater v2 检查点没有推进" else .ok ()
  else if targetIndex ≠ currentIndex + 1 then .error "updater v2 检查点不可倒退或跳步"
  else .ok ()

/-- `_validate_checkpoint_progress` -/
def validateCheckpointProgress (current : ResultFields) (status : UpdaterStatus)
    (checkpoint : UpdaterCheckpoint) (rollbackStarted : Bool) : Except String Unit :=
  let currentRollback := decide (current.checkpoint ∈ rollbackCheckpoints)
  let targetRollback := decide (checkpoint ∈ rollbackCheckpoints)
  if rollbackStarted ≠ targetRollback then .error "updater v2 回滚检查点无效"
  else if !currentRollback && targetRollback then
    if status ≠ .rollingBack ∨ checkpoint ≠ .rollbackStarted then
      .error "updater v2 必须从回滚起点进入回滚"
    else .ok ()
  else if currentRollback ≠ targetRollback then .error "updater v2 检查点方向不可逆"
  else validateStep (if targetRollback then rollbackCheckpoints else forwardCheckpoints)
    current.checkpoint checkpoint current.status status

theorem validateStep_ok {order : List UpdaterCheckpoint} {before after : UpdaterCheckpoint}
    {currentStatus status : UpdaterStatus}
    (horder : order ∈ [forwardCheckpoints, rollbackCheckpoints]) (hbefore : before ∈ order)
    (hafter : after ∈ order) (h : validateStep order before after currentStatus status = .ok ()) :
    Moves before after ∧ (after = before → status ≠ currentStatus) := by
  unfold validateStep at h
  dsimp only at h
  split at h
  · rename_i hsame
    split at h
    · cases h
    · rename_i hstatus
      exact ⟨moves_of_index horder hbefore hafter (.inl hsame), fun _ => hstatus⟩
  · rename_i hdiffer
    split at h
    · cases h
    · rename_i hnext
      have hstep := Classical.byContradiction hnext
      refine ⟨moves_of_index horder hbefore hafter (.inr hstep), fun heq => ?_⟩
      rw [heq] at hdiffer
      exact absurd rfl hdiffer

/-- What progress is: one step in an order, and into the way back only at its
start. -/
structure Progress (current : ResultFields) (status : UpdaterStatus)
    (checkpoint : UpdaterCheckpoint) (rollbackStarted : Bool) : Prop where
  flag : rollbackStarted = decide (checkpoint ∈ rollbackCheckpoints)
  moves : Moves current.checkpoint checkpoint
  stays : current.checkpoint ∈ rollbackCheckpoints → checkpoint ∈ rollbackCheckpoints
  enters : current.checkpoint ∉ rollbackCheckpoints → checkpoint ∈ rollbackCheckpoints →
    status = .rollingBack ∧ checkpoint = .rollbackStarted
  news : checkpoint = current.checkpoint → status ≠ current.status

theorem validateCheckpointProgress_ok {current : ResultFields} {status : UpdaterStatus}
    {checkpoint : UpdaterCheckpoint} {rollbackStarted : Bool}
    (h : validateCheckpointProgress current status checkpoint rollbackStarted = .ok ()) :
    Progress current status checkpoint rollbackStarted := by
  unfold validateCheckpointProgress at h
  dsimp only at h
  split at h
  · cases h
  rename_i hflag
  have hflag' := Classical.byContradiction hflag
  by_cases hcurrent : current.checkpoint ∈ rollbackCheckpoints <;>
    by_cases htarget : checkpoint ∈ rollbackCheckpoints <;>
    simp only [hcurrent, htarget, decide_true, decide_false, Bool.not_true, Bool.not_false,
      Bool.and_true, Bool.and_false, Bool.false_eq_true, if_true, if_false, ne_eq,
      not_true_eq_false, not_false_eq_true, reduceCtorEq] at h
  · obtain ⟨hmoves, hnews⟩ := validateStep_ok (by simp) hcurrent htarget h
    exact ⟨hflag', hmoves, fun _ => htarget, fun hnot => absurd hcurrent hnot, hnews⟩
  · split at h
    · cases h
    rename_i hentry
    obtain ⟨hstatus, hstart⟩ := not_or.mp hentry
    have hcheckpoint := Classical.byContradiction hstart
    refine ⟨hflag', .inr (.inr ⟨?_, hcheckpoint⟩), fun hr => absurd hr hcurrent,
      fun _ _ => ⟨Classical.byContradiction hstatus, hcheckpoint⟩, fun heq => ?_⟩
    · exact Classical.byContradiction fun hnot => hcurrent (not_forward_iff.mp hnot)
    · rw [heq] at htarget
      exact absurd htarget hcurrent
  · have hforward (c : UpdaterCheckpoint) (hnot : c ∉ rollbackCheckpoints) :
        c ∈ forwardCheckpoints :=
      Classical.byContradiction fun hnf => hnot (not_forward_iff.mp hnf)
    obtain ⟨hmoves, hnews⟩ :=
      validateStep_ok (by simp) (hforward _ hcurrent) (hforward _ htarget) h
    exact ⟨hflag', hmoves, fun hr => absurd hr hcurrent, fun _ hr => absurd hr htarget, hnews⟩

/-! ## Operations -/

section Operations
variable [Alphanumerics]

/-- `model_validate` -/
def modelValidate (fields : ResultFields) : Except String UpdaterResultV2 :=
  match h : validateInvariants fields with
  | .ok () => .ok ⟨fields, h⟩
  | .error text => .error text

theorem modelValidate_ok {fields : ResultFields} {r : UpdaterResultV2}
    (h : modelValidate fields = .ok r) : r.toResultFields = fields := by
  unfold modelValidate at h
  split at h
  · cases h
    rfl
  · cases h

def Journal.write (journal : Journal) (operationId : String) (file : JournalFile) : Journal :=
  fun id => if id = operationId then some file else journal id

@[simp] theorem Journal.write_same (journal : Journal) (operationId : String)
    (file : JournalFile) : journal.write operationId file operationId = some file := if_pos rfl

theorem Journal.write_other (journal : Journal) {operationId id : String} (file : JournalFile)
    (h : id ≠ operationId) : journal.write operationId file id = journal id := if_neg h

/-! ## Reading and starting -/

def read (journal : Journal) (operationId : String) :
    Except JournalError (UpdaterResult ⊕ UpdaterResultV2) :=
  if !validOperationId operationId then .error (.handoff "更新操作标识无效")
  else match journal operationId with
    | none => .error (.snapshot "updater 结果日志不存在")
    | some .unreadable => .error (.snapshot "updater 结果日志无效")
    | some (.v1 result) =>
      if result.operationId ≠ operationId then .error (.snapshot "updater 结果日志操作标识不匹配")
      else .ok (.inl result)
    | some (.v2 result) =>
      if result.operationId ≠ operationId then .error (.snapshot "updater 结果日志操作标识不匹配")
      else .ok (.inr result)

/-- `_read_v2` -/
def readV2 (journal : Journal) (operationId : String) : Except JournalError UpdaterResultV2 :=
  match read journal operationId with
  | .error e => .error e
  | .ok (.inl _) => .error (.snapshot "updater v1 结果不支持 v2 写入")
  | .ok (.inr result) => .ok result

/-- What a call answers, and the journal it leaves. -/
abbrev Answer (α : Type) := Except JournalError α × Journal

def start (operationId : String) (now : ℤ) (journal : Journal) : Answer UpdaterResult :=
  if !validOperationId operationId then (.error (.handoff "更新操作标识无效"), journal)
  else if (journal operationId).isSome then (.error (.snapshot "updater 结果日志已存在"), journal)
  else
    let record : UpdaterResult := ⟨operationId, 1, .snapshotting, now, none, none⟩
    (.ok record, journal.write operationId (.v1 record))

/-- The fields of a new record. -/
def initialFields (document : HandoffDocument) (coordinatorContainerId : String) (now : ℤ) :
    ResultFields where
  operationId := document.operationId
  sequence := 1
  status := .snapshotting
  checkpoint := .initialized
  recoveryGeneration := 0
  coordinatorContainerId := coordinatorContainerId
  sourceContainerId := document.currentContainerId
  sourceImageId := document.sourceImageId
  sourceContainerName := document.candidate.name
  targetImage := document.targetImage
  targetRevision := document.targetRevision
  rollbackStarted := false
  updatedAt := now

def startV2 (document : HandoffDocument) (coordinatorContainerId : String) (now : ℤ)
    (journal : Journal) : Answer UpdaterResultV2 :=
  match validateHandoffDocument document with
  | .error text => (.error (.snapshot text), journal)
  | .ok () =>
    if (journal document.operationId).isSome then
      (.error (.snapshot "updater 结果日志已存在"), journal)
    else match modelValidate (initialFields document coordinatorContainerId now) with
      | .error _ => (.error (.snapshot "updater v2 初始结果无效"), journal)
      | .ok record => (.ok record, journal.write record.operationId (.v2 record))

/-! ## Writing -/

/-- `validate_public_error` -/
def validatePublicError (errorCode publicErrorMessage : Option String) : Except String Unit :=
  reportFirst
    [(errorCode.any invalidErrorCode, "updater 错误代码无效"),
      (publicErrorMessage.any tooLong, "updater 公开错误信息过长")]

def transitionInvalid (source target : UpdaterStatus) : String :=
  "updater 状态转换无效：" ++ statusText source ++ " -> " ++ statusText target

/-- `transition`, for records of the first version -/
def transition (operationId : String) (status : UpdaterStatus)
    (errorCode publicErrorMessage : Option String) (now : ℤ) (journal : Journal) :
    Answer UpdaterResult :=
  match read journal operationId with
  | .error e => (.error e, journal)
  | .ok (.inr _) => (.error (.snapshot "updater v2 结果必须使用检查点接口"), journal)
  | .ok (.inl current) =>
    if current.status ∈ updaterTerminalStatuses then
      (.error (.snapshot "updater 终态结果不可修改"), journal)
    else if status ∉ updaterTransitions current.status then
      (.error (.snapshot (transitionInvalid current.status status)), journal)
    else match validatePublicError errorCode publicErrorMessage with
      | .error text => (.error (.snapshot text), journal)
      | .ok () =>
        let record : UpdaterResult :=
          ⟨operationId, current.sequence + 1, status, now, errorCode, publicErrorMessage⟩
        (.ok record, journal.write operationId (.v1 record))

/-- A new record in place of the one that is read, if `next` builds one. -/
def revise (next : UpdaterResultV2 → Except JournalError UpdaterResultV2) (operationId : String)
    (journal : Journal) : Answer UpdaterResultV2 :=
  match readV2 journal operationId with
  | .error e => (.error e, journal)
  | .ok current =>
    match next current with
    | .error e => (.error e, journal)
    | .ok record => (.ok record, journal.write record.operationId (.v2 record))

def takenOver (coordinatorContainerId : String) (now : ℤ) (current : ResultFields) :
    ResultFields :=
  { current with
    sequence := current.sequence + 1
    recoveryGeneration := current.recoveryGeneration + 1
    coordinatorContainerId := coordinatorContainerId
    updatedAt := now }

/-- The record that `takeover_v2` writes. -/
def takeover (coordinatorContainerId : String) (now : ℤ) (current : UpdaterResultV2) :
    Except JournalError UpdaterResultV2 :=
  if current.status ∈ updaterTerminalStatuses then .error (.snapshot "updater 终态结果不可修改")
  else if maxRecoveryGeneration ≤ current.recoveryGeneration then
    .error (.snapshot "updater 恢复代次已达上限")
  else (modelValidate (takenOver coordinatorContainerId now current.toResultFields)).mapError
    fun _ => .snapshot "updater v2 接管身份无效"

def takeoverV2 (operationId coordinatorContainerId : String) (now : ℤ) :
    Journal → Answer UpdaterResultV2 :=
  revise (takeover coordinatorContainerId now) operationId

/-- The arguments of a checkpoint. -/
structure CheckpointRequest where
  status : UpdaterStatus
  checkpoint : UpdaterCheckpoint
  candidateTokenHash : Option String := none
  candidateContainerId : Option String := none
  rollbackStarted : Option Bool := none
  errorCode : Option String := none
  publicErrorMessage : Option String := none
  deriving DecidableEq, Repr

def advanced (request : CheckpointRequest) (now : ℤ) (current : ResultFields) : ResultFields :=
  { current with
    sequence := current.sequence + 1
    status := request.status
    checkpoint := request.checkpoint
    candidateTokenHash := request.candidateTokenHash <|> current.candidateTokenHash
    candidateContainerId := request.candidateContainerId <|> current.candidateContainerId
    rollbackStarted := request.rollbackStarted.getD current.rollbackStarted
    updatedAt := now
    errorCode := request.errorCode
    publicErrorMessage := request.publicErrorMessage }

/-- A value is there and another one is given for it. -/
def contradicts (current requested : Option String) : Bool :=
  current.isSome && requested.isSome && requested ≠ current

/-- The record that `checkpoint_v2` writes. -/
def advance (request : CheckpointRequest) (now : ℤ) (current : UpdaterResultV2) :
    Except JournalError UpdaterResultV2 :=
  if current.status ∈ updaterTerminalStatuses then .error (.snapshot "updater 终态结果不可修改")
  else if request.status ≠ current.status ∧
      request.status ∉ updaterTransitions current.status then
    .error (.snapshot (transitionInvalid current.status request.status))
  else if contradicts current.candidateTokenHash request.candidateTokenHash then
    .error (.snapshot "updater v2 候选令牌哈希不可修改")
  else if contradicts current.candidateContainerId request.candidateContainerId then
    .error (.snapshot "updater v2 候选容器标识不可修改")
  else match validateCheckpointProgress current.toResultFields request.status request.checkpoint
      (request.rollbackStarted.getD current.rollbackStarted) with
    | .error text => .error (.snapshot text)
    | .ok () =>
      match validatePublicError request.errorCode request.publicErrorMessage with
      | .error text => .error (.snapshot text)
      | .ok () => (modelValidate (advanced request now current.toResultFields)).mapError
          fun _ => .snapshot "updater v2 检查点无效"

def checkpointV2 (operationId : String) (request : CheckpointRequest) (now : ℤ) :
    Journal → Answer UpdaterResultV2 :=
  revise (advance request now) operationId

/-! ## What an accepted write does -/

variable {journal journal' : Journal} {operationId coordinator : String} {now : ℤ}
  {current record : UpdaterResultV2}

theorem read_ok {result : UpdaterResult ⊕ UpdaterResultV2}
    (h : read journal operationId = .ok result) :
    match result with
    | .inl r => journal operationId = some (.v1 r)
    | .inr r => journal operationId = some (.v2 r) ∧ r.operationId = operationId := by
  unfold read at h
  split at h
  · cases h
  · split at h
    · cases h
    · cases h
    · rename_i r hfile
      split at h
      · cases h
      · cases h
        exact hfile
    · rename_i r hfile
      split at h
      · cases h
      · rename_i hsame
        cases h
        exact ⟨hfile, Classical.byContradiction hsame⟩

theorem readV2_ok (h : readV2 journal operationId = .ok record) :
    journal operationId = some (.v2 record) ∧ record.operationId = operationId := by
  unfold readV2 at h
  split at h
  · cases h
  · cases h
  · rename_i result hread
    cases h
    exact read_ok hread

theorem revise_ok {next : UpdaterResultV2 → Except JournalError UpdaterResultV2}
    (h : revise next operationId journal = (.ok record, journal')) :
    ∃ current, readV2 journal operationId = .ok current ∧ next current = .ok record ∧
      journal' = journal.write record.operationId (.v2 record) := by
  unfold revise at h
  split at h
  · cases h
  · rename_i current hread
    split at h
    · cases h
    · rename_i next' hnext
      cases h
      exact ⟨current, hread, hnext, rfl⟩

theorem revise_error {next : UpdaterResultV2 → Except JournalError UpdaterResultV2}
    {e : JournalError} (h : revise next operationId journal = (.error e, journal')) :
    journal' = journal := by
  unfold revise at h
  split at h
  · cases h
    rfl
  · split at h
    · cases h
      rfl
    · cases h

theorem takeover_ok (h : takeover coordinator now current = .ok record) :
    current.status ∉ updaterTerminalStatuses ∧
      current.recoveryGeneration < maxRecoveryGeneration ∧
      record.toResultFields = takenOver coordinator now current.toResultFields := by
  unfold takeover at h
  split at h
  · cases h
  · rename_i hopen
    split at h
    · cases h
    · rename_i hgeneration
      exact ⟨hopen, Nat.lt_of_not_le hgeneration, modelValidate_ok (mapError_ok h)⟩

/-- What an accepted checkpoint says about its request. -/
structure Accepted (request : CheckpointRequest) (current : ResultFields) : Prop where
  open_ : current.status ∉ updaterTerminalStatuses
  status : request.status = current.status ∨ request.status ∈ updaterTransitions current.status
  token : contradicts current.candidateTokenHash request.candidateTokenHash = false
  candidate : contradicts current.candidateContainerId request.candidateContainerId = false
  progress : validateCheckpointProgress current request.status request.checkpoint
    (request.rollbackStarted.getD current.rollbackStarted) = .ok ()

theorem advance_ok {request : CheckpointRequest} (h : advance request now current = .ok record) :
    Accepted request current.toResultFields ∧
      record.toResultFields = advanced request now current.toResultFields := by
  unfold advance at h
  split at h
  · cases h
  · rename_i hopen
    split at h
    · cases h
    · rename_i hstatus
      split at h
      · cases h
      · rename_i htoken
        split at h
        · cases h
        · rename_i hcandidate
          split at h
          · cases h
          · rename_i hprogress
            split at h
            · cases h
            · have hstatus' : request.status = current.status ∨
                  request.status ∈ updaterTransitions current.status := by
                by_cases hsame : request.status = current.status
                · exact .inl hsame
                · exact .inr (Classical.byContradiction fun hnot => hstatus ⟨hsame, hnot⟩)
              exact ⟨⟨hopen, hstatus', Bool.eq_false_iff.mpr htoken,
                Bool.eq_false_iff.mpr hcandidate, hprogress⟩, modelValidate_ok (mapError_ok h)⟩

end Operations

end MediaSync.UpdateJournal
