import MediaSync.Appliance.UpdateJournal

/-!
# What any sequence of journal calls keeps

Every record that is ever stored is consistent, and every accepted call moves
the record of its operation by one step of the order of checkpoints. What
identifies the operation never changes, what identifies the candidate changes
only from unknown to known, the owner changes only by a takeover, and a
terminal record stays.
-/
namespace MediaSync.JournalHistory
open PythonText UpdateHandoff UpdateJournal

/-! ## Records -/

/-- The checkpoints that go with a status. -/
def checkpointsOf : UpdaterStatus → List UpdaterCheckpoint
  | .snapshotting => [.initialized, .oldRestartFenced, .oldStopped, .pendingReady,
    .snapshotVerified]
  | .switching => [.oldRenamed, .candidateCreated, .candidateStarted]
  | .verifying => [.candidateStarted, .candidateVerified]
  | .commitRequested | .success => [.commitRequested]
  | .failed => forwardCheckpoints
  | .rollingBack | .rollbackFailed => rollbackCheckpoints
  | .rolledBack => [.rollbackPublished]

/-- The checkpoints from which the candidate token is known. -/
def tokenKnown (c : UpdaterCheckpoint) : Bool :=
  c ∉ [.initialized, .oldRestartFenced, .oldStopped]

/-- The checkpoints on the way forward from which the candidate is known. -/
def candidateKnown (c : UpdaterCheckpoint) : Bool :=
  c ∈ [.candidateCreated, .candidateStarted, .candidateVerified, .commitRequested]

structure Consistent (r : ResultFields) : Prop where
  sequence : 1 ≤ r.sequence
  generation : r.recoveryGeneration ≤ 3
  rollback : r.rollbackStarted = true ↔ r.checkpoint ∈ rollbackCheckpoints
  placed : r.checkpoint ∈ checkpointsOf r.status
  token : r.candidateTokenHash.isSome = tokenKnown r.checkpoint
  candidate : r.checkpoint ∈ forwardCheckpoints →
    r.candidateContainerId.isSome = candidateKnown r.checkpoint

theorem placed_iff {status : UpdaterStatus} {c : UpdaterCheckpoint} :
    c ∈ (if c ∈ forwardCheckpoints then forwardAllowed else rollbackAllowed) status ↔
      c ∈ checkpointsOf status := by
  cases status <;> cases c <;> decide

theorem tokenKnown_forward {c : UpdaterCheckpoint} (h : c ∈ forwardCheckpoints) :
    decide (forwardCheckpoints.idxOf .pendingReady ≤ forwardCheckpoints.idxOf c) =
      tokenKnown c := by
  revert h
  cases c <;> decide

theorem candidateKnown_forward {c : UpdaterCheckpoint} (h : c ∈ forwardCheckpoints) :
    decide (forwardCheckpoints.idxOf .candidateCreated ≤ forwardCheckpoints.idxOf c) =
      candidateKnown c := by
  revert h
  cases c <;> decide

theorem tokenKnown_rollback {c : UpdaterCheckpoint} (h : c ∈ rollbackCheckpoints) :
    tokenKnown c = true := by
  revert h
  cases c <;> decide

theorem contradicts_keeps {stored requested : Option String} {value : String}
    (h : contradicts stored requested = false) (hstored : stored = some value) :
    (requested <|> stored) = some value := by
  subst hstored
  cases requested with
  | none => rfl
  | some other =>
    simp only [contradicts, Option.isSome_some, Bool.true_and, decide_eq_false_iff_not,
      Decidable.not_not, ne_eq] at h
    exact h

section Records
variable [Alphanumerics]

theorem consistent (r : UpdaterResultV2) : Consistent r.toResultFields := by
  have h := reportFirst_ok.mp r.valid
  simp only [validateStatusCheckpoint, List.forall_mem_append, List.forall_mem_cons,
    List.not_mem_nil, false_imp_iff, implies_true, and_true] at h
  obtain ⟨⟨hsequence, hgeneration, _⟩, hflag, hplaced, htoken, hcandidate, hhash⟩ := h
  have hgeneration' := of_decide_eq_false hgeneration
  have hsequence' := of_decide_eq_false hsequence
  unfold maxRecoveryGeneration at hgeneration'
  by_cases hf : r.checkpoint ∈ forwardCheckpoints
  · have hr : r.checkpoint ∉ rollbackCheckpoints := fun hr => not_forward_iff.mpr hr hf
    simp only [hf, decide_true, Bool.true_and, if_true] at hflag hplaced htoken hcandidate
    rw [tokenKnown_forward hf] at htoken
    rw [candidateKnown_forward hf] at hcandidate
    refine ⟨by omega, by omega, ?_, ?_, ?_, fun _ => ?_⟩
    · have hnot := of_decide_eq_false hflag
      exact ⟨fun htrue => absurd htrue.symm hnot, fun hin => absurd hin hr⟩
    · rw [← placed_iff, if_pos hf]
      exact Classical.byContradiction (of_decide_eq_false hplaced)
    · exact (bne_eq_false_iff_eq.mp htoken).symm
    · exact (bne_eq_false_iff_eq.mp hcandidate).symm
  · have hr := not_forward_iff.mp hf
    simp only [hf, decide_false, Bool.not_false, Bool.true_and, Bool.false_eq_true, if_false]
      at hflag hplaced hhash
    refine ⟨by omega, by omega, ?_, ?_, ?_, fun hin => absurd hin hf⟩
    · have hnot := of_decide_eq_false hflag
      exact ⟨fun _ => hr, fun _ => eq_true_of_ne_false fun hfalse => hnot hfalse.symm⟩
    · rw [← placed_iff, if_neg hf]
      exact Classical.byContradiction (of_decide_eq_false hplaced)
    · rw [tokenKnown_rollback hr]
      cases hhave : r.candidateTokenHash with
      | none => simp [hhave] at hhash
      | some hash => rfl

/-- What identifies an operation. -/
structure SameOperation (before after : ResultFields) : Prop where
  operationId : after.operationId = before.operationId
  sourceContainerId : after.sourceContainerId = before.sourceContainerId
  sourceImageId : after.sourceImageId = before.sourceImageId
  sourceContainerName : after.sourceContainerName = before.sourceContainerName
  targetImage : after.targetImage = before.targetImage
  targetRevision : after.targetRevision = before.targetRevision

/-- One accepted write. -/
structure Continues (before after : ResultFields) : Prop where
  open_ : before.status ∉ updaterTerminalStatuses
  sequence : after.sequence = before.sequence + 1
  status : after.status = before.status ∨ after.status ∈ updaterTransitions before.status
  moves : Moves before.checkpoint after.checkpoint
  stays : before.checkpoint ∈ rollbackCheckpoints → after.checkpoint ∈ rollbackCheckpoints
  token (hash : String) : before.candidateTokenHash = some hash →
    after.candidateTokenHash = some hash
  candidate (id : String) : before.candidateContainerId = some id →
    after.candidateContainerId = some id
  operation : SameOperation before after

/-- The owner of an operation and how often it was taken over. -/
def owner (r : ResultFields) : String × ℕ := (r.coordinatorContainerId, r.recoveryGeneration)

variable {current record : UpdaterResultV2} {coordinator : String} {now : ℤ}
  {request : CheckpointRequest}

theorem takeover_continues (h : takeover coordinator now current = .ok record) :
    Continues current.toResultFields record.toResultFields ∧
      owner record.toResultFields = (coordinator, current.recoveryGeneration + 1) := by
  obtain ⟨hopen, _, hrecord⟩ := takeover_ok h
  rw [hrecord]
  exact ⟨⟨hopen, rfl, .inl rfl, .inl rfl, fun h => h, fun _ h => h, fun _ h => h,
    ⟨rfl, rfl, rfl, rfl, rfl, rfl⟩⟩, rfl⟩

theorem advance_continues (h : advance request now current = .ok record) :
    Continues current.toResultFields record.toResultFields ∧
      owner record.toResultFields = owner current.toResultFields := by
  obtain ⟨haccepted, hrecord⟩ := advance_ok h
  have hprogress := validateCheckpointProgress_ok haccepted.progress
  rw [hrecord]
  exact ⟨⟨haccepted.open_, rfl, haccepted.status, hprogress.moves, hprogress.stays,
    fun _ => contradicts_keeps haccepted.token, fun _ => contradicts_keeps haccepted.candidate,
    ⟨rfl, rfl, rfl, rfl, rfl, rfl⟩⟩, rfl⟩

end Records

/-! ## Calls -/

/-- The calls of a journal, with all their arguments. -/
inductive Call where
  | start (operationId : String)
  | startV2 (document : HandoffDocument) (coordinatorContainerId : String)
  | transition (operationId : String) (status : UpdaterStatus)
    (errorCode publicErrorMessage : Option String)
  | takeoverV2 (operationId coordinatorContainerId : String)
  | checkpointV2 (operationId : String) (request : CheckpointRequest)

def Call.operationId : Call → String
  | .start id => id
  | .startV2 document _ => document.operationId
  | .transition id _ _ _ => id
  | .takeoverV2 id _ => id
  | .checkpointV2 id _ => id

section Calls
variable [Alphanumerics]

/-- Whether a call is accepted, and the journal it leaves. -/
def Call.apply (call : Call) (now : ℤ) (journal : Journal) : Answer Unit :=
  match call with
  | .start id => (UpdateJournal.start id now journal).map (·.map fun _ => ()) fun j => j
  | .startV2 document coordinator =>
    (UpdateJournal.startV2 document coordinator now journal).map (·.map fun _ => ()) fun j => j
  | .transition id status code message =>
    (UpdateJournal.transition id status code message now journal).map (·.map fun _ => ())
      fun j => j
  | .takeoverV2 id coordinator =>
    (UpdateJournal.takeoverV2 id coordinator now journal).map (·.map fun _ => ()) fun j => j
  | .checkpointV2 id request =>
    (UpdateJournal.checkpointV2 id request now journal).map (·.map fun _ => ()) fun j => j

def runAll (calls : List (Call × ℤ)) (journal : Journal) : Journal :=
  calls.foldl (fun journal call => (call.1.apply call.2 journal).2) journal

/-- No operation has a record yet. -/
def Journal.empty : Journal := fun _ => none

/-- The sequence number an operation has reached. -/
def sequenceOf (journal : Journal) (operationId : String) : ℕ :=
  match journal operationId with
  | some (.v1 result) => result.sequence
  | some (.v2 result) => result.sequence
  | some .unreadable | none => 0

/-- What an accepted call does to the owner of a record. -/
def Owned (call : Call) (before after : ResultFields) : Prop :=
  match call with
  | .takeoverV2 _ coordinator => owner after = (coordinator, before.recoveryGeneration + 1)
  | _ => owner after = owner before

/-- What one call does to the journal. -/
structure Keeps (call : Call) (before : Journal) (answer : Answer Unit) : Prop where
  rejected (e : JournalError) : answer.1 = .error e → answer.2 = before
  others (id : String) : id ≠ call.operationId → answer.2 id = before id
  sequence : answer.1 = .ok () →
    sequenceOf answer.2 call.operationId = sequenceOf before call.operationId + 1
  record (r : UpdaterResultV2) : answer.1 = .ok () → before call.operationId = some (.v2 r) →
    ∃ r', answer.2 call.operationId = some (.v2 r') ∧
      Continues r.toResultFields r'.toResultFields ∧
        Owned call r.toResultFields r'.toResultFields

theorem map_error {α : Type} {answer : Answer α} {e : JournalError}
    (h : (answer.map (·.map fun _ => ()) fun j => j).1 = .error e) :
    answer.1 = .error e := by
  obtain ⟨result, journal⟩ := answer
  cases result with
  | error e' =>
    cases h
    rfl
  | ok a => cases h

theorem map_ok {α : Type} {answer : Answer α}
    (h : (answer.map (·.map fun _ => ()) fun j => j).1 = .ok ()) :
    ∃ a, answer.1 = .ok a := by
  obtain ⟨result, journal⟩ := answer
  cases result with
  | error e => cases h
  | ok a => exact ⟨a, rfl⟩

variable {journal : Journal} {now : ℤ} {id : String} {call : Call}

/-- A revision whose records continue the one they replace. -/
theorem revise_keeps {next : UpdaterResultV2 → Except JournalError UpdaterResultV2}
    (hid : call.operationId = id)
    (hnext : ∀ current record, next current = .ok record →
      Continues current.toResultFields record.toResultFields ∧
        Owned call current.toResultFields record.toResultFields) :
    Keeps call journal ((revise next id journal).map (·.map fun _ => ()) fun j => j) := by
  have hwritten (record : UpdaterResultV2) (h : (revise next id journal).1 = .ok record) :
      ∃ current, journal id = some (.v2 current) ∧
        Continues current.toResultFields record.toResultFields ∧
        Owned call current.toResultFields record.toResultFields ∧
        (revise next id journal).2 = journal.write id (.v2 record) := by
    obtain ⟨current, hread, hrecord, hjournal⟩ := revise_ok (Prod.ext h rfl)
    obtain ⟨hstored, hsame⟩ := readV2_ok hread
    obtain ⟨hcontinues, howned⟩ := hnext current record hrecord
    rw [hcontinues.operation.operationId, hsame] at hjournal
    exact ⟨current, hstored, hcontinues, howned, hjournal⟩
  subst hid
  refine ⟨fun e h => revise_error (Prod.ext (map_error h) rfl), fun other hother => ?_,
    fun h => ?_, fun r h hr => ?_⟩
  · rcases hresult : (revise next call.operationId journal).1 with e | record
    · exact congrFun (revise_error (Prod.ext hresult rfl)) other
    · obtain ⟨_, _, _, _, hjournal⟩ := hwritten record hresult
      change (revise next call.operationId journal).2 other = _
      rw [hjournal]
      exact journal.write_other _ hother
  · obtain ⟨record, hrecord⟩ := map_ok h
    obtain ⟨current, hstored, hcontinues, _, hjournal⟩ := hwritten record hrecord
    change sequenceOf (revise next call.operationId journal).2 _ = _
    rw [hjournal]
    unfold sequenceOf
    rw [Journal.write_same, hstored]
    exact hcontinues.sequence
  · obtain ⟨record, hrecord⟩ := map_ok h
    obtain ⟨current, hstored, hcontinues, howned, hjournal⟩ := hwritten record hrecord
    rw [hstored] at hr
    cases hr
    refine ⟨record, ?_, hcontinues, howned⟩
    change (revise next call.operationId journal).2 _ = _
    rw [hjournal]
    exact journal.write_same _ _

/-- Either nothing changes, or a file is stored for an operation that has no
record of the second version. -/
def Stores {α : Type} (id : String) (journal : Journal) (answer : Answer α) : Prop :=
  (∃ e, answer = (.error e, journal)) ∨ ∃ a file, answer = (.ok a, journal.write id file) ∧
    (∀ r, journal id ≠ some (.v2 r)) ∧
      sequenceOf (journal.write id file) id = sequenceOf journal id + 1

theorem stores_keeps {α : Type} {answer : Answer α} (hid : call.operationId = id)
    (h : Stores id journal answer) :
    Keeps call journal (answer.map (·.map fun _ => ()) fun j => j) := by
  subst hid
  rcases h with ⟨e, rfl⟩ | ⟨a, file, rfl, hnone, hsequence⟩
  · exact ⟨fun _ _ => rfl, fun _ _ => rfl, fun h => (by cases h), fun _ h => (by cases h)⟩
  · exact ⟨fun _ h => (by cases h), fun other hother => journal.write_other _ hother,
      fun _ => hsequence, fun r _ hr => absurd hr (hnone r)⟩

theorem start_stores : Stores id journal (UpdateJournal.start id now journal) := by
  unfold UpdateJournal.start
  split
  · exact .inl ⟨_, rfl⟩
  · split
    · exact .inl ⟨_, rfl⟩
    · rename_i habsent
      have hnone : journal id = none := by simpa using habsent
      refine .inr ⟨_, _, rfl, fun r hr => ?_, ?_⟩
      · rw [hnone] at hr
        cases hr
      · unfold sequenceOf
        rw [Journal.write_same, hnone]

theorem startV2_stores {document : HandoffDocument} {coordinator : String} :
    Stores document.operationId journal
      (UpdateJournal.startV2 document coordinator now journal) := by
  unfold UpdateJournal.startV2
  split
  · exact .inl ⟨_, rfl⟩
  · split
    · exact .inl ⟨_, rfl⟩
    · rename_i habsent
      have hnone : journal document.operationId = none := by simpa using habsent
      split
      · exact .inl ⟨_, rfl⟩
      · rename_i record hrecord
        have hfields := modelValidate_ok hrecord
        have hid : record.operationId = document.operationId := by
          rw [hfields]
          rfl
        refine .inr ⟨_, .v2 record, by rw [hid], fun r hr => ?_, ?_⟩
        · rw [hnone] at hr
          cases hr
        · unfold sequenceOf
          rw [Journal.write_same, hnone]
          simp only [hfields]
          rfl

theorem transition_stores {status : UpdaterStatus} {code message : Option String} :
    Stores id journal (UpdateJournal.transition id status code message now journal) := by
  unfold UpdateJournal.transition
  split
  · exact .inl ⟨_, rfl⟩
  · exact .inl ⟨_, rfl⟩
  · rename_i current hread
    split
    · exact .inl ⟨_, rfl⟩
    · split
      · exact .inl ⟨_, rfl⟩
      · split
        · exact .inl ⟨_, rfl⟩
        · have hstored : journal id = some (.v1 current) := read_ok hread
          refine .inr ⟨_, _, rfl, fun r hr => ?_, ?_⟩
          · rw [hstored] at hr
            cases hr
          · unfold sequenceOf
            rw [Journal.write_same, hstored]

/-- Every call, with any arguments, from any journal. -/
theorem call_keeps (call : Call) (now : ℤ) (journal : Journal) :
    Keeps call journal (call.apply now journal) := by
  cases call with
  | start id => exact stores_keeps rfl start_stores
  | startV2 document coordinator => exact stores_keeps rfl startV2_stores
  | transition id status code message => exact stores_keeps rfl transition_stores
  | takeoverV2 id coordinator =>
    exact revise_keeps rfl fun _ _ h => takeover_continues h
  | checkpointV2 id request =>
    exact revise_keeps rfl fun _ _ h => advance_continues h

end Calls

end MediaSync.JournalHistory
