import MediaSync.Appliance.JournalBranches
import MediaSync.Appliance.UpdaterGuards

/-!
# A commit is final

Once the record of an operation says that the commit was requested, every
entry point of the updater either goes on towards success, asks for help, or
refuses: no call of the journal leads back, the rollback stops before its
first effect, and the only container that is ever started is the candidate.
-/
namespace MediaSync.CommitFinality
open FaultPrograms GuardedPrograms PythonText UpdateHandoff UpdateJournal JournalHistory
open UpdaterWorld UpdaterObservation UpdateSnapshot UpdaterForward UpdaterRollback
open UpdaterCoordinator UpdaterEffects UpdaterRuns UpdaterGuards

/-! ## The journal -/

/-- The statuses from which nothing turns back. -/
def finalStatuses : List UpdaterStatus := [.commitRequested, .success]

theorem final_next {status next : UpdaterStatus} (h : status ∈ finalStatuses)
    (hnext : next = status ∨ next ∈ updaterTransitions status) : next ∈ finalStatuses := by
  rcases hnext with rfl | hnext
  · exact h
  · revert h hnext
    cases status <;> cases next <;> decide

section Journal
variable [Alphanumerics]

def committedFile : JournalFile → Bool
  | .v1 result => result.status ∈ finalStatuses
  | .v2 result => result.status ∈ finalStatuses
  | .unreadable => false

/-- The operation has a record, and its status is final. -/
def CommittedIn (journal : Journal) (operationId : String) : Prop :=
  ∃ file, journal operationId = some file ∧ committedFile file = true

variable {journal : Journal} {id : String}

theorem start_committed {now : ℤ} (operationId : String) (h : CommittedIn journal id) :
    CommittedIn (UpdateJournal.start operationId now journal).2 id := by
  obtain ⟨file, hfile, hcommitted⟩ := h
  unfold UpdateJournal.start
  split
  · exact ⟨file, hfile, hcommitted⟩
  · split
    · exact ⟨file, hfile, hcommitted⟩
    · rename_i habsent
      refine ⟨file, ?_, hcommitted⟩
      rw [← hfile]
      refine Journal.write_other _ _ fun hid => habsent ?_
      rw [← hid, hfile]
      rfl

theorem startV2_committed {document : HandoffDocument} {coordinator : String} {now : ℤ}
    (h : CommittedIn journal id) :
    CommittedIn (UpdateJournal.startV2 document coordinator now journal).2 id := by
  obtain ⟨file, hfile, hcommitted⟩ := h
  unfold UpdateJournal.startV2
  split
  · exact ⟨file, hfile, hcommitted⟩
  · split
    · exact ⟨file, hfile, hcommitted⟩
    · rename_i habsent
      split
      · exact ⟨file, hfile, hcommitted⟩
      · rename_i record hrecord
        refine ⟨file, ?_, hcommitted⟩
        rw [← hfile]
        refine Journal.write_other _ _ fun hid => habsent ?_
        have hsame : record.operationId = document.operationId := by
          rw [modelValidate_ok hrecord]
          rfl
        rw [← hsame, ← hid, hfile]
        rfl

theorem transition_committed {operationId : String} {status : UpdaterStatus}
    {code message : Option String} {now : ℤ} (h : CommittedIn journal id) :
    CommittedIn (UpdateJournal.transition operationId status code message now journal).2 id := by
  obtain ⟨file, hfile, hcommitted⟩ := h
  unfold UpdateJournal.transition
  split
  · exact ⟨file, hfile, hcommitted⟩
  · exact ⟨file, hfile, hcommitted⟩
  · rename_i current hread
    split
    · exact ⟨file, hfile, hcommitted⟩
    · split
      · exact ⟨file, hfile, hcommitted⟩
      · rename_i hallowed
        split
        · exact ⟨file, hfile, hcommitted⟩
        · by_cases hid : id = operationId
          · subst hid
            have hstored : journal id = some (.v1 current) := read_ok hread
            rw [hfile] at hstored
            cases hstored
            refine ⟨_, Journal.write_same _ _ _, ?_⟩
            exact decide_eq_true (final_next (of_decide_eq_true hcommitted)
              (.inr (Classical.byContradiction hallowed)))
          · refine ⟨file, ?_, hcommitted⟩
            rw [← hfile]
            exact Journal.write_other _ _ hid

theorem revise_committed {next : UpdaterResultV2 → Except JournalError UpdaterResultV2}
    {operationId : String} (hnext : ∀ current record, next current = .ok record →
      Continues current.toResultFields record.toResultFields) (h : CommittedIn journal id) :
    CommittedIn (revise next operationId journal).2 id := by
  obtain ⟨file, hfile, hcommitted⟩ := h
  rcases hresult : revise next operationId journal with ⟨e | record, journal'⟩
  · rw [revise_error hresult]
    exact ⟨file, hfile, hcommitted⟩
  · obtain ⟨current, hread, hrecord, rfl⟩ := revise_ok hresult
    obtain ⟨hstored, hsame⟩ := readV2_ok hread
    have hcontinues := hnext current record hrecord
    have hid : record.operationId = operationId :=
      hcontinues.operation.operationId.trans hsame
    by_cases hother : id = operationId
    · subst hother
      rw [hfile] at hstored
      cases hstored
      refine ⟨.v2 record, by rw [hid]; exact Journal.write_same _ _ _, ?_⟩
      exact decide_eq_true (final_next (of_decide_eq_true hcommitted) hcontinues.status)
    · refine ⟨file, ?_, hcommitted⟩
      rw [← hfile, hid]
      exact Journal.write_other _ _ hother

theorem takeoverV2_committed {operationId coordinator : String} {now : ℤ}
    (h : CommittedIn journal id) :
    CommittedIn (takeoverV2 operationId coordinator now journal).2 id :=
  revise_committed (fun _ _ hrecord => (takeover_continues hrecord).1) h

theorem checkpointV2_committed {operationId : String} {request : CheckpointRequest} {now : ℤ}
    (h : CommittedIn journal id) :
    CommittedIn (checkpointV2 operationId request now journal).2 id :=
  revise_committed (fun _ _ hrecord => (advance_continues hrecord).1) h

/-- No call leads back, whatever its arguments. -/
theorem call_committed (call : Call) (now : ℤ) (h : CommittedIn journal id) :
    CommittedIn (call.apply now journal).2 id := by
  cases call with
  | start operationId => exact start_committed operationId h
  | startV2 document coordinator => exact startV2_committed h
  | transition operationId status code message => exact transition_committed h
  | takeoverV2 operationId coordinator => exact takeoverV2_committed h
  | checkpointV2 operationId request => exact checkpointV2_committed h

end Journal

section Finality
variable [Tools]

/-! ## States in which the commit was requested -/

def Committed (w : World) : Prop := CommittedIn w.journal w.operationId

instance (w : World) : Decidable (Committed w) :=
  decidable_of_iff ((w.journal w.operationId).any committedFile = true) (Option.any_eq_true _ _)

theorem Committed.same {w w' : World} (h : Committed w) (hdocument : w'.document = w.document)
    (hjournal : w'.journal = w.journal) : Committed w' := by
  unfold Committed World.operationId
  rw [hjournal, hdocument]
  exact h

theorem committed_move (m : Move) (w : World) (h : Committed w) : Committed (w.move m) :=
  h.same (Grows.move m w).document (move_journal m w)

/-- What an effect keeps once the commit was requested: this stays so, the data
files are untouched and the old container is not started. -/
def KeepsCommit (w w' : World) : Prop :=
  Committed w' ∧ w'.data = w.data ∧ ¬ StartsSource w w'

/-- Nothing leads out of the committed states. -/
def finality : Contract World where
  always := Distinct
  step w w' := Committed w → KeepsCommit w w'
  refl _ _ h := ⟨h, rfl, not_startsSource_of_same rfl⟩

theorem held_distinct : Held Move finality Distinct :=
  ⟨fun _ h => h, fun m w h => (Grows.move m w).distinct h⟩

theorem start_data (w : World) (id : String) : (w.start id).data = w.data := by
  rcases start_cases w id with hsame | ⟨_, _, _, hsame⟩ <;> rw [hsame]
  rfl

/-! ## What a process knows -/

/-- The document that was read is the one of the world. -/
def Known (document : HandoffDocument) (w : World) : Prop := Distinct w ∧ document = w.document

theorem held_known (document : HandoffDocument) : Held Move finality (Known document) :=
  held_distinct.and fun m w _ h => h.trans (Grows.move m w).document.symm

/-- The record that was read is the one of the world: during a run nobody else
writes the journal. -/
def Loaded (document : HandoffDocument) (r : UpdaterResultV2) (w : World) : Prop :=
  Known document w ∧ w.journal w.operationId = some (.v2 r)

theorem held_loaded (document : HandoffDocument) (r : UpdaterResultV2) :
    Held Move finality (Loaded document r) :=
  (held_known document).and fun m w _ h => by
    change (w.move m).journal (w.move m).operationId = _
    rwa [move_journal, (Grows.move m w).operationId]

/-- A record that says the commit was requested. -/
def Final (r : ResultFields) : Prop := r.status ∈ finalStatuses

variable {document : HandoffDocument} {r : UpdaterResultV2}

theorem Loaded.final {w : World} (h : Loaded document r w) (hcommitted : Committed w) :
    Final r.toResultFields := by
  obtain ⟨file, hfile, hfinal⟩ := hcommitted
  rw [h.2] at hfile
  cases hfile
  have hstatus : r.status ∈ finalStatuses := of_decide_eq_true hfinal
  exact hstatus

theorem Loaded.of_stored {w : World} (h : Known document w)
    (hstored : w.journal document.operationId = some (.v2 r)) : Loaded document r w := by
  refine ⟨h, ?_⟩
  rw [h.2] at hstored
  exact hstored

/-! ## Effects -/

/-- An effect that leaves the journal alone. -/
def Acts (w w' : World) : Prop := Grows w w' ∧ w'.journal = w.journal

theorem acts : AllowsActs Acts where
  refl w := ⟨Grows.refl w, rfl⟩
  data w path content := ⟨Grows.allows.data w path content, rfl⟩
  putTemporary w path content := ⟨Grows.allows.putTemporary w path content, rfl⟩
  dropTemporary w path := ⟨Grows.allows.dropTemporary w path, rfl⟩
  replace w path content := ⟨Grows.allows.replace w path content, rfl⟩
  pending w marker := ⟨Grows.allows.pending w marker, rfl⟩
  staging w staging := ⟨Grows.allows.staging w staging, rfl⟩
  backup w := ⟨Grows.allows.backup w, rfl⟩
  evidence w := ⟨Grows.allows.evidence w, rfl⟩
  start w id := ⟨Grows.start w id, start_journal w id⟩
  stop w id := ⟨Grows.stop w id, rfl⟩
  setPolicy w id policy := ⟨Grows.allows.setPolicy w id policy, rfl⟩
  rename w id name := ⟨Grows.allows.rename w id name, rfl⟩
  remove w id := ⟨Grows.allows.remove w id, rfl⟩
  create w name config hfresh hfull := ⟨Grows.allows.create w name config hfresh hfull, rfl⟩

theorem Loaded.acts {w w' : World} (h : Loaded document r w) (hacts : Acts w w') :
    Loaded document r w' := by
  refine ⟨⟨hacts.1.distinct h.1.1, h.1.2.trans hacts.1.document.symm⟩, ?_⟩
  rw [hacts.2, hacts.1.operationId]
  exact h.2

/-- The record is the one of the world, and its commit was not requested. -/
def Open (document : HandoffDocument) (r : UpdaterResultV2) (w : World) : Prop :=
  Loaded document r w ∧ ¬ Final r.toResultFields

theorem held_open (document : HandoffDocument) (r : UpdaterResultV2) :
    Held Move finality (Open document r) :=
  (held_loaded document r).and fun _ _ _ h => h

/-- Before the commit a process may do anything but write the journal. -/
theorem acts_open {α : Type} {p : Updater α} (hp : Within Acts p) :
    Guarded Move finality (Open document r) p fun _ => Open document r :=
  Guarded.within (held_open document r) hp fun _ _ h hacts =>
    ⟨⟨h.1.acts hacts, h.2⟩, fun hcommitted => absurd (h.1.final hcommitted) h.2⟩

theorem setPolicy_kept (w : World) (id : String) (h : Distinct w) :
    Distinct (w.setPolicy id noRestart) ∧ finality.step w (w.setPolicy id noRestart) :=
  ⟨(Grows.allows.setPolicy w id noRestart).distinct h, fun hcommitted =>
    ⟨hcommitted.same rfl rfl, rfl, not_startsSource_change (fun _ => rfl) fun _ h => h⟩⟩

theorem finish_kept {id : String} :
    Guarded Move finality Distinct (finish id) fun _ => Distinct :=
  finish_guarded held_distinct fun w => setPolicy_kept w id

theorem manual_kept {id : String} :
    Guarded Move finality Distinct (manual id) fun _ => Distinct :=
  manual_guarded held_distinct fun w => setPolicy_kept w id

/-- A call of the journal that keeps committed records committed. -/
theorem journalCall_kept {α : Type} {call : ℤ → Journal → Answer α} {A : World → Prop}
    {R : α → World → Prop} (hA : Held Move finality A)
    (hcall : ∀ now journal id, CommittedIn journal id → CommittedIn (call now journal).2 id)
    (h : ∀ w a, A w → (call w.now w.journal).1 = .ok a →
      R a { w with journal := (call w.now w.journal).2 }) :
    Guarded Move finality A (journalCall call) R := by
  refine journalCall_guarded hA (fun w hw => ?_) h
  have hdistinct : Distinct w := hA.safe w hw
  exact ⟨⟨hdistinct.used, hdistinct.source⟩, fun hcommitted =>
    ⟨hcall _ _ _ hcommitted, rfl, not_startsSource_of_same rfl⟩⟩

/-- A request to go on stores the record it answers with. -/
theorem checkpoint_loaded {operationId : String} {request : CheckpointRequest} {A : World → Prop}
    (hA : Held Move finality A) (hknown : ∀ w, A w → Known document w)
    (hid : document.operationId = operationId) :
    Guarded Move finality A (journalCall (checkpointV2 operationId request))
      fun r w => Loaded document r w ∧ r.status = request.status := by
  refine journalCall_kept hA (fun _ _ _ h => checkpointV2_committed h) fun w r hw hok => ?_
  obtain ⟨current, hread, hrecord, hjournal⟩ := revise_ok (Prod.ext hok rfl)
  have hfields := (advance_ok hrecord).2
  have hoperation : r.operationId = document.operationId := by
    rw [hfields, hid]
    exact (readV2_ok hread).2
  refine ⟨Loaded.of_stored ⟨⟨(hknown w hw).1.used, (hknown w hw).1.source⟩, (hknown w hw).2⟩ ?_, ?_⟩
  · refine (congrFun hjournal document.operationId).trans ?_
    rw [← hoperation]
    exact Journal.write_same _ _ _
  · rw [hfields]
    rfl

theorem readRecord_loaded {operationId : String} {A : World → Prop}
    (hA : Held Move finality A) (hknown : ∀ w, A w → Known document w)
    (hid : document.operationId = operationId) :
    Guarded Move finality A (readResult operationId) fun result w =>
      A w ∧ ∀ r, result = .inr r → Loaded document r w := by
  refine (readResult_guarded hA).post fun result w h => ⟨h.1, ?_⟩
  rintro r rfl
  exact Loaded.of_stored (hknown w h.1) (hid ▸ h.2.1)

/-! ## Observations -/

/-- The candidate of an observation is not the old container. -/
def CandidateApart (o : DockerRecoveryObservation) (w : World) : Prop :=
  ∀ id, o.candidate.containerId = some id → id ≠ w.sourceId

theorem observe_kept {socketPath hostname : String} {result : ResultFields}
    {marker : Option PendingUpdateMarker} :
    Guarded Move finality (Known document)
      (observe socketPath document result marker hostname)
      fun o w => Known document w ∧ CandidateApart o w := by
  refine (observe_guarded
    (K := fun c w => c.id = w.sourceId → c.isCandidate w.operationId = false)
    (L := fun _ => Known document) (fun m c w _ h hid => ?_)
    (fun w c h hc hid => h.1.source c hc hid) (held_known document)
    (fun _ => held_known document) (fun _ _ h => h) fun _ h => h).post fun o w h => ?_
  · change (c.id = (w.move m).sourceId) at hid
    rw [(Grows.move m w).sourceId] at hid
    rw [(Grows.move m w).operationId]
    exact h hid
  · obtain ⟨hsame, cs, rfl, hcs, hknown⟩ := h
    refine ⟨hknown, fun id hid heq => ?_⟩
    obtain ⟨c, hc, hcid, hcandidate⟩ := observeCandidate_labelled hid
    have hnot := hcs c hc (hcid.trans heq)
    have hoperation : result.operationId = w.operationId := by
      rw [← hsame, hknown.2]
      rfl
    rw [hoperation, hnot] at hcandidate
    cases hcandidate

theorem startContainer_kept {id : String} :
    Guarded Move finality (fun w => Known document w ∧ id ≠ w.sourceId)
      (startContainer id) fun _ => Known document := by
  have hA : Held Move finality fun w => Known document w ∧ id ≠ w.sourceId :=
    (held_known document).and fun m w _ h => by
      change id ≠ (w.move m).sourceId
      rwa [(Grows.move m w).sourceId]
  have hnext (w : World) (h : Known document w) : Known document (w.start id) :=
    ⟨(Grows.start w id).distinct h.1, h.2.trans (Grows.start w id).document.symm⟩
  exact request_guarded hA
    (fun w h _ => ⟨(hnext w h.1).1, fun hcommitted =>
      ⟨hcommitted.same (Grows.start w id).document (start_journal w id), start_data w id,
        not_startsSource_start h.2⟩⟩) fun w h _ => hnext w h.1

theorem cleanupOld_kept {result : ResultFields} :
    Guarded Move finality Distinct (cleanupOld document result) fun _ => Distinct := by
  refine (looks_guarded held_distinct (query_within fun _ => rfl)).bind fun summaries =>
    skipIf_guarded (fun _ _ h => h) fun _ => ?_
  refine (looks_guarded held_distinct (inspectContainer_within fun _ => rfl)).bind
    fun container => ?_
  refine Guarded.bind (S := fun _ => Distinct) (require_guarded (fun _ h => h) fun _ _ h => h)
    fun _ => ?_
  have hnext (w : World) (id : String) (h : Distinct w) : Distinct (w.remove id) :=
    (Grows.allows.remove w id).distinct h
  exact request_guarded held_distinct
    (fun w h _ => ⟨hnext w _ h, fun hcommitted =>
      ⟨hcommitted.same rfl rfl, rfl, not_startsSource_remove⟩⟩) fun w h _ => hnext w _ h

/-! ## The record of a process -/

variable {executor : Executor}

theorem startV2_ok {coordinator : String} {now : ℤ} {journal journal' : Journal}
    (h : startV2 document coordinator now journal = (.ok r, journal')) :
    journal' = journal.write document.operationId (.v2 r) := by
  unfold startV2 at h
  split at h
  · cases h
  · split at h
    · cases h
    · split at h
      · cases h
      · rename_i hrecord
        cases h
        have hid : r.operationId = document.operationId := by
          rw [modelValidate_ok hrecord]
          rfl
        rw [hid]

theorem startV2_loaded {coordinator : String} :
    Guarded Move finality (Known document) (journalCall (startV2 document coordinator))
      fun r => Loaded document r := by
  refine journalCall_kept (held_known document) (fun _ _ _ h => startV2_committed h)
    fun w r h hok => Loaded.of_stored ⟨⟨h.1.used, h.1.source⟩, h.2⟩ ?_
  have hjournal := startV2_ok (Prod.ext hok rfl)
  exact (congrFun hjournal document.operationId).trans (Journal.write_same _ _ _)

theorem loadOrStart_loaded :
    Guarded Move finality (Known document) (loadOrStart executor document)
      fun r => Loaded document r := by
  refine (looks_guarded (held_known document) (Within.look fun _ => rfl)).bind fun present => ?_
  split
  · refine (readRecord_loaded (held_known document) (fun _ h => h) rfl).bind fun result => ?_
    cases result with
    | inl r => exact Guarded.throw fun _ h => h.1.1
    | inr r => exact Guarded.pure fun _ h => h.2 r rfl
  · exact startV2_loaded

/-- A rollback that goes on found a record whose commit was not requested. -/
theorem readRollbackResult_open :
    Guarded Move finality (Known document)
      (readRollbackResult executor document.operationId) fun r => Open document r := by
  refine (readRecord_loaded (held_known document) (fun _ h => h) rfl).bind fun result => ?_
  cases result with
  | inl r => exact Guarded.throw fun _ h => h.1.1
  | inr r =>
    dsimp only
    split
    · exact Guarded.throw fun _ h => h.1.1
    · split
      · exact Guarded.throw fun _ h => h.1.1
      · split
        · exact Guarded.throw fun _ h => h.1.1
        · exact Guarded.pure fun _ h => ⟨h.2 r rfl, ‹_›⟩

theorem rollbackCheckpoint_open {request : CheckpointRequest}
    (hback : request.status ∉ finalStatuses) :
    Guarded Move finality (Open document r) (rollbackCheckpoint document.operationId request)
      fun r' => Open document r' := by
  refine (looks_guarded (held_open document r) (readResult_within fun _ => rfl)).bind
    fun current => ?_
  refine (checkpoint_loaded (held_open document r) (fun _ h => h.1.1) rfl).post
    fun r' w h => ⟨h.1, ?_⟩
  unfold Final
  rw [h.2, (JournalBranches.carryReason_same current request).1]
  exact hback

theorem enterOrResume_open :
    Guarded Move finality (Open document r) (enterOrResume executor document r)
      fun entered => Open document entered.1 := by
  refine (acts_open (prepare_within acts.refl acts.pending)).bind fun preparation => ?_
  split
  · exact Guarded.throw fun _ h => h.1.1.1
  · split
    · exact Guarded.pure fun _ h => h
    · split
      · exact Guarded.throw fun _ h => h.1.1.1
      · refine Guarded.bind (S := fun entered => Open document entered) ?_
          fun entered => Guarded.pure fun _ h => h
        refine (acts_open (observe_within acts.refl)).bind fun observation => ?_
        split
        · exact Guarded.throw fun _ h => h.1.1.1
        · split
          · exact Guarded.throw fun _ h => h.1.1.1
          · exact rollbackCheckpoint_open (show UpdaterStatus.rollingBack ∉ finalStatuses by decide)

theorem rollbackError_kept {operationId : String} (e : UpdaterError) :
    Guarded Move finality Distinct (rollbackError operationId e) fun _ => Distinct := by
  have hmark : Guarded Move finality Distinct (markRollbackFailed operationId)
      fun _ => Distinct := by
    refine (looks_guarded held_distinct (readResult_within fun _ => rfl)).bind fun current => ?_
    cases current with
    | inl r => exact Guarded.pure fun _ h => h
    | inr r =>
      dsimp only
      split
      · exact Guarded.pure fun _ h => h
      · exact (journalCall_kept held_distinct (fun _ _ _ h => checkpointV2_committed h)
          fun w _ h _ => ⟨h.used, h.source⟩).bind fun _ => Guarded.pure fun _ h => h
  unfold rollbackError
  split
  · refine Guarded.bind (S := fun _ => Distinct) ?_ fun _ => Guarded.throw fun _ h => h
    exact (hmark.attempt (T := fun _ => Distinct) (fun _ _ h => h) fun _ _ h => h).bind
      fun _ => Guarded.pure fun _ h => h
  · exact Guarded.throw fun _ h => h

/-- Preparing a candidate writes the pending file only. -/
theorem prepare_kept : Guarded Move finality Distinct (prepare document) fun _ => Distinct := by
  refine Guarded.within (W := fun w w' => ∃ pending, w' = { w with pending := pending })
    held_distinct (prepare_within (fun w => ⟨w.pending, rfl⟩) fun w marker => ⟨_, rfl⟩) ?_
  rintro w _ h ⟨pending, rfl⟩
  exact ⟨⟨h.used, h.source⟩, fun hcommitted =>
    ⟨hcommitted, rfl, not_startsSource_of_same rfl⟩⟩

theorem markRecoveryExhausted_kept :
    Guarded Move finality Distinct (markRecoveryExhausted document r) fun _ => Distinct := by
  have hcall {operationId : String} {request : CheckpointRequest} :
      Guarded Move finality Distinct (journalCall (checkpointV2 operationId request))
        fun _ => Distinct :=
    journalCall_kept held_distinct (fun _ _ _ h => checkpointV2_committed h)
      fun w _ h _ => ⟨h.used, h.source⟩
  have hclose : Guarded Move finality Distinct (closeExhausted document r)
      fun _ => Distinct := by
    refine Guarded.bind (S := fun _ => Distinct) ?_ fun entered =>
      hcall.bind fun _ => Guarded.pure fun _ h => h
    unfold enterExhausted
    split
    · exact Guarded.pure fun _ h => h
    · exact prepare_kept.bind fun _ => hcall
  unfold markRecoveryExhausted
  split
  · exact Guarded.pure fun _ h => h
  · exact (hclose.attempt (T := fun _ => Distinct) (fun _ _ h => h) fun _ _ h => h).bind
      fun _ => Guarded.pure fun _ h => h

/-! ## The way forward -/

variable [Verifiers]

/-- Once the commit was requested the only branch left waits for it. -/
theorem forwardTurn_loaded (hgoing : forwardGoing r = true) :
    Guarded Move finality (Loaded document r) (forwardTurn executor document r)
      fun r' => Loaded document r' := by
  unfold forwardTurn
  split
  · exact Guarded.throw fun _ h => h.1.1
  · rename_i branch hbranch
    have heffect : Guarded Move finality (Loaded document r) branch.effect
        fun _ => Loaded document r := by
      by_cases hfinal : Final r.toResultFields
      · have hstatus : r.status = .commitRequested := by
          have hopen : r.status ≠ .success := of_decide_eq_true hgoing
          simp only [Final, finalStatuses, List.mem_cons, List.not_mem_nil, or_false] at hfinal
          exact hfinal.resolve_right hopen
        have hcheckpoint : r.checkpoint = .commitRequested := by
          have hplaced := (consistent r).placed
          rw [hstatus] at hplaced
          exact List.mem_singleton.mp hplaced
        unfold forwardBranch at hbranch
        rw [hcheckpoint] at hbranch
        cases hbranch
        exact looks_guarded (held_loaded document r)
          (learnNothing_within (Within.look fun _ => rfl))
      · intro w h
        exact ((acts_open (forwardBranch_within acts hbranch)).post fun _ _ h => h.1) w ⟨h, hfinal⟩
    exact heffect.bind fun learned =>
      (checkpoint_loaded (held_loaded document r) (fun _ h => h.1) rfl).post fun _ _ h => h.1

theorem executeForward_kept {operationId : String} :
    Guarded Move finality Distinct (executeForward executor operationId) fun _ => Distinct := by
  unfold executeForward
  split
  · exact Guarded.throw fun _ h => h
  · refine (readHandoff_guarded held_distinct).bind fun document => ?_
    refine Guarded.pre (B := Known document) ?_ fun w h => ⟨h.1, h.2.1⟩
    refine loadOrStart_loaded.bind fun r => ?_
    refine Guarded.bind (S := fun _ => Loaded document r)
      (Guarded.ofExcept (fun _ h => h.1.1) fun _ _ h _ => h) fun _ => ?_
    have hloop : Guarded Move finality (Loaded document r)
        (whileLoop forwardGoing (forwardTurn executor document) .other forwardTurns r)
        fun last w => Loaded document last w ∧ forwardGoing last = false :=
      Guarded.whileLoop (fun _ _ h => h.1.1) (fun r hgoing => forwardTurn_loaded hgoing) _ r
    refine hloop.bind fun last => ?_
    refine Guarded.bind (S := fun _ => Distinct)
      (Guarded.ofExcept (fun _ h => h.1.1.1) fun _ _ h _ => h.1.1.1) fun id => ?_
    exact cleanupOld_kept.bind fun _ => Guarded.pure fun _ h => h

/-! ## The way back -/

theorem rollbackBranch_status {preparation : CandidatePreparation} {result : ResultFields}
    {branch : Branch} (h : rollbackBranch executor document preparation result = some branch) :
    branch.status = .rollingBack ∨ branch.status = .rolledBack := by
  unfold rollbackBranch at h
  split at h <;> cases h <;> simp

theorem rollbackTurn_open {preparation : CandidatePreparation} :
    Guarded Move finality (Open document r) (rollbackTurn executor document preparation r)
      fun r' => Open document r' := by
  unfold rollbackTurn
  split
  · exact Guarded.throw fun _ h => h.1.1.1
  · rename_i branch hbranch
    refine (acts_open (rollbackBranch_within acts hbranch)).bind fun _ =>
      rollbackCheckpoint_open ?_
    rcases rollbackBranch_status hbranch with hstatus | hstatus
    · exact hstatus ▸ (by decide : UpdaterStatus.rollingBack ∉ finalStatuses)
    · exact hstatus ▸ (by decide : UpdaterStatus.rolledBack ∉ finalStatuses)

theorem executeRollback_kept {operationId : String} :
    Guarded Move finality Distinct (executeRollback executor operationId) fun _ => Distinct := by
  unfold executeRollback
  split
  · exact Guarded.throw fun _ h => h
  · refine (readHandoff_guarded held_distinct).bind fun document => ?_
    refine Guarded.pre (B := Known document) ?_ fun w h => ⟨h.1, h.2.1⟩
    refine readRollbackResult_open.bind fun r => ?_
    split
    · exact Guarded.pure fun _ h => h.1.1.1
    · refine Guarded.handle ?_ rollbackError_kept
      refine enterOrResume_open.bind fun entered => ?_
      exact (Guarded.whileLoop (A := fun r => Open document r) (fun _ _ h => h.1.1.1)
        (fun _ _ => rollbackTurn_open) _ _).bind fun _ => Guarded.pure fun _ h => h.1.1.1.1

/-! ## The coordinator -/

variable {duty : Duty} {marker : Option PendingUpdateMarker}

theorem goForward_kept : Guarded Move finality Distinct (goForward duty) fun _ => Distinct :=
  executeForward_kept.bind fun _ => finish_kept

theorem goBack_kept : Guarded Move finality Distinct (goBack duty) fun _ => Distinct :=
  executeRollback_kept.bind fun _ => finish_kept

theorem act_kept {result : ResultFields} {o : DockerRecoveryObservation} :
    Guarded Move finality (fun w => Known duty.document w ∧ CandidateApart o w)
      (act duty result marker o) fun _ => Distinct := by
  have hpre (w : World) (h : Known duty.document w ∧ CandidateApart o w) : Distinct w := h.1.1
  unfold act
  split
  · exact goForward_kept.pre hpre
  · exact goForward_kept.pre hpre
  · exact goBack_kept.pre hpre
  · exact goBack_kept.pre hpre
  · unfold reconcileCommit
    split
    · exact manual_kept.pre hpre
    · rename_i id hid
      split
      · exact goForward_kept.pre hpre
      · refine Guarded.bind (startContainer_kept.pre fun w h => ⟨h.1, h.2 id hid⟩) fun _ => ?_
        refine observe_kept.bind fun again => ?_
        split
        · exact goForward_kept.pre fun _ h => h.1.1
        · exact manual_kept.pre fun _ h => h.1.1
  · exact finish_kept.pre hpre
  · exact manual_kept.pre hpre

theorem recover_kept (duty : Duty) :
    Guarded Move finality (Known duty.document) (recover duty r marker) fun _ => Distinct := by
  refine observe_kept.bind fun o => ?_
  split
  · exact manual_kept.pre fun _ h => h.1.1
  · unfold actAsOwner
    split
    · exact act_kept
    · have hheld : Held Move finality fun w => Known duty.document w ∧ CandidateApart o w :=
        (held_known duty.document).and fun m w _ h id hid => by
          change id ≠ (w.move m).sourceId
          rw [(Grows.move m w).sourceId]
          exact h id hid
      have htakeover : Guarded Move finality
          (fun w => Known duty.document w ∧ CandidateApart o w)
          (journalCall (takeoverV2 duty.coordinator.operationId duty.id))
          fun _ w => Known duty.document w ∧ CandidateApart o w :=
        journalCall_kept hheld (fun _ _ _ h => takeoverV2_committed h) fun w _ h _ =>
          ⟨⟨⟨h.1.1.used, h.1.1.source⟩, h.1.2⟩, h.2⟩
      refine Guarded.bind (htakeover.attempt (T := fun taken w => Distinct w ∧
        (∀ r', taken = .ok r' → Known duty.document w ∧ CandidateApart o w))
        (fun r' w h => ⟨h.1.1, fun _ _ => h⟩) fun e w h => ⟨h, fun r' hr' => by cases hr'⟩)
        fun taken => ?_
      cases taken with
      | ok r' => exact act_kept.pre fun w h => h.2 r' rfl
      | error e =>
        cases e with
        | snapshot text =>
          dsimp only
          split
          · exact Guarded.throw fun _ h => h.1
          · exact (markRecoveryExhausted_kept.pre fun _ h => h.1).bind fun _ => manual_kept
        | stateMachine text => exact Guarded.throw fun _ h => h.1
        | handoff text => exact Guarded.throw fun _ h => h.1
        | candidate text => exact Guarded.throw fun _ h => h.1
        | observation text => exact Guarded.throw fun _ h => h.1
        | engine text => exact Guarded.throw fun _ h => h.1
        | other => exact Guarded.throw fun _ h => h.1

theorem runLocked_kept {coordinator : Coordinator} :
    Guarded Move finality Distinct (runLocked coordinator) fun _ => Distinct := by
  refine (readHandoff_guarded held_distinct).bind fun document => ?_
  refine Guarded.pre (B := Known document) ?_ fun w h => ⟨h.1, h.2.1⟩
  refine (looks_guarded (held_known document)
    (identifyCurrentCoordinator_within fun _ => rfl)).bind fun id => ?_
  refine (looks_guarded (held_known document)
    (readOptionalResult_within fun _ => rfl)).bind fun result => ?_
  rcases result with _ | r | r
  · exact goForward_kept.pre fun _ h => h.1
  · exact manual_kept.pre fun _ h => h.1
  · unfold coordinate
    dsimp only
    split
    · exact goForward_kept.pre fun _ h => h.1
    · split
      · exact finish_kept.pre fun _ h => h.1
      · refine (looks_guarded (held_known document) (Within.look fun _ => rfl)).bind
          fun pending => ?_
        split
        · exact manual_kept.pre fun _ h => h.1
        · exact recover_kept ⟨coordinator, document, id⟩
        · exact recover_kept ⟨coordinator, document, id⟩

theorem program_kept (job : Job) :
    Guarded Move finality Distinct job.program fun _ => Distinct := by
  cases job with
  | forward executor operationId =>
    exact executeForward_kept.bind fun _ => Guarded.pure fun _ h => h
  | rollback executor operationId => exact executeRollback_kept
  | coordinator who => exact runLocked_kept.bind fun _ => Guarded.pure fun _ h => h

/-! ## Any sequence of turns -/

/-- A raw call of the journal, or a run of an updater. -/
inductive Turn where
  | call (call : Call) (now : ℤ)
  | run (run : Run)

def Turn.after : Turn → World → World
  | .call request now, w => { w with journal := (request.apply now w.journal).2 }
  | .run process, w => process.after w

/-- The effects of a turn, each as the states before and after it. -/
def Turn.steps : Turn → World → List (World × World)
  | .call request now, w => [(w, { w with journal := (request.apply now w.journal).2 })]
  | .run process, w => process.steps w

def afterTurns (turns : List Turn) (w : World) : World :=
  turns.foldl (fun w turn => turn.after w) w

theorem turn_distinct (turn : Turn) {w : World} (h : Distinct w) : Distinct (turn.after w) := by
  cases turn with
  | call call now => exact ⟨h.used, h.source⟩
  | run run => exact (run_grows run w).distinct h

theorem turns_distinct (turns : List Turn) {w : World} (h : Distinct w) :
    Distinct (afterTurns turns w) := by
  induction turns generalizing w with
  | nil => exact h
  | cons turn turns ih => exact ih (turn_distinct turn h)

/-- What one effect of a turn keeps, wherever in the turn it stands. -/
theorem turn_kept (turn : Turn) {w : World} (h : Distinct w) :
    ∀ s ∈ turn.steps w, Committed s.1 → KeepsCommit s.1 s.2 := by
  cases turn with
  | call call now =>
    intro s hs hcommitted
    rw [List.mem_singleton.mp hs] at hcommitted ⊢
    exact ⟨call_committed call now hcommitted, rfl, not_startsSource_of_same rfl⟩
  | run run => exact ((program_kept run.job).run (fun _ _ h => h) h run.events).2

theorem turn_committed (turn : Turn) {w : World} (h : Distinct w) (hcommitted : Committed w) :
    (∀ s ∈ turn.steps w, Committed s.1) ∧ Committed (turn.after w) := by
  have hsteps := turn_kept turn h
  cases turn with
  | call call now =>
    refine ⟨fun s hs => ?_, call_committed call now hcommitted⟩
    rw [List.mem_singleton.mp hs]
    exact hcommitted
  | run run => exact lasts committed_move (fun s hs h => (hsteps s hs h).1) hcommitted

/-- From the effect on that requests the commit. -/
theorem turn_committed_after (turn : Turn) {w : World} (h : Distinct w)
    {early late : List (World × World)} (hsplit : turn.steps w = early ++ late)
    {s : World × World} (hs : s ∈ early) (hcommitted : Committed s.2) :
    (∀ s ∈ late, Committed s.1) ∧ Committed (turn.after w) := by
  have hsteps := turn_kept turn h
  cases turn with
  | call call now =>
    rcases List.cons_eq_append_iff.mp hsplit with ⟨rfl, _⟩ | ⟨early', rfl, hnone⟩
    · exact absurd hs List.not_mem_nil
    · obtain ⟨rfl, rfl⟩ := List.append_eq_nil_iff.mp hnone.symm
      rw [List.mem_singleton.mp hs] at hcommitted
      exact ⟨fun s hs => absurd hs List.not_mem_nil, hcommitted⟩
  | run run =>
    exact lasts_after committed_move (fun s hs h => (hsteps s hs h).1) hsplit hs hcommitted

theorem turns_committed (turns : List Turn) {w : World} (h : Distinct w)
    (hcommitted : Committed w) : Committed (afterTurns turns w) := by
  induction turns generalizing w with
  | nil => exact hcommitted
  | cons turn turns ih => exact ih (turn_distinct turn h) (turn_committed turn h hcommitted).2

/-- From any state that turns of any kind have reached: once the commit was
requested, be it by an earlier turn or by an earlier effect of this one, every
later effect of this turn and of any turn after it leaves it requested, leaves
the data files alone and does not start the old container. -/
theorem commit_is_final {w : World} (h : Distinct w) (before after : List Turn)
    (turn next : Turn) {early late : List (World × World)}
    (hsplit : turn.steps (afterTurns before w) = early ++ late)
    (hcommitted : Committed (afterTurns before w) ∨ ∃ s ∈ early, Committed s.2) :
    (∀ s ∈ late, KeepsCommit s.1 s.2) ∧
      Committed (afterTurns after (turn.after (afterTurns before w))) ∧
      ∀ s ∈ next.steps (afterTurns after (turn.after (afterTurns before w))),
        KeepsCommit s.1 s.2 := by
  have hreached := turns_distinct before h
  have hturn : (∀ s ∈ late, Committed s.1) ∧ Committed (turn.after (afterTurns before w)) := by
    rcases hcommitted with hcommitted | ⟨s, hs, hcommitted⟩
    · obtain ⟨hbefore, hend⟩ := turn_committed turn hreached hcommitted
      exact ⟨fun s hs => hbefore s (hsplit ▸ List.mem_append_right early hs), hend⟩
    · exact turn_committed_after turn hreached hsplit hs hcommitted
  have hdistinct := turns_distinct after (turn_distinct turn hreached)
  have hlater := turns_committed after (turn_distinct turn hreached) hturn.2
  refine ⟨fun s hs => ?_, hlater, fun s hs => ?_⟩
  · exact turn_kept turn hreached s (hsplit ▸ List.mem_append_right early hs) (hturn.1 s hs)
  · exact turn_kept next hdistinct s hs ((turn_committed next hdistinct hlater).1 s hs)

end Finality

/-- The record of the sample one effect before its commit is requested. -/
def verifiedRecord : @UpdaterResultV2 sampleTools.toAlphanumerics :=
  letI := sampleTools
  { sampleRecord with
    sequence := 11
    status := .verifying
    checkpoint := .candidateVerified
    valid := by decide +kernel }

def verifiedWorld : @World sampleTools :=
  letI := sampleTools
  { sampleWorld with journal := fun _ => some (.v2 verifiedRecord) }

/-- The way forward of the sample, undisturbed. -/
def goesOn : Turn := .run
  ⟨.forward ⟨"/var/run/docker.sock", hex64 'b'⟩ sampleDocument.operationId, []⟩

theorem goesOn_requests :
    letI := sampleTools
    letI := sampleVerifiers
    ∃ s ∈ (goesOn.steps verifiedWorld).take 4, Committed s.2 := by
  decide +kernel

/-- A way forward that requests the commit as its fourth effect and then waits
for it: neither a call that asks for the way back nor a rollback changes that. -/
theorem sample_commit_is_final :
    letI := sampleTools
    letI := sampleVerifiers
    let back : Turn := .call (.checkpointV2 sampleDocument.operationId
      { status := .rollingBack, checkpoint := .rollbackStarted, rollbackStarted := some true }) 0
    let rollback : Turn := .run
      ⟨.rollback ⟨"/var/run/docker.sock", hex64 'b'⟩ sampleDocument.operationId, []⟩
    let later := afterTurns [back] (goesOn.after verifiedWorld)
    (∀ s ∈ (goesOn.steps verifiedWorld).drop 4, KeepsCommit s.1 s.2) ∧ Committed later ∧
      ∀ s ∈ rollback.steps later, KeepsCommit s.1 s.2 := by
  let _ := sampleTools
  let _ := sampleVerifiers
  refine commit_is_final (w := verifiedWorld) ⟨by decide, ?_⟩ [] _ _ _
    (List.take_append_drop 4 _).symm (.inr goesOn_requests)
  intro c hc
  rcases List.mem_cons.mp hc with rfl | hc
  · decide
  · rcases List.mem_singleton.mp hc with rfl
    decide

end MediaSync.CommitFinality
