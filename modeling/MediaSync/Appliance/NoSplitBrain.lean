import MediaSync.Appliance.UpdaterReturn

/-!
# The old container and the candidate never run together

The coordinator acts in safe states and leaves safe states, whatever it
decides. So every state that an updater and its successors can reach is safe,
and in a safe state there is at most one candidate, which does not run while
the old container does.
-/
namespace MediaSync.NoSplitBrain
open FaultPrograms GuardedPrograms PythonText UpdateHandoff UpdateJournal JournalHistory
open UpdaterWorld UpdaterObservation UpdateSnapshot UpdaterForward UpdaterRollback
open UpdaterCoordinator UpdaterEffects UpdaterRuns UpdaterGuards UpdaterPhases UpdaterSafety
open UpdaterReturn

section Coordination
variable [Tools] {document : HandoffDocument} {c : UpdaterCheckpoint} {w w' : World}

/-! ## Safe states -/

/-- The operation has not begun. -/
structure Fresh (w : World) : Prop where
  orderly : Orderly w
  before : Before w
  unrecorded : w.journal w.operationId = none

theorem Fresh.safe {w : World} (h : Fresh w) : Safe w := by
  refine ⟨h.orderly, ?_⟩
  rw [h.unrecorded]
  exact h.before

/-- At most one candidate, and not both containers run. -/
structure Separate (w : World) : Prop where
  one : w.candidates.length ≤ 1
  never (source candidate : Container) : source ∈ w.containers → source.id = w.sourceId →
    candidate ∈ w.candidates → ¬ (source.running = true ∧ candidate.running = true)

theorem separate_alone {w : World} (h : NoCandidate w) : Separate w := by
  have hnone : w.candidates = [] := h
  refine ⟨by rw [hnone]; exact Nat.zero_le 1, fun source candidate _ _ hcandidate => ?_⟩
  rw [hnone] at hcandidate
  exact absurd hcandidate List.not_mem_nil

theorem separate_switched {w : World} (h : Switched w) : Separate w := by
  refine ⟨h.one, fun source candidate hsource hid _ hboth => ?_⟩
  rw [h.stopped source hsource hid] at hboth
  exact absurd hboth.1 Bool.false_ne_true

theorem phase_separate {c : UpdaterCheckpoint} {w : World} (h : phase c w) : Separate w := by
  cases c with
  | initialized => exact separate_alone h.alone
  | oldRestartFenced => exact separate_alone h.1.alone
  | oldStopped => exact separate_alone h.1.alone
  | pendingReady => exact separate_alone h.1.alone
  | snapshotVerified => exact separate_alone h.1.alone
  | oldRenamed => exact separate_switched h
  | candidateCreated => exact separate_switched h
  | candidateStarted => exact separate_switched h
  | candidateVerified => exact separate_switched h
  | commitRequested => exact separate_switched h
  | rollbackStarted => exact h.elim (fun h => separate_alone h.alone) separate_switched
  | candidateStopped => exact h.elim (fun h => separate_alone h.alone) separate_switched
  | candidateRemoved =>
    exact h.elim (fun h => separate_alone h.alone) fun h => separate_alone h.alone
  | snapshotRestored =>
    exact h.elim (fun h => separate_alone h.alone) fun h => separate_alone h.1.alone
  | candidateEvidenceRemoved =>
    exact h.elim (fun h => separate_alone h.alone) fun h => separate_alone h.1.alone
  | oldNameRestored =>
    exact h.elim (fun h => separate_alone h.alone) fun h => separate_alone h.alone
  | oldPolicyRestored =>
    exact h.elim (fun h => separate_alone h.alone) fun h => separate_alone h.alone
  | oldStarted => exact h.elim (fun h => separate_alone h.alone) fun h => separate_alone h.alone
  | oldVerified => exact h.elim (fun h => separate_alone h.alone) fun h => separate_alone h.alone
  | rollbackPublished =>
    exact h.elim (fun h => separate_alone h.alone) fun h => separate_alone h.alone

theorem recordPhase_separate {file : Option JournalFile} {w : World} (h : recordPhase file w) :
    Separate w := by
  rcases file with _ | r | r | _
  · exact separate_alone h.alone
  · exact h.elim
  · exact phase_separate h
  · exact h.elim

/-! ## Giving up the restart policy -/

theorem safe_setPolicy (w : World) (id : String) (h : Safe w) :
    Safe (w.setPolicy id noRestart) ∧ safety.step w (w.setPolicy id noRestart) :=
  ⟨safe_gentle (.change id _ calm_noRestart) ⟨rfl, rfl⟩ h, fun h =>
    absurd h (not_startsSource_change (fun _ => rfl) fun _ h => h)⟩

theorem finish_safe {id : String} : Guarded Move safety Safe (finish id) fun _ => Safe :=
  finish_guarded held_safe fun w => safe_setPolicy w id

theorem manual_safe {id : String} : Guarded Move safety Safe (manual id) fun _ => Safe :=
  manual_guarded held_safe fun w => safe_setPolicy w id

/-! ## Taking over -/

/-- A contract under which an assertion always holds. -/
def staying (A : World → Prop) : Contract World where
  always := A
  step := StartsRestored
  refl _ _ := fun h => absurd h (not_startsSource_of_same rfl)

theorem seen_journal {o : DockerRecoveryObservation} {journal : Journal} (h : Seen o w) :
    Seen o { w with journal := journal } := ⟨h.missing, h.found⟩

/-- A takeover changes who owns the record and nothing else, also when the new
owner does not learn of it. -/
theorem takeover_guarded {operationId id : String} {o : DockerRecoveryObservation}
    (hid : document.operationId = operationId) :
    Guarded Move safety (fun w => At document c w ∧ Seen o w)
      (Prog.attempt (journalCall (takeoverV2 operationId id)) :
        Updater (Except UpdaterError UpdaterResultV2))
      fun taken w => (At document c w ∧ Seen o w) ∧ ∀ r, taken = .ok r → r.checkpoint = c := by
  have hwritten (w : World) (hw : At document c w ∧ Seen o w) {record : UpdaterResultV2}
      {journal : Journal}
      (hok : revise (takeover id w.now) operationId w.journal = (.ok record, journal)) :
      (At document c { w with journal := journal } ∧ Seen o { w with journal := journal }) ∧
        record.checkpoint = c := by
    obtain ⟨current, hread, hrecord, rfl⟩ := revise_ok hok
    obtain ⟨hstored, hsame⟩ := readV2_ok hread
    have hfields := (takeover_ok hrecord).2.2
    have hoperation : operationId = w.operationId := by
      rw [← hid, hw.1.document]
      rfl
    have hcurrent : current.checkpoint = c := by
      obtain ⟨r, hr, hc⟩ := hw.1.stored
      rw [hoperation] at hstored
      rw [hstored] at hr
      cases hr
      exact hc
    have hcheckpoint : record.checkpoint = c := by
      rw [hfields]
      exact hcurrent
    have hworldId : record.operationId = w.operationId := by
      rw [hfields]
      exact hsame.trans hoperation
    have hphase : phase record.checkpoint w := by
      rw [hcheckpoint]
      exact hw.1.phase
    refine ⟨⟨?_, seen_journal hw.2⟩, hcheckpoint⟩
    rw [← hcheckpoint]
    exact at_written hw.1.safe.orderly hw.1.document hworldId hphase
  have hheld : Held Move (staying fun w => At document c w ∧ Seen o w)
      fun w => At document c w ∧ Seen o w := ⟨fun _ h => h, held_seen.stable⟩
  have hcall : Guarded Move (staying fun w => At document c w ∧ Seen o w)
      (fun w => At document c w ∧ Seen o w) (journalCall (takeoverV2 operationId id))
      fun r w => (At document c w ∧ Seen o w) ∧ r.checkpoint = c := by
    refine journalCall_guarded hheld
      (fun w hw => ⟨?_, unrelated_step (unrelated_journal _)⟩) fun w r hw hok =>
        hwritten w hw (Prod.ext hok rfl)
    change At document c
        { w with journal := (revise (takeover id w.now) operationId w.journal).2 } ∧
      Seen o { w with journal := (revise (takeover id w.now) operationId w.journal).2 }
    rcases hresult : revise (takeover id w.now) operationId w.journal with ⟨e | record, journal⟩
    · have hsame : journal = w.journal := revise_error hresult
      subst hsame
      exact hw
    · exact (hwritten w hw hresult).1
  refine Guarded.relax (hcall.attempt (fun r w h => ⟨h.1, ?_⟩) fun e w h => ⟨h, ?_⟩)
    (fun w h => h.1.safe) fun _ _ h => h
  · rintro r' hr'
    cases hr'
    exact h.2
  · rintro r' hr'
    cases hr'

/-! ## Too many recoveries -/

theorem closeExhausted_guarded {r : UpdaterResultV2} (hopen : r.status ∉ updaterTerminalStatuses) :
    Guarded Move safety (At document r.checkpoint) (closeExhausted document r)
      fun _ => Safe := by
  have henter : Guarded Move safety (At document r.checkpoint) (enterExhausted document r)
      fun entered => At document entered.checkpoint := by
    unfold enterExhausted
    split
    · exact Guarded.pure fun _ h => h
    · rename_i hforward
      refine prepare_guarded.bind fun preparation => ?_
      refine ((checkpoint_guarded (c := r.checkpoint) (exhaustedEntry _ _) rfl).pre
        fun w h => ⟨h, ?_⟩).post fun _ _ h => h.1
      have hcheckpoint : r.checkpoint ∈ forwardCheckpoints := by
        have hplaced := (consistent r).placed
        revert hplaced hopen hforward
        cases r.status <;> cases r.checkpoint <;> decide
      exact phase_rollback hcheckpoint h.phase
  refine henter.bind fun entered => ?_
  exact ((checkpoint_guarded (c := entered.checkpoint) ⟨.rollbackFailed, entered.checkpoint,
    none, none, none, some "recovery_generation_exhausted",
    some "更新恢复次数已达上限，需要人工恢复"⟩ rfl).pre fun _ h => ⟨h, h.phase⟩).bind
    fun _ => Guarded.pure fun _ h => h.1.safe

theorem markRecoveryExhausted_guarded {r : UpdaterResultV2}
    (hopen : r.status ∉ updaterTerminalStatuses) :
    Guarded Move safety (At document r.checkpoint) (markRecoveryExhausted document r)
      fun _ => Safe := by
  unfold markRecoveryExhausted
  split
  · exact Guarded.pure fun _ h => h.safe
  · exact ((closeExhausted_guarded hopen).attempt (T := fun _ => Safe) (fun _ _ h => h)
      fun _ _ h => h).bind fun _ => Guarded.pure fun _ h => h

/-! ## Acting -/

omit [Tools] in
/-- A commit is reconciled only if it was requested. -/
theorem decideRecovery_reconcile {r : ResultFields} {o : DockerRecoveryObservation}
    (h : (decideRecovery r o).action = .reconcileCommit) : r.status = .commitRequested := by
  unfold decideRecovery manualDecision at h
  split at h
  · cases h
  · split at h
    · cases h
    · split at h
      · cases h
      · split at h
        · cases h
        · cases h
        · cases h
        · cases h
        · assumption
        · split at h <;> cases h
        · split at h <;> cases h
        · split at h <;> cases h
        · split at h
          · cases h
          · split at h <;> cases h

variable [Verifiers] {duty : Duty} {marker : Option PendingUpdateMarker}

theorem goForward_safe : Guarded Move safety Safe (goForward duty) fun _ => Safe :=
  executeForward_guarded.bind fun _ => finish_safe

theorem goBack_safe : Guarded Move safety Safe (goBack duty) fun _ => Safe :=
  executeRollback_guarded.bind fun _ => finish_safe

theorem act_guarded (r : UpdaterResultV2) {o : DockerRecoveryObservation} :
    Guarded Move safety (fun w => At duty.document r.checkpoint w ∧ Seen o w)
      (act duty r.toResultFields marker o) fun _ => Safe := by
  have hpre (w : World) (h : At duty.document r.checkpoint w ∧ Seen o w) : Safe w := h.1.safe
  unfold act
  split
  · exact goForward_safe.pre hpre
  · exact goForward_safe.pre hpre
  · exact goBack_safe.pre hpre
  · exact goBack_safe.pre hpre
  · rename_i hreconcile
    have hphase : phase r.checkpoint = Switched := by
      have hplaced := (consistent r).placed
      rw [decideRecovery_reconcile hreconcile] at hplaced
      rw [List.mem_singleton.mp hplaced]
      rfl
    unfold reconcileCommit
    split
    · exact manual_safe.pre hpre
    · rename_i id hid
      split
      · exact goForward_safe.pre hpre
      · refine (startContainer_guarded hphase hid).bind fun _ => ?_
        refine observe_guarded_at.bind fun again => ?_
        split
        · exact goForward_safe.pre fun _ h => h.1.safe
        · exact manual_safe.pre fun _ h => h.1.safe
  · exact finish_safe.pre hpre
  · exact manual_safe.pre hpre

theorem actAsOwner_guarded {r : UpdaterResultV2} {o : DockerRecoveryObservation}
    (hid : duty.document.operationId = duty.coordinator.operationId)
    (hopen : r.status ∉ updaterTerminalStatuses) :
    Guarded Move safety (fun w => At duty.document r.checkpoint w ∧ Seen o w)
      (actAsOwner duty r marker o) fun _ => Safe := by
  unfold actAsOwner
  split
  · exact act_guarded r
  · refine (takeover_guarded hid).bind fun taken => ?_
    cases taken with
    | ok r' =>
      rintro w ⟨hw, hcheckpoint⟩
      refine act_guarded r' w ?_
      rw [hcheckpoint r' rfl]
      exact hw
    | error e =>
      cases e with
      | snapshot text =>
        dsimp only
        split
        · exact Guarded.throw fun _ h => h.1.1.safe
        · exact ((markRecoveryExhausted_guarded hopen).pre fun _ h => h.1.1).bind
            fun _ => manual_safe
      | stateMachine text => exact Guarded.throw fun _ h => h.1.1.safe
      | handoff text => exact Guarded.throw fun _ h => h.1.1.safe
      | candidate text => exact Guarded.throw fun _ h => h.1.1.safe
      | observation text => exact Guarded.throw fun _ h => h.1.1.safe
      | engine text => exact Guarded.throw fun _ h => h.1.1.safe
      | other => exact Guarded.throw fun _ h => h.1.1.safe

theorem recover_guarded (duty : Duty) {r : UpdaterResultV2}
    (hid : duty.document.operationId = duty.coordinator.operationId)
    (hopen : r.status ∉ updaterTerminalStatuses) :
    Guarded Move safety (At duty.document r.checkpoint) (recover duty r marker)
      fun _ => Safe := by
  refine observe_guarded_at.bind fun o => ?_
  split
  · exact manual_safe.pre fun _ h => h.1.safe
  · exact actAsOwner_guarded hid hopen

theorem runLocked_guarded {coordinator : Coordinator} :
    Guarded Move safety Safe (runLocked coordinator) fun _ => Safe := by
  refine (readHandoff_guarded held_safe).bind fun document => ?_
  have hA : Held Move safety fun w =>
      Known document w ∧ document.operationId = coordinator.operationId :=
    held_known.and fun _ _ _ h => h
  refine Guarded.pre (B := fun w => Known document w ∧
    document.operationId = coordinator.operationId) ?_ fun w h => ⟨⟨h.1, h.2.1⟩, h.2.2⟩
  refine (looks_guarded hA (identifyCurrentCoordinator_within fun _ => rfl)).bind fun id => ?_
  have hread : Guarded Move safety
      (fun w => Known document w ∧ document.operationId = coordinator.operationId)
      (readOptionalResult coordinator.operationId) fun result w =>
        (Known document w ∧ document.operationId = coordinator.operationId) ∧
        ∀ r, result = some (.inr r) → At document r.checkpoint w := by
    refine (looks_guarded hA (Within.look fun _ => rfl)).bind fun present => ?_
    split
    · refine (readResult_guarded hA).bind fun result => Guarded.pure fun w h => ⟨h.1, ?_⟩
      rintro r hr
      cases hr
      have hstored := h.2.1
      rw [← h.1.2] at hstored
      exact known_at h.1.1 hstored
    · exact Guarded.pure fun w h => ⟨h, fun r hr => by cases hr⟩
  refine hread.bind fun result => ?_
  rcases result with _ | r | r
  · exact goForward_safe.pre fun _ h => h.1.1.1
  · exact manual_safe.pre fun _ h => h.1.1.1
  · unfold coordinate
    dsimp only
    split
    · exact goForward_safe.pre fun _ h => h.1.1.1
    · split
      · exact finish_safe.pre fun _ h => h.1.1.1
      · rename_i hopen
        rintro w ⟨⟨_, hid⟩, hat⟩
        have hrecover {marker : Option PendingUpdateMarker} :
            Guarded Move safety (At document r.checkpoint)
              (recover ⟨coordinator, document, id⟩ r marker) fun _ => Safe :=
          recover_guarded ⟨coordinator, document, id⟩ hid hopen
        refine (?_ : Guarded Move safety (At document r.checkpoint) _ _) w (hat r rfl)
        refine (looks_guarded held_at (Within.look fun _ => rfl)).bind fun pending => ?_
        split
        · exact manual_safe.pre fun _ h => h.safe
        · exact hrecover
        · exact hrecover

/-! ## Runs -/

theorem program_safe (job : Job) : Guarded Move safety Safe job.program fun _ => Safe := by
  cases job with
  | forward executor operationId =>
    exact executeForward_guarded.bind fun _ => Guarded.pure fun _ h => h
  | rollback executor operationId => exact executeRollback_guarded
  | coordinator who => exact runLocked_guarded.bind fun _ => Guarded.pure fun _ h => h

theorem run_safe (run : Run) {w : World} (h : Safe w) :
    Safe (run.after w) ∧ ∀ s ∈ run.steps w, StartsRestored s.1 s.2 :=
  (program_safe run.job).run (fun _ _ h => h) h run.events

theorem runs_safe (runs : List Run) {w : World} (h : Safe w) : Safe (afterRuns runs w) := by
  induction runs generalizing w with
  | nil => exact h
  | cons run runs ih => exact ih (run_safe run h).1

/-- From the beginning of an operation on, after any number of runs of its
executors and of its coordinator: since each of them can stop before or after
every effect, with anything happening around it, these are all the states
there are. -/
theorem never_both (runs : List Run) {w : World} (h : Fresh w) : Separate (afterRuns runs w) :=
  recordPhase_separate (runs_safe runs h.safe).phased

end Coordination

/-! ## The sample -/

theorem sample_fresh :
    letI := sampleTools
    Fresh sampleWorld := by
  let _ := sampleTools
  have halone : sampleWorld.candidates = [] := by decide
  have hcontainers : ∀ c ∈ sampleWorld.containers, c = sampleSource ∨ c = sampleHelper := by
    intro c hc
    rcases List.mem_cons.mp hc with rfl | hc
    · exact .inl rfl
    · exact .inr (List.mem_singleton.mp hc)
  refine ⟨⟨⟨by decide, fun c hc _ => ?_⟩, by decide, fun c hc => ?_, fun c hc => ?_⟩,
    ⟨halone, fun c hc => absurd hc List.not_mem_nil⟩, rfl⟩
  · rcases hcontainers c hc with rfl | rfl <;> decide
  · rcases hcontainers c hc with rfl | rfl <;> decide
  · rcases hcontainers c hc with rfl | rfl <;> decide

/-- The sample, after its coordinator has run. -/
theorem sample_never_both :
    letI := sampleTools
    letI := sampleVerifiers
    Separate (afterRuns [⟨.coordinator sampleCoordinator, []⟩] sampleWorld) := by
  let _ := sampleTools
  let _ := sampleVerifiers
  exact never_both [⟨.coordinator sampleCoordinator, []⟩] sample_fresh

end MediaSync.NoSplitBrain
