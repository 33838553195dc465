import MediaSync.Appliance.UpdaterRestore

/-!
# Every step of the way back keeps everybody in place

The candidate is removed before the files are restored, the files are
restored before the old container can be started, and each of these is in the
record before the next begins.
-/
namespace MediaSync.UpdaterReturn
open FaultPrograms GuardedPrograms PythonText UpdateHandoff UpdateJournal JournalHistory
open UpdaterWorld UpdaterObservation UpdateSnapshot UpdaterForward UpdaterRollback
open UpdaterEffects UpdaterRuns UpdaterGuards UpdaterPhases UpdaterSafety UpdaterRestore

section Return
variable [Tools] {document : HandoffDocument} {c : UpdaterCheckpoint} {w w' : World}

/-! ## Checkpoints -/

theorem carryReason_checkpoint (current : UpdaterResult ⊕ UpdaterResultV2)
    (request : CheckpointRequest) :
    (carryReason current request).checkpoint = request.checkpoint := by
  unfold carryReason
  split
  · rfl
  · split <;> rfl

theorem rollbackCheckpoint_guarded (request : CheckpointRequest) {operationId : String}
    (hid : document.operationId = operationId) :
    Guarded Move safety (fun w => At document c w ∧ phase request.checkpoint w)
      (rollbackCheckpoint operationId request)
      fun r w => At document r.checkpoint w ∧ r.checkpoint = request.checkpoint := by
  refine (readResult_guarded held_phase).bind fun current => ?_
  have hcheckpoint := carryReason_checkpoint current request
  rw [← hcheckpoint]
  exact (checkpoint_guarded (carryReason current request) hid).pre fun _ h => h.1

/-! ## Entering -/

section Entering
variable {executor : Executor} {r : UpdaterResultV2} {preparation : CandidatePreparation}

omit [Tools] in
theorem failurePhase_forward {phase : String} (h : failurePhase c = some phase) :
    c ∈ forwardCheckpoints := by
  revert h
  cases c <;> simp [failurePhase, forwardCheckpoints]

theorem beginRollback_guarded :
    Guarded Move safety (At document r.checkpoint)
      (beginRollback executor document r preparation) fun r' => At document r'.checkpoint := by
  refine observe_guarded_at.bind fun observation => ?_
  split
  · exact Guarded.throw fun _ h => h.1.safe
  · split
    · exact Guarded.throw fun _ h => h.1.safe
    · rename_i hfailure
      refine ((rollbackCheckpoint_guarded (c := r.checkpoint) (rollbackEntry _ _ _) rfl).pre
        fun w h => ⟨h.1, ?_⟩).post fun _ _ h => h.1
      exact phase_rollback (failurePhase_forward hfailure) h.1.phase

theorem enterOrResume_guarded :
    Guarded Move safety (At document r.checkpoint) (enterOrResume executor document r)
      fun entered => At document entered.1.checkpoint := by
  refine prepare_guarded.bind fun preparation => ?_
  split
  · exact Guarded.throw fun _ h => h.safe
  · split
    · exact Guarded.pure fun _ h => h
    · split
      · exact Guarded.throw fun _ h => h.safe
      · exact beginRollback_guarded.bind fun _ => Guarded.pure fun _ h => h

end Entering

/-! ## The candidate -/

section Candidate
variable {executor : Executor} {result : ResultFields} {preparation : CandidatePreparation}

theorem before_remove {id : String} (h : Before w) : Before (w.remove id) := by
  refine ⟨?_, h.never⟩
  have hsub : (w.remove id).candidates.Sublist w.candidates := List.filter_sublist.filter _
  have hnone : w.candidates = [] := h.alone
  rw [hnone] at hsub
  exact List.sublist_nil.mp hsub

theorem observeSafely_guarded :
    Guarded Move safety (At document c) (observeSafely executor document result preparation)
      fun o w => At document c w ∧ Seen o w := by
  refine observe_guarded_at.bind fun o => ?_
  refine Guarded.bind (S := fun _ w => At document c w ∧ Seen o w)
    (require_guarded (fun _ h => h.1.safe) fun _ _ h => h) fun _ => Guarded.pure fun _ h => h

theorem stopCandidate_guarded :
    Guarded Move safety (At document c) (stopCandidate executor document result preparation)
      fun _ => At document c := by
  refine observeSafely_guarded.bind fun o => ?_
  refine Guarded.bind (S := fun _ => At document c) ?_ fun _ => ?_
  · refine skipIf_guarded (fun _ _ h => h.1) fun _ => ?_
    exact Guarded.bind (S := fun _ => At document c)
      (Guarded.ofExcept (fun _ h => h.1.safe) fun _ _ h _ => h.1) fun id => stopAndWait_at
  · refine observeSafely_guarded.bind fun confirmed => ?_
    exact require_guarded (fun _ h => h.1.safe) fun _ _ h => h.1

theorem remove_stopped {id : String} (hw : At document .candidateStopped w) :
    At document .candidateStopped (w.remove id) :=
  at_of hw ⟨rfl, rfl⟩ (orderly_remove hw.safe.orderly)
    (Or.imp before_remove switched_remove hw.phase)

theorem removeCandidate_guarded :
    Guarded Move safety (At document .candidateStopped)
      (removeCandidate executor document result preparation)
      fun _ w => At document .candidateStopped w ∧ UpdaterPhases.phase .candidateRemoved w := by
  have hremove (id : String) : Guarded Move safety (At document .candidateStopped)
      (removeContainer id) fun _ => At document .candidateStopped :=
    request_guarded held_at (fun w hw _ => ⟨(remove_stopped hw).safe, fun h =>
      absurd h not_startsSource_remove⟩) fun w hw _ => remove_stopped hw
  refine observeSafely_guarded.bind fun o => ?_
  refine Guarded.bind (S := fun _ => At document .candidateStopped) ?_ fun _ => ?_
  · refine skipIf_guarded (fun _ _ h => h.1) fun _ => ?_
    refine Guarded.bind (S := fun _ => At document .candidateStopped)
      (require_guarded (fun _ h => h.1.safe) fun _ _ h => h.1) fun _ => ?_
    exact Guarded.bind (S := fun _ => At document .candidateStopped)
      (Guarded.ofExcept (fun _ h => h.safe) fun _ _ h _ => h) fun id => hremove id
  · refine observeSafely_guarded.bind fun confirmed => ?_
    refine require_guarded (fun _ h => h.1.safe) fun hmissing w h => ⟨h.1, ?_⟩
    have halone := h.2.missing (of_decide_eq_true hmissing)
    exact Or.imp_right (fun hswitched => ⟨halone, hswitched.fenced, hswitched.stopped,
      hswitched.captured⟩) h.1.phase

end Candidate

/-! ## The old container -/

section Source
variable {result : ResultFields}

/-- A change that leaves it open whether a container runs. -/
structure Still (next : Container → Container) : Prop extends Mild next where
  running (c : Container) : (next c).running = c.running

theorem returning_change {id : String} {next : Container → Container} (h : Still next)
    (hw : Returning w) : Returning (w.change id next) := by
  refine ⟨noCandidate_change h.toMild hw.alone, hw.captured, hw.files.imp_right fun hkept =>
    ⟨forall_change h.toMild (fun c _ _ hc => ?_) hkept.1, hkept.2⟩⟩
  rw [h.running]
  exact hc

omit [Tools] in
theorem still_policy (policy : RestartPolicy) :
    Still fun c : Container => { c with restartPolicy := policy } :=
  ⟨mild_policy policy, fun _ => rfl⟩

theorem inspectOld_at :
    Guarded Move safety (At document c) (inspectOld document result) fun _ => At document c :=
  looks_guarded held_at (inspectOld_within fun _ => rfl)

theorem restoreOldName_guarded :
    Guarded Move safety (At document c) (restoreOldName document result)
      fun _ => At document c := by
  refine inspectOld_at.bind fun container => ?_
  refine Guarded.bind (S := fun _ => At document c) ?_ fun _ => ?_
  · unfold restoreSourceName
    split
    · exact calm_at (calm_name _)
    · exact require_guarded (fun _ h => h.safe) fun _ _ h => h
  · refine (looks_guarded held_at (inspectContainer_within fun _ => rfl)).bind fun confirmed => ?_
    exact require_guarded (fun _ h => h.safe) fun _ _ h => h

theorem restoreOldPolicy_guarded :
    Guarded Move safety (At document .oldNameRestored) (restoreOldPolicy document result)
      fun _ => At document .oldNameRestored := by
  have hnext (w : World) (id : String) (policy : RestartPolicy)
      (hw : At document .oldNameRestored w) :
      At document .oldNameRestored (w.setPolicy id policy) :=
    at_of hw ⟨rfl, rfl⟩ (orderly_change (mild_policy policy) hw.safe.orderly)
      (Or.imp (fun h => ⟨noCandidate_change (mild_policy policy) h.alone, h.never⟩)
        (returning_change (still_policy policy)) hw.phase)
  refine inspectOld_at.bind fun container => ?_
  refine Guarded.bind (S := fun _ => At document .oldNameRestored)
    (skipIf_guarded (fun _ _ h => h) fun _ => ?_) fun _ => ?_
  · refine request_guarded held_at (fun w hw _ => ⟨(hnext w _ _ hw).safe, fun h => ?_⟩)
      fun w hw _ => hnext w _ _ hw
    exact absurd h (not_startsSource_change (fun _ => rfl) fun _ h => h)
  · refine (looks_guarded held_at (inspectContainer_within fun _ => rfl)).bind fun confirmed => ?_
    exact require_guarded (fun _ h => h.safe) fun _ _ h => h

/-- The old container is started again when the files are those of the snapshot,
or when it ran meanwhile. -/
theorem returning_restored (h : Before w ∨ Returning w) : StartsRestored w w' := by
  rintro _ ⟨candidate, hstarted, hcandidate⟩
  rcases h with hbefore | hreturning
  · rw [hbefore.never candidate hstarted] at hcandidate
    cases hcandidate
  · exact hreturning.files.imp_right fun hkept => ⟨hreturning.captured, hkept.2⟩

theorem startOld_guarded :
    Guarded Move safety (At document .oldPolicyRestored) (startOld document result)
      fun _ => At document .oldPolicyRestored := by
  have hnext (w : World) (id : String) (hw : At document .oldPolicyRestored w) :
      At document .oldPolicyRestored (w.start id) :=
    at_of hw ⟨(Grows.start w id).document, start_journal w id⟩ (orderly_start hw.safe.orderly)
      (Or.imp before_start returning_start hw.phase)
  refine inspectOld_at.bind fun container => ?_
  refine Guarded.bind (S := fun _ => At document .oldPolicyRestored)
    (skipIf_guarded (fun _ _ h => h) fun _ => ?_) fun _ => ?_
  · exact request_guarded held_at (fun w hw _ => ⟨(hnext w _ hw).safe, returning_restored hw.phase⟩)
      fun w hw _ => hnext w _ hw
  · refine (looks_guarded held_at (inspectContainer_within fun _ => rfl)).bind fun confirmed => ?_
    exact require_guarded (fun _ h => h.safe) fun _ _ h => h

end Source

/-! ## Failures -/

/-- A record that stays at its checkpoint, whichever operation it belongs to. -/
theorem revise_safe {A : World → Prop} {operationId : String}
    {n : ℤ → UpdaterResultV2 → Except JournalError UpdaterResultV2} (hA : Held Move safety A)
    (hnext : ∀ w now current record, A w → w.journal operationId = some (.v2 current) →
      n now current = .ok record →
      record.operationId = current.operationId ∧ record.checkpoint = current.checkpoint) :
    Guarded Move safety A (journalCall fun now => revise (n now) operationId) fun _ => Safe := by
  have hwritten (w : World) (hw : A w) :
      Safe { w with journal := (revise (n w.now) operationId w.journal).2 } := by
    have hsafe := hA.safe w hw
    rcases hresult : revise (n w.now) operationId w.journal with ⟨e | record, journal⟩
    · have hsame : journal = w.journal := revise_error hresult
      subst hsame
      exact hsafe
    · obtain ⟨current, hread, hrecord, rfl⟩ := revise_ok hresult
      obtain ⟨hstored, hsame⟩ := readV2_ok hread
      obtain ⟨hid, hcheckpoint⟩ := hnext w w.now current record hw hstored hrecord
      have hworldId : record.operationId = operationId := hid.trans hsame
      by_cases hother : operationId = w.operationId
      · rw [hother] at hstored hworldId
        have hphased := hsafe.phased
        rw [hstored] at hphased
        have hphase : phase record.checkpoint w := by
          rw [hcheckpoint]
          exact hphased
        exact (at_written hsafe.orderly rfl hworldId hphase).safe
      · refine ⟨orderly_gentle (.unrelated (unrelated_journal _)) hsafe.orderly, ?_⟩
        have hkept : (w.journal.write record.operationId (.v2 record)) w.operationId =
            w.journal w.operationId := by
          rw [hworldId]
          exact Journal.write_other _ _ (Ne.symm hother)
        change recordPhase ((w.journal.write record.operationId (.v2 record)) w.operationId) _
        rw [hkept]
        exact recordPhase_gentle (.unrelated (unrelated_journal _)) hsafe.phased
  exact journalCall_guarded hA
    (fun w hw => ⟨hwritten w hw, unrelated_step (unrelated_journal _)⟩) fun w _ hw _ =>
      hwritten w hw

theorem markRollbackFailed_guarded {operationId : String} :
    Guarded Move safety Safe (markRollbackFailed operationId) fun _ => Safe := by
  refine (readResult_guarded held_safe).bind fun current => ?_
  cases current with
  | inl r => exact Guarded.pure fun _ h => h.1
  | inr r =>
    dsimp only
    split
    · exact Guarded.pure fun _ h => h.1
    · have hheld : Held Move safety fun w => Safe w ∧ Stored w.journal operationId (.inr r) :=
        held_safe.and fun m w _ h => by
          change Stored (w.move m).journal operationId (.inr r)
          rw [move_journal]
          exact h
      refine (revise_safe hheld fun w now current record hw hstored hrecord => ?_).bind fun _ =>
        Guarded.pure fun _ h => h
      have hsame : current = r := by
        have hknown := hw.2.1
        rw [hstored] at hknown
        cases hknown
        rfl
      rw [(advance_ok hrecord).2, hsame]
      exact ⟨rfl, rfl⟩

theorem rollbackError_guarded {operationId : String} (e : UpdaterError) :
    Guarded Move safety Safe (rollbackError operationId e) fun _ => Safe := by
  have hrecord : Guarded Move safety Safe (recordRollbackFailed operationId) fun _ => Safe :=
    (markRollbackFailed_guarded.attempt (T := fun _ => Safe) (fun _ _ h => h) fun _ _ h => h).bind
      fun _ => Guarded.pure fun _ h => h
  cases e with
  | stateMachine text => exact hrecord.bind fun _ => Guarded.throw fun _ h => h
  | snapshot text => exact Guarded.throw fun _ h => h
  | handoff text => exact Guarded.throw fun _ h => h
  | candidate text => exact Guarded.throw fun _ h => h
  | observation text => exact Guarded.throw fun _ h => h
  | engine text => exact Guarded.throw fun _ h => h
  | other => exact Guarded.throw fun _ h => h

/-! ## Branches -/

section Branches
variable {executor : Executor} {preparation : CandidatePreparation}

theorem removeCandidateEvidence_guarded :
    Guarded Move safety (At document c) removeCandidateEvidence fun _ => At document c :=
  harmless_guarded (Within.effect fun _ => ⟨⟨_, _, _, _, _, _, _, _, _, _, rfl⟩, rfl⟩)

variable [Verifiers]

/-- A branch brings about the phase of its checkpoint. -/
theorem rollbackBranch_guarded {r : ResultFields} {branch : Branch}
    (h : rollbackBranch executor document preparation r = some branch) :
    Guarded Move safety (At document r.checkpoint) branch.effect
      fun _ w => At document r.checkpoint w ∧ UpdaterPhases.phase branch.checkpoint w := by
  unfold rollbackBranch at h
  split at h
  · rename_i hcheckpoint
    cases h
    rw [hcheckpoint]
    exact learnNothing_guarded (stopCandidate_guarded.post fun _ _ h => ⟨h, h.phase⟩)
  · rename_i hcheckpoint
    cases h
    rw [hcheckpoint]
    exact learnNothing_guarded removeCandidate_guarded
  · rename_i hcheckpoint
    cases h
    rw [hcheckpoint]
    exact learnNothing_guarded restoreSnapshot_guarded
  · rename_i hcheckpoint
    cases h
    rw [hcheckpoint]
    exact learnNothing_guarded (removeCandidateEvidence_guarded.post fun _ _ h => ⟨h, h.phase⟩)
  · rename_i hcheckpoint
    cases h
    rw [hcheckpoint]
    refine learnNothing_guarded (restoreOldName_guarded.post fun _ _ h => ⟨h, ?_⟩)
    exact Or.imp_right (fun hback => ⟨hback.1.alone, hback.1.captured,
      .inr ⟨hback.1.stopped, hback.2⟩⟩) h.phase
  · rename_i hcheckpoint
    cases h
    rw [hcheckpoint]
    exact learnNothing_guarded (restoreOldPolicy_guarded.post fun _ _ h => ⟨h, h.phase⟩)
  · rename_i hcheckpoint
    cases h
    rw [hcheckpoint]
    exact learnNothing_guarded (startOld_guarded.post fun _ _ h => ⟨h, h.phase⟩)
  · rename_i hcheckpoint
    cases h
    rw [hcheckpoint]
    exact learnNothing_guarded ((looks_guarded held_at (Within.look fun _ => rfl)).post
      fun _ _ h => ⟨h, h.phase⟩)
  · rename_i hcheckpoint
    cases h
    rw [hcheckpoint]
    exact Guarded.pure fun _ h => ⟨h, h.phase⟩
  · rename_i hcheckpoint
    cases h
    rw [hcheckpoint]
    exact Guarded.pure fun _ h => ⟨h, h.phase⟩
  · cases h

theorem rollbackTurn_guarded (r : UpdaterResultV2) :
    Guarded Move safety (At document r.checkpoint) (rollbackTurn executor document preparation r)
      fun r' => At document r'.checkpoint := by
  unfold rollbackTurn
  split
  · exact Guarded.throw fun _ h => h.safe
  · rename_i branch hbranch
    exact (rollbackBranch_guarded hbranch).bind fun _ =>
      (rollbackCheckpoint_guarded ⟨branch.status, branch.checkpoint, none, none, none, none, none⟩
        rfl).post fun _ _ h => h.1

theorem rollbackWork_guarded {r : UpdaterResultV2} :
    Guarded Move safety (At document r.checkpoint) (rollbackWork executor document r)
      fun _ => Safe := by
  refine enterOrResume_guarded.bind fun entered => ?_
  refine (Guarded.whileLoop (A := fun r => At document r.checkpoint) (fun _ _ h => h.safe)
    (fun r _ => rollbackTurn_guarded r) _ entered.1).bind fun last => ?_
  exact Guarded.pure fun _ h => h.1.safe

theorem executeRollback_guarded {operationId : String} :
    Guarded Move safety Safe (executeRollback executor operationId) fun _ => Safe := by
  unfold executeRollback
  split
  · exact Guarded.throw fun _ h => h
  · refine readDocument_guarded.bind fun document => ?_
    have hread : Guarded Move safety (Known document)
        (readRollbackResult executor document.operationId) fun r => At document r.checkpoint := by
      refine (readResult_guarded held_known).bind fun result => ?_
      cases result with
      | inl r => exact Guarded.throw fun _ h => h.1.1
      | inr r =>
        dsimp only
        split
        · exact Guarded.throw fun _ h => h.1.1
        · split
          · exact Guarded.throw fun _ h => h.1.1
          · split
            · exact Guarded.throw fun _ h => h.1.1
            · exact Guarded.pure fun _ h => known_at h.1 h.2.1
    refine hread.bind fun r => ?_
    split
    · exact Guarded.pure fun _ h => h.safe
    · exact rollbackWork_guarded.handle fun e => rollbackError_guarded e

end Branches

end Return

end MediaSync.UpdaterReturn
