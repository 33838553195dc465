import MediaSync.Appliance.JournalHistory
import MediaSync.Appliance.UpdaterGuards

/-!
# The journal and its executors

Over any sequence of calls a record keeps what identifies its operation and
its candidate, never turns back and never changes once it is terminal. For
every record that is not terminal one of the two executors has a branch, and
the journal takes the checkpoint of that branch with whatever the branch has
found out. Either executor is through after as many turns as its loop allows.
-/
namespace MediaSync.JournalBranches
open FaultPrograms GuardedPrograms PythonText UpdateHandoff UpdateJournal JournalHistory
open UpdaterWorld UpdaterObservation UpdateSnapshot UpdaterForward UpdaterRollback UpdaterRuns
open UpdaterGuards

/-! ## Sequences of calls -/

/-- What stays of a record over any number of calls. -/
structure Lasts (before after : ResultFields) : Prop where
  sequence : before.sequence ≤ after.sequence
  operation : SameOperation before after
  token (hash : String) : before.candidateTokenHash = some hash →
    after.candidateTokenHash = some hash
  candidate (id : String) : before.candidateContainerId = some id →
    after.candidateContainerId = some id
  generation : before.recoveryGeneration ≤ after.recoveryGeneration
  back : before.checkpoint ∈ rollbackCheckpoints → after.checkpoint ∈ rollbackCheckpoints
  closed : before.status ∈ updaterTerminalStatuses → after = before

theorem Lasts.refl (r : ResultFields) : Lasts r r where
  sequence := Nat.le_refl _
  operation := ⟨rfl, rfl, rfl, rfl, rfl, rfl⟩
  token _ h := h
  candidate _ h := h
  generation := Nat.le_refl _
  back h := h
  closed _ := rfl

theorem SameOperation.trans {first middle last : ResultFields} (h : SameOperation first middle)
    (k : SameOperation middle last) : SameOperation first last where
  operationId := k.operationId.trans h.operationId
  sourceContainerId := k.sourceContainerId.trans h.sourceContainerId
  sourceImageId := k.sourceImageId.trans h.sourceImageId
  sourceContainerName := k.sourceContainerName.trans h.sourceContainerName
  targetImage := k.targetImage.trans h.targetImage
  targetRevision := k.targetRevision.trans h.targetRevision

theorem Lasts.trans {first middle last : ResultFields} (h : Lasts first middle)
    (k : Lasts middle last) : Lasts first last where
  sequence := Nat.le_trans h.sequence k.sequence
  operation := SameOperation.trans h.operation k.operation
  token hash hknown := k.token hash (h.token hash hknown)
  candidate id hknown := k.candidate id (h.candidate id hknown)
  generation := Nat.le_trans h.generation k.generation
  back hback := k.back (h.back hback)
  closed hclosed := by
    have hmiddle := h.closed hclosed
    rw [hmiddle] at k
    exact k.closed hclosed

theorem owned_generation {call : Call} {before after : ResultFields}
    (h : Owned call before after) : before.recoveryGeneration ≤ after.recoveryGeneration := by
  cases call with
  | takeoverV2 id coordinator =>
    have hnext : after.recoveryGeneration = before.recoveryGeneration + 1 := congrArg Prod.snd h
    omega
  | start id => exact Nat.le_of_eq (congrArg Prod.snd h).symm
  | startV2 document coordinator => exact Nat.le_of_eq (congrArg Prod.snd h).symm
  | transition id status code message => exact Nat.le_of_eq (congrArg Prod.snd h).symm
  | checkpointV2 id request => exact Nat.le_of_eq (congrArg Prod.snd h).symm

theorem continues_lasts {call : Call} {before after : ResultFields}
    (h : Continues before after) (howned : Owned call before after) : Lasts before after where
  sequence := by
    have hnext := h.sequence
    omega
  operation := h.operation
  token := h.token
  candidate := h.candidate
  generation := owned_generation howned
  back := h.stays
  closed hclosed := absurd hclosed h.open_

section Calls
variable [Alphanumerics]

theorem call_lasts (call : Call) (now : ℤ) {journal : Journal} {id : String}
    {r : UpdaterResultV2} (h : journal id = some (.v2 r)) :
    ∃ r', (call.apply now journal).2 id = some (.v2 r') ∧
      Lasts r.toResultFields r'.toResultFields := by
  have hkeeps := call_keeps call now journal
  by_cases hid : id = call.operationId
  · subst hid
    rcases hanswer : (call.apply now journal).1 with e | _
    · rw [hkeeps.rejected e hanswer]
      exact ⟨r, h, Lasts.refl _⟩
    · obtain ⟨r', hstored, hcontinues, howned⟩ := hkeeps.record r hanswer h
      exact ⟨r', hstored, continues_lasts hcontinues howned⟩
  · rw [hkeeps.others id hid]
    exact ⟨r, h, Lasts.refl _⟩

theorem runAll_lasts (calls : List (Call × ℤ)) {journal : Journal} {id : String}
    {r : UpdaterResultV2} (h : journal id = some (.v2 r)) :
    ∃ r', runAll calls journal id = some (.v2 r') ∧
      Lasts r.toResultFields r'.toResultFields := by
  induction calls generalizing journal r with
  | nil => exact ⟨r, h, Lasts.refl _⟩
  | cons call calls ih =>
    obtain ⟨middle, hmiddle, hfirst⟩ := call_lasts call.1 call.2 h
    obtain ⟨last, hlast, hrest⟩ := ih hmiddle
    exact ⟨last, hlast, hfirst.trans hrest⟩

end Calls

/-! ## Branches -/

section Branches
variable [Tools]

/-- What the effect of a branch finds out: the hash of the token where it is
drawn, and the identifier of the candidate where it is created. -/
structure Finds (b : Branch) (learned : Learned) : Prop where
  token : learned.candidateTokenHash.isSome = decide (b.checkpoint = .pendingReady)
  candidate : learned.candidateContainerId.isSome = decide (b.checkpoint = .candidateCreated)
  full (id : String) : learned.candidateContainerId = some id → fullContainerId id = true

/-- How the way forward stores the checkpoint of a branch. -/
def forwardRequest (b : Branch) (learned : Learned) : CheckpointRequest where
  status := b.status
  checkpoint := b.checkpoint
  candidateTokenHash := learned.candidateTokenHash
  candidateContainerId := learned.candidateContainerId

/-- How the way back stores it: nothing is learned, and the reason stays. -/
def rollbackRequest (r : UpdaterResultV2) (b : Branch) (_ : Learned) : CheckpointRequest :=
  carryReason (.inr r) { status := b.status, checkpoint := b.checkpoint }

/-- A branch whose checkpoint the journal takes next, with all that its effect
may have found out. -/
structure NextBranch (branch : Option Branch) (request : Branch → Learned → CheckpointRequest)
    (r : UpdaterResultV2) : Prop where
  exists_ : ∃ b, branch = some b ∧
    (b.status = r.status ∨ b.status ∈ updaterTransitions r.status) ∧
    b.checkpoint ∈ checkpointsOf b.status ∧
    validateCheckpointProgress r.toResultFields b.status b.checkpoint r.rollbackStarted = .ok () ∧
    Answers (Finds b) b.effect ∧
    ∀ learned now, Finds b learned →
      (∀ hash, learned.candidateTokenHash = some hash → digestPattern hash = true) →
        ∃ record, advance (request b learned) now r = .ok record

/-- The executor that goes on from a record, if it belongs to the coordinator
of the record. -/
inductive GoesOn [Verifiers] (executor : Executor) (document : HandoffDocument)
    (preparation : CandidatePreparation) (r : UpdaterResultV2) : Prop
  | forward (h : r.rollbackStarted = false)
      (resumable : r.coordinatorContainerId = executor.coordinatorContainerId →
        validateResumable executor r.toResultFields = .ok ())
      (next : NextBranch (forwardBranch executor document r.toResultFields) forwardRequest r)
  | back (h : r.rollbackStarted = true) (status : r.status = .rollingBack)
      (next : NextBranch (rollbackBranch executor document preparation r.toResultFields)
        (rollbackRequest r) r)

end Branches

/-! ## What the journal accepts -/

theorem statusCheckpoint_ok {r : ResultFields} (h : Consistent r) :
    ∀ check ∈ validateStatusCheckpoint r, check.1 = false := by
  have hplaced := placed_iff.mpr h.placed
  simp only [validateStatusCheckpoint, List.forall_mem_cons, List.not_mem_nil, false_imp_iff,
    implies_true, and_true]
  by_cases hf : r.checkpoint ∈ forwardCheckpoints
  · have hflag : r.rollbackStarted = false := Bool.eq_false_iff.mpr fun htrue =>
      not_forward_iff.mpr (h.rollback.mp htrue) hf
    rw [if_pos hf] at hplaced
    simp [hf, hflag, hplaced, tokenKnown_forward hf, candidateKnown_forward hf, h.token,
      h.candidate hf]
  · have hflag : r.rollbackStarted = true := h.rollback.mpr (not_forward_iff.mp hf)
    have htoken : r.candidateTokenHash.isSome = true := by
      rw [h.token, tokenKnown_rollback (not_forward_iff.mp hf)]
    rw [if_neg hf] at hplaced
    simp [hf, hflag, hplaced, htoken]

theorem any_orElse {p : String → Bool} {requested stored : Option String}
    (hrequested : ∀ value, requested = some value → p value = false)
    (hstored : stored.any p = false) : (requested <|> stored).any p = false := by
  cases requested with
  | none => exact hstored
  | some value => exact hrequested value rfl

/-- What is found out only where nothing is known contradicts nothing. -/
theorem contradicts_new {stored found : Option String} {known new : Bool}
    (hstored : stored.isSome = known) (hfound : found.isSome = new)
    (h : new = true → known = false) : contradicts stored found = false := by
  unfold contradicts
  rw [hstored, hfound]
  cases new with
  | false => simp
  | true => simp [h rfl]

theorem isSome_orElse (requested stored : Option String) :
    (requested <|> stored).isSome = (requested.isSome || stored.isSome) := by
  cases requested <;> rfl

section Accepting
variable [Alphanumerics] {current : UpdaterResultV2} {request : CheckpointRequest} {now : ℤ}

/-- A record that goes on from a valid one is valid if it is consistent and
what is new in it is. -/
theorem advanced_valid (herror : validatePublicError request.errorCode
      request.publicErrorMessage = .ok ())
    (hhash : ∀ hash, request.candidateTokenHash = some hash → digestPattern hash = true)
    (hfull : ∀ id, request.candidateContainerId = some id → fullContainerId id = true)
    (hfits : Consistent (advanced request now current.toResultFields)) :
    validateInvariants (advanced request now current.toResultFields) = .ok () := by
  have hcurrent := reportFirst_ok.mp current.valid
  have hpublic := reportFirst_ok.mp herror
  have hgeneration : ¬ maxRecoveryGeneration < current.recoveryGeneration :=
    Nat.not_lt.mpr (consistent current).generation
  refine reportFirst_ok.mpr (List.forall_mem_append.mpr ⟨?_, statusCheckpoint_ok hfits⟩)
  simp only [List.forall_mem_append, List.forall_mem_cons, List.not_mem_nil, false_imp_iff,
    implies_true, and_true] at hcurrent hpublic ⊢
  obtain ⟨⟨_, _, hid, hcontainers, hcandidate, himage, hname, hrevision, htarget, htoken, _,
    _⟩, _⟩ :=
    hcurrent
  refine ⟨decide_eq_false (Nat.not_lt.mpr hfits.sequence), decide_eq_false hgeneration, hid,
    hcontainers, any_orElse (fun id h => ?_) hcandidate, himage, hname, hrevision, htarget,
    any_orElse (fun hash h => ?_) htoken, hpublic.1, hpublic.2⟩
  · rw [hfull id h, Bool.not_true]
  · rw [hhash hash h, Bool.not_true]

/-- A request that fits its record is accepted. -/
theorem advance_accepts (hopen : current.status ∉ updaterTerminalStatuses)
    (hstatus : request.status = current.status ∨
      request.status ∈ updaterTransitions current.status)
    (htoken : contradicts current.candidateTokenHash request.candidateTokenHash = false)
    (hcandidate : contradicts current.candidateContainerId request.candidateContainerId = false)
    (hprogress : validateCheckpointProgress current.toResultFields request.status
      request.checkpoint (request.rollbackStarted.getD current.rollbackStarted) = .ok ())
    (herror : validatePublicError request.errorCode request.publicErrorMessage = .ok ())
    (hvalid : validateInvariants (advanced request now current.toResultFields) = .ok ()) :
    ∃ record, advance request now current = .ok record := by
  have hnot : ¬ (request.status ≠ current.status ∧
      request.status ∉ updaterTransitions current.status) := fun h => hstatus.elim h.1 h.2
  have hbuilt : modelValidate (advanced request now current.toResultFields) = .ok ⟨_, hvalid⟩ := by
    unfold modelValidate
    split
    · rfl
    · rename_i hrefused
      rw [hvalid] at hrefused
      cases hrefused
  refine ⟨⟨_, hvalid⟩, ?_⟩
  unfold advance
  simp only [if_neg hopen, if_neg hnot, htoken, hcandidate, hprogress, herror, hbuilt,
    Bool.false_eq_true, if_false]
  rfl

end Accepting

/-! ## Going on -/

theorem relevantIds_full {containers : List Container} {result : ResultFields} :
    ∀ id ∈ relevantIds containers result, fullContainerId id = true := by
  intro id hid
  obtain ⟨c, hc, rfl⟩ := List.mem_map.mp ((List.perm_insertionSort _ _).mem_iff.mp hid)
  exact (Bool.and_eq_true_iff.mp (List.mem_filter.mp hc).2).1

section GoingOn
variable [Tools] {executor : Executor} {document : HandoffDocument}
  {preparation : CandidatePreparation} {b : Branch}

/-- A branch that is next for the fields of a record. -/
structure Follows (b : Branch) (r : ResultFields) : Prop where
  status : b.status = r.status ∨ b.status ∈ updaterTransitions r.status
  placed : b.checkpoint ∈ checkpointsOf b.status
  progress : validateCheckpointProgress r b.status b.checkpoint r.rollbackStarted = .ok ()
  token : tokenKnown b.checkpoint =
    (decide (b.checkpoint = .pendingReady) || tokenKnown r.checkpoint)
  drawn : b.checkpoint = .pendingReady → tokenKnown r.checkpoint = false
  candidate : b.checkpoint ∈ forwardCheckpoints → candidateKnown b.checkpoint =
    (decide (b.checkpoint = .candidateCreated) || candidateKnown r.checkpoint)
  created : b.checkpoint = .candidateCreated → candidateKnown r.checkpoint = false

variable {r : UpdaterResultV2}

theorem forward_accepted (h : Follows b r.toResultFields)
    (hopen : r.status ∉ updaterTerminalStatuses) (hflag : r.rollbackStarted = false)
    {learned : Learned} (now : ℤ) (hfinds : Finds b learned)
    (hhash : ∀ hash, learned.candidateTokenHash = some hash → digestPattern hash = true) :
    ∃ record, advance (forwardRequest b learned) now r = .ok record := by
  have hr := consistent r
  have hforward : r.checkpoint ∈ forwardCheckpoints := Classical.byContradiction fun hnot =>
    Bool.eq_false_iff.mp hflag (hr.rollback.mpr (not_forward_iff.mp hnot))
  have hcandidate := hr.candidate hforward
  refine advance_accepts hopen h.status
    (contradicts_new hr.token hfinds.token fun hnew => h.drawn (of_decide_eq_true hnew))
    (contradicts_new hcandidate hfinds.candidate fun hnew => h.created (of_decide_eq_true hnew))
    h.progress rfl (advanced_valid rfl hhash hfinds.full ?_)
  have hprogress := validateCheckpointProgress_ok h.progress
  exact {
    sequence := Nat.le_add_left _ _
    generation := hr.generation
    rollback := by
      change r.rollbackStarted = true ↔ b.checkpoint ∈ rollbackCheckpoints
      rw [hprogress.flag, decide_eq_true_iff]
    placed := h.placed
    token := by
      change (learned.candidateTokenHash <|> r.candidateTokenHash).isSome = tokenKnown b.checkpoint
      rw [isSome_orElse, hfinds.token, hr.token, h.token]
    candidate := fun hb => by
      change (learned.candidateContainerId <|> r.candidateContainerId).isSome =
        candidateKnown b.checkpoint
      rw [isSome_orElse, hfinds.candidate, hcandidate, h.candidate hb] }

theorem rollback_accepted (h : Follows b r.toResultFields) (hopen : r.status = .rollingBack)
    (hflag : r.rollbackStarted = true) (learned : Learned) (now : ℤ) :
    ∃ record, advance (rollbackRequest r b learned) now r = .ok record := by
  have hr := consistent r
  have hprogress := validateCheckpointProgress_ok h.progress
  have hback : b.checkpoint ∈ rollbackCheckpoints :=
    of_decide_eq_true (hprogress.flag.symm.trans hflag)
  have hrequest : rollbackRequest r b learned =
      { status := b.status
        checkpoint := b.checkpoint
        errorCode := r.errorCode
        publicErrorMessage := r.publicErrorMessage } := if_pos ⟨hflag, rfl, rfl⟩
  rw [hrequest]
  have herror : validatePublicError r.errorCode r.publicErrorMessage = .ok () := by
    have hvalid := reportFirst_ok.mp r.valid
    refine reportFirst_ok.mpr ?_
    simp only [List.forall_mem_append, List.forall_mem_cons, List.not_mem_nil, false_imp_iff,
      implies_true, and_true] at hvalid ⊢
    obtain ⟨⟨_, _, _, _, _, _, _, _, _, _, hcode, hmessage⟩, _⟩ := hvalid
    exact ⟨hcode, hmessage⟩
  refine advance_accepts (by rw [hopen]; decide) h.status (by simp [contradicts])
    (by simp [contradicts]) h.progress herror
    (advanced_valid herror (fun _ h => by cases h) (fun _ h => by cases h) ?_)
  exact {
    sequence := Nat.le_add_left _ _
    generation := hr.generation
    rollback := by
      change r.rollbackStarted = true ↔ b.checkpoint ∈ rollbackCheckpoints
      rw [hprogress.flag, decide_eq_true_iff]
    placed := h.placed
    token := by
      change r.candidateTokenHash.isSome = tokenKnown b.checkpoint
      rw [hr.token, tokenKnown_rollback hback, tokenKnown_rollback (hr.rollback.mp hflag)]
    candidate := fun hb => absurd hb (not_forward_iff.mpr hback) }

/-! ## What a branch finds out -/

theorem finds_nothing (hpending : b.checkpoint ≠ .pendingReady)
    (hcreated : b.checkpoint ≠ .candidateCreated) : Finds b {} where
  token := (decide_eq_false hpending).symm
  candidate := (decide_eq_false hcreated).symm
  full _ h := by cases h

theorem learnNothing_finds {p : Updater Unit} (hpending : b.checkpoint ≠ .pendingReady)
    (hcreated : b.checkpoint ≠ .candidateCreated) : Answers (Finds b) (learnNothing p) :=
  Answers.any.bind fun _ _ => Answers.pure (finds_nothing hpending hcreated)

theorem inspectAll_full {ids : List String} (h : ∀ id ∈ ids, fullContainerId id = true) :
    Answers (fun cs => ∀ c ∈ cs, fullContainerId c.id = true) (inspectAll ids) := by
  induction ids with
  | nil => exact Answers.pure fun _ hc => absurd hc List.not_mem_nil
  | cons id ids ih =>
    obtain ⟨hid, hids⟩ := List.forall_mem_cons.mp h
    refine Answers.bind (P := fun c => fullContainerId c.id = true)
      (Answers.look fun w c hc => ?_) fun c hc => (ih hids).bind fun cs hcs =>
        Answers.pure (List.forall_mem_cons.mpr ⟨hc, hcs⟩)
    split at hc
    · cases hc
    · rename_i found hfound
      cases hc
      rw [(container_mem hfound).2]
      exact hid

/-- The candidate of an observation has a full identifier. -/
def FullCandidate (o : DockerRecoveryObservation) : Prop :=
  ∀ id, o.candidate.containerId = some id → fullContainerId id = true

theorem observe_full {socketPath hostname : String} {result : ResultFields}
    {marker : Option PendingUpdateMarker} :
    Answers FullCandidate (observe socketPath document result marker hostname) := by
  unfold observe
  split
  · trivial
  · refine Answers.any.bind fun summaries _ =>
      (inspectAll_full relevantIds_full).bind fun cs hcs => Answers.pure fun id hid => ?_
    obtain ⟨c, hc, rfl, _⟩ := observeCandidate_labelled hid
    exact hcs c hc

theorem ensureCandidate_full {result : ResultFields} :
    Answers (fun id => fullContainerId id = true)
      (ensureCandidate executor document result preparation) := by
  have hcreated (first : DockerRecoveryObservation) (h : FullCandidate first) :
      Answers FullCandidate (createMissing executor document result preparation first) := by
    unfold createMissing
    split
    · exact Answers.any.bind fun _ _ => observe_full
    · exact Answers.pure h
  refine observe_full.bind fun first hfirst => (hcreated first hfirst).bind
    fun observation hobservation => ?_
  split
  · rename_i id _ hid
    exact Answers.pure (hobservation id hid)
  · trivial

theorem preparePending_finds {b : Branch} (h : b.checkpoint = .pendingReady) :
    Answers (Finds b) (preparePending document) :=
  Answers.any.bind fun _ _ => Answers.pure
    { token := (decide_eq_true h).symm
      candidate := by simp [h]
      full := fun _ hid => by cases hid }

theorem prepareCandidate_finds {result : ResultFields} (h : b.checkpoint = .candidateCreated) :
    Answers (Finds b) (prepareCandidate executor document result) :=
  Answers.any.bind fun _ _ => ensureCandidate_full.bind fun _ hfull => Answers.pure
    { token := by simp [h]
      candidate := (decide_eq_true h).symm
      full := fun _ hid => by
        cases hid
        exact hfull }

/-! ## What a checkpoint answers -/

theorem checkpointV2_answers {operationId : String} {request : CheckpointRequest} :
    Answers (fun r => r.status = request.status ∧ r.checkpoint = request.checkpoint)
      (journalCall (checkpointV2 operationId request)) := by
  refine Answers.effect fun w r hok => ?_
  obtain ⟨current, _, hrecord, _⟩ := revise_ok (Prod.ext (mapError_ok hok) rfl)
  rw [(advance_ok hrecord).2]
  exact ⟨rfl, rfl⟩

theorem carryReason_same (current : UpdaterResult ⊕ UpdaterResultV2)
    (request : CheckpointRequest) : (carryReason current request).status = request.status ∧
      (carryReason current request).checkpoint = request.checkpoint := by
  unfold carryReason
  split
  · exact ⟨rfl, rfl⟩
  · split <;> exact ⟨rfl, rfl⟩

variable [Verifiers] {result : ResultFields}

theorem forwardBranch_finds (h : forwardBranch executor document result = some b) :
    Answers (Finds b) b.effect := by
  unfold forwardBranch at h
  split at h
  · cases h
    exact learnNothing_finds nofun nofun
  · cases h
    exact learnNothing_finds nofun nofun
  · cases h
    exact preparePending_finds rfl
  · cases h
    exact learnNothing_finds nofun nofun
  · cases h
    exact learnNothing_finds nofun nofun
  · cases h
    exact prepareCandidate_finds rfl
  · cases h
    exact learnNothing_finds nofun nofun
  · split at h
    · cases h
      exact Answers.pure (finds_nothing nofun nofun)
    · cases h
      exact learnNothing_finds nofun nofun
  · cases h
    exact Answers.pure (finds_nothing nofun nofun)
  · cases h
    exact learnNothing_finds nofun nofun
  · cases h

theorem rollbackBranch_finds (h : rollbackBranch executor document preparation result = some b) :
    Answers (Finds b) b.effect := by
  unfold rollbackBranch at h
  split at h <;> cases h
  case h_9 => exact Answers.pure (finds_nothing nofun nofun)
  case h_10 => exact Answers.pure (finds_nothing nofun nofun)
  all_goals exact learnNothing_finds nofun nofun

/-! ## The bounds of the loops -/

/-- How many turns are left on the way forward, at most. -/
def forwardRank (status : UpdaterStatus) (checkpoint : UpdaterCheckpoint) : ℕ :=
  if status = .success then 0
  else 2 * (10 - forwardCheckpoints.idxOf checkpoint) + if status = .switching then 1 else 0

/-- How many turns are left on the way back, at most. -/
def rollbackRank (status : UpdaterStatus) (checkpoint : UpdaterCheckpoint) : ℕ :=
  if status = .rolledBack then 0 else 10 - rollbackCheckpoints.idxOf checkpoint

theorem forwardBranch_rank (hgoing : result.status ≠ .success)
    (h : forwardBranch executor document result = some b) :
    forwardRank b.status b.checkpoint < forwardRank result.status result.checkpoint := by
  unfold forwardBranch at h
  split at h <;> rename_i hcheckpoint
  case h_8 =>
    split at h <;> rename_i hstatus <;> cases h <;>
      simp [forwardRank, hcheckpoint, hgoing, hstatus, forwardCheckpoints]
  all_goals
    cases h <;>
      simp [forwardRank, hcheckpoint, hgoing, forwardCheckpoints] <;> omega

theorem rollbackBranch_rank (hgoing : result.status ≠ .rolledBack)
    (h : rollbackBranch executor document preparation result = some b) :
    rollbackRank b.status b.checkpoint < rollbackRank result.status result.checkpoint := by
  unfold rollbackBranch at h
  split at h <;> rename_i hcheckpoint <;> cases h <;>
    simp [rollbackRank, hcheckpoint, hgoing, rollbackCheckpoints]

/-- The bound on the turns of the way forward is never reached. -/
theorem forward_turns_suffice {turns : ℕ} (h : forwardTurns ≤ turns) (r : UpdaterResultV2) :
    whileLoop forwardGoing (forwardTurn executor document) .other turns r =
      whileLoop forwardGoing (forwardTurn executor document) .other forwardTurns r := by
  have hrank : forwardRank r.status r.checkpoint < forwardTurns := by
    unfold forwardRank forwardTurns
    split_ifs <;> omega
  refine whileLoop_turns (fun r => forwardRank r.status r.checkpoint)
    (fun r hgoing => ?_) (Nat.lt_of_lt_of_le hrank h) hrank
  unfold forwardTurn
  split
  · trivial
  · rename_i b hbranch
    refine Answers.any.bind fun learned _ => checkpointV2_answers.mono fun r' hr' => ?_
    rw [hr'.1, hr'.2]
    exact forwardBranch_rank (of_decide_eq_true hgoing) hbranch

/-- Nor is the bound on the turns of the way back. -/
theorem rollback_turns_suffice {turns : ℕ} (h : rollbackTurns ≤ turns) (r : UpdaterResultV2) :
    whileLoop rollbackGoing (rollbackTurn executor document preparation) .other turns r =
      whileLoop rollbackGoing (rollbackTurn executor document preparation) .other
        rollbackTurns r := by
  have hrank : rollbackRank r.status r.checkpoint < rollbackTurns := by
    unfold rollbackRank rollbackTurns
    split_ifs <;> omega
  refine whileLoop_turns (fun r => rollbackRank r.status r.checkpoint)
    (fun r hgoing => ?_) (Nat.lt_of_lt_of_le hrank h) hrank
  unfold rollbackTurn
  split
  · trivial
  · rename_i b hbranch
    refine Answers.any.bind fun _ _ => Answers.any.bind fun current _ =>
      checkpointV2_answers.mono fun r' hr' => ?_
    obtain ⟨hstatus, hcheckpoint⟩ :=
      carryReason_same current { status := b.status, checkpoint := b.checkpoint }
    rw [hr'.1, hr'.2, hstatus, hcheckpoint]
    exact rollbackBranch_rank (of_decide_eq_true hgoing) hbranch

/-! ## Records and their branches -/

theorem forwardBranch_follows {r : ResultFields} (hflag : r.rollbackStarted = false)
    (hstatus : r.status ∈ [.snapshotting, .switching, .verifying, .commitRequested])
    (hplaced : r.checkpoint ∈ checkpointsOf r.status) :
    ∃ b, forwardBranch executor document r = some b ∧ Follows b r := by
  obtain ⟨_, _, status, checkpoint, _⟩ := r
  simp only at hflag hstatus hplaced
  subst hflag
  simp only [List.mem_cons, List.not_mem_nil, or_false] at hstatus
  rcases hstatus with rfl | rfl | rfl | rfl <;>
    simp only [checkpointsOf, List.mem_cons, List.not_mem_nil, or_false] at hplaced
  · rcases hplaced with rfl | rfl | rfl | rfl | rfl <;>
      exact ⟨_, rfl, by simp [updaterTransitions], by simp [checkpointsOf], rfl, rfl,
        by simp [tokenKnown], fun _ => rfl, by simp [candidateKnown]⟩
  · rcases hplaced with rfl | rfl | rfl <;>
      exact ⟨_, rfl, by simp [updaterTransitions], by simp [checkpointsOf], rfl, rfl,
        by simp [tokenKnown], fun _ => rfl, by simp [candidateKnown]⟩
  · rcases hplaced with rfl | rfl <;>
      exact ⟨_, rfl, by simp [updaterTransitions], by simp [checkpointsOf], rfl, rfl,
        by simp [tokenKnown], fun _ => rfl, by simp [candidateKnown]⟩
  · subst hplaced
    exact ⟨_, rfl, by simp [updaterTransitions], by simp [checkpointsOf], rfl, rfl,
      by simp [tokenKnown], fun _ => rfl, by simp [candidateKnown]⟩

theorem rollbackBranch_follows {r : ResultFields} (hflag : r.rollbackStarted = true)
    (hstatus : r.status = .rollingBack) (hplaced : r.checkpoint ∈ rollbackCheckpoints) :
    ∃ b, rollbackBranch executor document preparation r = some b ∧ Follows b r := by
  obtain ⟨_, _, status, checkpoint, _⟩ := r
  simp only at hflag hstatus hplaced
  subst hflag hstatus
  simp only [rollbackCheckpoints, List.mem_cons, List.not_mem_nil, or_false] at hplaced
  rcases hplaced with rfl | rfl | rfl | rfl | rfl | rfl | rfl | rfl | rfl | rfl <;>
    exact ⟨_, rfl, by simp [updaterTransitions], by simp [checkpointsOf, rollbackCheckpoints], rfl,
      rfl, by simp, fun _ => rfl, by simp⟩

theorem goesOn_forward (hopen : r.status ∉ updaterTerminalStatuses)
    (hflag : r.rollbackStarted = false)
    (hstatus : r.status ∈ [.snapshotting, .switching, .verifying, .commitRequested]) :
    GoesOn executor document preparation r := by
  refine .forward hflag (fun howner => ?_) ?_
  · have hnot : r.status ∉ [.rollingBack, .rolledBack, .failed, .rollbackFailed] := by
      revert hstatus
      cases r.status <;> decide
    simp [validateResumable, howner, hflag, hnot]
  · obtain ⟨b, hbranch, hfollows⟩ : ∃ b, forwardBranch executor document r.toResultFields = some b ∧
        Follows b r.toResultFields := forwardBranch_follows hflag hstatus (consistent r).placed
    exact ⟨b, hbranch, hfollows.status, hfollows.placed, hfollows.progress,
      forwardBranch_finds hbranch, fun _ now => forward_accepted hfollows hopen hflag now⟩

theorem goesOn_back (hflag : r.rollbackStarted = true) (hstatus : r.status = .rollingBack) :
    GoesOn executor document preparation r := by
  obtain ⟨b, hbranch, hfollows⟩ :
      ∃ b, rollbackBranch executor document preparation r.toResultFields = some b ∧
        Follows b r.toResultFields :=
    rollbackBranch_follows hflag hstatus ((consistent r).rollback.mp hflag)
  exact .back hflag hstatus ⟨b, hbranch, hfollows.status, hfollows.placed, hfollows.progress,
    rollbackBranch_finds hbranch, fun learned now _ _ =>
      rollback_accepted hfollows hstatus hflag learned now⟩

theorem goesOn (r : UpdaterResultV2) (hopen : r.status ∉ updaterTerminalStatuses) :
    GoesOn executor document preparation r := by
  have h := consistent r
  by_cases hback : r.checkpoint ∈ rollbackCheckpoints
  · have hstatus : r.status = .rollingBack := by
      have hplaced := h.placed
      revert hplaced hopen hback
      cases r.status <;> cases r.checkpoint <;> decide
    exact goesOn_back (h.rollback.mpr hback) hstatus
  · have hflag : r.rollbackStarted = false :=
      Bool.eq_false_iff.mpr fun htrue => hback (h.rollback.mp htrue)
    have hstatus : r.status ∈ [.snapshotting, .switching, .verifying, .commitRequested] := by
      have hplaced := h.placed
      revert hplaced hopen hback
      cases r.status <;> cases r.checkpoint <;> decide
    exact goesOn_forward hopen hflag hstatus

/-- After any sequence of calls, whatever their arguments: every record is
consistent, lasts through all further calls and, unless it is terminal, is one
that an executor goes on from; and the next call, accepted or rejected, moves
the journal as it should. -/
theorem journal_history (calls : List (Call × ℤ)) :
    (∀ id r, runAll calls Journal.empty id = some (.v2 r) →
      Consistent r.toResultFields ∧
      (r.status ∉ updaterTerminalStatuses →
        GoesOn executor document preparation r) ∧
      ∀ more, ∃ r', runAll (calls ++ more) Journal.empty id = some (.v2 r') ∧
        Lasts r.toResultFields r'.toResultFields) ∧
    ∀ call now, Keeps call (runAll calls Journal.empty)
      (call.apply now (runAll calls Journal.empty)) := by
  refine ⟨fun id r hr => ⟨consistent r, goesOn r, fun more => ?_⟩,
    fun call now => call_keeps call now _⟩
  rw [runAll, List.foldl_append]
  exact runAll_lasts more hr

end GoingOn

end MediaSync.JournalBranches
