import MediaSync.Appliance.JournalBranches
import MediaSync.Appliance.UpdaterPhases

/-!
# Every step of the way forward keeps everybody in place

A safe state is one in which the record and the world agree on the phase. Each
branch of the executor brings about the phase of its checkpoint before it
stores that checkpoint, so the agreement survives a stop at every effect.
-/
namespace MediaSync.UpdaterSafety
open FaultPrograms GuardedPrograms PythonText UpdateHandoff UpdateJournal JournalHistory
open UpdaterWorld UpdaterObservation UpdateSnapshot UpdaterForward UpdaterEffects UpdaterRuns
open UpdaterGuards UpdaterPhases

section Safety
variable [Tools]

/-! ## Safe states -/

/-- What the record of the operation says about the world. -/
def recordPhase : Option JournalFile → World → Prop
  | none, w => Before w
  | some (.v2 r), w => phase r.checkpoint w
  | some (.v1 _), _ => False
  | some .unreadable, _ => False

structure Safe (w : World) : Prop where
  orderly : Orderly w
  phased : recordPhase (w.journal w.operationId) w

/-- When the old container is started after a candidate was, it was started
since, or the files are those of the snapshot. -/
def StartsRestored (w w' : World) : Prop :=
  StartsSource w w' → (∃ c ∈ w.starts, c.isCandidate w.operationId = true) →
    SourceSince w ∨ Captured w ∧ Restored w

def safety : Contract World where
  always := Safe
  step := StartsRestored
  refl _ _ := fun h => absurd h (not_startsSource_of_same rfl)

/-- The document that was read is the one of the world, and the record is at
a checkpoint. -/
structure At (document : HandoffDocument) (c : UpdaterCheckpoint) (w : World) : Prop where
  safe : Safe w
  document : document = w.document
  stored : ∃ r, w.journal w.operationId = some (.v2 r) ∧ r.checkpoint = c

variable {document : HandoffDocument} {c : UpdaterCheckpoint} {w w' : World}

theorem At.phase (h : At document c w) : phase c w := by
  obtain ⟨r, hr, rfl⟩ := h.stored
  have hphased := h.safe.phased
  rw [hr] at hphased
  exact hphased

/-! ## Gentle steps -/

/-- What a step leaves as it is when it is not about the record. -/
structure Apart (w w' : World) : Prop where
  document : w'.document = w.document
  journal : w'.journal = w.journal

theorem Apart.operationId (h : Apart w w') : w'.operationId = w.operationId :=
  congrArg HandoffDocument.operationId h.document

theorem move_apart (m : Move) (w : World) : Apart w (w.move m) :=
  ⟨(Grows.move m w).document, move_journal m w⟩

/-- Nothing changes that a phase is about, and the record stays. -/
def Harmless (w w' : World) : Prop := Unrelated w w' ∧ w'.journal = w.journal

theorem Harmless.apart (h : Harmless w w') : Apart w w' := by
  obtain ⟨⟨_, _, _, _, _, _, _, _, _, _, rfl⟩, hjournal⟩ := h
  exact ⟨rfl, hjournal⟩

theorem recordPhase_gentle (h : Gentle w w') {file : Option JournalFile}
    (hw : recordPhase file w) : recordPhase file w' := by
  rcases file with _ | r | r | _
  · exact before_gentle h hw
  · exact hw.elim
  · exact phase_gentle _ h hw
  · exact hw.elim

theorem safe_gentle (h : Gentle w w') (hapart : Apart w w') (hw : Safe w) : Safe w' := by
  refine ⟨orderly_gentle h hw.orderly, ?_⟩
  rw [hapart.journal, hapart.operationId]
  exact recordPhase_gentle h hw.phased

theorem at_of (hw : At document c w) (hapart : Apart w w') (horderly : Orderly w')
    (hphase : phase c w') : At document c w' := by
  obtain ⟨r, hr, hc⟩ := hw.stored
  have hr' : w'.journal w'.operationId = some (.v2 r) := by
    rw [hapart.journal, hapart.operationId]
    exact hr
  refine ⟨⟨horderly, ?_⟩, hw.document.trans hapart.document.symm, r, hr', hc⟩
  rw [hr']
  change phase r.checkpoint w'
  rw [hc]
  exact hphase

theorem at_gentle (h : Gentle w w') (hapart : Apart w w') (hw : At document c w) :
    At document c w' :=
  at_of hw hapart (orderly_gentle h hw.safe.orderly) (phase_gentle c h hw.phase)

theorem held_safe : Held Move safety Safe :=
  ⟨fun _ h => h, fun m w => safe_gentle (move_gentle m w) (move_apart m w)⟩

theorem held_at : Held Move safety (At document c) :=
  ⟨fun _ h => h.safe, fun m w => at_gentle (move_gentle m w) (move_apart m w)⟩

/-- A record at a checkpoint, in a world that is in some phase. -/
theorem held_phase {c' : UpdaterCheckpoint} :
    Held Move safety fun w => At document c w ∧ phase c' w :=
  held_at.and fun m w _ h => phase_gentle c' (move_gentle m w) h

theorem unrelated_step (h : Unrelated w w') : StartsRestored w w' := by
  obtain ⟨_, _, _, _, _, _, _, _, _, _, rfl⟩ := h
  exact fun h => absurd h (not_startsSource_of_same rfl)

/-- A program of harmless effects. -/
theorem harmless_guarded {α : Type} {p : Updater α} (hp : Within Harmless p) :
    Guarded Move safety (At document c) p fun _ => At document c :=
  Guarded.within held_at hp fun _ _ hw h =>
    ⟨at_gentle (.unrelated h.1) h.apart hw, unrelated_step h.1⟩

/-- A request that changes a container calmly. -/
theorem calm_guarded {A : World → Prop} {accepted : World → Except UpdaterError Unit} {id : String}
    {next : Container → Container} (hcalm : Calm next) (hA : Held Move safety A)
    (hnext : ∀ w, A w → A (w.change id next)) :
    Guarded Move safety A (request accepted fun w => w.change id next) fun _ => A :=
  request_guarded hA (fun w hw _ => ⟨hA.safe _ (hnext w hw), fun h =>
    absurd h (not_startsSource_change hcalm.id hcalm.running)⟩) fun w hw _ => hnext w hw

theorem calm_at {accepted : World → Except UpdaterError Unit} {id : String}
    {next : Container → Container} (hcalm : Calm next) :
    Guarded Move safety (At document c) (request accepted fun w => w.change id next)
      fun _ => At document c :=
  calm_guarded hcalm held_at fun _ => at_gentle (.change id next hcalm) ⟨rfl, rfl⟩

/-! ## Checkpoints -/

theorem unrelated_journal (journal : Journal) : Unrelated w { w with journal := journal } :=
  ⟨_, _, _, _, _, _, _, _, _, _, rfl⟩

/-- A record that is stored when the world has reached its phase. -/
theorem at_written {r : UpdaterResultV2} (horderly : Orderly w) (hdocument : document = w.document)
    (hid : r.operationId = w.operationId) (hphase : phase r.checkpoint w) :
    At document r.checkpoint { w with journal := w.journal.write r.operationId (.v2 r) } := by
  have hstored : (w.journal.write r.operationId (.v2 r)) w.operationId = some (.v2 r) := by
    rw [hid]
    exact Journal.write_same _ _ _
  refine ⟨⟨orderly_gentle (.unrelated (unrelated_journal _)) horderly, ?_⟩, hdocument, r,
    hstored, rfl⟩
  change recordPhase ((w.journal.write r.operationId (.v2 r)) w.operationId) _
  rw [hstored]
  exact phase_gentle _ (.unrelated (unrelated_journal _)) hphase

/-- A revision that stores the record of a phase the world has reached. -/
theorem revise_guarded {A : World → Prop} {P : UpdaterResultV2 → Prop} (operationId : String)
    {n : ℤ → UpdaterResultV2 → Except JournalError UpdaterResultV2} (hA : Held Move safety A)
    (hdocument : ∀ w, A w → document = w.document) (hid : document.operationId = operationId)
    (hnext : ∀ w now current record, A w → w.journal w.operationId = some (.v2 current) →
      n now current = .ok record →
      record.operationId = current.operationId ∧ phase record.checkpoint w ∧ P record) :
    Guarded Move safety A (journalCall fun now => revise (n now) operationId)
      fun r w => At document r.checkpoint w ∧ P r := by
  have hwritten (w : World) (hw : A w) (record : UpdaterResultV2) (journal : Journal)
      (hok : revise (n w.now) operationId w.journal = (.ok record, journal)) :
      At document record.checkpoint { w with journal := journal } ∧ P record := by
    obtain ⟨current, hread, hrecord, rfl⟩ := revise_ok hok
    obtain ⟨hstored, hsame⟩ := readV2_ok hread
    have hoperation : operationId = w.operationId := by
      rw [← hid, hdocument w hw]
      rfl
    rw [hoperation] at hstored
    obtain ⟨hrecordId, hphase, hrecorded⟩ := hnext w w.now current record hw hstored hrecord
    have hworldId : record.operationId = w.operationId :=
      hrecordId.trans (hsame.trans hoperation)
    exact ⟨at_written (hA.safe w hw).orderly (hdocument w hw) hworldId hphase, hrecorded⟩
  refine journalCall_guarded hA (fun w hw => ⟨?_, unrelated_step (unrelated_journal _)⟩)
    fun w record hw hok =>
    hwritten w hw record _ (Prod.ext hok rfl)
  rcases hresult : revise (n w.now) operationId w.journal with ⟨e | record, journal⟩
  · have hsame : journal = w.journal := revise_error hresult
    subst hsame
    exact hA.safe w hw
  · exact (hwritten w hw record journal hresult).1.safe

/-- A checkpoint whose phase has been reached. -/
theorem checkpoint_guarded (request : CheckpointRequest) {operationId : String}
    (hid : document.operationId = operationId) :
    Guarded Move safety (fun w => At document c w ∧ phase request.checkpoint w)
      (journalCall (checkpointV2 operationId request))
      fun r w => At document r.checkpoint w ∧ r.checkpoint = request.checkpoint := by
  refine revise_guarded (n := fun now => advance request now) operationId held_phase
    (fun w hw => hw.1.document) hid fun w now current record hw _ hrecord => ?_
  have hfields := (advance_ok hrecord).2
  have hoperation : record.operationId = current.operationId := by
    rw [hfields]
    rfl
  have hcheckpoint : record.checkpoint = request.checkpoint := by
    rw [hfields]
    rfl
  exact ⟨hoperation, hcheckpoint ▸ hw.2, hcheckpoint⟩

/-! ## The old container on the way forward -/

section Source

/-- What the old container is found to be is all there is to know about it. -/
theorem only_source (h : Orderly w) {container : Container}
    (hfound : w.container w.sourceId = some container) {P : Container → Prop} (hP : P container) :
    ∀ c ∈ w.containers, c.id = w.sourceId → P c := by
  intro c hc hid
  obtain ⟨hmem, hsource⟩ := container_mem hfound
  rw [h.unique hc hmem (hid.trans hsource.symm)]
  exact hP

/-- Looking at the old container teaches what is true of every container with
its identifier, if that cannot change any more. -/
theorem inspectSource_guarded {previous : Bool} {P : Container → Prop} {Q : World → Prop}
    (hQ : ∀ w, At document c w → (∀ c ∈ w.containers, c.id = w.sourceId → P c) → Q w) :
    Guarded Move safety (At document c) (inspectSource document previous)
      fun container w => At document c w ∧ (P container → Q w) := by
  have hlook : Guarded Move safety (At document c)
      (inspectContainer document.currentContainerId)
      fun container w => At document c w ∧ (P container → Q w) := by
    refine inspectContainer_guarded held_at fun w container hw hfound => ⟨hw, fun hP => ?_⟩
    rw [hw.document] at hfound
    exact hQ w hw (only_source hw.safe.orderly hfound hP)
  refine hlook.bind fun container => ?_
  refine Guarded.bind (S := fun _ w => At document c w ∧ (P container → Q w))
    (Guarded.ofExcept (fun _ h => h.1.safe) fun _ _ h _ => h) fun _ => Guarded.pure fun _ h => h

theorem inspectSource_at {previous : Bool} :
    Guarded Move safety (At document c) (inspectSource document previous)
      fun _ => At document c :=
  looks_guarded held_at (inspectSource_within fun _ => rfl)

theorem fenceOldRestart_guarded :
    Guarded Move safety (At document .initialized) (fenceOldRestart document)
      fun _ w => At document .initialized w ∧ UpdaterPhases.phase .oldRestartFenced w := by
  refine inspectSource_at.bind fun container => ?_
  refine Guarded.bind (S := fun _ => At document .initialized)
    (skipIf_guarded (fun _ _ h => h) fun _ => calm_at calm_noRestart) fun _ => ?_
  refine (inspectSource_guarded (P := fun c => c.restartPolicy.name = "no") (Q := Fenced)
    fun w _ h => h).bind fun confirmed => ?_
  refine require_guarded (fun _ h => h.1.safe) fun hname w h => ?_
  exact ⟨h.1, h.1.phase, h.2 (of_decide_eq_true hname)⟩

theorem stopAndWait_at {id : String} :
    Guarded Move safety (At document c) (stopAndWait id) fun _ => At document c :=
  (calm_at calm_stopped).bind fun _ => looks_guarded held_at (query_within fun _ => rfl)

theorem stopOld_guarded :
    Guarded Move safety (At document .oldRestartFenced) (stopOld document)
      fun _ w => At document .oldRestartFenced w ∧ UpdaterPhases.phase .oldStopped w := by
  refine inspectSource_at.bind fun container => ?_
  refine Guarded.bind (S := fun _ => At document .oldRestartFenced)
    (skipIf_guarded (fun _ _ h => h) fun _ => stopAndWait_at) fun _ => ?_
  refine (inspectSource_guarded (P := fun c => c.running = false) (Q := SourceStopped)
    fun w _ h => h).bind fun confirmed => ?_
  refine require_guarded (fun _ h => h.1.safe) fun hstopped w h => ?_
  have hrunning : confirmed.running = false := by simpa using hstopped
  exact ⟨h.1, h.1.phase.1, h.1.phase.2, h.2 hrunning⟩

theorem renameOld_guarded :
    Guarded Move safety (At document c) (renameOld document) fun _ => At document c := by
  refine (looks_guarded held_at (inspectContainer_within fun _ => rfl)).bind fun container => ?_
  refine Guarded.bind (S := fun _ => At document c) ?_ fun _ =>
    inspectSource_at.bind fun _ => Guarded.pure fun _ h => h
  unfold renameSource
  split
  · exact Guarded.bind (S := fun _ => At document c)
      (Guarded.ofExcept (fun _ h => h.safe) fun _ _ h _ => h) fun _ => calm_at (calm_name _)
  · split
    · exact Guarded.throw fun _ h => h.safe
    · exact Guarded.ofExcept (fun _ h => h.safe) fun _ _ h _ => h

end Source

/-! ## Files on the way forward -/

theorem prepare_guarded {document' : HandoffDocument} :
    Guarded Move safety (At document c) (prepare document') fun _ => At document c :=
  harmless_guarded (prepare_within (fun w => ⟨Unrelated.refl w, rfl⟩)
    fun _ _ => ⟨⟨_, _, _, _, _, _, _, _, _, _, rfl⟩, rfl⟩)

/-- A world that differs in its snapshots at most. -/
def Snapshots (w w' : World) : Prop :=
  ∃ backup staging, w' = { w with backup := backup, staging := staging }

theorem before_snapshots (h : Snapshots w w') (hw : Before w) : Before w' := by
  obtain ⟨backup, staging, rfl⟩ := h
  exact ⟨hw.alone, hw.never⟩

theorem ensureSnapshot_guarded :
    Guarded Move safety (At document .pendingReady) (ensureSnapshot document.operationId)
      fun _ w => At document .pendingReady w ∧ UpdaterPhases.phase .snapshotVerified w := by
  have hcreate : Guarded Move safety (At document .pendingReady) (create document.operationId)
      fun _ => At document .pendingReady := by
    refine Guarded.within held_at (create_within (R := Snapshots) (fun w => ⟨_, _, rfl⟩)
      (fun w staging => ⟨_, _, rfl⟩) fun w => ⟨_, _, rfl⟩) fun w w' hw h => ?_
    have hbefore := before_snapshots h hw.phase.1
    obtain ⟨backup, staging, rfl⟩ := h
    refine ⟨at_of hw ⟨rfl, rfl⟩ ?_ ⟨hbefore, hw.phase.2.1, hw.phase.2.2⟩,
      fun h => absurd h (not_startsSource_of_same rfl)⟩
    have horderly := hw.safe.orderly
    exact ⟨⟨horderly.distinct.used, horderly.distinct.source⟩, horderly.ids, horderly.known,
      horderly.full⟩
  refine (looks_guarded held_at (Within.look fun _ => rfl)).bind fun present => ?_
  refine Guarded.bind (S := fun _ => At document .pendingReady)
    (skipIf_guarded (fun _ _ h => h) fun _ => hcreate) fun _ => ?_
  have hverify : Guarded Move safety (At document .pendingReady) (verify document.operationId)
      fun _ w => At document .pendingReady w ∧ Captured w := by
    refine Guarded.look held_at fun w found hw hok => ⟨hw, found.1, found.2, ?_⟩
    split at hok
    · cases hok
    · rw [hw.document] at hok
      exact hok
  refine hverify.bind fun _ => Guarded.pure fun w h => ?_
  obtain ⟨hbefore, hfenced, hstopped⟩ := h.1.phase
  exact ⟨h.1, hbefore, hfenced, hstopped, h.2⟩

/-! ## The candidate on the way forward -/

section Candidate
variable {result : ResultFields} {marker : Option PendingUpdateMarker}
  {socketPath hostname : String}

/-- A list in which no candidate is found has none. -/
theorem observeCandidate_missing {cs : List Container}
    (h : (observeCandidate cs document result marker).status = .missing) :
    cs.filter (fun c => c.isCandidate result.operationId) = [] := by
  unfold observeCandidate at h
  dsimp only at h
  split at h
  · rename_i o hselected
    split at hselected
    · cases hselected
    · split at hselected
      · split at hselected
        · assumption
        · cases hselected
          cases h
      · split at hselected
        · cases hselected
        · cases hselected
          cases h
      · cases hselected
        cases h
  · rename_i hselected
    split at hselected
    · injection hselected
    · split at hselected
      · split at hselected <;> cases hselected
      · split at hselected <;> cases hselected
      · cases hselected
  · split at h
    · cases h
    · split at h <;> cases h

/-- What an observation says about the candidate still holds. -/
structure Seen (o : DockerRecoveryObservation) (w : World) : Prop where
  missing : o.candidate.status = .missing → NoCandidate w
  found (id : String) : o.candidate.containerId = some id →
    ∀ c ∈ w.containers, c.id = id → c.isCandidate w.operationId = true

theorem seen_gentle {o : DockerRecoveryObservation} (h : Gentle w w') (hapart : Apart w w')
    (hw : Seen o w) : Seen o w' := by
  refine ⟨fun hmissing => noCandidate_gentle h (hw.missing hmissing), fun id hid c hc hcid => ?_⟩
  obtain ⟨c', hc', hsame, hlabels⟩ := gentle_containers h c hc
  rw [hapart.operationId, isCandidate_labels hlabels]
  exact hw.found id hid c' hc' (hsame.symm.trans hcid)

theorem held_seen {o : DockerRecoveryObservation} :
    Held Move safety fun w => At document c w ∧ Seen o w :=
  held_at.and fun m w _ h => seen_gentle (move_gentle m w) (move_apart m w) h

omit [Tools] in
theorem mem_relevantIds {cs : List Container} {container : Container} (hmem : container ∈ cs)
    (hfull : fullContainerId container.id = true)
    (hcandidate : container.isCandidate result.operationId = true) :
    container.id ∈ relevantIds cs result := by
  unfold relevantIds
  rw [List.mem_insertionSort]
  refine List.mem_map_of_mem (List.mem_filter.mpr ⟨hmem, ?_⟩)
  have hoperation : container.hasOperation result.operationId = true :=
    (Bool.and_eq_true_iff.mp hcandidate).1
  rw [hfull, hoperation]
  simp

theorem observe_guarded_at :
    Guarded Move safety (At document c) (observe socketPath document result marker hostname)
      fun o w => At document c w ∧ Seen o w := by
  refine (observe_guarded
    (K := fun c w => ∀ c' ∈ w.containers, c'.id = c.id → c'.labels = c.labels)
    (L := fun ids w => At document c w ∧ (document.operationId = result.operationId →
      ∀ c' ∈ w.containers, c'.isCandidate w.operationId = true → c'.id ∈ ids))
    (fun m c w _ h c' hc' hid => ?_) (fun w c hw hc c' hc' hid => ?_) held_at (fun ids => ?_)
    (fun _ _ h => h.1) fun w hw => ⟨hw, fun hsame c' hc' hcandidate => ?_⟩).post fun o w h => ?_
  · obtain ⟨c'', hc'', hsame, hlabels⟩ := gentle_containers (move_gentle m w) c' hc'
    exact hlabels.trans (h c'' hc'' (hsame.symm.trans hid))
  · rw [hw.safe.orderly.unique hc' hc hid]
  · refine held_at.and fun m w _ h hsame c' hc' hcandidate => ?_
    obtain ⟨c'', hc'', hid, hlabels⟩ := gentle_containers (move_gentle m w) c' hc'
    rw [hid]
    refine h hsame c'' hc'' ?_
    rw [← isCandidate_labels hlabels, ← (move_apart m w).operationId]
    exact hcandidate
  · have hoperation : w.operationId = result.operationId := by
      rw [← hsame, hw.document]
      rfl
    rw [hoperation] at hcandidate
    exact mem_relevantIds hc' (hw.safe.orderly.full c' hc') hcandidate
  · obtain ⟨hsame, cs, rfl, hcs, hat, hids⟩ := h
    have hoperation : w.operationId = result.operationId := by
      rw [← hsame, hat.document]
      rfl
    refine ⟨hat, fun hmissing => ?_, fun id hid c' hc' hcid => ?_⟩
    · refine List.filter_eq_nil_iff.mpr fun c' hc' hcandidate => ?_
      obtain ⟨c'', hc'', hsameId⟩ := List.mem_map.mp (hids hsame c' hc' hcandidate)
      have hnone := List.filter_eq_nil_iff.mp (observeCandidate_missing hmissing) c'' hc''
      rw [← isCandidate_labels (hcs c'' hc'' c' hc' hsameId.symm), ← hoperation] at hnone
      exact hnone hcandidate
    · obtain ⟨c'', hc'', hsameId, hcandidate⟩ := observeCandidate_labelled hid
      rw [hoperation, isCandidate_labels (hcs c'' hc'' c' hc' (hcid.trans hsameId.symm))]
      exact hcandidate

/-! ## Creating and starting it -/

theorem created_orderly {container : Container} (h : Orderly w)
    (hfresh : container.id ∉ w.usedIds) (hfull : fullContainerId container.id = true) :
    Orderly (w.create container) := by
  refine ⟨⟨List.mem_cons_of_mem _ h.distinct.used, fun c hc hid => ?_⟩, ?_, fun c hc => ?_,
    fun c hc => ?_⟩
  · rcases List.mem_cons.mp hc with rfl | hc
    · exact absurd (hid ▸ h.distinct.used) hfresh
    · exact h.distinct.source c hc hid
  · refine List.nodup_cons.mpr ⟨fun hmem => ?_, h.ids⟩
    obtain ⟨c, hc, hid⟩ := List.mem_map.mp hmem
    exact hfresh (hid ▸ h.known c hc)
  · rcases List.mem_cons.mp hc with rfl | hc
    · exact List.mem_cons_self ..
    · exact List.mem_cons_of_mem _ (h.known c hc)
  · rcases List.mem_cons.mp hc with rfl | hc
    · exact hfull
    · exact h.full c hc

/-- What holds of the old container holds when somebody else is added. -/
theorem forall_create {container : Container} {P : Container → Prop}
    (hother : container.id ≠ w.sourceId) (h : ∀ c ∈ w.containers, c.id = w.sourceId → P c) :
    ∀ c ∈ (w.create container).containers, c.id = w.sourceId → P c := by
  intro c hc hid
  rcases List.mem_cons.mp hc with rfl | hc
  · exact absurd hid hother
  · exact h c hc hid

theorem created_switched {container : Container} (h : Switched w) (halone : NoCandidate w)
    (hother : container.id ≠ w.sourceId) : Switched (w.create container) := by
  refine ⟨?_, forall_create hother h.fenced, forall_create hother h.stopped, h.captured⟩
  unfold OneCandidate World.candidates World.create
  have hnone : w.containers.filter (fun c => c.isCandidate w.operationId) = [] := halone
  change (List.filter (fun c => c.isCandidate w.operationId) (container :: w.containers)).length
    ≤ 1
  rw [List.filter_cons, hnone]
  split
  · exact Nat.le_refl 1
  · exact Nat.zero_le 1

theorem createContainer_guarded (hphase : phase c = Switched) {name : String}
    {config : CreateConfig} :
    Guarded Move safety (fun w => At document c w ∧ NoCandidate w) (createContainer name config)
      fun _ => At document c := by
  have hA : Held Move safety fun w => At document c w ∧ NoCandidate w :=
    held_at.and fun m w _ h => noCandidate_gentle (move_gentle m w) h
  have hnext (w : World) (hw : At document c w ∧ NoCandidate w)
      (hfresh : w.nextId ∉ w.usedIds) (hfull : fullContainerId w.nextId = true) :
      At document c (w.create (w.created name config)) ∧
        (w.created name config).id ≠ w.sourceId := by
    have hother : (w.created name config).id ≠ w.sourceId := by
      intro heq
      have hsource : w.nextId = w.sourceId := heq
      rw [hsource] at hfresh
      exact hfresh hw.1.safe.orderly.distinct.used
    have hswitched : Switched w := by
      have h := hw.1.phase
      rw [hphase] at h
      exact h
    refine ⟨at_of hw.1 ⟨rfl, rfl⟩ (created_orderly hw.1.safe.orderly hfresh hfull) ?_, hother⟩
    rw [hphase]
    exact created_switched hswitched hw.2 hother
  refine request_guarded hA (fun w hw haccepted => ?_) fun w hw haccepted => ?_
  · obtain ⟨hfresh, hfull⟩ := create_accepted haccepted
    obtain ⟨hat, hother⟩ := hnext w hw hfresh hfull
    exact ⟨hat.safe, fun h => absurd h (not_startsSource_create hother)⟩
  · obtain ⟨hfresh, hfull⟩ := create_accepted haccepted
    exact (hnext w hw hfresh hfull).1

/-- Starting a container that is the candidate. -/
theorem start_at (hphase : phase c = Switched) {id : String} (hw : At document c w)
    (hcandidate : ∀ c ∈ w.containers, c.id = id → c.isCandidate w.operationId = true) :
    At document c (w.start id) ∧ ¬ StartsSource w (w.start id) := by
  rcases start_cases w id with hsame | ⟨container, hfound, _, _⟩
  · rw [hsame]
    exact ⟨hw, not_startsSource_of_same rfl⟩
  · obtain ⟨hmem, hid⟩ := container_mem hfound
    have hother : id ≠ w.sourceId := by
      intro heq
      have hnot := hw.safe.orderly.distinct.source container hmem (hid.trans heq)
      rw [hcandidate container hmem hid] at hnot
      cases hnot
    have hswitched : Switched w := by
      have h := hw.phase
      rw [hphase] at h
      exact h
    refine ⟨at_of hw ⟨(Grows.start w id).document, start_journal w id⟩
      (orderly_start hw.safe.orderly) ?_, not_startsSource_start hother⟩
    rw [hphase]
    exact ⟨oneCandidate_start hswitched.one, fenced_start hswitched.fenced,
      stopped_start hother hswitched.stopped, captured_start hswitched.captured⟩

theorem startContainer_guarded (hphase : phase c = Switched) {o : DockerRecoveryObservation}
    {id : String} (hid : o.candidate.containerId = some id) :
    Guarded Move safety (fun w => At document c w ∧ Seen o w) (startContainer id)
      fun _ => At document c := by
  refine request_guarded held_seen (fun w hw _ => ?_) fun w hw _ => ?_
  · obtain ⟨hat, hnot⟩ := start_at hphase hw.1 (hw.2.found id hid)
    exact ⟨hat.safe, fun h => absurd h hnot⟩
  · exact (start_at hphase hw.1 (hw.2.found id hid)).1

variable {executor : Executor} {preparation : CandidatePreparation}

theorem prepareCandidate_guarded :
    Guarded Move safety (At document .oldRenamed) (prepareCandidate executor document result)
      fun _ => At document .oldRenamed := by
  refine prepare_guarded.bind fun preparation => ?_
  refine Guarded.bind (S := fun _ => At document .oldRenamed) ?_ fun id =>
    Guarded.pure fun _ h => h
  refine observe_guarded_at.bind fun first => ?_
  refine Guarded.bind (S := fun _ => At document .oldRenamed) ?_ fun observation => ?_
  · unfold createMissing
    split
    · rename_i hmissing
      refine Guarded.bind ((createContainer_guarded rfl).pre fun w h => ⟨h.1, h.2.missing hmissing⟩)
        fun _ => ?_
      exact observe_guarded_at.post fun _ _ h => h.1
    · exact Guarded.pure fun _ h => h.1
  · split
    · exact Guarded.pure fun _ h => h
    · exact Guarded.throw fun _ h => h.safe

/-- The candidate that is required is the one that was observed. -/
theorem requireCandidateIdentity_guarded :
    Guarded Move safety (At document c)
      (requireCandidateIdentity executor document result preparation)
      fun id w => ∃ o, (At document c w ∧ Seen o w) ∧ o.candidate.containerId = some id := by
  refine observe_guarded_at.bind fun o => ?_
  refine Guarded.bind (S := fun _ w => At document c w ∧ Seen o w)
    (Guarded.ofExcept (fun _ h => h.1.safe) fun _ _ h _ => h) fun id => ?_
  refine Guarded.bind (S := fun _ w => (At document c w ∧ Seen o w) ∧
      o.candidate.containerId = some id)
    (require_guarded (fun _ h => h.1.safe) fun hmatched w h => ⟨h, ?_⟩) fun _ => ?_
  · exact of_decide_eq_true (Bool.and_eq_true_iff.mp hmatched).2
  · exact Guarded.pure fun w h => ⟨o, h⟩

theorem startCandidate_guarded {o : DockerRecoveryObservation} {id : String}
    (hphase : phase c = Switched) (hid : o.candidate.containerId = some id) :
    Guarded Move safety (fun w => At document c w ∧ Seen o w) (startCandidate id)
      fun _ => At document c := by
  refine (looks_guarded held_seen (inspectContainer_within fun _ => rfl)).bind fun container => ?_
  refine Guarded.bind (S := fun _ => At document c)
    (skipIf_guarded (fun _ _ h => h.1) fun _ => startContainer_guarded hphase hid) fun _ => ?_
  refine (looks_guarded held_at (inspectContainer_within fun _ => rfl)).bind fun confirmed => ?_
  exact require_guarded (fun _ h => h.safe) fun _ _ h => h

theorem bringUpCandidate_guarded :
    Guarded Move safety (At document .candidateCreated)
      (bringUpCandidate executor document result) fun _ => At document .candidateCreated := by
  refine prepare_guarded.bind fun preparation => ?_
  refine requireCandidateIdentity_guarded.bind fun id => ?_
  rintro w ⟨o, hw, hid⟩
  exact startCandidate_guarded rfl hid w hw

theorem checkCandidate_guarded [Verifiers] :
    Guarded Move safety (At document c) (checkCandidate executor document result)
      fun _ => At document c := by
  refine prepare_guarded.bind fun preparation => ?_
  refine Guarded.bind (S := fun _ => At document c)
    (requireCandidateIdentity_guarded.post fun id w h => ?_) fun id =>
      looks_guarded held_at (Within.look fun _ => rfl)
  obtain ⟨o, hw, _⟩ := h
  exact hw.1

end Candidate

/-! ## Removing a container -/

theorem mem_remove {id : String} {container : Container}
    (h : container ∈ (w.remove id).containers) :
    container ∈ w.containers := (List.mem_filter.mp h).1

theorem orderly_remove {id : String} (h : Orderly w) : Orderly (w.remove id) :=
  ⟨(Grows.allows.remove w id).distinct h.distinct,
    h.ids.sublist (List.filter_sublist.map _),
    fun c hc => h.known c (mem_remove hc), fun c hc => h.full c (mem_remove hc)⟩

theorem switched_remove {id : String} (h : Switched w) : Switched (w.remove id) := by
  refine ⟨?_, fun c hc => h.fenced c (mem_remove hc), fun c hc => h.stopped c (mem_remove hc),
    h.captured⟩
  have hsub : (w.remove id).candidates.Sublist w.candidates :=
    List.filter_sublist.filter _
  exact Nat.le_trans hsub.length_le h.one

theorem cleanupOld_guarded (hphase : phase c = Switched) {result : ResultFields} :
    Guarded Move safety (At document c) (cleanupOld document result) fun _ => At document c := by
  have hnext (w : World) (hw : At document c w) :
      At document c (w.remove document.currentContainerId) := by
    refine at_of hw ⟨rfl, rfl⟩ (orderly_remove hw.safe.orderly) ?_
    have hswitched := hw.phase
    rw [hphase] at hswitched ⊢
    exact switched_remove hswitched
  refine (looks_guarded held_at (query_within fun _ => rfl)).bind fun summaries =>
    skipIf_guarded (fun _ _ h => h) fun _ => ?_
  refine (looks_guarded held_at (inspectContainer_within fun _ => rfl)).bind fun container => ?_
  refine Guarded.bind (S := fun _ => At document c)
    (require_guarded (fun _ h => h.safe) fun _ _ h => h) fun _ => ?_
  refine request_guarded held_at (fun w hw _ => ?_) fun w hw _ => hnext w hw
  exact ⟨(hnext w hw).safe, fun h => absurd h not_startsSource_remove⟩

/-! ## The way forward -/

/-- The document that was read is the one of the world. -/
def Known (document : HandoffDocument) (w : World) : Prop := Safe w ∧ document = w.document

theorem held_known : Held Move safety (Known document) :=
  held_safe.and fun m w _ h => h.trans (move_apart m w).document.symm

/-- A record that was read says at which checkpoint the operation is. -/
theorem known_at {r : UpdaterResultV2} (h : Known document w)
    (hstored : w.journal document.operationId = some (.v2 r)) : At document r.checkpoint w := by
  refine ⟨h.1, h.2, r, ?_, rfl⟩
  rw [h.2] at hstored
  exact hstored

theorem readDocument_guarded {operationId : String} :
    Guarded Move safety Safe (readHandoff operationId) fun document => Known document :=
  (readHandoff_guarded held_safe).post fun _ _ h => ⟨h.1, h.2.1⟩

theorem startV2_guarded {coordinator : String} :
    Guarded Move safety (Known document) (journalCall (startV2 document coordinator))
      fun r => At document r.checkpoint := by
  have hstarted (w : World) (hw : Known document w) {r : UpdaterResultV2} {journal : Journal}
      (hok : startV2 document coordinator w.now w.journal = (.ok r, journal)) :
      At document r.checkpoint { w with journal := journal } := by
    unfold startV2 at hok
    split at hok
    · cases hok
    · split at hok
      · cases hok
      · rename_i habsent
        split at hok
        · cases hok
        · rename_i record hrecord
          cases hok
          have hfields := modelValidate_ok hrecord
          have hid : r.operationId = w.operationId := by
            rw [hfields]
            exact congrArg HandoffDocument.operationId hw.2
          have hcheckpoint : r.checkpoint = .initialized := by
            rw [hfields]
            rfl
          have hnone : w.journal w.operationId = none := by
            rw [hw.2] at habsent
            exact Option.not_isSome_iff_eq_none.mp habsent
          have hbefore := hw.1.phased
          rw [hnone] at hbefore
          exact at_written hw.1.orderly hw.2 hid (hcheckpoint ▸ hbefore)
  refine journalCall_guarded held_known (fun w hw => ⟨?_, unrelated_step (unrelated_journal _)⟩)
    fun w r hw hok => hstarted w hw (Prod.ext hok rfl)
  rcases hresult : startV2 document coordinator w.now w.journal with ⟨e | record, journal⟩
  · have hsame : journal = w.journal := by
      unfold startV2 at hresult
      split at hresult
      · cases hresult
        rfl
      · split at hresult
        · cases hresult
          rfl
        · split at hresult <;> cases hresult
          rfl
    rw [hsame]
    exact hw.1
  · exact (hstarted w hw hresult).safe

section Forward
variable {executor : Executor}

theorem loadOrStart_guarded :
    Guarded Move safety (Known document) (loadOrStart executor document)
      fun r => At document r.checkpoint := by
  refine (looks_guarded held_known (Within.look fun _ => rfl)).bind fun present => ?_
  split
  · refine (readResult_guarded held_known).bind fun result => ?_
    cases result with
    | inl r => exact Guarded.throw fun _ h => h.1.1
    | inr r => exact Guarded.pure fun w h => known_at h.1 h.2.1
  · exact startV2_guarded

theorem learnNothing_guarded {A R : World → Prop} {p : Updater Unit}
    (h : Guarded Move safety A p fun _ => R) :
    Guarded Move safety A (learnNothing p) fun _ => R :=
  h.bind fun _ => Guarded.pure fun _ h => h

variable [Verifiers]

/-- A branch brings about the phase of its checkpoint. -/
theorem forwardBranch_guarded {r : ResultFields} {branch : Branch}
    (h : forwardBranch executor document r = some branch) :
    Guarded Move safety (At document r.checkpoint) branch.effect
      fun _ w => At document r.checkpoint w ∧ UpdaterPhases.phase branch.checkpoint w := by
  unfold forwardBranch at h
  split at h
  · rename_i hcheckpoint
    cases h
    rw [hcheckpoint]
    exact learnNothing_guarded fenceOldRestart_guarded
  · rename_i hcheckpoint
    cases h
    rw [hcheckpoint]
    exact learnNothing_guarded stopOld_guarded
  · rename_i hcheckpoint
    cases h
    rw [hcheckpoint]
    exact prepare_guarded.bind fun _ => Guarded.pure fun _ h => ⟨h, h.phase⟩
  · rename_i hcheckpoint
    cases h
    rw [hcheckpoint]
    exact learnNothing_guarded ensureSnapshot_guarded
  · rename_i hcheckpoint
    cases h
    rw [hcheckpoint]
    refine learnNothing_guarded (renameOld_guarded.post fun _ _ h => ⟨h, ?_⟩)
    obtain ⟨hbefore, hfenced, hstopped, hcaptured⟩ := h.phase
    exact hbefore.switched hfenced hstopped hcaptured
  · rename_i hcheckpoint
    cases h
    rw [hcheckpoint]
    exact prepareCandidate_guarded.post fun _ _ h => ⟨h, h.phase⟩
  · rename_i hcheckpoint
    cases h
    rw [hcheckpoint]
    exact learnNothing_guarded (bringUpCandidate_guarded.post fun _ _ h => ⟨h, h.phase⟩)
  · rename_i hcheckpoint
    rw [hcheckpoint]
    split at h <;> cases h
    · exact Guarded.pure fun _ h => ⟨h, h.phase⟩
    · exact learnNothing_guarded (checkCandidate_guarded.post fun _ _ h => ⟨h, h.phase⟩)
  · rename_i hcheckpoint
    cases h
    rw [hcheckpoint]
    exact Guarded.pure fun _ h => ⟨h, h.phase⟩
  · rename_i hcheckpoint
    cases h
    rw [hcheckpoint]
    exact learnNothing_guarded ((looks_guarded held_at (Within.look fun _ => rfl)).post
      fun _ _ h => ⟨h, h.phase⟩)
  · cases h

theorem forwardTurn_guarded (r : UpdaterResultV2) :
    Guarded Move safety (At document r.checkpoint) (forwardTurn executor document r)
      fun r' => At document r'.checkpoint := by
  unfold forwardTurn
  split
  · exact Guarded.throw fun _ h => h.safe
  · rename_i branch hbranch
    refine (forwardBranch_guarded hbranch).bind fun learned => ?_
    unfold checkpoint
    exact (checkpoint_guarded ⟨branch.status, branch.checkpoint, learned.candidateTokenHash,
      learned.candidateContainerId, none, none, none⟩ rfl).post fun _ _ h => h.1

theorem executeForward_guarded {operationId : String} :
    Guarded Move safety Safe (executeForward executor operationId) fun _ => Safe := by
  unfold executeForward
  split
  · exact Guarded.throw fun _ h => h
  · refine readDocument_guarded.bind fun document => loadOrStart_guarded.bind fun r => ?_
    refine Guarded.bind (S := fun _ => At document r.checkpoint)
      (Guarded.ofExcept (fun _ h => h.safe) fun _ _ h _ => h) fun _ => ?_
    refine (Guarded.whileLoop (A := fun r => At document r.checkpoint) (fun _ _ h => h.safe)
      (fun r _ => forwardTurn_guarded r) _ r).bind fun last => ?_
    refine Guarded.bind (S := fun _ w => At document last.checkpoint w ∧ forwardGoing last = false)
      (Guarded.ofExcept (fun _ h => h.1.safe) fun _ _ h _ => h) fun id => ?_
    rintro w ⟨hw, hdone⟩
    have hcheckpoint : last.checkpoint = .commitRequested := by
      have hsuccess : last.status = .success :=
        Classical.byContradiction fun h => of_decide_eq_false hdone h
      have hplaced := (consistent last).placed
      rw [hsuccess] at hplaced
      exact List.mem_singleton.mp hplaced
    refine Guarded.bind (cleanupOld_guarded ?_) (fun _ => Guarded.pure fun _ h => h.safe) w hw
    rw [hcheckpoint]
    rfl

end Forward

end Safety

end MediaSync.UpdaterSafety
