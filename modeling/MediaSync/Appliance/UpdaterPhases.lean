import MediaSync.Appliance.UpdaterGuards

/-!
# Where everybody is at a checkpoint

What the checkpoint of the record says about the containers, the snapshot and
the data files. Until the old container is fenced and stopped there is no
candidate, while there may be one the old container stays where it is, and
before it is brought back the candidate is gone and the files are restored.
Nothing that happens meanwhile changes that.
-/
namespace MediaSync.UpdaterPhases
open FaultPrograms PythonText UpdateHandoff UpdateJournal UpdaterWorld UpdateSnapshot
open UpdaterForward UpdaterRuns UpdaterGuards

/-- A change of one container that leaves its identity and its labels. -/
structure Mild (next : Container → Container) : Prop where
  id (c : Container) : (next c).id = c.id
  labels (c : Container) : (next c).labels = c.labels

/-- It is not started, and if the engine leaves it alone, it goes on to do so. -/
structure Calm (next : Container → Container) : Prop extends Mild next where
  running (c : Container) : (next c).running = true → c.running = true
  policy (c : Container) : c.restartPolicy.name = "no" → (next c).restartPolicy.name = "no"

theorem mild_started : Mild Container.started := ⟨fun _ => rfl, fun _ => rfl⟩

theorem mild_policy (policy : RestartPolicy) :
    Mild fun c : Container => { c with restartPolicy := policy } := ⟨fun _ => rfl, fun _ => rfl⟩

theorem calm_stopped : Calm Container.stopped :=
  ⟨⟨fun _ => rfl, fun _ => rfl⟩, fun _ h => absurd h Bool.false_ne_true, fun _ h => h⟩

theorem calm_noRestart : Calm fun c : Container => { c with restartPolicy := noRestart } :=
  ⟨⟨fun _ => rfl, fun _ => rfl⟩, fun _ h => h, fun _ _ => rfl⟩

theorem calm_name (name : String) : Calm fun c : Container => { c with name := name } :=
  ⟨⟨fun _ => rfl, fun _ => rfl⟩, fun _ h => h, fun _ h => h⟩

theorem calm_stays {next : Container → Container} (h : Calm next) {c : Container}
    (hc : c.running = false) : (next c).running = false := by
  refine Bool.eq_false_iff.mpr fun hrunning => ?_
  rw [h.running c hrunning] at hc
  cases hc

section Phases
variable [Tools]

/-! ## Containers -/

/-- Identifiers are full, given out once, and the old container is nobody's
candidate. -/
structure Orderly (w : World) : Prop where
  distinct : Distinct w
  ids : (w.containers.map Container.id).Nodup
  known (c : Container) : c ∈ w.containers → c.id ∈ w.usedIds
  full (c : Container) : c ∈ w.containers → fullContainerId c.id = true

def NoCandidate (w : World) : Prop := w.candidates = []

def OneCandidate (w : World) : Prop := w.candidates.length ≤ 1

/-- No candidate has ever been started. -/
def NeverStarted (w : World) : Prop :=
  ∀ c ∈ w.starts, c.isCandidate w.operationId = false

/-- The engine does not start the old container on its own. -/
def Fenced (w : World) : Prop :=
  ∀ c ∈ w.containers, c.id = w.sourceId → c.restartPolicy.name = "no"

def SourceStopped (w : World) : Prop :=
  ∀ c ∈ w.containers, c.id = w.sourceId → c.running = false

/-- The old container has been started since a candidate was. -/
def SourceSince (w : World) : Prop :=
  ∃ c ∈ w.starts.takeWhile fun c => !c.isCandidate w.operationId, c.id = w.sourceId

/-! ## Files -/

/-- The snapshot is there and passes its checks. -/
def Captured (w : World) : Prop :=
  ∃ directory manifest, verified w.operationId w.backup = .ok (directory, manifest)

/-- What a snapshot has for a data file. -/
def captured (directory : SnapshotDirectory) (manifest : SnapshotManifest) (path : String) :
    Option Bytes :=
  (manifest.files.find? fun item => item.sourcePath = path).bind fun item =>
    directory.file item.snapshotName

/-- The data files are exactly those of the snapshot. -/
def Restored (w : World) : Prop :=
  ∀ directory manifest, verified w.operationId w.backup = .ok (directory, manifest) →
    ∀ path ∈ dataFiles, contentOf w path = captured directory manifest path

/-! ## Phases -/

/-- There has been no candidate. -/
structure Before (w : World) : Prop where
  alone : NoCandidate w
  never : NeverStarted w

/-- There may be a candidate; the old container is out of the way. -/
structure Switched (w : World) : Prop where
  one : OneCandidate w
  fenced : Fenced w
  stopped : SourceStopped w
  captured : Captured w

/-- The candidate is gone, the old container has not come back. -/
structure Cleared (w : World) : Prop where
  alone : NoCandidate w
  fenced : Fenced w
  stopped : SourceStopped w
  captured : Captured w

/-- The files are those of the snapshot until the old container runs again. -/
structure Returning (w : World) : Prop where
  alone : NoCandidate w
  captured : Captured w
  files : SourceSince w ∨ SourceStopped w ∧ Restored w

/-- What holds at a checkpoint. -/
def phase : UpdaterCheckpoint → World → Prop
  | .initialized, w => Before w
  | .oldRestartFenced, w => Before w ∧ Fenced w
  | .oldStopped, w | .pendingReady, w => Before w ∧ Fenced w ∧ SourceStopped w
  | .snapshotVerified, w => Before w ∧ Fenced w ∧ SourceStopped w ∧ Captured w
  | .oldRenamed, w | .candidateCreated, w | .candidateStarted, w | .candidateVerified, w
  | .commitRequested, w => Switched w
  | .rollbackStarted, w | .candidateStopped, w => Before w ∨ Switched w
  | .candidateRemoved, w => Before w ∨ Cleared w
  | .snapshotRestored, w | .candidateEvidenceRemoved, w => Before w ∨ Cleared w ∧ Restored w
  | .oldNameRestored, w | .oldPolicyRestored, w | .oldStarted, w | .oldVerified, w
  | .rollbackPublished, w => Before w ∨ Returning w

theorem Before.switched {w : World} (h : Before w) (hfenced : Fenced w)
    (hstopped : SourceStopped w) (hcaptured : Captured w) : Switched w where
  one := by
    unfold OneCandidate
    rw [h.alone]
    exact Nat.zero_le 1
  fenced := hfenced
  stopped := hstopped
  captured := hcaptured

/-- The way back can begin wherever the way forward has come. -/
theorem phase_rollback {c : UpdaterCheckpoint} (hc : c ∈ forwardCheckpoints) {w : World}
    (h : phase c w) : phase .rollbackStarted w := by
  simp only [forwardCheckpoints, List.mem_cons, List.not_mem_nil, or_false] at hc
  rcases hc with rfl | rfl | rfl | rfl | rfl | rfl | rfl | rfl | rfl | rfl
  · exact .inl h
  · exact .inl h.1
  · exact .inl h.1
  · exact .inl h.1
  · exact .inl h.1
  · exact .inr h
  · exact .inr h
  · exact .inr h
  · exact .inr h
  · exact .inr h

/-! ## What containers have in common -/

theorem mem_candidates {w : World} {c : Container} :
    c ∈ w.candidates ↔ c ∈ w.containers ∧ c.isCandidate w.operationId = true := List.mem_filter

theorem not_candidate {w : World} (h : NoCandidate w) {c : Container} (hc : c ∈ w.containers) :
    c.isCandidate w.operationId = false := by
  refine Bool.eq_false_iff.mpr fun hcandidate => ?_
  have hmem : c ∈ w.candidates := mem_candidates.mpr ⟨hc, hcandidate⟩
  rw [h] at hmem
  exact absurd hmem List.not_mem_nil

/-- Two containers with one identifier are one container. -/
theorem Orderly.unique {w : World} (h : Orderly w) {c c' : Container} (hc : c ∈ w.containers)
    (hc' : c' ∈ w.containers) (hid : c.id = c'.id) : c = c' :=
  List.inj_on_of_nodup_map h.ids hc hc' hid

theorem candidates_change {w : World} {id : String} {next : Container → Container}
    (h : Mild next) : (w.change id next).candidates =
      w.candidates.map fun c => if c.id = id then next c else c := by
  unfold World.candidates World.change
  rw [List.filter_map]
  congr 1
  refine List.filter_congr fun c _ => ?_
  simp only [Function.comp]
  split
  · exact isCandidate_labels (h.labels c) _
  · rfl

theorem noCandidate_change {w : World} {id : String} {next : Container → Container}
    (h : Mild next) (hw : NoCandidate w) : NoCandidate (w.change id next) := by
  unfold NoCandidate
  rw [candidates_change h, hw]
  rfl

theorem oneCandidate_change {w : World} {id : String} {next : Container → Container}
    (h : Mild next) (hw : OneCandidate w) : OneCandidate (w.change id next) := by
  unfold OneCandidate
  rw [candidates_change h, List.length_map]
  exact hw

theorem orderly_change {w : World} {id : String} {next : Container → Container} (h : Mild next)
    (hw : Orderly w) : Orderly (w.change id next) := by
  have hids : (w.change id next).containers.map Container.id = w.containers.map Container.id := by
    unfold World.change
    rw [List.map_map]
    refine List.map_congr_left fun c _ => ?_
    simp only [Function.comp]
    split
    · exact h.id c
    · rfl
  have hmem (c : Container) (hc : c ∈ (w.change id next).containers) :
      ∃ c' ∈ w.containers, c'.id = c.id := by
    have hid : c.id ∈ (w.change id next).containers.map Container.id := List.mem_map_of_mem hc
    rw [hids] at hid
    exact List.mem_map.mp hid
  refine ⟨(Grows.change h.id h.labels).distinct hw.distinct, by rw [hids]; exact hw.ids,
    fun c hc => ?_, fun c hc => ?_⟩
  · obtain ⟨c', hc', hid⟩ := hmem c hc
    exact hid ▸ hw.known c' hc'
  · obtain ⟨c', hc', hid⟩ := hmem c hc
    exact hid ▸ hw.full c' hc'

/-- What holds of every container with an identifier still does. -/
theorem forall_change {w : World} {id k : String} {next : Container → Container}
    {P : Container → Prop} (h : Mild next) (hnext : ∀ c, c.id = k → k = id → P c → P (next c))
    (hw : ∀ c ∈ w.containers, c.id = k → P c) :
    ∀ c ∈ (w.change id next).containers, c.id = k → P c := by
  intro c hc hk
  obtain ⟨c', hc', rfl⟩ := List.mem_map.mp hc
  split at hk
  · rename_i hid
    rw [if_pos hid]
    rw [h.id] at hk
    exact hnext c' hk (hk.symm.trans hid) (hw c' hc' hk)
  · rename_i hid
    rw [if_neg hid]
    exact hw c' hc' hk

/-! ## A start -/

section Start
variable {w : World} {id : String}

theorem start_candidates (w : World) (id : String) :
    (w.start id).candidates = w.candidates ∨
      (w.start id).candidates = (w.change id Container.started).candidates := by
  rcases start_cases w id with h | ⟨_, _, _, h⟩ <;> rw [h]
  · exact .inl rfl
  · exact .inr rfl

theorem noCandidate_start (h : NoCandidate w) : NoCandidate (w.start id) := by
  unfold NoCandidate
  rcases start_candidates w id with hsame | hsame <;> rw [hsame]
  · exact h
  · exact noCandidate_change mild_started h

theorem oneCandidate_start (h : OneCandidate w) : OneCandidate (w.start id) := by
  unfold OneCandidate
  rcases start_candidates w id with hsame | hsame <;> rw [hsame]
  · exact h
  · exact oneCandidate_change mild_started h

theorem orderly_start (h : Orderly w) : Orderly (w.start id) := by
  have hchange : Orderly (w.change id Container.started) := orderly_change mild_started h
  rcases start_cases w id with hsame | ⟨_, _, _, hsame⟩ <;> rw [hsame]
  · exact h
  · exact ⟨⟨hchange.distinct.used, hchange.distinct.source⟩, hchange.ids, hchange.known,
      hchange.full⟩

theorem fenced_start (h : Fenced w) : Fenced (w.start id) := by
  rcases start_cases w id with hsame | ⟨_, _, _, hsame⟩ <;> rw [hsame]
  · exact h
  · exact forall_change mild_started (fun _ _ _ hc => hc) h

theorem stopped_start (hid : id ≠ w.sourceId) (h : SourceStopped w) :
    SourceStopped (w.start id) := by
  rcases start_cases w id with hsame | ⟨_, _, _, hsame⟩ <;> rw [hsame]
  · exact h
  · exact forall_change mild_started (fun _ _ heq _ => absurd heq.symm hid) h

theorem captured_start (h : Captured w) : Captured (w.start id) := by
  rcases start_cases w id with hsame | ⟨_, _, _, hsame⟩ <;> rw [hsame] <;> exact h

theorem restored_start (h : Restored w) : Restored (w.start id) := by
  rcases start_cases w id with hsame | ⟨_, _, _, hsame⟩ <;> rw [hsame] <;> exact h

theorem before_start (h : Before w) : Before (w.start id) := by
  refine ⟨noCandidate_start h.alone, ?_⟩
  rcases start_cases w id with hsame | ⟨c, hfound, _, hsame⟩ <;> rw [hsame]
  · exact h.never
  · intro c' hc'
    rcases List.mem_cons.mp hc' with rfl | hc'
    · exact not_candidate h.alone (container_mem hfound).1
    · exact h.never c' hc'

/-- A container that is not the candidate does not hide the starts before it. -/
theorem sourceSince_start (halone : NoCandidate w) (h : SourceSince w) :
    SourceSince (w.start id) := by
  rcases start_cases w id with hsame | ⟨c, hfound, _, hsame⟩ <;> rw [hsame]
  · exact h
  · obtain ⟨c', hc', hsource⟩ := h
    refine ⟨c', ?_, hsource⟩
    have hplain := not_candidate halone (container_mem hfound).1
    change c' ∈ (c :: w.starts).takeWhile fun c => !c.isCandidate w.operationId
    rw [List.takeWhile_cons, hplain]
    exact List.mem_cons_of_mem _ hc'

/-- Whoever is started, the files are the old container's own from then on, or
they are still those of the snapshot. -/
theorem returning_start (h : Returning w) : Returning (w.start id) := by
  refine ⟨noCandidate_start h.alone, captured_start h.captured, ?_⟩
  rcases h.files with hsince | ⟨hstopped, hrestored⟩
  · exact .inl (sourceSince_start h.alone hsince)
  · by_cases hid : id = w.sourceId
    · rcases start_cases w id with hsame | ⟨c, hfound, _, hsame⟩ <;> rw [hsame]
      · exact .inr ⟨hstopped, hrestored⟩
      · refine .inl ⟨c, ?_, (container_mem hfound).2.trans hid⟩
        have hplain := not_candidate h.alone (container_mem hfound).1
        change c ∈ (c :: w.starts).takeWhile fun c => !c.isCandidate w.operationId
        rw [List.takeWhile_cons, hplain]
        exact List.mem_cons_self ..
    · exact .inr ⟨stopped_start hid hstopped, restored_start hrestored⟩

end Start

/-! ## What happens meanwhile -/

/-- Nothing changes that a phase is about. -/
def Unrelated (w w' : World) : Prop :=
  ∃ nextId handoff pending nextToken evidence journal staging restoring nextStamp now,
    w' = { w with
      nextId := nextId
      handoff := handoff
      pending := pending
      nextToken := nextToken
      evidence := evidence
      journal := journal
      staging := staging
      restoring := restoring
      nextStamp := nextStamp
      now := now }

/-- A step that brings nobody back against the fence and writes no file without
an appliance. -/
inductive Gentle (w : World) : World → Prop
  | unrelated {w' : World} (h : Unrelated w w') : Gentle w w'
  | change (id : String) (next : Container → Container) (calm : Calm next) :
      Gentle w (w.change id next)
  | start (id : String) (c : Container) (found : w.container id = some c)
      (policy : c.restartPolicy.name ≠ "no") : Gentle w (w.start id)
  | write (path : String) (content : Option Bytes) (c : Container) (mem : c ∈ w.containers)
      (running : c.running = true) (appliance : w.isAppliance c = true) :
      Gentle w (w.setData path content)

theorem Unrelated.refl (w : World) : Unrelated w w := ⟨_, _, _, _, _, _, _, _, _, _, rfl⟩

theorem move_gentle (m : Move) (w : World) : Gentle w (w.move m) := by
  cases m with
  | exit id => exact .change id _ calm_stopped
  | revive id =>
    unfold World.move
    dsimp only
    split
    · exact .unrelated (Unrelated.refl w)
    · rename_i c hfound
      split
      · exact .unrelated (Unrelated.refl w)
      · rename_i hpolicy
        exact .start id c hfound hpolicy
  | write id path content =>
    unfold World.move
    dsimp only
    split
    · exact .unrelated (Unrelated.refl w)
    · rename_i c hfound
      split
      · rename_i hwrites
        obtain ⟨hrunning, happliance⟩ := Bool.and_eq_true_iff.mp hwrites
        exact .write path content c (container_mem hfound).1 hrunning happliance
      · exact .unrelated (Unrelated.refl w)
  | dropHandoff => exact .unrelated ⟨_, _, _, _, _, _, _, _, _, _, rfl⟩
  | dropPending => exact .unrelated ⟨_, _, _, _, _, _, _, _, _, _, rfl⟩
  | dropEvidence => exact .unrelated ⟨_, _, _, _, _, _, _, _, _, _, rfl⟩
  | testify => exact .unrelated ⟨_, _, _, _, _, _, _, _, _, _, rfl⟩
  | draw id token => exact .unrelated ⟨_, _, _, _, _, _, _, _, _, _, rfl⟩
  | tick now => exact .unrelated ⟨_, _, _, _, _, _, _, _, _, _, rfl⟩

/-- While the old container is stopped and there is no candidate, no appliance
runs. -/
theorem no_appliance {w : World} (halone : NoCandidate w) (hstopped : SourceStopped w)
    {c : Container} (hc : c ∈ w.containers) (hrunning : c.running = true)
    (happliance : w.isAppliance c = true) : False := by
  rcases Bool.or_eq_true_iff.mp happliance with hsource | hcandidate
  · rw [hstopped c hc (of_decide_eq_true hsource)] at hrunning
    cases hrunning
  · rw [not_candidate halone hc] at hcandidate
    cases hcandidate

section Stability
variable {w w' : World}

theorem orderly_gentle (h : Gentle w w') (hw : Orderly w) : Orderly w' := by
  cases h with
  | unrelated h =>
    obtain ⟨_, _, _, _, _, _, _, _, _, _, rfl⟩ := h
    exact ⟨⟨hw.distinct.used, hw.distinct.source⟩, hw.ids, hw.known, hw.full⟩
  | change id next calm => exact orderly_change calm.toMild hw
  | start id c found policy => exact orderly_start hw
  | write path content c mem running appliance =>
    exact ⟨⟨hw.distinct.used, hw.distinct.source⟩, hw.ids, hw.known, hw.full⟩

theorem before_gentle (h : Gentle w w') (hw : Before w) : Before w' := by
  cases h with
  | unrelated h =>
    obtain ⟨_, _, _, _, _, _, _, _, _, _, rfl⟩ := h
    exact ⟨hw.alone, hw.never⟩
  | change id next calm => exact ⟨noCandidate_change calm.toMild hw.alone, hw.never⟩
  | start id c found policy => exact before_start hw
  | write path content c mem running appliance => exact ⟨hw.alone, hw.never⟩

theorem fenced_gentle (h : Gentle w w') (hw : Fenced w) : Fenced w' := by
  cases h with
  | unrelated h =>
    obtain ⟨_, _, _, _, _, _, _, _, _, _, rfl⟩ := h
    exact hw
  | change id next calm => exact forall_change calm.toMild (fun c _ _ hc => calm.policy c hc) hw
  | start id c found policy => exact fenced_start hw
  | write path content c mem running appliance => exact hw

/-- A fenced container that is stopped stays stopped. -/
theorem stopped_gentle (h : Gentle w w') (hfenced : Fenced w) (hw : SourceStopped w) :
    SourceStopped w' := by
  cases h with
  | unrelated h =>
    obtain ⟨_, _, _, _, _, _, _, _, _, _, rfl⟩ := h
    exact hw
  | change id next calm =>
    exact forall_change calm.toMild (fun c _ _ hc => calm_stays calm hc) hw
  | start id c found policy =>
    obtain ⟨hmem, hid⟩ := container_mem found
    exact stopped_start (fun heq => policy (hfenced c hmem (hid.trans heq))) hw
  | write path content c mem running appliance => exact hw

theorem captured_gentle (h : Gentle w w') (hw : Captured w) : Captured w' := by
  cases h with
  | unrelated h =>
    obtain ⟨_, _, _, _, _, _, _, _, _, _, rfl⟩ := h
    exact hw
  | change id next calm => exact hw
  | start id c found policy => exact captured_start hw
  | write path content c mem running appliance => exact hw

theorem switched_gentle (h : Gentle w w') (hw : Switched w) : Switched w' := by
  refine ⟨?_, fenced_gentle h hw.fenced, stopped_gentle h hw.fenced hw.stopped,
    captured_gentle h hw.captured⟩
  have hone := hw.one
  cases h with
  | unrelated h =>
    obtain ⟨_, _, _, _, _, _, _, _, _, _, rfl⟩ := h
    exact hone
  | change id next calm => exact oneCandidate_change calm.toMild hone
  | start id c found policy => exact oneCandidate_start hone
  | write path content c mem running appliance => exact hone

theorem noCandidate_gentle (h : Gentle w w') (hw : NoCandidate w) : NoCandidate w' := by
  cases h with
  | unrelated h =>
    obtain ⟨_, _, _, _, _, _, _, _, _, _, rfl⟩ := h
    exact hw
  | change id next calm => exact noCandidate_change calm.toMild hw
  | start id c found policy => exact noCandidate_start hw
  | write path content c mem running appliance => exact hw

theorem cleared_gentle (h : Gentle w w') (hw : Cleared w) : Cleared w' :=
  ⟨noCandidate_gentle h hw.alone, fenced_gentle h hw.fenced, stopped_gentle h hw.fenced hw.stopped,
    captured_gentle h hw.captured⟩

/-- Nobody writes while no appliance runs. -/
theorem restored_gentle (h : Gentle w w') (halone : NoCandidate w) (hstopped : SourceStopped w)
    (hw : Restored w) : Restored w' := by
  cases h with
  | unrelated h =>
    obtain ⟨_, _, _, _, _, _, _, _, _, _, rfl⟩ := h
    exact hw
  | change id next calm => exact hw
  | start id c found policy => exact restored_start hw
  | write path content c mem running appliance =>
    exact (no_appliance halone hstopped mem running appliance).elim

theorem returning_gentle (h : Gentle w w') (hw : Returning w) : Returning w' := by
  have hall := hw
  obtain ⟨halone, hcaptured, hfiles⟩ := hw
  refine ⟨noCandidate_gentle h halone, captured_gentle h hcaptured, ?_⟩
  cases h with
  | unrelated h =>
    obtain ⟨_, _, _, _, _, _, _, _, _, _, rfl⟩ := h
    exact hfiles
  | change id next calm =>
    refine hfiles.imp_right fun hkept => ⟨?_, hkept.2⟩
    exact forall_change calm.toMild (fun c _ _ hc => calm_stays calm hc) hkept.1
  | start id c found policy => exact (returning_start hall).files
  | write path content c mem running appliance =>
    refine hfiles.imp_right fun hkept => ?_
    exact (no_appliance halone hkept.1 mem running appliance).elim

/-- No container is new, and nobody's labels change. -/
theorem gentle_containers (h : Gentle w w') : ∀ c' ∈ w'.containers,
    ∃ c ∈ w.containers, c'.id = c.id ∧ c'.labels = c.labels := by
  have hchange (id : String) (next : Container → Container) (hmild : Mild next) :
      ∀ c' ∈ (w.change id next).containers,
        ∃ c ∈ w.containers, c'.id = c.id ∧ c'.labels = c.labels := by
    intro c' hc'
    obtain ⟨c, hc, rfl⟩ := List.mem_map.mp hc'
    refine ⟨c, hc, ?_⟩
    split
    · exact ⟨hmild.id c, hmild.labels c⟩
    · exact ⟨rfl, rfl⟩
  cases h with
  | unrelated h =>
    obtain ⟨_, _, _, _, _, _, _, _, _, _, rfl⟩ := h
    exact fun c hc => ⟨c, hc, rfl, rfl⟩
  | change id next calm => exact hchange id next calm.toMild
  | start id c found policy =>
    rcases start_cases w id with hsame | ⟨_, _, _, hsame⟩ <;> rw [hsame]
    · exact fun c hc => ⟨c, hc, rfl, rfl⟩
    · exact hchange id _ mild_started
  | write path content c mem running appliance => exact fun c hc => ⟨c, hc, rfl, rfl⟩

theorem phase_gentle (c : UpdaterCheckpoint) (h : Gentle w w') (hw : phase c w) : phase c w' := by
  cases c with
  | initialized => exact before_gentle h hw
  | oldRestartFenced => exact ⟨before_gentle h hw.1, fenced_gentle h hw.2⟩
  | oldStopped =>
    exact ⟨before_gentle h hw.1, fenced_gentle h hw.2.1, stopped_gentle h hw.2.1 hw.2.2⟩
  | pendingReady =>
    exact ⟨before_gentle h hw.1, fenced_gentle h hw.2.1, stopped_gentle h hw.2.1 hw.2.2⟩
  | snapshotVerified =>
    exact ⟨before_gentle h hw.1, fenced_gentle h hw.2.1, stopped_gentle h hw.2.1 hw.2.2.1,
      captured_gentle h hw.2.2.2⟩
  | oldRenamed => exact switched_gentle h hw
  | candidateCreated => exact switched_gentle h hw
  | candidateStarted => exact switched_gentle h hw
  | candidateVerified => exact switched_gentle h hw
  | commitRequested => exact switched_gentle h hw
  | rollbackStarted => exact Or.imp (before_gentle h) (switched_gentle h) hw
  | candidateStopped => exact Or.imp (before_gentle h) (switched_gentle h) hw
  | candidateRemoved => exact Or.imp (before_gentle h) (cleared_gentle h) hw
  | snapshotRestored =>
    exact Or.imp (before_gentle h) (fun hc => ⟨cleared_gentle h hc.1,
      restored_gentle h hc.1.alone hc.1.stopped hc.2⟩) hw
  | candidateEvidenceRemoved =>
    exact Or.imp (before_gentle h) (fun hc => ⟨cleared_gentle h hc.1,
      restored_gentle h hc.1.alone hc.1.stopped hc.2⟩) hw
  | oldNameRestored => exact Or.imp (before_gentle h) (returning_gentle h) hw
  | oldPolicyRestored => exact Or.imp (before_gentle h) (returning_gentle h) hw
  | oldStarted => exact Or.imp (before_gentle h) (returning_gentle h) hw
  | oldVerified => exact Or.imp (before_gentle h) (returning_gentle h) hw
  | rollbackPublished => exact Or.imp (before_gentle h) (returning_gentle h) hw

end Stability

end Phases

end MediaSync.UpdaterPhases
