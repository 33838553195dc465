import MediaSync.Appliance.UpdaterEffects

/-!
# Runs of an updater

An executor or a coordinator runs, is stopped anywhere and runs again, while
containers exit or are started by the engine and appliances write. Every run
only adds containers with new identifiers, and nobody's labels change.
-/
namespace MediaSync.UpdaterRuns
open FaultPrograms PythonText UpdateHandoff UpdateJournal UpdaterWorld
open UpdaterForward UpdaterRollback UpdaterCoordinator UpdaterEffects

/-! ## Containers -/

theorem isCandidate_labels {c c' : Container} (h : c'.labels = c.labels) (operationId : String) :
    c'.isCandidate operationId = c.isCandidate operationId := by
  unfold Container.isCandidate Container.hasOperation Container.label
  rw [h]

theorem started_id (container : Container) : container.started.id = container.id := rfl

section Containers
variable [Tools]

theorem start_cases (w : World) (id : String) : w.start id = w ∨
    ∃ container, w.container id = some container ∧ container.running = false ∧
      w.start id = { w.change id Container.started with starts := container :: w.starts } := by
  unfold World.start
  split
  · exact .inl rfl
  · rename_i container hfound
    cases hrunning : container.running with
    | true => exact .inl (if_pos rfl)
    | false => exact .inr ⟨container, hfound, hrunning, if_neg Bool.false_ne_true⟩

theorem start_journal (w : World) (id : String) : (w.start id).journal = w.journal := by
  rcases start_cases w id with h | ⟨_, _, _, h⟩ <;> rw [h]
  rfl

theorem move_journal (m : Move) (w : World) : (w.move m).journal = w.journal := by
  cases m with
  | revive id =>
    unfold World.move
    dsimp only
    split
    · rfl
    · split
      · rfl
      · exact start_journal w id
  | write id path content =>
    unfold World.move
    dsimp only
    split
    · rfl
    · split <;> rfl
  | exit id => rfl
  | dropHandoff => rfl
  | dropPending => rfl
  | dropEvidence => rfl
  | testify => rfl
  | draw id token => rfl
  | tick now => rfl

theorem container_change {w : World} {id : String} {next : Container → Container}
    (hid : ∀ c, (next c).id = c.id) (k : String) :
    (w.change id next).container k =
      (w.container k).map fun c => if c.id = id then next c else c := by
  unfold World.container World.change
  rw [List.find?_map]
  congr 2
  funext c
  simp only [Function.comp]
  split
  · rw [hid]
  · rfl

/-- Between two states nobody's labels change and new containers have new
identifiers. -/
structure Grows (w w' : World) : Prop where
  document : w'.document = w.document
  used : ∀ id ∈ w.usedIds, id ∈ w'.usedIds
  containers : ∀ c' ∈ w'.containers,
    (∃ c ∈ w.containers, c'.id = c.id ∧ c'.labels = c.labels) ∨ c'.id ∉ w.usedIds

namespace Grows

theorem sourceId {w w' : World} (h : Grows w w') : w'.sourceId = w.sourceId :=
  congrArg HandoffDocument.currentContainerId h.document

theorem operationId {w w' : World} (h : Grows w w') : w'.operationId = w.operationId :=
  congrArg HandoffDocument.operationId h.document

theorem of_same {w w' : World} (hdocument : w'.document = w.document)
    (hused : w'.usedIds = w.usedIds) (hcontainers : w'.containers = w.containers) :
    Grows w w' where
  document := hdocument
  used id hid := by rwa [hused]
  containers c hc := .inl ⟨c, by rwa [hcontainers] at hc, rfl, rfl⟩

theorem refl (w : World) : Grows w w := of_same rfl rfl rfl

theorem trans {first middle last : World} (h : Grows first middle) (k : Grows middle last) :
    Grows first last where
  document := k.document.trans h.document
  used id hid := k.used id (h.used id hid)
  containers c hc := by
    rcases k.containers c hc with ⟨c', hc', hid, hlabels⟩ | hnew
    · rcases h.containers c' hc' with ⟨c'', hc'', hid', hlabels'⟩ | hnew
      · exact .inl ⟨c'', hc'', hid.trans hid', hlabels.trans hlabels'⟩
      · exact .inr (hid ▸ hnew)
    · exact .inr fun hid => hnew (h.used c.id hid)

theorem change {w : World} {id : String} {next : Container → Container}
    (hid : ∀ c, (next c).id = c.id) (hlabels : ∀ c, (next c).labels = c.labels) :
    Grows w (w.change id next) where
  document := rfl
  used _ h := h
  containers c' hc' := by
    obtain ⟨c, hc, rfl⟩ := List.mem_map.mp hc'
    refine .inl ⟨c, hc, ?_⟩
    split
    · exact ⟨hid c, hlabels c⟩
    · exact ⟨rfl, rfl⟩

theorem start (w : World) (id : String) : Grows w (w.start id) := by
  rcases start_cases w id with h | ⟨container, _, _, h⟩ <;> rw [h]
  · exact refl w
  · have hchange : Grows w (w.change id Container.started) := change (fun _ => rfl) fun _ => rfl
    exact ⟨hchange.document, hchange.used, hchange.containers⟩

theorem stop (w : World) (id : String) : Grows w (w.stop id) :=
  change (fun _ => rfl) fun _ => rfl

theorem allows : Allows Grows where
  refl := refl
  journal _ _ := of_same rfl rfl rfl
  pending _ _ := of_same rfl rfl rfl
  staging _ _ := of_same rfl rfl rfl
  backup _ := of_same rfl rfl rfl
  evidence _ := of_same rfl rfl rfl
  data _ _ _ := of_same rfl rfl rfl
  putTemporary _ _ _ := of_same rfl rfl rfl
  dropTemporary _ _ := of_same rfl rfl rfl
  replace _ _ _ := of_same rfl rfl rfl
  start := start
  stop := stop
  setPolicy _ _ _ := change (fun _ => rfl) fun _ => rfl
  rename _ _ _ := change (fun _ => rfl) fun _ => rfl
  remove w id := ⟨rfl, fun _ h => h, fun c hc => .inl ⟨c, (List.mem_filter.mp hc).1, rfl, rfl⟩⟩
  create w name config hfresh _ := by
    refine ⟨rfl, fun _ h => List.mem_cons_of_mem _ h, fun c hc => ?_⟩
    rcases List.mem_cons.mp hc with rfl | hc
    · exact .inr hfresh
    · exact .inl ⟨c, hc, rfl, rfl⟩

theorem move (m : Move) (w : World) : Grows w (w.move m) := by
  cases m with
  | exit id => exact stop w id
  | revive id =>
    unfold World.move
    dsimp only
    split
    · exact refl w
    · split
      · exact refl w
      · exact start w id
  | write id path content =>
    unfold World.move
    dsimp only
    split
    · exact refl w
    · split
      · exact of_same rfl rfl rfl
      · exact refl w
  | dropHandoff => exact of_same rfl rfl rfl
  | dropPending => exact of_same rfl rfl rfl
  | dropEvidence => exact of_same rfl rfl rfl
  | testify => exact of_same rfl rfl rfl
  | draw id token => exact of_same rfl rfl rfl
  | tick now => exact of_same rfl rfl rfl

end Grows

theorem container_mem {w : World} {id : String} {c : Container} (h : w.container id = some c) :
    c ∈ w.containers ∧ c.id = id :=
  ⟨List.mem_of_find?_eq_some h, by simpa using List.find?_some h⟩

/-! ## Starting the old container -/

/-- The old container did not run, and now it does. -/
def StartsSource (w w' : World) : Prop :=
  (∃ c, w.container w.sourceId = some c ∧ c.running = false) ∧
    ∃ c, w'.container w.sourceId = some c ∧ c.running = true

theorem not_startsSource_of_same {w w' : World} (h : w'.containers = w.containers) :
    ¬ StartsSource w w' := by
  rintro ⟨⟨c, hc, hstopped⟩, c', hc', hrunning⟩
  unfold World.container at hc hc'
  rw [h, hc] at hc'
  cases hc'
  rw [hstopped] at hrunning
  cases hrunning

theorem not_startsSource_change {w : World} {id : String} {next : Container → Container}
    (hid : ∀ c, (next c).id = c.id)
    (hrunning : ∀ c, (next c).running = true → c.running = true) :
    ¬ StartsSource w (w.change id next) := by
  rintro ⟨⟨c, hc, hstopped⟩, c', hc', hstarted⟩
  rw [container_change hid, hc] at hc'
  cases hc'
  have hbefore : c.running = true := by
    dsimp only at hstarted
    split at hstarted
    · exact hrunning c hstarted
    · exact hstarted
  rw [hstopped] at hbefore
  cases hbefore

theorem not_startsSource_start {w : World} {id : String} (h : id ≠ w.sourceId) :
    ¬ StartsSource w (w.start id) := by
  rcases start_cases w id with hsame | ⟨container, _, _, hstart⟩
  · exact not_startsSource_of_same (by rw [hsame])
  · rintro ⟨⟨c, hc, hstopped⟩, c', hc', hstarted⟩
    have hchange : (w.start id).container w.sourceId =
        (w.change id Container.started).container w.sourceId := by rw [hstart]; rfl
    rw [hchange, container_change started_id, hc] at hc'
    cases hc'
    have hsource : c.id = w.sourceId := (container_mem hc).2
    dsimp only at hstarted
    rw [if_neg (hsource ▸ Ne.symm h)] at hstarted
    rw [hstopped] at hstarted
    cases hstarted

theorem not_startsSource_remove {w : World} {id : String} : ¬ StartsSource w (w.remove id) := by
  rintro ⟨⟨c, hc, hstopped⟩, c', hc', hstarted⟩
  have hsame : c' = c := by
    unfold World.container World.remove at hc'
    unfold World.container at hc
    rw [List.find?_filter] at hc'
    by_cases hid : w.sourceId = id
    · have hfound := List.find?_some hc'
      simp only [decide_eq_true_eq, ne_eq] at hfound
      exact absurd (hfound.2.trans hid) hfound.1
    · have hpredicate : (fun container : Container =>
          decide (container.id ≠ id) && decide (container.id = w.sourceId)) =
          fun container => decide (container.id = w.sourceId) := by
        funext container
        by_cases hcontainer : container.id = w.sourceId
        · simp [hcontainer, hid]
        · simp [hcontainer]
      simp only [decide_eq_true_eq, Bool.decide_and, hpredicate] at hc'
      rw [hc] at hc'
      exact (Option.some.inj hc').symm
  rw [hsame, hstopped] at hstarted
  cases hstarted

theorem not_startsSource_create {w : World} {c : Container} (h : c.id ≠ w.sourceId) :
    ¬ StartsSource w (w.create c) := by
  rintro ⟨⟨c₁, hc₁, hstopped⟩, c₂, hc₂, hstarted⟩
  have hsame : (w.create c).container w.sourceId = w.container w.sourceId :=
    List.find?_cons_of_neg (by simpa using h)
  rw [hsame, hc₁] at hc₂
  cases hc₂
  rw [hstopped] at hstarted
  cases hstarted

/-! ## The old container is nobody's candidate -/

/-- The identifier of the old container was given out, and it is not labelled
as the candidate of this operation. -/
structure Distinct (w : World) : Prop where
  used : w.sourceId ∈ w.usedIds
  source (c : Container) : c ∈ w.containers → c.id = w.sourceId →
    c.isCandidate w.operationId = false

theorem Grows.distinct {w w' : World} (h : Grows w w') (hw : Distinct w) : Distinct w' := by
  refine ⟨h.sourceId ▸ h.used _ hw.used, fun c hc hid => ?_⟩
  rw [h.sourceId] at hid
  rcases h.containers c hc with ⟨c', hc', hsame, hlabels⟩ | hnew
  · rw [h.operationId, isCandidate_labels hlabels]
    exact hw.source c' hc' (hsame ▸ hid)
  · exact absurd (hid ▸ hw.used) hnew

end Containers

/-! ## Runs -/

/-- What an updater process can be started to do. -/
inductive Job where
  | forward (executor : Executor) (operationId : String)
  | rollback (executor : Executor) (operationId : String)
  | coordinator (who : Coordinator)
  deriving DecidableEq, Repr

/-- One process: its job, and what happens around it until it ends or stops. -/
structure Run where
  job : Job
  events : Schedule Move
  deriving DecidableEq, Repr

section Runs
variable [Tools] [Verifiers]

def Job.program : Job → Updater Unit
  | .forward executor operationId => do
    let _ ← executeForward executor operationId
    pure ()
  | .rollback executor operationId => executeRollback executor operationId
  | .coordinator who => do
    let _ ← runLocked who
    pure ()

def Run.after (run : Run) (w : World) : World := (run.job.program.run run.events w).2.1

/-- The effects of a run, each as the states before and after it. -/
def Run.steps (run : Run) (w : World) : List (World × World) :=
  run.job.program.steps run.events w

/-- One process after the other: only one holds the lock. -/
def afterRuns (runs : List Run) (w : World) : World := runs.foldl (fun w run => run.after w) w

theorem program_within {R : World → World → Prop} (h : Allows R) (job : Job) :
    Within R job.program := by
  cases job with
  | forward executor operationId =>
    exact Within.bind (executeForward_within h) fun _ => Within.pure ()
  | rollback executor operationId => exact executeRollback_within h
  | coordinator who => exact Within.bind (runLocked_within h) fun _ => Within.pure ()

/-- Every run of an updater. -/
theorem run_grows (run : Run) (w : World) : Grows w (run.after w) :=
  (program_within Grows.allows run.job).run Grows.refl Grows.trans Grows.move run.events w

end Runs

/-! ## A sample operation -/

section Sample

def hex64 (c : Char) : String := String.ofList (List.replicate 64 c)

def sampleToken : String := "0123456789abcdef0123456789abcdef"

/-- The digests are those of the token and of the bytes that the sample uses. -/
@[reducible] def sampleTools : Tools where
  isAlnum c := c.isAlphanum
  sha256 bytes :=
    if bytes = [1] then "4bf5122f344554c53bde2ebb8cd2b7e3d1600ad631c385a5d7cce23c7785459a"
    else if bytes = [2] then "dbc1b4c900ffe48d575b5da5c638040125f65db0fe3e24494b76ea986457d986"
    else if bytes = [3] then "084fed08b978af4d7d196a7446a86b58009e636b611db16211b65a9aadff29c5"
    else hex64 'e'
  sha256Text text :=
    if text = sampleToken then "3eb1bd439947eb762998e566ccc2e099c791118b2f40579cc4f7da2b5061b7f9"
    else hex64 'e'
  handoffBytes _ := [3]
  alembicRevision _ _ _ := some "0042"

/-- Both containers are found healthy, and the database says nothing yet. -/
@[reducible] def sampleVerifiers : @Verifiers sampleTools :=
  letI := sampleTools
  { candidateHealthy := fun _ _ _ _ => .ok ()
    previousHealthy := fun _ _ _ => .ok ()
    databaseCommitted := fun _ _ => false }

def sampleDocument : HandoffDocument where
  operationId := "0f8fad5b-d9cb-469f-a165-70867728950e"
  currentContainerId := hex64 'a'
  sourceImageId := "sha256:" ++ hex64 '1'
  sourceImageReference := "josephyjq/mediasync:1.0.0"
  sourceVersion := "v1.0.0"
  sourceDigest := none
  targetVersion := "v1.1.0"
  targetDigest := "sha256:" ++ hex64 'd'
  targetRevision := String.ofList (List.replicate 40 '7')
  targetImage := "josephyjq/mediasync@sha256:" ++ hex64 'd'
  candidate :=
    { containerId := hex64 'a'
      name := "mediasync"
      env := []
      labels := []
      mounts := [⟨.bind, "/srv/mediasync", "/data", false⟩]
      restartPolicy := ⟨"unless-stopped", 0⟩ }

def sampleSource : Container where
  id := hex64 'a'
  name := "mediasync"
  image := "sha256:" ++ hex64 '1'
  configImage := "josephyjq/mediasync:1.0.0"
  cmd := applianceCommand
  env := []
  labels := []
  mounts := [⟨"bind", "", "/srv/mediasync", "/data", true⟩]
  networkMode := "bridge"
  readonlyRootfs := false
  capDrop := []
  capAdd := []
  securityOpt := []
  restartPolicy := ⟨"unless-stopped", 0⟩
  running := true

def sampleHelper : Container where
  id := hex64 'b'
  name := "mediasync-updater"
  image := "sha256:" ++ hex64 '2'
  configImage := "josephyjq/mediasync@sha256:" ++ hex64 'd'
  cmd := updaterCommand
  env := ["MEDIASYNC_UPDATE_OPERATION_ID=0f8fad5b-d9cb-469f-a165-70867728950e"]
  labels := [(updateRoleLabel, updaterRole),
    (updateOperationLabel, "0f8fad5b-d9cb-469f-a165-70867728950e")]
  mounts := [⟨"bind", "", "/srv/mediasync", "/data", true⟩,
    ⟨"bind", "", "/var/run/docker.sock", "/var/run/docker.sock", true⟩]
  networkMode := "none"
  readonlyRootfs := true
  capDrop := ["ALL"]
  capAdd := ["CAP_DAC_OVERRIDE"]
  securityOpt := ["no-new-privileges"]
  restartPolicy := ⟨"on-failure", 3⟩
  running := true

/-- The old container and the helper run; nothing has been written yet. -/
def sampleWorld : @World sampleTools :=
  letI := sampleTools
  { containers := [sampleSource, sampleHelper]
    usedIds := [hex64 'a', hex64 'b']
    nextId := hex64 'c'
    targetImageId := "sha256:" ++ hex64 '2'
    targetCommand := applianceCommand
    document := sampleDocument
    nextToken := sampleToken
    journal := fun _ => none
    data := fun path =>
      if path = "mediasync.db" then some ⟨[1], 0⟩
      else if path = "config/runtime-secrets.json" then some ⟨[2], 0⟩ else none }

/-- The record of the sample when its commit was requested. -/
def sampleRecord : @UpdaterResultV2 sampleTools.toAlphanumerics :=
  letI := sampleTools
  { operationId := "0f8fad5b-d9cb-469f-a165-70867728950e"
    sequence := 12
    status := .commitRequested
    checkpoint := .commitRequested
    recoveryGeneration := 0
    coordinatorContainerId := hex64 'b'
    sourceContainerId := hex64 'a'
    sourceImageId := "sha256:" ++ hex64 '1'
    sourceContainerName := "mediasync"
    targetImage := "josephyjq/mediasync@sha256:" ++ hex64 'd'
    targetRevision := String.ofList (List.replicate 40 '7')
    candidateTokenHash :=
      some "sha256:3eb1bd439947eb762998e566ccc2e099c791118b2f40579cc4f7da2b5061b7f9"
    candidateContainerId := some (hex64 'c')
    rollbackStarted := false
    updatedAt := 0
    valid := by decide +kernel }

def sampleCoordinator : Coordinator :=
  ⟨"/var/run/docker.sock", hex64 'b', "0f8fad5b-d9cb-469f-a165-70867728950e"⟩

end Sample

end MediaSync.UpdaterRuns
