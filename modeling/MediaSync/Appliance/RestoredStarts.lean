import MediaSync.Appliance.NoSplitBrain

/-!
# What the old container is started on

Rollback puts the files of the snapshot back before it starts the old
container. From then on the old container owns them, and a rollback that was
interrupted before it recorded the start does not put them back a second time.
-/
namespace MediaSync.RestoredStarts
open FaultPrograms PythonText UpdateHandoff UpdateJournal UpdaterWorld UpdateSnapshot
open UpdaterForward UpdaterCoordinator UpdaterEffects UpdaterRuns UpdaterPhases UpdaterSafety
open NoSplitBrain

section Starts
variable [Tools] [Verifiers]

/-- Every step of every run: a start of the old container after a candidate
finds the files of the verified snapshot, unless the old container was started
since. -/
theorem restored_starts (runs : List Run) (run : Run) {w : World} (h : Fresh w) :
    ∀ s ∈ run.steps (afterRuns runs w), StartsRestored s.1 s.2 := by
  have hsafe : Safe (afterRuns runs w) := runs_safe runs h.safe
  exact (run_safe run hsafe).2

/-- A start of the old container, after one of a candidate, on a database that
is not the captured one. -/
def startsChanged (s : World × World) : Bool :=
  (s.1.container s.1.sourceId).any (fun container => !container.running) &&
    (s.2.container s.1.sourceId).any (fun container => container.running) &&
    s.1.starts.any (fun container => container.isCandidate s.1.operationId) &&
    match verified s.1.operationId s.1.backup with
    | .error _ => false
    | .ok (directory, manifest) =>
      contentOf s.1 database ≠ captured directory manifest database

omit [Verifiers] in
theorem startsChanged_spec {s : World × World} (h : startsChanged s = true) :
    StartsSource s.1 s.2 ∧ (∃ c ∈ s.1.starts, c.isCandidate s.1.operationId = true) ∧
      ¬ Restored s.1 := by
  unfold startsChanged at h
  simp only [Bool.and_eq_true, Option.any_eq_true, Bool.not_eq_true', List.any_eq_true] at h
  obtain ⟨⟨⟨hstopped, hstarted⟩, hcandidate⟩, hchanged⟩ := h
  refine ⟨⟨hstopped, hstarted⟩, hcandidate, fun hrestored => ?_⟩
  split at hchanged
  · cases hchanged
  · rename_i directory manifest hverified
    have hsame := hrestored directory manifest hverified database (by decide)
    exact absurd hsame (by simpa using hchanged)

theorem afterRuns_singleton (run : Run) (w : World) : afterRuns [run] w = run.after w := rfl

/-- A start of the old container when a candidate was the last one started. -/
def startsFirst (s : World × World) : Bool :=
  (s.1.container s.1.sourceId).any (fun container => !container.running) &&
    (s.2.container s.1.sourceId).any (fun container => container.running) &&
    s.1.starts.head?.any fun container => container.isCandidate s.1.operationId

omit [Verifiers] in
theorem startsFirst_spec {s : World × World} (h : startsFirst s = true) :
    StartsSource s.1 s.2 ∧ (∃ c ∈ s.1.starts, c.isCandidate s.1.operationId = true) ∧
      ¬ SourceSince s.1 := by
  unfold startsFirst at h
  simp only [Bool.and_eq_true, Option.any_eq_true, Bool.not_eq_true'] at h
  obtain ⟨⟨hstopped, hstarted⟩, candidate, hhead, hcandidate⟩ := h
  refine ⟨⟨hstopped, hstarted⟩, ⟨candidate, List.mem_of_head? hhead, hcandidate⟩, ?_⟩
  rintro ⟨c, hc, -⟩
  obtain ⟨rest, hstarts⟩ := List.head?_eq_some_iff.mp hhead
  rw [hstarts, List.takeWhile_cons_of_neg (by simp [hcandidate])] at hc
  cases hc

end Starts

/-! ## The sample -/

def sampleExecutor : Executor := ⟨"/var/run/docker.sock", hex64 'b'⟩

/-- A job that stops before its effect number `n`, after some moves. -/
def stopAt (job : Job) (n : ℕ) (moves : List Move) : Run :=
  ⟨job, List.replicate n ⟨[], .none⟩ ++ [⟨moves, .crash⟩]⟩

def interruptedRuns : List Run :=
  [stopAt (.forward sampleExecutor sampleDocument.operationId) 59 [],
    stopAt (.rollback sampleExecutor sampleDocument.operationId) 60
      [.write (hex64 'a') "mediasync.db" (some [9]), .exit (hex64 'a')]]

def resumedRun : Run := ⟨.rollback sampleExecutor sampleDocument.operationId, []⟩

/-! ### After the first run

The runs are evaluated one at a time: the world between them is written out.
-/

section Switched

/-- The first run starts the candidate, and does not record it. -/
def switchingRun : Run := stopAt (.forward sampleExecutor sampleDocument.operationId) 59 []

/-- The old container writes and exits while the second run is stopped. -/
def overwritingRun : Run :=
  stopAt (.rollback sampleExecutor sampleDocument.operationId) 60
    [.write (hex64 'a') "mediasync.db" (some [9]), .exit (hex64 'a')]

def switchedWorld : @World sampleTools :=
  letI := sampleTools
  letI := sampleVerifiers
  switchingRun.after sampleWorld

/-- Whether the runs after the first one come to such a start. -/
def changedAfter (w : @World sampleTools) : Bool :=
  letI := sampleTools
  letI := sampleVerifiers
  (resumedRun.steps (overwritingRun.after w)).any startsChanged

theorem changedAfter_interrupted (w : @World sampleTools) :
    letI := sampleTools
    letI := sampleVerifiers
    (resumedRun.steps (afterRuns interruptedRuns w)).any startsChanged =
      changedAfter (switchingRun.after w) := rfl

def sampleCandidate : Container :=
  { sampleSource with
    id := hex64 'c'
    image := "sha256:" ++ hex64 '2'
    configImage := "josephyjq/mediasync@sha256:" ++ hex64 'd'
    env := ["MEDIASYNC_CANDIDATE_TOKEN=0123456789abcdef0123456789abcdef",
      "MEDIASYNC_IMAGE_REVISION=7777777777777777777777777777777777777777",
      "MEDIASYNC_IMAGE_DIGEST=sha256:" ++ hex64 'd']
    labels := [(updateRoleLabel, candidateRole), (updateOperationLabel, sampleDocument.operationId)]
    networkMode := "default" }

def switchedRecord : @UpdaterResultV2 sampleTools.toAlphanumerics :=
  letI := sampleTools
  { sampleRecord with
    sequence := 7
    status := .switching
    checkpoint := .candidateCreated
    valid := by decide +kernel }

def sampleSnapshot : SnapshotDirectory where
  files := [("handoff.json", [3]), ("runtime-secrets.json", [2]), ("database.sqlite", [1])]
  manifest := some ⟨sampleDocument.operationId, "0042",
    [⟨"mediasync.db", "database.sqlite", 1,
        "4bf5122f344554c53bde2ebb8cd2b7e3d1600ad631c385a5d7cce23c7785459a"⟩,
      ⟨"config/runtime-secrets.json", "runtime-secrets.json", 1,
        "dbc1b4c900ffe48d575b5da5c638040125f65db0fe3e24494b76ea986457d986"⟩,
      ⟨"update/handoff.json", "handoff.json", 1,
        "084fed08b978af4d7d196a7446a86b58009e636b611db16211b65a9aadff29c5"⟩]⟩

/-- That world, written out as far as a rollback reads its functions. -/
def switched : @World sampleTools :=
  letI := sampleTools
  { sampleWorld with
    containers := [sampleCandidate,
      { sampleSource with
        name := "mediasync-previous-0f8fad5b", restartPolicy := ⟨"no", 0⟩, running := false },
      sampleHelper]
    usedIds := [hex64 'c', hex64 'a', hex64 'b']
    starts := [{ sampleCandidate with running := false }]
    pending := some (.marker ⟨sampleDocument.operationId, "v1.1.0", "sha256:" ++ hex64 'd',
      String.ofList (List.replicate 40 '7'), sampleToken⟩)
    journal := fun id =>
      if id = sampleDocument.operationId then some (.v2 switchedRecord)
      else switchedWorld.journal id
    data := fun path =>
      if path = "mediasync.db" then some ⟨[1], 0⟩
      else if path = "config/runtime-secrets.json" then some ⟨[2], 0⟩
      else if path = "mediasync.db-wal" then none
      else if path = "mediasync.db-shm" then none
      else switchedWorld.data path
    backup := some sampleSnapshot }

/-- Everything but the journal and the data files. -/
structure Fields where
  containers : List Container
  usedIds : List String
  starts : List Container
  texts : List String
  document : HandoffDocument
  flags : Bool × Bool
  pending : Option PendingFile
  directories : Option SnapshotDirectory × Option SnapshotDirectory
  restoring : List (String × Bytes)
  counts : ℕ × ℤ
  deriving DecidableEq

def fields [Tools] (w : World) : Fields where
  containers := w.containers
  usedIds := w.usedIds
  starts := w.starts
  texts := w.nextId :: w.targetImageId :: w.nextToken :: w.targetCommand
  document := w.document
  flags := (w.handoff, w.evidence)
  pending := w.pending
  directories := (w.backup, w.staging)
  restoring := w.restoring
  counts := (w.nextStamp, w.now)

def recordOf [Alphanumerics] : Option JournalFile → Option ResultFields
  | some (.v2 result) => some result.toResultFields
  | _ => none

theorem recordOf_eq [Alphanumerics] {file : Option JournalFile} {result : UpdaterResultV2}
    (h : recordOf file = some result.toResultFields) : file = some (.v2 result) := by
  match file, h with
  | some (.v2 ⟨found, valid⟩), h =>
    cases Option.some.inj h
    rfl

theorem world_ext [Tools] {w w' : World} (hfields : fields w = fields w')
    (hjournal : w.journal = w'.journal) (hdata : w.data = w'.data) : w = w' := by
  cases w
  cases w'
  simp only [fields, Fields.mk.injEq, List.cons.injEq, Prod.mk.injEq] at hfields hjournal hdata
  simp_all

/-- Both worlds have the same fields, and their functions agree where the second
one is written out. -/
def sameWritten : Prop :=
  letI := sampleTools
  fields switchedWorld = fields switched ∧
    recordOf (switchedWorld.journal sampleDocument.operationId) =
      some switchedRecord.toResultFields ∧
    switchedWorld.data "mediasync.db" = some ⟨[1], 0⟩ ∧
    switchedWorld.data "config/runtime-secrets.json" = some ⟨[2], 0⟩ ∧
    switchedWorld.data "mediasync.db-wal" = none ∧
    switchedWorld.data "mediasync.db-shm" = none
  deriving Decidable

theorem switchedWorld_eq (h : sameWritten) : switchedWorld = switched := by
  let _ := sampleTools
  obtain ⟨hfields, hrecord, hdatabase, hsecrets, hwal, hshm⟩ := h
  refine world_ext hfields (funext fun id => ?_) (funext fun path => ?_)
  · change switchedWorld.journal id =
      if id = sampleDocument.operationId then some (.v2 switchedRecord)
      else switchedWorld.journal id
    split
    · rename_i hid
      rw [hid]
      exact recordOf_eq hrecord
    · rfl
  · change switchedWorld.data path = if path = "mediasync.db" then some ⟨[1], 0⟩
      else if path = "config/runtime-secrets.json" then some ⟨[2], 0⟩
      else if path = "mediasync.db-wal" then none
      else if path = "mediasync.db-shm" then none
      else switchedWorld.data path
    split_ifs with h₁ h₂ h₃ h₄
    · rw [h₁, hdatabase]
    · rw [h₂, hsecrets]
    · rw [h₃, hwal]
    · rw [h₄, hshm]
    · rfl

theorem switchedWorld_written : sameWritten := by
  decide +kernel

-- Both are about the second run from there, which is evaluated once for the two.
theorem switched_overwritten :
    letI := sampleTools
    letI := sampleVerifiers
    changedAfter switched = true ∧ (overwritingRun.steps switched).any startsFirst = true := by
  decide +kernel

theorem switchedWorld_runs :
    letI := sampleTools
    letI := sampleVerifiers
    afterRuns [switchingRun] sampleWorld = switchedWorld := by
  let _ := sampleTools
  let _ := sampleVerifiers
  unfold switchedWorld
  exact afterRuns_singleton _ _

theorem resumed_startsChanged :
    letI := sampleTools
    letI := sampleVerifiers
    (resumedRun.steps (afterRuns interruptedRuns sampleWorld)).any startsChanged = true := by
  have hswitched : switchedWorld = switched := switchedWorld_eq switchedWorld_written
  have hchanged : changedAfter switchedWorld = true :=
    (congrArg changedAfter hswitched).trans switched_overwritten.1
  exact (changedAfter_interrupted sampleWorld).trans hchanged

end Switched

/-- The candidate is started and the updater stops; the rollback puts the files
back and starts the old container. -/
theorem restored_starts_sample :
    letI := sampleTools
    letI := sampleVerifiers
    Fresh sampleWorld ∧ ∃ s ∈ overwritingRun.steps (afterRuns [switchingRun] sampleWorld),
      StartsSource s.1 s.2 ∧ (∃ c ∈ s.1.starts, c.isCandidate s.1.operationId = true) ∧
        Captured s.1 ∧ Restored s.1 := by
  let _ := sampleTools
  let _ := sampleVerifiers
  refine ⟨sample_fresh, ?_⟩
  have hswitched : afterRuns [switchingRun] sampleWorld = switched :=
    switchedWorld_runs.trans (switchedWorld_eq switchedWorld_written)
  have hfirst :
      (overwritingRun.steps (afterRuns [switchingRun] sampleWorld)).any startsFirst = true := by
    rw [hswitched]
    exact switched_overwritten.2
  obtain ⟨s, hs, hstart⟩ := List.any_eq_true.mp hfirst
  obtain ⟨hstarts, hcandidate, hnot⟩ := startsFirst_spec hstart
  exact ⟨s, hs, hstarts, hcandidate,
    (restored_starts [switchingRun] overwritingRun sample_fresh s hs hstarts
      hcandidate).resolve_left hnot⟩

/-- The candidate is started and the updater stops; the rollback starts the old
container and stops before it records that; the old container writes and exits;
the next rollback starts it again. -/
theorem started_on_changed_database :
    letI := sampleTools
    letI := sampleVerifiers
    ∃ s ∈ resumedRun.steps (afterRuns interruptedRuns sampleWorld),
      StartsSource s.1 s.2 ∧ (∃ c ∈ s.1.starts, c.isCandidate s.1.operationId = true) ∧
        ¬ Restored s.1 := by
  let _ := sampleTools
  let _ := sampleVerifiers
  obtain ⟨s, hs, hchanged⟩ := List.any_eq_true.mp resumed_startsChanged
  exact ⟨s, hs, startsChanged_spec hchanged⟩

end MediaSync.RestoredStarts
