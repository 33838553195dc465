import MediaSync.Appliance.UpdaterCoordinator

/-!
# What an updater can do to its world

Whatever its branches decide, an updater acts by a dozen kinds of effects. A
relation that allows each of these relates the beginning and the end of every
run.
-/
namespace MediaSync.UpdaterEffects
open FaultPrograms GuardedPrograms PythonText UpdateHandoff UpdateJournal UpdaterWorld
open UpdaterObservation UpdateSnapshot UpdaterForward UpdaterRollback UpdaterCoordinator

section Effects
variable [Tools]

/-- Every kind of change to the data files and their temporaries is an `R` step. -/
structure AllowsFiles (R : World → World → Prop) : Prop where
  refl (w : World) : R w w
  data (w : World) (path : String) (content : Option Bytes) : R w (w.setData path content)
  putTemporary (w : World) (path : String) (content : Bytes) : R w (w.putTemporary path content)
  dropTemporary (w : World) (path : String) : R w (w.dropTemporary path)
  replace (w : World) (path : String) (content : Bytes) :
    R w ((w.setData path (some content)).dropTemporary path)

/-- Every kind of effect but those on the journal is an `R` step. -/
structure AllowsActs (R : World → World → Prop) : Prop extends AllowsFiles R where
  pending (w : World) (marker : PendingUpdateMarker) :
    R w { w with pending := some (.marker marker) }
  staging (w : World) (staging : Option SnapshotDirectory) : R w { w with staging := staging }
  backup (w : World) : R w { w with backup := w.staging, staging := none }
  evidence (w : World) : R w { w with evidence := false }
  start (w : World) (id : String) : R w (w.start id)
  stop (w : World) (id : String) : R w (w.stop id)
  setPolicy (w : World) (id : String) (policy : RestartPolicy) : R w (w.setPolicy id policy)
  rename (w : World) (id name : String) : R w (w.rename id name)
  remove (w : World) (id : String) : R w (w.remove id)
  create (w : World) (name : String) (config : CreateConfig) :
    w.nextId ∉ w.usedIds → fullContainerId w.nextId = true →
      R w (w.create (w.created name config))

/-- Every kind of effect of an updater is an `R` step. -/
structure Allows (R : World → World → Prop) : Prop extends AllowsActs R where
  journal (w : World) (journal : Journal) : R w { w with journal := journal }

variable {R : World → World → Prop}

/-! ## Requests -/

theorem query_within (hrefl : ∀ w, R w w) {α : Type} {view : World → Except UpdaterError α} :
    Within R (query view) := Within.look hrefl

theorem request_within (hrefl : ∀ w, R w w) {accepted : World → Except UpdaterError Unit}
    {next : World → World} (hnext : ∀ w, accepted w = .ok () → R w (next w)) :
    Within R (request accepted next) := by
  refine Within.effect fun w => ?_
  cases haccepted : accepted w with
  | error e => exact hrefl w
  | ok _ => exact hnext w haccepted

/-- An accepted creation uses a full identifier that was never given out. -/
theorem create_accepted {w : World} {name : String}
    (h : (if !containerNamePattern name || nameTaken name w || !fullContainerId w.nextId ||
        w.nextId ∈ w.usedIds then .error (UpdaterError.engine "无法创建 updater 助手容器")
      else Except.ok ()) = Except.ok ()) :
    w.nextId ∉ w.usedIds ∧ fullContainerId w.nextId = true := by
  split at h
  · cases h
  · rename_i hrefused
    simp only [Bool.or_eq_true, Bool.not_eq_true', decide_eq_true_eq, not_or,
      Bool.not_eq_false] at hrefused
    exact ⟨hrefused.2, hrefused.1.2⟩

theorem createContainer_within (h : AllowsActs R) {name : String} {config : CreateConfig} :
    Within R (createContainer name config) := by
  refine request_within h.refl fun w haccepted => ?_
  obtain ⟨hfresh, hfull⟩ := create_accepted haccepted
  exact h.create w name config hfresh hfull

theorem startContainer_within (h : AllowsActs R) {id : String} : Within R (startContainer id) :=
  request_within h.refl fun w _ => h.start w id

theorem stopContainer_within (h : AllowsActs R) {id : String} : Within R (stopContainer id) :=
  request_within h.refl fun w _ => h.stop w id

theorem updateRestartPolicy_within (h : AllowsActs R) {id : String} {policy : RestartPolicy} :
    Within R (updateRestartPolicy id policy) := request_within h.refl fun w _ =>
      h.setPolicy w id policy

theorem renameContainer_within (h : AllowsActs R) {id name : String} :
    Within R (renameContainer id name) := request_within h.refl fun w _ => h.rename w id name

theorem removeContainer_within (h : AllowsActs R) {id : String} : Within R (removeContainer id) :=
  request_within h.refl fun w _ => h.remove w id

theorem inspectContainer_within (hrefl : ∀ w, R w w) {id : String} :
    Within R (inspectContainer id) := query_within hrefl

theorem skipIf_within {condition : Bool} {p : Updater Unit} (hp : Within R p) :
    Within R (skipIf condition p) := by
  unfold skipIf
  split
  · exact Within.pure ()
  · exact hp

theorem require_within {condition : Bool} {text : String} : Within R (require condition text) :=
  skipIf_within (Within.throw _)

theorem stopAndWait_within (h : AllowsActs R) {id : String} : Within R (stopAndWait id) :=
  Within.bind (stopContainer_within h) fun _ => query_within h.refl

theorem attempt_within {ε ε' α : Type} {p : Prog World ε α} (hp : Within R p) :
    Within R (Prog.attempt p : Prog World ε' (Except ε α)) := by
  induction p with
  | ret a => trivial
  | raise e => trivial
  | eff next cont failed ihc ihf => exact ⟨hp.1, fun w => ihc w (hp.2.1 w), ihf hp.2.2⟩

theorem whileLoop_within {α : Type} {going : α → Bool} {body : α → Updater α}
    {stuck : UpdaterError} (hbody : ∀ a, Within R (body a)) (turns : ℕ) (a : α) :
    Within R (whileLoop going body stuck turns a) := by
  induction turns generalizing a with
  | zero => exact Within.throw _
  | succ turns ih =>
    unfold whileLoop
    split
    · exact Within.bind (hbody a) ih
    · exact Within.pure a

/-! ## Observations -/

theorem inspectAll_within (hrefl : ∀ w, R w w) (ids : List String) : Within R (inspectAll ids) := by
  induction ids with
  | nil => exact Within.pure []
  | cons id ids ih =>
    exact Within.bind (Within.look hrefl) fun _ => Within.bind ih fun _ => Within.pure _

theorem observe_within (hrefl : ∀ w, R w w) {socketPath : String} {document : HandoffDocument}
    {result : ResultFields} {marker : Option PendingUpdateMarker} {hostname : String} :
    Within R (observe socketPath document result marker hostname) := by
  unfold observe
  split
  · exact Within.throw _
  · exact Within.bind (Within.look hrefl) fun _ =>
      Within.bind (inspectAll_within hrefl _) fun _ => Within.pure _

/-! ## Files -/

theorem prepare_within (hrefl : ∀ w, R w w)
    (hpending : ∀ w marker, R w { w with pending := some (.marker marker) })
    {document : HandoffDocument} : Within R (prepare document) := by
  have hmarker : Within R (newMarker document) := by
    refine Within.bind (Within.look hrefl) fun token => Within.bind (Within.effect fun w => ?_)
      fun _ => Within.pure _
    split
    · exact hrefl w
    · exact hpending w _
  refine Within.bind (Within.look hrefl) fun existing => Within.bind ?_ fun marker =>
    Within.bind (Within.ofExcept _) fun config => Within.pure _
  cases existing with
  | none => exact hmarker
  | some marker => exact Within.pure _

theorem copySources_within (hrefl : ∀ w, R w w)
    (hstaging : ∀ w staging, R w { w with staging := staging }) (paths : List String) :
    Within R (copySources paths) := by
  induction paths with
  | nil => exact Within.pure []
  | cons path paths ih =>
    refine Within.bind ?_ fun file => Within.bind ih fun files => Within.pure _
    refine Within.bind (Within.look hrefl) fun before => Within.bind (Within.effect fun w => ?_)
      fun file => Within.bind (Within.look hrefl) fun after => ?_
    · split
      · exact hrefl w
      · exact hstaging w _
    · split
      · exact Within.throw _
      · exact Within.pure _

theorem sourcePaths_within (hrefl : ∀ w, R w w) : Within R sourcePaths := by
  refine Within.bind (Within.look hrefl) fun _ => Within.bind (Within.look hrefl) fun _ =>
    Within.bind (Within.look hrefl) fun _ => Within.bind (Within.look hrefl) fun _ =>
      Within.pure _

theorem readHandoff_within (hrefl : ∀ w, R w w) {operationId : String} :
    Within R (readHandoff operationId) := Within.look hrefl

/-- What making a snapshot can do. -/
theorem create_within (hrefl : ∀ w, R w w)
    (hstaging : ∀ w staging, R w { w with staging := staging })
    (hbackup : ∀ w, R w { w with backup := w.staging, staging := none }) {operationId : String} :
    Within R (create operationId) := by
  have hfill : Within R (fillStaging operationId) := by
    refine Within.bind (sourcePaths_within hrefl) fun paths =>
      Within.bind (copySources_within hrefl hstaging paths) fun files =>
        Within.bind (Within.look hrefl) fun revision =>
          Within.bind (Within.effect fun w => hstaging w _) fun _ =>
            Within.effect fun w => hbackup w
  refine Within.bind (readHandoff_within hrefl) fun _ => Within.bind (Within.look hrefl)
    fun present => ?_
  split
  · exact Within.throw _
  · refine Within.bind (Within.effect fun w => hstaging w _) fun _ => Within.handle hfill fun e =>
      Within.bind (attempt_within (Within.effect fun w => hstaging w _)) fun _ => Within.throw e

theorem discardTemporaries_within (h : AllowsFiles R) (paths : List String) :
    Within R (discardTemporaries paths) := by
  induction paths with
  | nil => exact Within.pure ()
  | cons path paths ih =>
    exact Within.bind (Within.effect fun w => h.dropTemporary w path) fun _ => ih

theorem guardTemporaries_within (h : AllowsFiles R) {α : Type} {known : List String} {p : Updater α}
    (hp : Within R p) : Within R (guardTemporaries known p) :=
  Within.handle hp fun e => Within.bind (discardTemporaries_within h known) fun _ => Within.throw e

theorem stageFiles_within (h : AllowsFiles R) (directory : SnapshotDirectory) (known : List String)
    (items : List SnapshotFile) : Within R (stageFiles directory known items) := by
  induction items generalizing known with
  | nil => exact Within.pure ()
  | cons item items ih =>
    refine Within.bind (guardTemporaries_within h ?_) fun _ => ih _
    refine Within.bind (Within.effect fun w => h.dropTemporary w _) fun _ =>
      Within.effect fun w => ?_
    split
    · exact h.refl w
    · exact h.putTemporary w _ _

theorem putBack_within (h : AllowsFiles R) (manifest : SnapshotManifest) :
    Within R (putBack manifest) := by
  have hremove (paths : List String) : Within R (removeOptionals paths) := by
    induction paths with
    | nil => exact Within.pure ()
    | cons path paths ih =>
      exact Within.bind (Within.effect fun w => h.data w path none) fun _ => ih
  have hreplace (paths : List String) : Within R (replaceFiles paths) := by
    induction paths with
    | nil => exact Within.pure ()
    | cons path paths ih =>
      refine Within.bind (Within.effect fun w => ?_) fun _ => ih
      split
      · exact h.refl w
      · exact h.replace w path _
  exact Within.bind (hremove _) fun _ => hreplace _

theorem verify_within (hrefl : ∀ w, R w w) {operationId : String} :
    Within R (verify operationId) := Within.look hrefl

theorem restore_within (h : AllowsFiles R) {operationId : String} :
    Within R (restore operationId) :=
  Within.bind (verify_within h.refl) fun _ => Within.bind (stageFiles_within h _ _ _) fun _ =>
    Within.bind (guardTemporaries_within h (putBack_within h _)) fun _ => Within.pure _

/-! ## The way forward -/

theorem journalCall_within (h : Allows R) {α : Type} {call : ℤ → Journal → Answer α} :
    Within R (journalCall call) := Within.effect fun w => h.journal w _

theorem readResult_within (hrefl : ∀ w, R w w) {operationId : String} :
    Within R (readResult operationId) := Within.look hrefl

theorem inspectSource_within (hrefl : ∀ w, R w w) {document : HandoffDocument} {previous : Bool} :
    Within R (inspectSource document previous) :=
  Within.bind (inspectContainer_within hrefl) fun _ => Within.bind (Within.ofExcept _) fun _ =>
    Within.pure _

section Forward
variable {executor : Executor} {document : HandoffDocument} {result : ResultFields}
  {preparation : CandidatePreparation}

theorem loadOrStart_within (h : Allows R) : Within R (loadOrStart executor document) := by
  refine Within.bind (Within.look h.refl) fun present => ?_
  split
  · refine Within.bind (readResult_within h.refl) fun result => ?_
    cases result with
    | inl r => exact Within.throw _
    | inr r => exact Within.pure r
  · exact journalCall_within h

theorem fenceOldRestart_within (h : AllowsActs R) : Within R (fenceOldRestart document) :=
  Within.bind (inspectSource_within h.refl) fun _ =>
    Within.bind (skipIf_within (updateRestartPolicy_within h)) fun _ =>
      Within.bind (inspectSource_within h.refl) fun _ => require_within

theorem stopOld_within (h : AllowsActs R) : Within R (stopOld document) :=
  Within.bind (inspectSource_within h.refl) fun _ =>
    Within.bind (skipIf_within (stopAndWait_within h)) fun _ =>
      Within.bind (inspectSource_within h.refl) fun _ => require_within

theorem ensureSnapshot_within (h : AllowsActs R) {operationId : String} :
    Within R (ensureSnapshot operationId) :=
  Within.bind (Within.look h.refl) fun _ =>
    Within.bind (skipIf_within (create_within h.refl h.staging h.backup)) fun _ =>
      Within.bind (verify_within h.refl) fun _ => Within.pure ()

theorem renameOld_within (h : AllowsActs R) : Within R (renameOld document) := by
  refine Within.bind (inspectContainer_within h.refl) fun container => Within.bind ?_ fun _ =>
    Within.bind (inspectSource_within h.refl) fun _ => Within.pure ()
  unfold renameSource
  split
  · exact Within.bind (Within.ofExcept _) fun _ => renameContainer_within h
  · split
    · exact Within.throw _
    · exact Within.ofExcept _

theorem prepareCandidate_within (h : AllowsActs R) :
    Within R (prepareCandidate executor document result) := by
  refine Within.bind (prepare_within h.refl h.pending) fun preparation => Within.bind ?_ fun id =>
    Within.pure _
  refine Within.bind (observe_within h.refl) fun first => Within.bind ?_ fun observation => ?_
  · unfold createMissing
    split
    · exact Within.bind (createContainer_within h) fun _ => observe_within h.refl
    · exact Within.pure _
  · split
    · exact Within.pure _
    · exact Within.throw _

theorem requireCandidateIdentity_within (hrefl : ∀ w, R w w) :
    Within R (requireCandidateIdentity executor document result preparation) :=
  Within.bind (observe_within hrefl) fun _ => Within.bind (Within.ofExcept _) fun _ =>
    Within.bind require_within fun _ => Within.pure _

theorem bringUpCandidate_within (h : AllowsActs R) :
    Within R (bringUpCandidate executor document result) :=
  Within.bind (prepare_within h.refl h.pending) fun _ =>
    Within.bind (requireCandidateIdentity_within h.refl) fun _ =>
      Within.bind (inspectContainer_within h.refl) fun _ =>
        Within.bind (skipIf_within (startContainer_within h)) fun _ =>
          Within.bind (inspectContainer_within h.refl) fun _ => require_within

theorem checkCandidate_within [Verifiers] (h : AllowsActs R) :
    Within R (checkCandidate executor document result) :=
  Within.bind (prepare_within h.refl h.pending) fun _ =>
    Within.bind (requireCandidateIdentity_within h.refl) fun _ => Within.look h.refl

theorem cleanupOld_within (h : AllowsActs R) : Within R (cleanupOld document result) :=
  Within.bind (query_within h.refl) fun _ => skipIf_within (Within.bind
    (inspectContainer_within h.refl) fun _ => Within.bind require_within fun _ =>
      removeContainer_within h)

theorem learnNothing_within {p : Updater Unit} (hp : Within R p) : Within R (learnNothing p) :=
  Within.bind hp fun _ => Within.pure _

theorem forwardBranch_within [Verifiers] (h : AllowsActs R) {branch : Branch}
    (hbranch : forwardBranch executor document result = some branch) : Within R branch.effect := by
  unfold forwardBranch at hbranch
  split at hbranch
  · cases hbranch
    exact learnNothing_within (fenceOldRestart_within h)
  · cases hbranch
    exact learnNothing_within (stopOld_within h)
  · cases hbranch
    exact Within.bind (prepare_within h.refl h.pending) fun _ => Within.pure _
  · cases hbranch
    exact learnNothing_within (ensureSnapshot_within h)
  · cases hbranch
    exact learnNothing_within (renameOld_within h)
  · cases hbranch
    exact prepareCandidate_within h
  · cases hbranch
    exact learnNothing_within (bringUpCandidate_within h)
  · split at hbranch
    · cases hbranch
      exact Within.pure _
    · cases hbranch
      exact learnNothing_within (checkCandidate_within h)
  · cases hbranch
    exact Within.pure _
  · cases hbranch
    exact learnNothing_within (Within.look h.refl)
  · cases hbranch

theorem executeForward_within [Verifiers] (h : Allows R) {operationId : String} :
    Within R (executeForward executor operationId) := by
  have hturn (document : HandoffDocument) (result : UpdaterResultV2) :
      Within R (forwardTurn executor document result) := by
    unfold forwardTurn
    split
    · exact Within.throw _
    · rename_i branch hbranch
      exact Within.bind (forwardBranch_within h.toAllowsActs hbranch) fun _ => journalCall_within h
  unfold executeForward
  split
  · exact Within.throw _
  · exact Within.bind (readHandoff_within h.refl) fun document =>
      Within.bind (loadOrStart_within h) fun _ => Within.bind (Within.ofExcept _) fun _ =>
        Within.bind (whileLoop_within (hturn document) _ _) fun _ =>
          Within.bind (Within.ofExcept _) fun _ =>
            Within.bind (cleanupOld_within h.toAllowsActs) fun _ =>
            Within.pure _

end Forward

/-! ## The way back -/

section Back
variable {executor : Executor} {document : HandoffDocument}
  {preparation : CandidatePreparation}

theorem rollbackCheckpoint_within (h : Allows R) {operationId : String}
    {request : CheckpointRequest} : Within R (rollbackCheckpoint operationId request) :=
  Within.bind (readResult_within h.refl) fun _ => journalCall_within h

theorem enterOrResume_within (h : Allows R) {result : UpdaterResultV2} :
    Within R (enterOrResume executor document result) := by
  have hbegin (preparation : CandidatePreparation) :
      Within R (beginRollback executor document result preparation) := by
    refine Within.bind (observe_within h.refl) fun observation => ?_
    split
    · exact Within.throw _
    · split
      · exact Within.throw _
      · exact rollbackCheckpoint_within h
  refine Within.bind (prepare_within h.refl h.pending) fun preparation => ?_
  split
  · exact Within.throw _
  · split
    · exact Within.pure _
    · split
      · exact Within.throw _
      · exact Within.bind (hbegin preparation) fun _ => Within.pure _

variable {result : ResultFields}

theorem observeSafely_within (hrefl : ∀ w, R w w) :
    Within R (observeSafely executor document result preparation) :=
  Within.bind (observe_within hrefl) fun _ => Within.bind require_within fun _ => Within.pure _

theorem stopCandidate_within (h : AllowsActs R) :
    Within R (stopCandidate executor document result preparation) :=
  Within.bind (observeSafely_within h.refl) fun _ =>
    Within.bind (skipIf_within (Within.bind (Within.ofExcept _) fun _ => stopAndWait_within h))
      fun _ => Within.bind (observeSafely_within h.refl) fun _ => require_within

theorem removeCandidate_within (h : AllowsActs R) :
    Within R (removeCandidate executor document result preparation) :=
  Within.bind (observeSafely_within h.refl) fun _ =>
    Within.bind (skipIf_within (Within.bind require_within fun _ =>
      Within.bind (Within.ofExcept _) fun _ => removeContainer_within h))
      fun _ => Within.bind (observeSafely_within h.refl) fun _ => require_within

theorem restoreSnapshot_within (h : AllowsActs R) {operationId : String} :
    Within R (restoreSnapshot operationId) :=
  Within.bind (Within.look h.refl) fun _ => skipIf_within (Within.bind (verify_within h.refl)
    fun _ => Within.bind (restore_within h.toAllowsFiles) fun _ =>
      Within.bind (verify_within h.refl)
      fun _ => Within.pure ())

theorem inspectOld_within (hrefl : ∀ w, R w w) : Within R (inspectOld document result) :=
  Within.bind (inspectContainer_within hrefl) fun _ => Within.bind require_within fun _ =>
    Within.pure _

theorem restoreOldName_within (h : AllowsActs R) : Within R (restoreOldName document result) := by
  refine Within.bind (inspectOld_within h.refl) fun container => Within.bind ?_ fun _ =>
    Within.bind (inspectContainer_within h.refl) fun _ => require_within
  unfold restoreSourceName
  split
  · exact renameContainer_within h
  · exact require_within

theorem restoreOldPolicy_within (h : AllowsActs R) : Within R (restoreOldPolicy document result) :=
  Within.bind (inspectOld_within h.refl) fun _ =>
    Within.bind (skipIf_within (updateRestartPolicy_within h)) fun _ =>
      Within.bind (inspectContainer_within h.refl) fun _ => require_within

theorem startOld_within (h : AllowsActs R) : Within R (startOld document result) :=
  Within.bind (inspectOld_within h.refl) fun _ =>
    Within.bind (skipIf_within (startContainer_within h)) fun _ =>
      Within.bind (inspectContainer_within h.refl) fun _ => require_within

theorem rollbackBranch_within [Verifiers] (h : AllowsActs R) {branch : Branch}
    (hbranch : rollbackBranch executor document preparation result = some branch) :
    Within R branch.effect := by
  unfold rollbackBranch at hbranch
  split at hbranch
  · cases hbranch
    exact learnNothing_within (stopCandidate_within h)
  · cases hbranch
    exact learnNothing_within (removeCandidate_within h)
  · cases hbranch
    exact learnNothing_within (restoreSnapshot_within h)
  · cases hbranch
    exact learnNothing_within (Within.effect fun w => h.evidence w)
  · cases hbranch
    exact learnNothing_within (restoreOldName_within h)
  · cases hbranch
    exact learnNothing_within (restoreOldPolicy_within h)
  · cases hbranch
    exact learnNothing_within (startOld_within h)
  · cases hbranch
    exact learnNothing_within (Within.look h.refl)
  · cases hbranch
    exact Within.pure _
  · cases hbranch
    exact Within.pure _
  · cases hbranch

theorem markRollbackFailed_within (h : Allows R) {operationId : String} :
    Within R (markRollbackFailed operationId) := by
  refine Within.bind (readResult_within h.refl) fun current => ?_
  cases current with
  | inl r => exact Within.pure ()
  | inr r =>
    dsimp only
    split
    · exact Within.pure ()
    · exact Within.bind (journalCall_within h) fun _ => Within.pure ()

theorem rollbackError_within (h : Allows R) {operationId : String} (e : UpdaterError) :
    Within R (rollbackError operationId e) := by
  unfold rollbackError
  split
  · exact Within.bind (Within.bind (attempt_within (markRollbackFailed_within h))
      fun _ => Within.pure ()) fun _ => Within.throw _
  · exact Within.throw _

theorem rollbackWork_within [Verifiers] (h : Allows R) {result : UpdaterResultV2} :
    Within R (rollbackWork executor document result) := by
  have hturn (preparation : CandidatePreparation) (result : UpdaterResultV2) :
      Within R (rollbackTurn executor document preparation result) := by
    unfold rollbackTurn
    split
    · exact Within.throw _
    · rename_i branch hbranch
      exact Within.bind (rollbackBranch_within h.toAllowsActs hbranch) fun _ =>
        rollbackCheckpoint_within h
  exact Within.bind (enterOrResume_within h) fun entered =>
    Within.bind (whileLoop_within (hturn entered.2) _ _) fun _ => Within.pure ()

theorem readRollbackResult_within (hrefl : ∀ w, R w w) {operationId : String} :
    Within R (readRollbackResult executor operationId) := by
  refine Within.bind (readResult_within hrefl) fun result => ?_
  cases result with
  | inl r => exact Within.throw _
  | inr r =>
    dsimp only
    split
    · exact Within.throw _
    · split
      · exact Within.throw _
      · split
        · exact Within.throw _
        · exact Within.pure r

theorem executeRollback_within [Verifiers] (h : Allows R) {operationId : String} :
    Within R (executeRollback executor operationId) := by
  unfold executeRollback
  split
  · exact Within.throw _
  · refine Within.bind (readHandoff_within h.refl) fun document =>
      Within.bind (readRollbackResult_within h.refl) fun result => ?_
    split
    · exact Within.pure ()
    · exact Within.handle (rollbackWork_within h) (rollbackError_within h)

end Back

/-! ## The coordinator -/

section Coordinating
variable {coordinator : Coordinator} {document : HandoffDocument} {duty : Duty}

theorem identifyCurrentCoordinator_within (hrefl : ∀ w, R w w) :
    Within R (identifyCurrentCoordinator coordinator document) := by
  refine Within.bind (query_within hrefl) fun summaries => ?_
  split
  · exact Within.bind (inspectContainer_within hrefl) fun _ => Within.bind require_within
      fun _ => Within.pure _
  · exact Within.throw _

theorem readOptionalResult_within (hrefl : ∀ w, R w w) {operationId : String} :
    Within R (readOptionalResult operationId) := by
  refine Within.bind (Within.look hrefl) fun present => ?_
  split
  · exact Within.bind (readResult_within hrefl) fun _ => Within.pure _
  · exact Within.pure none

theorem disarm_within (h : AllowsActs R) {id : String} : Within R (disarm id) := by
  refine Within.bind (attempt_within (Within.bind (updateRestartPolicy_within h) fun _ =>
    Within.bind (inspectContainer_within h.refl) fun _ => Within.pure _)) fun result => ?_
  cases result with
  | ok answer => exact Within.pure _
  | error e => exact Within.pure _

theorem finish_within (h : AllowsActs R) {id : String} : Within R (finish id) :=
  Within.bind (disarm_within h) fun _ => Within.pure _

theorem manual_within (h : AllowsActs R) {id : String} : Within R (manual id) :=
  Within.bind (disarm_within h) fun _ => Within.pure _

theorem markRecoveryExhausted_within (h : Allows R) {result : UpdaterResultV2} :
    Within R (markRecoveryExhausted document result) := by
  have henter : Within R (enterExhausted document result) := by
    unfold enterExhausted
    split
    · exact Within.pure _
    · exact Within.bind (prepare_within h.refl h.pending) fun _ => journalCall_within h
  unfold markRecoveryExhausted
  split
  · exact Within.pure ()
  · exact Within.bind (attempt_within (Within.bind henter fun _ =>
      Within.bind (journalCall_within h) fun _ => Within.pure ())) fun _ => Within.pure ()

theorem goForward_within [Verifiers] (h : Allows R) : Within R (goForward duty) :=
  Within.bind (executeForward_within h) fun _ => finish_within h.toAllowsActs

theorem goBack_within [Verifiers] (h : Allows R) : Within R (goBack duty) :=
  Within.bind (executeRollback_within h) fun _ => finish_within h.toAllowsActs

variable {marker : Option PendingUpdateMarker} {observation : DockerRecoveryObservation}

theorem act_within [Verifiers] (h : Allows R) {result : ResultFields} :
    Within R (act duty result marker observation) := by
  unfold act
  split
  · exact goForward_within h
  · exact goForward_within h
  · exact goBack_within h
  · exact goBack_within h
  · unfold reconcileCommit
    split
    · exact manual_within h.toAllowsActs
    · split
      · exact goForward_within h
      · refine Within.bind (startContainer_within h.toAllowsActs) fun _ =>
          Within.bind (observe_within h.refl) fun again => ?_
        split
        · exact goForward_within h
        · exact manual_within h.toAllowsActs
  · exact finish_within h.toAllowsActs
  · exact manual_within h.toAllowsActs

theorem recover_within [Verifiers] (h : Allows R) {result : UpdaterResultV2} :
    Within R (recover duty result marker) := by
  refine Within.bind (observe_within h.refl) fun observation => ?_
  split
  · exact manual_within h.toAllowsActs
  · unfold actAsOwner
    split
    · exact act_within h
    · refine Within.bind (attempt_within (journalCall_within h)) fun taken => ?_
      split
      · exact act_within h
      · split
        · exact Within.throw _
        · exact Within.bind (markRecoveryExhausted_within h) fun _ => manual_within h.toAllowsActs
      · exact Within.throw _

theorem runLocked_within [Verifiers] (h : Allows R) : Within R (runLocked coordinator) := by
  refine Within.bind (readHandoff_within h.refl) fun document =>
    Within.bind (identifyCurrentCoordinator_within h.refl) fun id =>
      Within.bind (readOptionalResult_within h.refl) fun result => ?_
  unfold coordinate
  split
  · exact goForward_within h
  · exact manual_within h.toAllowsActs
  · split
    · exact goForward_within h
    · split
      · exact finish_within h.toAllowsActs
      · refine Within.bind (Within.look h.refl) fun pending => ?_
        split
        · exact manual_within h.toAllowsActs
        · exact recover_within h
        · exact recover_within h

end Coordinating

end Effects

end MediaSync.UpdaterEffects
