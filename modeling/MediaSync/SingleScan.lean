import MediaSync.ScanEnqueue

/-!
# One active scan for a subscription

A session inserts a scan task only for a subscription that it has found free.
So there is one active scan for each subscription as long as nobody else
commits one in between, and two sessions that look at the same time can both
insert one.
-/
namespace MediaSync.SingleScan
open FaultPrograms Interleavings SharedStore Shared RowTables TaskTables TaskRepository
  TaskOwnership
open RetryAccounting ScanEnqueue

/-! ## Active scans -/

def ActiveScan (db : Database) (subscriptionId id : ℕ) : Prop :=
  ∃ task, db.tasks.get? id = some task ∧ isActiveScan subscriptionId task = true

/-- At most one active scan for each subscription. -/
def Single (db : Database) : Prop :=
  ∀ subscriptionId id id', ActiveScan db subscriptionId id → ActiveScan db subscriptionId id' →
    id = id'

def Free (db : Database) (subscriptionId : ℕ) : Prop := ∀ id, ¬ ActiveScan db subscriptionId id

section Scans
variable {db db' : Database} {clock : Time}

theorem activeScan_of_tasks (h : db'.tasks = db.tasks) {subscriptionId id : ℕ} :
    ActiveScan db' subscriptionId id ↔ ActiveScan db subscriptionId id := by
  unfold ActiveScan
  rw [h]

/-- What has ended is not active again. -/
theorem activeScan_reflects (hsame : identities db' = identities db) (hfrozen : Frozen db db')
    {subscriptionId id : ℕ} (h : ActiveScan db' subscriptionId id) :
    ActiveScan db subscriptionId id := by
  obtain ⟨task', htask', hactive⟩ := h
  obtain ⟨task, htask, hidentity⟩ := identities_get? hsame htask'
  simp only [identity, Prod.mk.injEq] at hidentity
  obtain ⟨htype, -, -, hsubscription, -⟩ := hidentity
  refine ⟨task, htask, ?_⟩
  simp only [isActiveScan, Bool.and_eq_true, decide_eq_true_eq, Bool.not_eq_true'] at hactive ⊢
  obtain ⟨⟨hscan, hfor⟩, hopen⟩ := hactive
  refine ⟨⟨htype ▸ hscan, hsubscription ▸ hfor⟩, ?_⟩
  cases hend : task.status.terminal with
  | false => rfl
  | true =>
    have hsame := hfrozen.tasks id task htask hend
    rw [htask'] at hsame
    cases hsame
    rw [hend] at hopen
    cases hopen

theorem worked_kept (step : Step) (hown : OwnershipInvariant db) :
    OwnershipInvariant (worked step db) ∧ ∀ subscriptionId id,
      ActiveScan (worked step db) subscriptionId id → ActiveScan db subscriptionId id := by
  unfold worked
  split
  · exact ⟨hown, fun _ _ h => h⟩
  · rename_i hcreates
    obtain ⟨ops, hops, hinserts⟩ := step_calls step db
    rw [hops]
    have hsame : identities (runAll ops db) = identities db :=
      runAll_identities ops (hinserts (by simpa using hcreates))
    exact ⟨hown.runAll ops, fun _ _ h => activeScan_reflects hsame (hown.frozen_runAll ops) h⟩

/-- A new scan task is the only active scan of a free subscription. -/
theorem inserted_activeScan (db : Database) {base : Database} {new : NewTask}
    {subscriptionId id : ℕ} (hbase : base.tasks = db.tasks)
    (hsubscription : new.subscriptionId = some subscriptionId)
    (hok : createTask base clock new = .ok (id, db')) {other scan : ℕ}
    (h : ActiveScan db' other scan) :
    ActiveScan db other scan ∨ other = subscriptionId ∧ scan = id := by
  obtain ⟨-, rfl, rfl⟩ := createTask_ok hok
  obtain ⟨task, htask, hactive⟩ := h
  rw [Table.get?_insert] at htask
  split at htask
  · rename_i hscan
    cases htask
    simp only [isActiveScan, NewTask.row, hsubscription, Bool.and_eq_true, decide_eq_true_eq,
      Option.some.injEq] at hactive
    exact .inr ⟨hactive.1.2.symm, hscan⟩
  · exact .inl ⟨task, hbase ▸ htask, hactive⟩

end Scans

/-! ## What a session does -/

/-- One effect of session `k`. It inserts only where it has found nothing. -/
inductive Access (k : ℕ) (w : World) : World → Prop where
  | same : Access k w w
  | find (subscriptionId : ℕ) (free : Free (w.view k) subscriptionId) :
    Access k w { w with outside := w.outside.find k subscriptionId }
  | write (d : Database) (unlocked : w.locked k = false) (tasks : d.tasks = (w.view k).tasks)
    (runs : d.taskRuns = (w.view k).taskRuns) : Access k w (w.write k d)
  | insert (subscriptionId : ℕ) (base : Database) (clock : Time) (new : NewTask) (id : ℕ)
    (d : Database) (unlocked : w.locked k = false) (tasks : base.tasks = (w.view k).tasks)
    (runs : base.taskRuns = (w.view k).taskRuns)
    (subscription : new.subscriptionId = some subscriptionId)
    (found : subscriptionId ∈ w.outside.found k)
    (created : createTask base clock new = .ok (id, d)) :
    Access k w { w.write k d with outside := w.outside.settle k subscriptionId }
  | commit : Access k w { w.commit k with outside := w.outside.forget k }
  | rollback : Access k w { w.rollback k with outside := w.outside.forget k }

/-- What a session has found is its own. -/
def Untouched (k : ℕ) (w w' : World) : Prop := w'.outside.found k = w.outside.found k

theorem untouched_reliable (k : ℕ) : Reliable (Untouched k) :=
  ⟨fun _ => rfl, fun h h' => h'.trans h⟩

theorem access_untouched {k j : ℕ} (hj : j ≠ k) {w w' : World} (h : Access k w w') :
    Untouched j w w' := by
  unfold Untouched
  cases h <;> simp [Shared.write, Beside.find, Beside.settle, Beside.forget, hj]

/-- The protocol of the sessions. -/
def protocol : Protocol ℕ World EnqueueError Unit where
  rely := Untouched
  guarantee := Access
  answer _ _ _ := True
  reliable := untouched_reliable

section Sessions
variable {settings : Settings} {k : ℕ} {α : Type}

abbrev Sessions (k : ℕ) (A : World → Prop) (p : Enqueue α) : Prop :=
  Safe (Untouched k) (Access k) A p

theorem stable_found (subscriptionId : ℕ) :
    Stable (Untouched k) fun w => subscriptionId ∈ w.outside.found k := by
  intro w w' hw hfound
  rw [hw]
  exact hfound

theorem look_sessions (view : Beside → Database → Except EnqueueError α) :
    Sessions k (fun _ => True) (query k .interrupted view fun _ => id) :=
  query_safe stable_true (fun _ => .same) view

theorem activeTask_none {db : Database} {subscriptionId : ℕ}
    (h : activeTask db "scan" (some subscriptionId) none = none) : Free db subscriptionId := by
  rintro id ⟨task, htask, hactive⟩
  unfold activeTask at h
  rw [List.argmax_eq_none] at h
  have hmem : (id, task) ∈ db.tasks.select fun _ task => task.type = "scan" &&
      !task.status.terminal &&
      ((some subscriptionId).all fun id => task.subscriptionId = some id) &&
      ((none : Option ℕ).all fun id => task.fileId = some id) := by
    refine Table.mem_select.mpr ⟨htask, ?_⟩
    simp only [isActiveScan, Bool.and_eq_true, decide_eq_true_eq, Bool.not_eq_true'] at hactive
    simp [hactive]
  rw [h] at hmem
  cases hmem

/-- A look that finds nothing makes the subscription one that was found free. -/
theorem findScan_sessions (subscriptionId : ℕ) :
    From (Untouched k) (Access k) (fun _ => True) (findScan k subscriptionId) fun found w =>
      found = .ok none → subscriptionId ∈ w.outside.found k := by
  refine From.effect stable_true (fun w _ => ?_) (fun w w' _ hw hnone => ?_)
    (fun _ _ h => nomatch h)
    fun _ _ _ _ h => nomatch h
  · dsimp only
    cases hactive : activeTask (w.view k) "scan" (some subscriptionId) none with
    | none => exact .find subscriptionId (activeTask_none hactive)
    | some row => exact .same
  · have hnone' : activeTask (w.view k) "scan" (some subscriptionId) none = none := by
      simpa using hnone
    have hstill : Untouched k { w with outside := w.outside.find k subscriptionId } w' := by
      simpa only [hnone', Option.map_none, Option.isNone_none, if_true] using hw
    rw [hstill]
    simp [Beside.find]

theorem insertScan_sessions {subscriptionId : ℕ} {new : NewTask} (flushed : Database → Database)
    (htasks : ∀ db, (flushed db).tasks = db.tasks)
    (hruns : ∀ db, (flushed db).taskRuns = db.taskRuns)
    (hnew : new.subscriptionId = some subscriptionId) :
    Sessions k (fun w => subscriptionId ∈ w.outside.found k)
      (insertScan k subscriptionId flushed new) := by
  refine Safe.effect (stable_found subscriptionId) fun w hfound => ?_
  dsimp only
  split
  · exact .same
  · rename_i hlock
    cases hcreated : createTask (flushed (w.view k)) w.outside.now new with
    | error e => exact .same
    | ok created =>
      exact .insert subscriptionId _ _ new created.1 created.2 (by simpa using hlock) (htasks _)
        (hruns _) hnew hfound hcreated

theorem enqueue_sessions {p : Enqueue α} (hp : Sessions k (fun _ => True) p) :
    Sessions k (fun _ => True) (session k .interrupted (Beside.forget k) p) :=
  session_safe (untouched_reliable k) (fun _ => .commit) (fun _ => .rollback) hp

/-- A look, and an insert if it found nothing. -/
theorem look_then {subscriptionId : ℕ} {f : Option ℕ → Enqueue α}
    (hsome : ∀ id, Sessions k (fun _ => True) (f (some id)))
    (hnone : Sessions k (fun w => subscriptionId ∈ w.outside.found k) (f none)) :
    Sessions k (fun _ => True) (findScan k subscriptionId >>= f) := by
  refine From.bind (untouched_reliable k) (findScan_sessions subscriptionId) (fun found => ?_)
    fun _ _ _ => trivial
  cases found with
  | none => exact hnone.pre fun w h => h rfl
  | some id => exact (hsome id).pre fun _ _ => trivial

theorem enqueueManualScan_sessions (subscriptionId : ℕ) (subscription : Subscription)
    (forceFull : Bool) :
    Sessions k (fun _ => True) (enqueueManualScan k subscriptionId subscription forceFull) := by
  refine look_then (fun id => Safe.pure _) ?_
  exact Safe.bind (untouched_reliable k)
    (insertScan_sessions id (fun _ => rfl) (fun _ => rfl) rfl)
    fun taskId => Safe.pure _

theorem scanSubscription_sessions (subscriptionId : ℕ) (full : Bool) :
    Sessions k (fun _ => True) (scanSubscription settings k subscriptionId full) := by
  refine enqueue_sessions (Safe.bind (untouched_reliable k) (look_sessions _) fun row => ?_)
  refine Safe.bind (untouched_reliable k) (Safe.ofExcept _) fun _ => ?_
  exact enqueueManualScan_sessions subscriptionId row.2 full

theorem enqueueDue_sessions (now : Time) (due : List (ℕ × Subscription))
    (moved : List (ℕ × Time)) (result : Enqueued) :
    Sessions k (fun _ => True) (enqueueDue settings k now due moved result) := by
  induction due generalizing moved result with
  | nil =>
    unfold enqueueDue
    split
    · exact Safe.pure result
    · refine Safe.bind (untouched_reliable k) (Safe.effect stable_true fun w _ => ?_)
        fun _ => Safe.pure result
      dsimp only
      split
      · exact .same
      · rename_i hlock
        exact .write _ (by simpa using hlock) rfl rfl
  | cons row rest ih =>
    unfold enqueueDue
    split
    · exact ih moved result
    · refine Safe.bind (untouched_reliable k) (Safe.ofExcept _) fun next => ?_
      refine look_then (fun id => ih _ _) ?_
      exact Safe.bind (untouched_reliable k)
        (insertScan_sessions (reschedule _) (fun _ => rfl) (fun _ => rfl) rfl)
        fun taskId => ih _ _

theorem runOnce_sessions (batchSize : ℕ) :
    Sessions k (fun _ => True) (runOnce settings k batchSize) := by
  refine enqueue_sessions (Safe.bind (untouched_reliable k) (look_sessions _) fun blocked => ?_)
  split
  · exact Safe.pure _
  · unfold enqueueDueScanTasks
    split
    · exact Safe.throw _
    · exact Safe.bind (untouched_reliable k) (look_sessions _) fun due =>
        enqueueDue_sessions _ _ _ _

theorem program_sessions (job : Job) :
    Sessions k (fun _ => True) (job.program settings k) := by
  cases job with
  | manual subscriptionId full =>
    exact Safe.bind (untouched_reliable k) (scanSubscription_sessions subscriptionId full)
      fun _ => Safe.pure _
  | scheduled batchSize =>
    exact Safe.bind (untouched_reliable k) (runOnce_sessions batchSize) fun _ => Safe.pure _

end Sessions

/-! ## The invariant -/

structure Orderly (w : World) : Prop where
  ownership : OwnershipInvariant w.committed
  single : Single w.committed
  drafted (k : ℕ) (d : Database) : w.draft = some (k, d) → OwnershipInvariant d ∧ Single d
  /-- What a session has found free is free, as far as it can see. -/
  free (k subscriptionId : ℕ) : subscriptionId ∈ w.outside.found k → Free (w.view k) subscriptionId

/-- No scan of a subscription is committed that somebody has found free and
not inserted for. -/
def Undisturbed (w w' : World) : Prop :=
  ∀ k, ∀ subscriptionId ∈ w.outside.found k, ∀ id,
    ActiveScan w'.committed subscriptionId id → ActiveScan w.committed subscriptionId id

section Invariant
variable {w w' : World} {k : ℕ}

theorem Orderly.view (h : Orderly w) (k : ℕ) :
    OwnershipInvariant (w.view k) ∧ Single (w.view k) := by
  unfold Shared.view
  split
  · exact ⟨h.ownership, h.single⟩
  · rename_i j d hdraft
    split
    · exact h.drafted j d hdraft
    · exact ⟨h.ownership, h.single⟩

/-- Writing a draft that keeps what the session and the others have found. -/
theorem Orderly.write (h : Orderly w) (hlock : w.locked k = false) {d : Database}
    (beside : Beside) (hown : OwnershipInvariant d) (hsingle : Single d)
    (hfound : ∀ j ≠ k, beside.found j = w.outside.found j)
    (hfree : ∀ s ∈ beside.found k, Free d s) :
    Orderly { w.write k d with outside := beside } where
  ownership := h.ownership
  single := h.single
  drafted j d' hdraft := by
    cases hdraft
    exact ⟨hown, hsingle⟩
  free j s hs := by
    by_cases hj : j = k
    · subst hj
      rw [show ({ w.write j d with outside := beside } : World).view j = d by
        simp [Shared.view, Shared.write]]
      exact hfree s hs
    · rw [view_beside, view_write_other hj, ← view_of_unlocked_other hlock hj]
      exact h.free j s (hfound j hj ▸ hs)

theorem Orderly.insert (h : Orderly w) {s id : ℕ} {base d : Database} {clock : Time}
    {new : NewTask} (hlock : w.locked k = false) (htasks : base.tasks = (w.view k).tasks)
    (hruns : base.taskRuns = (w.view k).taskRuns) (hnew : new.subscriptionId = some s)
    (hs : s ∈ w.outside.found k) (hok : createTask base clock new = .ok (id, d)) :
    Orderly { w.write k d with outside := w.outside.settle k s } := by
  have hview := h.view k
  have hbase : OwnershipInvariant base :=
    ⟨fun id task htask => by
      have hcustody := hview.1.custody id task (htasks ▸ htask)
      unfold runsOf at hcustody ⊢
      rwa [hruns], fun id run hrun => by
      rw [htasks]
      exact hview.1.linked id run (hruns ▸ hrun)⟩
  have hfree := h.free k s hs
  have hinserted (other scan : ℕ) (hscan : ActiveScan d other scan) :=
    inserted_activeScan (w.view k) htasks hnew hok hscan
  refine h.write hlock _ (createTask_custody hbase hok) ?_ (fun j hj => by simp [Beside.settle, hj])
    fun s' hs' => ?_
  · intro other first second hfirst hsecond
    rcases hinserted other first hfirst with hfirst' | ⟨hfor, hid⟩
    · rcases hinserted other second hsecond with hsecond' | ⟨hfor', -⟩
      · exact hview.2 other first second hfirst' hsecond'
      · exact absurd (hfor' ▸ hfirst') (hfree first)
    · rcases hinserted other second hsecond with hsecond' | ⟨-, hid'⟩
      · exact absurd (hfor ▸ hsecond') (hfree second)
      · exact hid.trans hid'.symm
  · intro scan hscan
    simp only [Beside.settle, if_true, List.mem_filter, decide_eq_true_eq] at hs'
    rcases hinserted s' scan hscan with hscan' | ⟨hfor, -⟩
    · exact h.free k s' hs'.1 scan hscan'
    · exact hs'.2 hfor

theorem forget_found {j : ℕ} (hj : j ≠ k) (beside : Beside) :
    (beside.forget k).found j = beside.found j := if_neg hj

theorem Orderly.commit (h : Orderly w)
    (hundisturbed : Undisturbed w { w.commit k with outside := w.outside.forget k }) :
    Orderly { w.commit k with outside := w.outside.forget k } := by
  have hview := h.view k
  rcases w.commit_cases k with hsame | ⟨hdraft, hcommit⟩
  · rw [hsame]
    refine ⟨h.ownership, h.single, h.drafted, fun j s hs => ?_⟩
    by_cases hj : j = k
    · subst hj
      simp [Beside.forget] at hs
    · exact h.free j s (forget_found hj w.outside ▸ hs)
  · rw [hcommit] at hundisturbed ⊢
    refine ⟨hview.1, hview.2, (fun j d hd => nomatch hd), fun j s hs => ?_⟩
    by_cases hj : j = k
    · subst hj
      simp [Beside.forget] at hs
    · rw [forget_found hj] at hs
      intro id hactive
      have hbefore := hundisturbed j s hs id hactive
      have hfree := h.free j s hs
      rw [view_of_draft hdraft hj] at hfree
      exact hfree id hbefore

theorem Orderly.rollback (h : Orderly w) :
    Orderly { w.rollback k with outside := w.outside.forget k } := by
  rcases w.rollback_cases k with hsame | ⟨⟨d, hdraft⟩, hrollback⟩
  · rw [hsame]
    refine ⟨h.ownership, h.single, h.drafted, fun j s hs => ?_⟩
    by_cases hj : j = k
    · subst hj
      simp [Beside.forget] at hs
    · exact h.free j s (forget_found hj w.outside ▸ hs)
  · rw [hrollback]
    refine ⟨h.ownership, h.single, (fun j d hd => nomatch hd), fun j s hs => ?_⟩
    by_cases hj : j = k
    · subst hj
      simp [Beside.forget] at hs
    · rw [forget_found hj] at hs
      have hfree := h.free j s hs
      rwa [view_of_draft hdraft hj] at hfree

/-- What one effect of a session preserves. -/
theorem Orderly.access (h : Orderly w) (haccess : Access k w w') (hundisturbed : Undisturbed w w') :
    Orderly w' := by
  cases haccess with
  | same => exact h
  | find s hfree =>
    refine ⟨h.ownership, h.single, h.drafted, fun j s' hs' => ?_⟩
    by_cases hj : j = k
    · subst hj
      simp only [Beside.find, if_true, List.mem_cons] at hs'
      rcases hs' with rfl | hs'
      · exact hfree
      · exact h.free j s' hs'
    · simp only [Beside.find, hj, if_false] at hs'
      exact h.free j s' hs'
  | write d hlock htasks hruns =>
    have hview := h.view k
    have hactive (s id : ℕ) : ActiveScan d s id ↔ ActiveScan (w.view k) s id :=
      activeScan_of_tasks htasks
    refine h.write hlock w.outside ⟨fun id task htask => ?_, fun id run hrun => ?_⟩ ?_
      (fun _ _ => rfl) fun s hs id hscan => ?_
    · have hcustody := hview.1.custody id task (htasks ▸ htask)
      unfold runsOf at hcustody ⊢
      rwa [hruns]
    · rw [htasks]
      exact hview.1.linked id run (hruns ▸ hrun)
    · intro s id id' hid hid'
      exact hview.2 s id id' ((hactive s id).mp hid) ((hactive s id').mp hid')
    · exact h.free k s hs id ((hactive s id).mp hscan)
  | insert s base clock new id d hlock htasks hruns hnew hs hok =>
    exact h.insert hlock htasks hruns hnew hs hok
  | commit => exact h.commit hundisturbed
  | rollback => exact h.rollback

/-- A transaction that makes no scan active. -/
theorem Orderly.transact (h : Orderly w) {f : Database → Database}
    (hf : OwnershipInvariant (f w.committed) ∧ ∀ s id,
      ActiveScan (f w.committed) s id → ActiveScan w.committed s id) : Orderly (w.transact f) := by
  rcases w.transact_cases f with hsame | ⟨hdraft, htransact⟩
  · rwa [hsame]
  · rw [htransact]
    refine ⟨hf.1, fun s id id' hid hid' => h.single s id id' (hf.2 s id hid) (hf.2 s id' hid'),
      fun k d hd => ?_, fun k s hs id hactive => ?_⟩
    · rw [hdraft] at hd
      cases hd
    · have hfree := h.free k s hs
      rw [Shared.view_of_unlocked hdraft] at hfree
      have hcommitted : ActiveScan (f w.committed) s id := by
        simpa [Shared.view, hdraft] using hactive
      exact hfree id (hf.2 s id hcommitted)

theorem Orderly.move (h : Orderly w) (m : Move) : Orderly (World.move w m) := by
  cases m with
  | work step => exact h.transact (worked_kept step h.ownership)
  | subscriptions rows =>
    exact h.transact (f := fun db => { db with subscriptions := rows })
      ⟨⟨h.ownership.custody, h.ownership.linked⟩, fun _ _ hactive => hactive⟩
  | tick now => exact ⟨h.ownership, h.single, h.drafted, h.free⟩
  | gate blocked => exact ⟨h.ownership, h.single, h.drafted, h.free⟩

end Invariant

/-! ## Runs -/

/-- A happening commits no scan of a subscription that a session has found free
and not inserted for. -/
def CommitsAlone (settings : Settings) (pool : Pool ℕ World EnqueueError Unit)
    (happening : Happening ℕ Job Move) : Prop :=
  Undisturbed pool.state (pool.step (system settings) happening).state

section Runs
variable {settings : Settings} {pool : Pool ℕ World EnqueueError Unit}

theorem abandon_untouched {w : World} {k j : ℕ} (hj : j ≠ k) :
    Untouched j w (World.abandon w k) := forget_found hj w.outside

theorem move_untouched (w : World) (m : Move) (j : ℕ) : Untouched j w (World.move w m) := by
  have htransact (f : Database → Database) : (w.transact f).outside = w.outside := by
    rcases w.transact_cases f with hsame | ⟨-, htransact⟩
    · rw [hsame]
    · rw [htransact]
  unfold Untouched
  cases m with
  | work step => exact congrArg (·.found j) (htransact _)
  | subscriptions rows => exact congrArg (·.found j) (htransact _)
  | tick now => rfl
  | gate blocked => rfl

theorem system_respects (happening : Happening ℕ Job Move) :
    protocol.Respects (system settings) pool happening where
  others _ _ _ hj _ haccess := access_untouched hj haccess
  stops _ _ _ hj := abandon_untouched hj
  moves i j _ := move_untouched pool.state i j
  starts _ job _ _ := program_sessions job _ trivial

/-- What one happening preserves. -/
theorem Orderly.step (hkeeps : protocol.Keeps pool) (h : Orderly pool.state)
    {happening : Happening ℕ Job Move} (halone : CommitsAlone settings pool happening) :
    Orderly (pool.step (system settings) happening).state :=
  hkeeps.state h (fun _ _ haccess hstate => h.access haccess (hstate ▸ halone))
    (fun _ => h.rollback) h.move

end Runs

/-- There is one active scan for each subscription after every run in which no
scan is committed for a subscription that somebody else has found free and is
about to insert for. -/
theorem single_active_scan (settings : Settings) (start : World)
    (hdraft : start.draft = none) (hfound : ∀ k, start.outside.found k = [])
    (hown : OwnershipInvariant start.committed) (hsingle : Single start.committed)
    (happenings : List (Happening ℕ Job Move))
    (halone : Pool.Along (system settings) (CommitsAlone settings) happenings
      (Pool.initial start)) :
    Single ((Pool.initial start).run (system settings) happenings).state.committed := by
  have hstart : Orderly start := by
    refine ⟨hown, hsingle, fun k d hd => ?_, fun k s hs => ?_⟩
    · rw [hdraft] at hd
      cases hd
    · rw [hfound k] at hs
      cases hs
  have hrun := Pool.run_invariant (system settings) (C := CommitsAlone settings)
    (J := fun pool => protocol.Keeps pool ∧ Orderly pool.state)
    (fun pool happening hpool hC =>
      ⟨hpool.1.step (system_respects happening), hpool.2.step hpool.1 hC⟩)
    happenings ⟨protocol.keeps_initial start, hstart⟩ halone
  exact hrun.2.single

/-! ## Two requests at once -/

def sampleSettings : Settings where
  manualScanCooldownSeconds := 60
  dueAgain _ now := .ok (now + 3600000000)
  isoformat slot := toString slot

def sampleSubscription : Subscription where
  cloudAccountId := 1
  name := "show"
  provider := "quark"
  shareUrl := "https://pan.quark.cn/s/a1"
  targetPath := "/media"

/-- An enabled subscription that nobody scans. -/
def opening : World where
  committed :=
    { accounts :=
        Table.empty.insert { provider := "quark", name := "main", refreshToken := "token" }
      subscriptions := Table.empty.insert sampleSubscription }
  outside := { now := 0 }

/-- Both requests look before either inserts. -/
def requestsAtOnce : List (Happening ℕ Job Move) :=
  [.start 1 (.manual 1 false), .start 2 (.manual 1 false), .act 1, .act 2, .act 1, .act 2,
    .act 1, .act 1, .act 2, .act 2]

/-- The pool after two requests at once. -/
def afterRequests : Pool ℕ World EnqueueError Unit :=
  (Pool.initial opening).run (system sampleSettings) requestsAtOnce

theorem afterRequests_scans : (afterRequests.state.committed.tasks.select fun _ task =>
    isActiveScan 1 task).map Prod.fst = [1, 2] := by
  decide +kernel

/-- Two requests at once leave two active scans. -/
theorem two_active_scans : ¬ Single
    ((Pool.initial opening).run (system sampleSettings) requestsAtOnce).state.committed := by
  have hactive (id : ℕ) (hid : id ∈ [1, 2]) : ActiveScan afterRequests.state.committed 1 id := by
    rw [← afterRequests_scans, List.mem_map] at hid
    obtain ⟨row, hrow, rfl⟩ := hid
    obtain ⟨hget, hscan⟩ := Table.mem_select.mp hrow
    exact ⟨row.2, hget, hscan⟩
  intro hsingle
  exact absurd (hsingle 1 1 2 (hactive 1 (by decide)) (hactive 2 (by decide))) (by decide)

/-- One request, and another one that finds its task. -/
def requestsInTurn : List (Happening ℕ Job Move) :=
  [.start 1 (.manual 1 false), .act 1, .act 1, .act 1, .act 1, .start 2 (.manual 1 false), .act 2,
    .act 2]

theorem undisturbed_of_committed {w w' : World} (h : w'.committed = w.committed) :
    Undisturbed w w' := by
  intro k s _ id hactive
  rwa [h] at hactive

theorem undisturbed_of_found {w w' : World} (h : ∀ k, w.outside.found k = []) :
    Undisturbed w w' := by
  intro k s hs
  rw [h k] at hs
  cases hs

theorem requestsInTurn_alone : Pool.Along (system sampleSettings) (CommitsAlone sampleSettings)
    requestsInTurn (Pool.initial opening) := by
  refine ⟨undisturbed_of_committed rfl, undisturbed_of_committed rfl, undisturbed_of_committed rfl,
    undisturbed_of_committed rfl, undisturbed_of_found fun k => ?_, undisturbed_of_committed rfl,
    undisturbed_of_committed rfl, undisturbed_of_committed rfl, trivial⟩
  change (if k = 1 then _ else _) = []
  split
  · rfl
  · change (if k = 1 then _ else _) = []
    rw [if_neg (by assumption)]
    rfl

theorem single_active_scan_sample : Single
    ((Pool.initial opening).run (system sampleSettings) requestsInTurn).state.committed :=
  single_active_scan sampleSettings opening rfl (fun _ => rfl)
    ⟨(fun _ _ htask => nomatch htask), fun _ _ hrun => nomatch hrun⟩
    (fun _ _ _ ⟨_, htask, _⟩ => nomatch htask) requestsInTurn requestsInTurn_alone

end MediaSync.SingleScan
