import MediaSync.TaskOwnership

/-!
# Which task is claimed next

The claimable tasks are ordered by priority, due time, creation time and id,
and a claim takes the first of them. It writes one row and creates one run; a
first task that still has a running run makes the claim raise instead. A task
that was handed out is handed out again only after its owner has been taken
away.
-/
namespace MediaSync.ClaimOrder
open RowTables TaskTables TaskRepository TaskOwnership

/-- The first claimable task at the time `now`. -/
structure First (db : Database) (now : Time) (id : ℕ) (task : Task) : Prop where
  get : db.tasks.get? id = some task
  claimable : isClaimable now task
  least : ∀ other row, db.tasks.get? other = some row → isClaimable now row →
    claimKey (id, task) ≤ claimKey (other, row)

section Selection
variable {db : Database} {now : Time} {id : ℕ} {task : Task}

theorem claimKey_injective {row row' : ℕ × Task} (h : claimKey row = claimKey row') :
    row.1 = row'.1 := by
  unfold claimKey at h
  simp only [toLex_inj, Prod.mk.injEq] at h
  exact h.2.2.2

theorem firstClaimable_first
    (h : firstClaimable (db.tasks.select fun _ task => isClaimable now task) = some (id, task)) :
    First db now id task := by
  obtain ⟨hget, hclaimable⟩ := Table.mem_select.mp (List.argmin_mem h)
  refine ⟨hget, hclaimable, fun other row hrow hother => ?_⟩
  exact List.le_of_mem_argmin (Table.mem_select.mpr ⟨hrow, hother⟩) h

theorem firstClaimable_none
    (h : firstClaimable (db.tasks.select fun _ task => isClaimable now task) = none) (id : ℕ)
    (task : Task) (htask : db.tasks.get? id = some task) : isClaimable now task = false := by
  by_contra hclaimable
  have hmem : (id, task) ∈ db.tasks.select fun _ task => isClaimable now task :=
    Table.mem_select.mpr ⟨htask, by simpa using hclaimable⟩
  rw [List.argmin_eq_none.mp h] at hmem
  exact absurd hmem List.not_mem_nil

/-- There is one first task, and the selection finds it. -/
theorem First.selected (h : First db now id task) :
    firstClaimable (db.tasks.select fun _ task => isClaimable now task) = some (id, task) := by
  cases hfirst : firstClaimable (db.tasks.select fun _ task => isClaimable now task) with
  | none =>
    have hnot := firstClaimable_none hfirst id task h.get
    rw [h.claimable] at hnot
    cases hnot
  | some row =>
    obtain ⟨other, row⟩ := row
    have hother := firstClaimable_first hfirst
    have hsame : other = id := claimKey_injective
      (le_antisymm (hother.least id task h.get h.claimable)
        (h.least other row hother.get hother.claimable))
    subst hsame
    rw [Option.some.inj (hother.get.symm.trans h.get)]

theorem claimable_cases (h : isClaimable now task) : unowned task ∧
    (task.status = .cancelRequested ∨ ∀ at' ∈ task.nextAttemptAt, at' ≤ now) := by
  rw [← claimGuard_eq, claimGuard, Bool.and_eq_true, Bool.and_eq_true] at h
  refine ⟨h.1.2, ?_⟩
  have hdue := h.2
  rw [Bool.or_eq_true, decide_eq_true_eq] at hdue
  rcases hdue with hcancel | hdue
  · exact .inl hcancel
  · refine .inr fun at' hat => ?_
    rw [Option.mem_def.mp hat, Option.all_some] at hdue
    exact of_decide_eq_true hdue

end Selection

/-! ## One claim -/

/-- What a claim of this task writes and answers. -/
structure Claims (db : Database) (workerId lockToken : String) (now leaseDuration : Time) (id : ℕ)
    (task : Task) (claim : TaskClaim) (db' : Database) : Prop where
  taskId : claim.taskId = id
  token : claim.lockToken = lockToken
  row : claim.task = claimed workerId lockToken now (now + leaseDuration) task
  stored : db'.tasks.get? id = some claim.task
  others : ∀ other, other ≠ id → db'.tasks.get? other = db.tasks.get? other
  run : db'.taskRuns.get? claim.taskRunId = some claim.taskRun
  numbered : claim.taskRun.taskId = id ∧ claim.taskRun.runNumber = nextRunNumber db id

def runningRuns (db : Database) (id : ℕ) : List (ℕ × TaskRun) :=
  db.taskRuns.select fun _ run => run.taskId = id && run.status = .running

section Claim
variable {db db' : Database} {clock : Time} {lockToken workerId : String} {leaseDuration : Time}
  {claimedAt : Option Time} {id : ℕ} {task : Task}

theorem validateOwnerArguments_ok (hworker : workerId ≠ "") (hlease : 0 < leaseDuration) :
    validateOwnerArguments workerId leaseDuration = .ok () := by
  unfold validateOwnerArguments
  rw [if_neg hworker, if_neg (not_le_of_gt hlease)]
  rfl

/-- The task table after the claim statement. -/
def withClaimed (db : Database) (id : ℕ) (workerId lockToken : String) (now leaseDuration : Time) :
    Database :=
  { db with
    tasks := db.tasks.update (fun id' task => id' = id && claimGuard now task) fun _ =>
      claimed workerId lockToken now (now + leaseDuration) }

theorem withClaimed_get {now : Time} (hfirst : First db now id task) :
    (withClaimed db id workerId lockToken now leaseDuration).tasks.get? id =
      some (claimed workerId lockToken now (now + leaseDuration) task) := by
  have hguard : claimGuard now task := by
    rw [claimGuard_eq]
    exact hfirst.claimable
  rw [withClaimed, Table.get?_update, hfirst.get, Option.map_some, if_pos (by simpa using hguard)]

theorem withClaimed_other {now : Time} {other : ℕ} (h : other ≠ id) :
    (withClaimed db id workerId lockToken now leaseDuration).tasks.get? other =
      db.tasks.get? other := by
  rw [withClaimed, Table.get?_update]
  cases db.tasks.get? other with
  | none => rfl
  | some row => simp [h]

theorem createRun_claimed {now : Time} (hfirst : First db now id task) :
    createRun (withClaimed db id workerId lockToken now leaseDuration) clock id workerId lockToken
        (some now) (some now) =
      if runningRuns db id ≠ [] then
        .error (.activeTaskRunExists ("task " ++ toString id ++ " already has an active run"))
      else .ok (db.taskRuns.nextId,
        { withClaimed db id workerId lockToken now leaseDuration with
          taskRuns := db.taskRuns.insert (newRun db clock id workerId lockToken (some now)
            (some now)) }) := by
  have hrequire : requireTask (withClaimed db id workerId lockToken now leaseDuration) id =
      .ok (claimed workerId lockToken now (now + leaseDuration) task) := by
    unfold requireTask
    rw [withClaimed_get hfirst]
  have hruns : ((withClaimed db id workerId lockToken now leaseDuration).taskRuns.select
      fun _ run => run.taskId = id && run.status = .running) = runningRuns db id := rfl
  unfold createRun
  simp only [hrequire, bind, Except.bind, claimed_leased, pure, Except.pure]
  rw [if_neg (by simp), if_neg (by simp [claimed]), hruns]
  split_ifs <;> rfl

theorem claimNext_none (hworker : workerId ≠ "") (hlease : 0 < leaseDuration)
    (hnone : ∀ id task, db.tasks.get? id = some task →
      isClaimable (claimedAt.getD clock) task = false) :
    claimNext db clock lockToken workerId leaseDuration claimedAt = .ok (none, db) := by
  have hempty : (db.tasks.select fun _ task => isClaimable (claimedAt.getD clock) task) = [] := by
    by_contra hne
    obtain ⟨id, task, htask, hclaimable⟩ := Table.select_ne_nil.mp hne
    rw [hnone id task htask] at hclaimable
    cases hclaimable
  unfold claimNext
  rw [validateOwnerArguments_ok hworker hlease]
  simp only [bind, Except.bind, hempty]
  rfl

/-- The answer of a claim that has started a run. -/
def answered (id : ℕ) (lockToken : String) (leaseUntil : Time) (task : Task)
    (started : ℕ × Database) : Except TaskError (Option TaskClaim × Database) :=
  match started.2.taskRuns.get? started.1 with
  | none => .error (.taskRunNotFound ("task run " ++ toString started.1 ++ " not found"))
  | some taskRun => .ok (some ⟨id, task, started.1, taskRun, lockToken, leaseUntil⟩, started.2)

/-- The claim of the first task, by what create_run finds. -/
theorem claimNext_first (lockToken : String) (hworker : workerId ≠ "") (hlease : 0 < leaseDuration)
    (hfirst : First db (claimedAt.getD clock) id task) :
    if runningRuns db id ≠ [] then
      claimNext db clock lockToken workerId leaseDuration claimedAt =
        .error (.activeTaskRunExists ("task " ++ toString id ++ " already has an active run"))
    else ∃ claim db', claimNext db clock lockToken workerId leaseDuration claimedAt =
        .ok (some claim, db') ∧
      Claims db workerId lockToken (claimedAt.getD clock) leaseDuration id task claim db' := by
  have hrequire : requireTask
      (withClaimed db id workerId lockToken (claimedAt.getD clock) leaseDuration) id =
      .ok (claimed workerId lockToken (claimedAt.getD clock)
        (claimedAt.getD clock + leaseDuration) task) := by
    unfold requireTask
    rw [withClaimed_get hfirst]
  have hclaim : claimNext db clock lockToken workerId leaseDuration claimedAt =
      requireTask (withClaimed db id workerId lockToken (claimedAt.getD clock) leaseDuration)
        id >>= fun task =>
      createRun (withClaimed db id workerId lockToken (claimedAt.getD clock) leaseDuration) clock
        id workerId lockToken (some (claimedAt.getD clock)) (some (claimedAt.getD clock)) >>=
      answered id lockToken (claimedAt.getD clock + leaseDuration) task := by
    unfold claimNext
    rw [validateOwnerArguments_ok hworker hlease]
    simp only [bind, Except.bind, hfirst.selected]
    rfl
  rw [hclaim, hrequire, createRun_claimed hfirst]
  split_ifs with hruns
  · rfl
  · simp only [bind, Except.bind, answered, Table.get?_insert_nextId]
    refine ⟨_, _, rfl, rfl, rfl, rfl, withClaimed_get hfirst, fun other hother =>
      withClaimed_other hother, Table.get?_insert_nextId _ _, rfl, rfl⟩

/-- A claim that answers with none changed nothing and had nothing to claim. -/
theorem claimNext_ok_none (hworker : workerId ≠ "") (hlease : 0 < leaseDuration)
    (h : claimNext db clock lockToken workerId leaseDuration claimedAt = .ok (none, db')) :
    db' = db ∧ ∀ id task, db.tasks.get? id = some task →
      isClaimable (claimedAt.getD clock) task = false := by
  cases hselected : firstClaimable
      (db.tasks.select fun _ task => isClaimable (claimedAt.getD clock) task) with
  | none =>
    have hnone := firstClaimable_none hselected
    rw [claimNext_none hworker hlease hnone] at h
    cases h
    exact ⟨rfl, hnone⟩
  | some row =>
    obtain ⟨id, task⟩ := row
    have hclaim := claimNext_first lockToken hworker hlease
      (firstClaimable_first hselected)
    split_ifs at hclaim
    · rw [h] at hclaim
      cases hclaim
    · obtain ⟨claim, db'', hclaimed, -⟩ := hclaim
      rw [h] at hclaimed
      cases hclaimed

end Claim

/-! ## Sequences of calls -/

def ownedIn (db : Database) (id : ℕ) : Bool := (db.tasks.get? id).any owned

/-- The call is a claim and answers with this task. -/
def handsOut (db : Database) (id : ℕ) : Operation → Prop
  | .claimNext clock lockToken workerId leaseDuration claimedAt => ∃ claim db',
    claimNext db clock lockToken workerId leaseDuration claimedAt = .ok (some claim, db') ∧
      claim.taskId = id
  | _ => False

/-- A claim that answers with a task names the first one. -/
theorem claimNext_some {db db' : Database} {clock : Time} {lockToken workerId : String}
    {leaseDuration : Time} {claimedAt : Option Time} {claim : TaskClaim}
    (h : claimNext db clock lockToken workerId leaseDuration claimedAt = .ok (some claim, db')) :
    ∃ task, First db (claimedAt.getD clock) claim.taskId task ∧
      Claims db workerId lockToken (claimedAt.getD clock) leaseDuration claim.taskId task claim
        db' := by
  have hworker : workerId ≠ "" := by
    rintro rfl
    cases h
  have hlease : 0 < leaseDuration := by
    by_contra hnot
    unfold claimNext validateOwnerArguments at h
    rw [if_neg hworker, if_pos (not_lt.mp hnot)] at h
    cases h
  cases hselected : firstClaimable
      (db.tasks.select fun _ task => isClaimable (claimedAt.getD clock) task) with
  | none =>
    rw [claimNext_none hworker hlease (firstClaimable_none hselected)] at h
    cases h
  | some row =>
    obtain ⟨id, task⟩ := row
    have hfirst := firstClaimable_first hselected
    have hclaim := claimNext_first lockToken hworker hlease hfirst
    split_ifs at hclaim
    · rw [hclaim] at h
      cases h
    · obtain ⟨claim', db'', hok, hclaims⟩ := hclaim
      rw [hok] at h
      cases h
      obtain rfl := hclaims.taskId
      exact ⟨task, hfirst, hclaims⟩

theorem handsOut_free {db : Database} {id : ℕ} {op : Operation} (h : handsOut db id op) :
    ownedIn db id = false := by
  cases op with
  | claimNext clock lockToken workerId leaseDuration claimedAt =>
    obtain ⟨claim, db', hok, rfl⟩ := h
    obtain ⟨task, hfirst, -⟩ := claimNext_some hok
    rw [ownedIn, hfirst.get, Option.any_some]
    exact owned_eq_false (claimable_cases hfirst.claimable).1
  | _ => exact h.elim

theorem handsOut_owned {db : Database} {id : ℕ} {op : Operation} (h : handsOut db id op) :
    ownedIn (op.apply db) id = true := by
  cases op with
  | claimNext clock lockToken workerId leaseDuration claimedAt =>
    obtain ⟨claim, db', hok, rfl⟩ := h
    obtain ⟨task, -, hclaims⟩ := claimNext_some hok
    have happly : (Operation.claimNext clock lockToken workerId leaseDuration claimedAt).apply db =
        db' := by
      rw [Operation.apply, Operation.result, hok]
      rfl
    rw [happly, ownedIn, hclaims.stored, hclaims.row]
    rfl
  | _ => exact h.elim

/-- An owner that is gone after some calls was taken away by one of them. -/
theorem exists_release {db : Database} {id : ℕ} {ops : List Operation} (h : ownedIn db id = true)
    (hgone : ownedIn (runAll ops db) id = false) :
    ∃ before op after, ops = before ++ op :: after ∧ ownedIn (runAll before db) id = true ∧
      ownedIn (op.apply (runAll before db)) id = false := by
  induction ops generalizing db with
  | nil =>
    rw [show runAll [] db = db from rfl, h] at hgone
    cases hgone
  | cons op ops ih =>
    cases howned : ownedIn (op.apply db) id with
    | false => exact ⟨[], op, ops, rfl, h, howned⟩
    | true =>
      obtain ⟨before, release, after, rfl, hbefore, hafter⟩ := ih howned hgone
      exact ⟨op :: before, release, after, rfl, hbefore, hafter⟩

/-- A claim takes the first claimable task and changes no other; it answers
with none only when none is claimable, and raises when the first one still has
a running run. No task is handed out twice without a release in between. -/
theorem claim_order (db : Database) (clock : Time) (lockToken workerId : String)
    (leaseDuration : Time) (claimedAt : Option Time) (hworker : workerId ≠ "")
    (hlease : 0 < leaseDuration) :
    ((∃ db', claimNext db clock lockToken workerId leaseDuration claimedAt = .ok (none, db')) ↔
      ∀ id task, db.tasks.get? id = some task →
        isClaimable (claimedAt.getD clock) task = false) ∧
    (∀ db', claimNext db clock lockToken workerId leaseDuration claimedAt = .ok (none, db') →
      db' = db) ∧
    (∀ id task, First db (claimedAt.getD clock) id task →
      if runningRuns db id ≠ [] then
        claimNext db clock lockToken workerId leaseDuration claimedAt =
          .error (.activeTaskRunExists ("task " ++ toString id ++ " already has an active run"))
      else ∃ claim db', claimNext db clock lockToken workerId leaseDuration claimedAt =
          .ok (some claim, db') ∧
        Claims db workerId lockToken (claimedAt.getD clock) leaseDuration id task claim db') ∧
    (∀ claim db', claimNext db clock lockToken workerId leaseDuration claimedAt =
      .ok (some claim, db') → ∃ task, First db (claimedAt.getD clock) claim.taskId task ∧
        unowned task ∧ (task.status = .cancelRequested ∨
          ∀ at' ∈ task.nextAttemptAt, at' ≤ claimedAt.getD clock)) ∧
    ∀ (first second : Operation) (between : List Operation) (id : ℕ), handsOut db id first →
      handsOut (runAll between (first.apply db)) id second →
      ∃ before release after, between = before ++ release :: after ∧
        ownedIn (runAll before (first.apply db)) id = true ∧
        ownedIn (release.apply (runAll before (first.apply db))) id = false := by
  refine ⟨⟨?_, fun hnone => ⟨db, claimNext_none hworker hlease hnone⟩⟩,
    fun db' hok => (claimNext_ok_none hworker hlease hok).1,
    fun id task hfirst => claimNext_first lockToken hworker hlease hfirst, fun claim db' hok => ?_,
    fun first second between id hfirst hsecond => ?_⟩
  · rintro ⟨db', hok⟩
    exact (claimNext_ok_none hworker hlease hok).2
  · obtain ⟨task, hfirst, -⟩ := claimNext_some hok
    exact ⟨task, hfirst, claimable_cases hfirst.claimable⟩
  · exact exists_release (handsOut_owned hfirst) (handsOut_free hsecond)

/-- One pending task, created at 5 and due at once. -/
def waitingTask : Task where
  type := "scan_subscription"
  createdAt := 5
  updatedAt := 5

def waitingRun : TaskRun where
  taskId := 1
  runNumber := 1
  startedAt := 6
  createdAt := 6
  updatedAt := 6

def waitingStore : Database := { tasks := Table.empty.insert waitingTask }

/-- A task that is older than the other one and is tried again later. -/
def retriedTask : Task where
  type := "scan_subscription"
  status := .retry
  retryCount := 1
  nextAttemptAt := some 50
  createdAt := 1
  updatedAt := 20

def waitingTasks : Database :=
  { tasks := (Table.empty.insert retriedTask).insert waitingTask }

theorem waitingTask_first : First waitingTasks 60 2 waitingTask :=
  firstClaimable_first (by decide)

/-- Both tasks are claimable, and the one that was due first is claimed, neither
the older one nor the one with the smaller id. -/
theorem claim_order_waiting :
    isClaimable 60 retriedTask ∧ isClaimable 60 waitingTask ∧
    ∃ claim db', claimNext waitingTasks 60 "token" "worker" 60 none = .ok (some claim, db') ∧
      Claims waitingTasks "worker" "token" 60 60 2 waitingTask claim db' := by
  have hclaims := (claim_order waitingTasks 60 "token" "worker" 60 none (by decide)
    (by decide)).2.2.1 2 waitingTask waitingTask_first
  rw [if_neg (by decide)] at hclaims
  exact ⟨by decide, by decide, hclaims⟩

/-- The first claimable task still has a running run, and nothing is claimed. -/
theorem running_run_blocks :
    ¬∀ db : Database, (∃ id task, db.tasks.get? id = some task ∧ isClaimable 10 task) →
      ∃ claim db', claimNext db 10 "token" "worker" 60 none = .ok (some claim, db') := by
  intro hclaims
  have hblocked : ¬(claimNext { waitingStore with taskRuns := Table.empty.insert waitingRun } 10
      "token" "worker" 60 none).isOk := by
    decide
  obtain ⟨claim, db', hok⟩ :=
    hclaims { waitingStore with taskRuns := Table.empty.insert waitingRun }
      ⟨1, waitingTask, by decide, by decide⟩
  rw [hok] at hblocked
  exact hblocked rfl

end MediaSync.ClaimOrder
