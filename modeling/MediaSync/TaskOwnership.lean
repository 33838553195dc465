import MediaSync.TaskRepository

/-!
# Who owns a task

A task is handed from owner to owner through four columns, and every owner
leaves a run behind. `Custody` says what a task row and its runs look like
between two operations of the repository: the columns are set together, a
running task has an owner, a task that waits or has ended has none, the owner
and the one running run name each other, and runs are numbered without gaps.

Each operation changes the rows of one task. What it does to the custody of
that task is one lemma below, and every other task keeps the custody it had.
The results about whole sequences of operations follow by induction.
-/
namespace MediaSync.TaskOwnership
open RowTables TaskTables TaskRepository

def owned (task : Task) : Bool :=
  task.lockedBy.isSome && task.lockToken.isSome && task.lockedAt.isSome && task.leaseUntil.isSome

def runsOf (db : Database) (taskId : ℕ) : List (ℕ × TaskRun) :=
  db.taskRuns.select fun _ run => run.taskId = taskId

/-- The worker and token of every run that is still running. -/
def activeOwners (runs : List (ℕ × TaskRun)) : List (Option String × Option String) :=
  (runs.filter fun row => row.2.status = .running).map fun row => (row.2.workerId, row.2.lockToken)

structure Custody (task : Task) (runs : List (ℕ × TaskRun)) : Prop where
  complete : owned task ∨ unowned task
  running_owned : task.status = .running → owned task
  idle_unowned : leased task.status = false → unowned task
  active : activeOwners runs = if owned task then [(task.lockedBy, task.lockToken)] else []
  numbered : (runs.map fun row => row.2.runNumber) = List.range' 1 runs.length

structure OwnershipInvariant (db : Database) : Prop where
  custody : ∀ id task, db.tasks.get? id = some task → Custody task (runsOf db id)
  linked : ∀ id run, db.taskRuns.get? id = some run → (db.tasks.get? run.taskId).isSome

theorem owned_eq_false {task : Task} (h : unowned task) : owned task = false := by
  unfold unowned at h
  unfold owned
  simp only [Bool.and_eq_true, Option.isNone_iff_eq_none] at h
  simp [h]

theorem leased_eq_false {status : TaskStatus} (hr : status ≠ .running)
    (hc : status ≠ .cancelRequested) : leased status = false := by
  cases status <;> first | rfl | contradiction

section Rows
variable {task : Task} {runs : List (ℕ × TaskRun)} {now : Time}

theorem Custody.no_active (h : Custody task runs) (hidle : unowned task) :
    activeOwners runs = [] := by
  rw [h.active, owned_eq_false hidle]
  rfl

theorem Custody.transitioned (h : Custody task runs) {target : TaskStatus}
    {details : TransitionDetails} (hrun : target ≠ .running)
    (hleased : leased task.status → target = .cancelRequested) :
    Custody (TaskRepository.transitioned target now details task) runs where
  complete := h.complete
  running_owned hr := absurd hr hrun
  idle_unowned hidle := by
    cases hl : leased task.status with
    | false => exact h.idle_unowned hl
    | true =>
      rw [show (TaskRepository.transitioned target now details task).status = target from rfl,
        hleased hl] at hidle
      exact absurd hidle (by decide)
  active := h.active
  numbered := h.numbered

theorem activeOwners_append (runs : List (ℕ × TaskRun)) (id : ℕ) (run : TaskRun) :
    activeOwners (runs ++ [(id, run)]) = activeOwners runs ++
      if run.status = .running then [(run.workerId, run.lockToken)] else [] := by
  unfold activeOwners
  rw [List.filter_append, List.map_append, List.filter_singleton]
  by_cases h : run.status = .running <;> simp [h]

theorem foldr_max_range' (n : ℕ) : (List.range' 1 n).foldr max 0 = n := by
  induction n with
  | zero => rfl
  | succ n ih =>
    rw [List.range'_concat, List.foldr_append]
    simp only [List.foldr_cons, List.foldr_nil, Nat.one_mul]
    have hmax : ∀ (ns : List ℕ) (m : ℕ), ns.foldr max m = max (ns.foldr max 0) m := by
      intro ns
      induction ns with
      | nil => simp
      | cons k ns ihns =>
        intro m
        rw [List.foldr_cons, ihns, List.foldr_cons, max_assoc]
    rw [hmax, ih]
    omega

theorem Custody.claimed (h : Custody task runs) {workerId lockToken : String} {until' : Time}
    (hidle : unowned task) (id : ℕ) {run : TaskRun} (hstatus : run.status = .running)
    (hworker : run.workerId = some workerId) (htoken : run.lockToken = some lockToken)
    (hnumber : run.runNumber = runs.length + 1) :
    Custody (TaskRepository.claimed workerId lockToken now until' task) (runs ++ [(id, run)]) where
  complete := .inl rfl
  running_owned _ := rfl
  idle_unowned hl := by
    rw [claimed_leased] at hl
    contradiction
  active := by
    rw [activeOwners_append, if_pos hstatus, h.no_active hidle, hworker, htoken]
    rfl
  numbered := by
    rw [List.map_append, h.numbered, List.length_append, List.length_singleton,
      List.range'_concat, List.map_singleton, hnumber]
    simp [Nat.add_comm]

/-- Updating runs without touching who runs them. -/
theorem activeOwners_map_of_same {q : ℕ × TaskRun → Bool} {g : TaskRun → TaskRun}
    (hs : ∀ run, (g run).status = run.status) (hw : ∀ run, (g run).workerId = run.workerId)
    (ht : ∀ run, (g run).lockToken = run.lockToken) :
    activeOwners (runs.map fun row => (row.1, if q row then g row.2 else row.2)) =
      activeOwners runs := by
  induction runs with
  | nil => rfl
  | cons row runs ih =>
    unfold activeOwners at ih ⊢
    rw [List.map_cons, List.filter_cons, List.filter_cons]
    have hrow : (if q row then g row.2 else row.2).status = row.2.status := by
      split_ifs <;> simp [hs]
    simp only [hrow]
    split_ifs with hr hq <;> simp [ih, hw, ht]

theorem activeOwners_map_closed {q : ℕ × TaskRun → Bool} {g : TaskRun → TaskRun}
    (hg : ∀ run, (g run).status ≠ .running)
    (hq : ∀ row ∈ runs, row.2.status = .running → q row) :
    activeOwners (runs.map fun row => (row.1, if q row then g row.2 else row.2)) = [] := by
  unfold activeOwners
  rw [List.map_eq_nil_iff, List.filter_eq_nil_iff]
  intro row' hrow'
  obtain ⟨row, hrow, heq⟩ := List.mem_map.mp hrow'
  subst heq
  simp only [decide_eq_true_eq]
  split_ifs with h
  · exact hg _
  · exact fun hr => h (hq row hrow hr)

theorem numbers_map {q : ℕ × TaskRun → Bool} {g : TaskRun → TaskRun}
    (hg : ∀ run, (g run).runNumber = run.runNumber) :
    (runs.map fun row => (row.1, if q row then g row.2 else row.2)).map
      (fun row => row.2.runNumber) = runs.map fun row => row.2.runNumber := by
  rw [List.map_map]
  refine List.map_congr_left fun row _ => ?_
  simp only [Function.comp_apply]
  split_ifs <;> simp [hg]

/-- A single owner has a single running run. -/
theorem activeOwners_singleton {owner : Option String × Option String}
    (h : activeOwners runs = [owner]) {row row' : ℕ × TaskRun} (hrow : row ∈ runs)
    (hr : row.2.status = .running) (hrow' : row' ∈ runs) (hr' : row'.2.status = .running) :
    row' = row ∧ row.2.workerId = owner.1 ∧ row.2.lockToken = owner.2 := by
  unfold activeOwners at h
  obtain ⟨single, hsingle, hpair⟩ := List.map_eq_singleton_iff.mp h
  have hmem : ∀ row ∈ runs, row.2.status = .running → row = single := by
    intro row hrow hr
    have hfilter := List.mem_filter (p := fun row : ℕ × TaskRun => row.2.status = .running)
      |>.mpr ⟨hrow, by simpa using hr⟩
    rwa [hsingle, List.mem_singleton] at hfilter
  rw [hmem row' hrow' hr', hmem row hrow hr]
  exact ⟨rfl, congrArg Prod.fst hpair, congrArg Prod.snd hpair⟩

/-- A running run of an owned task belongs to the owner, and is the only one. -/
theorem Custody.active_run (h : Custody task runs) (ho : owned task) {row row' : ℕ × TaskRun}
    (hrow : row ∈ runs) (hr : row.2.status = .running) (hrow' : row' ∈ runs)
    (hr' : row'.2.status = .running) :
    row' = row ∧ row.2.workerId = task.lockedBy ∧ row.2.lockToken = task.lockToken := by
  have hactive := h.active
  rw [if_pos ho] at hactive
  exact activeOwners_singleton hactive hrow hr hrow' hr'

theorem Custody.owned_of_lockedBy (h : Custody task runs) {workerId : String}
    (hw : task.lockedBy = some workerId) : owned task := by
  rcases h.complete with ho | hu
  · exact ho
  · unfold unowned at hu
    simp [hw] at hu

/-- The custody of a task after its row and its runs were updated in place. -/
theorem Custody.updated (h : Custody task runs) {task' : Task} {q : ℕ × TaskRun → Bool}
    {g : TaskRun → TaskRun} (hnumber : ∀ run, (g run).runNumber = run.runNumber)
    (hcomplete : owned task' ∨ unowned task') (hrunning : task'.status = .running → owned task')
    (hidle : leased task'.status = false → unowned task')
    (hactive : activeOwners (runs.map fun row => (row.1, if q row then g row.2 else row.2)) =
      if owned task' then [(task'.lockedBy, task'.lockToken)] else []) :
    Custody task' (runs.map fun row => (row.1, if q row then g row.2 else row.2)) where
  complete := hcomplete
  running_owned := hrunning
  idle_unowned := hidle
  active := hactive
  numbered := by
    rw [numbers_map hnumber, h.numbered, List.length_map]

theorem Custody.extended (h : Custody task runs) (ho : owned task) {until' : Time}
    (q : ℕ × TaskRun → Bool) :
    Custody (TaskRepository.extended now until' task)
      (runs.map fun row => (row.1, if q row then beaten now row.2 else row.2)) := by
  have howned : owned (TaskRepository.extended now until' task) := by
    unfold owned at ho ⊢
    simp only [Bool.and_eq_true] at ho
    simp [TaskRepository.extended, ho]
  refine h.updated (fun _ => rfl) (.inl howned) (fun _ => howned) (fun hl => ?_) ?_
  · have hidle := h.idle_unowned hl
    rw [owned_eq_false hidle] at ho
    contradiction
  · rw [activeOwners_map_of_same (g := beaten now) (fun _ => rfl) (fun _ => rfl)
      (fun _ => rfl), h.active,
      if_pos ho, if_pos howned]
    rfl

/-- Giving a task back together with its running run. -/
theorem Custody.givenBack (h : Custody task runs) {task' : Task} {q : ℕ × TaskRun → Bool}
    {g : TaskRun → TaskRun} (hstatus : task'.status ≠ .running) (hidle : unowned task')
    (hnumber : ∀ run, (g run).runNumber = run.runNumber)
    (hclosed : ∀ run, (g run).status ≠ .running)
    (hall : ∀ row ∈ runs, row.2.status = .running → q row) :
    Custody task' (runs.map fun row => (row.1, if q row then g row.2 else row.2)) := by
  refine h.updated hnumber (.inr hidle) (fun hr => absurd hr hstatus) (fun _ => hidle) ?_
  rw [activeOwners_map_closed hclosed hall, owned_eq_false hidle]
  rfl

end Rows

theorem mem_runsOf {db : Database} {taskId id : ℕ} {run : TaskRun} :
    (id, run) ∈ runsOf db taskId ↔ db.taskRuns.get? id = some run ∧ run.taskId = taskId := by
  unfold runsOf
  rw [Table.mem_select, decide_eq_true_eq]

theorem running_runsOf {db : Database} {taskId : ℕ}
    (h : db.taskRuns.select (fun _ run => run.taskId = taskId && run.status = .running) = []) :
    (runsOf db taskId).filter (fun row => row.2.status = .running) = [] := by
  rw [← h, runsOf, Table.select, Table.select, List.filter_filter]
  exact List.filter_congr fun row _ => Bool.and_comm _ _

/-- Every task satisfies `P` together with its runs, and every run has a task. -/
structure Throughout (P : Task → List (ℕ × TaskRun) → Prop) (db : Database) : Prop where
  rows : ∀ id task, db.tasks.get? id = some task → P task (runsOf db id)
  linked : ∀ id run, db.taskRuns.get? id = some run → (db.tasks.get? run.taskId).isSome

section Throughout
variable {P : Task → List (ℕ × TaskRun) → Prop}

theorem Throughout.runsOf_nextId {db : Database} (h : Throughout P db) :
    runsOf db db.tasks.nextId = [] := by
  rw [runsOf, Table.select, List.filter_eq_nil_iff]
  intro row hrow htask
  have hlinked := h.linked row.1 row.2 (Table.mem_iff_get?.mp hrow)
  rw [of_decide_eq_true htask, Table.get?_nextId] at hlinked
  contradiction

/-- An operation that changes the rows of one task only has to account for
that task. -/
theorem Throughout.of_changed {db db' : Database} (h : Throughout P db) (k : ℕ)
    (htasks : ∀ id, id ≠ k → db'.tasks.get? id = db.tasks.get? id)
    (hruns : ∀ id, id ≠ k → runsOf db' id = runsOf db id)
    (hkept : (db.tasks.get? k).isSome → (db'.tasks.get? k).isSome)
    (hlinked : runsOf db' k ≠ [] → (db'.tasks.get? k).isSome)
    (hk : ∀ task, db'.tasks.get? k = some task → P task (runsOf db' k)) :
    Throughout P db' where
  rows id task htask := by
    by_cases hid : id = k
    · subst hid
      exact hk task htask
    · rw [htasks id hid] at htask
      rw [hruns id hid]
      exact h.rows id task htask
  linked id run hrun := by
    have hmem : (id, run) ∈ runsOf db' run.taskId := mem_runsOf.mpr ⟨hrun, rfl⟩
    by_cases hid : run.taskId = k
    · rw [hid] at hmem ⊢
      exact hlinked (List.ne_nil_of_mem hmem)
    · rw [hruns _ hid] at hmem
      rw [htasks _ hid]
      exact h.linked id run (mem_runsOf.mp hmem).1

/-- Updating the row of task `k` and runs of task `k` in place. -/
theorem Throughout.of_updated {db : Database} (h : Throughout P db) (k : ℕ)
    {p : ℕ → Task → Bool} {f : Task → Task} {q : ℕ → TaskRun → Bool} {g : TaskRun → TaskRun}
    (hp : ∀ id task, p id task → id = k)
    (hq : ∀ id run, db.taskRuns.get? id = some run → q id run → run.taskId = k)
    (hg : ∀ run, (g run).taskId = run.taskId)
    (hk : ∀ task, db.tasks.get? k = some task →
      P (if p k task then f task else task) ((runsOf db k).map fun row =>
        (row.1, if q row.1 row.2 then g row.2 else row.2))) :
    Throughout P { db with
      tasks := db.tasks.update p fun _ => f
      taskRuns := db.taskRuns.update q fun _ => g } := by
  have hruns (id : ℕ) : (db.taskRuns.update q fun _ => g).select (fun _ run => run.taskId = id) =
      (runsOf db id).map fun row => (row.1, if q row.1 row.2 then g row.2 else row.2) := by
    rw [Table.select_update _ fun _ run _ => by rw [hg]]
    rfl
  refine h.of_changed k (fun id hid => ?_) (fun id hid => ?_) (fun hsome => ?_) (fun hne => ?_) ?_
  · rw [Table.get?_update]
    cases db.tasks.get? id with
    | none => rfl
    | some task => simp [mt (hp id task) hid]
  · refine (hruns id).trans ?_
    have hsame : ∀ row ∈ runsOf db id, q row.1 row.2 = false := by
      intro row hrow
      by_contra hqr
      obtain ⟨hget, htask⟩ := mem_runsOf.mp hrow
      exact hid (htask ▸ hq _ _ hget (by simpa using hqr))
    exact (List.map_congr_left fun row hrow => by rw [if_neg (by simp [hsame row hrow])]).trans
      (List.map_id' _)
  · rw [Table.get?_update, Option.isSome_map]
    exact hsome
  · rw [Table.get?_update, Option.isSome_map]
    obtain ⟨⟨id, run⟩, hrun⟩ := List.exists_mem_of_ne_nil _
      (mt (fun hnil => by rw [runsOf, hruns, hnil, List.map_nil]) hne : runsOf db k ≠ [])
    obtain ⟨hget, htask⟩ := mem_runsOf.mp hrun
    exact htask ▸ h.linked id run hget
  · intro task htask
    rw [Table.get?_update, Option.map_eq_some_iff] at htask
    obtain ⟨task₀, htask₀, heq⟩ := htask
    rw [← heq, runsOf, hruns]
    exact hk task₀ htask₀

/-- A new task is the only one that has to be accounted for. -/
theorem Throughout.of_inserted {db db' : Database} (h : Throughout P db) {task : Task}
    (htasks : db'.tasks = db.tasks.insert task) (hruns : db'.taskRuns = db.taskRuns)
    (hnew : P task []) : Throughout P db' := by
  have hsame (id : ℕ) : runsOf db' id = runsOf db id := by
    unfold runsOf
    rw [hruns]
  refine h.of_changed db.tasks.nextId (fun id hid => ?_) (fun id _ => hsame id) (fun _ => ?_)
    (fun hne => absurd ((hsame _).trans h.runsOf_nextId) hne) fun task' htask => ?_
  · rw [htasks, Table.get?_insert, if_neg hid]
  · rw [htasks, Table.get?_insert_nextId]
    rfl
  · rw [htasks, Table.get?_insert_nextId, Option.some.injEq] at htask
    rw [hsame, h.runsOf_nextId, ← htask]
    exact hnew

/-- A new run of a task that exists. -/
theorem Throughout.of_run_inserted {db : Database} (h : Throughout P db) {run : TaskRun}
    (hsome : (db.tasks.get? run.taskId).isSome)
    (hk : ∀ task, db.tasks.get? run.taskId = some task → P task (runsOf db run.taskId) →
      P task (runsOf db run.taskId ++ [(db.taskRuns.nextId, run)])) :
    Throughout P { db with taskRuns := db.taskRuns.insert run } := by
  have hruns (id : ℕ) : (db.taskRuns.insert run).select (fun _ run => run.taskId = id) =
      runsOf db id ++ if run.taskId = id then [(db.taskRuns.nextId, run)] else [] := by
    rw [Table.select_insert]
    simp only [decide_eq_true_eq]
    rfl
  refine h.of_changed run.taskId (fun _ _ => rfl) (fun id hid => ?_) (fun hs => hs)
    (fun _ => hsome) fun task htask => ?_
  · rw [runsOf, hruns, if_neg (Ne.symm hid), List.append_nil]
  · rw [runsOf, hruns, if_pos rfl]
    exact hk task htask (h.rows _ task htask)

/-- Updating tasks alone. -/
theorem Throughout.of_tasks {db : Database} (h : Throughout P db) {p : ℕ → Task → Bool}
    {f : Task → Task} (hk : ∀ id task, db.tasks.get? id = some task → p id task →
      P task (runsOf db id) → P (f task) (runsOf db id)) :
    Throughout P { db with tasks := db.tasks.update p fun _ => f } where
  rows id task' htask' := by
    rw [Table.get?_update, Option.map_eq_some_iff] at htask'
    obtain ⟨task, htask, heq⟩ := htask'
    have hrows := h.rows id task htask
    rw [← heq]
    split_ifs with hp
    · exact hk id task htask hp hrows
    · exact hrows
  linked id run hrun := by
    rw [Table.get?_update, Option.isSome_map]
    exact h.linked id run hrun

/-- Claiming gives a task an owner and one more run. -/
theorem Throughout.of_claimed {db db' : Database} {clock : Time} {lockToken workerId : String}
    {leaseDuration : Time} {claimedAt : Option Time} {claim : Option TaskClaim}
    (h : Throughout P db)
    (hok : claimNext db clock lockToken workerId leaseDuration claimedAt = .ok (claim, db'))
    (hk : ∀ id task until' run, db.tasks.get? id = some task → unowned task →
      (runsOf db id).filter (fun row => row.2.status = .running) = [] →
      run.status = .running → run.workerId = some workerId → run.lockToken = some lockToken →
      run.runNumber = nextRunNumber db id → P task (runsOf db id) →
      P (claimed workerId lockToken (claimedAt.getD clock) until' task)
        (runsOf db id ++ [(db.taskRuns.nextId, run)])) : Throughout P db' := by
  rcases claimNext_ok hok with ⟨-, heq⟩ | ⟨id, task, started, htask, hclaimable, heq, run, hrun⟩
  · exact heq ▸ h
  obtain ⟨-, hnone, -, heq'⟩ := createRun_ok hrun
  subst heq'
  have hidle : unowned task := by
    unfold isClaimable at hclaimable
    simp only [Bool.or_eq_true, Bool.and_eq_true] at hclaimable
    rcases hclaimable with hc | hc
    · exact hc.2
    · exact hc.2
  have hnil : (runsOf db id).filter (fun row => row.2.status = .running) = [] := by
    rw [heq] at hnone
    exact running_runsOf hnone
  have hruns (k : ℕ) (new : TaskRun) : (started.taskRuns.insert new).select
      (fun _ run => run.taskId = k) = runsOf db k ++
        if new.taskId = k then [(db.taskRuns.nextId, new)] else [] := by
    rw [heq, Table.select_insert]
    simp only [decide_eq_true_eq]
    rfl
  have hsome (k : ℕ) : (started.tasks.get? k).isSome = (db.tasks.get? k).isSome := by
    rw [heq, Table.get?_update, Option.isSome_map]
  have hnumber : nextRunNumber started id = nextRunNumber db id := by
    rw [heq]
    rfl
  refine h.of_changed id (fun k hk => ?_) (fun k hk => ?_) (fun hs => (hsome id).trans hs)
    (fun _ => (hsome id).trans (by rw [htask]; rfl)) fun task' htask' => ?_
  · rw [heq, Table.get?_update]
    cases db.tasks.get? k <;> simp [hk]
  · rw [runsOf, hruns, newRun_taskId, if_neg (Ne.symm hk), List.append_nil]
  · rw [heq, Table.get?_update, htask, Option.map_some, Option.some.injEq,
      if_pos (by simpa using hclaimable)] at htask'
    rw [← htask', runsOf, hruns, newRun_taskId, if_pos rfl]
    exact hk id task _ _ htask hidle hnil rfl rfl rfl hnumber (h.rows id task htask)

end Throughout

theorem OwnershipInvariant.throughout {db : Database} (h : OwnershipInvariant db) :
    Throughout Custody db := ⟨h.custody, h.linked⟩

theorem Throughout.ownership {db : Database} (h : Throughout Custody db) :
    OwnershipInvariant db := ⟨h.rows, h.linked⟩

section Operations
variable {db db' : Database} {clock : Time} {taskId taskRunId : ℕ}
  {workerId lockToken : String} {expected target : TaskStatus}

theorem createTask_custody (h : OwnershipInvariant db) {new : NewTask} {id : ℕ}
    (hok : createTask db clock new = .ok (id, db')) : OwnershipInvariant db' := by
  obtain ⟨-, -, heq⟩ := createTask_ok hok
  subst heq
  apply Throughout.ownership
  refine h.throughout.of_inserted rfl rfl ?_
  exact ⟨.inr rfl, fun h => (by cases h), fun _ => rfl, rfl, rfl⟩

theorem transition_custody (h : OwnershipInvariant db) {details : TransitionDetails}
    (hok : transition db clock taskId expected target details = .ok db') :
    OwnershipInvariant db' := by
  obtain ⟨-, hrun, hleased, heq⟩ := transition_ok hok
  subst heq
  refine (h.throughout.of_tasks fun id task _ hp hcustody => ?_).ownership
  simp only [Bool.and_eq_true, decide_eq_true_eq] at hp
  exact hcustody.transitioned hrun (hp.2 ▸ hleased)

/-- The active run of an owned task stops a second one. -/
theorem createRun_refused (h : OwnershipInvariant db) {startedAt lastHeartbeatAt : Option Time}
    {result : ℕ × Database} :
    createRun db clock taskId workerId lockToken startedAt lastHeartbeatAt ≠ .ok result := by
  intro hok
  obtain ⟨⟨task, htask, -, hworker, -⟩, hnone, -⟩ := createRun_ok hok
  have hcustody := h.custody taskId task htask
  have hactive := hcustody.active
  rw [if_pos (hcustody.owned_of_lockedBy hworker), activeOwners, running_runsOf hnone] at hactive
  contradiction

theorem nextRunNumber_eq (h : OwnershipInvariant db) {task : Task}
    (htask : db.tasks.get? taskId = some task) :
    nextRunNumber db taskId = (runsOf db taskId).length + 1 := by
  have hnumbered := (h.custody taskId task htask).numbered
  unfold nextRunNumber
  unfold runsOf at hnumbered ⊢
  rw [hnumbered, foldr_max_range']

theorem claimNext_custody (h : OwnershipInvariant db) {leaseDuration : Time}
    {claimedAt : Option Time} {claim : Option TaskClaim}
    (hok : claimNext db clock lockToken workerId leaseDuration claimedAt = .ok (claim, db')) :
    OwnershipInvariant db' := by
  refine (h.throughout.of_claimed hok ?_).ownership
  intro id task until' run htask hidle _ hstatus hworker htoken hnumber hcustody
  rw [nextRunNumber_eq h htask] at hnumber
  exact hcustody.claimed hidle _ hstatus hworker htoken hnumber

theorem heartbeat_custody (h : OwnershipInvariant db) {leaseDuration : Time}
    {heartbeatAt : Option Time}
    (hok : heartbeat db clock taskId workerId lockToken leaseDuration heartbeatAt = .ok db') :
    OwnershipInvariant db' := by
  obtain ⟨-, -, heq⟩ := heartbeat_ok hok
  subst heq
  apply Throughout.ownership
  refine h.throughout.of_updated taskId (fun id task hp => ?_) (fun id run _ hq => ?_)
    (fun _ => rfl)
    fun task htask => ?_
  · simp only [ownedBy, Bool.and_eq_true, decide_eq_true_eq] at hp
    exact hp.1.1.1.1
  · simp only [activeRunOf, Bool.and_eq_true, decide_eq_true_eq] at hq
    exact hq.1.1.1
  · have hcustody := h.custody taskId task htask
    split_ifs with hp
    · simp only [ownedBy, Bool.and_eq_true, decide_eq_true_eq] at hp
      exact hcustody.extended (hcustody.owned_of_lockedBy hp.1.1.1.2) _
    · refine hcustody.updated (g := beaten (heartbeatAt.getD clock)) (fun _ => rfl)
        hcustody.complete hcustody.running_owned hcustody.idle_unowned ?_
      rw [activeOwners_map_of_same (g := beaten (heartbeatAt.getD clock)) (fun _ => rfl)
        (fun _ => rfl) (fun _ => rfl), hcustody.active]

theorem finishRun_custody (h : OwnershipInvariant db) {runStatus : TaskRunStatus}
    {details : FinishDetails}
    (hok : finishRun db clock taskId taskRunId workerId lockToken expected target runStatus
      details = .ok db') : OwnershipInvariant db' := by
  obtain ⟨-, hstatus, hterminal, -, howned, hactive, heq⟩ := finishRun_ok hok
  subst heq
  obtain ⟨id, task, htask, hp⟩ := Table.select_ne_nil.mp howned
  obtain ⟨runId, run, hget, hq⟩ := Table.select_ne_nil.mp hactive
  have hp' := hp
  have hq' := hq
  simp only [ownedBy, activeRunOf, Bool.and_eq_true, decide_eq_true_eq] at hp' hq'
  obtain ⟨⟨⟨⟨hid, hworker⟩, -⟩, -⟩, -⟩ := hp'
  obtain ⟨-, ⟨⟨hrunTask, hrunning⟩, -⟩, -⟩ := hq'
  subst hid
  apply Throughout.ownership
  refine h.throughout.of_updated id (fun _ _ hp => ?_) (fun _ _ _ hq => ?_) (fun _ => rfl)
    fun task' htask' => ?_
  · simp only [ownedBy, Bool.and_eq_true, decide_eq_true_eq] at hp
    exact hp.1.1.1.1
  · simp only [activeRunOf, Bool.and_eq_true, decide_eq_true_eq] at hq
    exact hq.2.1.1.1
  · rw [htask, Option.some.injEq] at htask'
    subst htask'
    have hcustody := h.custody id task htask
    have hrow : (runId, run) ∈ runsOf db id := mem_runsOf.mpr ⟨hget, hrunTask⟩
    rw [if_pos hp]
    refine hcustody.givenBack (q := fun row => row.1 = taskRunId && activeRunOf id workerId
      lockToken row.2) (g := closed clock runStatus details) ?_ rfl (fun _ => rfl) (fun _ => ?_) ?_
    · change target ≠ .running
      intro ht
      rw [ht] at hstatus
      contradiction
    · change runStatus ≠ .running
      intro hr
      rw [hr] at hterminal
      contradiction
    · intro row hrow' hr
      obtain ⟨heq, -⟩ := hcustody.active_run (hcustody.owned_of_lockedBy hworker) hrow hrunning
        hrow' hr
      rw [heq]
      exact hq

theorem recoveryTarget_not_running {task : Task} {nextAttemptAt retryAt : Option Time}
    (h : recoveryTarget task nextAttemptAt = .ok (target, retryAt)) : target ≠ .running := by
  unfold recoveryTarget at h
  split_ifs at h <;> cases h <;> decide

theorem recoverExpiredLease_custody (h : OwnershipInvariant db) {lease : ExpiredTaskLease}
    {nextAttemptAt recoveredAt : Option Time} {done : Bool}
    (hok : recoverExpiredLease db clock lease nextAttemptAt recoveredAt = .ok (done, db')) :
    OwnershipInvariant db' := by
  rcases recoverExpiredLease_ok hok with ⟨-, heq⟩ |
    ⟨id, task, target, retryAt, -, hmem, htarget, -, heq⟩
  · exact heq ▸ h
  subst heq
  rw [Table.mem_select] at hmem
  obtain ⟨htask, hheld⟩ := hmem
  have hheld' := hheld
  simp only [Bool.and_eq_true, decide_eq_true_eq] at hheld'
  obtain ⟨⟨⟨⟨hid, -⟩, hworker⟩, htoken⟩, -⟩ := hheld'
  subst hid
  apply Throughout.ownership
  refine h.throughout.of_updated lease.taskId (fun _ _ hp => ?_) (fun _ _ _ hq => ?_) (fun _ => rfl)
    fun task' htask' => ?_
  · simp only [Bool.and_eq_true, decide_eq_true_eq] at hp
    exact hp.1.1.1.1
  · simp only [activeRunOf, Bool.and_eq_true, decide_eq_true_eq] at hq
    exact hq.1.1.1
  · rw [htask, Option.some.injEq] at htask'
    subst htask'
    have hcustody := h.custody lease.taskId task htask
    rw [if_pos hheld]
    refine hcustody.givenBack (q := fun row => activeRunOf lease.taskId lease.workerId
      lease.lockToken row.2) (g := lost (recoveredAt.getD clock))
      (recoveryTarget_not_running htarget) rfl (fun _ => rfl) (fun _ => nofun) ?_
    intro row hrow hr
    obtain ⟨-, hrunWorker, hrunToken⟩ := hcustody.active_run (hcustody.owned_of_lockedBy hworker)
      hrow hr hrow hr
    simp only [activeRunOf, Bool.and_eq_true, decide_eq_true_eq]
    exact ⟨⟨⟨(mem_runsOf.mp hrow).2, hr⟩, hrunWorker.trans hworker⟩, hrunToken.trans htoken⟩

end Operations

/-- One call on a repository, by whichever worker. -/
inductive Operation where
  | createTask (clock : Time) (new : NewTask)
  | transition (clock : Time) (taskId : ℕ) (expected target : TaskStatus)
      (details : TransitionDetails)
  | claimNext (clock : Time) (lockToken workerId : String) (leaseDuration : Time)
      (claimedAt : Option Time)
  | createRun (clock : Time) (taskId : ℕ) (workerId lockToken : String)
      (startedAt lastHeartbeatAt : Option Time)
  | heartbeat (clock : Time) (taskId : ℕ) (workerId lockToken : String) (leaseDuration : Time)
      (heartbeatAt : Option Time)
  | finishRun (clock : Time) (taskId taskRunId : ℕ) (workerId lockToken : String)
      (expected target : TaskStatus) (runStatus : TaskRunStatus) (details : FinishDetails)
  | listExpiredLeases (clock : Time) (limit : ℕ) (expiredAt : Option Time)
  | recoverExpiredLease (clock : Time) (lease : ExpiredTaskLease)
      (nextAttemptAt recoveredAt : Option Time)

namespace Operation

def result (db : Database) : Operation → Except TaskError Database
  | createTask clock new => (TaskRepository.createTask db clock new).map Prod.snd
  | transition clock taskId expected target details =>
    TaskRepository.transition db clock taskId expected target details
  | claimNext clock lockToken workerId leaseDuration claimedAt =>
    (TaskRepository.claimNext db clock lockToken workerId leaseDuration claimedAt).map Prod.snd
  | createRun clock taskId workerId lockToken startedAt lastHeartbeatAt =>
    (TaskRepository.createRun db clock taskId workerId lockToken startedAt lastHeartbeatAt).map
      Prod.snd
  | heartbeat clock taskId workerId lockToken leaseDuration heartbeatAt =>
    TaskRepository.heartbeat db clock taskId workerId lockToken leaseDuration heartbeatAt
  | finishRun clock taskId taskRunId workerId lockToken expected target runStatus details =>
    TaskRepository.finishRun db clock taskId taskRunId workerId lockToken expected target runStatus
      details
  | listExpiredLeases clock limit expiredAt =>
    (TaskRepository.listExpiredLeases db clock limit expiredAt).map fun _ => db
  | recoverExpiredLease clock lease nextAttemptAt recoveredAt =>
    (TaskRepository.recoverExpiredLease db clock lease nextAttemptAt recoveredAt).map Prod.snd

/-- A call that raises leaves the database as it was. -/
def apply (db : Database) (op : Operation) : Database :=
  match op.result db with
  | .ok db' => db'
  | .error _ => db

/-- The token of the task is another one. -/
def foreign (db : Database) (taskId : ℕ) (lockToken : String) : Prop :=
  ∀ task, db.tasks.get? taskId = some task → task.lockToken ≠ some lockToken

/-- The lease of the task has run out. -/
def expired (db : Database) (taskId : ℕ) (now : Time) : Prop :=
  ∀ task, db.tasks.get? taskId = some task → ∀ lease ∈ task.leaseUntil, lease ≤ now

/-- A call on behalf of an owner that no longer owns the task. -/
def Stale (db : Database) : Operation → Prop
  | createRun _ taskId _ lockToken _ _ => foreign db taskId lockToken
  | heartbeat clock taskId _ lockToken _ heartbeatAt =>
    foreign db taskId lockToken ∨ expired db taskId (heartbeatAt.getD clock)
  | finishRun clock taskId _ _ lockToken _ _ _ _ =>
    foreign db taskId lockToken ∨ expired db taskId clock
  | _ => False

end Operation

/-- The database after a sequence of calls. -/
def runAll (ops : List Operation) (db : Database) : Database :=
  ops.foldl Operation.apply db

theorem map_snd_ok {ε α : Type} {r : Except ε (α × Database)} {db' : Database}
    (h : r.map Prod.snd = .ok db') : ∃ a, r = .ok (a, db') := by
  cases r with
  | error e => cases h
  | ok result =>
    cases h
    exact ⟨result.1, rfl⟩

theorem map_const_ok {ε α : Type} {r : Except ε α} {db db' : Database}
    (h : r.map (fun _ => db) = .ok db') : db' = db := by
  cases r with
  | error e => cases h
  | ok a =>
    cases h
    rfl

theorem Operation.apply_cases (db : Database) (op : Operation) :
    op.apply db = db ∨ ∃ db', op.result db = .ok db' ∧ op.apply db = db' := by
  unfold apply
  cases op.result db with
  | error e => exact .inl rfl
  | ok db' => exact .inr ⟨db', rfl, rfl⟩

theorem OwnershipInvariant.apply {db : Database} (h : OwnershipInvariant db) (op : Operation) :
    OwnershipInvariant (op.apply db) := by
  rcases op.apply_cases db with heq | ⟨db', hok, heq⟩
  · rw [heq]
    exact h
  rw [heq]
  cases op with
  | createTask clock new =>
    obtain ⟨id, hok⟩ := map_snd_ok hok
    exact createTask_custody h hok
  | transition => exact transition_custody h hok
  | claimNext =>
    obtain ⟨claim, hok⟩ := map_snd_ok hok
    exact claimNext_custody h hok
  | createRun =>
    obtain ⟨id, hok⟩ := map_snd_ok hok
    exact absurd hok (createRun_refused h)
  | heartbeat => exact heartbeat_custody h hok
  | finishRun => exact finishRun_custody h hok
  | listExpiredLeases =>
    rw [map_const_ok hok]
    exact h
  | recoverExpiredLease =>
    obtain ⟨done, hok⟩ := map_snd_ok hok
    exact recoverExpiredLease_custody h hok

theorem OwnershipInvariant.runAll {db : Database} (h : OwnershipInvariant db)
    (ops : List Operation) : OwnershipInvariant (runAll ops db) := by
  induction ops generalizing db with
  | nil => exact h
  | cons op ops ih => exact ih (h.apply op)

theorem OwnershipInvariant.empty (start : Database) :
    OwnershipInvariant { start with tasks := .empty, taskRuns := .empty } where
  custody _ _ htask := by
    rw [Table.get?_empty] at htask
    contradiction
  linked _ _ hrun := by
    rw [Table.get?_empty] at hrun
    contradiction

/-- What has ended stays as it is. -/
structure Frozen (db db' : Database) : Prop where
  tasks : ∀ id task, db.tasks.get? id = some task → task.status.terminal →
    db'.tasks.get? id = some task
  runs : ∀ id run, db.taskRuns.get? id = some run → run.status.terminal →
    db'.taskRuns.get? id = some run

theorem Frozen.refl (db : Database) : Frozen db db := ⟨fun _ _ h _ => h, fun _ _ h _ => h⟩

theorem Frozen.trans {db db' db'' : Database} (h : Frozen db db') (h' : Frozen db' db'') :
    Frozen db db'' where
  tasks id task hget hend := h'.tasks id task (h.tasks id task hget hend) hend
  runs id run hget hend := h'.runs id run (h.runs id run hget hend) hend

theorem Frozen.of_updated {db : Database} {p : ℕ → Task → Bool} {f : Task → Task}
    {q : ℕ → TaskRun → Bool} {g : TaskRun → TaskRun}
    (hp : ∀ id task, db.tasks.get? id = some task → task.status.terminal → p id task = false)
    (hq : ∀ id run, run.status.terminal → q id run = false) :
    Frozen db { db with
      tasks := db.tasks.update p fun _ => f
      taskRuns := db.taskRuns.update q fun _ => g } where
  tasks id task hget hend := by
    rw [Table.get?_update, hget, Option.map_some, hp id task hget hend]
    rfl
  runs id run hget hend := by
    rw [Table.get?_update, hget, Option.map_some, hq id run hend]
    rfl

theorem not_leased_of_terminal {status : TaskStatus} (h : status.terminal) :
    leased status = false := by
  cases status <;> first | rfl | contradiction

theorem activeRunOf_eq_false {taskId : ℕ} {workerId lockToken : String} {run : TaskRun}
    (h : run.status.terminal) : activeRunOf taskId workerId lockToken run = false := by
  unfold activeRunOf
  cases hs : run.status <;> simp_all [TaskRunStatus.terminal]

theorem not_claimable_of_terminal {now : Time} {task : Task} (h : task.status.terminal) :
    isClaimable now task = false := by
  unfold isClaimable
  cases hs : task.status <;> simp_all [TaskStatus.terminal, queued]

/-- The owner of a task that has ended is nobody. -/
theorem OwnershipInvariant.lockedBy_eq_none {db : Database} (h : OwnershipInvariant db) {id : ℕ}
    {task : Task} (htask : db.tasks.get? id = some task) (hend : task.status.terminal) :
    task.lockedBy = none := by
  have hidle := (h.custody id task htask).idle_unowned (not_leased_of_terminal hend)
  unfold unowned at hidle
  simp only [Bool.and_eq_true, Option.isNone_iff_eq_none] at hidle
  exact hidle.1.1.1

theorem OwnershipInvariant.frozen {db : Database} (h : OwnershipInvariant db) (op : Operation) :
    Frozen db (op.apply db) := by
  rcases op.apply_cases db with heq | ⟨db', hok, heq⟩
  · rw [heq]
    exact .refl db
  rw [heq]
  cases op with
  | createTask clock new =>
    obtain ⟨id, hok⟩ := map_snd_ok hok
    obtain ⟨-, -, heq⟩ := createTask_ok hok
    rw [heq]
    exact ⟨fun id task hget _ => Table.get?_insert_of_some hget, fun _ _ hget _ => hget⟩
  | transition clock taskId expected target details =>
    obtain ⟨hcan, -, -, heq⟩ := transition_ok hok
    rw [heq]
    refine ⟨fun id task hget hend => ?_, fun _ _ hget _ => hget⟩
    rw [Table.get?_update, hget, Option.map_some, if_neg]
    intro hp
    simp only [Bool.and_eq_true, decide_eq_true_eq] at hp
    rw [← hp.2, not_canTransition_of_terminal hend] at hcan
    contradiction
  | claimNext clock lockToken workerId leaseDuration claimedAt =>
    obtain ⟨claim, hok⟩ := map_snd_ok hok
    rcases claimNext_ok hok with ⟨-, heq⟩ | ⟨id, task, started, -, -, heq, run, hrun⟩
    · rw [heq]
      exact .refl db
    obtain ⟨-, -, -, heq'⟩ := createRun_ok hrun
    rw [heq', heq]
    refine ⟨fun id task hget hend => ?_, fun id run hget _ => Table.get?_insert_of_some hget⟩
    rw [Table.get?_update, hget, Option.map_some, not_claimable_of_terminal hend, Bool.and_false]
    rfl
  | createRun =>
    obtain ⟨id, hok⟩ := map_snd_ok hok
    exact absurd hok (createRun_refused h)
  | heartbeat =>
    obtain ⟨-, -, heq⟩ := heartbeat_ok hok
    rw [heq]
    refine .of_updated (fun id task _ hend => ?_) fun id run hend => activeRunOf_eq_false hend
    rw [not_leased_of_terminal hend, Bool.and_false]
  | finishRun clock taskId taskRunId workerId lockToken expected target runStatus details =>
    obtain ⟨hcan, -, -, -, -, -, heq⟩ := finishRun_ok hok
    rw [heq]
    refine .of_updated (fun id task _ hend => ?_) fun id run hend => ?_
    · by_cases hs : task.status = expected
      · rw [← hs, not_canTransition_of_terminal hend] at hcan
        contradiction
      · rw [decide_eq_false hs, Bool.and_false]
    · rw [activeRunOf_eq_false hend, Bool.and_false]
  | listExpiredLeases =>
    rw [map_const_ok hok]
    exact .refl db
  | recoverExpiredLease clock lease nextAttemptAt recoveredAt =>
    obtain ⟨done, hok⟩ := map_snd_ok hok
    rcases recoverExpiredLease_ok hok with ⟨-, heq⟩ | ⟨id, task, target, retryAt, -, -, -, -, heq⟩
    · rw [heq]
      exact .refl db
    rw [heq]
    refine .of_updated (fun id task hget hend => ?_) fun id run hend => activeRunOf_eq_false hend
    simp [h.lockedBy_eq_none hget hend]

theorem OwnershipInvariant.frozen_runAll {db : Database} (h : OwnershipInvariant db)
    (ops : List Operation) : Frozen db (TaskOwnership.runAll ops db) := by
  induction ops generalizing db with
  | nil => exact .refl db
  | cons op ops ih => exact (h.frozen op).trans (ih (h.apply op))

theorem ownedBy_eq_false {db : Database} {taskId : ℕ} {workerId lockToken : String} {now : Time}
    (h : Operation.foreign db taskId lockToken ∨ Operation.expired db taskId now) {id : ℕ}
    {task : Task} (htask : db.tasks.get? id = some task) :
    ownedBy taskId workerId lockToken now id task = false := by
  rw [Bool.eq_false_iff]
  intro hp
  simp only [ownedBy, Bool.and_eq_true, decide_eq_true_eq, Option.any_eq_true] at hp
  obtain ⟨⟨⟨hid, -⟩, htoken⟩, lease, hlease, hlt⟩ := hp
  subst hid
  rcases h with hforeign | hexpired
  · exact hforeign task htask htoken
  · exact absurd hlt (not_lt.mpr (hexpired task htask lease hlease))

theorem select_ownedBy_eq_nil {db : Database} {taskId : ℕ} {workerId lockToken : String}
    {now : Time} (h : Operation.foreign db taskId lockToken ∨ Operation.expired db taskId now)
    (q : ℕ → Task → Bool) :
    db.tasks.select (fun id task => ownedBy taskId workerId lockToken now id task && q id task) =
      [] := by
  rw [Table.select, List.filter_eq_nil_iff]
  intro row hrow
  rw [ownedBy_eq_false h (Table.mem_iff_get?.mp hrow), Bool.false_and]
  exact Bool.false_ne_true

/-- A caller that lost the task changes nothing. -/
theorem stale_apply {db : Database} {op : Operation} (h : op.Stale db) : op.apply db = db := by
  rcases op.apply_cases db with heq | ⟨db', hok, -⟩
  · exact heq
  cases op with
  | createRun clock taskId workerId lockToken startedAt lastHeartbeatAt =>
    obtain ⟨id, hok⟩ := map_snd_ok hok
    obtain ⟨⟨task, htask, -, -, htoken⟩, -⟩ := createRun_ok hok
    exact absurd htoken (h task htask)
  | heartbeat => exact absurd (select_ownedBy_eq_nil h _) (heartbeat_ok hok).1
  | finishRun => exact absurd (select_ownedBy_eq_nil h _) (finishRun_ok hok).2.2.2.2.1
  | _ => exact h.elim

/-- Whatever calls are made, from tables without tasks on: every task is in
custody, what has ended never changes again, and callers that lost their task
change nothing. Tokens may even be drawn twice. -/
theorem repository_keeps_ownership (start : Database) (ops : List Operation) :
    let db := runAll ops { start with tasks := .empty, taskRuns := .empty }
    (∀ id task, db.tasks.get? id = some task → Custody task (runsOf db id)) ∧
      (∀ later, Frozen db (runAll later db)) ∧
      ∀ op : Operation, op.Stale db → op.apply db = db := by
  have hinv := (OwnershipInvariant.empty start).runAll ops
  exact ⟨hinv.custody, hinv.frozen_runAll, fun _ => stale_apply⟩

end MediaSync.TaskOwnership
