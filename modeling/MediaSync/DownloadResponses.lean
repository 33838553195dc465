import MediaSync.DownloadChains

/-!
# Which download a response names

A request answers with a task for the destination: an active one, a new one, or
the task that has the key of the asked-for successor already. The last may have
ended long ago. While nothing else writes tasks, the response names a download
that has not ended if and only if the key is free or some download of the
destination is active.
-/
namespace MediaSync.DownloadResponses
open FaultPrograms Interleavings SharedStore Shared JsonValues RowTables TaskTables TaskRepository
open TaskOwnership PosixPaths DownloadRequests DownloadChains

/-! ## Answering a request -/

/-- What goes on beside a request and writes no task. -/
def Aside : Move → Prop
  | .work _ | .create _ => False
  | .rows .. | .disk .. | .tick _ => True

instance : Surroundings World Move := ⟨fun i w => World.move w i⟩

abbrev AsideMove := {i : Move // Aside i}

/-- A request of session `k` returned, and no other session wrote a task. -/
abbrev Answers {α : Type} (p : Request α) (w : World) (a : α) (w' : World) : Prop :=
  Returns AsideMove p w a w'

/-- Session `k` sees these tasks and may write. -/
structure Sees (k : ℕ) (tasks : Table Task) (w : World) : Prop where
  tasks : (w.view k).tasks = tasks
  free : w.locked k = false

section Sight
variable {k : ℕ} {tasks : Table Task} {w w' : World} {α : Type} {a : α}

theorem Sees.moved (h : Sees k tasks w) (hmoved : Moved AsideMove w w') : Sees k tasks w' := by
  refine hmoved.preserves (fun i w hw => ?_) h
  obtain ⟨i, haside⟩ := i
  cases i with
  | work step => exact haside.elim
  | create new => exact haside.elim
  | disk disk defaultRoot => exact ⟨hw.tasks, hw.free⟩
  | tick now => exact ⟨hw.tasks, hw.free⟩
  | rows accounts subscriptions files =>
    change Sees k tasks (World.move w (.rows accounts subscriptions files))
    unfold World.move
    dsimp only
    rcases w.transact_cases (fun db : Database =>
      { db with
        accounts := accounts
        subscriptions := subscriptions
        files := files }) with hsame | ⟨hdraft, htransact⟩
    · rw [hsame]
      exact hw
    · rw [htransact]
      have htasks := hw.tasks
      rw [view_of_unlocked hdraft] at htasks
      refine ⟨?_, hw.free⟩
      unfold Shared.view
      simp only [hdraft]
      exact htasks

/-- What a session sees when it ends is what gets committed. -/
theorem Sees.commit (h : Sees k tasks w) : (w.commit k).committed.tasks = tasks := by
  rcases w.commit_cases k with hsame | ⟨-, hcommit⟩
  · rw [hsame, ← h.tasks]
    have hview : w.view k = w.committed := by
      have hfree := h.free
      unfold Shared.locked at hfree
      cases hdraft : w.draft with
      | none => exact view_of_unlocked hdraft
      | some held =>
        -- the session would have committed its own draft
        obtain ⟨j, d⟩ := held
        rw [hdraft] at hfree
        have hj : j = k := by simpa using hfree
        subst hj
        unfold Shared.commit at hsame
        rw [hdraft] at hsame
        simp only [if_true] at hsame
        have hnone := congrArg Shared.draft hsame
        rw [hdraft] at hnone
        cases hnone
    rw [hview]
  · rw [hcommit]
    exact h.tasks

theorem Sees.query (h : Sees k tasks w) {view : Beside → Database → Except RequestError α}
    (hreturns : Answers (query k .interrupted view fun _ => id) w a w') :
    Sees k tasks w' ∧ view w'.outside (w'.view k) = .ok a := by
  obtain ⟨w₁, hmoved, hview, rfl⟩ := query_returns hreturns
  exact ⟨h.moved hmoved, hview⟩

theorem sees_write (k : ℕ) (w : World) (d : Database) : Sees k d.tasks (w.write k d) where
  tasks := by rw [view_write]
  free := by simp [Shared.locked, Shared.write]

end Sight

/-! ## The tasks of a destination -/

section Destination
variable {k : ℕ} {db : Database} {root relative : String} {settings : Settings}

theorem mem_active {found : Found} {id : ℕ} {task : Task} : (id, task) ∈ found.active relative ↔
    (relative, id, task) ∈ found ∧ task.status.terminal = false := by
  unfold Found.active
  simp only [List.mem_map, List.mem_filter, Bool.and_eq_true, decide_eq_true_eq,
    mem_activeDownloadStatuses]
  constructor
  · rintro ⟨⟨other, row⟩, ⟨hmem, rfl, hopen⟩, rfl⟩
    exact ⟨hmem, hopen⟩
  · rintro ⟨hmem, hopen⟩
    exact ⟨_, ⟨hmem, rfl, hopen⟩, rfl⟩

/-- The active downloads of a destination are all found. -/
theorem mem_lookActive {relatives : List String} {id : ℕ} {task : Task} :
    (id, task) ∈ (lookDestinations db root relatives).active relative ↔
      relative ∈ relatives ∧ db.tasks.get? id = some task ∧ isDownload root relative task ∧
        task.status.terminal = false := by
  rw [mem_active]
  constructor
  · rintro ⟨hmem, hopen⟩
    obtain ⟨htask, hdownload⟩ := mem_lookDestinations hmem
    refine ⟨?_, htask, hdownload, hopen⟩
    obtain ⟨other, hother, hrow⟩ := List.mem_flatMap.mp hmem
    obtain ⟨row, -, heq⟩ := List.mem_map.mp hrow
    cases heq
    exact hother
  · rintro ⟨hrelative, htask, hdownload, hopen⟩
    refine ⟨List.mem_flatMap.mpr ⟨relative, hrelative,
      List.mem_map.mpr ⟨(id, task), ?_, rfl⟩⟩, hopen⟩
    rw [List.mem_insertionSort, List.mem_filter]
    refine ⟨Table.mem_select.mpr ⟨htask, hdownload⟩, ?_⟩
    simp [(mem_activeDownloadStatuses task.status).mpr hopen]

/-- The task that new requests for a destination go by, or zero. -/
def latestDownload (db : Database) (root relative : String) : ℕ :=
  (((lookDestinations db root [relative]).latest relative).map Prod.fst).getD 0

theorem lookup_rows (rows : String → List (ℕ × Task)) (relatives : List String)
    (relative : String) :
    (relatives.flatMap fun other => (rows other).map fun row => (other, row)).lookup relative =
      if relative ∈ relatives then (rows relative).head? else none := by
  have hown : ((rows relative).map fun row => (relative, row)).lookup relative =
      (rows relative).head? := by
    cases rows relative with
    | nil => rfl
    | cons row rest => simp
  induction relatives with
  | nil => rfl
  | cons other relatives ih =>
    rw [List.flatMap_cons, List.lookup_append, ih]
    by_cases hother : relative = other
    · subst hother
      rw [hown, if_pos (List.mem_cons_self ..)]
      split_ifs <;> cases (rows relative).head? <;> rfl
    · have hnone : ((rows other).map fun row => (other, row)).lookup relative = none := by
        rw [List.lookup_eq_none_iff]
        intro row hrow
        obtain ⟨_, -, rfl⟩ := List.mem_map.mp hrow
        simpa using hother
      rw [hnone, Option.none_or]
      simp [hother]

/-- A destination's rows come from the look that asked for it. -/
theorem latest_look {relatives : List String} (hmem : relative ∈ relatives) :
    (lookDestinations db root relatives).latest relative =
      (lookDestinations db root [relative]).latest relative := by
  unfold lookDestinations Found.latest
  rw [lookup_rows, lookup_rows, if_pos hmem, if_pos (List.mem_singleton_self _)]

/-- How the task that a request names was come by. -/
inductive Obtained (settings : Settings) (wanted : Wanted) (root relative : String)
    (predecessorId : ℕ) (tasks tasks' : Table Task) (id : ℕ) : Prop where
  | taken (task : Task) (same : tasks' = tasks) (get : tasks.get? id = some task)
    (key : task.idempotencyKey = some (downloadKey settings root relative predecessorId))
    (file : task.fileId = some wanted.fileId)
  | created (clock : Time) (stat : ℤ × ℤ)
    (free : ∀ other task, tasks.get? other = some task →
      task.idempotencyKey ≠ some (downloadKey settings root relative predecessorId))
    (fresh : id = tasks.nextId)
    (row : tasks' = tasks.insert
      ((downloadTask settings wanted root relative predecessorId stat).row clock))

theorem taskWithKey_some {key : String} {row : ℕ × Task} (h : taskWithKey db key = some row) :
    db.tasks.get? row.1 = some row.2 ∧ row.2.idempotencyKey = some key := by
  have hmem := Table.mem_select.mp (List.mem_of_head? h)
  exact ⟨hmem.1, of_decide_eq_true hmem.2⟩

theorem taskWithKey_none {key : String} (h : taskWithKey db key = none) (id : ℕ) (task : Task)
    (htask : db.tasks.get? id = some task) : task.idempotencyKey ≠ some key := by
  intro hkey
  have hmem : (id, task) ∈ db.tasks.select fun _ task => task.idempotencyKey = some key :=
    Table.mem_select.mpr ⟨htask, decide_eq_true hkey⟩
  rw [List.head?_eq_none_iff.mp h] at hmem
  exact absurd hmem List.not_mem_nil

theorem checkDestination_row {row : ℕ × Task} {fileId : Option ℕ} {answer : Option (ℕ × Task)}
    (h : checkDestination [row] fileId = .ok answer) : answer = some row ∧
      row.2.fileId = fileId := by
  unfold checkDestination at h
  split_ifs at h with hother
  cases h
  exact ⟨rfl, by simpa using hother⟩

variable {tasks : Table Task} {w w' : World} {wanted : Wanted} {predecessorId : ℕ}

/-- The row with the key is named if it is for the same file. -/
theorem checkedRow_obtained (hsees : Sees k tasks w) {row : ℕ × Task}
    (hget : tasks.get? row.1 = some row.2)
    (hkey : row.2.idempotencyKey = some (downloadKey settings root relative predecessorId))
    {answer : Option ℕ}
    (h : Answers (do
      let task ← Prog.ofExcept (checkDestination [row] (some wanted.fileId))
      pure (task.map Prod.fst) : Request (Option ℕ)) w answer w') :
    ∃ id, answer = some id ∧ Sees k tasks w' ∧
      Obtained settings wanted root relative predecessorId tasks tasks id := by
  obtain ⟨task, w₁, hcheck, hpure⟩ := h.bind
  obtain ⟨hrow, rfl⟩ := hcheck.ofExcept
  obtain ⟨rfl, rfl⟩ := hpure.pure
  obtain ⟨rfl, hfile⟩ := checkDestination_row hrow
  exact ⟨row.1, rfl, hsees, .taken row.2 rfl hget hkey hfile⟩

theorem createDownload_obtained (hsees : Sees k tasks w) {answer : Option ℕ}
    (h : Answers (createDownload settings k wanted root relative predecessorId) w answer w') :
    ∃ id tasks', answer = some id ∧ Sees k tasks' w' ∧
      Obtained settings wanted root relative predecessorId tasks tasks' id := by
  unfold createDownload at h
  obtain ⟨stat, w₁, hstat, hlook⟩ := h.bind
  obtain ⟨hsees₁, -⟩ := hsees.query hstat
  obtain ⟨existing, w₂, hexisting, hcreate⟩ := hlook.bind
  obtain ⟨hsees₂, hview⟩ := hsees₁.query hexisting
  cases hview
  cases hfound : taskWithKey (w₂.view k) (downloadKey settings root relative predecessorId) with
  | some row =>
    simp only [hfound] at hcreate
    obtain ⟨hget, hkey⟩ := taskWithKey_some hfound
    rw [hsees₂.tasks] at hget
    obtain ⟨id, hanswer, hsees', hobtained⟩ := checkedRow_obtained hsees₂ hget hkey hcreate
    exact ⟨id, tasks, hanswer, hsees', hobtained⟩
  | none =>
    simp only [hfound] at hcreate
    obtain ⟨created, w₃, hinsert, hrest⟩ := hcreate.bind
    obtain ⟨w₄, d, hmoved, hfree, hact, rfl⟩ := statement_returns hinsert
    have hsees₄ := hsees₂.moved hmoved
    have hnokey := taskWithKey_none hfound
    rw [hsees₂.tasks] at hnokey
    split at hact
    · rename_i id db' hok
      cases hact
      obtain ⟨rfl, rfl⟩ := hrest.pure
      obtain ⟨-, rfl, rfl⟩ := createTask_ok hok
      have hwritten := sees_write k w₄ { w₄.view k with
        tasks := (w₄.view k).tasks.insert
          ((downloadTask settings wanted root relative predecessorId stat).row w₄.outside.now) }
      rw [← hsees₄.tasks] at hnokey ⊢
      exact ⟨_, _, rfl, hwritten, .created _ stat hnokey rfl rfl⟩
    · -- the schema objected to something else than the key
      cases hact
      obtain ⟨again, w₅, hagain, hlast⟩ := hrest.bind
      have hwritten : Sees k tasks (w₄.write k (w₄.view k)) := by
        have hsame := sees_write k w₄ (w₄.view k)
        rwa [hsees₄.tasks] at hsame
      obtain ⟨hsees₅, hview⟩ := hwritten.query hagain
      cases hview
      cases hagain : taskWithKey (w₅.view k) (downloadKey settings root relative predecessorId) with
      | none =>
        simp only [hagain] at hlast
        exact hlast.throw.elim
      | some row =>
        obtain ⟨hget, hkey⟩ := taskWithKey_some hagain
        rw [hsees₅.tasks] at hget
        exact absurd hkey (hnokey row.1 row.2 hget)
    · cases hact

theorem look_congr {db db' : Database} (h : db'.tasks = db.tasks) {relatives : List String} :
    lookDestinations db' root relatives = lookDestinations db root relatives := by
  unfold lookDestinations
  rw [h]

/-- Looking for many destinations is one look for all of them. -/
theorem destinationTasks_found (hsees : Sees k tasks w) {chunks : List (List String)}
    {found : Found} (h : Answers (destinationTasks k root chunks) w found w') :
    Sees k tasks w' ∧ found = lookDestinations { tasks := tasks } root chunks.flatten := by
  induction chunks generalizing w w' found with
  | nil =>
    obtain ⟨rfl, rfl⟩ := h.pure
    exact ⟨hsees, rfl⟩
  | cons relatives rest ih =>
    obtain ⟨first, w₁, hfirst, hrest⟩ := h.bind
    obtain ⟨hsees₁, hview⟩ := hsees.query hfirst
    cases hview
    obtain ⟨more, w₂, hmore, hpure⟩ := hrest.bind
    obtain ⟨hsees₂, rfl⟩ := ih hsees₁ hmore
    obtain ⟨rfl, rfl⟩ := hpure.pure
    refine ⟨hsees₂, ?_⟩
    have hfirst : lookDestinations (w₁.view k) root relatives =
        lookDestinations { tasks := tasks } root relatives := look_congr hsees₁.tasks
    dsimp only
    rw [hfirst, List.flatten_cons]
    exact (List.flatMap_append ..).symm

theorem activeDownload_congr {db db' : Database} (h : db'.tasks = db.tasks) {id : ℕ} :
    ActiveDownload db' root relative id ↔ ActiveDownload db root relative id := by
  unfold ActiveDownload
  rw [h]

/-- The task that the check passes on is an active download. -/
theorem active_of_checked {relatives : List String} {fileId : Option ℕ} {row : ℕ × Task}
    (h : checkDestination ((lookDestinations { tasks := db.tasks } root relatives).active relative)
      fileId = .ok (some row)) : ActiveDownload db root relative row.1 := by
  unfold checkDestination at h
  split_ifs at h
  obtain ⟨-, htask, hdownload, hopen⟩ := mem_lookActive.mp (List.mem_of_head? (Except.ok.inj h))
  exact ⟨row.2, htask, hdownload, hopen⟩

theorem none_of_checked {relatives : List String} (hmem : relative ∈ relatives) {fileId : Option ℕ}
    (h : checkDestination ((lookDestinations { tasks := db.tasks } root relatives).active relative)
      fileId = .ok none) (id : ℕ) : ¬ActiveDownload db root relative id := by
  rintro ⟨task, htask, hdownload, hopen⟩
  have hfound : (id, task) ∈
      (lookDestinations { tasks := db.tasks } root relatives).active relative :=
    mem_lookActive.mpr ⟨hmem, htask, hdownload, hopen⟩
  rw [checkDestination_none h] at hfound
  exact absurd hfound List.not_mem_nil

theorem created_active (settings : Settings) (wanted : Wanted) (root relative : String)
    (predecessorId : ℕ) (clock : Time) (stat : ℤ × ℤ) :
    isDownload root relative
        ((downloadTask settings wanted root relative predecessorId stat).row clock) ∧
      ((downloadTask settings wanted root relative predecessorId stat).row clock).status.terminal =
        false := by
  have hroot : ((downloadTask settings wanted root relative predecessorId stat).row
      clock).payload.lookup "root" = some (.str root) := rfl
  have hrelative : ((downloadTask settings wanted root relative predecessorId stat).row
      clock).payload.lookup "relative_path" = some (.str relative) := rfl
  refine ⟨?_, rfl⟩
  unfold isDownload
  rw [hroot, hrelative]
  simp [downloadTask, NewTask.row]

theorem transitioned_active {task : Task} (now : Time) (hdownload : isDownload root relative task) :
    isDownload root relative (transitioned .pending now {} task) ∧
      (transitioned .pending now {} task).status.terminal = false := by
  refine ⟨?_, rfl⟩
  have hidentity : RetryAccounting.identity (transitioned .pending now {} task) =
    RetryAccounting.identity task := rfl
  rw [isDownload_identity hidentity]
  exact hdownload

/-- A download that waits for a credential waits for a worker instead. -/
theorem update_named (hsees : Sees k tasks w) {taskId : ℕ} {task : Task}
    (htask : tasks.get? taskId = some task) (hdownload : isDownload root relative task)
    (hwaiting : task.status = .waitingCredential)
    (h : Answers (update k taskId .waitingCredential .pending) w () w') :
    ∃ tasks', Sees k tasks' w' ∧
      ActiveDownload { tasks := tasks' } root relative taskId := by
  obtain ⟨w₁, d, hmoved, hfree, hact, rfl⟩ := statement_returns h
  have hsees₁ := hsees.moved hmoved
  refine ⟨d.tasks, sees_write k w₁ d, ?_⟩
  cases hresult : transition (w₁.view k) w₁.outside.now taskId .waitingCredential .pending {} with
  | error e =>
    rw [hresult] at hact
    cases hact
  | ok db' =>
    rw [hresult] at hact
    cases hact
    obtain ⟨-, -, -, rfl⟩ := transition_ok hresult
    obtain ⟨hsame, hopen⟩ := transitioned_active w₁.outside.now hdownload
    refine ⟨_, ?_, hsame, hopen⟩
    dsimp only
    rw [Table.get?_update, hsees₁.tasks, htask, Option.map_some, if_pos (by simp [hwaiting])]
    rfl

end Destination

/-! ## What a request adds -/

section Added
variable {settings : Settings} {db : Database} {root : String} {tasks tasks' tasks'' : Table Task}

/-- Rows are added and none is changed. -/
def Extends (tasks tasks' : Table Task) : Prop :=
  ∀ id task, tasks.get? id = some task → tasks'.get? id = some task

theorem Extends.trans (h : Extends tasks tasks') (h' : Extends tasks' tasks'') :
    Extends tasks tasks'' := fun id task hget => h' id task (h id task hget)

theorem Extends.active (h : Extends tasks tasks') {relative : String} {id : ℕ} {task : Task}
    (hget : tasks.get? id = some task) : ActiveDownload { tasks := tasks' } root relative id ↔
      ActiveDownload { tasks := tasks } root relative id := by
  unfold ActiveDownload
  rw [h id task hget, hget]

/-- What the request has added so far is for the files it has dealt with. -/
structure Grown (db : Database) (done : List (Wanted × String)) (tasks : Table Task) : Prop where
  kept : Extends db.tasks tasks
  fresh : ∀ id task, tasks.get? id = some task → db.tasks.get? id = some task ∨
    ∃ row ∈ done, task.fileId = some row.1.fileId

theorem Grown.refl (db : Database) (done : List (Wanted × String)) : Grown db done db.tasks :=
  ⟨fun _ _ h => h, fun _ _ h => .inl h⟩

theorem Grown.later {done later : List (Wanted × String)} (h : Grown db done tasks) :
    Grown db (done ++ later) tasks where
  kept := h.kept
  fresh id task hget := by
    rcases h.fresh id task hget with hold | ⟨row, hrow, hfile⟩
    · exact .inl hold
    · exact .inr ⟨row, List.mem_append_left _ hrow, hfile⟩

/-- One more file, for which no download was active. -/
theorem Grown.obtained {done : List (Wanted × String)} (h : Grown db done tasks) {wanted : Wanted}
    {relative : String} (hother : ∀ row ∈ done, row.1.fileId ≠ wanted.fileId)
    (hnone : ∀ other, ¬ActiveDownload db root relative other) {predecessorId id : ℕ}
    (hobtained : Obtained settings wanted root relative predecessorId tasks tasks' id) :
    Grown db (done ++ [(wanted, relative)]) tasks' ∧ Extends tasks tasks' ∧
      (∃ task, tasks'.get? id = some task) ∧
      (ActiveDownload { tasks := tasks' } root relative id ↔
        db.keyTaken (downloadKey settings root relative predecessorId) = false) := by
  cases hobtained with
  | taken task same get key file =>
    subst same
    have hold : db.tasks.get? id = some task := by
      rcases h.fresh id task get with hold | ⟨row, hrow, hfile⟩
      · exact hold
      · exact absurd (Option.some.inj (hfile.symm.trans file)) (hother row hrow)
    refine ⟨h.later, fun _ _ hget => hget, ⟨task, get⟩, ?_⟩
    rw [h.kept.active hold, Database.keyTaken_iff.mpr ⟨id, task, hold, key⟩]
    exact ⟨fun hactive => absurd hactive (hnone id), fun hfalse => nomatch hfalse⟩
  | created clock stat free fresh row =>
    subst fresh row
    have hextends : Extends tasks (tasks.insert
        ((downloadTask settings wanted root relative predecessorId stat).row clock)) :=
      fun _ _ hget => Table.get?_insert_of_some hget
    obtain ⟨hdownload, hopen⟩ :=
      created_active settings wanted root relative predecessorId clock stat
    refine ⟨⟨h.kept.trans hextends, fun id task hget => ?_⟩, hextends,
      ⟨_, Table.get?_insert_nextId _ _⟩, ?_⟩
    · rw [Table.get?_insert] at hget
      split_ifs at hget
      · cases hget
        exact .inr ⟨_, List.mem_append_right _ (List.mem_singleton_self _), rfl⟩
      · exact h.later.fresh id task hget
    · constructor
      · intro _
        rw [Bool.eq_false_iff]
        intro htaken
        obtain ⟨other, task, hget, hkey⟩ := Database.keyTaken_iff.mp htaken
        exact free other task (h.kept other task hget) hkey
      · exact fun _ => ⟨_, Table.get?_insert_nextId _ _, hdownload, hopen⟩

end Added

/-! ## Retrying -/

section Retry
variable {settings : Settings} {k : ℕ} {db : Database} {root relative : String} {w w' : World}
  {taskId : ℕ} {task : Task}

/-- The condition under which the retry of a task names a live download. -/
def RetryLive (settings : Settings) (db : Database) (root relative : String) (taskId : ℕ)
    (task : Task) : Prop :=
  task.status = .waitingCredential ∨ (∃ other, ActiveDownload db root relative other) ∨
    db.keyTaken (downloadKey settings root relative taskId) = false

/-- The root of an earlier download of reachable tables is the stored one. -/
theorem storedRoot_same (hchained : Chained settings db) (htask : db.tasks.get? taskId = some task)
    (hdownload : isDownload root relative task) {beside : Beside} {root' : String}
    (h : storedRoot settings task beside = .ok root') : root' = root := by
  obtain ⟨stored, hstored, hfollow⟩ := storedRoot_ok h
  have hsame : stored = root := by
    simp only [isDownload, Bool.and_eq_true, decide_eq_true_eq] at hdownload
    have hroots := hstored.symm.trans hdownload.1.2
    cases hroots
    rfl
  subst hsame
  obtain ⟨hlinks, hnormal⟩ := hchained.rooted taskId task stored relative htask hdownload
  have habsolute := settings.links.absolute stored
  rw [hlinks] at habsolute
  rw [hfollow habsolute, hnormal, hlinks]

theorem retry_live (hchained : Chained settings db) (htask : db.tasks.get? taskId = some task)
    (hdownload : isDownload root relative task) (hcommitted : w.committed = db)
    (hdraft : w.draft = none) {answer : Option ℕ}
    (h : Answers (retryDownload settings k taskId) w answer w') :
    ∃ id, answer = some id ∧ (ActiveDownload w'.committed root relative id ↔
      RetryLive settings db root relative taskId task) := by
  have hsees : Sees k db.tasks w :=
    ⟨by rw [view_of_unlocked hdraft, hcommitted], by simp [Shared.locked, hdraft]⟩
  obtain ⟨w₁, w₂, hbody, hmoved, rfl⟩ := session_returns h
  obtain ⟨found, w₃, hselect, hrest⟩ := hbody.bind
  obtain ⟨hsees₃, hview⟩ := hsees.query hselect
  have hsame : found = task := by
    rw [hsees₃.tasks, htask] at hview
    split at hview
    · cases hview
    · rename_i row hrow
      cases hview
      exact (Option.some.inj (Option.filter_eq_some_iff.mp hrow).1).symm
  subst hsame
  by_cases hwaiting : found.status = .waitingCredential
  · rw [if_pos hwaiting] at hrest
    obtain ⟨_, w₄, hupdate, hpure⟩ := hrest.bind
    obtain ⟨rfl, rfl⟩ := hpure.pure
    obtain ⟨tasks', hsees₄, hactive⟩ := update_named hsees₃ htask hdownload hwaiting hupdate
    have hcommit : (w₂.commit k).committed.tasks = ({ tasks := tasks' } : Database).tasks :=
      (hsees₄.moved hmoved).commit
    exact ⟨taskId, rfl, fun _ => .inl hwaiting, fun _ => (activeDownload_congr hcommit).mpr hactive⟩
  rw [if_neg hwaiting] at hrest
  by_cases hended : found.status ≠ .failed ∧ found.status ≠ .cancelled
  · rw [if_pos hended] at hrest
    exact hrest.throw.elim
  rw [if_neg hended] at hrest
  obtain ⟨root', w₄, hvalid, hfolders⟩ := hrest.bind
  obtain ⟨hsees₄, hroot⟩ := hsees₃.query hvalid
  have hsame := storedRoot_same hchained htask hdownload hroot
  subst hsame
  have hrelative : found.payload.lookup "relative_path" = some (.str relative) := by
    simp only [isDownload, Bool.and_eq_true, decide_eq_true_eq] at hdownload
    exact hdownload.2
  simp only [hrelative] at hfolders
  obtain ⟨looked, w₅, hlooked, hchoose⟩ := hfolders.bind
  obtain ⟨hsees₅, rfl⟩ := destinationTasks_found hsees₄ hlooked
  obtain ⟨successor, w₆, hchecked, hname⟩ := hchoose.bind
  obtain ⟨hcheck, rfl⟩ := hchecked.ofExcept
  cases successor with
  | some row =>
    obtain ⟨rfl, rfl⟩ := hname.pure
    have hactive := active_of_checked hcheck
    have hcommit := (hsees₅.moved hmoved).commit
    exact ⟨row.1, rfl, fun _ => .inr (.inl ⟨row.1, hactive⟩),
      fun _ => (activeDownload_congr hcommit).mpr hactive⟩
  | none =>
    have hnone := none_of_checked (List.mem_singleton_self relative) hcheck
    obtain ⟨wanted, w₇, hwanted, hcreate⟩ := hname.bind
    obtain ⟨hsees₇, -⟩ := hsees₅.query hwanted
    obtain ⟨id, tasks', rfl, hsees₈, hobtained⟩ := createDownload_obtained hsees₇ hcreate
    obtain ⟨-, -, -, hlive⟩ := (Grown.refl db []).obtained (by simp) hnone hobtained
    have hcommit : (w₂.commit k).committed.tasks = ({ tasks := tasks' } : Database).tasks :=
      (hsees₈.moved hmoved).commit
    refine ⟨id, rfl, ((activeDownload_congr hcommit).trans hlive).trans ?_⟩
    constructor
    · exact fun hfree => .inr (.inr hfree)
    · rintro (hstill | ⟨other, hactive⟩ | hfree)
      · exact absurd hstill hwaiting
      · exact absurd hactive (hnone other)
      · exact hfree

end Retry

/-! ## Enqueueing -/

theorem go_flatten {α : Type} (n : ℕ) (xs : List α) (chunk : Array α) (chunks : Array (List α)) :
    (List.toChunks.go n xs chunk chunks).flatten =
      chunks.toList.flatten ++ (chunk.toList ++ xs) := by
  induction xs generalizing chunk chunks with
  | nil =>
    rw [List.toChunks.go]
    simp
  | cons x xs ih =>
    rw [List.toChunks.go]
    split <;> simp [ih]

theorem flatten_toChunks {α : Type} (n : ℕ) (xs : List α) : (xs.toChunks (n + 1)).flatten = xs := by
  cases xs with
  | nil => rfl
  | cons x xs =>
    rw [List.toChunks, go_flatten]
    · simp
    · simp

theorem nodup_eraseDups (ids : List ℕ) : ids.eraseDups.Nodup := by
  induction hlength : ids.length using Nat.strong_induction_on generalizing ids with
  | h n ih =>
    cases ids with
    | nil => exact List.nodup_nil
    | cons id ids =>
      rw [List.eraseDups_cons, List.nodup_cons]
      have hshort : (ids.filter fun other => !other == id).length < n := by
        rw [← hlength, List.length_cons]
        exact Nat.lt_succ_of_le (List.length_filter_le _ _)
      refine ⟨fun hmem => ?_, ih _ hshort _ rfl⟩
      have hother := (List.mem_filter.mp (List.mem_eraseDups.mp hmem)).2
      simp at hother

section Enqueue
variable {settings : Settings} {k : ℕ} {db : Database} {root : String} {w w' : World}
  {tasks : Table Task}

/-- The condition under which a request for a destination names a live download. -/
def EnqueueLive (settings : Settings) (db : Database) (root relative : String) : Prop :=
  (∃ other, ActiveDownload db root relative other) ∨
    db.keyTaken (downloadKey settings root relative (latestDownload db root relative)) = false

theorem enqueuePrepared_live {destinations : List String} {rows done : List (Wanted × String)}
    {ids answer : List ℕ} (hsees : Sees k tasks w) (hgrown : Grown db done tasks)
    (hfiles : ((done ++ rows).map fun row => row.1.fileId).Nodup)
    (hlooked : ∀ row ∈ rows, row.2 ∈ destinations)
    (h : Answers (enqueuePrepared settings k root
      (lookDestinations { tasks := db.tasks } root destinations) rows ids) w answer w') :
    ∃ tasks' named, Sees k tasks' w' ∧ Extends tasks tasks' ∧ answer = ids ++ named ∧
      List.Forall₂ (fun row id => ActiveDownload { tasks := tasks' } root row.2 id ↔
        EnqueueLive settings db root row.2) rows named := by
  induction rows generalizing tasks done ids w with
  | nil =>
    obtain ⟨rfl, rfl⟩ := h.pure
    exact ⟨tasks, [], hsees, fun _ _ hget => hget, (List.append_nil _).symm, .nil⟩
  | cons row rows ih =>
    obtain ⟨wanted, relative⟩ := row
    have hmem := hlooked _ (List.mem_cons_self ..)
    have hnext : ((done ++ [(wanted, relative)] ++ rows).map fun row => row.1.fileId).Nodup := by
      rw [List.append_assoc]
      exact hfiles
    have hrest := fun row hrow => hlooked row (List.mem_cons_of_mem _ hrow)
    obtain ⟨existing, w₁, hchecked, hname⟩ := h.bind
    obtain ⟨hcheck, rfl⟩ := hchecked.ofExcept
    cases existing with
    | some found =>
      have hactive := active_of_checked hcheck
      obtain ⟨tasks', named, hsees', hextends, rfl, hall⟩ :=
        ih hsees hgrown.later hnext hrest hname
      refine ⟨tasks', found.1 :: named, hsees', hextends, by simp, .cons ?_ hall⟩
      obtain ⟨task, hget, hdownload⟩ := hactive
      have hkept := (hgrown.kept.trans hextends) found.1 task hget
      exact ⟨fun _ => .inl ⟨found.1, task, hget, hdownload⟩, fun _ => ⟨task, hkept, hdownload⟩⟩
    | none =>
      have hnone := none_of_checked hmem hcheck
      have hlatest : (((lookDestinations { tasks := db.tasks } root destinations).latest
          relative).map Prod.fst).getD 0 = latestDownload db root relative := by
        rw [latest_look hmem, look_congr rfl]
        rfl
      rw [hlatest] at hname
      obtain ⟨created, w₂, hcreate, hname⟩ := hname.bind
      obtain ⟨id, tasks₁, rfl, hsees₁, hobtained⟩ := createDownload_obtained hsees hcreate
      have hother : ∀ row ∈ done, row.1.fileId ≠ wanted.fileId := by
        intro row hrow heq
        rw [List.map_append, List.nodup_append] at hfiles
        exact hfiles.2.2 _ (List.mem_map_of_mem hrow) _
          (List.mem_map_of_mem (List.mem_cons_self ..))
          heq
      obtain ⟨hgrown₁, hadded, ⟨task, hget⟩, hlive⟩ := hgrown.obtained hother hnone hobtained
      obtain ⟨tasks', named, hsees', hextends, rfl, hall⟩ := ih hsees₁ hgrown₁ hnext hrest hname
      refine ⟨tasks', id :: named, hsees', hadded.trans hextends, by simp, .cons ?_ hall⟩
      rw [hextends.active hget, hlive]
      constructor
      · exact .inr
      · rintro (⟨other, hactive⟩ | hfree)
        · exact absurd hactive (hnone other)
        · exact hfree

theorem loadFiles_sees (hsees : Sees k tasks w) {chunks : List (List ℕ)} {files : List Wanted}
    (h : Answers (loadFiles k chunks) w files w') : Sees k tasks w' := by
  induction chunks generalizing w files with
  | nil =>
    obtain ⟨-, rfl⟩ := h.pure
    exact hsees
  | cons ids rest ih =>
    obtain ⟨first, w₁, hfirst, hrest⟩ := h.bind
    obtain ⟨more, w₂, hmore, hpure⟩ := hrest.bind
    obtain ⟨-, rfl⟩ := hpure.pure
    exact ih (hsees.query hfirst).1 hmore

/-- The destinations of a request, one for each of its files. -/
structure Prepared (settings : Settings) (request : DownloadRequest) (root : String)
    (ids : List ℕ) (rows : List (Wanted × String)) : Prop where
  files : rows.map (fun row => row.1.fileId) = ids
  destinations : ∀ row ∈ rows, ∃ disk, relativeDestination settings disk root
    (requestedPath request.directory row.1.file) = .ok row.2

theorem prepare_sees (hsees : Sees k tasks w) {request : DownloadRequest} {files : List Wanted}
    {done ids : List ℕ} {prepared answer : List (Wanted × String)}
    (hprepared : Prepared settings request root done prepared)
    (h : Answers (prepare settings k request root files ids prepared) w answer w') :
    Sees k tasks w' ∧ Prepared settings request root (done ++ ids) answer := by
  induction ids generalizing w done prepared with
  | nil =>
    obtain ⟨rfl, rfl⟩ := h.pure
    rw [List.append_nil]
    exact ⟨hsees, hprepared⟩
  | cons fileId rest ih =>
    unfold prepare at h
    cases hfind : files.find? fun wanted => wanted.fileId = fileId with
    | none =>
      rw [hfind] at h
      exact h.throw.elim
    | some wanted =>
      rw [hfind] at h
      dsimp only at h
      by_cases hready : isTransferred wanted
      · rw [if_neg (by simp [hready])] at h
        obtain ⟨relative, w₁, hrelative, hnext⟩ := h.bind
        obtain ⟨hsees₁, hview⟩ := hsees.query hrelative
        by_cases htwice : relative ∈ prepared.map Prod.snd
        · rw [if_pos htwice] at hnext
          exact hnext.throw.elim
        · rw [if_neg htwice] at hnext
          have hid : wanted.fileId = fileId := by simpa using List.find?_some hfind
          have hmore : Prepared settings request root (done ++ [fileId])
              (prepared ++ [(wanted, relative)]) := by
            constructor
            · rw [List.map_append, hprepared.files, List.map_singleton, hid]
            · intro row hrow
              rcases List.mem_append.mp hrow with hrow | hrow
              · exact hprepared.destinations row hrow
              · rw [List.mem_singleton.mp hrow]
                exact ⟨_, hview⟩
          have hlast := ih hsees₁ hmore hnext
          rwa [List.append_assoc] at hlast
      · rw [if_pos (by simpa using hready)] at h
        exact h.throw.elim

/-- Each destination of a request gets a task, and the task is live under the
condition on its destination. -/
theorem enqueue_live (hcommitted : w.committed = db) (hdraft : w.draft = none)
    {request : DownloadRequest} {answer : List ℕ}
    (h : Answers (enqueueDownloads settings k request) w answer w') :
    ∃ root rows, (∃ beside, requestedRoot settings request beside = .ok root) ∧
      Prepared settings request root request.fileIds.eraseDups rows ∧
      List.Forall₂ (fun row id => ActiveDownload w'.committed root row.2 id ↔
        EnqueueLive settings db root row.2) rows answer := by
  have hsees : Sees k db.tasks w :=
    ⟨by rw [view_of_unlocked hdraft, hcommitted], by simp [Shared.locked, hdraft]⟩
  obtain ⟨w₁, w₂, hbody, hmoved, rfl⟩ := session_returns h
  obtain ⟨root, w₃, hroot, hload⟩ := hbody.bind
  obtain ⟨hsees₃, hview⟩ := hsees.query hroot
  obtain ⟨files, w₄, hload, hprepare⟩ := hload.bind
  have hsees₄ := loadFiles_sees hsees₃ hload
  obtain ⟨rows, w₅, hprepare, hlook⟩ := hprepare.bind
  have hstart : Prepared settings request root [] [] := ⟨rfl, fun _ hrow => nomatch hrow⟩
  obtain ⟨hsees₅, hprepared⟩ := prepare_sees hsees₄ hstart hprepare
  obtain ⟨found, w₆, hlook, hcheck⟩ := hlook.bind
  obtain ⟨hsees₆, rfl⟩ := destinationTasks_found hsees₅ hlook
  obtain ⟨_, w₇, hcheck, hname⟩ := hcheck.bind
  obtain ⟨-, rfl⟩ := hcheck.ofExcept
  rw [flatten_toChunks] at hname
  have hnodup : (([] ++ rows).map fun row : Wanted × String => row.1.fileId).Nodup := by
    rw [List.nil_append, hprepared.files]
    exact nodup_eraseDups _
  obtain ⟨tasks', named, hsees', -, rfl, hall⟩ := enqueuePrepared_live hsees₆ (Grown.refl db [])
    hnodup (fun row hrow => List.mem_map_of_mem hrow) hname
  have hcommit : (w₂.commit k).committed.tasks = ({ tasks := tasks' } : Database).tasks :=
    (hsees'.moved hmoved).commit
  refine ⟨root, rows, ⟨_, hview⟩, hprepared, ?_⟩
  exact hall.imp fun row id hlive => (activeDownload_congr hcommit).trans hlive

end Enqueue

/-! ## Responses -/

/-- In whatever tables requests and workers leave, a response names a download
of its destination, and one that has not ended if and only if one was active or
the key of the asked-for successor was free. Somebody has that key as soon as
another download has followed. -/
theorem response_live_iff (settings : Settings) (rows : Database) (beside beside' : Beside)
    (happenings : List (Happening ℕ Job Move)) (k : ℕ) :
    let start : World :=
      { committed := { rows with tasks := .empty, taskRuns := .empty }
        outside := beside }
    let db := ((Pool.initial start).run (system settings) happenings).state.committed
    let w : World := { committed := db, outside := beside' }
    (∀ taskId root relative task answer w', db.tasks.get? taskId = some task →
      isDownload root relative task → Answers (retryDownload settings k taskId) w answer w' →
      ∃ id, answer = some id ∧ (ActiveDownload w'.committed root relative id ↔
        RetryLive settings db root relative taskId task)) ∧
    (∀ request answer w', Answers (enqueueDownloads settings k request) w answer w' →
      ∃ root rows, (∃ beside, requestedRoot settings request beside = .ok root) ∧
        Prepared settings request root request.fileIds.eraseDups rows ∧
        List.Forall₂ (fun row id => ActiveDownload w'.committed root row.2 id ↔
          EnqueueLive settings db root row.2) rows answer) ∧
    ∀ taskId root relative, taskId ∈ downloadIds db root relative →
      (downloadIds db root relative).getLast? ≠ some taskId →
      db.keyTaken (downloadKey settings root relative taskId) = true := by
  intro start db w
  have hchained : Chained settings db := chained_run settings rows beside happenings
  refine ⟨?_, ?_, ?_⟩
  · intro taskId root relative task answer w' htask hdownload hanswers
    exact retry_live (w := w) hchained htask hdownload rfl rfl hanswers
  · intro request answer w' hanswers
    exact enqueue_live (w := w) rfl rfl hanswers
  · intro taskId root relative hmem hlast
    exact hchained.taken_of_followed hmem hlast

/-! ## A response that names a download that has ended -/

def sampleSettings : Settings where
  links := .plain
  home _ := none
  sha256 _ := "784da2210f6ece3fc7fd70b160457e1b323e4bc6febb2b68d6deca485a6df40e"

def sampleDisk : Disk where
  present path := path = "/" || path = "/nas"
  isDirectory path := path = "/" || path = "/nas"
  writable path := path = "/nas"
  isSymlink _ := false
  stat path := if path = "/nas" then some (2049, 7) else none

def sampleBeside : Beside := { now := 0, disk := sampleDisk, defaultRoot := .ok "/nas" }

/-- A subscription with one file that was transferred. -/
def sampleRows : Database where
  accounts := Table.empty.insert { provider := "pikpak", name := "main", refreshToken := "token" }
  subscriptions := Table.empty.insert
    { cloudAccountId := 1
      name := "show"
      provider := "pikpak"
      shareUrl := "https://mypikpak.com/s/a1"
      targetPath := "/media" }
  files := Table.empty.insert
    { subscriptionId := 1
      remoteFileId := "r1"
      parentRemoteFileId := none
      filename := "e01.mkv"
      size := some 9
      contentHash := none
      fingerprint := "f1"
      status := "saved"
      targetFileId := some "t1"
      firstSeenAt := 0
      lastSeenAt := 0 }

/-- The first download is cancelled and retried, and its successor is cancelled. -/
def twiceCancelled : List (Happening ℕ Job Move) :=
  [(1, Job.enqueue { fileIds := [1], root := some "/nas" }), (2, .cancel 1), (3, .retry 1),
    (4, .cancel 2)].flatMap fun request =>
      .start request.1 request.2 :: List.replicate 10 (.act request.1)

def afterCancelled : World where
  committed := ((Pool.initial ({ committed := sampleRows, outside := sampleBeside } : World)).run
    (system sampleSettings) twiceCancelled).state.committed
  outside := sampleBeside

/-- The retry of the first download, with nobody else at work. -/
def retriedAgain : Outcome RequestError (Option ℕ) × World × Schedule AsideMove :=
  Prog.run (retryDownload sampleSettings 5 1) [] afterCancelled

theorem retriedAgain_answer : retriedAgain.1 = .value (some 2) := by
  decide +kernel

theorem retriedAgain_cancelled : (retriedAgain.2.1.committed.tasks.get? 2).map
    (fun task => task.status) = some .cancelled := by
  decide +kernel

/-- The retry of the first download names the second one, which was cancelled. -/
theorem retry_names_ended :
    ¬∀ answer w', Answers (retryDownload sampleSettings 5 1) afterCancelled answer w' →
      ∃ id, answer = some id ∧ ActiveDownload w'.committed "/nas" "e01.mkv" id := by
  intro hlive
  have hanswers : Answers (retryDownload sampleSettings 5 1) afterCancelled (some 2)
      retriedAgain.2.1 := Returns.of_run (r := retriedAgain) rfl retriedAgain_answer
  obtain ⟨id, hid, task, htask, -, hopen⟩ := hlive _ _ hanswers
  cases hid
  have hcancelled := retriedAgain_cancelled
  rw [htask] at hcancelled
  have hstatus : task.status = .cancelled := Option.some.inj hcancelled
  rw [hstatus] at hopen
  cases hopen

end MediaSync.DownloadResponses
