import MediaSync.OneSave

/-!
# The lineage of a retried transfer

Each retry of a file names the task it follows in its key, and no key is used
twice. So the retries of a file form a chain, the active task is its end, and
an operation id that a task of the chain has recorded is carried on to every
later one: none of them submits the save again.

Requests look before they insert, and what they saw may be out of date by then.
What saves them is that a key whose predecessor is no longer the last one has
been taken.
-/
namespace MediaSync.RetryLineage
open FaultPrograms Interleavings RowTables TaskTables TaskRepository TaskWorker SubscriptionScan
open TransferOperation TransferHandler TransferWrites WorkerCycles TransferRetries TransferEngine
open ProgramModes OneSave

/-! ## The chain of a file -/

def isTransferOf (fileId : ℕ) (task : Task) : Prop :=
  task.type = "transfer" ∧ task.fileId = some fileId

/-- A transfer of the file that has not ended. -/
def Active (db : Database) (fileId id : ℕ) : Prop :=
  ∃ task, db.tasks.get? id = some task ∧ isTransferOf fileId task ∧ task.status.terminal = false

def keyOf (db : Database) (id : ℕ) : Option String :=
  (db.tasks.get? id).bind fun task => task.idempotencyKey

/-- `id` is the retry that directly follows `predecessorId`. -/
def Succeeds (db : Database) (fileId id predecessorId : ℕ) : Prop :=
  keyOf db id = some (retryKey fileId predecessorId)

/-- `id` is a later retry of the chain that `ancestor` is part of. -/
def Descends (db : Database) (fileId : ℕ) : ℕ → ℕ → Prop :=
  Relation.TransGen (Succeeds db fileId)

/-- The predecessor that a retry would name. -/
def lastId (db : Database) (fileId : ℕ) : Option ℕ := (lastEnded db fileId).map Prod.fst

theorem keyOf_some {db : Database} {id : ℕ} {key : String} (h : keyOf db id = some key) :
    ∃ task, db.tasks.get? id = some task ∧ task.idempotencyKey = some key :=
  Option.bind_eq_some_iff.mp h

theorem isEndedTransfer_iff {fileId : ℕ} {task : Task} :
    isEndedTransfer fileId task = true ↔ isTransferOf fileId task ∧
      task.status.terminal = true := by
  simp [isEndedTransfer, isTransferOf, and_assoc]

/-- The last ended transfer of the file, in the order of creation. -/
structure IsLast (db : Database) (fileId id : ℕ) (task : Task) : Prop where
  stored : db.tasks.get? id = some task
  ended : isEndedTransfer fileId task
  latest (other : ℕ) (row : Task) : db.tasks.get? other = some row → isEndedTransfer fileId row →
    toLex (row.createdAt, other) ≤ (toLex (task.createdAt, id) : ℤ ×ₗ ℕ)

section Last
variable {db : Database} {fileId id : ℕ} {task : Task}

theorem lastEnded_some (h : lastEnded db fileId = some (id, task)) : IsLast db fileId id task := by
  obtain ⟨hstored, hended⟩ := Table.mem_select.mp (List.argmax_mem h)
  refine ⟨hstored, hended, fun other row hrow hother => ?_⟩
  have hle := List.le_of_mem_argmax (Table.mem_select.mpr ⟨hrow, hother⟩) h
  exact hle

theorem lastEnded_none (h : lastEnded db fileId = none) (hstored : db.tasks.get? id = some task) :
    isEndedTransfer fileId task = false := by
  by_contra hended
  have hmem : (id, task) ∈ db.tasks.select fun _ task => isEndedTransfer fileId task :=
    Table.mem_select.mpr ⟨hstored, by simpa using hended⟩
  rw [List.argmax_eq_none.mp h] at hmem
  exact absurd hmem List.not_mem_nil

theorem IsLast.lastId_eq (h : IsLast db fileId id task) : lastId db fileId = some id := by
  unfold lastId
  cases hlast : lastEnded db fileId with
  | none =>
    have hnone := lastEnded_none hlast h.stored
    rw [h.ended] at hnone
    cases hnone
  | some row =>
    obtain ⟨other, row⟩ := row
    have hother := lastEnded_some hlast
    have hle := h.latest other row hother.stored hother.ended
    have hge := hother.latest id task h.stored h.ended
    have hsame := congrArg (fun pair => (ofLex pair).2) (le_antisymm hle hge)
    exact congrArg some hsame

/-- The predecessor depends on nothing but which transfers have ended and when
they were created. -/
theorem lastId_congr {db' : Database}
    (h : ∀ id createdAt,
      (∃ task, db'.tasks.get? id = some task ∧ isEndedTransfer fileId task ∧
        task.createdAt = createdAt) ↔
      ∃ task, db.tasks.get? id = some task ∧ isEndedTransfer fileId task ∧
        task.createdAt = createdAt) : lastId db' fileId = lastId db fileId := by
  cases hlast : lastEnded db fileId with
  | none =>
    have hnone : lastEnded db' fileId = none := by
      cases hlast' : lastEnded db' fileId with
      | none => rfl
      | some row =>
        have hother := lastEnded_some hlast'
        obtain ⟨task, hstored, hended, -⟩ := (h row.1 row.2.createdAt).mp ⟨row.2, hother.stored,
          hother.ended, rfl⟩
        rw [lastEnded_none hlast hstored] at hended
        cases hended
    unfold lastId
    rw [hlast, hnone]
  | some row =>
    have hrow := lastEnded_some hlast
    rw [hrow.lastId_eq]
    obtain ⟨task, hstored, hended, hcreated⟩ := (h row.1 row.2.createdAt).mpr ⟨row.2, hrow.stored,
      hrow.ended, rfl⟩
    refine IsLast.lastId_eq ⟨hstored, hended, fun other row' hrow' hended' => ?_⟩
    obtain ⟨before, hbefore, hendedBefore, hsame⟩ := (h other row'.createdAt).mp ⟨row', hrow',
      hended', rfl⟩
    rw [hcreated, ← hsame]
    exact hrow.latest other before hbefore hendedBefore

end Last

/-! ## Steps that leave the chain alone -/

/-- A task keeps what it is for, stays ended, and keeps an operation id that it
has recorded. -/
structure Steady (task task' : Task) : Prop where
  type : task'.type = task.type
  fileId : task'.fileId = task.fileId
  key : task'.idempotencyKey = task.idempotencyKey
  createdAt : task'.createdAt = task.createdAt
  ended : task.status.terminal → task'.status.terminal
  recorded (operationId : String) : task.providerOperationId = some operationId →
    task'.providerOperationId = some operationId

theorem Steady.refl (task : Task) : Steady task task := ⟨rfl, rfl, rfl, rfl, id, fun _ h => h⟩

theorem Steady.transferOf {task task' : Task} (h : Steady task task') {fileId : ℕ} :
    isTransferOf fileId task' ↔ isTransferOf fileId task := by
  unfold isTransferOf
  rw [h.type, h.fileId]

theorem Carried.steady {task task' : Task} (h : Carried task task') : Steady task task' := by
  have htype := congrArg Task.type h.same
  have hfile := congrArg Task.fileId h.same
  have hkey := congrArg Task.idempotencyKey h.same
  have hcreated := congrArg Task.createdAt h.same
  have hoperation := congrArg Task.providerOperationId h.same
  exact ⟨htype, hfile, hkey, hcreated, h.ended, fun _ hrecorded => Eq.trans hoperation hrecorded⟩

theorem mark_steady {task : Task} {mark : TaskMark} (h : mark.fits task) :
    Steady task (mark.apply task) := by
  cases mark with
  | intent now => exact ⟨rfl, rfl, rfl, rfl, id, fun _ h => h⟩
  | operation operationId now =>
    refine ⟨rfl, rfl, rfl, rfl, id, fun recorded hrecorded => ?_⟩
    have hsame : task.providerOperationId ∈ [none, some operationId] := h
    rw [hrecorded] at hsame
    simpa [TaskMark.apply, eq_comm] using hsame
  | success result now => exact ⟨rfl, rfl, rfl, rfl, id, fun _ h => h⟩
  | uncertain now => exact ⟨rfl, rfl, rfl, rfl, id, fun _ h => h⟩

/-- A row that is new, under a key that nobody had and that is no retry's. -/
structure Foreign (db : Database) (fileId id : ℕ) (task : Task) : Prop where
  fresh : db.tasks.get? id = none
  positive : id ≠ 0
  unique (key : String) : task.idempotencyKey = some key → ∀ other, keyOf db other ≠ some key
  apart (predecessorId : ℕ) : task.idempotencyKey ≠ some (retryKey fileId predecessorId)

/-- Rows stay, none joins the chain, and nothing is saved. -/
structure Kept {χ : Type} (accepted : χ → ℕ → ℕ) (fileId : ℕ) (w w' : EngineWorld χ) : Prop where
  rows (id : ℕ) (task' : Task) : w'.db.tasks.get? id = some task' →
    (∃ task, w.db.tasks.get? id = some task ∧ Steady task task') ∨ Foreign w.db fileId id task'
  alone (id id' : ℕ) (task task' : Task) : w'.db.tasks.get? id = some task →
    w'.db.tasks.get? id' = some task' → w.db.tasks.get? id = none → w.db.tasks.get? id' = none →
    id = id'
  present (id : ℕ) (task : Task) : w.db.tasks.get? id = some task →
    ∃ task', w'.db.tasks.get? id = some task'
  saves : accepted w'.cloud = accepted w.cloud

section Kept
variable {χ : Type} {accepted : χ → ℕ → ℕ} {fileId : ℕ} {w w' : EngineWorld χ}

/-- No row is new. -/
theorem Kept.of_rows (hrows : ∀ id task', w'.db.tasks.get? id = some task' →
      ∃ task, w.db.tasks.get? id = some task ∧ Steady task task')
    (hpresent : ∀ id task, w.db.tasks.get? id = some task → ∃ task',
      w'.db.tasks.get? id = some task')
    (hsaves : accepted w'.cloud = accepted w.cloud) : Kept accepted fileId w w' where
  rows id task' htask' := .inl (hrows id task' htask')
  alone id id' task task' htask _ hnone _ := by
    obtain ⟨before, hbefore, -⟩ := hrows id task htask
    rw [hnone] at hbefore
    cases hbefore
  present := hpresent
  saves := hsaves

theorem Kept.of_tasks (htasks : w'.db.tasks = w.db.tasks)
    (hsaves : accepted w'.cloud = accepted w.cloud) : Kept accepted fileId w w' :=
  Kept.of_rows (fun id task' htask' => ⟨task', by rw [← htasks, htask'], Steady.refl task'⟩)
    (fun id task htask => ⟨task, by rw [htasks, htask]⟩) hsaves

theorem Kept.refl (w : EngineWorld χ) : Kept accepted fileId w w := Kept.of_tasks rfl rfl

theorem Carries.kept (h : Carries w.db w'.db) (hsaves : accepted w'.cloud = accepted w.cloud) :
    Kept accepted fileId w w' := by
  refine Kept.of_rows (fun id task' htask' => ?_) h.present hsaves
  obtain ⟨task, htask, hcarried⟩ := h.rows id task' htask'
  exact ⟨task, htask, Carried.steady hcarried⟩

theorem Engined.kept (h : Engined w w') : Kept accepted fileId w w' :=
  Carries.kept h.carries (by rw [h.only])

theorem OnCloud.kept (h : OnCloud (fun c c' => accepted c' = accepted c) w w') :
    Kept accepted fileId w w' := Kept.of_tasks (by rw [h.only]) h.cloud

theorem created_kept {new : NewTask} {id : ℕ} {db files : Database}
    (h : TaskRepository.createTask w.db w.clock new = .ok (id, db))
    (hfiles : files.tasks = db.tasks)
    (hkey : ∀ predecessorId, new.idempotencyKey ≠ some (retryKey fileId predecessorId)) :
    Kept accepted fileId w { w with db := files } := by
  obtain ⟨hadmits, -, rfl⟩ := createTask_ok h
  have hget (other : ℕ) : files.tasks.get? other =
      if other = w.db.tasks.nextId then some (new.row w.clock) else w.db.tasks.get? other := by
    rw [hfiles, Table.get?_insert]
  constructor
  · intro other task' htask'
    change files.tasks.get? other = some task' at htask'
    rw [hget] at htask'
    split_ifs at htask' with hnew
    · cases htask'
      subst hnew
      refine .inr ⟨Table.get?_nextId _, Nat.succ_ne_zero _,
        fun key hunique other hother => ?_, hkey⟩
      obtain ⟨task, htask, hsame⟩ := keyOf_some hother
      have htaken : w.db.keyTaken key := Database.keyTaken_iff.mpr ⟨other, task, htask, hsame⟩
      simp only [Database.admitsTask, Bool.and_eq_true] at hadmits
      have hfree := hadmits.1.1.1
      rw [hunique, Option.all_some, htaken] at hfree
      cases hfree
    · exact .inl ⟨task', htask', Steady.refl task'⟩
  · intro first second task task' hfirst hsecond hnoneFirst hnoneSecond
    change files.tasks.get? first = some task at hfirst
    change files.tasks.get? second = some task' at hsecond
    rw [hget] at hfirst hsecond
    split_ifs at hfirst with hfirstNew
    · split_ifs at hsecond with hsecondNew
      · exact hfirstNew.trans hsecondNew.symm
      · rw [hnoneSecond] at hsecond
        cases hsecond
    · rw [hnoneFirst] at hfirst
      cases hfirst
  · intro other task htask
    refine ⟨task, (hget other).trans ?_⟩
    rw [if_neg (Table.get?_lt_nextId htask).ne]
    exact htask
  · rfl

theorem Written.rows {invocation : TaskInvocation} {db db' : Database}
    (h : Written invocation db db') :
    (∀ id task', db'.tasks.get? id = some task' →
      ∃ task, db.tasks.get? id = some task ∧ Steady task task') ∧
    ∀ id task, db.tasks.get? id = some task → ∃ task', db'.tasks.get? id = some task' := by
  have hsame (id : ℕ) (task : Task) (htask : db.tasks.get? id = some task) :
      ∃ task', db.tasks.get? id = some task' ∧ Steady task' task := ⟨task, htask, Steady.refl task⟩
  cases h with
  | same => exact ⟨hsame, fun id task htask => ⟨task, htask⟩⟩
  | file fileId mark named => exact ⟨hsame, fun id task htask => ⟨task, htask⟩⟩
  | credential accountId refreshToken => exact ⟨hsame, fun id task htask => ⟨task, htask⟩⟩
  | task task mark stored fits =>
    have hget (id : ℕ) : (setTask db invocation.taskId mark.apply).tasks.get? id =
        (db.tasks.get? id).map fun row =>
          if id = invocation.taskId then mark.apply row else row := by
      unfold setTask
      rw [Table.get?_update]
      simp only [decide_eq_true_eq]
    constructor
    · intro id task' htask'
      rw [hget, Option.map_eq_some_iff] at htask'
      obtain ⟨before, hbefore, rfl⟩ := htask'
      refine ⟨before, hbefore, ?_⟩
      split_ifs with hid
      · subst hid
        rw [stored] at hbefore
        cases hbefore
        exact mark_steady fits
      · exact Steady.refl before
    · intro id before hbefore
      exact ⟨_, by rw [hget, hbefore, Option.map_some]⟩

theorem Worked.kept {invocation : TaskInvocation}
    (h : Worked (fun c c' => accepted c' = accepted c) invocation w w') :
    Kept accepted fileId w w' :=
  Kept.of_rows (Written.rows h.written).1 (Written.rows h.written).2 h.cloud

end Kept

/-! ## Modes -/

inductive Mode where
  | fresh
  /-- A request that has found no active transfer. -/
  | free
  /-- It has chosen the task to follow, and what that one knows of its save. -/
  | chosen (predecessorId : Option ℕ) (operationId : Option String)
  /-- An execution that was handed no operation id. -/
  | armed (taskId : ℕ)
  | settled
  deriving DecidableEq, Repr

def claimMode (db : Database) (taskId : ℕ) : Mode :=
  if operationOf db taskId = none then .armed taskId else .settled

def saveMode (taskId : ℕ) : Bool → Mode
  | false => .armed taskId
  | true => .settled

/-- The insert of a successor. -/
def Inserts {χ : Type} (fileId : ℕ) (predecessorId : Option ℕ) (operationId : Option String)
    (w w' : EngineWorld χ) : Prop :=
  ∃ (new : NewTask) (id : ℕ) (db files : Database),
    TaskRepository.createTask w.db w.clock new = .ok (id, db) ∧ files.tasks = db.tasks ∧
    w' = { w with db := files } ∧ isTransferOf fileId (new.row w.clock) ∧
    new.idempotencyKey = some (retryKey fileId (predecessorId.getD 0)) ∧
    new.providerOperationId = operationId

inductive Allowed {χ : Type} (accepted : χ → ℕ → ℕ) (fileId : ℕ) :
    Mode → EngineWorld χ → EngineWorld χ → Mode → Prop
  | kept (s : Mode) (w w' : EngineWorld χ) (step : Kept accepted fileId w w') :
      Allowed accepted fileId s w w' s
  | look (w : EngineWorld χ) (free : ∀ id, ¬ Active w.db fileId id) :
      Allowed accepted fileId .fresh w w .free
  | choose (w : EngineWorld χ) : Allowed accepted fileId .free w w
      (.chosen (lastId w.db fileId) ((lastEnded w.db fileId).bind fun row =>
        row.2.providerOperationId))
  | insert (predecessorId : Option ℕ) (operationId : Option String) (w w' : EngineWorld χ)
      (step : Inserts fileId predecessorId operationId w w') :
      Allowed accepted fileId (.chosen predecessorId operationId) w w' .settled
  | claim (taskId : ℕ) (w w' : EngineWorld χ) (task : Task)
      (stored : w.db.tasks.get? taskId = some task) (step : Kept accepted fileId w w') :
      Allowed accepted fileId .fresh w w' (claimMode w.db taskId)
  | accept (taskId : ℕ) (w w' : EngineWorld χ) (step : Accepts accepted taskId w w') :
      Allowed accepted fileId (.armed taskId) w w' .settled

/-! ## The invariant -/

/-- `old` are the tasks that are not known to be the end of the chain. -/
structure Chain (old : ℕ → Prop) (fileId : ℕ) (db : Database) : Prop where
  unique (id id' : ℕ) (key : String) : keyOf db id = some key → keyOf db id' = some key → id = id'
  positive : db.tasks.get? 0 = none
  stays (id : ℕ) : old id → ∃ task, db.tasks.get? id = some task
  single (id id' : ℕ) : Active db fileId id → Active db fileId id' → id = id'
  named (id : ℕ) : Active db fileId id → old id ∨ Succeeds db fileId id ((lastId db fileId).getD 0)
  follows (id predecessorId : ℕ) : Succeeds db fileId id predecessorId → predecessorId = 0 ∨
    ∃ predecessor, db.tasks.get? predecessorId = some predecessor ∧ predecessor.status.terminal ∧
      ∀ operationId, predecessor.providerOperationId = some operationId →
        operationOf db id = some operationId

/-- What the modes know. A request that has chosen a predecessor either still
sees the end of the chain or its key has been taken. -/
structure Lineage {χ : Type} (old : ℕ → Prop) (fileId : ℕ) (w : EngineWorld χ) (mode : ℕ → Mode) :
    Prop where
  chain : Chain old fileId w.db
  free (k : ℕ) : mode k = .free → ∀ id, old id → ¬ Active w.db fileId id
  settling (k : ℕ) (predecessorId : Option ℕ) (operationId : Option String) :
    mode k = .chosen predecessorId operationId → ∀ id, old id → ¬ Active w.db fileId id
  chosen (k id : ℕ) (operationId : Option String) : mode k = .chosen (some id) operationId →
    ∃ task, w.db.tasks.get? id = some task ∧ task.status.terminal ∧
      task.providerOperationId = operationId
  last (k : ℕ) (predecessorId : Option ℕ) (operationId : Option String) :
    mode k = .chosen predecessorId operationId →
    (∃ id, Succeeds w.db fileId id (predecessorId.getD 0)) ∨
      lastId w.db fileId = predecessorId ∧ ∀ id, ¬ Active w.db fileId id
  armed (k taskId : ℕ) : mode k = .armed taskId →
    (∃ task, w.db.tasks.get? taskId = some task) ∧
      ∀ ancestor, Descends w.db fileId taskId ancestor → operationOf w.db ancestor = none

section Steps
variable {χ δ : Type} {accepted : χ → ℕ → ℕ} {fileId : ℕ} {old : ℕ → Prop} {w w' : EngineWorld χ}
  {mode : ℕ → Mode}

/-- What a step must not do: an ended task keeps what it knows of its save, and
nobody but a retry adds a transfer of the file or uses a key of its chain. -/
structure Proper (fileId : ℕ) (w : EngineWorld χ) (happening : Happening ℕ EngineJob (EngineMove δ))
    (w' : EngineWorld χ) : Prop where
  frozen (id : ℕ) (task task' : Task) : w.db.tasks.get? id = some task → task.status.terminal →
    w'.db.tasks.get? id = some task' → task'.providerOperationId = task.providerOperationId
  unscanned (id : ℕ) (task' : Task) : w'.db.tasks.get? id = some task' →
    w.db.tasks.get? id = none → isTransferOf fileId task' →
    ∃ predecessorId, Succeeds w'.db fileId id predecessorId
  created (new : NewTask) : happening = .move (.create new) →
    ∀ predecessorId, new.idempotencyKey ≠ some (retryKey fileId predecessorId)

variable {happening : Happening ℕ EngineJob (EngineMove δ)}

theorem succeeds_apart {id predecessorId : ℕ} {task : Task}
    (hstored : w'.db.tasks.get? id = some task)
    (hforeign : Foreign w.db fileId id task) (h : Succeeds w'.db fileId id predecessorId) :
    False := by
  obtain ⟨row, hrow, hkey⟩ := keyOf_some h
  rw [hstored] at hrow
  cases hrow
  exact hforeign.apart predecessorId hkey

theorem Kept.active (hkept : Kept accepted fileId w w') (hproper : Proper fileId w happening w')
    {id : ℕ} (h : Active w'.db fileId id) : Active w.db fileId id := by
  obtain ⟨task', htask', htransfer, hactive⟩ := h
  rcases hkept.rows id task' htask' with ⟨task, htask, hsteady⟩ | hforeign
  · refine ⟨task, htask, hsteady.transferOf.mp htransfer, ?_⟩
    by_contra hended
    rw [hsteady.ended (by simpa using hended)] at hactive
    cases hactive
  · obtain ⟨predecessorId, hsucceeds⟩ := hproper.unscanned id task' htask' hforeign.fresh htransfer
    exact (succeeds_apart htask' hforeign hsucceeds).elim

/-- The row that was there before. -/
theorem Kept.before (hkept : Kept accepted fileId w w') {id : ℕ} {task task' : Task}
    (htask : w.db.tasks.get? id = some task) (htask' : w'.db.tasks.get? id = some task') :
    Steady task task' := by
  rcases hkept.rows id task' htask' with ⟨before, hbefore, hsteady⟩ | hforeign
  · rw [htask] at hbefore
    cases hbefore
    exact hsteady
  · rw [hforeign.fresh] at htask
    cases htask

/-- The predecessor of a retry is the same as long as no transfer ends. -/
theorem Kept.lastId (hkept : Kept accepted fileId w w') (hproper : Proper fileId w happening w')
    (hactive : ∀ id, Active w.db fileId id → Active w'.db fileId id) :
    lastId w'.db fileId = lastId w.db fileId := by
  apply lastId_congr
  intro id createdAt
  constructor
  · rintro ⟨task', htask', hended, hcreated⟩
    obtain ⟨htransfer, hterminal⟩ := isEndedTransfer_iff.mp hended
    rcases hkept.rows id task' htask' with ⟨task, htask, hsteady⟩ | hforeign
    · refine ⟨task, htask, isEndedTransfer_iff.mpr ⟨hsteady.transferOf.mp htransfer, ?_⟩,
        hsteady.createdAt.symm.trans hcreated⟩
      by_contra hnot
      obtain ⟨row, hrow, -, hrowActive⟩ :=
        hactive id ⟨task, htask, hsteady.transferOf.mp htransfer, by simpa using hnot⟩
      rw [htask'] at hrow
      cases hrow
      rw [hterminal] at hrowActive
      cases hrowActive
    · obtain ⟨predecessorId, hsucceeds⟩ :=
        hproper.unscanned id task' htask' hforeign.fresh htransfer
      exact (succeeds_apart htask' hforeign hsucceeds).elim
  · rintro ⟨task, htask, hended, hcreated⟩
    obtain ⟨htransfer, hterminal⟩ := isEndedTransfer_iff.mp hended
    obtain ⟨task', htask'⟩ := hkept.present id task htask
    have hsteady := hkept.before htask htask'
    exact ⟨task', htask', isEndedTransfer_iff.mpr ⟨hsteady.transferOf.mpr htransfer,
      hsteady.ended hterminal⟩, hsteady.createdAt.trans hcreated⟩

theorem Kept.succeeds (hkept : Kept accepted fileId w w') {id predecessorId : ℕ} :
    Succeeds w'.db fileId id predecessorId ↔ Succeeds w.db fileId id predecessorId := by
  constructor
  · intro h
    obtain ⟨task', htask', hkey⟩ := keyOf_some h
    rcases hkept.rows id task' htask' with ⟨task, htask, hsteady⟩ | hforeign
    · exact Option.bind_eq_some_iff.mpr ⟨task, htask, hsteady.key ▸ hkey⟩
    · exact (succeeds_apart htask' hforeign h).elim
  · intro h
    obtain ⟨task, htask, hkey⟩ := keyOf_some h
    obtain ⟨task', htask'⟩ := hkept.present id task htask
    exact Option.bind_eq_some_iff.mpr ⟨task', htask', (hkept.before htask htask').key.trans hkey⟩

theorem Kept.descends (hkept : Kept accepted fileId w w') {id ancestor : ℕ} :
    Descends w'.db fileId id ancestor ↔ Descends w.db fileId id ancestor := by
  constructor
  · exact Relation.TransGen.mono (fun _ _ hsucceeds => hkept.succeeds.mp hsucceeds) id ancestor
  · exact Relation.TransGen.mono (fun _ _ hsucceeds => hkept.succeeds.mpr hsucceeds) id ancestor

theorem Kept.keys (hkept : Kept accepted fileId w w') {id : ℕ} {key : String} {task' : Task}
    (htask' : w'.db.tasks.get? id = some task') (hkey : task'.idempotencyKey = some key) :
    keyOf w.db id = some key ∨ w.db.tasks.get? id = none ∧ ∀ other,
      keyOf w.db other ≠ some key := by
  rcases hkept.rows id task' htask' with ⟨task, htask, hsteady⟩ | hforeign
  · exact .inl (Option.bind_eq_some_iff.mpr ⟨task, htask, hsteady.key ▸ hkey⟩)
  · exact .inr ⟨hforeign.fresh, hforeign.unique key hkey⟩

/-- An operation id that is recorded stays recorded. -/
theorem Kept.recorded (hkept : Kept accepted fileId w w') {id : ℕ} {operationId : String}
    (h : operationOf w.db id = some operationId) : operationOf w'.db id = some operationId := by
  obtain ⟨task, htask, hrecorded⟩ := Option.bind_eq_some_iff.mp h
  obtain ⟨task', htask'⟩ := hkept.present id task htask
  exact Option.bind_eq_some_iff.mpr
    ⟨task', htask', (hkept.before htask htask').recorded _ hrecorded⟩

/-- An ended row and what it knows of its save. -/
theorem Kept.ended (hkept : Kept accepted fileId w w') (hproper : Proper fileId w happening w')
    {id : ℕ} {task : Task} (htask : w.db.tasks.get? id = some task)
    (hended : task.status.terminal) :
    ∃ task', w'.db.tasks.get? id = some task' ∧ task'.status.terminal ∧
      task'.providerOperationId = task.providerOperationId := by
  obtain ⟨task', htask'⟩ := hkept.present id task htask
  exact ⟨task', htask', (hkept.before htask htask').ended hended,
    hproper.frozen id task task' htask hended htask'⟩

theorem Chain.kept (h : Chain old fileId w.db) (hkept : Kept accepted fileId w w')
    (hproper : Proper fileId w happening w') : Chain old fileId w'.db where
  unique id id' key hid hid' := by
    obtain ⟨task, htask, hkey⟩ := keyOf_some hid
    obtain ⟨task', htask', hkey'⟩ := keyOf_some hid'
    rcases hkept.keys htask hkey with hbefore | ⟨hnone, hfree⟩
    · rcases hkept.keys htask' hkey' with hbefore' | ⟨-, hfree'⟩
      · exact h.unique id id' key hbefore hbefore'
      · exact absurd hbefore (hfree' id)
    · rcases hkept.keys htask' hkey' with hbefore' | ⟨hnone', -⟩
      · exact absurd hbefore' (hfree id')
      · exact hkept.alone id id' task task' htask htask' hnone hnone'
  positive := by
    cases hzero : w'.db.tasks.get? 0 with
    | none => rfl
    | some task =>
      rcases hkept.rows 0 task hzero with ⟨before, hbefore, -⟩ | hforeign
      · rw [h.positive] at hbefore
        cases hbefore
      · exact absurd rfl hforeign.positive
  stays id hid := by
    obtain ⟨task, htask⟩ := h.stays id hid
    exact hkept.present id task htask
  single id id' hid hid' := h.single id id' (hkept.active hproper hid) (hkept.active hproper hid')
  named id hid := by
    rcases h.named id (hkept.active hproper hid) with hold | hsucceeds
    · exact .inl hold
    · refine .inr ?_
      rw [hkept.lastId hproper fun other hother => ?_]
      · exact hkept.succeeds.mpr hsucceeds
      · rwa [h.single other id hother (hkept.active hproper hid)]
  follows id predecessorId hsucceeds := by
    rcases h.follows id predecessorId (hkept.succeeds.mp hsucceeds) with
      hzero | ⟨predecessor, hstored, hended, hcarried⟩
    · exact .inl hzero
    · obtain ⟨predecessor', hstored', hended', hsame⟩ := hkept.ended hproper hstored hended
      refine .inr ⟨predecessor', hstored', hended', fun operationId hrecorded => ?_⟩
      exact hkept.recorded (hcarried operationId (hsame ▸ hrecorded))

/-- Every task of the chain behind a retry has ended. -/
theorem Chain.ancestor (h : Chain old fileId w.db) {id ancestor : ℕ}
    (hdescends : Descends w.db fileId id ancestor) : ancestor = 0 ∨
      ∃ task, w.db.tasks.get? ancestor = some task ∧ task.status.terminal := by
  have hlast {a b : ℕ} (hsucceeds : Succeeds w.db fileId a b) : b = 0 ∨
      ∃ task, w.db.tasks.get? b = some task ∧ task.status.terminal := by
    rcases h.follows a b hsucceeds with hzero | ⟨task, hstored, hended, -⟩
    · exact .inl hzero
    · exact .inr ⟨task, hstored, hended⟩
  cases hdescends with
  | single hsucceeds => exact hlast hsucceeds
  | tail _ hsucceeds => exact hlast hsucceeds

theorem Chain.operation_zero (h : Chain old fileId w.db) : operationOf w.db 0 = none := by
  unfold operationOf
  rw [h.positive]
  rfl

/-- What a task of the chain has recorded, every later one has. -/
theorem Chain.carried (h : Chain old fileId w.db) {id ancestor : ℕ}
    (hdescends : Descends w.db fileId id ancestor) {operationId : String}
    (hrecorded : operationOf w.db ancestor = some operationId) :
    operationOf w.db id = some operationId := by
  have hstep {a b : ℕ} (hsucceeds : Succeeds w.db fileId a b)
      (hb : operationOf w.db b = some operationId) : operationOf w.db a = some operationId := by
    rcases h.follows a b hsucceeds with rfl | ⟨task, hstored, -, hcarried⟩
    · rw [h.operation_zero] at hb
      cases hb
    · obtain ⟨row, hrow, hoperation⟩ := Option.bind_eq_some_iff.mp hb
      rw [hstored] at hrow
      cases hrow
      exact hcarried operationId hoperation
  induction hdescends with
  | single hsucceeds => exact hstep hsucceeds hrecorded
  | tail _ hsucceeds ih => exact ih (hstep hsucceeds hrecorded)

theorem Lineage.kept (h : Lineage old fileId w mode) (hkept : Kept accepted fileId w w')
    (hproper : Proper fileId w happening w') : Lineage old fileId w' mode where
  chain := h.chain.kept hkept hproper
  free k hk id hid hactive := h.free k hk id hid (hkept.active hproper hactive)
  settling k predecessorId operationId hk id hid hactive :=
    h.settling k predecessorId operationId hk id hid (hkept.active hproper hactive)
  chosen k id operationId hk := by
    obtain ⟨task, hstored, hended, hsame⟩ := h.chosen k id operationId hk
    obtain ⟨task', hstored', hended', hsame'⟩ := hkept.ended hproper hstored hended
    exact ⟨task', hstored', hended', hsame'.trans hsame⟩
  last k predecessorId operationId hk := by
    rcases h.last k predecessorId operationId hk with ⟨id, hsucceeds⟩ | ⟨hlast, hnone⟩
    · exact .inl ⟨id, hkept.succeeds.mpr hsucceeds⟩
    · refine .inr ⟨?_, fun id hactive => hnone id (hkept.active hproper hactive)⟩
      rw [hkept.lastId hproper fun id hactive => absurd hactive (hnone id), hlast]
  armed k taskId hk := by
    obtain ⟨⟨task, htask⟩, hancestors⟩ := h.armed k taskId hk
    refine ⟨hkept.present taskId task htask, fun ancestor hdescends => ?_⟩
    have hbefore := hkept.descends.mp hdescends
    rcases h.chain.ancestor hbefore with rfl | ⟨row, hrow, hended⟩
    · exact (h.chain.kept hkept hproper).operation_zero
    · obtain ⟨row', hrow', -, hsame⟩ := hkept.ended hproper hrow hended
      have hnone := hancestors ancestor hbefore
      unfold operationOf at hnone ⊢
      rw [hrow] at hnone
      rw [hrow']
      exact hsame.trans hnone

end Steps

/-! ## Inserting a successor -/

section Insert
variable {χ δ : Type} {accepted : χ → ℕ → ℕ} {fileId : ℕ} {old : ℕ → Prop} {w w' : EngineWorld χ}
  {mode : ℕ → Mode}

/-- The row of a successor, beside the rows that were there. -/
structure Inserted (fileId : ℕ) (predecessorId : Option ℕ) (operationId : Option String)
    (db db' : Database) (task : Task) : Prop where
  get (id : ℕ) : db'.tasks.get? id =
    if id = db.tasks.nextId then some task else db.tasks.get? id
  transfer : isTransferOf fileId task
  active : task.status.terminal = false
  key : task.idempotencyKey = some (retryKey fileId (predecessorId.getD 0))
  operation : task.providerOperationId = operationId
  free (id : ℕ) : ¬ Succeeds db fileId id (predecessorId.getD 0)

theorem Inserts.inserted {predecessorId : Option ℕ} {operationId : Option String}
    (h : Inserts fileId predecessorId operationId w w') : w'.cloud = w.cloud ∧
      ∃ task, Inserted fileId predecessorId operationId w.db w'.db task := by
  obtain ⟨new, id, db, files, hcreated, hfiles, rfl, htransfer, hkey, hoperation⟩ := h
  obtain ⟨hadmits, -, rfl⟩ := createTask_ok hcreated
  refine ⟨rfl, new.row w.clock, fun other => ?_, htransfer, rfl, hkey, hoperation, ?_⟩
  · rw [hfiles, Table.get?_insert]
  · intro other hother
    obtain ⟨task, htask, hsame⟩ := keyOf_some hother
    have htaken := Database.keyTaken_iff.mpr ⟨other, task, htask, hsame⟩
    simp only [Database.admitsTask, Bool.and_eq_true] at hadmits
    have hnotTaken := hadmits.1.1.1
    have hrowKey : (new.row w.clock).idempotencyKey =
        some (retryKey fileId (predecessorId.getD 0)) := hkey
    rw [hrowKey, Option.all_some, htaken] at hnotTaken
    cases hnotTaken

namespace Inserted
variable {predecessorId : Option ℕ} {operationId : Option String} {db db' : Database} {task : Task}

theorem get_new (h : Inserted fileId predecessorId operationId db db' task) :
    db'.tasks.get? db.tasks.nextId = some task := by
  rw [h.get, if_pos rfl]

theorem get_old (h : Inserted fileId predecessorId operationId db db' task) {id : ℕ} {row : Task}
    (hrow : db.tasks.get? id = some row) : db'.tasks.get? id = some row := by
  rw [h.get, if_neg (Table.get?_lt_nextId hrow).ne, hrow]

theorem cases (h : Inserted fileId predecessorId operationId db db' task) {id : ℕ} {row : Task}
    (hrow : db'.tasks.get? id = some row) :
    (id = db.tasks.nextId ∧ row = task) ∨ db.tasks.get? id = some row := by
  rw [h.get] at hrow
  split_ifs at hrow with hid
  · exact .inl ⟨hid, (Option.some.inj hrow).symm⟩
  · exact .inr hrow

theorem succeeds_old (h : Inserted fileId predecessorId operationId db db' task) {id other : ℕ}
    (hsucceeds : Succeeds db fileId id other) : Succeeds db' fileId id other := by
  obtain ⟨row, hrow, hkey⟩ := keyOf_some hsucceeds
  exact Option.bind_eq_some_iff.mpr ⟨row, h.get_old hrow, hkey⟩

theorem succeeds_new (h : Inserted fileId predecessorId operationId db db' task) :
    Succeeds db' fileId db.tasks.nextId (predecessorId.getD 0) :=
  Option.bind_eq_some_iff.mpr ⟨task, h.get_new, h.key⟩

theorem succeeds_cases (h : Inserted fileId predecessorId operationId db db' task) {id other : ℕ}
    (hsucceeds : Succeeds db' fileId id other) :
    (id = db.tasks.nextId ∧ other = predecessorId.getD 0) ∨ Succeeds db fileId id other := by
  obtain ⟨row, hrow, hkey⟩ := keyOf_some hsucceeds
  rcases h.cases hrow with ⟨hid, rfl⟩ | hbefore
  · rw [h.key, Option.some.injEq] at hkey
    exact .inl ⟨hid, (retryKey_inj hkey).2.symm⟩
  · exact .inr (Option.bind_eq_some_iff.mpr ⟨row, hbefore, hkey⟩)

theorem operationOf_old (h : Inserted fileId predecessorId operationId db db' task) {id : ℕ}
    {row : Task} (hrow : db.tasks.get? id = some row) : operationOf db' id = operationOf db id := by
  unfold operationOf
  rw [hrow, h.get_old hrow]

theorem lastId_same (h : Inserted fileId predecessorId operationId db db' task) :
    lastId db' fileId = lastId db fileId := by
  apply lastId_congr
  intro id createdAt
  constructor
  · rintro ⟨row, hrow, hended, hcreated⟩
    rcases h.cases hrow with ⟨-, rfl⟩ | hbefore
    · have hterminal := (isEndedTransfer_iff.mp hended).2
      rw [h.active] at hterminal
      cases hterminal
    · exact ⟨row, hbefore, hended, hcreated⟩
  · rintro ⟨row, hrow, hended, hcreated⟩
    exact ⟨row, h.get_old hrow, hended, hcreated⟩

end Inserted

variable {k : ℕ} {predecessorId : Option ℕ} {operationId : Option String} {task : Task}

/-- The end of the chain that the request still sees. -/
theorem Lineage.sees (h : Lineage old fileId w mode)
    (hk : mode k = .chosen predecessorId operationId)
    (hinserted : Inserted fileId predecessorId operationId w.db w'.db task) :
    lastId w.db fileId = predecessorId ∧ ∀ id, ¬ Active w.db fileId id := by
  rcases h.last k predecessorId operationId hk with ⟨id, hsucceeds⟩ | hsees
  · exact absurd hsucceeds (hinserted.free id)
  · exact hsees

theorem Lineage.only_new (h : Lineage old fileId w mode)
    (hk : mode k = .chosen predecessorId operationId)
    (hinserted : Inserted fileId predecessorId operationId w.db w'.db task) {id : ℕ}
    (hactive : Active w'.db fileId id) : id = w.db.tasks.nextId := by
  obtain ⟨row, hrow, htransfer, hrunning⟩ := hactive
  rcases hinserted.cases hrow with ⟨hid, -⟩ | hbefore
  · exact hid
  · exact absurd ⟨row, hbefore, htransfer, hrunning⟩ ((h.sees hk hinserted).2 id)

theorem Lineage.chain_inserted (h : Lineage old fileId w mode)
    (hk : mode k = .chosen predecessorId operationId)
    (hinserted : Inserted fileId predecessorId operationId w.db w'.db task) :
    Chain old fileId w'.db where
  unique id id' key hid hid' := by
    obtain ⟨row, hrow, hkey⟩ := keyOf_some hid
    obtain ⟨row', hrow', hkey'⟩ := keyOf_some hid'
    have hfree {other : ℕ} {row : Task} (hstored : w.db.tasks.get? other = some row)
        (hsame : row.idempotencyKey = task.idempotencyKey) : False :=
      hinserted.free other (Option.bind_eq_some_iff.mpr ⟨row, hstored, hsame.trans hinserted.key⟩)
    rcases hinserted.cases hrow with ⟨hnew, hrowTask⟩ | hbefore
    · rcases hinserted.cases hrow' with ⟨hnew', -⟩ | hbefore'
      · exact hnew.trans hnew'.symm
      · exact (hfree hbefore' (hkey'.trans (hrowTask ▸ hkey).symm)).elim
    · rcases hinserted.cases hrow' with ⟨-, hrowTask'⟩ | hbefore'
      · exact (hfree hbefore (hkey.trans (hrowTask' ▸ hkey').symm)).elim
      · exact h.chain.unique id id' key (Option.bind_eq_some_iff.mpr ⟨row, hbefore, hkey⟩)
          (Option.bind_eq_some_iff.mpr ⟨row', hbefore', hkey'⟩)
  positive := by
    have hnew : (0 : ℕ) ≠ w.db.tasks.nextId := (Nat.succ_ne_zero _).symm
    rw [hinserted.get, if_neg hnew]
    exact h.chain.positive
  stays id hid := by
    obtain ⟨row, hrow⟩ := h.chain.stays id hid
    exact ⟨row, hinserted.get_old hrow⟩
  single id id' hid hid' := (h.only_new hk hinserted hid).trans (h.only_new hk hinserted hid').symm
  named id hid := by
    rw [h.only_new hk hinserted hid, hinserted.lastId_same, (h.sees hk hinserted).1]
    exact .inr hinserted.succeeds_new
  follows id other hsucceeds := by
    rcases hinserted.succeeds_cases hsucceeds with ⟨rfl, rfl⟩ | hbefore
    · cases predecessorId with
      | none => exact .inl rfl
      | some predecessor =>
        obtain ⟨row, hrow, hended, hsame⟩ := h.chosen k predecessor operationId hk
        refine .inr ⟨row, hinserted.get_old hrow, hended, fun recorded hrecorded => ?_⟩
        refine Option.bind_eq_some_iff.mpr ⟨task, hinserted.get_new, ?_⟩
        exact (hinserted.operation.trans hsame.symm).trans hrecorded
    · rcases h.chain.follows id other hbefore with hzero | ⟨row, hrow, hended, hcarried⟩
      · exact .inl hzero
      · obtain ⟨before, hstored, -⟩ := keyOf_some hbefore
        refine .inr ⟨row, hinserted.get_old hrow, hended, fun recorded hrecorded => ?_⟩
        rw [hinserted.operationOf_old hstored]
        exact hcarried recorded hrecorded

/-- Nobody who was there before descends from the new task. -/
theorem Lineage.descends_inserted (h : Lineage old fileId w mode)
    (hk : mode k = .chosen predecessorId operationId)
    (hinserted : Inserted fileId predecessorId operationId w.db w'.db task) {id ancestor : ℕ}
    {row : Task} (hrow : w.db.tasks.get? id = some row)
    (hdescends : Descends w'.db fileId id ancestor) : Descends w.db fileId id ancestor := by
  have hchain := h.chain_inserted hk hinserted
  induction hdescends using Relation.TransGen.head_induction_on generalizing row with
  | single hsucceeds =>
    rcases hinserted.succeeds_cases hsucceeds with ⟨rfl, -⟩ | hbefore
    · rw [Table.get?_nextId] at hrow
      cases hrow
    · exact .single hbefore
  | head hsucceeds hrest ih =>
    rcases hinserted.succeeds_cases hsucceeds with ⟨rfl, -⟩ | hbefore
    · rw [Table.get?_nextId] at hrow
      cases hrow
    · rcases h.chain.follows _ _ hbefore with rfl | ⟨next, hnext, -, -⟩
      · -- task 0 has no key
        have hzero {other : ℕ} (hsucceeds : Succeeds w'.db fileId 0 other) : False := by
          obtain ⟨stored, hstored, -⟩ := keyOf_some hsucceeds
          rw [hchain.positive] at hstored
          cases hstored
        obtain ⟨other, hfirst, -⟩ := Relation.TransGen.head'_iff.mp hrest
        exact (hzero hfirst).elim
      · exact .head hbefore (ih hnext)

theorem Lineage.inserts (h : Lineage old fileId w mode)
    (hk : mode k = .chosen predecessorId operationId)
    (hinserted : Inserted fileId predecessorId operationId w.db w'.db task) :
    Lineage old fileId w' (Function.update mode k .settled) := by
  have hsees := h.sees hk hinserted
  have hchain := h.chain_inserted hk hinserted
  have hmode {j : ℕ} {s : Mode} (hj : Function.update mode k .settled j = s) (hs : s ≠ .settled) :
      mode j = s := by
    by_cases hjk : j = k
    · rw [hjk, Function.update_self] at hj
      exact absurd hj.symm hs
    · rwa [Function.update_of_ne hjk] at hj
  have hidle (id : ℕ) (hid : old id) : ¬ Active w'.db fileId id := by
    intro hactive
    obtain ⟨row, hrow⟩ := h.chain.stays id hid
    rw [h.only_new hk hinserted hactive, Table.get?_nextId] at hrow
    cases hrow
  constructor
  · exact hchain
  · exact fun j hj => hidle
  · exact fun j other recorded hj => hidle
  · intro j id recorded hj
    obtain ⟨row, hrow, hended, hsame⟩ := h.chosen j id recorded (hmode hj (by simp))
    exact ⟨row, hinserted.get_old hrow, hended, hsame⟩
  · intro j other recorded hj
    rcases h.last j other recorded (hmode hj (by simp)) with ⟨id, hsucceeds⟩ | ⟨hlast, -⟩
    · exact .inl ⟨id, hinserted.succeeds_old hsucceeds⟩
    · rw [← hlast, hsees.1]
      exact .inl ⟨_, hinserted.succeeds_new⟩
  · intro j taskId hj
    obtain ⟨⟨row, hrow⟩, hancestors⟩ := h.armed j taskId (hmode hj (by simp))
    refine ⟨⟨row, hinserted.get_old hrow⟩, fun ancestor hdescends => ?_⟩
    have hbefore := h.descends_inserted hk hinserted hrow hdescends
    rcases h.chain.ancestor hbefore with rfl | ⟨stored, hstored, -⟩
    · exact hchain.operation_zero
    · rw [hinserted.operationOf_old hstored]
      exact hancestors ancestor hbefore

end Insert

/-! ## What the engine does to a chain -/

section Engine
variable {χ δ : Type} {accepted : χ → ℕ → ℕ} {fileId : ℕ} {old : ℕ → Prop} {w w' : EngineWorld χ}
  {mode : ℕ → Mode} {engine : Engine χ δ}

/-- What is relied on: providers work on the cloud only and accept a save at
most once, the other handlers leave the chain of the file alone and save
nothing. -/
structure Behaves (accepted : χ → ℕ → ℕ) (fileId : ℕ) (engine : Engine χ δ) : Prop where
  providers (taskId : ℕ) (account : CloudAccount) (drive : Option String)
    (provider : CloudDriveProvider (EngineWorld χ)) :
    (engine.context taskId).runtimeProvider account drive = .ok provider →
      SavesOnce accepted taskId provider
  others (taskType : String) (version : ℕ) (handler : TaskHandler χ) :
    engine.others taskType version = some handler → ∀ probe invocation,
      Within (fun w w' => w' = w) probe → Within (Kept accepted fileId) (handler probe invocation)
  progress (i : δ) (c : χ) : accepted (engine.progress i c) = accepted c

/-- What the mode says of the execution that has claimed a task. -/
def Holds (claimed : ClaimedExecution) (s : Mode) : Prop :=
  claimed.invocation.providerOperationId = none → s = .armed claimed.invocation.taskId

theorem handedOut_kept {runtime : WorkerRuntime} {now : Time} {token : String}
    {claimed : ClaimedExecution} {middle db' : Database} (hcarries : Carries w.db middle)
    (hout : HandedOut runtime now token claimed middle db') :
    Kept accepted fileId w { w with db := db' } := by
  obtain ⟨task, runId, htask, hclaimable, hstored, -⟩ := hout.row
  apply Kept.of_rows
  · intro id task' htask'
    change db'.tasks.get? id = some task' at htask'
    by_cases hid : id = claimed.invocation.taskId
    · subst hid
      rw [hstored] at htask'
      cases htask'
      obtain ⟨before, hbefore, hcarried⟩ := hcarries.rows _ task htask
      refine ⟨before, hbefore, ?_⟩
      have hsteady := Carried.steady hcarried
      refine ⟨hsteady.type, hsteady.fileId, hsteady.key, hsteady.createdAt, fun hended => ?_,
        hsteady.recorded⟩
      rw [TaskOwnership.not_claimable_of_terminal (hsteady.ended hended)] at hclaimable
      cases hclaimable
    · rw [hout.others id hid] at htask'
      obtain ⟨before, hbefore, hcarried⟩ := hcarries.rows id task' htask'
      exact ⟨before, hbefore, Carried.steady hcarried⟩
  · intro id before hbefore
    obtain ⟨task', htask'⟩ := hcarries.present id before hbefore
    by_cases hid : id = claimed.invocation.taskId
    · exact ⟨_, hid ▸ hstored⟩
    · exact ⟨task', (hout.others id hid).trans htask'⟩
  · rfl

theorem handedOut_allowed {runtime : WorkerRuntime} {now : Time} {token : String}
    {claimed : ClaimedExecution} {middle db' : Database} (hcarries : Carries w.db middle)
    (hout : HandedOut runtime now token claimed middle db') :
    ∃ s', Allowed accepted fileId .fresh w { w with db := db' } s' ∧ Holds claimed s' := by
  obtain ⟨task, runId, htask, -, -, hinvocation⟩ := hout.row
  obtain ⟨before, hbefore, -⟩ := hcarries.rows _ task htask
  refine ⟨_, Allowed.claim _ _ _ before hbefore (handedOut_kept hcarries hout), fun hnone => ?_⟩
  have hoperation : operationOf w.db claimed.invocation.taskId = none := by
    rw [← OneSave.Carries.operation hcarries]
    unfold operationOf
    rw [htask]
    rw [hinvocation] at hnone
    exact hnone
  exact if_pos hoperation

theorem submits_allowed (taskId : ℕ) (s : Bool) (w w' : EngineWorld χ) (s' : Bool)
    (h : Submits accepted taskId s w w' s') :
    Allowed accepted fileId (saveMode taskId s) w w' (saveMode taskId s') := by
  cases h with
  | other _ _ _ step => exact Allowed.kept _ w w' (OnCloud.kept step)
  | accept _ _ step => exact Allowed.accept taskId w w' step

theorem cycle_follows (h : Behaves accepted fileId engine) (job : Job) :
    Follows (Allowed accepted fileId) (fun _ _ => True)
      (runOnce job engine.handlers engine.className) .fresh := by
  apply runOnce_follows (P := Holds)
  · exact fun s w w' hengined => Allowed.kept s w w' (Engined.kept hengined)
  · exact fun now w claimed middle db' hcarries hout => handedOut_allowed hcarries hout
  · intro claimed s handler hholds hresolved
    have hlooks : Within (fun w w' => w' = w)
        (cancellationRequested job claimed : EngineProg χ Bool) :=
      cancellationRequested_within (R := fun w w' => w' = w) (fun _ => rfl) job claimed
    unfold Engine.handlers at hresolved
    split at hresolved
    · cases hresolved
      have hallowed (s : Mode) (w w' : EngineWorld χ)
          (hworked : Worked (fun c c' => accepted c' = accepted c) claimed.invocation w w') :
          Allowed accepted fileId s w w' s := Allowed.kept s w w' (Worked.kept hworked)
      have hprobe : Within (Worked (fun c c' => accepted c' = accepted c) claimed.invocation)
          (cancellationRequested job claimed : EngineProg χ Bool) := by
        apply hlooks.mono
        rintro w w' rfl
        exact ⟨.same, rfl, rfl, rfl⟩
      have hsame (c : χ) : accepted c = accepted c := rfl
      apply transferTaskHandler_follows hsame hallowed hprobe
      intro account drive provider hbuilt
      have hsaves := h.providers _ account drive provider hbuilt
      apply Works.of_starts hsame hallowed hprobe
      · exact Reads.mono hsaves.reads fun _ _ => Worked.of_onCloud
      · exact Asks.mono hsaves.asks fun _ _ => Worked.of_onCloud
      · intro hnone
        have hstarts := hsaves.starts
        rw [hholds hnone]
        cases hsaving : provider.saving with
        | direct saveSharedItem => trivial
        | resumable start query =>
          rw [hsaving] at hstarts
          intro share item target
          exact Follows.image (saveMode claimed.invocation.taskId) (hstarts share item target)
            (submits_allowed claimed.invocation.taskId)
    · apply Follows.within (h.others _ _ handler hresolved _ _ hlooks)
      · exact fun w w' hkept => Allowed.kept s w w' hkept
      · exact fun _ => trivial

/-- A retry of another file. -/
theorem retryOther_within {other : ℕ} (hother : other ≠ fileId) :
    Within (Kept accepted fileId) (retryFile other : RetryProg χ ℕ) := by
  have hlook {α : Type} {view : EngineWorld χ → Except RetryError α} :
      Within (Kept accepted fileId) (Prog.look .interrupted view) := Within.look Kept.refl
  unfold retryFile enqueueTransferRetry enqueueSuccessor
  apply Within.bind hlook
  intro file
  apply Within.bind hlook
  intro existing
  split
  · exact Within.pure _
  · apply Within.bind hlook
    intro predecessor
    apply Within.bind hlook
    intro subscription
    apply Within.effect
    intro w
    split
    · rename_i id db hcreated
      refine created_kept hcreated rfl fun predecessorId hkey => hother ?_
      exact (retryKey_inj (Option.some.inj hkey)).1
    · exact Kept.refl w

theorem activeTask_none {db : Database}
    (h : ScanEnqueue.activeTask db "transfer" none (some fileId) = none) (id : ℕ) :
    ¬ Active db fileId id := by
  rintro ⟨task, htask, ⟨htype, hfile⟩, hactive⟩
  have hmem : (id, task) ∈ db.tasks.select fun _ task => task.type = "transfer" &&
      !task.status.terminal && (Option.all (fun id => task.subscriptionId = some id) none) &&
      (Option.all (fun id => task.fileId = some id) (some fileId)) :=
    Table.mem_select.mpr ⟨htask, by simp [htype, hfile, hactive]⟩
  unfold ScanEnqueue.activeTask at h
  rw [List.argmax_eq_none] at h
  have hempty := List.not_mem_nil (a := (id, task))
  rw [← h] at hempty
  exact hempty hmem

theorem retryFile_follows :
    Follows (Allowed accepted fileId) (fun _ _ => True)
      (retryFile fileId : RetryProg χ ℕ) .fresh := by
  have hlook {α : Type} {view : EngineWorld χ → Except RetryError α} :
      Within (fun w w' => w' = w) (Prog.look .interrupted view) :=
    Within.look (R := fun w w' => w' = w) fun _ => rfl
  have hsame (s : Mode) (w w' : EngineWorld χ) (h : w' = w) : Allowed accepted fileId s w w' s := by
    subst h
    exact Allowed.kept s w' w' (Kept.refl w')
  unfold retryFile
  apply Follows.after hlook (hsame .fresh)
  · intro file
    unfold enqueueTransferRetry
    apply Follows.bind (P := fun r s => (∃ row, r = .ok (some row)) ∨ r = .ok none ∧ s = .free ∨
      ∃ e, r = .error e)
    · apply Follows.effect
      · exact .inr (.inr ⟨_, rfl⟩)
      · intro w
        cases hfound : ScanEnqueue.activeTask w.db "transfer" none (some fileId) with
        | some row => exact ⟨.fresh, hsame .fresh w w rfl, .inl ⟨row, congrArg Except.ok hfound⟩⟩
        | none =>
          exact ⟨.free, Allowed.look w (activeTask_none hfound),
            .inr (.inl ⟨congrArg Except.ok hfound, rfl⟩)⟩
      · exact fun w => ⟨.fresh, hsame .fresh w w rfl, .inr (.inr ⟨_, rfl⟩)⟩
    · intro existing s hmode
      cases existing with
      | some row => exact Follows.pure trivial
      | none =>
        have hs : s = .free := by
          rcases hmode with ⟨row, hrow⟩ | ⟨-, hfree⟩ | ⟨e, herror⟩
          · cases hrow
          · exact hfree
          · cases herror
        subst hs
        unfold enqueueSuccessor
        apply Follows.bind (P := fun r s => ∀ predecessor, r = .ok predecessor →
          s = .chosen (predecessor.map Prod.fst)
            (predecessor.bind fun row => row.2.providerOperationId))
        · apply Follows.effect
          · simp
          · intro w
            refine ⟨_, Allowed.choose w, fun predecessor hpredecessor => ?_⟩
            cases hpredecessor
            rfl
          · exact fun w => ⟨.free, hsame .free w w rfl, by simp⟩
        · intro predecessor s hs
          rw [hs predecessor rfl]
          apply Follows.after hlook (hsame _)
          · intro subscription
            have hinsert (w : EngineWorld χ) (id : ℕ) (db : Database)
                (hcreated : TaskRepository.createTask w.db w.clock
                  (successor fileId file subscription predecessor) = .ok (id, db)) :
                Allowed accepted fileId (.chosen (predecessor.map Prod.fst)
                  (predecessor.bind fun row => row.2.providerOperationId)) w
                  { w with db := setFile db fileId retried } .settled := by
              refine Allowed.insert _ _ w _
                ⟨_, id, db, setFile db fileId retried, hcreated, rfl, rfl, ⟨rfl, rfl⟩, ?_, rfl⟩
              cases predecessor <;> rfl
            apply Follows.effect
            · trivial
            · intro w
              split
              · rename_i id db hcreated
                exact ⟨.settled, hinsert w id db hcreated, trivial⟩
              · exact ⟨_, hsame _ w w rfl, trivial⟩
            · intro w
              split
              · rename_i id db hcreated
                exact ⟨.settled, hinsert w id db hcreated, trivial⟩
              · exact ⟨_, hsame _ w w rfl, trivial⟩
          · exact fun _ => trivial
        · exact fun _ _ _ => trivial
    · exact fun _ _ _ => trivial
  · exact fun _ => trivial

theorem program_follows (h : Behaves accepted fileId engine) (k : ℕ) (job : EngineJob) :
    Follows (Allowed accepted fileId) (fun _ _ => True) (engine.program k job) .fresh := by
  cases job with
  | cycle runtime blocked durationMs =>
    apply Follows.bind (P := fun _ _ => True)
    · exact Follows.attempt (cycle_follows h (engine.cycle k runtime blocked durationMs))
    · exact fun _ _ _ => Follows.pure trivial
    · exact fun _ _ _ => trivial
  | retry other =>
    apply Follows.bind (P := fun _ _ => True)
    · by_cases hother : other = fileId
      · rw [hother]
        exact Follows.attempt retryFile_follows
      · apply Follows.within (R := Kept accepted fileId) (retryOther_within hother).attempt
        · exact fun w w' hkept => Allowed.kept .fresh w w' hkept
        · exact fun _ => trivial
    · exact fun _ _ _ => Follows.pure trivial
    · exact fun _ _ _ => trivial

theorem move_kept (h : Behaves accepted fileId engine) (i : EngineMove δ)
    (hproper : Proper fileId w (.move i : Happening ℕ EngineJob (EngineMove δ)) (engine.move i w)) :
    Kept accepted fileId w (engine.move i w) := by
  cases i with
  | elapse time => exact Kept.of_tasks rfl rfl
  | progress i => exact Kept.of_tasks rfl (h.progress i w.cloud)
  | beat runtime claimed =>
    change Kept accepted fileId w (WorkerCycles.beat runtime claimed w)
    unfold WorkerCycles.beat
    split
    · rename_i db hbeat
      exact Carries.kept (heartbeat_carries hbeat) rfl
    · exact Kept.of_tasks rfl rfl
    · exact Kept.refl w
  | transition taskId expected target details =>
    change Kept accepted fileId w (requestCancel taskId expected target details w)
    unfold requestCancel
    split
    · rename_i db htransition
      exact Carries.kept (transition_carries htransition) rfl
    · exact Kept.refl w
  | create new =>
    change Kept accepted fileId w (Engine.createTask new w)
    unfold Engine.createTask
    split
    · rename_i id db hcreated
      exact created_kept hcreated rfl (hproper.created new rfl)
    · exact Kept.refl w

/-! ## One step -/

theorem Lineage.update (h : Lineage old fileId w mode) (k : ℕ) {s : Mode}
    (hidle : s = .free ∨ (∃ predecessorId operationId, s = .chosen predecessorId operationId) →
      ∀ id, old id → ¬ Active w.db fileId id)
    (hchosen : ∀ id operationId, s = .chosen (some id) operationId →
      ∃ task, w.db.tasks.get? id = some task ∧ task.status.terminal ∧
        task.providerOperationId = operationId)
    (hlast : ∀ predecessorId operationId, s = .chosen predecessorId operationId →
      (∃ id, Succeeds w.db fileId id (predecessorId.getD 0)) ∨
        lastId w.db fileId = predecessorId ∧ ∀ id, ¬ Active w.db fileId id)
    (harmed : ∀ taskId, s = .armed taskId → (∃ task, w.db.tasks.get? taskId = some task) ∧
      ∀ ancestor, Descends w.db fileId taskId ancestor → operationOf w.db ancestor = none) :
    Lineage old fileId w (Function.update mode k s) := by
  have hmode {j : ℕ} {t : Mode} (hj : Function.update mode k s j = t) : s = t ∨ mode j = t := by
    by_cases hjk : j = k
    · rw [hjk, Function.update_self] at hj
      exact .inl hj
    · rw [Function.update_of_ne hjk] at hj
      exact .inr hj
  constructor
  · exact h.chain
  · intro j hj
    rcases hmode hj with hs | hbefore
    · exact hidle (.inl hs)
    · exact h.free j hbefore
  · intro j predecessorId operationId hj
    rcases hmode hj with hs | hbefore
    · exact hidle (.inr ⟨_, _, hs⟩)
    · exact h.settling j _ _ hbefore
  · intro j id operationId hj
    rcases hmode hj with hs | hbefore
    · exact hchosen id operationId hs
    · exact h.chosen j id operationId hbefore
  · intro j predecessorId operationId hj
    rcases hmode hj with hs | hbefore
    · exact hlast predecessorId operationId hs
    · exact h.last j predecessorId operationId hbefore
  · intro j taskId hj
    rcases hmode hj with hs | hbefore
    · exact harmed taskId hs
    · exact h.armed j taskId hbefore

theorem Lineage.looks (h : Lineage old fileId w mode) (k : ℕ)
    (hnone : ∀ id, ¬ Active w.db fileId id) :
    Lineage old fileId w (Function.update mode k .free) :=
  h.update k (fun _ id _ => hnone id) (by simp) (by simp) (by simp)

theorem Lineage.chooses (h : Lineage old fileId w mode) {k : ℕ} (hk : mode k = .free) :
    Lineage old fileId w (Function.update mode k (.chosen (lastId w.db fileId)
      ((lastEnded w.db fileId).bind fun row => row.2.providerOperationId))) := by
  apply h.update k
  · exact fun _ => h.free k hk
  · intro id operationId hs
    obtain ⟨hlast, hoperation⟩ := Mode.chosen.inj hs
    obtain ⟨⟨other, task⟩, hended, hsame⟩ := Option.map_eq_some_iff.mp hlast
    cases hsame
    have hrow := lastEnded_some hended
    refine ⟨task, hrow.stored, (isEndedTransfer_iff.mp hrow.ended).2, ?_⟩
    rw [hended] at hoperation
    exact hoperation
  · intro predecessorId operationId hs
    obtain ⟨rfl, -⟩ := Mode.chosen.inj hs
    by_cases hactive : ∃ id, Active w.db fileId id
    · obtain ⟨id, hid⟩ := hactive
      rcases h.chain.named id hid with hold | hsucceeds
      · exact absurd hid (h.free k hk id hold)
      · exact .inl ⟨id, hsucceeds⟩
    · exact .inr ⟨rfl, fun id hid => hactive ⟨id, hid⟩⟩
  · simp

theorem Lineage.claims (h : Lineage old fileId w mode) (k : ℕ) {taskId : ℕ} {task : Task}
    (hstored : w.db.tasks.get? taskId = some task) :
    Lineage old fileId w (Function.update mode k (claimMode w.db taskId)) := by
  unfold claimMode
  split_ifs with hoperation
  · refine h.update k (by simp) (by simp) (by simp) fun other hother => ?_
    cases hother
    refine ⟨⟨task, hstored⟩, fun ancestor hdescends => ?_⟩
    cases hancestor : operationOf w.db ancestor with
    | none => rfl
    | some operationId =>
      rw [h.chain.carried hdescends hancestor] at hoperation
      cases hoperation
  · exact h.update k (by simp) (by simp) (by simp) (by simp)

theorem Lineage.allowed {happening : Happening ℕ EngineJob (EngineMove δ)}
    (h : Lineage old fileId w mode) {k : ℕ} {s' : Mode}
    (hstep : Allowed accepted fileId (mode k) w w' s') (hproper : Proper fileId w happening w') :
    Lineage old fileId w' (Function.update mode k s') := by
  generalize hs : mode k = s at hstep
  cases hstep with
  | kept _ _ _ hkept =>
    rw [← hs, Function.update_eq_self]
    exact h.kept hkept hproper
  | look _ hnone => exact h.looks k hnone
  | choose => exact h.chooses hs
  | insert predecessorId operationId _ _ hinserts =>
    obtain ⟨-, task, hinserted⟩ := hinserts.inserted
    exact h.inserts hs hinserted
  | claim taskId _ _ task hstored hkept => exact (h.claims k hstored).kept hkept hproper
  | accept taskId _ _ haccepts =>
    have hsettled : Lineage old fileId w (Function.update mode k .settled) :=
      h.update k (by simp) (by simp) (by simp) (by simp)
    rw [haccepts.only]
    exact ⟨hsettled.chain, hsettled.free, hsettled.settling, hsettled.chosen, hsettled.last,
      hsettled.armed⟩

theorem Lineage.turn (hbehaves : Behaves accepted fileId engine) (h : Lineage old fileId w mode)
    {happening : Happening ℕ EngineJob (EngineMove δ)} {mode' : ℕ → Mode}
    (hproper : Proper fileId w happening w')
    (hturn : Turn engine.system (fun _ => Allowed accepted fileId) w mode happening w' mode') :
    Lineage old fileId w' mode' := by
  cases hturn with
  | rest => exact h
  | act k _ s' hstep => exact h.allowed hstep hproper
  | late k _ s' hstep => exact h.allowed hstep hproper
  | stop k => exact h
  | move i => exact h.kept (move_kept hbehaves i hproper) hproper

/-! ## Runs -/

/-- Where a file is first looked at: no two tasks share a key, at most one of
its transfers is active, and none of its tasks is a retry. -/
structure Begun (fileId : ℕ) (db : Database) : Prop where
  unique (id id' : ℕ) (key : String) : keyOf db id = some key → keyOf db id' = some key → id = id'
  positive : db.tasks.get? 0 = none
  single (id id' : ℕ) : Active db fileId id → Active db fileId id' → id = id'
  first (id predecessorId : ℕ) : ¬ Succeeds db fileId id predecessorId

theorem Begun.lineage (h : Begun fileId w.db) :
    Lineage (fun id => ∃ task, w.db.tasks.get? id = some task) fileId w fun _ => .fresh where
  chain := {
    unique := h.unique
    positive := h.positive
    stays := fun _ hid => hid
    single := h.single
    named := fun id hid => by
      obtain ⟨task, htask, -⟩ := hid
      exact .inl ⟨task, htask⟩
    follows := fun id predecessorId hsucceeds => absurd hsucceeds (h.first id predecessorId) }
  free k hk := by cases hk
  settling k _ _ hk := by cases hk
  chosen k _ _ hk := by cases hk
  last k _ _ hk := by cases hk
  armed k _ hk := by cases hk

/-- The invariant of what comes after `middle`: whatever descends from the
ancestor is saved as often as it was then. -/
structure Carrying (old : ℕ → Prop) (fileId : ℕ) (accepted : χ → ℕ → ℕ) (middle : EngineWorld χ)
    (ancestor : ℕ) (operationId : String) (w : EngineWorld χ) (mode : ℕ → Mode) : Prop where
  lineage : Lineage old fileId w mode
  recorded : operationOf w.db ancestor = some operationId
  saves (id : ℕ) : w.db.tasks.get? id = none ∨ Descends w.db fileId id ancestor →
    accepted w.cloud id = accepted middle.cloud id

section Carrying
variable {middle : EngineWorld χ} {ancestor : ℕ} {operationId : String}

theorem Carrying.kept (h : Carrying old fileId accepted middle ancestor operationId w mode)
    (hkept : Kept accepted fileId w w') {mode' : ℕ → Mode}
    (hlineage : Lineage old fileId w' mode') :
    Carrying old fileId accepted middle ancestor operationId w' mode' where
  lineage := hlineage
  recorded := hkept.recorded h.recorded
  saves id hid := by
    rw [hkept.saves]
    apply h.saves
    rcases hid with hnone | hdescends
    · refine .inl ?_
      cases hget : w.db.tasks.get? id with
      | none => rfl
      | some task =>
        obtain ⟨task', htask'⟩ := hkept.present id task hget
        rw [hnone] at htask'
        cases htask'
    · exact .inr (hkept.descends.mp hdescends)

theorem Carrying.same (h : Carrying old fileId accepted middle ancestor operationId w mode)
    {mode' : ℕ → Mode} (hlineage : Lineage old fileId w mode') :
    Carrying old fileId accepted middle ancestor operationId w mode' :=
  ⟨hlineage, h.recorded, h.saves⟩

theorem Carrying.allowed {happening : Happening ℕ EngineJob (EngineMove δ)}
    (h : Carrying old fileId accepted middle ancestor operationId w mode) {k : ℕ} {s' : Mode}
    (hstep : Allowed accepted fileId (mode k) w w' s') (hproper : Proper fileId w happening w') :
    Carrying old fileId accepted middle ancestor operationId w' (Function.update mode k s') := by
  have hlineage := h.lineage.allowed hstep hproper
  generalize hs : mode k = s at hstep
  cases hstep with
  | kept _ _ _ hkept => exact h.kept hkept hlineage
  | look => exact h.same hlineage
  | choose => exact h.same hlineage
  | claim taskId _ _ task _ hkept => exact h.kept hkept hlineage
  | insert predecessorId recorded _ _ hinserts =>
    obtain ⟨hcloud, task, hinserted⟩ := hinserts.inserted
    refine ⟨hlineage, ?_, fun id hid => ?_⟩
    · obtain ⟨row, hrow, -⟩ := Option.bind_eq_some_iff.mp h.recorded
      rw [hinserted.operationOf_old hrow]
      exact h.recorded
    · rw [hcloud]
      apply h.saves
      cases hget : w.db.tasks.get? id with
      | none => exact .inl rfl
      | some row =>
        rcases hid with hnone | hdescends
        · rw [hinserted.get_old hget] at hnone
          cases hnone
        · exact .inr (h.lineage.descends_inserted hs hinserted hget hdescends)
  | accept taskId _ _ haccepts =>
    have hdb : w'.db = w.db := by rw [haccepts.only]
    obtain ⟨⟨task, htask⟩, hancestors⟩ := h.lineage.armed k taskId hs
    refine ⟨hlineage, hdb ▸ h.recorded, fun id hid => ?_⟩
    rw [hdb] at hid
    have hother : id ≠ taskId := by
      rintro rfl
      rcases hid with hnone | hdescends
      · rw [htask] at hnone
        cases hnone
      · have hrecorded := h.recorded
        rw [hancestors ancestor hdescends] at hrecorded
        cases hrecorded
    rw [haccepts.saves, Function.update_of_ne hother]
    exact h.saves id hid

theorem Carrying.turn (hbehaves : Behaves accepted fileId engine)
    (h : Carrying old fileId accepted middle ancestor operationId w mode)
    {happening : Happening ℕ EngineJob (EngineMove δ)} {mode' : ℕ → Mode}
    (hproper : Proper fileId w happening w')
    (hturn : Turn engine.system (fun _ => Allowed accepted fileId) w mode happening w' mode') :
    Carrying old fileId accepted middle ancestor operationId w' mode' := by
  cases hturn with
  | rest => exact h
  | act k _ s' hstep => exact h.allowed hstep hproper
  | late k _ s' hstep => exact h.allowed hstep hproper
  | stop k => exact h
  | move i =>
    have hkept := move_kept hbehaves i hproper
    exact h.kept hkept (h.lineage.kept hkept hproper)

end Carrying

/-- The condition of a run. -/
def ProperRun (fileId : ℕ) (engine : Engine χ δ)
    (happenings : List (Happening ℕ EngineJob (EngineMove δ)))
    (pool : Pool ℕ (EngineWorld χ) Unit JobEnd) : Prop :=
  Pool.Along engine.system (fun pool happening =>
    Proper fileId pool.state happening (pool.step engine.system happening).state) happenings pool

/-- However retries of a file and executions of its transfers interleave: no
task is followed by two retries, one transfer at most is active, and once an
operation id is recorded every later task of the lineage has it and submits no
save. -/
theorem retry_lineage (hbehaves : Behaves accepted fileId engine) (hbegun : Begun fileId w.db)
    (before after : List (Happening ℕ EngineJob (EngineMove δ)))
    (hbefore : ProperRun fileId engine before (Pool.initial w))
    (hafter : ProperRun fileId engine after ((Pool.initial w).run engine.system before)) :
    let middle := ((Pool.initial w).run engine.system before).state
    let final := (((Pool.initial w).run engine.system before).run engine.system after).state
    (∀ id id' predecessorId, Succeeds final.db fileId id predecessorId →
      Succeeds final.db fileId id' predecessorId → id = id') ∧
    (∀ id id', Active final.db fileId id → Active final.db fileId id' → id = id') ∧
    ∀ id ancestor operationId, Descends final.db fileId id ancestor →
      operationOf middle.db ancestor = some operationId →
      operationOf final.db id = some operationId ∧
        accepted final.cloud id = accepted middle.cloud id := by
  intro middle final
  obtain ⟨mode, hlineage, htracked⟩ := Tracked.run (fun k job => program_follows hbehaves k job)
    (fun w mode happening w' mode' h hC hturn => h.turn hbehaves hC hturn) before
    (Tracked.initial _ _ w) hbegun.lineage hbefore
  obtain ⟨mode', hlineage', -⟩ := Tracked.run (fun k job => program_follows hbehaves k job)
    (fun w mode happening w' mode' h hC hturn => h.turn hbehaves hC hturn) after htracked hlineage
    hafter
  refine ⟨fun id id' predecessorId hid hid' => hlineage'.chain.unique id id' _ hid hid',
    hlineage'.chain.single, fun id ancestor operationId hdescends hrecorded => ?_⟩
  obtain ⟨mode'', hcarrying, -⟩ := Tracked.run (fun k job => program_follows hbehaves k job)
    (fun w mode happening w' mode' h hC hturn => h.turn hbehaves hC hturn) after htracked
    (⟨hlineage, hrecorded, fun _ _ => rfl⟩ :
      Carrying _ fileId accepted middle ancestor operationId middle mode) hafter
  exact ⟨hcarrying.lineage.chain.carried hdescends hcarrying.recorded,
    hcarrying.saves id (.inr hdescends)⟩

end Engine

/-! ## A sample file -/

/-- One task whose key is its own. -/
theorem begun_single {db : Database} {row : Task} (htasks : db.tasks = Table.insert .empty row)
    (hkey : row.idempotencyKey = none) (fileId : ℕ) : Begun fileId db := by
  have hget (id : ℕ) (task : Task) (h : db.tasks.get? id = some task) : id = 1 ∧ task = row := by
    rw [htasks, Table.get?_insert] at h
    split_ifs at h with hid
    · cases h
      exact ⟨hid, rfl⟩
    · cases h
  have hnone (id : ℕ) (key : String) : keyOf db id ≠ some key := by
    intro h
    obtain ⟨task, htask, hsame⟩ := keyOf_some h
    rw [(hget id task htask).2, hkey] at hsame
    cases hsame
  constructor
  · exact fun id _ key hid => absurd hid (hnone id key)
  · cases hzero : db.tasks.get? 0 with
    | none => rfl
    | some task =>
      have hid := (hget 0 task hzero).1
      contradiction
  · rintro id id' ⟨task, htask, -⟩ ⟨task', htask', -⟩
    exact (hget id task htask).1.trans (hget id' task' htask').1.symm
  · exact fun id predecessorId => hnone id _

theorem slowEngine_keeps (fileId : ℕ) : Behaves listed fileId slowEngine where
  providers := slowEngine_behaves.providers
  others _ _ _ hresolved := by cases hresolved
  progress i := i.elim

/-- A transfer that must not fail once more. -/
def lastAttempt : EngineWorld (List ℕ) :=
  { sampleStart with db := { sampleStart.db with
      tasks := Table.insert .empty { sampleTransfer.row 0 with retryCount := 3 } } }

/-- A save is accepted, the worker stalls, its task fails and is retried. -/
def stalledRun : List (Happening ℕ EngineJob (EngineMove Empty)) :=
  (.start 0 sampleCycle :: acts 0 10) ++ [.move (.elapse 61000000), .start 1 sampleCycle] ++
    acts 1 2 ++ (.start 2 (.retry 1) :: acts 2 5) ++ acts 0 1

def retriedCycle : List (Happening ℕ EngineJob (EngineMove Empty)) :=
  .start 3 sampleCycle :: acts 3 10

/-- The stalled worker records its save in the ended task, past the retry, which
saves again. -/
theorem recorded_too_late :
    let middle := ((Pool.initial lastAttempt).run slowEngine.system stalledRun).state
    let final :=
      ((Pool.initial lastAttempt).run slowEngine.system (stalledRun ++ retriedCycle)).state
    Behaves listed 1 slowEngine ∧ Begun 1 lastAttempt.db ∧ Descends final.db 1 2 1 ∧
      operationOf middle.db 1 = some "operation" ∧ operationOf final.db 2 = none ∧
      listed middle.cloud 2 = 0 ∧ listed final.cloud 2 = 1 := by
  refine ⟨slowEngine_keeps 1, begun_single rfl rfl 1, Relation.TransGen.single ?_, ?_⟩
  · unfold Succeeds
    decide +kernel
  · decide +kernel

/-- A cycle that records its save and waits for it, the task is cancelled and
the file is retried. -/
def cancelledRun : List (Happening ℕ EngineJob (EngineMove Empty)) :=
  savingRun ++ acts 0 8 ++ [.move (.transition 1 .retry .cancelled {}), .start 1 (.retry 1)] ++
    acts 1 5 ++ (.start 2 sampleCycle :: acts 2 20)

def creates : Happening ℕ EngineJob (EngineMove Empty) → Bool
  | .move (.create _) => true
  | _ => false

/-- A check of one happening: ended tasks keep what they know, and a new task
retries the first one. -/
def uneventful (w w' : EngineWorld (List ℕ)) : Bool :=
  (w.db.tasks.rows.all fun row => !row.2.status.terminal ||
    w'.db.tasks.rows.all fun row' => row'.1 ≠ row.1 ||
      row'.2.providerOperationId = row.2.providerOperationId) &&
    w'.db.tasks.rows.all fun row => (w.db.tasks.get? row.1).isSome ||
      row.2.idempotencyKey = some (retryKey 1 1)

def allUneventful : List (Happening ℕ EngineJob (EngineMove Empty)) →
    Pool ℕ (EngineWorld (List ℕ)) Unit JobEnd → Bool
  | [], _ => true
  | happening :: rest, pool =>
    let next := pool.step slowEngine.system happening
    !creates happening && uneventful pool.state next.state && allUneventful rest next

theorem proper_of_uneventful {w w' : EngineWorld (List ℕ)}
    {happening : Happening ℕ EngineJob (EngineMove Empty)} (hcreates : creates happening = false)
    (h : uneventful w w') : Proper 1 w happening w' := by
  unfold uneventful at h
  rw [Bool.and_eq_true, List.all_eq_true, List.all_eq_true] at h
  obtain ⟨hkept, hnew⟩ := h
  constructor
  · intro id task task' htask hended htask'
    have hrow := hkept (id, task) (Table.mem_iff_get?.mpr htask)
    rw [hended, Bool.not_true, Bool.false_or, List.all_eq_true] at hrow
    have hrow' := hrow (id, task') (Table.mem_iff_get?.mpr htask')
    simpa using hrow'
  · intro id task' htask' hnone _
    have hrow := hnew (id, task') (Table.mem_iff_get?.mpr htask')
    rw [hnone, Option.isSome_none, Bool.false_or, decide_eq_true_eq] at hrow
    exact ⟨1, Option.bind_eq_some_iff.mpr ⟨task', htask', hrow⟩⟩
  · intro new hnew
    rw [hnew] at hcreates
    cases hcreates

theorem proper_of_allUneventful (happenings : List (Happening ℕ EngineJob (EngineMove Empty)))
    {pool : Pool ℕ (EngineWorld (List ℕ)) Unit JobEnd} (h : allUneventful happenings pool) :
    ProperRun 1 slowEngine happenings pool := by
  induction happenings generalizing pool with
  | nil => trivial
  | cons happening rest ih =>
    unfold allUneventful at h
    rw [Bool.and_eq_true, Bool.and_eq_true, Bool.not_eq_true'] at h
    exact ⟨proper_of_uneventful h.1.1 h.1.2, ih h.2⟩

theorem cancelledRun_carries :
    let middle := ((Pool.initial sampleStart).run slowEngine.system savingRun).state
    let final := (((Pool.initial sampleStart).run slowEngine.system savingRun).run slowEngine.system
      (cancelledRun.drop savingRun.length)).state
    Descends final.db 1 2 1 ∧ operationOf final.db 2 = some "operation" ∧
      listed final.cloud 2 = listed middle.cloud 2 := by
  intro middle final
  have hdescends : Descends final.db 1 2 1 := by
    apply Relation.TransGen.single
    unfold Succeeds
    decide +kernel
  refine ⟨hdescends, ?_⟩
  have hlineage := retry_lineage (slowEngine_keeps 1)
    (begun_single rfl rfl 1 : Begun 1 sampleStart.db)
    savingRun (cancelledRun.drop savingRun.length)
    (proper_of_allUneventful _ (by decide +kernel)) (proper_of_allUneventful _ (by decide +kernel))
  exact hlineage.2.2 2 1 "operation" hdescends (by decide +kernel)

end MediaSync.RetryLineage
