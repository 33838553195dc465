import MediaSync.ScanSlots

/-!
# Cycles of the scheduler

A cycle reads the subscriptions that are due, and goes through them: one that
has an active scan is moved to its next slot, and for another one a scan is
inserted under the slot that was due. The first insert takes the write lock, so
everything that others do in between they have done before it.

What a cycle has done is told by its effects: the second one reads the batch,
and a subscription that gets no new scan had an active one when a later effect
looked.
-/
namespace MediaSync.ScheduledCycles
open FaultPrograms TracedRuns QuietRuns CalmRuns SharedStore Shared JsonValues RowTables TaskTables
open TaskRepository
open TaskOwnership SingleScan ScanSchedules ScanSlots
open ScanEnqueue hiding Move

/-! ## Others at work -/

/-- Moves that are not a worker's if `K`. -/
abbrev Limited (K : Prop) := {move : Move // K → works move = false}

section Moves
variable {w : World} (move : Move)

theorem move_open (hdraft : w.draft = none) : Surroundings.move move w =
    { committed := move.transaction w.outside.now w.committed, draft := none,
      outside := move.beside w.outside } := by
  obtain ⟨committed, draft, outside⟩ := w
  cases hdraft
  rfl

/-- While the lock is held nobody else writes. -/
theorem move_held {held : ℕ × Database} (hdraft : w.draft = some held) :
    Surroundings.move move w = { w with outside := move.beside w.outside } := by
  obtain ⟨committed, draft, outside⟩ := w
  cases hdraft
  rfl

theorem beside_now (beside : Beside) : beside.now ≤ (move.beside beside).now := by
  cases move with
  | tick elapsed => exact le_add_of_nonneg_right (Int.natCast_nonneg elapsed)
  | _ => exact le_rfl

theorem beside_found (beside : Beside) : (move.beside beside).found = beside.found := by
  cases move <;> rfl

end Moves

section Cycles
variable {K : Prop} {cooldown : ℤ} {k : ℕ} {w w' w₁ : World} {past : List (World × World)}

/-- What every cycle leaves, however it ended. -/
structure Left (cooldown : ℤ) (k : ℕ) (w : World) : Prop where
  tidy : Tidy cooldown w.committed w.outside.now
  own (j : ℕ) (d : Database) : w.draft = some (j, d) → j = k
  found (j : ℕ) : j ≠ k → w.outside.found j = []

/-- A cycle is at work that began at `clock`. -/
structure During (cooldown : ℤ) (k : ℕ) (clock : Time) (w : World) : Prop where
  tidy : Tidy cooldown w.committed clock
  begun : clock ≤ w.outside.now
  drafted (j : ℕ) (d : Database) : w.draft = some (j, d) → j = k ∧ Tidy cooldown d clock
  found (j : ℕ) : j ≠ k → w.outside.found j = []

variable {clock : Time}

theorem During.left (h : During cooldown k clock w) : Left cooldown k w :=
  ⟨h.tidy.mono h.begun, fun j d hdraft => (h.drafted j d hdraft).1, h.found⟩

theorem During.view (h : During cooldown k clock w) : Tidy cooldown (w.view k) clock := by
  unfold Shared.view
  split
  · exact h.tidy
  · rename_i j d hdraft
    obtain ⟨rfl, htidy⟩ := h.drafted j d hdraft
    rw [if_pos rfl]
    exact htidy

theorem During.unlocked (h : During cooldown k clock w) : w.locked k = false := by
  unfold Shared.locked
  cases hdraft : w.draft with
  | none => rfl
  | some held =>
    have hown := (h.drafted held.1 held.2 hdraft).1
    simp [hown]

theorem During.move (h : During cooldown k clock w) (move : Move) :
    During cooldown k clock (Surroundings.move move w) := by
  have hbegun := h.begun.trans (beside_now move w.outside)
  have hfound : ∀ j, j ≠ k → (move.beside w.outside).found j = [] := by
    rw [beside_found]
    exact h.found
  cases hdraft : w.draft with
  | none =>
    rw [move_open move hdraft]
    exact ⟨(h.tidy.transaction h.begun move).1, hbegun, (fun _ _ h => nomatch h), hfound⟩
  | some held =>
    rw [move_held move hdraft]
    exact ⟨h.tidy, hbegun, h.drafted, hfound⟩

theorem Left.move (h : Left cooldown k w) (move : Move) :
    Left cooldown k (Surroundings.move move w) := by
  have hfound : ∀ j, j ≠ k → (move.beside w.outside).found j = [] := by
    rw [beside_found]
    exact h.found
  cases hdraft : w.draft with
  | none =>
    rw [move_open move hdraft]
    exact ⟨(h.tidy.transaction le_rfl move).1.mono (beside_now move w.outside),
      (fun _ _ h => nomatch h), hfound⟩
  | some held =>
    rw [move_held move hdraft]
    exact ⟨h.tidy.mono (beside_now move w.outside), h.own, hfound⟩

/-! ## The batch -/

/-- A due subscription that the cycle has not come to. -/
structure Ready (cooldown : ℤ) (clock : Time) (db : Database) (row : ℕ × Subscription) : Prop where
  slot : ∃ dueAt, row.2.nextScanAt = some dueAt ∧ dueAt ≤ clock ∧
    db.keyTaken (slotKey cooldown row.1 dueAt) = false
  schedule : ∃ delta, parseSchedule row.2.schedule = .ok delta
  present : (db.subscriptions.get? row.1).isSome
  account : (db.accounts.get? row.2.cloudAccountId).isSome

/-- A scan of the subscription under the slot that was due. -/
def SlotScan (cooldown : ℤ) (db : Database) (row : ℕ × Subscription) (id : ℕ) : Prop :=
  ∃ task dueAt, db.tasks.get? id = some task ∧ isActiveScan row.1 task = true ∧
    row.2.nextScanAt = some dueAt ∧ task.idempotencyKey = some (slotKey cooldown row.1 dueAt)

/-- A subscription has one new scan, or one that was active before one of the
effects `past` of the cycle; if no worker did anything since, that one is still
active. -/
def Served (K : Prop) (cooldown : ℤ) (past : List (World × World)) (taskIds : List ℕ)
    (db : Database) (row : ℕ × Subscription) : Prop :=
  (∃ id ∈ taskIds, SlotScan cooldown db row id ∧
    ∀ other ∈ taskIds, ActiveScan db row.1 other → other = id) ∨
  ∃ step ∈ past, ∃ id, ActiveScan step.1.committed row.1 id ∧ (K → ActiveScan db row.1 id)

/-- The slot that a row was moved to is written. -/
def Advanced (clock : Time) (db : Database) (s : ℕ) : Prop :=
  ∃ subscription next, db.subscriptions.get? s = some subscription ∧
    subscription.nextScanAt = some next ∧ clock < next

/-- Between two rows of the batch: `w₁` is the world that the batch was read
from, `past` are the effects since, and `moved` the slots that are not flushed
yet. -/
structure Cycling (K : Prop) (cooldown : ℤ) (k : ℕ) (w₁ : World) (past : List (World × World))
    (done todo : List (ℕ × Subscription)) (moved : List (ℕ × Time)) (taskIds : List ℕ)
    (w : World) : Prop where
  during : During cooldown k w₁.outside.now w
  distinct : ((done ++ todo).map Prod.fst).Nodup
  ready : ∀ row ∈ todo, Ready cooldown w₁.outside.now (w.view k) row
  rows : ∀ row ∈ done, ((w.view k).subscriptions.get? row.1).isSome
  ahead (s : ℕ) (next : Time) : moved.lookup s = some next → w₁.outside.now < next
  advanced : ∀ row ∈ done, (moved.lookup row.1).isSome ∨
    ∃ d, w.draft = some (k, d) ∧ Advanced w₁.outside.now d row.1
  served : ∀ row ∈ done, Served K cooldown past taskIds (w.view k) row
  /-- Active scans that only the session sees are those it has inserted. -/
  scans (s id : ℕ) : ActiveScan (w.view k) s id →
    ActiveScan w.committed s id ∨ s ∈ done.map Prod.fst
  created : ∀ id ∈ taskIds, ∃ d, w.draft = some (k, d) ∧
    ∃ task, ∃ row ∈ done, d.tasks.get? id = some task ∧ task.subscriptionId = some row.1

variable {done todo : List (ℕ × Subscription)} {moved : List (ℕ × Time)} {taskIds : List ℕ}

theorem Ready.kept {db db' : Database} {row : ℕ × Subscription} (h : Ready cooldown clock db row)
    (hkept : Kept cooldown db db') : Ready cooldown clock db' row := by
  obtain ⟨dueAt, hslot, hle, hfree⟩ := h.slot
  refine ⟨⟨dueAt, hslot, hle, ?_⟩, h.schedule, hkept.rows _ h.present,
    hkept.accounts _ h.account⟩
  rw [Bool.eq_false_iff] at hfree ⊢
  exact fun htaken => hfree (hkept.keys _ _ htaken)

theorem view_held {d : Database} (hdraft : w.draft = some (k, d)) : w.view k = d := by
  unfold Shared.view
  rw [hdraft]
  exact if_pos rfl

theorem Cycling.move (h : Cycling K cooldown k w₁ past done todo moved taskIds w)
    (move : Limited K) :
    Cycling K cooldown k w₁ past done todo moved taskIds (Surroundings.move move w) := by
  change Cycling K cooldown k w₁ past done todo moved taskIds (Surroundings.move move.1 w)
  have hduring := h.during.move move.1
  cases hdraft : w.draft with
  | none =>
    have hview : w.view k = w.committed := view_of_unlocked hdraft
    obtain ⟨-, hkept⟩ := h.during.tidy.transaction h.during.begun move.1
    have hheld {P : Database → Prop} : ¬ ∃ d, w.draft = some (k, d) ∧ P d := by
      rintro ⟨d, hd, -⟩
      rw [hdraft] at hd
      cases hd
    have hnone : taskIds = [] := List.eq_nil_iff_forall_not_mem.mpr fun id hid =>
      hheld (h.created id hid)
    rw [move_open move.1 hdraft] at hduring ⊢
    refine ⟨hduring, h.distinct, fun row hrow => ?_, fun row hrow => ?_, h.ahead,
      fun row hrow => .inl ((h.advanced row hrow).resolve_right hheld), fun row hrow => ?_,
      fun s id hactive => .inl hactive, fun id hid => absurd (h.created id hid) hheld⟩
    · exact (hview ▸ h.ready row hrow).kept hkept
    · exact hkept.rows _ (hview ▸ h.rows row hrow)
    · rcases h.served row hrow with ⟨id, hid, -⟩ | ⟨step, hstep, id, hactive, hstill⟩
      · rw [hnone] at hid
        cases hid
      · exact .inr ⟨step, hstep, id, hactive, fun hK =>
          transaction_active (move.2 hK) (hview ▸ hstill hK)⟩
  | some held =>
    rw [move_held move.1 hdraft] at hduring ⊢
    exact ⟨hduring, h.distinct, h.ready, h.rows, h.ahead, h.advanced, h.served, h.scans,
      h.created⟩

/-- An effect has happened. -/
theorem Cycling.later (h : Cycling K cooldown k w₁ past done todo moved taskIds w)
    (steps : List (World × World)) :
    Cycling K cooldown k w₁ (past ++ steps) done todo moved taskIds w := by
  refine ⟨h.during, h.distinct, h.ready, h.rows, h.ahead, h.advanced, fun row hrow => ?_, h.scans,
    h.created⟩
  refine (h.served row hrow).imp_right ?_
  rintro ⟨step, hstep, hlooked⟩
  exact ⟨step, List.mem_append_left _ hstep, hlooked⟩

/-- What a session has found is noted beside the database. -/
theorem Cycling.note (h : Cycling K cooldown k w₁ past done todo moved taskIds w) {beside : Beside}
    (hnow : beside.now = w.outside.now) (hfound : ∀ j ≠ k, beside.found j = w.outside.found j) :
    Cycling K cooldown k w₁ past done todo moved taskIds { w with outside := beside } := by
  refine ⟨⟨h.during.tidy, ?_, h.during.drafted, fun j hj => ?_⟩, h.distinct, h.ready, h.rows,
    h.ahead, h.advanced, h.served, h.scans, h.created⟩
  · rw [hnow]
    exact h.during.begun
  · rw [hfound j hj]
    exact h.during.found j hj

theorem Cycling.fresh {row : ℕ × Subscription}
    (h : Cycling K cooldown k w₁ past done (row :: todo) moved taskIds w) :
    (∀ other ∈ done, other.1 ≠ row.1) ∧ ∀ other ∈ todo, other.1 ≠ row.1 := by
  have hdistinct := h.distinct
  rw [List.map_append, List.map_cons, List.nodup_append, List.nodup_cons] at hdistinct
  obtain ⟨-, ⟨hrow, -⟩, hapart⟩ := hdistinct
  constructor
  · intro other hother
    exact hapart other.1 (List.mem_map_of_mem hother) row.1 (List.mem_cons_self ..)
  · intro other hother heq
    exact hrow (heq ▸ List.mem_map_of_mem hother)

theorem lookup_isSome_cons {s s' : ℕ} {next : Time} (h : (moved.lookup s).isSome) :
    (((s', next) :: moved).lookup s).isSome := by
  rw [List.lookup_cons]
  cases s == s'
  · exact h
  · rfl

theorem ahead_cons (s' : ℕ) {next : Time} (hnext : clock < next)
    (h : ∀ s next, moved.lookup s = some next → clock < next) (s : ℕ) (found : Time)
    (hfound : ((s', next) :: moved).lookup s = some found) : clock < found := by
  rw [List.lookup_cons] at hfound
  cases hs : s == s' with
  | false =>
    rw [hs] at hfound
    exact h s found hfound
  | true =>
    rw [hs] at hfound
    cases hfound
    exact hnext

/-- The scans of a row that is still to come are not the session's own. -/
theorem Cycling.others {row : ℕ × Subscription} {id : ℕ}
    (h : Cycling K cooldown k w₁ past done (row :: todo) moved taskIds w)
    (hactive : ActiveScan (w.view k) row.1 id) : ActiveScan w.committed row.1 id := by
  refine (h.scans row.1 id hactive).resolve_right fun hmem => ?_
  obtain ⟨other, hother, heq⟩ := List.mem_map.mp hmem
  exact h.fresh.1 other hother heq

/-- The look at `step` has found an active scan of the row, which is moved on. -/
theorem Cycling.skip {row : ℕ × Subscription} {next : Time} {id : ℕ} {step : World × World}
    (h : Cycling K cooldown k w₁ past done (row :: todo) moved taskIds w)
    (hnext : w₁.outside.now < next) (hstep : step ∈ past)
    (hlooked : ActiveScan step.1.committed row.1 id) (hactive : ActiveScan (w.view k) row.1 id) :
    Cycling K cooldown k w₁ past (done ++ [row]) todo ((row.1, next) :: moved) taskIds w := by
  refine ⟨h.during, ?_, fun other hother => h.ready other (List.mem_cons_of_mem _ hother),
    fun other hother => ?_, ahead_cons row.1 hnext h.ahead, fun other hother => ?_,
    fun other hother => ?_, fun s i hscan => ?_, fun i hi => ?_⟩
  · rw [List.append_assoc]
    exact h.distinct
  · rcases List.mem_append.mp hother with hdone | hrow
    · exact h.rows other hdone
    · rw [List.mem_singleton.mp hrow]
      exact (h.ready row (List.mem_cons_self ..)).present
  · rcases List.mem_append.mp hother with hdone | hrow
    · exact (h.advanced other hdone).imp_left lookup_isSome_cons
    · rw [List.mem_singleton.mp hrow, List.lookup_cons, beq_self_eq_true]
      exact .inl rfl
  · rcases List.mem_append.mp hother with hdone | hrow
    · exact h.served other hdone
    · rw [List.mem_singleton.mp hrow]
      exact .inr ⟨step, hstep, id, hlooked, fun _ => hactive⟩
  · refine (h.scans s i hscan).imp_right fun hmem => ?_
    rw [List.map_append]
    exact List.mem_append_left _ hmem
  · obtain ⟨d, hdraft, task, other, hother, htask⟩ := h.created i hi
    exact ⟨d, hdraft, task, other, List.mem_append_left _ hother, htask⟩

/-- A flush writes the slots that are new, and keeps the others. -/
theorem advanced_rescheduled {db : Database} {s : ℕ} (hrow : (db.subscriptions.get? s).isSome)
    (hahead : ∀ s next, moved.lookup s = some next → clock < next)
    (h : (moved.lookup s).isSome ∨ Advanced clock db s) :
    Advanced clock (reschedule moved db) s := by
  obtain ⟨subscription, hsubscription⟩ := Option.isSome_iff_exists.mp hrow
  unfold Advanced
  rw [reschedule_get?, hsubscription]
  cases hlookup : moved.lookup s with
  | some next => exact ⟨_, next, rfl, rfl, hahead s next hlookup⟩
  | none =>
    rw [hlookup] at h
    obtain ⟨found, next, hfound, hnext, hlt⟩ := h.resolve_left Bool.false_ne_true
    rw [hsubscription] at hfound
    cases hfound
    exact ⟨subscription, next, rfl, hnext, hlt⟩

theorem reschedule_present {db : Database} {s : ℕ} (moved : List (ℕ × Time))
    (hrow : (db.subscriptions.get? s).isSome) :
    ((reschedule moved db).subscriptions.get? s).isSome := by
  rw [reschedule_get?, Option.isSome_map]
  exact hrow

/-- What a row that the cycle is done with has when the new slots are flushed. -/
theorem Cycling.flushed (h : Cycling K cooldown k w₁ past done todo moved taskIds w)
    {row : ℕ × Subscription} (hrow : row ∈ done) :
    Advanced w₁.outside.now (reschedule moved (w.view k)) row.1 := by
  refine advanced_rescheduled (h.rows row hrow) h.ahead ((h.advanced row hrow).imp_right ?_)
  rintro ⟨d, hdraft, hadvanced⟩
  rwa [view_held hdraft]

/-- The flush at the end of the batch. -/
theorem Cycling.flush (h : Cycling K cooldown k w₁ past done [] moved taskIds w) :
    Cycling K cooldown k w₁ past done [] [] taskIds (w.write k (reschedule moved (w.view k))) := by
  obtain ⟨htidy, -⟩ := h.during.view.rescheduled h.ahead
  have hview : (w.write k (reschedule moved (w.view k))).view k = reschedule moved (w.view k) :=
    view_write w k _
  refine ⟨⟨h.during.tidy, h.during.begun, fun j d hdraft => ?_, h.during.found⟩, h.distinct,
    (fun _ hrow => nomatch hrow), fun row hrow => ?_, (fun _ _ hlookup => nomatch hlookup),
    fun row hrow => .inr ⟨_, rfl, h.flushed hrow⟩, fun row hrow => ?_, fun s id hscan => ?_,
    fun id hid => ?_⟩
  · cases hdraft
    exact ⟨rfl, htidy⟩
  · rw [hview]
    exact reschedule_present moved (h.rows row hrow)
  · rw [hview]
    exact h.served row hrow
  · rw [hview] at hscan
    exact h.scans s id hscan
  · obtain ⟨d, hdraft, task, row, hrow, htask, hfor⟩ := h.created id hid
    refine ⟨_, rfl, task, row, hrow, ?_, hfor⟩
    rw [view_held hdraft]
    exact htask

/-- A task that was there is there after an insert. -/
theorem activeScan_kept {base db : Database} {new : NewTask} {now : Time} {id s other : ℕ}
    (hok : createTask base now new = .ok (id, db)) (h : ActiveScan base s other) :
    ActiveScan db s other := by
  obtain ⟨-, -, rfl⟩ := createTask_ok hok
  obtain ⟨task, htask, hactive⟩ := h
  exact ⟨task, Table.get?_insert_of_some htask, hactive⟩

/-- The tasks that the cycle has inserted are for rows that it is done with. -/
theorem Cycling.created_for (h : Cycling K cooldown k w₁ past done todo moved taskIds w) {id s : ℕ}
    (hid : id ∈ taskIds) (hactive : ActiveScan (w.view k) s id) : ∃ row ∈ done, row.1 = s := by
  obtain ⟨d, hdraft, task, row, hrow, htask, hfor⟩ := h.created id hid
  rw [view_held hdraft] at hactive
  obtain ⟨task', htask', hactive⟩ := hactive
  rw [htask] at htask'
  cases htask'
  simp only [isActiveScan, Bool.and_eq_true, decide_eq_true_eq] at hactive
  exact ⟨row, hrow, Option.some.inj (hfor.symm.trans hactive.1.2)⟩

/-- A scan is inserted for the row, and the slots are flushed. -/
theorem Cycling.insert {row : ℕ × Subscription} {next dueAt : Time} (now : Time)
    (h : Cycling K cooldown k w₁ past done (row :: todo) moved taskIds w)
    (hnext : w₁.outside.now < next) (hslot : row.2.nextScanAt = some dueAt) :
    ∃ id d, createTask (reschedule ((row.1, next) :: moved) (w.view k)) now
        (scheduledScan (schedulerSettings cooldown) row.1 row.2 dueAt) = .ok (id, d) ∧
      Cycling K cooldown k w₁ past (done ++ [row]) todo [] (taskIds ++ [id]) (w.write k d) := by
  have hahead := ahead_cons row.1 hnext h.ahead
  obtain ⟨htidy, hkept⟩ := h.during.view.rescheduled hahead
  have hready := (h.ready row (List.mem_cons_self ..)).kept hkept
  obtain ⟨dueAt', hslot', hdue, hfree⟩ := hready.slot
  obtain rfl : dueAt' = dueAt := Option.some.inj (hslot'.symm.trans hslot)
  set base := reschedule ((row.1, next) :: moved) (w.view k) with hbase
  have hcreated : ∃ d, createTask base now
      (scheduledScan (schedulerSettings cooldown) row.1 row.2 dueAt') =
        .ok (base.tasks.nextId, d) :=
    createTask_scheduled hfree hready.present hready.account
  obtain ⟨d, hcreated⟩ := hcreated
  have hrescheduled (other : ℕ × Subscription) (hother : other ∈ done ++ [row]) :
      Advanced w₁.outside.now base other.1 := by
    rcases List.mem_append.mp hother with hdone | hrow
    · refine advanced_rescheduled (h.rows other hdone) hahead ?_
      refine (h.advanced other hdone).imp lookup_isSome_cons ?_
      rintro ⟨held, hdraft, hadvanced⟩
      rwa [view_held hdraft]
    · rw [List.mem_singleton.mp hrow]
      refine advanced_rescheduled (h.ready row (List.mem_cons_self ..)).present hahead (.inl ?_)
      rw [List.lookup_cons, beq_self_eq_true]
      rfl
  have htidy' : Tidy cooldown d w₁.outside.now := by
    refine htidy.inserted hcreated rfl hdue fun subscription found hsubscription hfound => ?_
    obtain ⟨held, slot, hheld, hheldslot, hlt⟩ :=
      hrescheduled row (List.mem_append_right _ (List.mem_singleton_self row))
    rw [hheld] at hsubscription
    cases hsubscription
    rw [hheldslot] at hfound
    cases hfound
    exact lt_of_le_of_lt hdue hlt
  have hbefore (s other : ℕ) (hscan : ActiveScan d s other) :
      ActiveScan (w.view k) s other ∨ s = row.1 ∧ other = base.tasks.nextId := by
    have hsame : base.tasks = (w.view k).tasks := rfl
    exact inserted_activeScan (w.view k) hsame rfl hcreated hscan
  have hafter (s other : ℕ) (hscan : ActiveScan (w.view k) s other) : ActiveScan d s other :=
    activeScan_kept hcreated hscan
  have hnew (s : ℕ) : ¬ ActiveScan (w.view k) s base.tasks.nextId := by
    rintro ⟨task, htask, -⟩
    have hnone : (w.view k).tasks.get? base.tasks.nextId = none := Table.get?_nextId _
    rw [hnone] at htask
    cases htask
  have htaken (s : ℕ) (slot : Time) (hused : d.keyTaken (slotKey cooldown s slot)) :
      base.keyTaken (slotKey cooldown s slot) ∨ s = row.1 := by
    refine (keyTaken_created hcreated hused).imp_right fun hsame => ?_
    exact (slotKey_inj (Option.some.inj hsame)).1.symm
  obtain ⟨-, -, hd⟩ := createTask_ok hcreated
  refine ⟨base.tasks.nextId, d, hcreated, ⟨h.during.tidy, h.during.begun, fun j held hdraft => ?_,
    h.during.found⟩, ?_, fun other hother => ?_, fun other hother => ?_,
    (fun _ _ hlookup => nomatch hlookup), fun other hother => .inr ⟨d, rfl, ?_⟩,
    fun other hother => ?_,
    fun s id hscan => ?_, fun id hid => ?_⟩
  · cases hdraft
    exact ⟨rfl, htidy'⟩
  · rw [List.append_assoc]
    exact h.distinct
  · rw [view_write]
    have hready' := (h.ready other (List.mem_cons_of_mem _ hother)).kept hkept
    obtain ⟨slot, hotherslot, hle, hotherfree⟩ := hready'.slot
    rw [hd] at htaken ⊢
    refine ⟨⟨slot, hotherslot, hle, Bool.eq_false_iff.mpr fun hused => ?_⟩, hready'.schedule,
      hready'.present, hready'.account⟩
    rcases htaken other.1 slot hused with hused | hsame
    · rw [hotherfree] at hused
      cases hused
    · exact h.fresh.2 other hother hsame
  · rw [view_write, hd]
    obtain ⟨subscription, _, hrow, -⟩ := hrescheduled other hother
    exact Option.isSome_of_eq_some hrow
  · rw [hd]
    exact hrescheduled other hother
  · rw [view_write]
    rcases List.mem_append.mp hother with hdone | hrow
    · have hne := h.fresh.1 other hdone
      rcases h.served other hdone with ⟨id, hid, hscan, honly⟩ | ⟨step, hstep, id, hscan, hstill⟩
      · obtain ⟨task, slot, htask, hslots⟩ := hscan
        refine .inl ⟨id, List.mem_append_left _ hid, ⟨task, slot, ?_, hslots⟩,
          fun i hi hscan' => ?_⟩
        · rw [hd]
          exact Table.get?_insert_of_some htask
        have hview := (hbefore _ _ hscan').resolve_right fun heq => hne heq.1
        rcases List.mem_append.mp hi with hi | hi
        · exact honly i hi hview
        · rw [List.mem_singleton.mp hi] at hview
          exact absurd hview (hnew _)
      · exact .inr ⟨step, hstep, id, hscan, fun hK => hafter _ _ (hstill hK)⟩
    · rw [List.mem_singleton.mp hrow]
      refine .inl ⟨_, List.mem_append_right _ (List.mem_singleton_self _), ?_, fun i hi hscan => ?_⟩
      · rw [hd]
        refine ⟨_, dueAt', Table.get?_insert_nextId _ _, ?_, hslot', rfl⟩
        simp [isActiveScan, scheduledScan, NewTask.row, TaskStatus.terminal]
      · rcases hbefore _ _ hscan with hview | ⟨-, heq⟩
        · rcases List.mem_append.mp hi with hi | hi
          · obtain ⟨done', hdone, heq⟩ := h.created_for hi hview
            exact absurd heq (h.fresh.1 done' hdone)
          · rw [List.mem_singleton.mp hi] at hview
            exact absurd hview (hnew _)
        · exact heq
  · rw [view_write] at hscan
    rw [List.map_append]
    rcases hbefore s id hscan with hview | ⟨rfl, -⟩
    · exact (h.scans s id hview).imp_right (List.mem_append_left _)
    · exact .inr (List.mem_append_right _ (List.mem_singleton_self _))
  · refine ⟨d, rfl, ?_⟩
    rcases List.mem_append.mp hid with hid | hid
    · obtain ⟨held, hdraft, task, other, hother, htask, hfor⟩ := h.created id hid
      refine ⟨task, other, List.mem_append_left _ hother, ?_, hfor⟩
      rw [← view_held hdraft] at htask
      rw [hd]
      exact Table.get?_insert_of_some htask
    · rw [List.mem_singleton.mp hid, hd]
      exact ⟨_, row, List.mem_append_right _ (List.mem_singleton_self _),
        Table.get?_insert_nextId _ _, rfl⟩

/-! ## The cycle as a program -/

/-- What is raised if `stuck` says why a value is refused; no task ever is. -/
def Erred (stuck : Prop) : EnqueueError → Prop
  | .interrupted => True
  | .value _ => stuck
  | _ => False

theorem Erred.mono {stuck stuck' : Prop} {e : EnqueueError} (h : Erred stuck e)
    (himp : stuck → stuck') : Erred stuck' e := by
  cases e with
  | value text => exact himp h
  | interrupted => exact h
  | notFound | conflict | tooManyRequests | task => exact h.elim

/-- However a part of a cycle ends, no task was refused. -/
def promise (cooldown : ℤ) (k : ℕ) (stuck : List (World × World) → Prop) {α : Type}
    (V : α → World → List (World × World) → Prop) :
    Outcome EnqueueError α → World → List (World × World) → Prop :=
  promised V (fun e w steps => Left cooldown k w ∧ Erred (stuck steps) e) (Left cooldown k)

theorem promise_mono {α : Type} {V : α → World → List (World × World) → Prop}
    {stuck stuck' : List (World × World) → Prop} {o : Outcome EnqueueError α} {w : World}
    {steps : List (World × World)} (himp : ∀ steps, stuck steps → stuck' steps)
    (h : promise cooldown k stuck V o w steps) : promise cooldown k stuck' V o w steps := by
  cases o with
  | value a => exact h
  | raised e => exact h.imp_right fun herred => herred.mono (himp steps)
  | crashed => exact h

/-- The next slot of a row of the batch lies after the last date. -/
def NoDate (due : List (ℕ × Subscription)) (clock : Time) : Prop :=
  ∃ row ∈ due, ∃ delta, parseSchedule row.2.schedule = .ok delta ∧ maxInstant < clock + delta

theorem activeTask_some {db : Database} {s id : ℕ} {task : TaskTables.Task}
    (h : activeTask db "scan" (some s) none = some (id, task)) : ActiveScan db s id := by
  unfold activeTask at h
  have hmem := List.argmax_mem h
  obtain ⟨htask, hactive⟩ := Table.mem_select.mp hmem
  refine ⟨task, htask, ?_⟩
  simp only [isActiveScan]
  simpa [and_assoc, and_comm, and_left_comm] using hactive

variable {stuck : List (World × World) → Prop}

/-- The look for an active scan of the next row. -/
theorem Cycling.find {row : ℕ × Subscription}
    (h : Cycling K cooldown k w₁ past done (row :: todo) moved taskIds w) :
    Traced (Limited K) (findScan k row.1) (promise cooldown k stuck fun found w steps =>
      Cycling K cooldown k w₁ (past ++ steps) done (row :: todo) moved taskIds w ∧
        ∀ id, found = some id → ActiveScan (w.view k) row.1 id ∧
          ∃ step ∈ steps, ActiveScan step.1.committed row.1 id) w := by
  have hnote (w : World) (found : Option ℕ)
      (h : Cycling K cooldown k w₁ past done (row :: todo) moved taskIds w) :
      Cycling K cooldown k w₁ past done (row :: todo) moved taskIds
        { w with outside :=
          (if found.isNone then Beside.find k row.1 else (id : Beside → Beside)) w.outside } := by
    split
    · exact h.note rfl fun j hj => if_neg hj
    · exact h
  refine query_traced (fun move _ h => h.move move) h hnote (fun _ h => h.during.left)
    (fun _ _ h => ⟨h.during.left, trivial⟩) fun w h => ?_
  dsimp only
  refine ⟨(hnote w _ h).later _, fun id hfound => ?_⟩
  obtain ⟨⟨_, task⟩, hactive, rfl⟩ := Option.map_eq_some_iff.mp hfound
  have hscan := activeTask_some hactive
  exact ⟨hscan, _, List.mem_singleton_self _, h.others hscan⟩

theorem Cycling.insertScan {row : ℕ × Subscription} {next dueAt : Time}
    (h : Cycling K cooldown k w₁ past done (row :: todo) moved taskIds w)
    (hnext : w₁.outside.now < next) (hslot : row.2.nextScanAt = some dueAt) :
    Traced (Limited K) (insertScan k row.1 (reschedule ((row.1, next) :: moved))
        (scheduledScan (schedulerSettings cooldown) row.1 row.2 dueAt))
      (promise cooldown k stuck fun id w steps =>
        Cycling K cooldown k w₁ (past ++ steps) (done ++ [row]) todo [] (taskIds ++ [id]) w) w := by
  refine statement_traced (fun move _ h => h.move move) h (fun _ h => h.during.unlocked)
    (fun _ h => h.during.left) (fun _ _ h => ⟨h.during.left, trivial⟩) fun w h => ?_
  obtain ⟨id, d, hcreated, hinserted⟩ := h.insert w.outside.now hnext hslot
  have hnoted : Cycling K cooldown k w₁ past (done ++ [row]) todo [] (taskIds ++ [id])
      { w.write k d with outside := w.outside.settle k row.1 } :=
    hinserted.note rfl fun j hj => if_neg hj
  exact ⟨id, d, by rw [hcreated]; rfl, hnoted.later _, fun _ => ⟨hnoted.during.left, trivial⟩⟩

/-- The loop over the batch. -/
theorem enqueueDue_traced (todo : List (ℕ × Subscription)) {result : Enqueued}
    (h : Cycling K cooldown k w₁ past done todo moved result.taskIds w) :
    Traced (Limited K) (enqueueDue (schedulerSettings cooldown) k w₁.outside.now todo moved result)
      (promise cooldown k (fun _ => NoDate todo w₁.outside.now) fun r w steps =>
        r.inspectedCount = result.inspectedCount ∧ r.gated = result.gated ∧
        Cycling K cooldown k w₁ (past ++ steps) (done ++ todo) [] [] r.taskIds w) w := by
  induction todo generalizing past done moved result w with
  | nil =>
    unfold enqueueDue
    rw [List.append_nil]
    cases moved with
    | nil => exact Traced.pure ⟨rfl, rfl, h.later []⟩
    | cons slot moved =>
      rw [if_neg (by simp)]
      refine Traced.andThen (V := fun _ w steps =>
        Cycling K cooldown k w₁ (past ++ steps) done [] [] result.taskIds w) ?_
        fun _ w' steps h => Traced.pure ⟨rfl, rfl, ?_⟩
      · refine statement_traced (fun move _ h => h.move move) h (fun _ h => h.during.unlocked)
          (fun _ h => h.during.left) (fun _ _ h => ⟨h.during.left, trivial⟩) fun w h => ?_
        exact ⟨(), _, rfl, h.flush.later _, fun _ => ⟨h.flush.during.left, trivial⟩⟩
      · rw [List.append_nil]
        exact h
  | cons row todo ih =>
    obtain ⟨dueAt, hslot, -, -⟩ := (h.ready row (List.mem_cons_self ..)).slot
    unfold enqueueDue
    rw [hslot]
    dsimp only
    refine Traced.andThen (V := fun next w steps => w₁.outside.now < next ∧
      Cycling K cooldown k w₁ (past ++ steps) done (row :: todo) moved result.taskIds w) ?_
      fun next w' before h => ?_
    · refine Traced.ofExcept (fun next hnext => ?_) fun e he => ?_
      · cases hagain : dueAgain row.2.schedule w₁.outside.now with
        | ok found =>
          simp only [schedulerSettings, hagain, Except.mapError, Except.ok.injEq] at hnext
          exact ⟨hnext ▸ lt_dueAgain hagain, h.later []⟩
        | error text =>
          simp only [schedulerSettings, hagain, Except.mapError, reduceCtorEq] at hnext
      · cases hagain : dueAgain row.2.schedule w₁.outside.now with
        | ok found => simp only [schedulerSettings, hagain, Except.mapError, reduceCtorEq] at he
        | error text =>
          simp only [schedulerSettings, hagain, Except.mapError, Except.error.injEq] at he
          obtain ⟨delta, hparse⟩ := (h.ready row (List.mem_cons_self ..)).schedule
          rw [← he]
          exact ⟨h.during.left, row, List.mem_cons_self .., delta, hparse,
            dueAgain_error hparse hagain⟩
    obtain ⟨hnext, h⟩ := h
    have hwider (h : NoDate todo w₁.outside.now) : NoDate (row :: todo) w₁.outside.now := by
      obtain ⟨other, hother, hdate⟩ := h
      exact ⟨other, List.mem_cons_of_mem _ hother, hdate⟩
    refine Traced.andThen h.find fun found w' looked h => ?_
    obtain ⟨h, hactive⟩ := h
    have hrows : done ++ row :: todo = (done ++ [row]) ++ todo := by simp
    rw [hrows]
    cases found with
    | some id =>
      obtain ⟨hscan, step, hstep, hlooked⟩ := hactive id rfl
      have hskipped := h.skip hnext (List.mem_append_right _ hstep) hlooked hscan
      rw [if_pos Option.isSome_some]
      refine Traced.mono (ih hskipped) ?_
      simp only [List.append_assoc]
      exact fun _ _ _ => promise_mono fun _ => hwider
    | none =>
      refine Traced.andThen (h.insertScan hnext hslot) fun id w' inserted h => ?_
      refine Traced.mono (ih h) ?_
      simp only [List.append_assoc]
      exact fun _ _ _ => promise_mono fun _ => hwider

/-! ## A whole cycle -/

/-- The world between two cycles. -/
structure Between (cooldown : ℤ) (w : World) : Prop where
  tidy : Tidy cooldown w.committed w.outside.now
  idle : w.draft = none
  found : w.outside.found = fun _ => []

theorem Between.left (h : Between cooldown w) : Left cooldown k w where
  tidy := h.tidy
  own j d hdraft := by
    rw [h.idle] at hdraft
    cases hdraft
  found j _ := by rw [h.found]

theorem Between.move (h : Between cooldown w) (move : Move) :
    Between cooldown (Surroundings.move move w) := by
  rw [move_open move h.idle]
  exact ⟨(h.tidy.transaction le_rfl move).1.mono (beside_now move w.outside), rfl, by
    rw [beside_found, h.found]⟩

theorem Left.abandon (h : Left cooldown k w) : Between cooldown (w.abandon k) := by
  unfold World.abandon
  have hfound : (w.outside.forget k).found = fun _ => [] := by
    funext j
    unfold Beside.forget
    by_cases hj : j = k
    · exact if_pos hj
    · exact (if_neg hj).trans (h.found j hj)
  have hidle : (w.rollback k).draft = none := by
    unfold Shared.rollback
    cases hdraft : w.draft with
    | none => exact hdraft
    | some held =>
      obtain ⟨j, d⟩ := held
      rw [h.own j d hdraft]
      simp
  refine ⟨?_, hidle, hfound⟩
  rw [rollback_committed]
  exact h.tidy

theorem mem_dueSubscriptions {db : Database} {limit : ℕ} {row : ℕ × Subscription}
    (h : row ∈ dueSubscriptions db clock limit) : db.subscriptions.get? row.1 = some row.2 ∧
      row.2.enabled = true ∧ ∃ dueAt, row.2.nextScanAt = some dueAt ∧ dueAt ≤ clock := by
  have hselected := (List.mem_insertionSort dueBefore).mp (List.mem_of_mem_take h)
  obtain ⟨hrow, hdue⟩ := Table.mem_select.mp hselected
  simp only [Bool.and_eq_true, Option.any_eq_true, decide_eq_true_eq] at hdue
  exact ⟨hrow, hdue⟩

theorem nodup_dueSubscriptions (db : Database) (limit : ℕ) :
    ((dueSubscriptions db clock limit).map Prod.fst).Nodup := by
  have hkeyed := db.subscriptions.keyed
  have hselected : ((db.subscriptions.select fun _ subscription => subscription.enabled &&
      subscription.nextScanAt.any fun due => due ≤ clock).map Prod.fst).Nodup :=
    hkeyed.sublist (List.filter_sublist.map _)
  have hsorted := ((List.perm_insertionSort dueBefore _).map Prod.fst).nodup_iff.mpr hselected
  exact hsorted.sublist ((List.take_sublist _ _).map _)

/-- The subscriptions that are due are ready. -/
theorem Between.due (h : Between cooldown w) (limit : ℕ) :
    Cycling K cooldown k w [] [] (dueSubscriptions w.committed w.outside.now limit) [] [] w := by
  have hview : w.view k = w.committed := view_of_unlocked h.idle
  refine ⟨⟨h.tidy, le_rfl, fun j d hdraft => ?_, h.left.found⟩, nodup_dueSubscriptions _ _,
    fun row hrow => ?_, (fun _ hrow => nomatch hrow), (fun _ _ hlookup => nomatch hlookup),
    (fun _ hrow => nomatch hrow), (fun _ hrow => nomatch hrow),
      fun s id hscan => .inl (hview ▸ hscan),
    (fun _ hid => nomatch hid)⟩
  · rw [h.idle] at hdraft
    cases hdraft
  · obtain ⟨hsubscription, henabled, dueAt, hslot, hle⟩ := mem_dueSubscriptions hrow
    rw [hview]
    refine ⟨⟨dueAt, hslot, hle, Bool.eq_false_iff.mpr fun hused => ?_⟩,
      h.tidy.schedules _ _ hsubscription henabled, Option.isSome_of_eq_some hsubscription,
      h.tidy.accounts _ _ hsubscription⟩
    exact lt_irrefl dueAt ((h.tidy.used _ _ hused).2 _ _ hsubscription hslot)

/-- A cycle that went through its batch: the first of these effects has read it. -/
def Batch (K : Prop) (cooldown : ℤ) (batchSize : ℕ) (steps : List (World × World))
    (result : Enqueued) (db : Database) : Prop :=
  ∃ read later, steps = read :: later ∧
    let due := dueSubscriptions read.1.committed read.1.outside.now batchSize
    result.inspectedCount = due.length ∧ ∀ row ∈ due,
      (∀ dueAt, row.2.nextScanAt = some dueAt →
        read.1.committed.keyTaken (slotKey cooldown row.1 dueAt) = false) ∧
      Advanced read.1.outside.now db row.1 ∧ Served K cooldown later result.taskIds db row

/-- A cycle that has answered: its first effect has asked the update gate, and
if that was open it went through its batch. -/
def Answered (K : Prop) (cooldown : ℤ) (batchSize : ℕ) (steps : List (World × World))
    (result : Enqueued) (db : Database) : Prop :=
  ∃ gate later, steps = gate :: later ∧ gate.1.outside.blocked = result.gated ∧
    (result.gated = false → Batch K cooldown batchSize later result db)

/-- Why a cycle is refused: the size of its batch is not allowed, or a slot of
the batch that it has read would lie after the last date. -/
def Stuck (batchSize : ℕ) (steps : List (World × World)) : Prop :=
  batchSize < 1 ∨ 1000 < batchSize ∨ ∃ gate read later, steps = gate :: read :: later ∧
    NoDate (dueSubscriptions read.1.committed read.1.outside.now batchSize) read.1.outside.now

/-- Before the commit of a cycle that went through its batch. -/
def Through (K : Prop) (cooldown : ℤ) (k batchSize : ℕ) (result : Enqueued) (w : World)
    (steps : List (World × World)) : Prop :=
  ∃ read later, steps = read :: later ∧ Between cooldown read.1 ∧
    result.inspectedCount =
      (dueSubscriptions read.1.committed read.1.outside.now batchSize).length ∧
    Cycling K cooldown k read.1 later
      (dueSubscriptions read.1.committed read.1.outside.now batchSize) [] [] result.taskIds w

/-- Before the commit. -/
def Finished (K : Prop) (cooldown : ℤ) (k batchSize : ℕ) (result : Enqueued) (w : World)
    (steps : List (World × World)) : Prop :=
  ∃ gate later, steps = gate :: later ∧ gate.1.outside.blocked = result.gated ∧
    ((result.gated = true ∧ Between cooldown w) ∨
      (result.gated = false ∧ Through K cooldown k batchSize result w later))

variable {batchSize : ℕ} {result : Enqueued} {steps : List (World × World)}

theorem Stuck.append (h : Stuck batchSize steps) (more : List (World × World)) :
    Stuck batchSize (steps ++ more) := by
  rcases h with hnone | hmany | ⟨gate, read, later, rfl, hdate⟩
  · exact .inl hnone
  · exact .inr (.inl hmany)
  · exact .inr (.inr ⟨gate, read, later ++ more, rfl, hdate⟩)

theorem Finished.move (h : Finished K cooldown k batchSize result w steps) (move : Limited K) :
    Finished K cooldown k batchSize result (Surroundings.move move w) steps := by
  obtain ⟨gate, later, hsteps, hgate, hend⟩ := h
  refine ⟨gate, later, hsteps, hgate, ?_⟩
  rcases hend with ⟨hgated, hbetween⟩ | ⟨hgated, read, looks, hlater, hbegun, hcount, hcycling⟩
  · exact .inl ⟨hgated, hbetween.move move.1⟩
  · exact .inr ⟨hgated, read, looks, hlater, hbegun, hcount, hcycling.move move⟩

theorem Finished.left (h : Finished K cooldown k batchSize result w steps) : Left cooldown k w := by
  obtain ⟨gate, later, -, -, ⟨-, hbetween⟩ | ⟨-, read, looks, -, -, -, hcycling⟩⟩ := h
  · exact hbetween.left
  · exact hcycling.during.left

/-- A commit publishes what the session saw. -/
theorem commit_committed (hdraft : ∀ j d, w.draft = some (j, d) → j = k) :
    (w.commit k).committed = w.view k ∧ (w.commit k).draft = none := by
  unfold Shared.commit Shared.view
  cases hheld : w.draft with
  | none => exact ⟨rfl, hheld⟩
  | some held =>
    obtain ⟨j, d⟩ := held
    rw [hdraft j d hheld]
    simp

/-- The commit, the last effect of a cycle. -/
theorem Finished.committed (h : Finished K cooldown k batchSize result w steps)
    (last : World × World) :
    Left cooldown k { w.commit k with outside := w.outside.forget k } ∧
      Answered K cooldown batchSize (steps ++ [last]) result (w.commit k).committed := by
  obtain ⟨hcommitted, hdraft⟩ := commit_committed h.left.own
  have hfound (j : ℕ) (hj : j ≠ k) : (w.outside.forget k).found j = [] :=
    (if_neg hj).trans (h.left.found j hj)
  have hnone (j : ℕ) (d : Database) (hheld : (w.commit k).draft = some (j, d)) : j = k := by
    rw [hdraft] at hheld
    cases hheld
  obtain ⟨gate, later, rfl, hgate, hend⟩ := h
  rcases hend with ⟨hgated, hbetween⟩ | ⟨hgated, read, looks, rfl, hbegun, hcount, hcycling⟩
  · refine ⟨⟨?_, hnone, hfound⟩, gate, later ++ [last], rfl, hgate, fun hopen => ?_⟩
    · rw [show (w.commit k).committed = w.committed from hcommitted.trans
        (view_of_unlocked hbetween.idle)]
      exact hbetween.tidy
    · rw [hgated] at hopen
      cases hopen
  · refine ⟨⟨?_, hnone, hfound⟩, gate, read :: looks ++ [last], rfl, hgate,
      fun _ => ⟨read, looks ++ [last], rfl, hcount, fun row hrow => ⟨?_, ?_, ?_⟩⟩⟩
    · rw [hcommitted]
      exact hcycling.during.view.mono hcycling.during.begun
    · intro dueAt hslot
      have hready : Cycling K cooldown k read.1 [] [] _ [] [] read.1 := hbegun.due batchSize
      obtain ⟨dueAt', hslot', -, hfree⟩ := (hready.ready row hrow).slot
      rw [hslot] at hslot'
      cases hslot'
      rwa [view_of_unlocked hbegun.idle] at hfree
    · rw [hcommitted]
      obtain ⟨d, hheld, hadvanced⟩ := (hcycling.advanced row hrow).resolve_left Bool.false_ne_true
      rwa [view_held hheld]
    · rw [hcommitted]
      exact (hcycling.later [last]).served row hrow

/-- What the session does before it commits, once it has found the gate open. -/
theorem enqueueDueScanTasks_traced (h : Between cooldown w) (gate : World × World)
    (hgate : gate.1.outside.blocked = false) :
    Traced (Limited K) (enqueueDueScanTasks (schedulerSettings cooldown) k batchSize)
      (promise cooldown k (fun steps => Stuck batchSize (gate :: steps)) fun result w steps =>
        Finished K cooldown k batchSize result w (gate :: steps)) w := by
  unfold enqueueDueScanTasks
  split
  next hsize => exact Traced.throw ⟨h.left, hsize.elim .inl fun hmany => .inr (.inl hmany)⟩
  refine Traced.andThen (V := fun read w steps => steps = [(w, w)] ∧ Between cooldown w ∧
    read = (w.outside.now, dueSubscriptions w.committed w.outside.now batchSize)) ?_ ?_
  · refine query_traced (A := Between cooldown) (fun move w h => h.move move.1) h (fun _ _ h => h)
      (fun _ h => h.left) (fun _ _ h => ⟨h.left, trivial⟩) fun w h => ⟨rfl, h, ?_⟩
    rw [view_of_unlocked h.idle]
    rfl
  · rintro _ w _ ⟨rfl, hbetween, rfl⟩
    refine (enqueueDue_traced _ (hbetween.due batchSize)).mono ?_
    rintro (result | e | _) w' later hpromise
    · exact ⟨gate, _, rfl, hgate.trans hpromise.2.1.symm,
        .inr ⟨hpromise.2.1, (w, w), later, rfl, hbetween, hpromise.1, hpromise.2.2⟩⟩
    · exact hpromise.imp_right fun herred => herred.mono fun hdate =>
        .inr (.inr ⟨gate, (w, w), later, rfl, hdate⟩)
    · exact hpromise

theorem runOnce_traced (h : Between cooldown w) :
    Traced (Limited K) (runOnce (schedulerSettings cooldown) k batchSize)
      (promise cooldown k (Stuck batchSize) fun result w' steps => Left cooldown k w' ∧
        Answered K cooldown batchSize steps result w'.committed) w := by
  have hbody : Traced (Limited K) (do
      let blocked ← query k .interrupted (fun beside _ => .ok beside.blocked) fun _ => id
      if blocked then pure { gated := true }
      else enqueueDueScanTasks (schedulerSettings cooldown) k batchSize : Enqueue Enqueued)
      (promise cooldown k (Stuck batchSize) (Finished K cooldown k batchSize)) w := by
    refine Traced.andThen (V := fun blocked w' steps =>
      (∃ gate, steps = [gate] ∧ gate.1.outside.blocked = blocked) ∧ Between cooldown w') ?_
      fun blocked w' before h' => ?_
    · exact query_traced (A := Between cooldown) (fun move w h => h.move move.1) h (fun _ _ h => h)
        (fun _ h => h.left) (fun _ _ h => ⟨h.left, trivial⟩) fun w h => ⟨⟨_, rfl, rfl⟩, h⟩
    · obtain ⟨⟨gate, rfl, hgate⟩, hbetween⟩ := h'
      cases blocked with
      | true => exact Traced.pure ⟨gate, [], rfl, hgate, .inl ⟨rfl, hbetween⟩⟩
      | false => exact enqueueDueScanTasks_traced hbetween gate hgate
  unfold runOnce session
  refine Traced.handle (R := fun e w steps => Left cooldown k w ∧ Erred (Stuck batchSize steps) e)
    ?_ fun e w' before h' => ?_
  · refine Traced.andThen hbody fun result w' before h' => ?_
    refine Traced.andThen (V := fun _ w' steps => Left cooldown k w' ∧
      Answered K cooldown batchSize (before ++ steps) result w'.committed) ?_
      fun _ w' steps h' => Traced.pure ?_
    · exact Traced.stable_effect (P := fun w => Finished K cooldown k batchSize result w before)
        (fun move _ h => h.move move) h' (fun _ h => h.left)
        (fun w h => ⟨⟨h.left, trivial⟩, (h.committed (w, w)).1, trivial⟩)
        fun w h => h.committed _
    · change Left cooldown k w' ∧
        Answered K cooldown batchSize (before ++ (steps ++ [])) result w'.committed
      rw [List.append_nil]
      exact h'
  · refine Traced.andThen (V := fun _ w _ => Left cooldown k w) ?_ fun _ w' steps hleft =>
      Traced.throw ⟨hleft, h'.2.mono fun hstuck => hstuck.append _⟩
    have hleft (w : World) (h : Left cooldown k w) :
        Left cooldown k { w.rollback k with outside := w.outside.forget k } := h.abandon.left
    exact Traced.stable_effect (P := Left cooldown k) (fun move _ h => h.move move.1) h'.1
      (fun _ h => h) (fun w h => ⟨⟨h, trivial⟩, hleft w h, trivial⟩)
      fun w h => hleft w h

/-! ## Without faults -/

theorem owned_move (move : Move) (w : World) (h : Owned k w) :
    Owned k (Surroundings.move move w) := by
  cases hdraft : w.draft with
  | none =>
    rw [move_open move hdraft]
    rintro _ _ ⟨⟩
  | some held =>
    rw [move_held move hdraft]
    exact h

/-- An error of another kind is no interruption. -/
theorem mapError_ne {α β : Type} {r : Except β α} {f : β → EnqueueError}
    (hf : ∀ b, f b ≠ .interrupted) {e : EnqueueError} (he : r.mapError f = .error e) :
    e ≠ .interrupted := by
  cases r with
  | ok a => cases he
  | error b =>
    cases he
    exact hf b

theorem insertScan_unhindered (s : ℕ) (flushed : Database → Database) (new : NewTask)
    (h : Owned k w) :
    Unhindered Move k .interrupted (ScanEnqueue.insertScan k s flushed new) w :=
  statement_unhindered owned_move h fun _ _ _ he =>
    mapError_ne (fun _ => EnqueueError.noConfusion) he

theorem enqueueDue_unhindered (settings : Settings) (now : Time) (todo : List (ℕ × Subscription))
    (moved : List (ℕ × Time)) (result : Enqueued) (h : Owned k w) :
    Unhindered Move k .interrupted (enqueueDue settings k now todo moved result) w := by
  induction todo generalizing moved result w with
  | nil =>
    unfold enqueueDue
    split
    · exact Finishes.pure h
    · refine Finishes.bind (statement_unhindered owned_move h fun _ _ e he => by cases he)
        fun _ w' h' => ?_
      exact Finishes.pure h'
  | cons row todo ih =>
    unfold enqueueDue
    cases hslot : row.2.nextScanAt with
    | none => exact ih moved result h
    | some dueAt =>
      dsimp only
      refine Finishes.bind (R := fun _ => Owned k) ?_ fun next w₁ h₁ => ?_
      · exact Finishes.ofExcept (fun _ _ => h) fun e he =>
          ⟨h, mapError_ne (fun _ => EnqueueError.noConfusion) he⟩
      refine Finishes.bind (query_unhindered owned_move h₁ fun _ _ e he => by cases he)
        fun found w₂ h₂ => ?_
      split
      · exact ih _ _ h₂
      · exact Finishes.bind (insertScan_unhindered _ _ _ h₂) fun _ w₃ h₃ => ih _ _ h₃

theorem runOnce_unhindered (settings : Settings) (batchSize : ℕ) (h : Owned k w) :
    Unhindered Move k .interrupted (runOnce settings k batchSize) w := by
  unfold runOnce
  refine session_unhindered owned_move (Finishes.bind
    (query_unhindered owned_move h fun _ _ e he => by cases he) fun blocked w₁ h₁ => ?_)
  split
  · exact Finishes.pure h₁
  unfold enqueueDueScanTasks
  split
  · exact Finishes.throw ⟨h₁, EnqueueError.noConfusion⟩
  · exact Finishes.bind (query_unhindered owned_move h₁ fun _ _ e he => by cases he)
      fun read w₂ h₂ => enqueueDue_unhindered _ _ _ _ _ h₂

/-! ## Histories -/

theorem between_start (accounts : Table CloudAccount) (now : Time) (blocked : Bool) :
    Between cooldown (start accounts now blocked) where
  tidy := by
    refine ⟨⟨(fun _ _ htask => nomatch htask), (fun _ _ hrun => nomatch hrun)⟩,
      fun s d hused => ?_, (fun _ _ hrow => nomatch hrow), fun _ _ hrow => nomatch hrow⟩
    obtain ⟨_, _, htask, -⟩ := Database.keyTaken_iff.mp hused
    cases htask
  idle := rfl
  found := rfl

/-- No worker does anything in a cycle. -/
def Unworked (events : Schedule Move) : Prop := ∀ e ∈ events, ∀ move ∈ e.moves, works move = false

/-- The effects of a cycle. -/
def cycleSteps (cooldown : ℤ) (k batchSize : ℕ) (events : Schedule Move) (w : World) :
    List (World × World) :=
  (runOnce (schedulerSettings cooldown) k batchSize).steps events w

theorem cycle_traced (k batchSize : ℕ) (h : Between cooldown w) (events : Schedule Move) :
    promise cooldown k (Stuck batchSize) (fun result w' steps => Left cooldown k w' ∧
        Answered (Unworked events) cooldown batchSize steps result w'.committed)
      (cycle cooldown k batchSize events w).1 (cycle cooldown k batchSize events w).2.1
      (cycleSteps cooldown k batchSize events w) :=
  (runOnce_traced h).limited fun e he move hmove hK => hK e he move hmove

theorem Between.happen (h : Between cooldown w) (happening : Happening) :
    Between cooldown (happen cooldown k w happening) := by
  cases happening with
  | move move => exact h.move move
  | cycle batchSize events =>
    refine Left.abandon ?_
    have hpromise := cycle_traced k batchSize h events
    rcases hcycle : cycle cooldown k batchSize events w with ⟨result | e | _, w', rest⟩ <;>
      rw [hcycle] at hpromise
    · exact hpromise.1
    · exact hpromise.1
    · exact hpromise

theorem Between.history (h : Between cooldown w) (happenings : List Happening) :
    Between cooldown (history cooldown k happenings w) := by
  induction happenings generalizing w with
  | nil => exact h
  | cons happening happenings ih => exact ih (h.happen happening)

end Cycles

/-- Whatever has happened and happens meanwhile, a cycle of the scheduler never
fails because of a task it inserts. Without faults it returns, unless the size
of its batch is not allowed or a slot would lie after the last date. One that
returned has found the update gate closed, or it has moved every subscription
that was due to a slot ahead of its clock, and each of them has one new scan, or
one that was active when the cycle looked. -/
theorem scheduling_never_stalls (cooldown : ℤ) (k : ℕ) (accounts : Table CloudAccount) (now : Time)
    (blocked : Bool) (happenings : List Happening) (batchSize : ℕ) (events : Schedule Move) :
    let w := history cooldown k happenings (start accounts now blocked)
    let r := cycle cooldown k batchSize events w
    let steps := cycleSteps cooldown k batchSize events w
    (∀ e, r.1 ≠ .raised (.task e)) ∧
    (Quiet events → ¬ Stuck batchSize steps → ∃ result, r.1 = .value result) ∧
    ∀ result, r.1 = .value result →
      Answered (Unworked events) cooldown batchSize steps result r.2.1.committed := by
  intro w r steps
  have hbetween : Between cooldown w := (between_start accounts now blocked).history happenings
  have hpromise := cycle_traced k batchSize hbetween events
  change promise cooldown k _ _ r.1 r.2.1 steps at hpromise
  have hquiet (hfaults : Quiet events) := runOnce_unhindered (schedulerSettings cooldown) batchSize
    (k := k) hbetween.left.own events fun _ => hfaults
  change ∀ _, CalmRuns.Finished True _ _ r at hquiet
  rcases r with ⟨result | e | _, w', rest⟩
  · refine ⟨(fun t heq => by cases heq), fun _ _ => ⟨result, rfl⟩, fun result' hresult => ?_⟩
    cases hresult
    exact hpromise.2
  · have herred : Erred (Stuck batchSize steps) e := hpromise.2
    refine ⟨fun t heq => ?_, fun hfaults hstuck => ?_,
      fun result heq => by cases heq⟩
    · cases heq
      exact herred
    · cases e with
      | value text => exact absurd herred hstuck
      | interrupted => exact absurd rfl (hquiet hfaults).1.2
      | notFound | conflict | tooManyRequests | task => exact herred.elim
  · exact ⟨(fun t heq => by cases heq), fun hfaults _ => absurd trivial (hquiet hfaults),
      fun result heq => by cases heq⟩

/-- Two subscriptions that are scanned every half hour, at the first slot of both. -/
def twoDue : World :=
  let account : CloudAccount := { provider := "quark", name := "q", refreshToken := "" }
  let payload : SubscriptionCreate :=
    { name := "s", cloudAccountId := 1, provider := "quark", shareUrl := "https://x",
      targetPath := "/" }
  history 300 0 [.move (.create payload ⟨"x", "root"⟩ ""), .move (.create payload ⟨"y", "root"⟩ ""),
    .move (.tick 1800000000)] (start (Table.empty.insert account) 0 false)

/-- The first of them is scanned by hand once the cycle has read the batch. -/
def scannedMeanwhile : Schedule Move :=
  let subscription : Subscription :=
    { name := "s", cloudAccountId := 1, provider := "quark", shareUrl := "https://x",
      targetPath := "/" }
  [{}, {}, { moves := [.enqueue (manualScan 1 subscription false)] }]

/-- The other one gets a scan, and both are moved on. -/
theorem scheduling_never_stalls_due :
    let r := cycle 300 0 10 scannedMeanwhile twoDue
    let steps := cycleSteps 300 0 10 scannedMeanwhile twoDue
    let result : Enqueued :=
      { inspectedCount := 2, enqueuedCount := 1, skippedActiveCount := 1, taskIds := [2] }
    Quiet scannedMeanwhile ∧ ¬ Stuck 10 steps ∧ r.1 = .value result ∧
      Answered (Unworked scannedMeanwhile) 300 10 steps result r.2.1.committed := by
  intro r steps result
  have hquiet : Quiet scannedMeanwhile := by
    unfold Quiet scannedMeanwhile
    simp
  have hdates : (steps[1]?.all fun read =>
      (dueSubscriptions read.1.committed read.1.outside.now 10).all fun row =>
        parseSchedule row.2.schedule = .ok 1800000000 && read.1.outside.now = 1800000000) =
      true := by
    decide +kernel
  have hstuck : ¬ Stuck 10 steps := by
    rintro (hnone | hmany | ⟨gate, read, later, hsteps, row, hrow, delta, hparse, hlate⟩)
    · exact absurd hnone (by decide)
    · exact absurd hmany (by decide)
    · rw [hsteps] at hdates
      have hdate := List.all_eq_true.mp hdates row hrow
      rw [Bool.and_eq_true, decide_eq_true_eq, decide_eq_true_eq, hparse] at hdate
      rw [Except.ok.inj hdate.1, hdate.2] at hlate
      exact absurd hlate (by decide)
  obtain ⟨found, hfound⟩ : ∃ found, r.1 = .value found :=
    (scheduling_never_stalls 300 0 _ _ _ _ 10 scannedMeanwhile).2.1 hquiet hstuck
  have hvalue : r.1 = .value result := by decide +kernel
  obtain rfl : result = found := Outcome.value.inj (hvalue.symm.trans hfound)
  exact ⟨hquiet, hstuck, hfound,
    (scheduling_never_stalls 300 0 _ _ _ _ 10 scannedMeanwhile).2.2 result hfound⟩

end MediaSync.ScheduledCycles
