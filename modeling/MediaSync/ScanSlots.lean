import MediaSync.ScanSchedules

/-!
# Slots that were never used

The slot of a subscription is ahead of every slot that a scan of it was asked
for: a new slot is ahead of the clock, and a slot is only used when its time
has come. So the key of the slot that is due is the key of no task.
-/
namespace MediaSync.ScanSlots
open FaultPrograms SharedStore Shared JsonValues PythonText RowTables TaskTables TaskRepository
open TaskOwnership RetryAccounting SingleScan ScanSchedules
open ScanEnqueue hiding Move

variable {cooldown : ℤ} {db db' : Database} {clock now : Time}

/-! ## Keys -/

/-- The key of the scan of a slot. -/
abbrev slotKey (cooldown : ℤ) (subscriptionId : ℕ) (dueAt : Time) : String :=
  scheduledScanKey (schedulerSettings cooldown) subscriptionId dueAt

theorem slotKey_toList (subscriptionId : ℕ) (dueAt : Time) :
    (slotKey cooldown subscriptionId dueAt).toList =
      "scan:".toList ++ (Nat.toDigits 10 subscriptionId ++ ':' :: ("scheduled:".toList ++
        (IsoInstants.isoformat dueAt).toList)) := by
  unfold slotKey scheduledScanKey schedulerSettings
  simp [String.toList_append, toString]

theorem isScheduledKey_slotKey (subscriptionId : ℕ) (dueAt : Time) :
    isScheduledKey (slotKey cooldown subscriptionId dueAt) = true := by
  unfold isScheduledKey
  rw [slotKey_toList, List.isPrefixOf_iff_prefix]
  exact List.prefix_append _ _

/-- Different slots, or slots of different subscriptions, have different keys. -/
theorem slotKey_inj {s s' : ℕ} {d d' : Time} (h : slotKey cooldown s d = slotKey cooldown s' d') :
    s = s' ∧ d = d' := by
  have hchars := congrArg String.toList h
  rw [slotKey_toList, slotKey_toList] at hchars
  have hrest := List.append_cancel_left hchars
  have hcolon (n : ℕ) : ':' ∉ Nat.toDigits 10 n := fun hmem =>
    absurd (Nat.isDigit_of_mem_toDigits (by decide) (by decide) hmem) (by decide)
  have hpieces := congrArg (splitChar ':') hrest
  rw [splitChar_append (hcolon s), splitChar_append (hcolon s'), List.cons.injEq] at hpieces
  have hid : s = s' := by
    rw [← @Nat.ofDigitChars_ten_toDigits s, hpieces.1, Nat.ofDigitChars_ten_toDigits]
  subst hid
  have hslot := List.append_cancel_left (List.cons.inj (List.append_cancel_left hrest)).2
  exact ⟨rfl, IsoInstants.isoformat_injective (String.toList_inj.mp hslot)⟩

/-! ## Slots -/

theorem later_ok {delta next : Time} (h : later now delta = .ok next) : next = now + delta := by
  unfold later at h
  split at h
  · cases h
  · cases h
    rfl

/-- An interval is at least a quarter of an hour. -/
theorem parseSchedule_pos {value : String} {delta : Time} (h : parseSchedule value = .ok delta) :
    900000000 ≤ delta := by
  have hinterval : ∃ micros, interval micros = .ok delta := by
    unfold parseSchedule at h
    dsimp only at h
    repeat' split at h
    all_goals first | cases h | exact ⟨_, h⟩
  obtain ⟨micros, hmicros⟩ := hinterval
  obtain ⟨checked, -, hchecked⟩ := bind_ok hmicros
  split_ifs at hchecked with hshort
  cases hchecked
  exact not_lt.mp hshort

theorem lt_later {delta next : Time} {value : String} (hparse : parseSchedule value = .ok delta)
    (h : later now delta = .ok next) : now < next := by
  have hdelta := parseSchedule_pos hparse
  rw [later_ok h]
  exact lt_add_of_pos_right now (lt_of_lt_of_le (by decide) hdelta)

/-- A moment is refused only if it lies after the last date. -/
theorem dueAgain_error {schedule text : String} {delta : Time}
    (hparse : parseSchedule schedule = .ok delta) (h : dueAgain schedule now = .error text) :
    maxInstant < now + delta := by
  unfold dueAgain at h
  rw [hparse] at h
  by_contra hle
  have hlater : later now delta = .ok (now + delta) := if_neg hle
  change later now delta = .error text at h
  rw [hlater] at h
  cases h

theorem lt_dueAgain {schedule : String} {next : Time} (h : dueAgain schedule now = .ok next) :
    now < next := by
  unfold dueAgain at h
  obtain ⟨delta, hparse, hlater⟩ := bind_ok h
  exact lt_later hparse hlater

/-! ## What workers leave alone -/

/-- The tables that no task is in. -/
def rest (db : Database) : Table CloudAccount × Table Subscription × Table CloudFile ×
    Table FolderCheckpoint :=
  (db.accounts, db.subscriptions, db.files, db.folderCheckpoints)

/-- The repository of tasks writes to the tables of tasks only. -/
theorem operation_rest (op : Operation) (db : Database) : rest (op.apply db) = rest db := by
  rcases op.apply_cases db with heq | ⟨db', hok, heq⟩
  · rw [heq]
  rw [heq]
  cases op with
  | createTask =>
    obtain ⟨_, hok⟩ := map_snd_ok hok
    obtain ⟨-, -, rfl⟩ := createTask_ok hok
    rfl
  | transition =>
    obtain ⟨-, -, -, rfl⟩ := transition_ok hok
    rfl
  | claimNext =>
    obtain ⟨_, hok⟩ := map_snd_ok hok
    rcases claimNext_ok hok with ⟨-, rfl⟩ | ⟨_, _, _, -, -, rfl, _, hrun⟩
    · rfl
    · obtain ⟨-, -, -, rfl⟩ := createRun_ok hrun
      rfl
  | createRun =>
    obtain ⟨_, hok⟩ := map_snd_ok hok
    obtain ⟨-, -, -, rfl⟩ := createRun_ok hok
    rfl
  | heartbeat =>
    obtain ⟨-, -, rfl⟩ := heartbeat_ok hok
    rfl
  | finishRun =>
    obtain ⟨-, -, -, -, -, -, rfl⟩ := finishRun_ok hok
    rfl
  | listExpiredLeases =>
    rw [map_const_ok hok]
  | recoverExpiredLease =>
    obtain ⟨_, hok⟩ := map_snd_ok hok
    rcases recoverExpiredLease_ok hok with ⟨-, rfl⟩ | ⟨_, _, _, _, -, -, -, -, rfl⟩
    · rfl
    · rfl

theorem runAll_rest (ops : List Operation) (db : Database) : rest (runAll ops db) = rest db := by
  induction ops generalizing db with
  | nil => rfl
  | cons op ops ih => exact (ih _).trans (operation_rest op db)

/-- What workers do: no task is added, and none changes what it is for. -/
theorem worked_calls (step : Step) (db : Database) : OwnershipInvariant db →
    OwnershipInvariant (worked step db) ∧ rest (worked step db) = rest db ∧
      identities (worked step db) = identities db := by
  intro hown
  unfold worked
  split
  · exact ⟨hown, rfl, rfl⟩
  · rename_i hcreates
    obtain ⟨ops, hops, hinserts⟩ := step_calls step db
    rw [hops]
    exact ⟨hown.runAll ops, runAll_rest ops db,
      runAll_identities ops (hinserts (by simpa using hcreates))⟩

theorem keyTaken_of_identities (h : identities db' = identities db) {key : String}
    (htaken : db'.keyTaken key) : db.keyTaken key := by
  obtain ⟨id, task', htask', hkey⟩ := Database.keyTaken_iff.mp htaken
  obtain ⟨task, htask, hidentity⟩ := identities_get? h htask'
  simp only [identity, Prod.mk.injEq] at hidentity
  exact Database.keyTaken_iff.mpr ⟨id, task, htask, hidentity.2.2.1 ▸ hkey⟩

/-- A new task takes its own key only. -/
theorem keyTaken_created {base : Database} {new : NewTask} {id : ℕ} {key : String}
    (hok : createTask base clock new = .ok (id, db')) (h : db'.keyTaken key) :
    base.keyTaken key ∨ new.idempotencyKey = some key := by
  obtain ⟨-, -, rfl⟩ := createTask_ok hok
  obtain ⟨other, task, htask, hkey⟩ := Database.keyTaken_iff.mp h
  rw [Table.get?_insert] at htask
  split at htask
  · cases htask
    exact .inr hkey
  · exact .inl (Database.keyTaken_iff.mpr ⟨other, task, htask, hkey⟩)

/-! ## Transactions -/

/-- The schedule can be read while the subscription is enabled. -/
def Scheduled (subscription : Subscription) : Prop :=
  subscription.enabled = true → ∃ delta, parseSchedule subscription.schedule = .ok delta

/-- A slot that was used is before the next slot of its subscription. -/
structure Tidy (cooldown : ℤ) (db : Database) (clock : Time) : Prop where
  ownership : OwnershipInvariant db
  used (s : ℕ) (d : Time) : db.keyTaken (slotKey cooldown s d) → d ≤ clock ∧
    ∀ subscription next, db.subscriptions.get? s = some subscription →
      subscription.nextScanAt = some next → d < next
  accounts (s : ℕ) (subscription : Subscription) : db.subscriptions.get? s = some subscription →
    (db.accounts.get? subscription.cloudAccountId).isSome
  schedules (s : ℕ) (subscription : Subscription) : db.subscriptions.get? s = some subscription →
    Scheduled subscription

/-- What others leave alone while the scheduler is at work. -/
structure Kept (cooldown : ℤ) (db db' : Database) : Prop where
  keys (s : ℕ) (d : Time) : db'.keyTaken (slotKey cooldown s d) → db.keyTaken (slotKey cooldown s d)
  rows (s : ℕ) : (db.subscriptions.get? s).isSome → (db'.subscriptions.get? s).isSome
  accounts (a : ℕ) : (db.accounts.get? a).isSome → (db'.accounts.get? a).isSome

theorem Kept.refl (db : Database) : Kept cooldown db db :=
    ⟨fun _ _ h => h, fun _ h => h, fun _ h => h⟩

section Tidied
variable {s : ℕ}

theorem Tidy.mono {clock' : Time} (h : Tidy cooldown db clock) (hle : clock ≤ clock') :
    Tidy cooldown db clock' :=
  ⟨h.ownership, fun s d htaken => ⟨(h.used s d htaken).1.trans hle, (h.used s d htaken).2⟩,
    h.accounts, h.schedules⟩

theorem Tidy.of_rest (h : Tidy cooldown db clock) (hown : OwnershipInvariant db')
    (hkeys : ∀ s d, db'.keyTaken (slotKey cooldown s d) → db.keyTaken (slotKey cooldown s d))
    (hrest : rest db' = rest db) : Tidy cooldown db' clock := by
  simp only [rest, Prod.mk.injEq] at hrest
  obtain ⟨haccounts, hsubscriptions, -, -⟩ := hrest
  refine ⟨hown, fun s d htaken => ?_, fun s => ?_, fun s => ?_⟩
  · rw [hsubscriptions]
    exact h.used s d (hkeys s d htaken)
  · rw [hsubscriptions, haccounts]
    exact h.accounts s
  · rw [hsubscriptions]
    exact h.schedules s

/-- New slots are ahead of the clock, and the others are as they were. -/
theorem Tidy.of_subscriptions (h : Tidy cooldown db clock) {rows : Table Subscription}
    (hrows : ∀ s subscription, rows.get? s = some subscription →
      (db.accounts.get? subscription.cloudAccountId).isSome ∧ Scheduled subscription ∧
      ∀ next, subscription.nextScanAt = some next → clock < next ∨
        ∃ old, db.subscriptions.get? s = some old ∧ old.nextScanAt = some next) :
    Tidy cooldown { db with subscriptions := rows } clock where
  ownership := ⟨h.ownership.custody, h.ownership.linked⟩
  used s d htaken := by
    obtain ⟨hle, hbefore⟩ := h.used s d htaken
    refine ⟨hle, fun subscription next hrow hnext => ?_⟩
    rcases (hrows s subscription hrow).2.2 next hnext with hlt | ⟨old, hold, hslot⟩
    · exact lt_of_le_of_lt hle hlt
    · exact hbefore old next hold hslot
  accounts s subscription hrow := (hrows s subscription hrow).1
  schedules s subscription hrow := (hrows s subscription hrow).2.1

theorem Tidy.worked (h : Tidy cooldown db clock) (step : Step) :
    Tidy cooldown (worked step db) clock ∧ Kept cooldown db (worked step db) := by
  obtain ⟨hown, hrest, hsame⟩ := worked_calls step db h.ownership
  have htables := hrest
  simp only [rest, Prod.mk.injEq] at htables
  obtain ⟨haccounts, hsubscriptions, -, -⟩ := htables
  have hkeys (s : ℕ) (d : Time) (htaken :
      (ScanEnqueue.worked step db).keyTaken (slotKey cooldown s d)) :
      db.keyTaken (slotKey cooldown s d) := keyTaken_of_identities hsame htaken
  refine ⟨h.of_rest hown hkeys hrest, hkeys, fun s => ?_, fun a => ?_⟩
  · rw [hsubscriptions]
    exact id
  · rw [haccounts]
    exact id

theorem Tidy.enqueued (h : Tidy cooldown db clock) (new : NewTask) :
    Tidy cooldown (enqueued new now db) clock ∧ Kept cooldown db (enqueued new now db) := by
  unfold ScanSchedules.enqueued
  split_ifs with hscheduled
  · exact ⟨h, .refl db⟩
  cases hcreated : createTask db now new with
  | error e => exact ⟨h, .refl db⟩
  | ok created =>
    obtain ⟨id, db'⟩ := created
    have hkeys (s : ℕ) (d : Time) (htaken : db'.keyTaken (slotKey cooldown s d)) :
        db.keyTaken (slotKey cooldown s d) := by
      rcases keyTaken_created hcreated htaken with hbefore | hown
      · exact hbefore
      · rw [hown] at hscheduled
        exact absurd (isScheduledKey_slotKey s d) hscheduled
    have hown := createTask_custody h.ownership hcreated
    obtain ⟨-, -, rfl⟩ := createTask_ok hcreated
    exact ⟨h.of_rest hown hkeys rfl, hkeys, fun _ h => h, fun _ h => h⟩

theorem slot_ok {enabled : Bool} {delta next : Time} {found : Option Time} {value : String}
    (hparse : parseSchedule value = .ok delta) (h : slot enabled now delta = .ok found)
    (hnext : found = some next) : now < next := by
  subst hnext
  unfold slot at h
  split at h
  · cases hlater : later now delta with
    | error e =>
      rw [hlater] at h
      cases h
    | ok moment =>
      rw [hlater] at h
      cases h
      exact lt_later hparse hlater
  · cases h

theorem createSubscription_ok {payload : SubscriptionCreate} {share : ShareInfo}
    {encrypted : String} {id : ℕ}
    (h : createSubscription db now payload share encrypted = .ok (id, db')) :
    ∃ row : Subscription, (db.accounts.get? row.cloudAccountId).isSome ∧ Scheduled row ∧
      (∀ next, row.nextScanAt = some next → now < next) ∧
      db' = { db with subscriptions := db.subscriptions.insert row } := by
  unfold createSubscription at h
  split at h
  · cases h
  rename_i account haccount
  split at h
  · cases h
  obtain ⟨delta, hparse, h⟩ := bind_ok h
  obtain ⟨next, hslot, h⟩ := bind_ok h
  cases h
  refine ⟨_, Option.isSome_of_eq_some haccount, ?_, fun next => slot_ok hparse hslot, rfl⟩
  exact fun _ => ⟨delta, hparse⟩

theorem applied_account {payload : SubscriptionUpdate} {old changed : Subscription}
    (h : payload.applied old = .ok changed) : changed.cloudAccountId = old.cloudAccountId := by
  unfold SubscriptionUpdate.applied at h
  obtain ⟨_, -, h⟩ := bind_ok h
  obtain ⟨_, -, h⟩ := bind_ok h
  obtain ⟨_, -, h⟩ := bind_ok h
  obtain ⟨_, -, h⟩ := bind_ok h
  obtain ⟨_, -, h⟩ := bind_ok h
  cases h
  rfl

theorem updateSubscription_ok {payload : SubscriptionUpdate}
    (h : updateSubscription db now s payload = .ok db') :
    ∃ old row : Subscription, db.subscriptions.get? s = some old ∧
      row.cloudAccountId = old.cloudAccountId ∧ Scheduled row ∧
      (∀ next, row.nextScanAt = some next → now < next) ∧
      db' = { db with subscriptions := db.subscriptions.update (fun id _ => id = s) fun _ _ =>
        row } := by
  unfold updateSubscription at h
  split at h
  · cases h
  rename_i old hold
  obtain ⟨changed, hchanged, h⟩ := bind_ok h
  obtain ⟨found, hfound, h⟩ := bind_ok h
  cases h
  have haccount : changed.cloudAccountId = old.cloudAccountId := applied_account hchanged
  unfold patchedSlot at hfound
  split at hfound
  next =>
    obtain ⟨delta, hparse, hslot⟩ := bind_ok hfound
    exact ⟨old, { changed with nextScanAt := found }, hold, haccount, fun _ => ⟨delta, hparse⟩,
      fun next hnext => slot_ok hparse hslot hnext, rfl⟩
  next hdisabled =>
    cases hfound
    refine ⟨old, { changed with nextScanAt := none }, hold, haccount,
      fun henabled => absurd henabled hdisabled, fun next hnext => ?_, rfl⟩
    cases hnext

theorem Tidy.created (h : Tidy cooldown db clock) (hclock : clock ≤ now)
    (payload : SubscriptionCreate) (share : ShareInfo) (encrypted : String) :
    let db' := settled db ((createSubscription db now payload share encrypted).map Prod.snd)
    Tidy cooldown db' clock ∧ Kept cooldown db db' := by
  intro db'
  cases hcreated : createSubscription db now payload share encrypted with
  | error e =>
    simp only [db', hcreated]
    exact ⟨h, .refl db⟩
  | ok created =>
    obtain ⟨id, after⟩ := created
    simp only [db', hcreated]
    obtain ⟨row, haccount, hschedule, hslot, rfl⟩ := createSubscription_ok hcreated
    refine ⟨h.of_subscriptions fun s subscription hrow => ?_, fun _ _ h => h, fun s hs => ?_,
      fun _ h => h⟩
    · rw [Table.get?_insert] at hrow
      split at hrow
      · cases hrow
        exact ⟨haccount, hschedule,
          fun next hnext => .inl (lt_of_le_of_lt hclock (hslot next hnext))⟩
      · exact ⟨h.accounts s subscription hrow, h.schedules s subscription hrow,
          fun next hnext => .inr ⟨subscription, hrow, hnext⟩⟩
    · obtain ⟨old, hold⟩ := Option.isSome_iff_exists.mp hs
      exact Option.isSome_of_eq_some (Table.get?_insert_of_some hold)

/-- Rewriting rows in place, with slots ahead of the clock or as they were. -/
theorem Tidy.updated (h : Tidy cooldown db clock) {p : ℕ → Subscription → Bool}
    {f : ℕ → Subscription → Subscription}
    (hf : ∀ s old, db.subscriptions.get? s = some old → p s old →
      (f s old).cloudAccountId = old.cloudAccountId ∧ (Scheduled old → Scheduled (f s old)) ∧
      ∀ next, (f s old).nextScanAt = some next → clock < next ∨ old.nextScanAt = some next) :
    Tidy cooldown { db with subscriptions := db.subscriptions.update p f } clock ∧
      Kept cooldown db { db with subscriptions := db.subscriptions.update p f } := by
  refine ⟨h.of_subscriptions fun s subscription hrow => ?_, fun _ _ h => h, fun s hs => ?_,
    fun _ h => h⟩
  · rw [Table.get?_update, Option.map_eq_some_iff] at hrow
    obtain ⟨old, hold, rfl⟩ := hrow
    split
    · rename_i hp
      obtain ⟨haccount, hschedule, hslot⟩ := hf s old hold hp
      rw [haccount]
      exact ⟨h.accounts s old hold, hschedule (h.schedules s old hold), fun next hnext =>
        (hslot next hnext).imp_right fun hsame => ⟨old, hold, hsame⟩⟩
    · exact ⟨h.accounts s old hold, h.schedules s old hold,
        fun next hnext => .inr ⟨old, hold, hnext⟩⟩
  · rw [Table.get?_update, Option.isSome_map]
    exact hs

theorem Tidy.patched (h : Tidy cooldown db clock) (hclock : clock ≤ now) (s : ℕ)
    (payload : SubscriptionUpdate) :
    Tidy cooldown (settled db (updateSubscription db now s payload)) clock ∧
      Kept cooldown db (settled db (updateSubscription db now s payload)) := by
  cases hpatched : updateSubscription db now s payload with
  | error e => exact ⟨h, .refl db⟩
  | ok after =>
    obtain ⟨old, row, hold, haccount, hschedule, hslot, rfl⟩ := updateSubscription_ok hpatched
    refine h.updated fun s' old' hold' hs' => ?_
    rw [of_decide_eq_true hs', hold] at hold'
    cases hold'
    exact ⟨haccount, fun _ => hschedule,
      fun next hnext => .inl (lt_of_le_of_lt hclock (hslot next hnext))⟩

/-- A transaction of somebody else while the scheduler is at work. -/
theorem Tidy.transaction (h : Tidy cooldown db clock) (hclock : clock ≤ now) (move : Move) :
    Tidy cooldown (move.transaction now db) clock ∧ Kept cooldown db (move.transaction now db) := by
  cases move with
  | work step => exact h.worked step
  | enqueue new => exact h.enqueued new
  | connect account =>
    have haccounts (a : ℕ) (ha : (db.accounts.get? a).isSome) :
        ((db.accounts.insert account).get? a).isSome := by
      obtain ⟨old, hold⟩ := Option.isSome_iff_exists.mp ha
      exact Option.isSome_of_eq_some (Table.get?_insert_of_some hold)
    refine ⟨⟨⟨h.ownership.custody, h.ownership.linked⟩, h.used, fun s subscription hrow => ?_,
      h.schedules⟩,
      fun _ _ h => h, fun _ h => h, haccounts⟩
    exact haccounts _ (h.accounts s subscription hrow)
  | create payload share encrypted => exact h.created hclock payload share encrypted
  | patch s payload => exact h.patched hclock s payload
  | scanned s status lastScannedAt lastFullScannedAt lastError =>
    exact h.updated fun s old _ _ => ⟨rfl, id, fun next hnext => .inr hnext⟩
  | tick elapsed => exact ⟨h, .refl db⟩
  | gate blocked => exact ⟨h, .refl db⟩

/-- A worker did it. -/
def works : Move → Bool
  | .work _ => true
  | _ => false

/-- Without workers a scan that was active is active. -/
theorem transaction_active {move : Move} (hquiet : works move = false) {id : ℕ}
    (h : ActiveScan db s id) : ActiveScan (move.transaction now db) s id := by
  cases move with
  | work step => cases hquiet
  | enqueue new =>
    change ActiveScan (ScanSchedules.enqueued new now db) s id
    unfold ScanSchedules.enqueued
    split
    · exact h
    cases hcreated : createTask db now new with
    | error e => exact h
    | ok created =>
      obtain ⟨-, -, hinserted⟩ := createTask_ok hcreated
      obtain ⟨task, htask, hactive⟩ := h
      refine ⟨task, ?_, hactive⟩
      change created.2.tasks.get? id = some task
      rw [hinserted]
      exact Table.get?_insert_of_some htask
  | create payload share encrypted =>
    change ActiveScan (settled db ((createSubscription db now payload share encrypted).map
      Prod.snd)) s id
    cases hcreated : createSubscription db now payload share encrypted with
    | error e => exact h
    | ok created =>
      obtain ⟨row, -, -, -, hinserted⟩ := createSubscription_ok hcreated
      refine (activeScan_of_tasks ?_).mpr h
      change created.2.tasks = db.tasks
      rw [hinserted]
  | patch s' payload =>
    change ActiveScan (settled db (updateSubscription db now s' payload)) s id
    cases hpatched : updateSubscription db now s' payload with
    | error e => exact h
    | ok after =>
      obtain ⟨-, -, -, -, -, -, rfl⟩ := updateSubscription_ok hpatched
      exact h
  | connect account => exact h
  | scanned => exact h
  | tick => exact h
  | gate => exact h

/-! ## What the scheduler writes -/

/-- The rows of a batch get slots ahead of the clock. -/
theorem Tidy.rescheduled (h : Tidy cooldown db clock) {moved : List (ℕ × Time)}
    (hmoved : ∀ s next, moved.lookup s = some next → clock < next) :
    Tidy cooldown (reschedule moved db) clock ∧ Kept cooldown db (reschedule moved db) :=
  h.updated fun s _ _ _ => ⟨rfl, id, fun next hnext => .inl (hmoved s next hnext)⟩

theorem reschedule_get? (db : Database) (moved : List (ℕ × Time)) (s : ℕ) :
    (reschedule moved db).subscriptions.get? s = (db.subscriptions.get? s).map fun subscription =>
      if (moved.lookup s).isSome then { subscription with nextScanAt := moved.lookup s }
      else subscription := Table.get?_update _ _ _ s

/-- A used slot whose subscription has moved on. -/
theorem Tidy.inserted (h : Tidy cooldown db clock) {new : NewTask} {id s : ℕ} {d : Time}
    (hok : createTask db now new = .ok (id, db'))
    (hkey : new.idempotencyKey = some (slotKey cooldown s d)) (hdue : d ≤ clock)
    (hslot : ∀ subscription next, db.subscriptions.get? s = some subscription →
      subscription.nextScanAt = some next → d < next) : Tidy cooldown db' clock := by
  have hown := createTask_custody h.ownership hok
  have htaken (s' : ℕ) (d' : Time) (htaken : db'.keyTaken (slotKey cooldown s' d')) :
      db.keyTaken (slotKey cooldown s' d') ∨ s' = s ∧ d' = d := by
    refine (keyTaken_created hok htaken).imp_right fun hsame => ?_
    rw [hkey] at hsame
    obtain ⟨rfl, rfl⟩ := slotKey_inj (Option.some.inj hsame)
    exact ⟨rfl, rfl⟩
  obtain ⟨-, -, rfl⟩ := createTask_ok hok
  refine ⟨hown, fun s' d' hused => ?_, h.accounts, h.schedules⟩
  rcases htaken s' d' hused with hbefore | ⟨rfl, rfl⟩
  · exact h.used s' d' hbefore
  · exact ⟨hdue, hslot⟩

/-- The scan of a due slot is admitted. -/
theorem createTask_scheduled {subscription : Subscription} {d : Time}
    (hkey : db.keyTaken (slotKey cooldown s d) = false)
    (hrow : (db.subscriptions.get? s).isSome)
    (haccount : (db.accounts.get? subscription.cloudAccountId).isSome) :
    ∃ db', createTask db now (scheduledScan (schedulerSettings cooldown) s subscription d) =
      .ok (db.tasks.nextId, db') := by
  set row := (scheduledScan (schedulerSettings cooldown) s subscription d).row now with hrow'
  have hadmits : db.admitsTask row = true := by
    simp [hrow', Database.admitsTask, scheduledScan, NewTask.row, hkey, hrow, haccount]
  have hpending :
      (scheduledScan (schedulerSettings cooldown) s subscription d).status.getD .pending =
      .pending := rfl
  refine ⟨{ db with tasks := db.tasks.insert row }, ?_⟩
  unfold createTask
  rw [if_neg (not_not.mpr hpending), ← hrow', hadmits]
  rfl

end Tidied

end MediaSync.ScanSlots
