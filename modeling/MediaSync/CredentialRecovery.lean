import MediaSync.AccountDeletion
import MediaSync.ScanSlots

/-!
# Tasks that wait for a credential

A worker that finds the credential of an account refused leaves its scan or
transfer waiting. An account is given a new credential and found valid by three
paths, none of which looks at tasks: a scan or transfer that was ever blocked
waits on, and its subscription cannot be deleted. Only downloads are woken, one
at a time and by hand.
-/
namespace MediaSync.CredentialRecovery
open RowTables TaskTables TaskRepository SubscriptionScan
open AccountDeletion (AccountError)

/-! ## The account paths -/

/-- `CloudAccountUpdate`, with the fields that were sent; a name or a status may
be sent as null, and a null token is as good as none. -/
structure AccountUpdate where
  name : Option (Option String) := none
  refreshToken : Option String := none
  status : Option (Option String) := none

/-- How the credential of an account is replaced or verified. -/
inductive AccountPath where
  | update (payload : AccountUpdate)
  /-- The drive that the account was found to use, or the error; and a token
  that the provider has rotated meanwhile. -/
  | verify (now : Time) (outcome : Except String (Option String)) (rotated : Option String)
  | login (credential : String)

section Accounts
variable (encrypt : String → String)

/-- The row that the values leave, unless one of them is null that must not be. -/
def withValues (name status : Option String) (account : CloudAccount) :
    Except AccountError CloudAccount :=
  match name, status with
  | some name, some status => .ok { account with name := name, status := status }
  | _, _ => .error (.http (.conflict "Account name already exists"))

/-- `update_account`; a new token sets the status whatever was sent. -/
def updateAccount (payload : AccountUpdate) (account : CloudAccount) :
    Except AccountError CloudAccount :=
  let name := payload.name.getD (some account.name)
  match payload.refreshToken.filter (· ≠ "") with
  | none => withValues name (payload.status.getD (some account.status)) account
  | some token => withValues name (some "active") { account with
      refreshToken := encrypt (String.ofList (PythonText.strip token.toList))
      lastError := none }

/-- `persist_provider_token` -/
def persistProviderToken (rotated : Option String) (account : CloudAccount) : CloudAccount :=
  match rotated.filter (· ≠ "") with
  | none => account
  | some token => { account with refreshToken := encrypt token }

/-- `verify_account` -/
def verifyAccount (now : Time) (outcome : Except String (Option String)) (rotated : Option String)
    (account : CloudAccount) : CloudAccount :=
  persistProviderToken encrypt rotated <|
    match outcome with
    | .ok defaultDriveId => { account with
        defaultDriveId := defaultDriveId
        status := "active"
        lastError := none
        lastVerifiedAt := some now }
    | .error text => { account with
        status := "error"
        lastError := some text }

/-- A login with a provider, for an account that there is. -/
def providerLogin (credential : String) (account : CloudAccount) : CloudAccount :=
  { account with
    refreshToken := encrypt credential
    status := "active"
    lastError := none
    lastVerifiedAt := none }

def AccountPath.apply : AccountPath → CloudAccount → Except AccountError CloudAccount
  | update payload, account => updateAccount encrypt payload account
  | verify now outcome rotated, account => .ok (verifyAccount encrypt now outcome rotated account)
  | login credential, account => .ok (providerLogin encrypt credential account)

/-- Another account of the provider has the name. -/
def nameTaken (db : Database) (accountId : ℕ) (account : CloudAccount) : Bool :=
  (db.accounts.select fun id other =>
    id ≠ accountId && other.provider = account.provider && other.name = account.name) ≠ []

/-- The row of the account afterwards: a path that raises leaves it, and so does
one that would give it the name of another. -/
def AccountPath.patch (db : Database) (accountId : ℕ) (path : AccountPath)
    (account : CloudAccount) : CloudAccount :=
  match path.apply encrypt account with
  | .error _ => account
  | .ok patched => if nameTaken db accountId patched then account else patched

end Accounts

/-! ## Histories -/

/-- `transition` of a download, for the endpoints of downloads -/
def moveDownload (db : Database) (clock : Time) (taskId : ℕ) (expected target : TaskStatus) :
    Database :=
  match db.tasks.get? taskId with
  | none => db
  | some task =>
    if task.type ≠ "download" then db
    else (TaskOwnership.Operation.transition clock taskId expected target {}).apply db

/-- Transitions of tasks are asked for by the endpoints of downloads only. -/
def isTransition : SubscriptionHistory.Event → Bool
  | .task (.transition ..) => true
  | _ => false

inductive Event where
  | createAccount (account : CloudAccount)
  | accountPath (accountId : ℕ) (path : AccountPath)
  | deleteAccount (accountId : ℕ)
  | patchSubscription (now : Time) (subscriptionId : ℕ) (payload : ScanSchedules.SubscriptionUpdate)
  /-- `retry_download` or `cancel_download` of a download in a state -/
  | download (clock : Time) (taskId : ℕ) (expected target : TaskStatus)
  | rows (event : {event : SubscriptionHistory.Event // isTransition event = false})

def Event.apply (encrypt : String → String) (texts : Texts) (db : Database) : Event → Database
  | createAccount account => AccountDeletion.Event.apply texts db (.createAccount account)
  | accountPath accountId path =>
    AccountDeletion.Event.apply texts db (.patchAccount accountId (path.patch encrypt db accountId))
  | deleteAccount accountId => AccountDeletion.Event.apply texts db (.deleteAccount accountId)
  | patchSubscription now subscriptionId payload =>
    SubscriptionHistory.committed db
      (ScanSchedules.updateSubscription db now subscriptionId payload)
  | download clock taskId expected target => moveDownload db clock taskId expected target
  | rows event => event.1.apply texts db

def after (encrypt : String → String) (texts : Texts) (events : List Event) (db : Database) :
    Database :=
  events.foldl (Event.apply encrypt texts) db

/-! ## Waiting tasks -/

/-- The task is a scan or a transfer of the account, by itself or by its
subscription. -/
def belongs (db : Database) (accountId : ℕ) (task : Task) : Bool :=
  task.type ∈ ["scan", "transfer"] && (task.accountId = some accountId ||
    task.subscriptionId.any fun subscriptionId =>
      (db.subscriptions.get? subscriptionId).any fun subscription =>
        subscription.cloudAccountId = accountId)

/-- A scan or transfer of the account waits for its credential. -/
def waiting (db : Database) (accountId : ℕ) : Bool :=
  (db.tasks.select fun _ task =>
    task.status = .waitingCredential && belongs db accountId task) ≠ []

/-- The event ends an execution of a scan or transfer of the account with its
credential refused. -/
def Event.blocks (db : Database) (accountId : ℕ) : Event → Bool
  | rows ⟨.task (.finishRun clock taskId taskRunId workerId lockToken expected target runStatus
      details), _⟩ =>
    target = .waitingCredential &&
      (finishRun db clock taskId taskRunId workerId lockToken expected target runStatus
        details).isOk &&
      (db.tasks.get? taskId).any (belongs db accountId)
  | _ => false

/-- Some event of the history has blocked a scan or transfer of the account. -/
def everBlocked (encrypt : String → String) (texts : Texts) (accountId : ℕ) :
    List Event → Database → Bool
  | [], _ => false
  | event :: events, db => event.blocks db accountId ||
      everBlocked encrypt texts accountId events (event.apply encrypt texts db)

theorem waiting_iff {db : Database} {accountId : ℕ} : waiting db accountId ↔
    ∃ id task, db.tasks.get? id = some task ∧ task.status = .waitingCredential ∧
      belongs db accountId task := by
  unfold waiting
  rw [decide_eq_true_eq, Table.select_ne_nil]
  simp only [Bool.and_eq_true, decide_eq_true_eq]

/-- Subscriptions of tasks are there, and a waiting task is nobody's. -/
structure Sane (db : Database) : Prop where
  linked (id : ℕ) (task : Task) (subscriptionId : ℕ) : db.tasks.get? id = some task →
    task.subscriptionId = some subscriptionId →
      (db.subscriptions.get? subscriptionId).isSome
  released (id : ℕ) (task : Task) : db.tasks.get? id = some task →
    task.status = .waitingCredential → task.lockedBy = none

/-- The change keeps who waits. -/
structure Kept (db db' : Database) : Prop where
  sane : Sane db → Sane db'
  waiting (accountId : ℕ) : Sane db → waiting db' accountId = waiting db accountId

/-- The task waits for an account if it did before. -/
structure Alike (task task' : Task) : Prop where
  linked (subscriptionId : ℕ) : task'.subscriptionId = some subscriptionId →
    task.subscriptionId = some subscriptionId
  waits (db : Database) (accountId : ℕ) :
    task'.status = .waitingCredential ∧ belongs db accountId task' = true ↔
      task.status = .waitingCredential ∧ belongs db accountId task = true
  released : (task.status = .waitingCredential → task.lockedBy = none) →
    task'.status = .waitingCredential → task'.lockedBy = none

theorem Alike.refl (task : Task) : Alike task task := ⟨fun _ h => h, fun _ _ => .rfl, fun h => h⟩

theorem Alike.of_busy {task task' : Task}
    (hlinked : ∀ subscriptionId, task'.subscriptionId = some subscriptionId →
      task.subscriptionId = some subscriptionId)
    (hbefore : task.status ≠ .waitingCredential) (hafter : task'.status ≠ .waitingCredential) :
    Alike task task' :=
  ⟨hlinked, fun _ _ => iff_of_false (fun h => hafter h.1) fun h => hbefore h.1,
    fun _ h => absurd h hafter⟩

theorem belongs_type {db : Database} {accountId : ℕ} {task : Task}
    (h : belongs db accountId task = true) : task.type ∈ ["scan", "transfer"] := by
  unfold belongs at h
  exact of_decide_eq_true (Bool.and_eq_true_iff.mp h).1

section Changes
variable {db db' db'' : Database} {accountId : ℕ}

theorem Kept.trans (h : Kept db db') (h' : Kept db' db'') : Kept db db'' :=
  ⟨fun hdb => h'.sane (h.sane hdb),
    fun accountId hdb => (h'.waiting accountId (h.sane hdb)).trans (h.waiting accountId hdb)⟩

/-- The subscriptions that tasks refer to stay with their account. -/
theorem Kept.of_subscriptions (htasks : db'.tasks = db.tasks)
    (h : ∀ taskId task id subscription, db.tasks.get? taskId = some task →
      task.subscriptionId = some id → db.subscriptions.get? id = some subscription →
        ∃ subscription', db'.subscriptions.get? id = some subscription' ∧
          subscription'.cloudAccountId = subscription.cloudAccountId) : Kept db db' := by
  refine ⟨fun hdb => ⟨fun id task subscriptionId hget hlink => ?_, ?_⟩, fun accountId hdb => ?_⟩
  · rw [htasks] at hget
    obtain ⟨subscription, hsub⟩ := Option.isSome_iff_exists.mp (hdb.linked id task _ hget hlink)
    obtain ⟨subscription', hsub', -⟩ := h _ _ _ _ hget hlink hsub
    rw [hsub', Option.isSome_some]
  · rw [htasks]
    exact hdb.released
  · rw [Bool.eq_iff_iff, waiting_iff, waiting_iff, htasks]
    refine exists₂_congr fun id task => and_congr_right fun hget => and_congr_right fun _ => ?_
    have hsame : belongs db' accountId task = belongs db accountId task := by
      unfold belongs
      cases hlink : task.subscriptionId with
      | none => rfl
      | some subscriptionId =>
        obtain ⟨subscription, hsub⟩ := Option.isSome_iff_exists.mp (hdb.linked id task _ hget hlink)
        obtain ⟨subscription', hsub', haccount⟩ := h _ _ _ _ hget hlink hsub
        rw [Option.any_some, Option.any_some, hsub, hsub', Option.any_some, Option.any_some,
          haccount]
    rw [hsame]

theorem Kept.of_same (htasks : db'.tasks = db.tasks)
    (hsubs : db'.subscriptions = db.subscriptions) :
    Kept db db' :=
  .of_subscriptions htasks fun _ _ _ subscription _ _ hget => ⟨subscription, hsubs ▸ hget, rfl⟩

theorem Kept.of_updated {p : ℕ → Task → Bool} {f : Task → Task} {runs : Table TaskRun}
    (hf : ∀ id task, Sane db → db.tasks.get? id = some task → p id task = true →
      Alike task (f task)) :
    Kept db { db with tasks := db.tasks.update p fun _ => f, taskRuns := runs } := by
  have halike (hdb : Sane db) {id : ℕ} {task : Task} (hget : db.tasks.get? id = some task) :
      Alike task (if p id task then f task else task) := by
    split
    · rename_i hp
      exact hf id task hdb hget hp
    · exact .refl task
  refine ⟨fun hdb => ⟨fun id _ subscriptionId hget hlink => ?_, fun id _ hget hstatus => ?_⟩,
    fun accountId hdb => ?_⟩
  · rw [Table.get?_update, Option.map_eq_some_iff] at hget
    obtain ⟨task, hget, rfl⟩ := hget
    exact hdb.linked id task _ hget ((halike hdb hget).linked _ hlink)
  · rw [Table.get?_update, Option.map_eq_some_iff] at hget
    obtain ⟨task, hget, rfl⟩ := hget
    exact (halike hdb hget).released (hdb.released id task hget) hstatus
  · rw [Bool.eq_iff_iff, waiting_iff, waiting_iff]
    simp only [Table.get?_update, Option.map_eq_some_iff]
    constructor
    · rintro ⟨id, _, ⟨task, hget, rfl⟩, hwaits⟩
      exact ⟨id, task, hget, ((halike hdb hget).waits db accountId).mp hwaits⟩
    · rintro ⟨id, task, hget, hwaits⟩
      exact ⟨id, _, ⟨task, hget, rfl⟩, ((halike hdb hget).waits db accountId).mpr hwaits⟩

/-- A new task is pending, and its subscription is there. -/
theorem Kept.of_created {clock : Time} {new : NewTask} {id : ℕ}
    (h : createTask db clock new = .ok (id, db')) : Kept db db' := by
  obtain ⟨hadmits, -, hdb'⟩ := createTask_ok h
  have hlinked (subscriptionId : ℕ) (hlink : new.subscriptionId = some subscriptionId) :
      (db.subscriptions.get? subscriptionId).isSome = true := by
    unfold Database.admitsTask at hadmits
    simp only [Bool.and_eq_true] at hadmits
    have hsubscription := hadmits.1.2
    change new.subscriptionId.all _ = true at hsubscription
    rw [hlink, Option.all_some] at hsubscription
    exact hsubscription
  subst hdb'
  refine ⟨fun hdb => ⟨fun id task subscriptionId hget hlink => ?_, fun id task hget hstatus => ?_⟩,
    fun accountId hdb => ?_⟩
  · rw [Table.get?_insert] at hget
    split_ifs at hget
    · cases hget
      exact hlinked subscriptionId hlink
    · exact hdb.linked id task subscriptionId hget hlink
  · rw [Table.get?_insert] at hget
    split_ifs at hget
    · cases hget
      cases hstatus
    · exact hdb.released id task hget hstatus
  · rw [Bool.eq_iff_iff, waiting_iff, waiting_iff]
    constructor
    · rintro ⟨id, task, hget, hstatus, hbelongs⟩
      rw [Table.get?_insert] at hget
      split_ifs at hget
      · cases hget
        cases hstatus
      · exact ⟨id, task, hget, hstatus, hbelongs⟩
    · rintro ⟨id, task, hget, hstatus, hbelongs⟩
      exact ⟨id, task, Table.get?_insert_of_some hget, hstatus, hbelongs⟩

/-! ## Operations on tasks -/

/-- Somebody's task does not wait. -/
theorem Sane.busy (hdb : Sane db) {id : ℕ} {task : Task} {workerId : String}
    (hget : db.tasks.get? id = some task) (hlocked : task.lockedBy = some workerId) :
    task.status ≠ .waitingCredential := by
  intro hstatus
  rw [hdb.released id task hget hstatus] at hlocked
  cases hlocked

theorem claimable_busy {now : Time} {task : Task} (h : isClaimable now task = true) :
    task.status ≠ .waitingCredential := by
  intro hstatus
  unfold isClaimable at h
  rw [hstatus] at h
  cases h

theorem claimed_busy (workerId lockToken : String) (now leaseUntil : Time) (task : Task) :
    (claimed workerId lockToken now leaseUntil task).status ≠ .waitingCredential := by
  unfold claimed
  dsimp only
  split_ifs <;> exact TaskStatus.noConfusion

theorem recoveryTarget_busy {task : Task} {nextAttemptAt retryAt : Option Time}
    {target : TaskStatus} (h : recoveryTarget task nextAttemptAt = .ok (target, retryAt)) :
    target ≠ .waitingCredential := by
  unfold recoveryTarget at h
  split_ifs at h <;> cases h <;> exact TaskStatus.noConfusion

/-- A repository call that is no transition and blocks nothing keeps who waits. -/
theorem operation_kept {op : TaskOwnership.Operation}
    (hop : isTransition (.task op) = false)
    (hnot : ∀ clock taskId taskRunId workerId lockToken expected runStatus details,
      op ≠ .finishRun clock taskId taskRunId workerId lockToken expected .waitingCredential
        runStatus
        details) : Kept db (op.apply db) := by
  rcases op.apply_cases db with heq | ⟨db', hok, heq⟩ <;> rw [heq]
  · exact .of_same rfl rfl
  cases op with
  | createTask =>
    obtain ⟨id, hok⟩ := TaskOwnership.map_snd_ok hok
    exact .of_created hok
  | transition => cases hop
  | claimNext =>
    obtain ⟨claim, hok⟩ := TaskOwnership.map_snd_ok hok
    rcases claimNext_ok hok with ⟨-, hdb⟩ | ⟨id, task, started, -, -, hstarted, run, hrun⟩
    · rw [hdb]
      exact .of_same rfl rfl
    · obtain ⟨-, -, -, hdb⟩ := createRun_ok hrun
      have hclaimed : Kept db started := by
        rw [hstarted]
        refine .of_updated fun id task _ _ hp => .of_busy (fun _ h => h) ?_ (claimed_busy _ _ _ _ _)
        exact claimable_busy (Bool.and_eq_true_iff.mp hp).2
      exact hclaimed.trans (.of_same (by rw [hdb]) (by rw [hdb]))
  | createRun =>
    obtain ⟨id, hok⟩ := TaskOwnership.map_snd_ok hok
    obtain ⟨-, -, -, hdb⟩ := createRun_ok hok
    exact .of_same (by rw [hdb]) (by rw [hdb])
  | heartbeat =>
    obtain ⟨-, -, hdb⟩ := heartbeat_ok hok
    rw [hdb]
    exact .of_updated fun id task _ _ _ => ⟨fun _ h => h, fun _ _ => .rfl, fun h => h⟩
  | finishRun clock taskId taskRunId workerId lockToken expected target runStatus details =>
    obtain ⟨-, -, -, -, -, -, hdb⟩ := finishRun_ok hok
    rw [hdb]
    refine .of_updated fun id task hsane hget hp => .of_busy (fun _ h => h) ?_ ?_
    · simp only [ownedBy, Bool.and_eq_true, decide_eq_true_eq] at hp
      exact hsane.busy hget hp.1.1.1.2
    · intro htarget
      change target = .waitingCredential at htarget
      exact hnot _ _ _ _ _ _ _ _ (by rw [htarget])
  | listExpiredLeases =>
    rw [TaskOwnership.map_const_ok hok]
    exact .of_same rfl rfl
  | recoverExpiredLease =>
    obtain ⟨done, hok⟩ := TaskOwnership.map_snd_ok hok
    rcases recoverExpiredLease_ok hok with
      ⟨-, hdb⟩ | ⟨id, task, target, retryAt, -, -, htarget, -, hdb⟩
    · rw [hdb]
      exact .of_same rfl rfl
    · rw [hdb]
      refine .of_updated fun id task hsane hget hp => .of_busy (fun _ h => h) ?_ ?_
      · simp only [Bool.and_eq_true, decide_eq_true_eq] at hp
        exact hsane.busy hget hp.1.1.2
      · exact recoveryTarget_busy htarget

/-- A scan or transfer that is blocked waits, and nothing else changes. -/
theorem finishRun_blocks {clock : Time} {taskId taskRunId : ℕ} {workerId lockToken : String}
    {expected : TaskStatus} {runStatus : TaskRunStatus} {details : FinishDetails} (hsane : Sane db)
    (h : finishRun db clock taskId taskRunId workerId lockToken expected .waitingCredential
      runStatus details = .ok db') :
    Sane db' ∧ waiting db' accountId =
      (waiting db accountId || (db.tasks.get? taskId).any (belongs db accountId)) := by
  obtain ⟨-, -, -, -, howned, -, hdb⟩ := finishRun_ok h
  obtain ⟨id, row, hrow, hp⟩ := Table.select_ne_nil.mp howned
  have hid {id : ℕ} {task : Task} (hp : (ownedBy taskId workerId lockToken clock id task &&
      decide (task.status = expected)) = true) : id = taskId ∧ task.lockedBy = some workerId := by
    simp only [ownedBy, Bool.and_eq_true, decide_eq_true_eq] at hp
    exact ⟨hp.1.1.1.1, hp.1.1.1.2⟩
  obtain rfl := (hid hp).1
  subst hdb
  refine ⟨⟨fun id' _ subscriptionId hget hlink => ?_, fun id' _ hget hstatus => ?_⟩, ?_⟩
  · rw [Table.get?_update, Option.map_eq_some_iff] at hget
    obtain ⟨task, hget, rfl⟩ := hget
    refine hsane.linked id' task subscriptionId hget ?_
    split at hlink <;> exact hlink
  · rw [Table.get?_update, Option.map_eq_some_iff] at hget
    obtain ⟨task, hget, rfl⟩ := hget
    split at hstatus
    · rename_i howned'
      rw [if_pos howned']
      rfl
    · rename_i hother
      rw [if_neg hother]
      exact hsane.released id' task hget hstatus
  · rw [hrow, Option.any_some, Bool.eq_iff_iff, Bool.or_eq_true, waiting_iff, waiting_iff]
    simp only [Table.get?_update, Option.map_eq_some_iff]
    constructor
    · rintro ⟨id', _, ⟨task, hget, rfl⟩, hstatus, hbelongs⟩
      split at hstatus
      · rename_i howned'
        rw [if_pos howned'] at hbelongs
        obtain rfl := (hid howned').1
        rw [hrow] at hget
        cases hget
        exact .inr hbelongs
      · rename_i hother
        rw [if_neg hother] at hbelongs
        exact .inl ⟨id', task, hget, hstatus, hbelongs⟩
    · rintro (⟨id', task, hget, hstatus, hbelongs⟩ | hbelongs)
      · refine ⟨id', _, ⟨task, hget, rfl⟩, ?_⟩
        rw [if_neg fun howned' => hsane.busy hget (hid howned').2 hstatus]
        exact ⟨hstatus, hbelongs⟩
      · refine ⟨id, _, ⟨row, hrow, rfl⟩, ?_⟩
        rw [if_pos hp]
        exact ⟨rfl, hbelongs⟩

theorem finishRun_waiting {clock : Time} {taskId taskRunId : ℕ} {workerId lockToken : String}
    {expected : TaskStatus} {runStatus : TaskRunStatus} {details : FinishDetails}
    (hsane : Sane db) :
    Sane ((TaskOwnership.Operation.finishRun clock taskId taskRunId workerId lockToken expected
        .waitingCredential runStatus details).apply db) ∧
      waiting ((TaskOwnership.Operation.finishRun clock taskId taskRunId workerId lockToken expected
        .waitingCredential runStatus details).apply db) accountId =
      (waiting db accountId || ((finishRun db clock taskId taskRunId workerId lockToken expected
        .waitingCredential runStatus details).isOk &&
          (db.tasks.get? taskId).any (belongs db accountId))) := by
  unfold TaskOwnership.Operation.apply TaskOwnership.Operation.result
  dsimp only
  cases hfinish : finishRun db clock taskId taskRunId workerId lockToken expected
      .waitingCredential runStatus details with
  | error e => exact ⟨hsane, (Bool.or_false _).symm⟩
  | ok db' => exact finishRun_blocks hsane hfinish

/-- A download that is moved is no scan and no transfer. -/
theorem moveDownload_kept (clock : Time) (taskId : ℕ) (expected target : TaskStatus) :
    Kept db (moveDownload db clock taskId expected target) := by
  unfold moveDownload
  split
  · exact .of_same rfl rfl
  rename_i task hget
  split_ifs with htype
  · exact .of_same rfl rfl
  rw [not_not] at htype
  rcases TaskOwnership.Operation.apply_cases db (.transition clock taskId expected target {}) with
    heq | ⟨db', hok, heq⟩ <;> rw [heq]
  · exact .of_same rfl rfl
  obtain ⟨hcan, -, hleased, hdb⟩ := transition_ok hok
  rw [hdb]
  refine .of_updated fun id row _ hrow hp => ?_
  obtain rfl : id = taskId := of_decide_eq_true (Bool.and_eq_true_iff.mp hp).1
  rw [hget] at hrow
  cases hrow
  have htarget : target ≠ .waitingCredential := by
    rintro rfl
    cases expected with
    | running => cases hleased rfl
    | _ => cases hcan
  have hother {row : Task} {db : Database} {accountId : ℕ}
      (h : row.status = .waitingCredential ∧ belongs db accountId row = true)
      (hrow : row.type = task.type) : False := by
    have hkind := belongs_type h.2
    rw [hrow, htype] at hkind
    exact absurd hkind (by decide)
  refine ⟨fun _ h => h, fun db accountId => ?_, fun _ h => absurd h htarget⟩
  exact ⟨fun h => (hother h rfl).elim, fun h => (hother h rfl).elim⟩

/-! ## Deleting subscriptions -/

theorem Kept.of_deleted {subscriptionId : ℕ} (htasks : db'.tasks = db.tasks)
    (hsubs : db'.subscriptions = db.subscriptions.delete fun id _ => id = subscriptionId)
    (hfree : ∀ id task, db.tasks.get? id = some task → task.subscriptionId ≠ some subscriptionId) :
    Kept db db' := by
  refine .of_subscriptions htasks fun taskId task id subscription hget hlink hsub => ?_
  have hother : id ≠ subscriptionId := by
    rintro rfl
    exact hfree taskId task hget hlink
  refine ⟨subscription, ?_, rfl⟩
  rw [hsubs, Table.get?_delete, hsub]
  simp [hother]

theorem cascade_kept {subscriptionId : ℕ}
    (hfree : ∀ id task, db.tasks.get? id = some task → task.subscriptionId ≠ some subscriptionId) :
    Kept db (SubscriptionHistory.cascade db subscriptionId) := by
  have hfiles : Kept db { db with
      tasks := db.tasks.update (fun _ => SubscriptionHistory.usesFileOf db subscriptionId)
        fun _ => SubscriptionHistory.withoutFile } :=
    .of_updated fun id task _ _ _ => ⟨fun _ h => h, fun _ _ => .rfl, fun h => h⟩
  refine hfiles.trans (.of_deleted rfl rfl fun id _ hget => ?_)
  rw [Table.get?_update, Option.map_eq_some_iff] at hget
  obtain ⟨task, hget, rfl⟩ := hget
  have hsame := hfree id task hget
  split
  · exact hsame
  · exact hsame

/-- A subscription goes only when none of its tasks waits. -/
theorem deleteSubscription_kept {subscriptionId : ℕ}
    (h : SubscriptionHistory.deleteSubscription db subscriptionId = .ok db') : Kept db db' := by
  unfold SubscriptionHistory.deleteSubscription at h
  split_ifs at h with hmissing hactive
  cases h
  have hended {id : ℕ} {task : Task} (hget : db.tasks.get? id = some task)
      (hlink : task.subscriptionId = some subscriptionId) : task.status.terminal = true := by
    rw [not_not] at hactive
    by_contra hopen
    refine Table.select_ne_nil.mpr ⟨id, task, hget, ?_⟩ hactive
    rw [hlink]
    simpa using hopen
  have hdetached : Kept db { db with
      tasks := db.tasks.update (fun _ task => task.subscriptionId = some subscriptionId)
        fun _ => SubscriptionHistory.detached } := by
    refine .of_updated fun id task _ hget hp => ?_
    have hbusy : task.status ≠ .waitingCredential := by
      intro hstatus
      have hend := hended hget (of_decide_eq_true hp)
      rw [hstatus] at hend
      cases hend
    refine .of_busy (fun _ h => ?_) hbusy hbusy
    cases h
  refine hdetached.trans (cascade_kept fun id _ hget hlink => ?_)
  rw [Table.get?_update, Option.map_eq_some_iff] at hget
  obtain ⟨task, hget, rfl⟩ := hget
  split at hlink
  · cases hlink
  · rename_i hother
    exact hother (decide_eq_true hlink)

/-! ## Every event -/

theorem committed_kept {ε : Type} {result : Except ε Database}
    (h : ∀ db', result = .ok db' → Kept db db') :
    Kept db (SubscriptionHistory.committed db result) := by
  cases result with
  | ok db' => exact h db' rfl
  | error e => exact .of_same rfl rfl

theorem addSubscription_kept {subscription : Subscription}
    (h : SubscriptionHistory.addSubscription db subscription = .ok db') : Kept db db' := by
  unfold SubscriptionHistory.addSubscription at h
  split_ifs at h
  cases h
  exact .of_subscriptions rfl fun _ _ _ other _ _ hget =>
    ⟨other, Table.get?_insert_of_some hget, rfl⟩

theorem setSubscription_kept (subscriptionId : ℕ) {f : Subscription → Subscription}
    (hf : ∀ subscription, (f subscription).cloudAccountId = subscription.cloudAccountId) :
    Kept db (setSubscription db subscriptionId f) := by
  refine .of_subscriptions rfl fun _ _ id subscription _ _ hget => ?_
  refine ⟨_, (Table.get?_update ..).trans (by rw [hget, Option.map_some]), ?_⟩
  split
  · exact hf subscription
  · rfl

theorem updateSubscription_kept {now : Time} {subscriptionId : ℕ}
    {payload : ScanSchedules.SubscriptionUpdate}
    (h : ScanSchedules.updateSubscription db now subscriptionId payload = .ok db') :
    Kept db db' := by
  obtain ⟨old, row, hold, haccount, -, -, rfl⟩ := ScanSlots.updateSubscription_ok h
  refine .of_subscriptions rfl fun _ _ id subscription _ _ hget => ?_
  refine ⟨_, (Table.get?_update ..).trans (by rw [hget, Option.map_some]), ?_⟩
  split
  · rename_i hid
    rw [of_decide_eq_true hid, hold] at hget
    cases hget
    exact haccount
  · rfl

theorem page_kept (subscriptionId : ℕ) : PageWrites.Allows subscriptionId Kept where
  trans := .trans
  rows _ hsubs htasks := .of_same htasks hsubs
  queue := .of_created

/-- Who waits after an event: who waited, and whom it has blocked. -/
theorem apply_waiting (encrypt : String → String) (texts : Texts) (event : Event)
    (hsane : Sane db) :
    Sane (event.apply encrypt texts db) ∧ waiting (event.apply encrypt texts db) accountId =
      (waiting db accountId || event.blocks db accountId) := by
  have hkept {db' : Database} (h : Kept db db') (hnot : event.blocks db accountId = false) :
      Sane db' ∧ waiting db' accountId = (waiting db accountId || event.blocks db accountId) := by
    rw [hnot, Bool.or_false]
    exact ⟨h.sane hsane, h.waiting accountId hsane⟩
  cases event with
  | createAccount account =>
    refine hkept (committed_kept fun db' h => ?_) rfl
    unfold AccountDeletion.createAccount at h
    split_ifs at h
    cases h
    exact .of_same rfl rfl
  | accountPath => exact hkept (.of_same rfl rfl) rfl
  | deleteAccount =>
    refine hkept (committed_kept fun db' h => ?_) rfl
    unfold AccountDeletion.deleteAccount at h
    split_ifs at h
    cases h
    exact .of_same rfl rfl
  | patchSubscription => exact hkept (committed_kept fun db' => updateSubscription_kept) rfl
  | download => exact hkept (moveDownload_kept _ _ _ _) rfl
  | rows event =>
    obtain ⟨event, hevent⟩ := event
    cases event with
    | addSubscription => exact hkept (committed_kept fun db' => addSubscription_kept) rfl
    | page => exact hkept (PageWrites.page_writes (page_kept _) texts _ _ _ _) rfl
    | stampCheckpoint => exact hkept (.of_same rfl rfl) rfl
    | dropUnseen => exact hkept (.of_same rfl rfl) rfl
    | scanFinished => exact hkept (setSubscription_kept _ fun _ => rfl) rfl
    | deleteSubscription => exact hkept (committed_kept fun db' => deleteSubscription_kept) rfl
    | task op =>
      by_cases hblocks : ∃ clock taskId taskRunId workerId lockToken expected runStatus details,
          op = .finishRun clock taskId taskRunId workerId lockToken expected .waitingCredential
            runStatus details
      · obtain ⟨clock, taskId, taskRunId, workerId, lockToken, expected, runStatus, details, rfl⟩ :=
          hblocks
        exact finishRun_waiting hsane
      · refine hkept (operation_kept hevent fun _ _ _ _ _ _ _ _ heq =>
          hblocks ⟨_, _, _, _, _, _, _, _, heq⟩) ?_
        cases op with
        | finishRun clock taskId taskRunId workerId lockToken expected target runStatus details =>
          have htarget : target ≠ .waitingCredential := by
            rintro rfl
            exact hblocks ⟨_, _, _, _, _, _, _, _, rfl⟩
          unfold Event.blocks
          dsimp only
          rw [decide_eq_false htarget, Bool.false_and, Bool.false_and]
        | _ => rfl

theorem after_waiting (encrypt : String → String) (texts : Texts) (events : List Event)
    (hsane : Sane db) : waiting (after encrypt texts events db) accountId =
      (waiting db accountId || everBlocked encrypt texts accountId events db) := by
  induction events generalizing db with
  | nil => exact (Bool.or_false _).symm
  | cons event events ih =>
    obtain ⟨hnext, hwaiting⟩ : Sane (event.apply encrypt texts db) ∧
        waiting (event.apply encrypt texts db) accountId =
          (waiting db accountId || event.blocks db accountId) :=
      apply_waiting encrypt texts event hsane
    unfold everBlocked
    rw [← Bool.or_assoc, ← hwaiting]
    exact ih hnext

end Changes

theorem sane_empty : Sane {} where
  linked _ _ _ hget := by
    rw [Table.get?_empty] at hget
    contradiction
  released _ _ hget := by
    rw [Table.get?_empty] at hget
    contradiction

/-- After an account was given a credential or verified, by whatever path, its
scans and transfers wait exactly if one of them was ever blocked. -/
theorem recovered_iff_never_blocked (encrypt : String → String) (texts : Texts)
    (events : List Event) (accountId : ℕ) (path : AccountPath) :
    waiting (after encrypt texts (events ++ [.accountPath accountId path]) {}) accountId = false ↔
      everBlocked encrypt texts accountId events {} = false := by
  have hpath : after encrypt texts (events ++ [.accountPath accountId path]) {} =
      (Event.accountPath accountId path).apply encrypt texts (after encrypt texts events {}) := by
    unfold after
    rw [List.foldl_append]
    rfl
  have hsame :
      waiting (after encrypt texts (events ++ [.accountPath accountId path]) {}) accountId =
      waiting (after encrypt texts events {}) accountId := by
    rw [hpath]
    rfl
  rw [hsame, after_waiting encrypt texts events sane_empty]
  rfl

/-- A scan asked for by hand finds the credential refused. -/
def blockedOnce : List Event :=
  [.createAccount AccountDeletion.sampleAccount,
    .rows ⟨.addSubscription AccountDeletion.sampleSubscription, rfl⟩,
    .rows ⟨.task (.createTask 10
      (ScanEnqueue.manualScan 1 AccountDeletion.sampleSubscription false)), rfl⟩,
    .rows ⟨.task (.claimNext 20 "token" "worker" 60000000 none), rfl⟩,
    .rows ⟨.task (.finishRun 30 1 1 "worker" "token" .running .waitingCredential .blocked
      { blockedReason := some "credential" }), rfl⟩]

/-- The account has a new credential and was verified, and the scan waits on. -/
theorem blocked_scan_kept :
    let path := AccountPath.verify 50 (.ok none) none
    let db := after id AccountDeletion.sampleTexts (blockedOnce ++
      [.accountPath 1 (.update { refreshToken := some "new" }), .accountPath 1 path]) {}
    ((db.accounts.get? 1).any fun account => account.status = "active" &&
      account.refreshToken = "new") ∧
      ¬∀ (events : List Event) (accountId : ℕ) (path : AccountPath),
        waiting (after id AccountDeletion.sampleTexts (events ++ [.accountPath accountId path]) {})
          accountId = false := by
  refine ⟨by decide +kernel, fun h => ?_⟩
  have hwaits : waiting (after id AccountDeletion.sampleTexts
      ((blockedOnce ++ [.accountPath 1 (.update { refreshToken := some "new" })]) ++
        [.accountPath 1 (.verify 50 (.ok none) none)]) {}) 1 = true := by decide +kernel
  rw [h] at hwaits
  cases hwaits

end MediaSync.CredentialRecovery
