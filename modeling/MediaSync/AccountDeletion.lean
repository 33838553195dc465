import MediaSync.PageWrites
import MediaSync.ScanEnqueue

/-!
# Deleting accounts

An account is deleted once no subscription uses it. The tasks of its deleted
subscriptions are kept as a history, and those that were created with the
account go on referring to it, so that the database refuses to delete the row.
-/
namespace MediaSync.AccountDeletion
open RowTables TaskTables TaskRepository SubscriptionScan SubscriptionHistory

inductive AccountError where
  | http (e : HttpError)
  /-- The foreign key of a row that stays restricts the deletion. -/
  | integrity
  deriving DecidableEq, Repr

def hasSubscriptions (db : Database) (accountId : ℕ) : Bool :=
  (db.subscriptions.select fun _ subscription => subscription.cloudAccountId = accountId) ≠ []

/-- A task refers to the account. -/
def named (db : Database) (accountId : ℕ) : Bool :=
  (db.tasks.select fun _ task => task.accountId = some accountId) ≠ []

/-- `delete_account` -/
def deleteAccount (db : Database) (accountId : ℕ) : Except AccountError Database :=
  if (db.accounts.get? accountId).isNone then
    .error (.http (.notFound "Cloud account not found"))
  else if hasSubscriptions db accountId then
    .error (.http (.conflict "请先删除使用该账号的分享订阅，再删除云盘账号"))
  else if named db accountId then .error .integrity
  else .ok { db with accounts := db.accounts.delete fun id _ => id = accountId }

/-- The insert of `create_account`, under `uq_account_provider_name`. -/
def createAccount (db : Database) (account : CloudAccount) : Except AccountError Database :=
  if (db.accounts.select fun _ other =>
      other.provider = account.provider && other.name = account.name) ≠ [] then
    .error (.http (.conflict "Account name already exists"))
  else .ok { db with accounts := db.accounts.insert account }

/-! ## Histories -/

inductive Event where
  | createAccount (account : CloudAccount)
  /-- A new name, a new credential, a verification. -/
  | patchAccount (accountId : ℕ) (patch : CloudAccount → CloudAccount)
  | deleteAccount (accountId : ℕ)
  | rows (event : SubscriptionHistory.Event)

def Event.apply (texts : Texts) (db : Database) : Event → Database
  | createAccount account => committed db (AccountDeletion.createAccount db account)
  | patchAccount accountId patch =>
    { db with accounts := db.accounts.update (fun id _ => id = accountId) fun _ => patch }
  | deleteAccount accountId => committed db (AccountDeletion.deleteAccount db accountId)
  | rows event => event.apply texts db

def after (texts : Texts) (events : List Event) (db : Database) : Database :=
  events.foldl (Event.apply texts) db

/-- The event creates a task with the account. -/
def Event.names (db : Database) (accountId : ℕ) : Event → Bool
  | rows (.task (.createTask clock new)) =>
    new.accountId = some accountId && (createTask db clock new).isOk
  | _ => false

/-- Some event of the history has created a task with the account. -/
def everNamed (texts : Texts) (accountId : ℕ) : List Event → Database → Bool
  | [], _ => false
  | event :: events, db =>
    event.names db accountId || everNamed texts accountId events (event.apply texts db)

/-! ## Which tasks refer to an account -/

theorem named_iff {db : Database} {accountId : ℕ} : named db accountId ↔
    ∃ id task, db.tasks.get? id = some task ∧ task.accountId = some accountId := by
  unfold named
  rw [decide_eq_true_eq, Table.select_ne_nil]
  simp only [decide_eq_true_eq]

/-- The tasks refer to the accounts they referred to before. -/
def SameAccounts (db db' : Database) : Prop := ∀ accountId, named db' accountId = named db accountId

section Steps
variable {db db' db'' : Database} {accountId : ℕ}

theorem SameAccounts.trans (h : SameAccounts db db') (h' : SameAccounts db' db'') :
    SameAccounts db db'' := fun accountId => (h' accountId).trans (h accountId)

theorem SameAccounts.of_same (h : db'.tasks = db.tasks) : SameAccounts db db' := by
  intro accountId
  unfold named
  rw [h]

theorem SameAccounts.of_updated {p : ℕ → Task → Bool} {f : Task → Task} {runs : Table TaskRun}
    (hf : ∀ task, (f task).accountId = task.accountId) :
    SameAccounts db { db with tasks := db.tasks.update p fun _ => f, taskRuns := runs } := by
  intro accountId
  have hsame (id : ℕ) (task : Task) :
      (if p id task then f task else task).accountId = task.accountId := by
    split_ifs
    · exact hf task
    · rfl
  rw [Bool.eq_iff_iff, named_iff, named_iff]
  simp only [Table.get?_update, Option.map_eq_some_iff]
  constructor
  · rintro ⟨id, _, ⟨task, hget, rfl⟩, haccount⟩
    exact ⟨id, task, hget, (hsame id task).symm.trans haccount⟩
  · rintro ⟨id, task, hget, haccount⟩
    exact ⟨id, _, ⟨task, hget, rfl⟩, (hsame id task).trans haccount⟩

/-- Inserting a task adds its account. -/
theorem named_insert {task : Task} (htasks : db'.tasks = db.tasks.insert task) :
    named db' accountId = (named db accountId || decide (task.accountId = some accountId)) := by
  rw [Bool.eq_iff_iff, Bool.or_eq_true, decide_eq_true_eq, named_iff, named_iff, htasks]
  constructor
  · rintro ⟨id, row, hget, haccount⟩
    rw [Table.get?_insert] at hget
    split_ifs at hget
    · cases hget
      exact .inr haccount
    · exact .inl ⟨id, row, hget, haccount⟩
  · rintro (⟨id, row, hget, haccount⟩ | haccount)
    · exact ⟨id, row, Table.get?_insert_of_some hget, haccount⟩
    · exact ⟨_, _, Table.get?_insert_nextId _ _, haccount⟩

theorem SameAccounts.of_inserted {task : Task} (htasks : db'.tasks = db.tasks.insert task)
    (hnone : task.accountId = none) : SameAccounts db db' := by
  intro accountId
  rw [named_insert htasks, hnone]
  exact Bool.or_false _

/-- Of the operations on tasks only their creation brings in an account. -/
theorem operation_same {op : TaskOwnership.Operation}
    (hop : ∀ clock new, op ≠ .createTask clock new) : SameAccounts db (op.apply db) := by
  rcases op.apply_cases db with heq | ⟨db', hok, heq⟩ <;> rw [heq]
  · exact .of_same rfl
  cases op with
  | createTask clock new => exact absurd rfl (hop clock new)
  | transition =>
    obtain ⟨-, -, -, hdb⟩ := transition_ok hok
    rw [hdb]
    exact .of_updated fun _ => rfl
  | claimNext =>
    obtain ⟨claim, hok⟩ := TaskOwnership.map_snd_ok hok
    rcases claimNext_ok hok with ⟨-, hdb⟩ | ⟨id, task, started, -, -, hstarted, run, hrun⟩
    · rw [hdb]
      exact .of_same rfl
    · obtain ⟨-, -, -, hdb⟩ := createRun_ok hrun
      have hclaimed : SameAccounts db started := by
        rw [hstarted]
        exact .of_updated fun _ => rfl
      exact hclaimed.trans (.of_same (by rw [hdb]))
  | createRun =>
    obtain ⟨id, hok⟩ := TaskOwnership.map_snd_ok hok
    obtain ⟨-, -, -, hdb⟩ := createRun_ok hok
    exact .of_same (by rw [hdb])
  | heartbeat =>
    obtain ⟨-, -, hdb⟩ := heartbeat_ok hok
    rw [hdb]
    exact .of_updated fun _ => rfl
  | finishRun =>
    obtain ⟨-, -, -, -, -, -, hdb⟩ := finishRun_ok hok
    rw [hdb]
    exact .of_updated fun _ => rfl
  | listExpiredLeases =>
    rw [TaskOwnership.map_const_ok hok]
    exact .of_same rfl
  | recoverExpiredLease =>
    obtain ⟨done, hok⟩ := TaskOwnership.map_snd_ok hok
    rcases recoverExpiredLease_ok hok with ⟨-, hdb⟩ | ⟨id, task, target, retryAt, -, -, -, -, hdb⟩
    · rw [hdb]
      exact .of_same rfl
    · rw [hdb]
      exact .of_updated fun _ => rfl

/-- The creation of a task brings in its account, if the schema admits it. -/
theorem createTask_named (clock : Time) (new : NewTask) :
    named ((TaskOwnership.Operation.createTask clock new).apply db) accountId =
      (named db accountId || (new.accountId = some accountId &&
        (createTask db clock new).isOk)) := by
  unfold TaskOwnership.Operation.apply TaskOwnership.Operation.result
  dsimp only
  cases hcreate : createTask db clock new with
  | error e => simp [Except.map, Except.isOk, Except.toBool]
  | ok created =>
    obtain ⟨id, db'⟩ := created
    obtain ⟨-, -, hdb⟩ := createTask_ok hcreate
    rw [Except.isOk, Except.toBool, Bool.and_true]
    have htasks : db'.tasks = db.tasks.insert (new.row clock) := by rw [hdb]
    exact named_insert htasks

/-- The transfers that a scan queues carry no account. -/
theorem page_same (subscriptionId : ℕ) : PageWrites.Allows subscriptionId SameAccounts where
  trans := .trans
  rows _ _ htasks := .of_same htasks
  queue hok := by
    obtain ⟨-, -, hdb⟩ := createTask_ok hok
    exact .of_inserted (by rw [hdb]) rfl

/-! ## Deleting subscriptions -/

theorem deleteSubscription_same {subscriptionId : ℕ}
    (h : deleteSubscription db subscriptionId = .ok db') : SameAccounts db db' := by
  unfold deleteSubscription at h
  split_ifs at h
  cases h
  have hdetached (p : ℕ → Task → Bool) :
      SameAccounts db { db with tasks := db.tasks.update p fun _ => detached } :=
    .of_updated fun _ => rfl
  have hcascade (db : Database) : SameAccounts db (cascade db subscriptionId) := by
    have h : SameAccounts db
        { db with
          tasks := db.tasks.update (fun _ => usesFileOf db subscriptionId) fun _ => withoutFile } :=
      .of_updated fun _ => rfl
    exact h.trans (.of_same rfl)
  exact (hdetached _).trans (hcascade _)

/-! ## Every event -/

theorem committed_same {ε : Type} {result : Except ε Database}
    (h : ∀ db', result = .ok db' → SameAccounts db db') :
    SameAccounts db (committed db result) := by
  cases result with
  | ok db' => exact h db' rfl
  | error e => exact .of_same rfl

theorem named_apply (texts : Texts) (event : Event) :
    named (event.apply texts db) accountId =
      (named db accountId || event.names db accountId) := by
  have hkept {db' : Database} (h : SameAccounts db db') (hnot : event.names db accountId = false) :
      named db' accountId = (named db accountId || event.names db accountId) := by
    rw [hnot, Bool.or_false]
    exact h accountId
  cases event with
  | createAccount account =>
    refine hkept (committed_same fun db' h => ?_) rfl
    unfold AccountDeletion.createAccount at h
    split_ifs at h
    cases h
    exact .of_same rfl
  | patchAccount => exact hkept (.of_same rfl) rfl
  | deleteAccount =>
    refine hkept (committed_same fun db' h => ?_) rfl
    unfold AccountDeletion.deleteAccount at h
    split_ifs at h
    cases h
    exact .of_same rfl
  | rows event =>
    cases event with
    | task op =>
      cases op with
      | createTask clock new => exact createTask_named clock new
      | _ => exact hkept (operation_same fun _ _ => TaskOwnership.Operation.noConfusion) rfl
    | addSubscription =>
      refine hkept (committed_same fun db' h => ?_) rfl
      unfold SubscriptionHistory.addSubscription at h
      split_ifs at h
      cases h
      exact .of_same rfl
    | page =>
      exact hkept (PageWrites.page_writes (R := SameAccounts) (page_same _) texts _ _ _ _) rfl
    | deleteSubscription => exact hkept (committed_same fun db' => deleteSubscription_same) rfl
    | _ => exact hkept (.of_same rfl) rfl

theorem named_after (texts : Texts) (events : List Event) :
    named (after texts events db) accountId =
      (named db accountId || everNamed texts accountId events db) := by
  induction events generalizing db with
  | nil => exact (Bool.or_false _).symm
  | cons event events ih =>
    unfold after everNamed
    rw [List.foldl_cons]
    change named (after texts events (event.apply texts db)) accountId = _
    rw [ih, named_apply, Bool.or_assoc]

end Steps

/-- An account without subscriptions can be deleted exactly if no scan, retry or
download was ever asked for with it. -/
theorem unused_account_deletable_iff (texts : Texts) (events : List Event) (accountId : ℕ)
    (hexists : ((after texts events {}).accounts.get? accountId).isSome)
    (hunused : hasSubscriptions (after texts events {}) accountId = false) :
    (deleteAccount (after texts events {}) accountId).isOk ↔
      everNamed texts accountId events {} = false := by
  have hnamed : named (after texts events {}) accountId =
      (named {} accountId || everNamed texts accountId events {}) := named_after texts events
  have hempty : named {} accountId = false := rfl
  rw [hempty, Bool.false_or] at hnamed
  rw [← hnamed]
  unfold deleteAccount
  rw [Option.isNone_eq_false_iff.mpr hexists, hunused]
  cases named (after texts events {}) accountId <;> simp [Except.isOk, Except.toBool]

def sampleEpisode : RemoteItem where
  remoteFileId := "e01"
  parentId := some "season"
  filename := "e01.mkv"
  itemType := "file"
  size := some 900

/-- The digest of the episode, and no other. -/
def sampleTexts : Texts where
  sha256 text :=
    if text = "e01\x00file\x00900\x00\x00" then
      "9a94b8933939cb595d88033eeb189b405b066db9a79accd6fb8dabc190e98c9e"
    else ""
  isoformat _ := ""

def sampleAccount : CloudAccount where
  provider := "pan123"
  name := "main"
  refreshToken := "t"

def sampleSubscription : Subscription where
  cloudAccountId := 1
  name := "show"
  provider := "pan123"
  shareUrl := "https://share.example/1"
  targetPath := "/shows"

/-- A page of the share is recorded; the transfer it queues is carried out and
outlives the subscription. -/
def transferredOnce : List Event :=
  [.createAccount sampleAccount, .rows (.addSubscription sampleSubscription),
    .rows (.page 10 1 (.ofString "/") true [sampleEpisode]),
    .rows (.task (.claimNext 20 "token" "worker" 60000000 none)),
    .rows (.task (.finishRun 30 1 1 "worker" "token" .running .success .success {})),
    .rows (.deleteSubscription 1)]

theorem unused_account_deletable_sample :
    ((after sampleTexts transferredOnce {}).tasks.get? 1).map Task.status = some .success ∧
      (deleteAccount (after sampleTexts transferredOnce {}) 1).isOk :=
  ⟨by decide +kernel, (unused_account_deletable_iff sampleTexts transferredOnce 1
    (by decide +kernel) (by decide +kernel)).mpr (by decide +kernel)⟩

/-- A scan is asked for by hand, carried out and kept. -/
def scannedOnce : List Event :=
  [.createAccount sampleAccount, .rows (.addSubscription sampleSubscription),
    .rows (.task (.createTask 10 (ScanEnqueue.manualScan 1 sampleSubscription false))),
    .rows (.task (.claimNext 20 "token" "worker" 60000000 none)),
    .rows (.task (.finishRun 30 1 1 "worker" "token" .running .success .success {})),
    .rows (.deleteSubscription 1)]

theorem scanned_account_kept : ¬∀ (texts : Texts) (events : List Event) (accountId : ℕ),
    ((after texts events {}).accounts.get? accountId).isSome →
      hasSubscriptions (after texts events {}) accountId = false →
        (deleteAccount (after texts events {}) accountId).isOk := fun h =>
  absurd (h sampleTexts scannedOnce 1 (by decide) (by decide)) (by decide)

end MediaSync.AccountDeletion
