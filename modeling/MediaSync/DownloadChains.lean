import MediaSync.DownloadRequests

/-!
# One chain of downloads for a destination

The key of a download names the download before it, and keys are unique, so
only one download can follow another. A download is only asked for after one
that has ended, and what has ended stays as it is. So the downloads of a
destination form one chain, and all but the last have ended, whatever the
requests and the workers do meanwhile.
-/
namespace MediaSync.DownloadChains
open FaultPrograms Interleavings SharedStore Shared JsonValues RowTables TaskTables TaskRepository
open TaskOwnership RetryAccounting PosixPaths DownloadRequests

/-! ## Chains -/

def downloadsOf (db : Database) (root relative : String) : List (ℕ × Task) :=
  db.tasks.select fun _ task => isDownload root relative task

def downloadIds (db : Database) (root relative : String) : List ℕ :=
  (downloadsOf db root relative).map Prod.fst

/-- Each download of a destination has the key that names the one before it. -/
def SingleChain (settings : Settings) (db : Database) (root relative : String) : Prop :=
  (downloadsOf db root relative).map (fun row => row.2.idempotencyKey) =
    (0 :: downloadIds db root relative).dropLast.map fun predecessorId =>
      some (downloadKey settings root relative predecessorId)

def ActiveDownload (db : Database) (root relative : String) (id : ℕ) : Prop :=
  ∃ task, db.tasks.get? id = some task ∧ isDownload root relative task ∧
    task.status.terminal = false

/-- At most one download of a destination has not ended. -/
def OneActive (db : Database) (root relative : String) : Prop :=
  ∀ id id', ActiveDownload db root relative id → ActiveDownload db root relative id' → id = id'

structure Chained (settings : Settings) (db : Database) : Prop where
  chain (root relative : String) : SingleChain settings db root relative
  /-- Only the last download of a destination has not ended. -/
  last (root relative : String) (id : ℕ) :
    ActiveDownload db root relative id → (downloadIds db root relative).getLast? = some id
  /-- Roots are paths without links. -/
  rooted (id : ℕ) (task : Task) (root relative : String) :
    db.tasks.get? id = some task → isDownload root relative task →
      settings.links.follow root = root ∧ (PurePosixPath.ofString root).toString = root

section Chains
variable {settings : Settings} {db db' : Database}

theorem Chained.oneActive (h : Chained settings db) (root relative : String) :
    OneActive db root relative := by
  intro id id' hid hid'
  have hlast := h.last root relative id hid
  rw [h.last root relative id' hid'] at hlast
  exact (Option.some.inj hlast).symm

theorem Chained.of_empty (htasks : db.tasks = .empty) : Chained settings db where
  chain root relative := by
    simp [SingleChain, downloadIds, downloadsOf, htasks, Table.empty, Table.select]
  last _ _ _ := by
    rintro ⟨task, htask, -⟩
    rw [htasks] at htask
    cases htask
  rooted _ task _ _ htask := by
    rw [htasks] at htask
    cases htask

/-! ### Work on tasks -/

theorem isDownload_identity {task task' : Task} (h : identity task' = identity task)
    (root relative : String) : isDownload root relative task' = isDownload root relative task := by
  simp only [identity, Prod.mk.injEq] at h
  unfold isDownload
  rw [h.1, h.2.1]

/-- The downloads of a destination, by their identities. -/
theorem downloads_identities (h : identities db' = identities db) (root relative : String) :
    (downloadsOf db' root relative).map (fun row => (row.1, row.2.idempotencyKey)) =
      (downloadsOf db root relative).map fun row => (row.1, row.2.idempotencyKey) := by
  let wanted : ℕ × String × List (String × Json) × Option String × Option ℕ × Option ℕ → Bool :=
    fun row => row.2.1 = "download" && row.2.2.1.lookup "root" = some (.str root) &&
      row.2.2.1.lookup "relative_path" = some (.str relative)
  have hfiltered (db : Database) :
      (downloadsOf db root relative).map (fun row => (row.1, row.2.idempotencyKey)) =
        ((identities db).filter wanted).map fun row => (row.1, row.2.2.2.1) := by
    rw [identities, List.filter_map, List.map_map]
    rfl
  rw [hfiltered, hfiltered, h]

/-- What is done to tasks that exist keeps the chains, if what has ended is left
as it is. -/
theorem Chained.worked (h : Chained settings db) (hsame : identities db' = identities db)
    (hfrozen : Frozen db db') : Chained settings db' := by
  have hids (root relative : String) :
      downloadIds db' root relative = downloadIds db root relative := by
    have hrows := congrArg (List.map Prod.fst) (downloads_identities hsame root relative)
    simp only [List.map_map, Function.comp_def] at hrows
    exact hrows
  have hkeys (root relative : String) :
      (downloadsOf db' root relative).map (fun row => row.2.idempotencyKey) =
        (downloadsOf db root relative).map fun row => row.2.idempotencyKey := by
    have hrows := congrArg (List.map Prod.snd) (downloads_identities hsame root relative)
    simpa only [List.map_map, Function.comp_def] using hrows
  refine ⟨fun root relative => ?_, fun root relative id => ?_, fun id task root relative => ?_⟩
  · rw [SingleChain, hids, hkeys]
    exact h.chain root relative
  · rintro ⟨task', htask', hdownload, hopen⟩
    obtain ⟨task, htask, hidentity⟩ := identities_get? hsame htask'
    rw [hids]
    refine h.last root relative id ⟨task, htask, ?_, ?_⟩
    · rwa [← isDownload_identity hidentity]
    · cases hend : task.status.terminal with
      | false => rfl
      | true =>
        rw [hfrozen.tasks id task htask hend] at htask'
        cases htask'
        rw [hend] at hopen
        cases hopen
  · intro htask' hdownload
    obtain ⟨task, htask, hidentity⟩ := identities_get? hsame htask'
    exact h.rooted id task root relative htask (by rwa [← isDownload_identity hidentity])

/-! ### Creating tasks -/

theorem downloadsOf_created {clock : Time} {new : NewTask} {id : ℕ}
    (hok : createTask db clock new = .ok (id, db')) (root relative : String) :
    downloadsOf db' root relative = downloadsOf db root relative ++
      if isDownload root relative (new.row clock) then [(id, new.row clock)] else [] := by
  obtain ⟨-, rfl, rfl⟩ := createTask_ok hok
  exact Table.select_insert db.tasks (new.row clock) fun _ task => isDownload root relative task

theorem activeDownload_created {clock : Time} {new : NewTask} {id other : ℕ}
    (hok : createTask db clock new = .ok (id, db')) {root relative : String}
    (h : ActiveDownload db' root relative other) : ActiveDownload db root relative other ∨
      isDownload root relative (new.row clock) ∧ other = id := by
  obtain ⟨-, rfl, rfl⟩ := createTask_ok hok
  obtain ⟨task, htask, hdownload, hopen⟩ := h
  rw [Table.get?_insert] at htask
  split at htask
  · rename_i hid
    cases htask
    exact .inr ⟨hdownload, hid⟩
  · exact .inl ⟨task, htask, hdownload, hopen⟩

/-- A new task that is no download of a destination leaves its downloads alone. -/
theorem downloadsOf_other {clock : Time} {new : NewTask} {id : ℕ}
    (hok : createTask db clock new = .ok (id, db')) {root relative : String}
    (hother : isDownload root relative (new.row clock) = false) :
    downloadsOf db' root relative = downloadsOf db root relative := by
  rw [downloadsOf_created hok, hother]
  simp

/-- A new task that keeps the chain of each destination that it is for. -/
theorem Chained.created (h : Chained settings db) {clock : Time} {new : NewTask} {id : ℕ}
    (hok : createTask db clock new = .ok (id, db'))
    (hfor : ∀ root relative, isDownload root relative (new.row clock) = true →
      SingleChain settings db' root relative ∧ (∀ other, ¬ ActiveDownload db root relative other) ∧
        settings.links.follow root = root ∧ (PurePosixPath.ofString root).toString = root) :
    Chained settings db' := by
  refine ⟨fun root relative => ?_, fun root relative other hactive => ?_,
    fun other task root relative htask hdownload => ?_⟩
  · cases hdownload : isDownload root relative (new.row clock) with
    | true => exact (hfor root relative hdownload).1
    | false =>
      have hsame := downloadsOf_other hok hdownload
      unfold SingleChain downloadIds
      rw [hsame]
      exact h.chain root relative
  · have hrows := downloadsOf_created hok root relative
    rcases activeDownload_created hok hactive with hbefore | ⟨hdownload, rfl⟩
    · cases hdownload : isDownload root relative (new.row clock) with
      | true => exact absurd hbefore ((hfor root relative hdownload).2.1 other)
      | false =>
        unfold downloadIds
        rw [downloadsOf_other hok hdownload]
        exact h.last root relative other hbefore
    · rw [downloadIds, hrows, hdownload]
      simp
  · obtain ⟨-, -, rfl⟩ := createTask_ok hok
    rw [Table.get?_insert] at htask
    split at htask
    · cases htask
      exact (hfor root relative hdownload).2.2
    · exact h.rooted other task root relative htask hdownload

/-! ### Creating downloads -/

/-- The task that a request goes by: it has ended, and its destination is the
one that the request asks for, as far as links lead there. -/
def Chosen (settings : Settings) (db : Database) (root relative : String) (predecessorId : ℕ) :
    Prop :=
  (∃ text, root = settings.links.follow text) ∧
    (predecessorId = 0 ∨ ∃ task stored, db.tasks.get? predecessorId = some task ∧
      isDownload stored relative task ∧ task.status.terminal ∧
      (stored = root ∨ ((PurePosixPath.ofString stored).root ≠ [] →
        root = settings.links.follow (PurePosixPath.ofString stored).toString)))

/-- The chosen task is a download of the same destination. -/
theorem Chained.chosen (h : Chained settings db) {root relative : String} {predecessorId : ℕ}
    (hchosen : Chosen settings db root relative predecessorId) :
    predecessorId = 0 ∨ ∃ task, db.tasks.get? predecessorId = some task ∧
      isDownload root relative task ∧ task.status.terminal := by
  rcases hchosen.2 with hzero | ⟨task, stored, htask, hdownload, hend, hroot⟩
  · exact .inl hzero
  · obtain ⟨hfollow, hnormal⟩ := h.rooted predecessorId task stored relative htask hdownload
    have hsame : stored = root := by
      rcases hroot with hroot | hroot
      · exact hroot
      · have habsolute := settings.links.absolute stored
        rw [hfollow] at habsolute
        rw [hroot habsolute, hnormal, hfollow]
    exact .inr ⟨task, htask, hsame ▸ hdownload, hend⟩

/-- The key of a predecessor that another download follows is taken. -/
theorem Chained.taken (h : Chained settings db) {root relative : String} {predecessorId : ℕ}
    (hmem : predecessorId ∈ (0 :: downloadIds db root relative).dropLast) :
    db.keyTaken (downloadKey settings root relative predecessorId) = true := by
  have hkey : some (downloadKey settings root relative predecessorId) ∈
      (downloadsOf db root relative).map fun row => row.2.idempotencyKey := by
    rw [h.chain root relative]
    exact List.mem_map_of_mem hmem
  obtain ⟨row, hrow, hkey⟩ := List.mem_map.mp hkey
  exact Database.keyTaken_iff.mpr ⟨row.1, row.2, (Table.mem_select.mp hrow).1, hkey⟩

/-- The key of the successor of a download is taken once another one follows. -/
theorem Chained.taken_of_followed (h : Chained settings db) {root relative : String} {taskId : ℕ}
    (hmem : taskId ∈ downloadIds db root relative)
    (hlast : (downloadIds db root relative).getLast? ≠ some taskId) :
    db.keyTaken (downloadKey settings root relative taskId) = true := by
  refine h.taken ?_
  have hne := List.ne_nil_of_mem hmem
  have hlist := List.dropLast_append_getLast hne
  rw [List.dropLast_cons_of_ne_nil hne]
  rw [← hlist, List.mem_append, List.mem_singleton] at hmem
  rcases hmem with hmem | rfl
  · exact List.mem_cons_of_mem _ hmem
  · exact absurd (List.getLast?_eq_some_getLast hne) hlast

/-- So the key of a predecessor is free only at the end of the chain. -/
theorem Chained.predecessor_last (h : Chained settings db) {root relative : String}
    {predecessorId : ℕ} (hmem : predecessorId ∈ 0 :: downloadIds db root relative)
    (hfree : db.keyTaken (downloadKey settings root relative predecessorId) = false) :
    0 :: downloadIds db root relative =
      (0 :: downloadIds db root relative).dropLast ++ [predecessorId] := by
  have hlist := List.dropLast_append_getLast (List.cons_ne_nil 0 (downloadIds db root relative))
  have hlast : (0 :: downloadIds db root relative).getLast (List.cons_ne_nil _ _) =
      predecessorId := by
    rw [← hlist, List.mem_append] at hmem
    rcases hmem with hmem | hmem
    · rw [h.taken hmem] at hfree
      cases hfree
    · exact (List.mem_singleton.mp hmem).symm
  rw [hlast] at hlist
  exact hlist.symm

/-- Only the destination's own row is selected. -/
theorem isDownload_downloadTask {wanted : Wanted} {root relative : String} {predecessorId : ℕ}
    {stat : ℤ × ℤ} {clock : Time} {root' relative' : String}
    (h : isDownload root' relative'
      ((downloadTask settings wanted root relative predecessorId stat).row clock) = true) :
    root' = root ∧ relative' = relative := by
  rw [isDownload, Bool.and_eq_true, Bool.and_eq_true] at h
  obtain ⟨⟨-, hroot⟩, hrelative⟩ := h
  have hroot' : some (Json.str root) = some (.str root') := of_decide_eq_true hroot
  have hrelative' : some (Json.str relative) = some (.str relative') := of_decide_eq_true hrelative
  cases hroot'
  cases hrelative'
  exact ⟨rfl, rfl⟩

/-- A download that follows one that has ended extends the chain. -/
theorem Chained.downloadCreated (h : Chained settings db) {wanted : Wanted}
    {root relative : String} {predecessorId id : ℕ} {stat : ℤ × ℤ} {clock : Time}
    (hchosen : Chosen settings db root relative predecessorId)
    (hok : createTask db clock (downloadTask settings wanted root relative predecessorId stat) =
      .ok (id, db')) : Chained settings db' := by
  refine h.created hok fun root' relative' hdownload => ?_
  obtain ⟨rfl, rfl⟩ := isDownload_downloadTask hdownload
  have hpredecessor := h.chosen hchosen
  have hmem : predecessorId ∈ 0 :: downloadIds db root' relative' := by
    rcases hpredecessor with rfl | ⟨task, htask, hdownload, -⟩
    · exact List.mem_cons_self ..
    · exact List.mem_cons_of_mem _
        (List.mem_map_of_mem (f := Prod.fst) (Table.mem_select.mpr ⟨htask, hdownload⟩))
  have hfree : db.keyTaken (downloadKey settings root' relative' predecessorId) = false := by
    have hadmits := (createTask_ok hok).1
    simp only [Database.admitsTask, NewTask.row, downloadTask, Bool.and_eq_true, Option.all_some,
      Bool.not_eq_true'] at hadmits
    exact hadmits.1.1.1
  have hlist := h.predecessor_last hmem hfree
  have hrows := downloadsOf_created hok root' relative'
  rw [hdownload, if_pos rfl] at hrows
  refine ⟨?_, fun other hactive => ?_, ?_⟩
  · have hids : (0 :: downloadIds db' root' relative').dropLast =
        (0 :: downloadIds db root' relative').dropLast ++ [predecessorId] := by
      rw [← hlist, downloadIds, hrows, List.map_append, ← List.cons_append]
      exact List.dropLast_concat
    have hchain := h.chain root' relative'
    unfold SingleChain at hchain ⊢
    rw [hids, hrows, List.map_append, List.map_append, hchain]
    rfl
  · have hother := h.last root' relative' other hactive
    rcases hpredecessor with rfl | ⟨ended, hended, -, hterminal⟩
    · -- somebody follows the start, so the key of the first download is taken
      have hstart : 0 ∈ (0 :: downloadIds db root' relative').dropLast := by
        cases hids : downloadIds db root' relative' with
        | nil =>
          rw [hids] at hother
          cases hother
        | cons first rest => exact List.mem_cons_self ..
      rw [h.taken hstart] at hfree
      cases hfree
    · obtain ⟨task, htask, -, hopen⟩ := hactive
      have hlast := congrArg List.getLast? hlist
      rw [List.getLast?_cons, hother, List.getLast?_concat] at hlast
      have hsame : other = predecessorId := Option.some.inj hlast
      rw [hsame, hended] at htask
      cases htask
      rw [hterminal] at hopen
      cases hopen
  · obtain ⟨text, htext⟩ := hchosen.1
    rw [htext]
    exact ⟨settings.links.follow_follow text, settings.links.normal text⟩

theorem Chained.createOther (h : Chained settings db) (new : NewTask) (clock : Time) :
    Chained settings (createOther new clock db) := by
  unfold DownloadRequests.createOther
  split
  · exact h
  · rename_i htype
    split
    · rename_i id db' hok
      refine h.created hok fun root relative hdownload => ?_
      rw [isDownload, Bool.and_eq_true, Bool.and_eq_true] at hdownload
      exact absurd (of_decide_eq_true hdownload.1.1) htype
    · exact h

end Chains

/-! ## What a request does -/

/-- One effect of a request that asks for downloads: one is created only after
one that has ended. -/
inductive Creates (settings : Settings) (k : ℕ) (w : World) : World → Prop where
  | same : Creates settings k w w
  | lock (unlocked : w.locked k = false) : Creates settings k w (w.write k (w.view k))
  | create (clock : Time) (wanted : Wanted) (root relative : String) (predecessorId : ℕ)
    (stat : ℤ × ℤ) (id : ℕ) (d : Database) (unlocked : w.locked k = false)
    (chosen : Chosen settings (w.view k) root relative predecessorId)
    (created : createTask (w.view k) clock
      (downloadTask settings wanted root relative predecessorId stat) = .ok (id, d)) :
    Creates settings k w (w.write k d)

/-- One effect of session `k`. -/
inductive Access (settings : Settings) (k : ℕ) (w : World) : World → Prop where
  | creates {w' : World} (step : Creates settings k w w') : Access settings k w w'
  | change (op : Operation) (unlocked : w.locked k = false) (quiet : inserts op = false) :
    Access settings k w (w.write k (op.apply (w.view k)))
  | commit : Access settings k w (w.commit k)
  | rollback : Access settings k w (w.rollback k)

/-- What has ended stays as it is. -/
def Lasting (db db' : Database) : Prop :=
  ∀ id task, db.tasks.get? id = some task → task.status.terminal → db'.tasks.get? id = some task

/-- What has ended stays, as far as a session can see. -/
def Remains (k : ℕ) (w w' : World) : Prop := Lasting (w.view k) (w'.view k)

theorem remains_reliable (k : ℕ) : Reliable (Remains k) :=
  ⟨fun _ _ _ htask _ => htask,
    fun h h' id task htask hend => h' id task (h id task htask hend) hend⟩

theorem creates_remains {settings : Settings} {k : ℕ} {w w' : World}
    (h : Creates settings k w w') : Remains k w w' := by
  intro id task htask hend
  cases h with
  | same => exact htask
  | lock => rwa [view_write]
  | create clock wanted root relative predecessorId stat id' d _ _ created =>
    obtain ⟨-, -, rfl⟩ := createTask_ok created
    rw [view_write]
    exact Table.get?_insert_of_some htask

def protocol (settings : Settings) : Protocol ℕ World RequestError Unit where
  rely := Remains
  guarantee := Access settings
  answer _ _ _ := True
  reliable := remains_reliable

section Sessions
variable {settings : Settings} {k : ℕ} {α : Type} {A : World → Prop}

/-- Programs that only look and create. -/
abbrev Asks (settings : Settings) (k : ℕ) (A : World → Prop) (p : Request α) : Prop :=
  Safe (Remains k) (Creates settings k) A p

abbrev Sessions (settings : Settings) (k : ℕ) (p : Request α) : Prop :=
  Safe (Remains k) (Access settings k) (fun _ => True) p

theorem Asks.sessions {p : Request α} (h : Asks settings k (fun _ => True) p) :
    Sessions settings k p := h.guaranteeing fun _ _ => .creates

theorem query_asks (hA : Stable (Remains k) A) (view : Beside → Database → Except RequestError α) :
    Asks settings k A (query k .interrupted view fun _ => id) := query_safe hA (fun _ => .same) view

/-- A look leaves alone what the others leave alone. -/
theorem query_keeps (hA : Stable (Remains k) A)
    (view : Beside → Database → Except RequestError α) :
    From (Remains k) (Creates settings k) A (query k .interrupted view fun _ => id) fun r w =>
      ∀ a, r = .ok a → A w :=
  query_from hA (fun _ => .same) (fun w w' hw hr _ _ => hA w w' hr hw) fun _ _ _ h => nomatch h

theorem request_sessions {p : Request α} (hp : Sessions settings k p) :
    Sessions settings k (session k .interrupted id p) := by
  refine session_safe (remains_reliable k) (fun w => ?_) (fun w => ?_) hp
  · exact (w.commit_beside k).symm ▸ .commit
  · exact (w.rollback_beside k).symm ▸ .rollback

theorem update_sessions (taskId : ℕ) (expected target : TaskStatus) :
    Sessions settings k (update k taskId expected target) := by
  refine Safe.effect stable_true fun w _ => ?_
  dsimp only
  split
  · exact .creates .same
  · rename_i hlock
    cases hresult : transition (w.view k) w.outside.now taskId expected target {} with
    | error e => exact .creates .same
    | ok d =>
      have happly : Operation.apply (w.view k)
          (.transition w.outside.now taskId expected target {}) = d := apply_ok hresult
      have hchange : Access settings k w (w.write k (Operation.apply (w.view k)
          (.transition w.outside.now taskId expected target {}))) :=
        .change _ (by simpa using hlock) rfl
      rw [happly] at hchange
      exact hchange

/-! ### Creating a download -/

theorem stable_chosen {root relative : String} {predecessorId : ℕ} : Stable (Remains k) fun w =>
    Chosen settings (w.view k) root relative predecessorId := by
  rintro w w' hremains ⟨hroot, hzero | ⟨task, stored, htask, hdownload, hend, hstored⟩⟩
  · exact ⟨hroot, .inl hzero⟩
  · exact ⟨hroot, .inr ⟨task, stored, hremains _ task htask hend, hdownload, hend, hstored⟩⟩

theorem insertDownload_asks {wanted : Wanted} {root relative : String} {predecessorId : ℕ}
    {stat : ℤ × ℤ} : Asks settings k
      (fun w => Chosen settings (w.view k) root relative predecessorId)
      (insertDownload k (downloadTask settings wanted root relative predecessorId stat)) := by
  refine Safe.effect stable_chosen fun w hchosen => ?_
  dsimp only
  split
  · exact .same
  · rename_i hlock
    have hunlocked : w.locked k = false := by simpa using hlock
    cases hcreated : createTask (w.view k) w.outside.now
        (downloadTask settings wanted root relative predecessorId stat) with
    | ok created =>
      exact .create _ wanted root relative predecessorId stat created.1 created.2 hunlocked hchosen
        hcreated
    | error e =>
      cases e with
      | integrity => exact .lock hunlocked
      | _ => exact .same

theorem checkedRow_asks (row : ℕ × Task) (fileId : Option ℕ) :
    Asks settings k (fun _ => True) (do
      let task ← Prog.ofExcept (checkDestination [row] fileId)
      pure (task.map Prod.fst) : Request (Option ℕ)) :=
  Safe.bind (remains_reliable k) (Safe.ofExcept _) fun _ => Safe.pure _

/-- A download is created after the chosen task, or an older one is named. -/
theorem createDownload_asks (wanted : Wanted) (root relative : String) (predecessorId : ℕ) :
    Asks settings k (fun w => Chosen settings (w.view k) root relative predecessorId)
      (createDownload settings k wanted root relative predecessorId) := by
  have hR := remains_reliable k
  refine From.bind hR (query_keeps stable_chosen _) (fun stat => ?_) fun _ _ _ => trivial
  refine (From.bind hR (query_keeps stable_chosen _) (fun existing => ?_)
    fun _ _ _ => trivial).pre fun w h => h stat rfl
  cases existing with
  | some row => exact (checkedRow_asks row _).pre fun _ _ => trivial
  | none =>
    refine (Safe.bind hR insertDownload_asks fun created => ?_).pre fun w h => h none rfl
    cases created with
    | some id => exact Safe.pure _
    | none =>
      refine Safe.bind hR (query_asks stable_true _) fun existing => ?_
      cases existing with
      | none => exact Safe.throw _
      | some row => exact checkedRow_asks row _

/-! ### Looking at destinations -/

/-- What has been found and had ended is still there. -/
def Seen (k : ℕ) (root : String) (found : Found) (w : World) : Prop :=
  ∀ relative id task, (relative, id, task) ∈ found → task.status.terminal →
    (w.view k).tasks.get? id = some task ∧ isDownload root relative task

theorem stable_seen {root : String} {found : Found} : Stable (Remains k) (Seen k root found) := by
  intro w w' hremains hseen relative id task hmem hend
  obtain ⟨htask, hdownload⟩ := hseen relative id task hmem hend
  exact ⟨hremains id task htask hend, hdownload⟩

theorem mem_lookDestinations {db : Database} {root relative : String} {relatives : List String}
    {id : ℕ} {task : Task} (h : (relative, id, task) ∈ lookDestinations db root relatives) :
    db.tasks.get? id = some task ∧ isDownload root relative task := by
  unfold lookDestinations at h
  obtain ⟨wanted, -, hrow⟩ := List.mem_flatMap.mp h
  obtain ⟨row, hrow, heq⟩ := List.mem_map.mp hrow
  cases heq
  rw [List.mem_insertionSort, List.mem_filter] at hrow
  exact Table.mem_select.mp hrow.1

theorem destinationTasks_asks (root : String) (chunks : List (List String))
    (hA : Stable (Remains k) A) :
    From (Remains k) (Creates settings k) A (destinationTasks k root chunks) fun r w =>
      ∀ found, r = .ok found → A w ∧ Seen k root found w := by
  induction chunks generalizing A with
  | nil =>
    refine From.pure hA fun w hw found hfound => ?_
    cases hfound
    exact ⟨hw, fun _ _ _ hmem => nomatch hmem⟩
  | cons relatives rest ih =>
    have hR := remains_reliable k
    have hfirst : From (Remains k) (Creates settings k) A
        (select k fun db => lookDestinations db root relatives) fun r w =>
          ∀ found, r = .ok found → A w ∧ Seen k root found w := by
      refine query_from hA (fun _ => .same) (fun w w' hw hr found hfound => ?_) fun _ _ _ h =>
        nomatch h
      cases hfound
      refine ⟨hA w w' hr hw, fun relative id task hmem hend => ?_⟩
      obtain ⟨htask, hdownload⟩ := mem_lookDestinations hmem
      exact ⟨hr id task htask hend, hdownload⟩
    refine From.bind hR hfirst (fun found => ?_) fun _ _ _ _ h => nomatch h
    have hboth : Stable (Remains k) fun w => A w ∧ Seen k root found w :=
      fun w w' hr hw => ⟨hA w w' hr hw.1, stable_seen w w' hr hw.2⟩
    refine (From.bind hR (ih hboth) (fun more => ?_) fun _ _ _ _ h => nomatch h).pre fun w h =>
      h found rfl
    have hall : Stable (Remains k) fun w => (A w ∧ Seen k root found w) ∧ Seen k root more w :=
      fun w w' hr hw => ⟨hboth w w' hr hw.1, stable_seen w w' hr hw.2⟩
    refine (From.pure hall fun w hw both hfound => ?_).pre fun w h => h more rfl
    cases hfound
    refine ⟨hw.1.1, fun relative id task hmem hend => ?_⟩
    rcases List.mem_append.mp hmem with hmem | hmem
    · exact hw.1.2 relative id task hmem hend
    · exact hw.2 relative id task hmem hend

/-- The latest task of a destination where none is active has ended. -/
theorem Seen.chosen {root relative : String} {found : Found} {w : World} (h : Seen k root found w)
    (hroot : ∃ text, root = settings.links.follow text) (hnone : found.active relative = []) :
    Chosen settings (w.view k) root relative (((found.latest relative).map Prod.fst).getD 0) := by
  refine ⟨hroot, ?_⟩
  cases hlatest : found.latest relative with
  | none => exact .inl rfl
  | some row =>
    obtain ⟨id, task⟩ := row
    have hmem : (relative, id, task) ∈ found := by
      obtain ⟨before, after, hsplit, -⟩ := List.lookup_eq_some_iff.mp hlatest
      rw [hsplit]
      exact List.mem_append_right _ (List.mem_cons_self ..)
    have hend : task.status.terminal = true := by
      cases hend : task.status.terminal with
      | true => rfl
      | false =>
        have hactive : (id, task) ∈ found.active relative := by
          refine List.mem_map.mpr ⟨(relative, id, task), List.mem_filter.mpr ⟨hmem, ?_⟩, rfl⟩
          simp [(mem_activeDownloadStatuses task.status).mpr hend]
        rw [hnone] at hactive
        cases hactive
    obtain ⟨htask, hdownload⟩ := h relative id task hmem hend
    exact .inr ⟨task, root, htask, hdownload, hend, .inl rfl⟩

/-! ### Roots -/

theorem validateDirectory_ok {disk : Disk} {value root : String}
    (h : validateDirectory settings disk value = .ok root) :
    ∃ path, expandUser settings (.ofString value) = .ok path ∧
      root = settings.links.follow path.toString := by
  unfold validateDirectory at h
  simp only [bind, Except.bind, pure, Except.pure, throw, throwThe, MonadExceptOf.throw] at h
  split at h
  · cases h
  · rename_i path hpath
    split_ifs at h
    cases h
    exact ⟨path, hpath, rfl⟩

theorem badRequest_ok {r : Except RequestError α} {detail : String → String} {a : α}
    (h : badRequest r detail = .ok a) : r = .ok a := by
  cases r with
  | ok b => exact h
  | error e => cases h

theorem requestedRoot_ok {request : DownloadRequest} {beside : Beside} {root : String}
    (h : requestedRoot settings request beside = .ok root) :
    ∃ text, root = settings.links.follow text := by
  have hroot := badRequest_ok h
  cases hnamed : namedRoot request beside with
  | error e =>
    rw [hnamed] at hroot
    cases hroot
  | ok value =>
    rw [hnamed] at hroot
    obtain ⟨path, -, hfollow⟩ := validateDirectory_ok hroot
    exact ⟨_, hfollow⟩

theorem storedRoot_follows {task : Task} {beside : Beside} {root : String}
    (h : storedRoot settings task beside = .ok root) :
    ∃ text, root = settings.links.follow text := by
  unfold storedRoot at h
  split at h
  · obtain ⟨path, -, hroot⟩ := validateDirectory_ok (badRequest_ok h)
    exact ⟨_, hroot⟩
  · cases h

/-- A stored root is an absolute path, so it is not expanded. -/
theorem storedRoot_ok {task : Task} {beside : Beside} {root : String}
    (h : storedRoot settings task beside = .ok root) : ∃ stored,
      task.payload.lookup "root" = some (.str stored) ∧
      ((PurePosixPath.ofString stored).root ≠ [] →
        root = settings.links.follow (PurePosixPath.ofString stored).toString) := by
  unfold storedRoot at h
  split at h
  · rename_i stored hstored
    refine ⟨stored, hstored, fun habsolute => ?_⟩
    obtain ⟨path, hpath, hroot⟩ := validateDirectory_ok (badRequest_ok h)
    rw [hroot]
    unfold expandUser at hpath
    split at hpath
    · rename_i hrelative _
      exact absurd hrelative habsolute
    · cases hpath
      rfl
  · cases h

/-! ### Requests -/

theorem loadFiles_asks (chunks : List (List ℕ)) :
    Asks settings k (fun _ => True) (loadFiles k chunks) := by
  induction chunks with
  | nil => exact Safe.pure _
  | cons ids rest ih =>
    exact Safe.bind (remains_reliable k) (query_asks stable_true _) fun files =>
      Safe.bind (remains_reliable k) ih fun more => Safe.pure _

theorem prepare_asks (request : DownloadRequest) (root : String) (files : List Wanted)
    (ids : List ℕ) (prepared : List (Wanted × String)) :
    Asks settings k (fun _ => True) (prepare settings k request root files ids prepared) := by
  induction ids generalizing prepared with
  | nil => exact Safe.pure _
  | cons fileId rest ih =>
    unfold prepare
    split
    · exact Safe.throw _
    · split
      · exact Safe.throw _
      · refine Safe.bind (remains_reliable k) (query_asks stable_true _) fun relative => ?_
        split
        · exact Safe.throw _
        · exact ih _

theorem checkDestination_none {tasks : List (ℕ × Task)} {fileId : Option ℕ}
    (h : checkDestination tasks fileId = .ok none) : tasks = [] := by
  unfold checkDestination at h
  split at h
  · cases h
  · exact List.head?_eq_none_iff.mp (Except.ok.inj h)

/-- What is checked was seen, and nothing active is left if the check finds
nothing. -/
theorem checked_asks {root : String} {found : Found} (relative : String) (fileId : Option ℕ) :
    From (Remains k) (Creates settings k) (Seen k root found)
      (Prog.ofExcept (checkDestination (found.active relative) fileId)) fun r w =>
        ∀ task, r = .ok task → Seen k root found w ∧
          (task = none → found.active relative = []) := by
  refine From.ofExcept stable_seen fun w hseen task htask => ⟨hseen, fun hnone => ?_⟩
  rw [hnone] at htask
  exact checkDestination_none htask

theorem enqueuePrepared_asks {root : String} {found : Found}
    (hroot : ∃ text, root = settings.links.follow text) (rows : List (Wanted × String))
    (ids : List ℕ) :
    Asks settings k (Seen k root found) (enqueuePrepared settings k root found rows ids) := by
  have hR := remains_reliable k
  induction rows generalizing ids with
  | nil => exact From.pure stable_seen fun _ _ => trivial
  | cons row rest ih =>
    refine From.bind hR (checked_asks row.2 _) (fun task => ?_) fun _ _ _ => trivial
    cases task with
    | some existing => exact (ih _).pre fun w h => (h _ rfl).1
    | none =>
      have hcreate : Asks settings k _ _ := createDownload_asks row.1 root row.2
        (((found.latest row.2).map Prod.fst).getD 0)
      have hkept : ∀ w w', Creates settings k w w' → Seen k root found w → Seen k root found w' :=
        fun w w' hstep => stable_seen w w' (creates_remains hstep)
      refine (From.bind hR (hcreate.frame stable_seen hkept) (fun created => ?_) fun _ _ _ =>
        trivial).pre fun w h => ?_
      · exact (ih _).pre fun w h => h.2
      · obtain ⟨hseen, hnone⟩ := h none rfl
        exact ⟨hseen.chosen hroot (hnone rfl), hseen⟩

theorem enqueueDownloads_sessions (request : DownloadRequest) :
    Sessions settings k (enqueueDownloads settings k request) := by
  have hR := remains_reliable k
  refine request_sessions (Asks.sessions ?_)
  have hfirst : From (Remains k) (Creates settings k) (fun _ => True)
      (inspect k (requestedRoot settings request)) fun r _ =>
        ∀ root, r = .ok root → ∃ text, root = settings.links.follow text :=
    query_from stable_true (fun _ => .same) (fun w _ _ _ root hroot => requestedRoot_ok hroot)
      fun _ _ _ h => nomatch h
  refine From.bind hR hfirst (fun root w hw => ?_) fun _ _ _ => trivial
  have hroot := hw root rfl
  refine (Safe.bind hR (loadFiles_asks _) fun files => Safe.bind hR (prepare_asks _ _ _ _ _)
    fun prepared => ?_ : Asks settings k (fun _ => True) _) w trivial
  refine From.bind hR (destinationTasks_asks root _ stable_true) (fun found => ?_)
    fun _ _ _ => trivial
  refine (From.bind (S := fun _ => Seen k root found) hR
    (From.ofExcept stable_seen fun _ hseen => hseen)
    (fun _ => enqueuePrepared_asks hroot prepared []) fun _ _ _ => trivial).pre fun w h =>
      (h found rfl).2

/-- A look at a download that has ended: it will still be there. -/
theorem selectDownload_asks (taskId : ℕ) :
    From (Remains k) (Creates settings k) (fun _ => True) (selectDownload k taskId) fun r w =>
      ∀ task, r = .ok task → task.type = "download" ∧
        (task.status.terminal → (w.view k).tasks.get? taskId = some task) := by
  refine query_from stable_true (fun _ => .same) (fun w w' _ hr task htask => ?_)
    fun _ _ _ h => nomatch h
  split at htask
  · cases htask
  · rename_i row hrow
    cases htask
    obtain ⟨hget, htype⟩ := Option.filter_eq_some_iff.mp hrow
    exact ⟨by simpa using htype, hr taskId task hget⟩

theorem retryDownload_sessions (taskId : ℕ) :
    Sessions settings k (retryDownload settings k taskId) := by
  have hR := remains_reliable k
  refine request_sessions (From.bind hR ((selectDownload_asks taskId).guaranteeing fun _ _ =>
    .creates) (fun task => ?_) fun _ _ _ => trivial)
  by_cases hwaiting : task.status = .waitingCredential
  · rw [if_pos hwaiting]
    refine From.pre ?_ fun _ _ => trivial
    exact Safe.bind hR (update_sessions _ _ _) fun _ => Safe.pure _
  rw [if_neg hwaiting]
  by_cases hended : task.status ≠ .failed ∧ task.status ≠ .cancelled
  · rw [if_pos hended]
    exact (Safe.throw _).pre fun _ _ => trivial
  rw [if_neg hended]
  have hterminal : task.status.terminal = true := by
    cases hstatus : task.status <;> simp_all [TaskStatus.terminal]
  intro w hw
  obtain ⟨htype, hget⟩ := hw task rfl
  refine (From.guaranteeing ?_ fun _ _ => .creates : From (Remains k) (Access settings k)
    (fun w => (w.view k).tasks.get? taskId = some task) _ _) w (hget hterminal)
  have hstays : Stable (Remains k) fun w => (w.view k).tasks.get? taskId = some task :=
    fun w w' hr htask => hr taskId task htask hterminal
  have hroots : From (Remains k) (Creates settings k)
      (fun w => (w.view k).tasks.get? taskId = some task) (inspect k (storedRoot settings task))
      fun r w => ∀ root, r = .ok root → (w.view k).tasks.get? taskId = some task ∧
        ∃ beside, storedRoot settings task beside = .ok root := by
    refine query_from hstays (fun _ => .same) (fun w w' htask hr root hroot => ?_)
      fun _ _ _ h => by cases h
    exact ⟨hstays w w' hr htask, w.outside, hroot⟩
  refine From.bind hR hroots (fun root w hw => ?_) fun _ _ _ => trivial
  obtain ⟨htask, beside, hroot⟩ := hw root rfl
  obtain ⟨stored, hstored, hfollow⟩ := storedRoot_ok hroot
  obtain ⟨text, htext⟩ := storedRoot_follows hroot
  cases hrelative : task.payload.lookup "relative_path" with
  | none => exact Safe.throw _ w trivial
  | some value =>
    cases value with
    | str relative =>
      have hdownload : isDownload stored relative task = true := by
        simp [isDownload, htype, hstored, hrelative]
      have hchosen (w : World) (htask : (w.view k).tasks.get? taskId = some task) :
          Chosen settings (w.view k) root relative taskId :=
        ⟨⟨text, htext⟩, .inr ⟨task, stored, htask, hdownload, hterminal, .inr hfollow⟩⟩
      refine (From.bind hR (destinationTasks_asks root _ hstays) (fun found => ?_)
        fun _ _ _ => trivial : Asks settings k _ _) w htask
      refine (From.bind (S := fun _ w => (w.view k).tasks.get? taskId = some task) hR
        (From.ofExcept hstays fun _ htask => htask) (fun successor => ?_)
        fun _ _ _ => trivial).pre fun w h => (h found rfl).1
      cases successor with
      | some row => exact (Safe.pure _).pre fun _ _ => trivial
      | none =>
        refine From.bind hR (query_keeps hstays _) (fun wanted => ?_) fun _ _ _ => trivial
        exact (createDownload_asks wanted root relative taskId).pre fun w h =>
          hchosen w (h wanted rfl)
    | _ => exact Safe.throw _ w trivial

theorem cancelDownload_sessions (taskId : ℕ) :
    Sessions settings k (cancelDownload k taskId) := by
  have hR := remains_reliable k
  refine request_sessions (Safe.bind hR (Asks.sessions (query_asks stable_true _)) fun task => ?_)
  split
  · exact Safe.bind hR (update_sessions _ _ _) fun _ => Safe.pure _
  · split
    · exact Safe.bind hR (update_sessions _ _ _) fun _ => Safe.pure _
    · exact Safe.throw _

theorem program_sessions (job : Job) : Sessions settings k (job.program settings k) := by
  have hR := remains_reliable k
  cases job with
  | enqueue request => exact Safe.bind hR (enqueueDownloads_sessions request) fun _ => Safe.pure _
  | retry taskId => exact Safe.bind hR (retryDownload_sessions taskId) fun _ => Safe.pure _
  | cancel taskId => exact Safe.bind hR (cancelDownload_sessions taskId) fun _ => Safe.pure _

end Sessions

/-! ## The invariant -/

structure Orderly (settings : Settings) (w : World) : Prop where
  ownership : OwnershipInvariant w.committed
  chained : Chained settings w.committed
  drafted (k : ℕ) (d : Database) : w.draft = some (k, d) →
    OwnershipInvariant d ∧ Chained settings d ∧ Lasting w.committed d

section Invariant
variable {settings : Settings} {w w' : World} {k : ℕ}

theorem Lasting.refl (db : Database) : Lasting db db := fun _ _ htask _ => htask

theorem Orderly.view (h : Orderly settings w) (k : ℕ) : OwnershipInvariant (w.view k) ∧
    Chained settings (w.view k) ∧ Lasting w.committed (w.view k) := by
  unfold Shared.view
  split
  · exact ⟨h.ownership, h.chained, .refl _⟩
  · rename_i j d hdraft
    split
    · exact h.drafted j d hdraft
    · exact ⟨h.ownership, h.chained, .refl _⟩

/-- A session writes a draft in which what has ended stays. -/
theorem Orderly.write (h : Orderly settings w) (hlock : w.locked k = false) {d : Database}
    (hown : OwnershipInvariant d) (hchained : Chained settings d)
    (hlasting : Lasting (w.view k) d) :
    Orderly settings (w.write k d) ∧ ∀ j, j ≠ k → Remains j w (w.write k d) := by
  refine ⟨⟨h.ownership, h.chained, fun j d' hdraft => ?_⟩, fun j hj => ?_⟩
  · cases hdraft
    refine ⟨hown, hchained, fun id task htask hend => ?_⟩
    exact hlasting id task ((h.view k).2.2 id task htask hend) hend
  · unfold Remains
    rw [view_of_unlocked_other hlock hj, view_write_other hj]
    exact .refl _

theorem Orderly.commit (h : Orderly settings w) (k : ℕ) :
    Orderly settings (w.commit k) ∧ ∀ j, j ≠ k → Remains j w (w.commit k) := by
  obtain ⟨hown, hchained, hlasting⟩ := h.view k
  rcases w.commit_cases k with hsame | ⟨hdraft, hcommit⟩
  · rw [hsame]
    exact ⟨h, fun j _ => .refl _⟩
  · rw [hcommit]
    refine ⟨⟨hown, hchained, fun j d hd => nomatch hd⟩, fun j hj => ?_⟩
    unfold Remains
    rw [view_of_draft hdraft hj]
    exact hlasting

theorem Orderly.rollback (h : Orderly settings w) (k : ℕ) :
    Orderly settings (w.rollback k) ∧ ∀ j, j ≠ k → Remains j w (w.rollback k) := by
  rcases w.rollback_cases k with hsame | ⟨⟨d, hdraft⟩, hrollback⟩
  · rw [hsame]
    exact ⟨h, fun j _ => .refl _⟩
  · rw [hrollback]
    refine ⟨⟨h.ownership, h.chained, fun j d hd => nomatch hd⟩, fun j hj => ?_⟩
    unfold Remains
    rw [view_of_draft hdraft hj]
    exact .refl _

/-- What one effect of a session preserves, and what the others can rely on. -/
theorem Orderly.access (h : Orderly settings w) (haccess : Access settings k w w') :
    Orderly settings w' ∧ ∀ j, j ≠ k → Remains j w w' := by
  obtain ⟨hown, hchained, -⟩ := h.view k
  cases haccess with
  | creates step =>
    cases step with
    | same => exact ⟨h, fun j _ => .refl _⟩
    | lock hlock => exact h.write hlock hown hchained (.refl _)
    | create clock wanted root relative predecessorId stat id d hlock chosen created =>
      refine h.write hlock (createTask_custody hown created)
        (hchained.downloadCreated chosen created) fun other task htask _ => ?_
      obtain ⟨-, -, rfl⟩ := createTask_ok created
      exact Table.get?_insert_of_some htask
  | change op hlock hquiet =>
    have hfrozen := hown.frozen op
    exact h.write hlock (hown.apply op) (hchained.worked (operation_identities hquiet) hfrozen)
      hfrozen.tasks
  | commit => exact h.commit k
  | rollback => exact h.rollback k

/-- A transaction in which what has ended stays. -/
theorem Orderly.transact (h : Orderly settings w) {f : Database → Database}
    (hf : OwnershipInvariant (f w.committed) ∧ Chained settings (f w.committed) ∧
      Lasting w.committed (f w.committed)) :
    Orderly settings (w.transact f) ∧ ∀ j, Remains j w (w.transact f) := by
  rcases w.transact_cases f with hsame | ⟨hdraft, htransact⟩
  · rw [hsame]
    exact ⟨h, fun j => .refl _⟩
  · rw [htransact]
    refine ⟨⟨hf.1, hf.2.1, fun k d hd => ?_⟩, fun j => ?_⟩
    · rw [hdraft] at hd
      cases hd
    · unfold Remains
      have hview : ({ w with committed := f w.committed } : World).view j = f w.committed := by
        simp [Shared.view, hdraft]
      rw [hview, view_of_unlocked hdraft]
      exact hf.2.2

theorem createOther_lasting (db : Database) (new : NewTask) (clock : Time)
    (hown : OwnershipInvariant db) :
    OwnershipInvariant (createOther new clock db) ∧ Lasting db (createOther new clock db) := by
  unfold createOther
  split
  · exact ⟨hown, .refl db⟩
  · split
    · rename_i id db' hok
      refine ⟨createTask_custody hown hok, fun other task htask _ => ?_⟩
      obtain ⟨-, -, rfl⟩ := createTask_ok hok
      exact Table.get?_insert_of_some htask
    · exact ⟨hown, .refl db⟩

theorem worked_lasting {db : Database} (step : Step) (hown : OwnershipInvariant db)
    (hchained : Chained settings db) : OwnershipInvariant (ScanEnqueue.worked step db) ∧
      Chained settings (ScanEnqueue.worked step db) ∧ Lasting db (ScanEnqueue.worked step db) := by
  unfold ScanEnqueue.worked
  split
  · exact ⟨hown, hchained, .refl db⟩
  · rename_i hcreates
    obtain ⟨ops, hops, hinserts⟩ := step_calls step db
    rw [hops]
    have hfrozen := hown.frozen_runAll ops
    exact ⟨hown.runAll ops, hchained.worked
      (runAll_identities ops (hinserts (by simpa using hcreates))) hfrozen, hfrozen.tasks⟩

theorem Orderly.move (h : Orderly settings w) (m : Move) :
    Orderly settings (World.move w m) ∧ ∀ j, Remains j w (World.move w m) := by
  cases m with
  | work step => exact h.transact (worked_lasting step h.ownership h.chained)
  | create new =>
    have hother := createOther_lasting w.committed new w.outside.now h.ownership
    exact h.transact ⟨hother.1, h.chained.createOther new w.outside.now, hother.2⟩
  | rows accounts subscriptions files =>
    exact h.transact (f := fun db =>
      { db with
        accounts := accounts
        subscriptions := subscriptions
        files := files })
      ⟨⟨h.ownership.custody, h.ownership.linked⟩, ⟨h.chained.chain, h.chained.last,
        h.chained.rooted⟩, .refl _⟩
  | disk disk defaultRoot =>
    exact ⟨⟨h.ownership, h.chained, h.drafted⟩, fun j => .refl _⟩
  | tick now => exact ⟨⟨h.ownership, h.chained, h.drafted⟩, fun j => .refl _⟩

end Invariant

/-! ## Runs -/

section Runs
variable {settings : Settings} {pool : Pool ℕ World RequestError Unit}

theorem system_respects (h : Orderly settings pool.state) (happening : Happening ℕ Job Move) :
    (protocol settings).Respects (system settings) pool happening where
  others _ j _ hj _ haccess := (h.access haccess).2 j hj
  stops k j _ hj := (h.rollback k).2 j hj
  moves i j _ := (h.move i).2 j
  starts _ job _ _ := program_sessions job _ trivial

/-- What one happening preserves. -/
theorem Orderly.step (hkeeps : (protocol settings).Keeps pool) (h : Orderly settings pool.state)
    (happening : Happening ℕ Job Move) :
    Orderly settings (pool.step (system settings) happening).state :=
  hkeeps.state h (fun _ _ haccess _ => (h.access haccess).1) (fun k => (h.rollback k).1)
    fun i => (h.move i).1

/-- The tables that any run reaches from one without tasks. -/
theorem chained_run (settings : Settings) (rows : Database) (beside : Beside)
    (happenings : List (Happening ℕ Job Move)) :
    let start : World :=
      { committed := { rows with tasks := .empty, taskRuns := .empty }
        outside := beside }
    Chained settings ((Pool.initial start).run (system settings) happenings).state.committed := by
  intro start
  have hstart : Orderly settings start :=
    ⟨.empty rows, .of_empty rfl, fun k d hd => nomatch hd⟩
  have hrun := Pool.run_invariant (system settings) (C := fun _ _ => True)
    (J := fun pool => (protocol settings).Keeps pool ∧ Orderly settings pool.state)
    (fun pool happening hpool _ =>
      ⟨hpool.1.step (system_respects hpool.2 happening), hpool.2.step hpool.1 happening⟩)
    happenings ⟨(protocol settings).keeps_initial start, hstart⟩ (Pool.along_true _ _ _)
  exact hrun.2.chained

end Runs

/-- However requests and workers interleave, each destination has one chain of
downloads, and at most one of them has not ended. -/
theorem one_download_chain (settings : Settings) (rows : Database) (beside : Beside)
    (happenings : List (Happening ℕ Job Move)) (root relative : String) :
    let start : World :=
      { committed := { rows with tasks := .empty, taskRuns := .empty }
        outside := beside }
    let db := ((Pool.initial start).run (system settings) happenings).state.committed
    OneActive db root relative ∧ SingleChain settings db root relative := by
  intro start db
  have hchained := chained_run settings rows beside happenings
  exact ⟨hchained.oneActive root relative, hchained.chain root relative⟩

end MediaSync.DownloadChains
