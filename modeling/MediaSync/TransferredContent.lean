import MediaSync.TransferOperation

/-!
# What a transfer that succeeded has put in place

A transfer that returns has met one of three ends: an item was there already, a
save that is under way is complete, or the item has been saved just now. What
the provider does with a save of its own is taken on trust. An item that was
there is trusted for its name, unless the provider compares it; a save that was
under way is trusted for its id.
-/
namespace MediaSync.TransferredContent
open FaultPrograms SubscriptionScan ProviderOperations TransferOperation

variable {σ ι : Type} [Surroundings σ ι]

/-! ## Phases of a transfer -/

section Phases
variable {α : Type} {stage : String} {p : Prog σ TransferError α} {w w' : σ} {a : α}

theorem providerStep_returns :
    Returns ι (providerStep stage p) w a w' ↔ Returns ι p w a w' := by
  constructor
  · intro h
    rcases h.handle with h | ⟨e, w₁, h⟩
    · exact h
    · exact h.throw.elim
  · intro h
    exact h.handled

variable {provider : CloudDriveProvider σ} {spec : TransferSpec} {callbacks : Callbacks σ}
  {share : ShareInfo} {target : FolderRef}

theorem prepare_target (h : Returns ι (prepare provider spec callbacks) w (share, target) w') :
    ∃ w₁ w₂, Returns ι (ensureTargetFolder provider spec callbacks) w₁ target w₂ := by
  obtain ⟨_, w₁, -, h⟩ := h.bind
  obtain ⟨_, w₂, -, h⟩ := h.bind
  obtain ⟨folder, w₃, hfolder, h⟩ := h.bind
  obtain ⟨heq, -⟩ := h.pure
  cases heq
  exact ⟨w₂, w₃, providerStep_returns.mp hfolder⟩

/-- A save that has been submitted was accepted under the id that is known. -/
theorem submitSave_returns {request : Prog σ TransferError String} {operationId : String}
    (h : Returns ι (submitSave callbacks request) w operationId w') :
    ∃ w₁ w₂, Returns ι request w₁ operationId w₂ := by
  obtain ⟨_, w₁, -, h⟩ := h.bind
  obtain ⟨accepted, w₂, hrequest, h⟩ := h.bind
  obtain ⟨_, w₃, -, h⟩ := h.bind
  obtain ⟨rfl, -⟩ := h.pure
  exact ⟨w₁, w₂, providerStep_returns.mp hrequest⟩

/-- The save is complete, and it is of one item. -/
theorem finishSave_returns {query : String → Prog σ TransferError SaveOperation}
    {operationId : String} {result : TransferOperationResult} :
    Returns ι (finishSave spec target query operationId) w result w' ↔
      ∃ operation, Returns ι (query operationId) w operation w' ∧ operation.completed = true ∧
        operation.targetFileIds = [result.targetFileId] ∧
        result = ⟨result.targetFileId, savedPath target spec.filename, false⟩ := by
  constructor
  · intro h
    obtain ⟨operation, w₁, hquery, h⟩ := h.bind
    cases hcompleted : operation.completed with
    | false =>
      rw [hcompleted] at h
      exact h.throw.elim
    | true =>
      rw [hcompleted] at h
      rcases hids : operation.targetFileIds with _ | ⟨fileId, _ | ⟨other, ids⟩⟩
      · rw [hids] at h
        exact h.throw.elim
      · rw [hids] at h
        obtain ⟨rfl, rfl⟩ := h.pure
        exact ⟨operation, providerStep_returns.mp hquery, hcompleted, hids, rfl⟩
      · rw [hids] at h
        exact h.throw.elim
  · rintro ⟨operation, hquery, hcompleted, hids, hresult⟩
    refine (providerStep_returns.mpr hquery).andThen ?_
    rw [hcompleted, hids, hresult]
    exact .of_pure _ _

end Phases

/-! ## Content -/

/-- The item is the source's, as far as both sides know. -/
def agrees (source item : RemoteItem) : Bool :=
  item.filename = source.filename && item.itemType = source.itemType &&
  (source.size.all fun size => item.size.all (· = size)) &&
  (source.contentHash.all fun hash => item.contentHash.all (· = hash))

/-- The folder has an item with this id, and it is the source's. -/
def InPlace (contents : σ → List RemoteItem) (source : RemoteItem) (fileId : String) (w : σ) :
    Prop := ∃ item ∈ contents w, item.remoteFileId = fileId ∧ agrees source item = true

/-- What the provider is trusted with: the target path names one folder, items
are found where they are, and a save puts the item there under the id that it
answers. -/
structure Honest (ι : Type) [Surroundings σ ι] (provider : CloudDriveProvider σ)
    (spec : TransferSpec) (callbacks : Callbacks σ) (target : FolderRef)
    (contents : σ → List RemoteItem) : Prop where
  ensured (w : σ) (folder : FolderRef) (w' : σ) :
    Returns ι (ensureTargetFolder provider spec callbacks) w folder w' → folder = target
  identified (w : σ) (a b : RemoteItem) :
    a ∈ contents w → b ∈ contents w → a.remoteFileId = b.remoteFileId → a = b
  found (w : σ) (item : RemoteItem) (w' : σ) :
    Returns ι (provider.findTargetItem target spec.filename) w (some item) w' →
      item ∈ contents w' ∧ item.filename = spec.filename
  validated (validate : RemoteItem → RemoteItem → Except TransferError Unit) (item : RemoteItem) :
    provider.validateExistingItem = some validate → item.filename = spec.filename →
      validate spec.source item = .ok () → agrees spec.source item = true
  saved (save : ShareInfo → RemoteItem → FolderRef → Prog σ TransferError SaveResult)
    (share : ShareInfo) (w : σ) (result : SaveResult) (w' : σ) :
    provider.saving = .direct save → Returns ι (save share spec.source target) w result w' →
      InPlace contents spec.source result.targetFileId w'
  -- For 123 this asks for more than its code shows: that provider reads the shared item once more
  -- when it saves, and its id names what it read then, so the item must not have changed since.
  resumed (start : ShareInfo → RemoteItem → FolderRef → Prog σ TransferError String)
    (query : String → Prog σ TransferError SaveOperation) (share : ShareInfo) (w : σ) (id : String)
    (w₁ w₂ : σ) (operation : SaveOperation) (fileId : String) (w' : σ) :
    provider.saving = .resumable start query → Returns ι (start share spec.source target) w id w₁ →
      Returns ι (query id) w₂ operation w' → operation.completed = true →
      operation.targetFileIds = [fileId] → InPlace contents spec.source fileId w'

/-- When a transfer that succeeds has put the item in place: what is trusted for
its name agrees with the source, and what is trusted for its id is its save. -/
structure Sure (ι : Type) [Surroundings σ ι] (provider : CloudDriveProvider σ)
    (spec : TransferSpec) (callbacks : Callbacks σ) (providerOperationId : Option String)
    (contents : σ → List RemoteItem) (w : σ) : Prop where
  existing (share : ShareInfo) (target : FolderRef) (w₁ : σ) (item : RemoteItem) (w₂ : σ) :
    providerOperationId = none → provider.validateExistingItem = none →
      Returns ι (prepare provider spec callbacks) w (share, target) w₁ →
      Returns ι (provider.findTargetItem target spec.filename) w₁ (some item) w₂ →
      agrees spec.source item = true
  recorded (start : ShareInfo → RemoteItem → FolderRef → Prog σ TransferError String)
    (query : String → Prog σ TransferError SaveOperation) (id : String) (share : ShareInfo)
    (target : FolderRef) (w₁ w₂ : σ) (operation : SaveOperation) (fileId : String) (w₃ : σ) :
    provider.saving = .resumable start query → providerOperationId = some id →
      Returns ι (prepare provider spec callbacks) w (share, target) w₁ →
      Returns ι (callbacks.raiseIfCancelled "transfer cancelled before remote save") w₁ () w₂ →
      Returns ι (query id) w₂ operation w₃ → operation.completed = true →
      operation.targetFileIds = [fileId] → InPlace contents spec.source fileId w₃

section Content
variable {provider : CloudDriveProvider σ} {spec : TransferSpec} {callbacks : Callbacks σ}
  {target : FolderRef} {contents : σ → List RemoteItem} {providerOperationId : Option String}
  {w w' : σ} {result : TransferOperationResult}

theorem Honest.prepared (h : Honest ι provider spec callbacks target contents) {share : ShareInfo}
    {folder : FolderRef}
    (hprepare : Returns ι (prepare provider spec callbacks) w (share, folder) w') :
    folder = target := by
  obtain ⟨w₁, w₂, hensured⟩ := prepare_target hprepare
  exact h.ensured w₁ folder w₂ hensured

/-- An item that was there and was compared is in place. -/
theorem Honest.accepted (h : Honest ι provider spec callbacks target contents)
    {existing : RemoteItem} {w₁ : σ}
    (hfound : Returns ι (provider.findTargetItem target spec.filename) w (some existing) w₁)
    (hagrees : provider.validateExistingItem = none → agrees spec.source existing = true)
    (haccept : Returns ι (acceptExisting provider spec target existing) w₁ result w') :
    InPlace contents spec.source result.targetFileId w' := by
  obtain ⟨hmem, hname⟩ := h.found w existing w₁ hfound
  obtain ⟨_, w₂, hchecked, hanswer⟩ := haccept.bind
  obtain ⟨hok, rfl⟩ := hchecked.ofExcept
  obtain ⟨rfl, rfl⟩ := hanswer.pure
  refine ⟨existing, hmem, rfl, ?_⟩
  cases hvalidate : provider.validateExistingItem with
  | none => exact hagrees hvalidate
  | some validate =>
    unfold checkExisting at hok
    rw [hvalidate] at hok
    exact h.validated validate existing hvalidate hname hok

/-- A save that this transfer has made is in place. -/
theorem Honest.savedItem (h : Honest ι provider spec callbacks target contents) {share : ShareInfo}
    (hrecorded : ∀ start query id operation fileId w', provider.saving = .resumable start query →
      providerOperationId = some id → Returns ι (query id) w operation w' →
      operation.completed = true → operation.targetFileIds = [fileId] →
      InPlace contents spec.source fileId w')
    (hsave : Returns ι (saveItem provider spec callbacks share target providerOperationId) w result
      w') : InPlace contents spec.source result.targetFileId w' := by
  unfold saveItem at hsave
  cases hsaving : provider.saving with
  | direct save =>
    rw [hsaving] at hsave
    obtain ⟨saved, w₁, hsaved, hsave⟩ := hsave.bind
    obtain ⟨rfl, rfl⟩ := hsave.pure
    exact h.saved save share w saved w' hsaving (providerStep_returns.mp hsaved)
  | resumable start query =>
    rw [hsaving] at hsave
    obtain ⟨id, w₁, hid, hfinish⟩ := hsave.bind
    obtain ⟨operation, hquery, hcompleted, hids, -⟩ := finishSave_returns.mp hfinish
    cases providerOperationId with
    | some known =>
      obtain ⟨rfl, rfl⟩ := hid.pure
      exact hrecorded start query id operation _ w' hsaving rfl hquery hcompleted hids
    | none =>
      obtain ⟨w₂, w₃, hstart⟩ := submitSave_returns hid
      exact h.resumed start query share w₂ id w₃ w₁ operation _ w' hsaving hstart hquery hcompleted
        hids

/-- Under an honest provider a transfer puts the item in place whenever it
succeeds, if and only if what it trusts is right. -/
theorem transfer_right_iff (h : Honest ι provider spec callbacks target contents)
    (providerOperationId : Option String) (w : σ) :
    (∀ result w', Returns ι (executeTransfer provider spec callbacks providerOperationId) w result
      w' → InPlace contents spec.source result.targetFileId w') ↔
    Sure ι provider spec callbacks providerOperationId contents w := by
  constructor
  · intro hright
    refine ⟨fun share folder w₁ item w₂ hnone hunchecked hprepare hfind => ?_,
      fun start query id share folder w₁ w₂ operation fileId w₃ hsaving hsome hprepare hprobe hquery
        hcompleted hids => ?_⟩
    · obtain rfl := h.prepared hprepare
      obtain ⟨hmem, -⟩ := h.found w₁ item w₂ hfind
      have hexisting : Returns ι (findExisting provider spec folder providerOperationId) w₁
          (some item) w₂ := by
        rw [hnone]
        exact providerStep_returns.mpr hfind
      have haccept : Returns ι (acceptExisting provider spec folder item) w₂
          ⟨item.remoteFileId, savedPath folder spec.filename, true⟩ w₂ := by
        unfold acceptExisting checkExisting
        rw [hunchecked]
        exact .of_pure _ _
      have hrun : Returns ι (executeTransfer provider spec callbacks providerOperationId) w
          ⟨item.remoteFileId, savedPath folder spec.filename, true⟩ w₂ :=
        hprepare.andThen (hexisting.andThen haccept)
      obtain ⟨other, hother, hid, hagrees⟩ := hright _ _ hrun
      obtain rfl := h.identified w₂ other item hother hmem hid
      exact hagrees
    · have hnothing :
          Returns ι (findExisting provider spec folder providerOperationId) w₁ none w₁ := by
        rw [hsome]
        exact .of_pure _ _
      have hsave : Returns ι (saveItem provider spec callbacks share folder providerOperationId) w₂
          ⟨fileId, savedPath folder spec.filename, false⟩ w₃ := by
        unfold saveItem
        rw [hsaving, hsome]
        exact (Returns.of_pure id w₂).andThen
          (finishSave_returns.mpr ⟨operation, hquery, hcompleted, hids, rfl⟩)
      exact hright _ w₃ (hprepare.andThen (hnothing.andThen (hprobe.andThen hsave)))
  · intro hsure result w' hrun
    obtain ⟨⟨share, folder⟩, w₁, hprepare, hrun⟩ := hrun.bind
    obtain rfl := h.prepared hprepare
    obtain ⟨found, w₂, hfind, hrun⟩ := hrun.bind
    cases found with
    | some existing =>
      cases providerOperationId with
      | some id =>
        obtain ⟨heq, -⟩ := hfind.pure
        cases heq
      | none =>
        have hfound := providerStep_returns.mp hfind
        exact h.accepted hfound (fun hunchecked =>
          hsure.existing share folder w₁ existing w₂ rfl hunchecked hprepare hfound) hrun
    | none =>
      obtain ⟨_, w₃, hprobe, hsave⟩ := hrun.bind
      refine h.savedItem (fun start query id operation fileId w'' hsaving hsome hquery hcompleted
        hids => ?_) hsave
      subst hsome
      obtain ⟨-, rfl⟩ := hfind.pure
      exact hsure.recorded start query id share folder w₂ w₃ operation fileId w'' hsaving rfl
        hprepare hprobe hquery hcompleted hids

end Content

/-! ## A folder with an older version -/

def oldVersion : RemoteItem where
  remoteFileId := "old"
  parentId := some "f"
  filename := "e01.mkv"
  itemType := "file"
  size := some 1
  contentHash := some "a"

def episode (filename : String) : TransferSpec where
  shareUrl := "https://pan.example/s/1"
  sharePassword := none
  targetPath := "/shows"
  remoteFileId := "s1"
  parentRemoteFileId := none
  filename := filename
  relativePath := filename
  itemType := "file"
  size := some 2
  contentHash := some "b"

/-- The folder, before and after the item has been saved. -/
def onShelf (source : RemoteItem) (saved : Bool) : List RemoteItem :=
  oldVersion :: if saved then [{ source with remoteFileId := "new" }] else []

def shelfLost : TransferError := .request { message := "connection lost" }

/-- A provider that saves with one request and finds items by name. -/
def shelf (source : RemoteItem) : CloudDriveProvider Bool where
  resolveShare _ _ := pure ⟨"1", "share", "root"⟩
  ensureFolder parent name := pure ⟨"f", childPath parent name⟩
  findTargetItem _ name := Prog.look shelfLost fun saved =>
    .ok ((onShelf source saved).find? (isNamed name))
  saving := .direct fun _ source target => Prog.effect shelfLost fun _ =>
    (.ok ⟨"new", savedPath target source.filename⟩, true)
  consumeRefreshTokenUpdate := pure none
  requestCount := pure none

def quietCallbacks : Callbacks Bool where
  cancellationRequested := pure false
  recordWriteIntent := pure ()
  recordProviderOperation _ := pure ()

def shelfFolder : FolderRef := ⟨"f", "/shows"⟩

theorem shelf_ensures (filename : String) (hparts :
    Provider.targetFolderParts "/shows" filename = ["/", "shows"]) :
    ensureTargetFolder (shelf (episode filename).source) (episode filename) quietCallbacks =
      pure shelfFolder := by
  unfold ensureTargetFolder
  change ensurePartsOf _ _ (Provider.targetFolderParts "/shows" filename) _ = _
  rw [hparts]
  have hpath : childPath ⟨"root", "/"⟩ "shows" = "/shows" := by decide
  change Prog.ret (⟨"f", childPath ⟨"root", "/"⟩ "shows"⟩ : FolderRef) = _
  rw [hpath]
  rfl

theorem shelf_honest (filename : String) (hparts :
    Provider.targetFolderParts "/shows" filename = ["/", "shows"]) :
    Honest Empty (shelf (episode filename).source) (episode filename) quietCallbacks shelfFolder
      (onShelf (episode filename).source) where
  ensured w folder w' h := by
    rw [shelf_ensures filename hparts] at h
    exact h.pure.1
  identified w a b ha hb hid := by
    cases w with
    | false =>
      rw [onShelf, if_neg Bool.false_ne_true, List.mem_singleton] at ha hb
      rw [ha, hb]
    | true =>
      rw [onShelf, if_pos rfl, List.mem_pair] at ha hb
      rcases ha with rfl | rfl <;> rcases hb with rfl | rfl
      · rfl
      · exact absurd hid (by decide : oldVersion.remoteFileId ≠ "new")
      · exact absurd hid.symm (by decide : oldVersion.remoteFileId ≠ "new")
      · rfl
  found w item w' h := by
    obtain ⟨-, hfound⟩ := h.look
    have hsome := Except.ok.inj hfound
    exact ⟨List.mem_of_find?_eq_some hsome, by simpa [isNamed] using List.find?_some hsome⟩
  validated validate item hvalidate := by cases hvalidate
  saved save share w result w' hsaving h := by
    cases hsaving
    obtain ⟨w₁, -, hsaved⟩ := h.effect
    cases hsaved
    refine ⟨{ (episode filename).source with remoteFileId := "new" }, by simp [onShelf], rfl, ?_⟩
    simp [agrees, episode, TransferSpec.source]
  resumed start query share w id w₁ w₂ operation fileId w' hsaving := by cases hsaving

/-- Where no file has the name yet, what the transfer trusts is right. -/
theorem transfer_right_iff_shelf :
    Sure Empty (shelf (episode "e02.mkv").source) (episode "e02.mkv") quietCallbacks none
        (onShelf (episode "e02.mkv").source) false ∧
      ∀ result w', Returns Empty (executeTransfer (shelf (episode "e02.mkv").source)
        (episode "e02.mkv") quietCallbacks none) false result w' →
        InPlace (onShelf (episode "e02.mkv").source) (episode "e02.mkv").source
          result.targetFileId w' := by
  have hhonest := shelf_honest "e02.mkv" (by decide)
  have hsure : Sure Empty (shelf (episode "e02.mkv").source) (episode "e02.mkv") quietCallbacks none
      (onShelf (episode "e02.mkv").source) false := by
    refine ⟨fun share target w₁ item w₂ _ _ hprepare hfind => ?_,
      fun start query id share target w₁ w₂ operation fileId w₃ hsaving => by cases hsaving⟩
    obtain rfl := hhonest.prepared hprepare
    obtain ⟨hmem, hname⟩ := hhonest.found w₁ item w₂ hfind
    cases w₂ with
    | false =>
      rw [onShelf, if_neg Bool.false_ne_true, List.mem_singleton] at hmem
      rw [hmem] at hname
      exact absurd hname (by decide)
    | true =>
      rw [onShelf, if_pos rfl, List.mem_pair] at hmem
      rcases hmem with rfl | rfl
      · exact absurd hname (by decide)
      · decide
  exact ⟨hsure, (transfer_right_iff hhonest none false).mpr hsure⟩

/-- The provider is honest, and the transfer of a new version takes the old one
of the same name for it. -/
theorem old_version_accepted :
    Honest Empty (shelf (episode "e01.mkv").source) (episode "e01.mkv") quietCallbacks shelfFolder
      (onShelf (episode "e01.mkv").source) ∧
    (∃ w', Returns Empty (executeTransfer (shelf (episode "e01.mkv").source) (episode "e01.mkv")
        quietCallbacks none) false ⟨"old", "/shows/e01.mkv", true⟩ w' ∧
      ¬ InPlace (onShelf (episode "e01.mkv").source) (episode "e01.mkv").source "old" w') := by
  have hfind : (onShelf (episode "e01.mkv").source false).find? (isNamed "e01.mkv") =
      some oldVersion := by decide
  have hprepare : prepare (shelf (episode "e01.mkv").source) (episode "e01.mkv") quietCallbacks =
      pure (⟨"1", "share", "root"⟩, shelfFolder) := by
    unfold prepare
    rw [shelf_ensures "e01.mkv" (by decide)]
    rfl
  have hlook : Returns Empty ((shelf (episode "e01.mkv").source).findTargetItem shelfFolder
      "e01.mkv") false (some oldVersion) false := by
    refine .of_effect ?_
    dsimp only
    rw [hfind]
  have hpath : savedPath shelfFolder "e01.mkv" = "/shows/e01.mkv" := by decide
  refine ⟨shelf_honest "e01.mkv" (by decide), false, ?_, ?_⟩
  · unfold executeTransfer
    rw [hprepare, ← hpath]
    exact (Returns.of_pure _ _).andThen ((providerStep_returns.mpr hlook).andThen (.of_pure _ _))
  · rintro ⟨item, hmem, hid, hagrees⟩
    rw [onShelf, if_neg Bool.false_ne_true, List.mem_singleton] at hmem
    rw [hmem] at hagrees
    exact absurd hagrees (by decide)

end MediaSync.TransferredContent
