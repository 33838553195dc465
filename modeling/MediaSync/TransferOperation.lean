import MediaSync.ProviderOperations

/-!
# Transferring one item

A transfer resolves the share, ensures the folders above the item and saves the
item, unless the target folder holds something of its name. What differs from
provider to provider is whether such an item is checked, and whether a save is
one request or is submitted under an operation id and asked for later.

Who transfers hands in how to find out about a cancellation and what to record
on the way. The programs run on any state: a provider's answers and what is
recorded are effects on it.
-/
namespace MediaSync.TransferOperation
open FaultPrograms PosixPaths SubscriptionScan ProviderOperations

/-! ## What can be raised -/

/-- The kinds of `ProviderRequestError` that are told apart. -/
inductive RequestKind where
  | plain
  | aliyun (credentialInvalid : Bool)
  | pikpak
  | pikpakCredential
  | writeUncertain
  deriving DecidableEq, Repr

structure RequestError where
  code : String := "PROVIDER_REQUEST_FAILED"
  message : String
  kind : RequestKind := .plain
  transferStage : Option String := none
  deriving DecidableEq, Repr

/-- An exception by its class. The code of another exception is the attribute of
that name, which may be missing and may be empty. -/
inductive TransferError where
  | sourceNotFound (text : String)
  | notConfigured (code text : String)
  | capability (code text : String)
  | request (e : RequestError)
  | provider (code text : String)
  | value (text : String)
  | cancelled (text : String)
  | ownershipLost (taskId : ℕ) (workerId : String)
  | other (code : Option (Option String)) (text : String)
  deriving DecidableEq, Repr

def writeUncertain (text : String) : TransferError :=
  .request { code := "PROVIDER_WRITE_UNCERTAIN", message := text, kind := .writeUncertain }

def operationPending (text : String) : TransferError :=
  .request { code := "PROVIDER_OPERATION_PENDING", message := text }

def TransferError.isWriteUncertain : TransferError → Bool
  | .request e => e.kind = .writeUncertain
  | _ => false

def TransferError.atStage (stage : String) : TransferError → TransferError
  | .request e => .request { e with transferStage := some stage }
  | e => e

/-! ## Providers -/

structure SaveResult where
  targetFileId : String
  targetPath : String
  deriving DecidableEq, Repr

/-- How a provider saves: with one request, or as a `ResumableSaveProvider`. -/
inductive Saving (σ : Type) where
  | direct (saveSharedItem : ShareInfo → RemoteItem → FolderRef → Prog σ TransferError SaveResult)
  | resumable
      (startSaveSharedItem : ShareInfo → RemoteItem → FolderRef → Prog σ TransferError String)
      (querySaveOperation : String → Prog σ TransferError SaveOperation)

/-- The part of a provider that a transfer uses. `validateExistingItem` is there
if it is a `VerifiedExistingSaveProvider`. -/
structure CloudDriveProvider (σ : Type) where
  resolveShare : String → Option String → Prog σ TransferError ShareInfo
  ensureFolder : FolderRef → String → Prog σ TransferError FolderRef
  findTargetItem : FolderRef → String → Prog σ TransferError (Option RemoteItem)
  validateExistingItem : Option (RemoteItem → RemoteItem → Except TransferError Unit) := none
  saving : Saving σ
  consumeRefreshTokenUpdate : Prog σ TransferError (Option String)
  requestCount : Prog σ TransferError (Option ℕ)

/-! ## The operation -/

structure TransferSpec where
  shareUrl : String
  sharePassword : Option String
  targetPath : String
  remoteFileId : String
  parentRemoteFileId : Option String
  filename : String
  relativePath : String
  itemType : String
  size : Option ℤ
  contentHash : Option String
  deriving DecidableEq, Repr

structure TransferOperationResult where
  targetFileId : String
  targetPath : String
  alreadyExisted : Bool
  deriving DecidableEq, Repr

def TransferSpec.source (spec : TransferSpec) : RemoteItem where
  remoteFileId := spec.remoteFileId
  parentId := spec.parentRemoteFileId
  filename := spec.filename
  itemType := spec.itemType
  size := spec.size
  contentHash := spec.contentHash

/-- `str(PurePosixPath(target.path) / spec.filename)` -/
def savedPath (target : FolderRef) (filename : String) : String :=
  ((PurePosixPath.ofString target.path).join filename).toString

section Operation
variable {σ : Type}

/-- `_provider_step` -/
def providerStep {α : Type} (stage : String) (request : Prog σ TransferError α) :
    Prog σ TransferError α := tryCatch request fun e => throw (e.atStage stage)

/-- What the caller of a transfer hands in. -/
structure Callbacks (σ : Type) where
  cancellationRequested : Prog σ TransferError Bool
  recordWriteIntent : Prog σ TransferError Unit
  recordProviderOperation : String → Prog σ TransferError Unit

def Callbacks.raiseIfCancelled (callbacks : Callbacks σ) (text : String) :
    Prog σ TransferError Unit := do
  if ← callbacks.cancellationRequested then throw (.cancelled text)

variable (provider : CloudDriveProvider σ) (spec : TransferSpec) (callbacks : Callbacks σ)

def ensureTargetFolder : Prog σ TransferError FolderRef :=
  ensurePartsOf (callbacks.raiseIfCancelled "transfer cancelled before target folder preparation")
    provider.ensureFolder (Provider.targetFolderParts spec.targetPath spec.relativePath)
    ⟨"root", "/"⟩

/-- The share and the target folder. -/
def prepare : Prog σ TransferError (ShareInfo × FolderRef) := do
  callbacks.raiseIfCancelled "transfer cancelled before provider access"
  let share ← providerStep "resolve share" (provider.resolveShare spec.shareUrl spec.sharePassword)
  let target ← providerStep "prepare target directory" (ensureTargetFolder provider spec callbacks)
  pure (share, target)

/-- An item of the name, unless a save is under way already. -/
def findExisting (target : FolderRef) :
    Option String → Prog σ TransferError (Option RemoteItem)
  | none => providerStep "check existing target file" (provider.findTargetItem target spec.filename)
  | some _ => pure none

/-- The check of an item that is there, where the provider has one. -/
def checkExisting (existing : RemoteItem) : Except TransferError Unit :=
  match provider.validateExistingItem with
  | some validate => validate spec.source existing
  | none => .ok ()

/-- The item that is there counts as the result, once it is checked. -/
def acceptExisting (target : FolderRef) (existing : RemoteItem) :
    Prog σ TransferError TransferOperationResult := do
  Prog.ofExcept (checkExisting provider spec existing)
  pure ⟨existing.remoteFileId, savedPath target spec.filename, true⟩

/-- A new save: the intent is recorded before it, its id after it. -/
def submitSave (callbacks : Callbacks σ) (request : Prog σ TransferError String) :
    Prog σ TransferError String := do
  callbacks.recordWriteIntent
  let operationId ← providerStep "submit shared file copy" request
  tryCatch (callbacks.recordProviderOperation operationId) fun _ =>
    throw (writeUncertain "cloud-drive operation was accepted but its ID was not persisted")
  pure operationId

/-- The id of the save, which is submitted unless one is under way already. -/
def saveOperation (callbacks : Callbacks σ) (request : Prog σ TransferError String) :
    Option String → Prog σ TransferError String
  | some operationId => pure operationId
  | none => submitSave callbacks request

/-- What became of a save. -/
def finishSave (target : FolderRef)
    (querySaveOperation : String → Prog σ TransferError SaveOperation)
    (operationId : String) : Prog σ TransferError TransferOperationResult := do
  let operation ← providerStep "check copy result" (querySaveOperation operationId)
  if !operation.completed then
    throw (operationPending "cloud-drive save operation is still pending")
  else match operation.targetFileIds with
  | [targetFileId] => pure ⟨targetFileId, savedPath target spec.filename, false⟩
  | _ => throw (operationPending "cloud-drive save result requires manual reconciliation")

def saveItem (share : ShareInfo) (target : FolderRef) (providerOperationId : Option String) :
    Prog σ TransferError TransferOperationResult :=
  match provider.saving with
  | .resumable startSaveSharedItem querySaveOperation => do
    let operationId ← saveOperation callbacks (startSaveSharedItem share spec.source target)
      providerOperationId
    finishSave spec target querySaveOperation operationId
  | .direct saveSharedItem => do
    let result ← providerStep "copy shared file" (saveSharedItem share spec.source target)
    pure ⟨result.targetFileId, result.targetPath, false⟩

/-- `execute_transfer` -/
def executeTransfer (providerOperationId : Option String) :
    Prog σ TransferError TransferOperationResult := do
  let (share, target) ← prepare provider spec callbacks
  match ← findExisting provider spec target providerOperationId with
  | some existing => acceptExisting provider spec target existing
  | none => do
    callbacks.raiseIfCancelled "transfer cancelled before remote save"
    saveItem provider spec callbacks share target providerOperationId

end Operation

end MediaSync.TransferOperation
