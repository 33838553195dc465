import MediaSync.SubscriptionScan
import MediaSync.Common.UrlSafeBase64

/-!
# Saving shared items

Three providers save a shared item into a folder of the account's drive and
hand out an operation id, by which they find the saved item again. The id is
all that survives between the two calls: it holds the folder and a fingerprint
of the item.

The service answers each request as it likes, and may answer the same request
differently a moment later. What a client checks of a request before it is sent
counts as an answer of the service where nothing else depends on it. The loops
over pages carry fuel.
-/
namespace MediaSync.ProviderOperations
open FaultPrograms JsonValues PosixPaths PythonText UrlSafeBase64 SubscriptionScan

structure FolderRef where
  folderId : String
  path : String
  deriving DecidableEq, Repr

structure SaveOperation where
  operationId : String
  completed : Bool
  targetFileIds : List String := []
  deriving DecidableEq, Repr

inductive ProviderError where
  | value (text : String)
  | request (text : String)
  | capability (text : String)
  | writeUncertain (text : String)
  | pagination (text : String)
  | transferCancelled (text : String)
  | interrupted
  deriving DecidableEq, Repr

/-! ## The service -/

inductive ServiceRequest where
  | shareItems (shareKey parentId : String) (marker : Option String)
  | targetItems (folder : String) (marker : Option String)
  | createFolder (parent name : String)
  /-- One provider saves into a folder of its own choice. -/
  | save (folder : Option String) (item : RemoteItem)
  | move (fileId folder : String)
  deriving DecidableEq, Repr

inductive Answer where
  | page (page : RemotePage)
  | created (item : RemoteItem)
  | accepted
  deriving DecidableEq, Repr

structure Cloud where
  answer : ServiceRequest → Except ProviderError Answer
  /-- Shares that the provider has resolved. -/
  resolved : List String := []
  cancelled : Bool := false
  /-- What has been saved, in order. -/
  saved : List RemoteItem := []

inductive CloudMove where
  | answers (answer : ServiceRequest → Except ProviderError Answer)
  | cancel

instance : Surroundings Cloud CloudMove where
  move
    | .answers answer, w => { w with answer := answer }
    | .cancel, w => { w with cancelled := true }

abbrev Provide (α : Type) := Prog Cloud ProviderError α

def Cloud.record (w : Cloud) : ServiceRequest → Cloud
  | .save _ item => { w with saved := w.saved ++ [item] }
  | _ => w

def ask (request : ServiceRequest) : Provide Answer :=
  Prog.effect .interrupted fun w =>
    match w.answer request with
    | .error e => (.error e, w)
    | .ok answer => (.ok answer, w.record request)

def unexpected : ProviderError := .request "the service returned an unexpected response shape"

/-- A page, from any client that asks the service. -/
def askPageOf {σ : Type} (ask : ServiceRequest → Prog σ ProviderError Answer)
    (request : ServiceRequest) : Prog σ ProviderError RemotePage := do
  match ← ask request with
  | .page page => pure page
  | _ => throw unexpected

def askPage (request : ServiceRequest) : Provide RemotePage :=
  askPageOf ask request

/-- The first item with a property, over all pages. -/
def findItem (list : Option String → Provide RemotePage) (p : RemoteItem → Bool) :
    ℕ → Option String → Provide (Option RemoteItem)
  | 0, _ => throw .interrupted
  | fuel + 1, marker => do
    let page ← list marker
    match page.items.find? p with
    | some item => pure (some item)
    | none =>
      match page.nextMarker with
      | none => pure none
      | some next => findItem list p fuel (some next)

/-! ## Fingerprints and operation ids -/

/-- `hashlib.sha256` -/
structure Sha256 where
  digest : Bytes → Bytes
  length_digest (bytes : Bytes) : (digest bytes).length = 32

def Sha256.hexdigest (sha256 : Sha256) (text : String) : String :=
  hexDigest (sha256.digest (utf8 text))

def isLowerHex (c : Char) : Bool := c ∈ "0123456789abcdef".toList

/-- `str.isdecimal` -/
def isdecimal (text : String) : Bool := text ≠ "" && text.toList.all isDecimal

/-- An id: a label, a folder and a fingerprint. -/
def operationId (label folder fingerprint : String) : String :=
  String.ofList (label.toList ++ '.' :: (rstrip '=' (encode (utf8 folder)) ++
    '.' :: fingerprint.toList))

/-- The folder and the fingerprint of an id with a given label. -/
def parseOperationId (label : String) (strict : Bool) (fingerprintLength : ℕ)
    (error : ProviderError)
    (accepts : String → Bool) (text : String) : Except ProviderError (String × String) :=
  match splitChar '.' text.toList with
  | [first, second, third] =>
    if first ≠ label.toList ∨ third.length ≠ fingerprintLength then .error error
    else match (decodeStripped strict second).bind fromUtf8 with
    | none => .error error
    | some folder =>
      if !accepts folder || !third.all isLowerHex then .error error
      else .ok (folder, String.ofList third)
  | _ => .error error

/-- `f"{filename}\0{size or 0}\0{content_hash or ''}\0{item_type}"` -/
def itemText (item : RemoteItem) : String :=
  (String.singleton (Char.ofNat 0)).intercalate
    [item.filename, toString (item.size.getD 0), item.contentHash.getD "", item.itemType]

/-- The first twenty-four digits. -/
def shortFingerprint (sha256 : Sha256) (item : RemoteItem) : String :=
  String.ofList ((sha256.hexdigest (itemText item)).toList.take 24)

/-- `path.rstrip("/")` and a name below it -/
def childPath (parent : FolderRef) (name : String) : String :=
  String.ofList (rstrip '/' parent.path.toList) ++ "/" ++ name

def isNamed (name : String) (item : RemoteItem) : Bool := item.filename = name

/-! ## 123 -/

namespace Pan123

def rootFolderId : String := "0"

/-- `_target_folder_id` -/
def targetFolderId (folderId : String) : Except ProviderError String :=
  let normalized := if folderId = "root" then rootFolderId else folderId
  if isdecimal normalized then .ok normalized
  else .error (.value "123 target folder ID must be numeric")

def listTargetItems (target : FolderRef) (marker : Option String) : Provide RemotePage := do
  let folder ← Prog.ofExcept (targetFolderId target.folderId)
  askPage (.targetItems folder marker)

def findTargetItem (fuel : ℕ) (target : FolderRef) (name : String) :
    Provide (Option RemoteItem) := findItem (listTargetItems target) (isNamed name) fuel none

/-- The polls after a folder was created. -/
def verifyFolder (fuel : ℕ) (parent : FolderRef) (name : String) : ℕ → Provide FolderRef
  | 0 => throw (.writeUncertain "123 folder creation was accepted but could not be verified")
  | attempts + 1 => do
    match ← findTargetItem fuel parent name with
    | some created =>
      if created.itemType = "folder" then pure ⟨created.remoteFileId, childPath parent name⟩
      else verifyFolder fuel parent name attempts
    | none => verifyFolder fuel parent name attempts

def ensureFolder (fuel : ℕ) (parent : FolderRef) (name : String) : Provide FolderRef := do
  match ← findTargetItem fuel parent name with
  | some existing =>
    if existing.itemType ≠ "folder" then
      throw (.request ("123 target exists and is not a folder: " ++ name))
    else pure ⟨existing.remoteFileId, childPath parent name⟩
  | none => do
    let folder ← Prog.ofExcept (targetFolderId parent.folderId)
    let _ ← ask (.createFolder folder name)
    verifyFolder fuel parent name 5

/-- `_operation_fingerprint` -/
def operationFingerprint (sha256 : Sha256) (item : RemoteItem) : String :=
  shortFingerprint sha256 item

/-- `_operation_id` -/
def operationId (targetId fingerprint : String) : String :=
  ProviderOperations.operationId "p123v1" targetId fingerprint

/-- `_parse_operation_id` -/
def parseOperationId (text : String) : Except ProviderError (String × String) :=
  ProviderOperations.parseOperationId "p123v1" false 24 (.value "Invalid 123 operation ID")
    isdecimal text

/-- `_source_for_save`: the item as the share lists it now -/
def sourceForSave (fuel : ℕ) (share : ShareInfo) (source : RemoteItem) : Provide RemoteItem := do
  let parent := match source.parentId with
    | some parentId => if parentId = "" then share.rootFolderId else parentId
    | none => share.rootFolderId
  match ← findItem (fun marker => askPage (.shareItems share.shareKey parent marker))
      (fun item => item.remoteFileId = source.remoteFileId) fuel none with
  | some item => pure item
  | none => throw (.request "123 share item could not be found before save")

def startSaveSharedItem (sha256 : Sha256) (fuel : ℕ) (share : ShareInfo) (source : RemoteItem)
    (target : FolderRef) : Provide String := do
  let resolved ← Prog.look .interrupted fun w => .ok w.resolved
  if share.shareKey ∉ resolved then
    throw (.request "Resolve the 123 share before saving its items")
  else do
    let item ← sourceForSave fuel share source
    let folder ← Prog.ofExcept (targetFolderId target.folderId)
    let _ ← ask (.save (some folder) item)
    pure (operationId target.folderId (operationFingerprint sha256 item))

def querySaveOperation (sha256 : Sha256) (fuel : ℕ) (text : String) : Provide SaveOperation := do
  let (targetId, fingerprint) ← Prog.ofExcept (parseOperationId text)
  match ← findItem (listTargetItems ⟨targetId, "/"⟩)
      (fun item => operationFingerprint sha256 item = fingerprint) fuel none with
  | some item => pure ⟨text, true, [item.remoteFileId]⟩
  | none => pure ⟨text, false, []⟩

end Pan123

/-! ## Baidu -/

namespace Baidu

/-- `normalize_target_path` -/
def normalizeTargetPath (value : String) : Except ProviderError String :=
  let path := strip value.toList
  if path.head? ≠ some '/' ∨ 1024 < path.length then
    .error (.value "Baidu target path must be an absolute path")
  else if path.any fun c => c.toNat < 32 || c.toNat = 127 then
    .error (.value "Baidu target path contains control characters")
  else
    let pure := PurePosixPath.ofString (String.ofList path)
    if pure.toString.toList ≠ rstrip '/' path ∧ ¬(path = ['/'] ∧ pure.toString = "/") then
      .error (.value "Baidu target path must be normalized")
    else if ['.', '.'] ∈ pure.parts then
      .error (.value "Baidu target path cannot contain parent traversal")
    else .ok pure.toString

def listTargetItems (target : FolderRef) (marker : Option String) : Provide RemotePage :=
  askPage (.targetItems target.path marker)

def findTargetItem (fuel : ℕ) (target : FolderRef) (name : String) :
    Provide (Option RemoteItem) := findItem (listTargetItems target) (isNamed name) fuel none

def ensureFolder (fuel : ℕ) (parent : FolderRef) (name : String) : Provide FolderRef := do
  if name = "" ∨ '/' ∈ name.toList ∨ name = "." ∨ name = ".." then
    throw (.value "Invalid Baidu folder name")
  else do
    let path ← Prog.ofExcept (normalizeTargetPath (childPath parent name))
    match ← findTargetItem fuel parent name with
    | some existing =>
      if existing.itemType ≠ "folder" then
        throw (.request ("Baidu target exists and is not a folder: " ++ name))
      else pure ⟨path, path⟩
    | none => do
      let _ ← ask (.createFolder parent.path name)
      pure ⟨path, path⟩

/-- `_fingerprint` -/
def fingerprint (sha256 : Sha256) (item : RemoteItem) : String := shortFingerprint sha256 item

/-- `_operation_id` -/
def operationId (path fingerprint : String) : String :=
  ProviderOperations.operationId "baiduv1" path fingerprint

/-- `_parse_operation_id` -/
def parseOperationId (text : String) : Except ProviderError (String × String) :=
  ProviderOperations.parseOperationId "baiduv1" false 24 (.value "Invalid Baidu operation ID")
    (fun path => path.toList.head? = some '/') text

/-- `submit_save`; the client sends the normal form of the path. -/
def submitSave (share : ShareInfo) (source : RemoteItem) (target : FolderRef) : Provide Unit := do
  let resolved ← Prog.look .interrupted fun w => .ok w.resolved
  if share.shareKey ∉ resolved then
    throw (.request "Resolve the Baidu share before saving its items")
  else do
    let folder ← Prog.ofExcept (normalizeTargetPath target.path)
    let _ ← ask (.save (some folder) source)
    pure ()

def startSaveSharedItem (sha256 : Sha256) (share : ShareInfo) (source : RemoteItem)
    (target : FolderRef) : Provide String := do
  submitSave share source target
  pure (operationId target.path (fingerprint sha256 source))

def querySaveOperation (sha256 : Sha256) (fuel : ℕ) (text : String) : Provide SaveOperation := do
  let (path, wanted) ← Prog.ofExcept (parseOperationId text)
  match ← findItem (listTargetItems ⟨path, path⟩)
      (fun item => fingerprint sha256 item = wanted) fuel none with
  | some item => pure ⟨text, true, [item.remoteFileId]⟩
  | none => pure ⟨text, false, []⟩

end Baidu

/-! ## PikPak -/

namespace PikPak

/-- `_ID.fullmatch` -/
def isId (text : String) : Bool :=
  1 ≤ text.toList.length && text.toList.length ≤ 128 && text.toList.all fun c =>
    'A' ≤ c && c ≤ 'Z' || 'a' ≤ c && c ≤ 'z' || '0' ≤ c && c ≤ '9' || c = '_' || c = '-'

/-- `_parent`: the drive itself has no id. -/
def parent (folderId : String) : Except ProviderError String :=
  if folderId ∈ ["", "root", "/"] then .ok ""
  else if isId folderId then .ok folderId
  else .error (.request "Invalid PikPak folder ID")

/-! A listing, of any client that asks the service. -/

section Listing
variable {σ : Type} (ask : ServiceRequest → Prog σ ProviderError Answer)

def listTargetItemsOf (target : FolderRef) (marker : Option String) :
    Prog σ ProviderError RemotePage := do
  let folder ← Prog.ofExcept (parent target.folderId)
  askPageOf ask (.targetItems folder marker)

/-- `_items`: all items of a folder; a listing that repeats itself raises. The
guard of the listing itself refuses nothing that this one does not. -/
def itemsOf (target : FolderRef) : ℕ → Option String → List String → List String →
    Prog σ ProviderError (List RemoteItem)
  | 0, _, _, _ => throw .interrupted
  | fuel + 1, marker, seenMarkers, seenIds => do
    let page ← listTargetItemsOf ask target marker
    let newItems := page.items.filter fun item => item.remoteFileId ∉ seenIds
    if page.items ≠ [] ∧ newItems = [] then
      throw (.pagination "PikPak listing repeated files without progress")
    else match page.nextMarker with
    | none => pure newItems
    | some next =>
      if next ∈ seenMarkers then throw (.pagination "PikPak listing repeated a page token")
      else do
        let rest ← itemsOf target fuel (some next) (next :: seenMarkers)
          (newItems.map RemoteItem.remoteFileId ++ seenIds)
        pure (newItems ++ rest)

def allItemsOf (fuel : ℕ) (target : FolderRef) : Prog σ ProviderError (List RemoteItem) :=
  itemsOf ask target fuel none [] []

end Listing

def allItems (fuel : ℕ) (target : FolderRef) : Provide (List RemoteItem) :=
  allItemsOf ask fuel target

def isComplete (item : RemoteItem) : Bool :=
  item.metadata.lookup "phase" = some (.str "PHASE_TYPE_COMPLETE")

/-- No phase, or the last one. -/
def isSettled (item : RemoteItem) : Bool :=
  isComplete item || item.metadata.lookup "phase" ∈ [none, some .null]

def findTargetItem (fuel : ℕ) (target : FolderRef) (name : String) :
    Provide (Option RemoteItem) := do
  let found ← allItems fuel target
  match found.filter (isNamed name) with
  | [] => pure none
  | [item] =>
    if isSettled item then pure (some item)
    else throw (.request "PikPak target item is not complete yet")
  | _ => throw (.request "PikPak target contains ambiguous duplicate names")

/-- The folder that a creation answered is the one asked for. -/
def isCreated (parentId name : String) (item : RemoteItem) : Except ProviderError Bool := do
  let itemParent ← parent ((item.parentId.filter (· ≠ "")).getD "root")
  return item.itemType = "folder" && item.filename = name && itemParent = parentId

def ensureFolder (fuel : ℕ) (target : FolderRef) (name : String) : Provide FolderRef := do
  if name = "" ∨ name = "." ∨ name = ".." ∨ '/' ∈ name.toList ∨ Char.ofNat 0 ∈ name.toList then
    throw (.request "Invalid PikPak folder name")
  else match ← findTargetItem fuel target name with
  | some existing =>
    if existing.itemType ≠ "folder" then
      throw (.request "PikPak target name is occupied by a file")
    else pure ⟨existing.remoteFileId, childPath target name⟩
  | none => do
    let parentId ← Prog.ofExcept (parent target.folderId)
    match ← ask (.createFolder parentId name) with
    | .created item => do
      let created ← Prog.ofExcept (isCreated parentId name item)
      if created then pure ⟨item.remoteFileId, childPath target name⟩
      else throw (.writeUncertain "PikPak folder creation returned an unexpected target")
    | _ => throw (.writeUncertain "PikPak folder creation result is incomplete")

/-- A character of a JSON string; only what must be escaped is. -/
def escapeChar (c : Char) : List Char :=
  if c = '"' then ['\\', '"']
  else if c = '\\' then ['\\', '\\']
  else if c = '\n' then ['\\', 'n']
  else if c = '\r' then ['\\', 'r']
  else if c = '\t' then ['\\', 't']
  else if c.toNat = 8 then ['\\', 'b']
  else if c.toNat = 12 then ['\\', 'f']
  else if c.toNat < 32 then
    ['\\', 'u', '0', '0', hexDigit (c.toNat / 16), hexDigit (c.toNat % 16)]
  else [c]

def jsonString (text : String) : String :=
  String.ofList ('"' :: (text.toList.flatMap escapeChar ++ ['"']))

/-- `json.dumps([filename, size, content_hash, item_type])`, without blanks -/
def itemJson (item : RemoteItem) : String :=
  "[" ++ ",".intercalate [jsonString item.filename, (item.size.map toString).getD "null",
    (item.contentHash.map jsonString).getD "null", jsonString item.itemType] ++ "]"

/-- `_fingerprint` -/
def fingerprint (sha256 : Sha256) (item : RemoteItem) : String := sha256.hexdigest (itemJson item)

def operationId (targetId fingerprint : String) : String :=
  ProviderOperations.operationId "pikpak1" targetId fingerprint

/-- `_parent(...) or "root"` -/
def targetId (folderId : String) : Except ProviderError String :=
  (parent folderId).map fun id => if id = "" then "root" else id

def parseOperationId (text : String) : Except ProviderError (String × String) := do
  let (folder, wanted) ← ProviderOperations.parseOperationId "pikpak1" true 64
    (.request "Invalid PikPak operation ID") (fun _ => true) text
  let _ ← parent folder
  return (folder, wanted)

def startSaveSharedItem (sha256 : Sha256) (fuel : ℕ) (share : ShareInfo) (source : RemoteItem)
    (target : FolderRef) : Provide String := do
  let resolved ← Prog.look .interrupted fun w => .ok w.resolved
  if share.shareKey ∉ resolved then
    throw (.request "Resolve the PikPak share before accessing its files")
  else if source.itemType ≠ "file" ∨ (source.contentHash.getD "") = "" ∨ source.size = none then
    throw (.capability "PikPak saves require an individual file with hash and size")
  else do
    let folder ← Prog.ofExcept (targetId target.folderId)
    let id := operationId folder (fingerprint sha256 source)
    if 255 < id.toList.length then throw (.request "PikPak target ID is too long")
    else match ← findTargetItem fuel target source.filename with
    | some _ => throw (.request "PikPak target name already exists; reconcile before saving")
    | none => do
      let _ ← ask (.save none source)
      pure id

/-- The folder an item is in is the one asked for. -/
def isInside (folder : String) (item : RemoteItem) : Except ProviderError Bool := do
  let itemParent ← parent ((item.parentId.filter (· ≠ "")).getD "root")
  return itemParent = folder

def allInside (folder : String) : List RemoteItem → Except ProviderError Bool
  | [] => .ok true
  | item :: rest => do
    if ← isInside folder item then allInside folder rest else return false

def isReceiving (item : RemoteItem) : Bool :=
  item.itemType = "folder" && isNamed "Pack From Shared" item

/-! The query, of any client that asks the service. -/

section Query
variable {σ : Type} (ask : ServiceRequest → Prog σ ProviderError Answer)

/-- The items of a folder with a fingerprint. -/
def matchingOf (sha256 : Sha256) (fuel : ℕ) (folderId wanted : String) :
    Prog σ ProviderError (List RemoteItem) := do
  let found ← allItemsOf ask fuel ⟨folderId, "/"⟩
  pure (found.filter fun item => fingerprint sha256 item = wanted)

/-- What has been restored lands in a folder of its own, and is moved on once
it is complete. -/
def moveRestoredOf (sha256 : Sha256) (fuel : ℕ) (folderId wanted : String) :
    Prog σ ProviderError (List RemoteItem) := do
  let roots ← allItemsOf ask fuel ⟨"root", "/"⟩
  match roots.filter isReceiving with
  | [] => pure []
  | [receiving] => do
    match ← matchingOf ask sha256 fuel receiving.remoteFileId wanted with
    | [] => pure []
    | [candidate] =>
      if !isComplete candidate then pure []
      else do
        let folder ← Prog.ofExcept (parent folderId)
        let _ ← ask (.move candidate.remoteFileId folder)
        matchingOf ask sha256 fuel folderId wanted
    | _ => throw (.writeUncertain "PikPak restored file is ambiguous")
  | _ => throw (.writeUncertain "PikPak receiving folder is ambiguous")

def answerOf (text folder : String) (found : List RemoteItem) :
    Prog σ ProviderError SaveOperation := do
  let inside ← Prog.ofExcept (allInside folder found)
  if !inside then
    throw (.writeUncertain "PikPak save result is outside the requested folder")
  else match found with
  | [] => pure ⟨text, false, []⟩
  | [item] => pure ⟨text, isComplete item, if isComplete item then [item.remoteFileId] else []⟩
  | _ => throw (.writeUncertain "PikPak save matched multiple files; reconcile manually")

def querySaveOperationOf (sha256 : Sha256) (fuel : ℕ) (text : String) :
    Prog σ ProviderError SaveOperation := do
  let (folderId, wanted) ← Prog.ofExcept (parseOperationId text)
  let folder ← Prog.ofExcept (parent folderId)
  let found ← matchingOf ask sha256 fuel folderId wanted
  let found ← if found = [] then moveRestoredOf ask sha256 fuel folderId wanted else pure found
  answerOf text folder found

end Query

def querySaveOperation (sha256 : Sha256) (fuel : ℕ) (text : String) : Provide SaveOperation :=
  querySaveOperationOf ask sha256 fuel text

end PikPak

/-! ## The providers -/

/-- The loop of `ensure_target_folder` over the parts of the path, with the
check and the request of any provider. -/
def ensurePartsOf {σ ε : Type} (raiseIfCancelled : Prog σ ε Unit)
    (ensureFolder : FolderRef → String → Prog σ ε FolderRef) :
    List String → FolderRef → Prog σ ε FolderRef
  | [], target => pure target
  | part :: rest, target =>
    if part ∈ ["", ".", "/"] then ensurePartsOf raiseIfCancelled ensureFolder rest target
    else do
      raiseIfCancelled
      let next ← ensureFolder target part
      ensurePartsOf raiseIfCancelled ensureFolder rest next

inductive Provider where
  | pan123 | baidu | pikpak
  deriving DecidableEq, Repr

namespace Provider
variable (sha256 : Sha256) (fuel : ℕ)

def ensureFolder : Provider → FolderRef → String → Provide FolderRef
  | pan123 => Pan123.ensureFolder fuel
  | baidu => Baidu.ensureFolder fuel
  | pikpak => PikPak.ensureFolder fuel

def startSaveSharedItem : Provider → ShareInfo → RemoteItem → FolderRef → Provide String
  | pan123 => Pan123.startSaveSharedItem sha256 fuel
  | baidu => Baidu.startSaveSharedItem sha256
  | pikpak => PikPak.startSaveSharedItem sha256 fuel

/-- What a query takes from an id before it asks the service. -/
def parseOperationId : Provider → String → Except ProviderError (String × String)
  | pan123 => Pan123.parseOperationId
  | baidu => Baidu.parseOperationId
  | pikpak => PikPak.parseOperationId

def querySaveOperation : Provider → String → Provide SaveOperation
  | pan123 => Pan123.querySaveOperation sha256 fuel
  | baidu => Baidu.querySaveOperation sha256 fuel
  | pikpak => PikPak.querySaveOperation sha256 fuel

def fingerprint : Provider → RemoteItem → String
  | pan123 => Pan123.operationFingerprint sha256
  | baidu => Baidu.fingerprint sha256
  | pikpak => PikPak.fingerprint sha256

/-- The folder that an item is saved into, as the provider names it. -/
def savedInto : Provider → FolderRef → Except ProviderError String
  | pan123, target => Pan123.targetFolderId target.folderId
  | baidu, target => Baidu.normalizeTargetPath target.path
  | pikpak, target => PikPak.targetId target.folderId

def raiseIfCancelled : Provide Unit := do
  if ← Prog.look .interrupted fun w => .ok w.cancelled then
    throw (.transferCancelled "transfer cancelled before target folder preparation")

def ensureParts (provider : Provider) : List String → FolderRef → Provide FolderRef :=
  ensurePartsOf raiseIfCancelled (provider.ensureFolder fuel)

/-- `PurePosixPath(root_path) / PurePosixPath(relative_path).parent` -/
def targetFolderParts (rootPath relativePath : String) : List String :=
  let base := PurePosixPath.ofString rootPath
  let below := PurePosixPath.ofString relativePath
  let full : PurePosixPath :=
    if below.root = [] then ⟨base.root, base.parts ++ below.parts.dropLast⟩
    else ⟨below.root, below.parts.dropLast⟩
  ((if full.root = [] then [] else [full.root]) ++ full.parts).map String.ofList

/-- `ensure_target_folder` -/
def ensureTargetFolder (provider : Provider) (rootPath relativePath : String) :
    Provide FolderRef :=
  ensureParts fuel provider (targetFolderParts rootPath relativePath) ⟨"root", "/"⟩

end Provider

end MediaSync.ProviderOperations
