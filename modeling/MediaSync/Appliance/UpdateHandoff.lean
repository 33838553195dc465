import MediaSync.Common.PosixPaths
import MediaSync.Common.PythonText

/-!
# The handoff of an update

The appliance that wants to be replaced writes one document, from which its
successor is built and by which everything that belongs to the update is
recognised. A reader accepts the document of its own operation only if every
identifier has its form and the target is an official image.
-/
namespace MediaSync.UpdateHandoff
open PosixPaths PythonText

/-! ## Identifiers -/

def lowerHexDigit (c : Char) : Bool := ('0' ≤ c && c ≤ '9') || ('a' ≤ c && c ≤ 'f')

/-- `[0-9a-f]{count}` -/
def lowerHexText (count : ℕ) (cs : List Char) : Bool := cs.length = count && cs.all lowerHexDigit

/-- A text that is `parsed` back as it stands: the canonical form of a UUID. -/
def uuidText (cs : List Char) : Bool :=
  lowerHexText 8 (cs.take 8) && (cs.drop 8).take 1 = ['-'] &&
    lowerHexText 4 ((cs.drop 9).take 4) && (cs.drop 13).take 1 = ['-'] &&
    lowerHexText 4 ((cs.drop 14).take 4) && (cs.drop 18).take 1 = ['-'] &&
    lowerHexText 4 ((cs.drop 19).take 4) && (cs.drop 23).take 1 = ['-'] &&
    lowerHexText 12 (cs.drop 24)

/-- `validate_operation_id` accepts -/
def validOperationId (text : String) : Bool := uuidText text.toList

/-- `CONTAINER_ID_PATTERN` -/
def containerIdPattern (text : String) : Bool :=
  12 ≤ text.toList.length && text.toList.length ≤ 64 && text.toList.all lowerHexDigit

/-- A container identifier that is not abbreviated. -/
def fullContainerId (text : String) : Bool :=
  text.toList.length = 64 && containerIdPattern text

def nameStart (c : Char) : Bool :=
  ('A' ≤ c && c ≤ 'Z') || ('a' ≤ c && c ≤ 'z') || ('0' ≤ c && c ≤ '9')

def nameRest (c : Char) : Bool := nameStart c || c ∈ ['_', '.', '-']

/-- `CONTAINER_NAME_PATTERN` -/
def containerNamePattern (text : String) : Bool :=
  match text.toList with
  | [] => false
  | c :: cs => nameStart c && cs.length ≤ 127 && cs.all nameRest

/-- `DIGEST_PATTERN` -/
def digestPattern (text : String) : Bool :=
  (afterLiteral "sha256:" text.toList).any (lowerHexText 64)

/-- `REVISION_PATTERN` -/
def revisionPattern (text : String) : Bool := lowerHexText 40 text.toList

/-- `0|[1-9]\d*`, where a digit of any script may follow the first. -/
def versionNumber (cs : List Char) : Bool :=
  match cs with
  | [] => false
  | ['0'] => true
  | c :: rest => '1' ≤ c && c ≤ '9' && rest.all isDecimal

/-- The pieces of a text between points. -/
def splitPoint : List Char → List (List Char)
  | [] => [[]]
  | c :: cs =>
    match splitPoint cs with
    | [] => [[c]]
    | piece :: pieces => if c = '.' then [] :: piece :: pieces else (c :: piece) :: pieces

/-- `VERSION_PATTERN`: three numbers, and the number of a release candidate. -/
def versionPattern (text : String) : Bool :=
  match afterLiteral "v" text.toList with
  | none => false
  | some rest =>
    match splitPoint rest with
    | [major, minor, patch] => versionNumber major && versionNumber minor && versionNumber patch
    | [major, minor, patch, candidate] =>
      versionNumber major && versionNumber minor && versionNumber candidate &&
        ('-' :: 'r' :: 'c' :: []).isSuffixOf patch &&
          versionNumber (patch.dropLast.dropLast.dropLast)
    | _ => false

example : versionPattern "v1.20.3-rc.4" = true ∧ versionPattern "v1.02.3" = false := by decide

/-- The repositories of `OFFICIAL_REGISTRIES` -/
def officialRepositories : List String := ["josephyjq/mediasync", "ghcr.io/josephyin/mediasync"]

/-- `rpartition("@")`: what stands before and after the last at sign. -/
def partitionAt (text : String) : Option (String × String) :=
  let after := text.toList.reverse.takeWhile (· ≠ '@')
  if '@' ∈ text.toList then
    some (String.ofList (text.toList.reverse.drop (after.length + 1)).reverse,
      String.ofList after.reverse)
  else none

/-! ## The document -/

inductive MountType where
  | bind
  | volume
  deriving DecidableEq, Repr

structure HandoffMount where
  type : MountType
  source : String
  target : String
  readOnly : Bool
  deriving DecidableEq, Repr

structure HandoffDevice where
  pathOnHost : String
  pathInContainer : String
  cgroupPermissions : String
  deriving DecidableEq, Repr

structure RestartPolicy where
  name : String
  maximumRetryCount : ℕ := 0
  deriving DecidableEq, Repr

structure HandoffCandidate where
  containerId : String
  name : String
  env : List String
  labels : List (String × String)
  mounts : List HandoffMount
  restartPolicy : RestartPolicy
  devices : List HandoffDevice := []
  deriving DecidableEq, Repr

structure HandoffDocument where
  operationId : String
  currentContainerId : String
  sourceImageId : String
  sourceImageReference : String
  sourceVersion : String
  sourceDigest : Option String
  targetVersion : String
  targetDigest : String
  targetRevision : String
  targetImage : String
  candidate : HandoffCandidate
  deriving DecidableEq, Repr

/-- The mount of the data directory. -/
def HandoffDocument.dataMount (document : HandoffDocument) : Option HandoffMount :=
  document.candidate.mounts.find? fun mount => mount.target = "/data"

/-! ## Checks -/

/-- A check that a value fails, with the text of the error. -/
abbrev Check := Bool × String

/-- Reports the first check that fails. -/
def reportFirst : List Check → Except String Unit
  | [] => .ok ()
  | (failed, text) :: checks => if failed then .error text else reportFirst checks

theorem reportFirst_ok {checks : List Check} :
    reportFirst checks = .ok () ↔ ∀ check ∈ checks, check.1 = false := by
  induction checks with
  | nil => simp [reportFirst]
  | cons check checks ih =>
    obtain ⟨failed, text⟩ := check
    cases failed
    · simp [reportFirst, ih]
    · simp [reportFirst]

/-- `_valid_handoff_device_path` -/
def validHandoffDevicePath (value : String) : Bool :=
  1 < value.toList.length && value.toList.length ≤ 4096 && value.toList.head? = some '/' &&
    Char.ofNat 0 ∉ value.toList && normpath value.toList = value.toList

def validDevice (device : HandoffDevice) : Bool :=
  validHandoffDevicePath device.pathOnHost && validHandoffDevicePath device.pathInContainer &&
    !device.cgroupPermissions.toList.isEmpty && device.cgroupPermissions.toList.Nodup &&
    device.cgroupPermissions.toList.all (· ∈ ['r', 'w', 'm'])

/-- `validate_handoff_document` -/
def validateHandoffDocument (document : HandoffDocument) : Except String Unit :=
  reportFirst
    [(!containerIdPattern document.currentContainerId ||
        document.candidate.containerId ≠ document.currentContainerId ||
        !containerNamePattern document.candidate.name ||
        !digestPattern document.sourceImageId || !versionPattern document.sourceVersion ||
        !versionPattern document.targetVersion || !digestPattern document.targetDigest ||
        !revisionPattern document.targetRevision ||
        document.targetImage ≠ ((partitionAt document.targetImage).elim document.targetImage
          Prod.fst) ++ "@" ++ document.targetDigest,
      "updater handoff 不变量校验失败"),
    (document.targetImage ∉ officialRepositories.map (· ++ "@" ++ document.targetDigest),
      "updater handoff 目标镜像不属于官方仓库"),
    (document.sourceDigest.any fun digest => !digestPattern digest,
      "updater handoff 源镜像 digest 无效"),
    (!document.candidate.devices.all validDevice ||
        !(document.candidate.devices.map HandoffDevice.pathInContainer).Nodup,
      "updater handoff 设备映射无效"),
    ((document.candidate.mounts.filter fun mount => mount.target = "/data").length ≠ 1 ||
        document.dataMount.any HandoffMount.readOnly,
      "updater handoff 数据挂载无效")]

end MediaSync.UpdateHandoff
