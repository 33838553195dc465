import MediaSync.Common.FaultPrograms
import MediaSync.Appliance.UpdateJournal

/-!
# The world of an update

Containers under a Docker engine, the files of one data directory and the
result journal. An updater acts on them one request at a time. Meanwhile a
container may exit, the engine may start any container whose restart policy
tells it to, and a running appliance may write to its data files.

The engine keeps the events of its starts, newest first, and never reuses an
identifier.
-/
namespace MediaSync.UpdaterWorld
open FaultPrograms PythonText UpdateHandoff UpdateJournal

/-! ## Containers -/

/-- A mount as it is inspected. -/
structure ContainerMount where
  type : String
  name : String
  source : String
  destination : String
  rw : Bool
  deriving DecidableEq, Repr

/-- A container as it is inspected. -/
structure Container where
  id : String
  name : String
  image : String
  configImage : String
  cmd : List String
  env : List String
  labels : List (String × String)
  mounts : List ContainerMount
  networkMode : String
  readonlyRootfs : Bool
  capDrop : List String
  capAdd : List String
  securityOpt : List String
  restartPolicy : RestartPolicy
  running : Bool
  deriving DecidableEq, Repr

def updateRoleLabel : String := "io.mediasync.update.role"

def updateOperationLabel : String := "io.mediasync.update.operation"

def updaterRole : String := "updater"

def candidateRole : String := "candidate"

def updaterCommand : List String := ["python", "-m", "app.updater"]

def applianceCommand : List String := ["python", "-m", "app.appliance"]

def Container.label (container : Container) (key : String) : Option String :=
  container.labels.lookup key

/-- The value of the first variable of that name. -/
def Container.environment (container : Container) (key : String) : Option String :=
  container.env.findSome? fun item =>
    (afterLiteral (key ++ "=") item.toList).map String.ofList

/-- A container that belongs to the operation. -/
def Container.hasOperation (container : Container) (operationId : String) : Bool :=
  container.label updateOperationLabel = some operationId

/-- A container that was created as the candidate of the operation. -/
def Container.isCandidate (container : Container) (operationId : String) : Bool :=
  container.hasOperation operationId && container.label updateRoleLabel = some candidateRole

/-! ## Files -/

/-- A data file: what it holds, and what `stat` tells about its last change. -/
structure DataFile where
  content : Bytes
  stamp : ℕ
  deriving DecidableEq, Repr

structure SnapshotFile where
  sourcePath : String
  snapshotName : String
  size : ℕ
  sha256 : String
  deriving DecidableEq, Repr

structure SnapshotManifest where
  operationId : String
  alembicRevision : String
  files : List SnapshotFile
  deriving DecidableEq, Repr

/-- A directory of copied files, by name, and their manifest. -/
structure SnapshotDirectory where
  files : List (String × Bytes) := []
  manifest : Option SnapshotManifest := none
  deriving DecidableEq, Repr

def SnapshotDirectory.add (directory : SnapshotDirectory) (name : String) (content : Bytes) :
    SnapshotDirectory :=
  { directory with files := (name, content) :: directory.files }

def SnapshotDirectory.file (directory : SnapshotDirectory) (name : String) : Option Bytes :=
  directory.files.lookup name

structure PendingUpdateMarker where
  operationId : String
  targetVersion : String
  targetDigest : String
  targetRevision : String
  candidateToken : String
  deriving DecidableEq, Repr

/-- What stands in the pending file: a marker, or something that is not one,
with the reason. -/
inductive PendingFile where
  | marker (marker : PendingUpdateMarker)
  | invalid (reason : String)
  deriving DecidableEq, Repr

/-- Functions of the standard library and of SQLite: digests, the text form of
a document and the schema revision a database and its sidecars hold. -/
class Tools extends Alphanumerics where
  sha256 : Bytes → String
  sha256Text : String → String
  handoffBytes : HandoffDocument → Bytes
  alembicRevision : Bytes → Option Bytes → Option Bytes → Option String

/-! ## The world -/

section World
variable [Tools]

structure World where
  containers : List Container
  /-- Identifiers that were given out. -/
  usedIds : List String
  /-- Starts of containers, newest first. -/
  starts : List Container := []
  /-- The identifier of the next container. -/
  nextId : String
  /-- The image identifier and the command of the target image. -/
  targetImageId : String
  targetCommand : List String
  /-- The handoff document, and whether its file is there. -/
  document : HandoffDocument
  handoff : Bool := true
  pending : Option PendingFile := none
  nextToken : String
  evidence : Bool := false
  journal : Journal
  data : String → Option DataFile
  /-- The snapshot, and the one that is being made. -/
  backup : Option SnapshotDirectory := none
  staging : Option SnapshotDirectory := none
  /-- Files that are about to replace data files. -/
  restoring : List (String × Bytes) := []
  /-- What the next change of a file will be stamped with. -/
  nextStamp : ℕ := 0
  now : ℤ := 0

def World.container (w : World) (id : String) : Option Container :=
  w.containers.find? fun container => container.id = id

def World.operationId (w : World) : String := w.document.operationId

def World.sourceId (w : World) : String := w.document.currentContainerId

def World.candidates (w : World) : List Container :=
  w.containers.filter fun container => container.isCandidate w.operationId

def World.change (w : World) (id : String) (next : Container → Container) : World :=
  { w with containers := w.containers.map fun container =>
      if container.id = id then next container else container }

def Container.started (container : Container) : Container := { container with running := true }

def Container.stopped (container : Container) : Container := { container with running := false }

/-- A container starts unless it runs already. -/
def World.start (w : World) (id : String) : World :=
  match w.container id with
  | none => w
  | some container =>
    if container.running then w
    else { w.change id Container.started with starts := container :: w.starts }

def World.stop (w : World) (id : String) : World := w.change id Container.stopped

def World.setPolicy (w : World) (id : String) (policy : RestartPolicy) : World :=
  w.change id fun container => { container with restartPolicy := policy }

def World.rename (w : World) (id name : String) : World :=
  w.change id fun container => { container with name := name }

def World.remove (w : World) (id : String) : World :=
  { w with containers := w.containers.filter fun container => container.id ≠ id }

def World.create (w : World) (container : Container) : World :=
  { w with containers := container :: w.containers, usedIds := container.id :: w.usedIds }

def World.setData (w : World) (path : String) (content : Option Bytes) : World :=
  { w with
    data := fun p => if p = path then content.map fun bytes => ⟨bytes, w.nextStamp⟩ else w.data p
    nextStamp := w.nextStamp + 1 }

def World.putTemporary (w : World) (path : String) (content : Bytes) : World :=
  { w with restoring := (path, content) :: w.restoring }

def World.dropTemporary (w : World) (path : String) : World :=
  { w with restoring := w.restoring.filter fun entry => entry.1 ≠ path }

/-- A container in which the appliance runs on the data directory. -/
def World.isAppliance (w : World) (container : Container) : Bool :=
  container.id = w.sourceId || container.isCandidate w.operationId

/-! ## What happens meanwhile -/

inductive Move where
  /-- A container exits. -/
  | exit (id : String)
  /-- The engine starts a container, as its restart policy says. -/
  | revive (id : String)
  /-- A running appliance writes or removes a data file. -/
  | write (id path : String) (content : Option Bytes)
  /-- The appliance removes a file of the operation. -/
  | dropHandoff
  | dropPending
  | dropEvidence
  /-- The candidate writes its evidence. -/
  | testify
  /-- Identifiers and tokens that will be drawn, and the time. -/
  | draw (id token : String)
  | tick (now : ℤ)
  deriving DecidableEq, Repr

def World.move (w : World) : Move → World
  | .exit id => w.stop id
  | .revive id =>
    match w.container id with
    | none => w
    | some container => if container.restartPolicy.name = "no" then w else w.start id
  | .write id path content =>
    match w.container id with
    | none => w
    | some container =>
      if container.running && w.isAppliance container then w.setData path content else w
  | .dropHandoff => { w with handoff := false }
  | .dropPending => { w with pending := none }
  | .dropEvidence => { w with evidence := false }
  | .testify => { w with evidence := true }
  | .draw id token => { w with nextId := id, nextToken := token }
  | .tick now => { w with now := now }

instance : Surroundings World Move := ⟨fun move w => w.move move⟩

/-! ## Requests to the engine -/

inductive UpdaterError where
  | stateMachine (text : String)
  | snapshot (text : String)
  | handoff (text : String)
  | candidate (text : String)
  | observation (text : String)
  | engine (text : String)
  | other
  deriving DecidableEq, Repr

abbrev Updater (α : Type) := Prog World UpdaterError α

def ofJournal : JournalError → UpdaterError
  | .snapshot text => .snapshot text
  | .handoff text => .handoff text

def unreachable : UpdaterError := .engine "Docker Engine API 不可访问"

/-- A request that reads. -/
def query {α : Type} (view : World → Except UpdaterError α) : Updater α :=
  Prog.look unreachable view

/-- A request that acts, if the engine accepts it. -/
def request (accepted : World → Except UpdaterError Unit) (next : World → World) : Updater Unit :=
  Prog.effect unreachable fun w =>
    match accepted w with
    | .error e => (.error e, w)
    | .ok () => (.ok (), next w)

/-- The engine answers for a container it has. -/
def existing (id refusal : String) (w : World) : Except UpdaterError Unit :=
  if !containerIdPattern id then .error (.engine "容器标识格式无效")
  else if (w.container id).isNone then .error (.engine refusal) else .ok ()

def listContainers : Updater (List Container) := query fun w => .ok w.containers

def inspectContainer (id : String) : Updater Container := query fun w =>
  match existing id "无法读取当前容器信息" w, w.container id with
  | .ok (), some container => .ok container
  | .ok (), none => .error (.engine "无法读取当前容器信息")
  | .error e, _ => .error e

def startContainer (id : String) : Updater Unit :=
  request (existing id "无法启动容器") fun w => w.start id

def stopContainer (id : String) : Updater Unit :=
  request (existing id "无法停止容器") fun w => w.stop id

/-- Answers once the container does not run. -/
def waitContainer (id : String) : Updater Unit := query fun w =>
  match existing id "无法等待容器停止" w with
  | .error e => .error e
  | .ok () => if (w.container id).any Container.running then .error unreachable else .ok ()

def allowedRestartPolicies : List String := ["", "no", "always", "unless-stopped", "on-failure"]

def updateRestartPolicy (id : String) (policy : RestartPolicy) : Updater Unit :=
  request (fun w =>
    if policy.name ∉ allowedRestartPolicies then .error (.engine "容器重启策略格式无效")
    else existing id "无法更新容器重启策略" w) fun w => w.setPolicy id policy

def nameTaken (name : String) (w : World) : Bool :=
  w.containers.any fun container => container.name = name

def renameContainer (id name : String) : Updater Unit :=
  request (fun w =>
    if nameTaken name w then .error (.engine "无法重命名容器")
    else existing id "无法重命名容器" w) fun w => w.rename id name

/-- A running container is not removed. -/
def removeContainer (id : String) : Updater Unit :=
  request (fun w =>
    if !containerIdPattern id then .error (.engine "容器标识格式无效")
    else if (w.container id).any Container.running then .error (.engine "无法删除已停止容器")
    else .ok ()) fun w => w.remove id

/-- What the engine is told about a new container. -/
structure CreateConfig where
  image : String
  env : List String
  labels : List (String × String)
  mounts : List HandoffMount
  restartPolicy : RestartPolicy
  deriving DecidableEq, Repr

def mountType : MountType → String
  | .bind => "bind"
  | .volume => "volume"

/-- A mount of a new container, as it will be inspected. -/
def mounted (mount : HandoffMount) : ContainerMount where
  type := mountType mount.type
  name := if mount.type = .volume then mount.source else ""
  source := mount.source
  destination := mount.target
  rw := !mount.readOnly

/-- The container that a configuration describes; its command is the image's. -/
def World.created (w : World) (name : String) (config : CreateConfig) : Container where
  id := w.nextId
  name := name
  image := w.targetImageId
  configImage := config.image
  cmd := w.targetCommand
  env := config.env
  labels := config.labels
  mounts := config.mounts.map mounted
  networkMode := "default"
  readonlyRootfs := false
  capDrop := []
  capAdd := []
  securityOpt := []
  restartPolicy := config.restartPolicy
  running := false

def createContainer (name : String) (config : CreateConfig) : Updater Unit :=
  request (fun w =>
    if !containerNamePattern name || nameTaken name w || !fullContainerId w.nextId ||
        w.nextId ∈ w.usedIds then .error (.engine "无法创建 updater 助手容器")
    else .ok ()) fun w => w.create (w.created name config)

end World

end MediaSync.UpdaterWorld
