import MediaSync.Common.FaultPrograms
import MediaSync.Common.JsonValues
import MediaSync.Common.PythonText

/-!
# Resumable downloads

One call of `stream_download` opens the partial file beside the target, looks
at its checkpoint, asks the server for the missing range, verifies the content
block by block and publishes it with a hard link. Whatever ends the call, the
partial file is flushed and the checkpoint rewritten, unless the process stops.

The directory is a table of files by inode number and two names in it; the
checkpoint file is replaced as a whole. Bytes given to the file object wait in
its buffer, and the system decides how many it passes on before the next
flush. The server, the clocks, the lock, the callbacks and other programs that
create the target belong to the surroundings. Moments are in nanoseconds.
-/
namespace MediaSync.DownloadStream
open FaultPrograms JsonValues PythonText

inductive StreamError where
  | download (message : String)
  | deferred (count : ℕ)
  | cancelled
  | guard
  | callback
  | value
  | transport
  | os
  deriving DecidableEq, Repr

inductive UrlPort where
  | absent
  | number (port : ℕ)
  | invalid
  deriving DecidableEq, Repr

/-- An address as `urlsplit` takes it apart. -/
structure Url where
  scheme : String
  username : Option String := none
  password : Option String := none
  hostname : Option String
  port : UrlPort := .absent
  rest : String := ""
  deriving DecidableEq, Repr

def truthy (text : Option String) : Bool := text.getD "" ≠ ""

def unsupportedUrl : StreamError := .download "PikPak 返回了不受支持的下载地址"

def knownHost (host : String) : Bool :=
  host = "mypikpak.com" || ".mypikpak.com".toList.isSuffixOf host.toList

def validateDownloadUrl (url : Url) : Except StreamError Unit :=
  if url.scheme ≠ "https" ∨ truthy url.username ∨ truthy url.password then .error unsupportedUrl
  else match url.port with
    | .invalid => .error .value
    | .number port =>
      if port ≠ 443 ∨ ¬ knownHost (url.hostname.getD "") then .error unsupportedUrl else .ok ()
    | .absent => if knownHost (url.hostname.getD "") then .ok () else .error unsupportedUrl

structure FileData where
  content : Bytes
  mtime : ℕ
  deriving DecidableEq, Repr

inductive Entry where
  | file (ino : ℕ)
  | symlink
  | other
  deriving DecidableEq, Repr

structure FileIdentity where
  ino : ℕ
  size : ℕ
  mtime : ℕ
  deriving DecidableEq, Repr

def FileData.identity (data : FileData) (ino : ℕ) : FileIdentity :=
  ⟨ino, data.content.length, data.mtime⟩

/-- The checkpoint document. A field that is absent is `none`. -/
structure Checkpoint where
  identity : Option String := none
  digests : Option (List String) := none
  publishedIdentity : Option FileIdentity := none
  deriving DecidableEq, Repr

def Checkpoint.digestList (state : Checkpoint) : List String := state.digests.getD []

/-- `location` is the address the redirect leads to, joined with the address
that was asked. -/
structure Response where
  status : ℕ
  location : Option Url := none
  contentEncoding : Option String := none
  contentRange : Option String := none
  body : Bytes := []
  deriving DecidableEq, Repr

def Response.isRedirect (response : Response) : Bool :=
  300 ≤ response.status && response.status ≤ 399

/-- `bytes (\d+)-(\d+)/(\d+)` -/
def rangeGroups (header : String) : Option (List Char × List Char × List Char) := do
  let rest ← afterLiteral "bytes " header.toList
  let (first, rest) := digitsPrefix rest
  let rest ← afterLiteral "-" rest
  let (last, rest) := digitsPrefix rest
  let rest ← afterLiteral "/" rest
  let (total, rest) := digitsPrefix rest
  if first = [] ∨ last = [] ∨ total = [] ∨ rest ≠ [] then none else some (first, last, total)

/-- Where the server says that the body starts in the file. -/
def Response.declaredStart (response : Response) : Option ℕ :=
  if response.status = 206 then do
    let groups ← rangeGroups (response.contentRange.getD "")
    intOfDigits groups.1
  else if response.status = 200 then some 0 else none

/-- An answered request: for which download it was made, and the answer. -/
structure Served where
  identity : String
  url : Url
  range : Option (ℕ × ℕ)
  response : Response
  deriving DecidableEq, Repr

/-- The open file object. The bytes in the buffer belong at `position`. -/
structure Handle where
  ino : ℕ
  position : ℕ
  buffer : Bytes
  deriving DecidableEq, Repr

structure World where
  files : ℕ → FileData
  nextIno : ℕ
  part : Option ℕ
  target : Option Entry
  checkpoint : Option Checkpoint
  handle : Handle
  eager : ℕ
  locked : Bool
  cancelled : Bool
  guardFails : Bool
  clock : ℕ
  monotonic : ℕ
  answer : Option Response
  served : List Served

namespace World

def data (w : World) : FileData := w.files w.handle.ino

def content (w : World) : Bytes := w.data.content

/-- The partial file as the directory shows it. -/
def partData (w : World) : Option FileData := w.part.map w.files

def setContent (w : World) (content : Bytes) : World :=
  { w with files := fun ino => if ino = w.handle.ino then ⟨content, w.clock⟩ else w.files ino }

def addFile (w : World) (data : FileData) : World :=
  { w with
    files := fun ino => if ino = w.nextIno then data else w.files ino
    nextIno := w.nextIno + 1 }

def openPart (w : World) : World :=
  match w.part with
  | some ino => { w with handle := ⟨ino, 0, []⟩ }
  | none =>
    { w.addFile ⟨[], w.clock⟩ with part := some w.nextIno, handle := ⟨w.nextIno, 0, []⟩ }

/-- A write into a file; a gap before it reads as zeros. -/
def overwrite (content : Bytes) (position : ℕ) (bytes : Bytes) : Bytes :=
  content.take position ++ List.replicate (position - content.length) 0 ++ bytes ++
    content.drop (position + bytes.length)

/-- The first `count` buffered bytes go to the system. -/
def spill (w : World) (count : ℕ) : World :=
  let out := w.handle.buffer.take count
  if out = [] then w
  else { w.setContent (overwrite w.content w.handle.position out) with
    handle := ⟨w.handle.ino, w.handle.position + out.length, w.handle.buffer.drop count⟩ }

def flush (w : World) : World := w.spill w.handle.buffer.length

def write (w : World) (bytes : Bytes) : World :=
  { w with handle := { w.handle with buffer := w.handle.buffer ++ bytes } }.spill w.eager

def seek (w : World) (position : ℕ) : World :=
  { w.flush with handle := { w.flush.handle with position := position } }

def seekEnd (w : World) : World := w.seek w.flush.content.length

def truncate (w : World) (size : ℕ) : World :=
  w.flush.setContent
    (w.flush.content.take size ++ List.replicate (size - w.flush.content.length) 0)

def readable (w : World) (size : ℕ) : Bytes :=
  (w.flush.content.drop w.flush.handle.position).take size

def read (w : World) (size : ℕ) : World :=
  w.seek (w.flush.handle.position + (w.readable size).length)

def unlinkPart (w : World) : Except StreamError Unit × World :=
  match w.part with
  | none => (.error .os, w)
  | some _ => (.ok (), { w with part := none })

/-- `_file_identity` of the partial file -/
def partIdentity (w : World) : Except StreamError FileIdentity × World :=
  match w.part with
  | none => (.error .os, w)
  | some ino => (.ok ((w.files ino).identity ino), w)

/-- A hard link never replaces what is there. -/
def link (w : World) : Except StreamError Unit × World :=
  match w.part, w.target with
  | some ino, none => (.ok (), { w with target := some (.file ino) })
  | _, _ => (.error .os, w)

def sleep (w : World) (nanoseconds : ℕ) : World :=
  { w with monotonic := w.monotonic + nanoseconds }

/-- What remains when the process is gone. -/
def ended (w : World) : World := { w with handle := ⟨w.handle.ino, 0, []⟩ }

/-- An empty directory. -/
def fresh : World where
  files := fun _ => ⟨[], 0⟩
  nextIno := 0
  part := none
  target := none
  checkpoint := none
  handle := ⟨0, 0, []⟩
  eager := 0
  locked := false
  cancelled := false
  guardFails := false
  clock := 0
  monotonic := 0
  answer := none
  served := []

end World

inductive Move where
  | tick (nanoseconds : ℕ)
  | pass (nanoseconds : ℕ)
  | eager (count : ℕ)
  | lock (held : Bool)
  | cancel (requested : Bool)
  | guard (fails : Bool)
  | answer (response : Option Response)
  | createTarget (data : FileData)
  | linkTarget (entry : Entry)
  deriving DecidableEq, Repr

/-- Another program creates the target, if there is none. It never makes a
second name for a file of this directory. -/
def World.createTarget (w : World) (data : FileData) : World :=
  if w.target.isSome then w
  else { w.addFile data with target := some (.file w.nextIno) }

def World.linkTarget (w : World) (entry : Entry) : World :=
  match w.target, entry with
  | none, .symlink => { w with target := some .symlink }
  | none, .other => { w with target := some .other }
  | _, _ => w

instance : Surroundings World Move where
  move
    | .tick nanoseconds, w => { w with clock := w.clock + nanoseconds }
    | .pass nanoseconds, w => w.sleep nanoseconds
    | .eager count, w => { w with eager := count }
    | .lock held, w => { w with locked := held }
    | .cancel requested, w => { w with cancelled := requested }
    | .guard fails, w => { w with guardFails := fails }
    | .answer response, w => { w with answer := response }
    | .createTarget data, w => w.createTarget data
    | .linkTarget entry, w => w.linkTarget entry

/-- What the source takes from its standard library: SHA-1 of bytes and the
SHA-256 text of a JSON document. -/
structure Digests where
  sha1 : Bytes → Bytes
  sha256Json : Json → String
  sha256Json_ne (document : Json) : sha256Json document ≠ ""

structure Call where
  url : Url
  expectedSize : Option ℤ
  ownsClient : Bool := true
  identity : Option String := none
  expectedHash : Option String := none
  chunkBytes : ℕ := 0
  rateLimit : ℕ := 0
  deriving DecidableEq, Repr

def optionalText (text : Option String) : Json := (text.map Json.str).getD .null

def Call.fingerprint (digests : Digests) (call : Call) : String :=
  digests.sha256Json (.arr [optionalText call.identity, (call.expectedSize.map Json.int).getD .null,
    optionalText call.expectedHash])

/-! ## Effects -/

section Effects
variable {ε α : Type} (fail : StreamError → ε)

def syscall (act : World → Except StreamError α × World) : Prog World ε α :=
  Prog.effect (fail .os) fun w => ((act w).1.mapError fail, (act w).2)

def observe (view : World → α) : Prog World ε α := Prog.look (fail .os) fun w => .ok (view w)

def update (next : World → World) : Prog World ε Unit := Prog.change (fail .os) next

def reject (message : String) : Prog World ε α := throw (fail (.download message))

def probe : Prog World ε Unit := do
  Prog.look (fail .callback) fun w => if w.cancelled then .error (fail .cancelled) else .ok ()
  Prog.look (fail .callback) fun w => if w.guardFails then .error (fail .guard) else .ok ()

def progress : Prog World ε Unit := Prog.look (fail .callback) fun _ => .ok ()

/-- `_checkpoint`: the document is written beside its place and then moved there. -/
def writeCheckpoint (state : Checkpoint) : Prog World ε Unit := do
  observe fail fun _ => ()
  update fail fun w => { w with checkpoint := some state }

end Effects

/-! ## Verification -/

/-- `block` doubles while the file has more than 512 blocks, up to 2 MiB. -/
def growBlock (expectedSize : ℕ) : ℕ → ℕ → ℕ
  | 0, block => block
  | fuel + 1, block =>
    if block * 512 < expectedSize ∧ block < 2 * 1024 * 1024 then
      growBlock expectedSize fuel (block * 2)
    else block

def blockSize (expectedSize : ℕ) : ℕ := growBlock expectedSize 3 (256 * 1024)

/-- `[0-9a-fA-F]{40}` -/
def hashRecognized (hash : String) : Bool :=
  hash.toList.length = 40 && hash.toList.all isHexDigit

/-- The program of a call once it holds the partial file. Errors carry the
checkpoint state in memory, which the final block writes out. -/
abbrev Body := Prog World (StreamError × Checkpoint)

section Transfer
variable (digests : Digests) (call : Call) (expectedSize deadline : ℕ)

def withState (state : Checkpoint) (e : StreamError) : StreamError × Checkpoint := (e, state)

/-- The loop of `_verify`. Every round reads at least one byte, so `fuel`
rounds are enough for `fuel` missing bytes. -/
def verifyBlocks (block : ℕ) : ℕ → Checkpoint → ℕ → ℕ → Body Checkpoint
  | 0, state, _, _ => pure state
  | fuel + 1, state, position, checked =>
    if expectedSize ≤ position then pure state else do
      probe (withState state)
      let size := min block (expectedSize - position)
      let content ← syscall (withState state) fun w => (.ok (w.readable size), w.read size)
      if content = [] then reject (withState state) "下载文件在校验期间发生变化" else do
        let state := { state with
          digests := some (state.digestList ++ [hexDigest (digests.sha1 content)]) }
        let checked := checked + content.length
        let position := position + content.length
        if position < expectedSize ∧ call.chunkBytes ≠ 0 then
          if call.chunkBytes ≤ checked then throw (.deferred expectedSize, state) else do
            let now ← observe (withState state) World.monotonic
            if deadline ≤ now then throw (.deferred expectedSize, state)
            else verifyBlocks block fuel state position checked
        else verifyBlocks block fuel state position checked

def gcidOf (digests : Digests) (texts : List String) : Option (List Char) :=
  (texts.mapM fromHex).map fun blocks => (hexDigest (digests.sha1 blocks.flatten)).toList

def verify (state : Checkpoint) : Body Checkpoint :=
  match call.expectedHash with
  | none => pure state
  | some expectedHash =>
    if ¬ hashRecognized expectedHash then
      reject (withState state) "PikPak 文件 hash 格式无法识别，未发布文件"
    else do
      let block := blockSize expectedSize
      let state := { state with digests := some state.digestList }
      let position := min (state.digestList.length * block) expectedSize
      update (withState state) fun w => w.seek position
      let state ← verifyBlocks digests call expectedSize deadline block (expectedSize - position)
        state position 0
      match gcidOf digests state.digestList with
      | none => throw (.value, state)
      | some actual =>
        if actual.map lowerHex = expectedHash.toList.map lowerHex then pure state else do
          update (withState state) fun w => w.seek 0
          update (withState state) fun w => w.truncate 0
          reject (withState { state with digests := some [] })
            "PikPak GCID 内容校验失败，未发布文件；重试将重新下载"

/-! ## Transfer -/

/-- The pieces of a body as `aiter_bytes` hands them out. -/
def pieces (size : ℕ) : ℕ → Bytes → List Bytes
  | 0, _ => []
  | fuel + 1, bytes =>
    if bytes = [] then [] else bytes.take size :: pieces size fuel (bytes.drop size)

/-- The seconds still to wait, in nanoseconds, rounded up. -/
def delay (received started now : ℕ) : ℕ :=
  (10 ^ 9 * received + call.rateLimit - 1) / call.rateLimit - (now - started)

def quarterSecond : ℕ := 250000000

/-- Waits in steps of at most a quarter of a second, each of which takes its time. -/
def throttle (state : Checkpoint) (received started : ℕ) : ℕ → Body Unit
  | 0 => pure ()
  | fuel + 1 => do
    let now ← observe (withState state) World.monotonic
    if delay call received started now = 0 then pure () else do
      probe (withState state)
      update (withState state) fun w =>
        w.sleep (min (delay call received started now) quarterSecond)
      throttle state received started fuel

/-- A bounded call yields after a piece once its time is over. -/
def untilDeadline (state : Checkpoint) (written : ℕ) (rest : Body ℕ) : Body ℕ :=
  if call.chunkBytes ≠ 0 ∧ written < expectedSize then do
    let now ← observe (withState state) World.monotonic
    if deadline ≤ now then throw (.deferred written, state) else rest
  else rest

/-- The loop over the pieces; answers how much of the file is written. -/
def save (state : Checkpoint) (responseEnd started : ℕ) : List Bytes → ℕ → ℕ → Body ℕ
  | [], written, _ => do
    Prog.look (.transport, state) fun _ => .ok ()
    pure written
  | content :: rest, written, received => do
    Prog.look (.transport, state) fun _ => .ok ()
    probe (withState state)
    if responseEnd < written + content.length then
      reject (withState state) "下载内容超出声明的文件范围"
    else do
      update (withState state) fun w => w.write content
      let written := written + content.length
      let received := received + content.length
      progress (withState state)
      if call.rateLimit ≠ 0 then
        throttle call state received started
          (10 ^ 9 * received / call.rateLimit / quarterSecond + 2)
      untilDeadline call expectedSize deadline state written
        (save state responseEnd started rest written received)

def readSize : ℕ :=
  if call.rateLimit = 0 then 65536 else min 65536 (max 1024 (call.rateLimit / 4))

/-- The end of a range that fits the request; `none` when it does not fit. -/
def acceptedRange (start last : ℕ) (header : String) : Except StreamError (Option ℕ) :=
  match rangeGroups header with
  | none => .ok none
  | some (first, final, total) =>
    match intOfDigits first with
    | none => .error .value
    | some first =>
      if first ≠ start then .ok none else match intOfDigits final with
        | none => .error .value
        | some final =>
          if ¬ (start ≤ final ∧ final ≤ last) then .ok none else match intOfDigits total with
            | none => .error .value
            | some total => if total ≠ expectedSize then .ok none else .ok (some (final + 1))

/-- An ignored range replaces, never appends to the partial file. -/
def startOver (state : Checkpoint) (start : ℕ) : Body (ℕ × Checkpoint) :=
  if start ≠ 0 then do
    update (withState state) fun w => w.seek 0
    update (withState state) fun w => w.truncate 0
    pure (0, { state with digests := some [] })
  else pure (start, state)

/-- What the status of an answer means for the file: where the answer ends, how
much of the file stands, and the state. -/
def placed (state : Checkpoint) (start last : ℕ) (response : Response) :
    Body (ℕ × ℕ × Checkpoint) :=
  if response.status = 206 then
    match acceptedRange expectedSize start last (response.contentRange.getD "") with
    | .error e => throw (e, state)
    | .ok none => reject (withState state) "下载断点响应范围不匹配，未追加内容"
    | .ok (some responseEnd) => pure (responseEnd, start, state)
  else if response.status = 200 then do
    let (written, state) ← startOver state start
    if call.chunkBytes ≠ 0 ∧ call.chunkBytes < expectedSize then
      reject (withState state) "下载接口不支持 Range，无法安全分段下载此大文件"
    else pure (expectedSize, written, state)
  else reject (withState state)
    ("下载请求失败（HTTP " ++ toString response.status ++ "），可重试获取新链接")

def receive (state : Checkpoint) (start last : ℕ) (response : Response) :
    Body (ℕ × Checkpoint) :=
  if response.contentEncoding.getD "identity" ≠ "identity" then
    reject (withState state) "下载接口返回了不支持的压缩编码"
  else do
    let (responseEnd, written, state) ← placed call expectedSize state start last response
    let started ← observe (withState state) World.monotonic
    let written ← save call expectedSize deadline state responseEnd started
      (pieces (readSize call) response.body.length response.body) written 0
    if written ≠ responseEnd then
      reject (withState state) "文件大小校验失败，未发布不完整文件"
    else pure (written, state)

def requestRange (start last : ℕ) : Option (ℕ × ℕ) :=
  if start ≠ 0 ∨ call.chunkBytes ≠ 0 then some (start, last) else none

/-- `client.stream`: what the server answers is up to the surroundings. -/
def ask (state : Checkpoint) (url : Url) (range : Option (ℕ × ℕ)) : Body Response :=
  Prog.effect (.transport, state) fun w =>
    match w.answer with
    | none => (.error (.transport, state), w)
    | some response =>
      (.ok response, { w with
        answer := none
        served := ⟨call.fingerprint digests, url, range, response⟩ :: w.served })

/-- The loop over redirects, with the rounds that are left. -/
def fetch (state : Checkpoint) (start last : ℕ) : ℕ → Url → Body (ℕ × Checkpoint)
  | 0, _ => pure (start, state)
  | rounds + 1, url => do
    Prog.ofExcept ((validateDownloadUrl url).mapError (withState state))
    let response ← ask digests call state url (requestRange call start last)
    if response.isRedirect then
      match response.location with
      | none => reject (withState state) "下载重定向次数过多"
      | some location =>
        if rounds = 0 then reject (withState state) "下载重定向次数过多"
        else fetch state start last rounds location
    else receive call expectedSize deadline state start last response

def lastOffset (start : ℕ) : ℕ :=
  if call.chunkBytes ≠ 0 then min expectedSize (start + call.chunkBytes) - 1 else expectedSize - 1

def publish (state : Checkpoint) (written : ℕ) : Body (ℕ × Checkpoint) := do
  probe (withState state)
  update (withState state) World.flush
  observe (withState state) fun _ => ()
  let published ← syscall (withState state) World.partIdentity
  let state : Checkpoint := { state with publishedIdentity := some published, digests := none }
  writeCheckpoint (withState state) state
  probe (withState state)
  syscall (withState state) World.link
  syscall (withState state) World.unlinkPart
  progress (withState state)
  pure (written, state)

/-- The missing part of the file, if any is missing. -/
def complete (state : Checkpoint) (start : ℕ) : Body (ℕ × Checkpoint) :=
  if start < expectedSize then
    fetch digests call expectedSize deadline state start (lastOffset call expectedSize start) 6
      call.url
  else pure (start, state)

def transfer (state : Checkpoint) : Body (ℕ × Checkpoint) := do
  let start ← syscall (withState state) fun w => (.ok w.seekEnd.handle.position, w.seekEnd)
  let (written, state) ← complete digests call expectedSize deadline state start
  if written < expectedSize then throw (.deferred written, state) else do
    update (withState state) World.flush
    let state ← verify digests call expectedSize deadline state
    publish state written

end Transfer

/-! ## The call -/

abbrev Stream := Prog World StreamError

section Calls
variable (digests : Digests) (call : Call) (expectedSize : ℕ)

def restart : Stream Checkpoint := do
  update id fun w => w.truncate 0
  pure { identity := some (call.fingerprint digests), digests := some [] }

/-- The state a call works with: the saved one when it is its own, else a new
one over an empty partial file. -/
def adopt (saved : Checkpoint) : Stream Checkpoint :=
  if saved.identity = some (call.fingerprint digests) then do
    let length ← observe id fun w => w.content.length
    if expectedSize < length then restart digests call else pure saved
  else if truthy saved.identity then do
    let length ← observe id fun w => w.content.length
    if 0 < length then reject id "此路径存在其他文件的下载进度，请选择不同子目录"
    else restart digests call
  else restart digests call

def stateAfter : Except (StreamError × Checkpoint) (ℕ × Checkpoint) → Checkpoint
  | .ok (_, state) => state
  | .error (_, state) => state

/-- The final block around the transfer: whatever happened, what is there is
flushed and, unless it was published, checkpointed. -/
def settle (state : Checkpoint) : Stream Unit := do
  update id World.flush
  observe id fun _ => ()
  if (← observe id fun w => w.part.isSome) then writeCheckpoint id state

def guarded (state : Checkpoint) (deadline : ℕ) : Stream ℕ := do
  let result ← Prog.attempt (transfer digests call expectedSize deadline state)
  settle (stateAfter result)
  Prog.ofExcept ((result.map Prod.fst).mapError Prod.fst)

/-- The target is a file that the checkpoint records as published. -/
def recordedTarget (saved : Checkpoint) (w : World) : Bool :=
  match w.target with
  | some (.file ino) =>
    saved.identity = some (call.fingerprint digests) &&
      saved.publishedIdentity = some ((w.files ino).identity ino)
  | _ => false

def locked (deadline : ℕ) : Stream ℕ := do
  Prog.look .os fun w =>
    if w.locked then .error (.download "同一目标文件已有下载任务") else .ok ()
  probe id
  let saved ← observe id fun w => w.checkpoint.getD {}
  if (← observe id fun w => w.target.isSome) then
    if (← observe id (recordedTarget digests call saved)) then do
      -- Also covers a crash after the link and before the task was finished.
      syscall id World.unlinkPart
      pure expectedSize
    else reject id "目标文件已存在，请换一个目录；不会覆盖现有文件"
  else do
    let state ← adopt digests call expectedSize saved
    writeCheckpoint id state
    guarded digests call expectedSize state deadline

/-- `stream_download` -/
def streamDownload : Stream ℕ := do
  Prog.ofExcept (validateDownloadUrl call.url)
  match call.expectedSize with
  | none => reject id "文件大小未知，无法安全校验下载"
  | some size =>
    if size < 0 then reject id "文件大小未知，无法安全校验下载" else do
      observe id fun _ => ()
      update id World.openPart
      let now ← observe id World.monotonic
      let result ← Prog.attempt (locked digests call size.toNat (now + 8 * 10 ^ 9))
      -- Leaving the `with` block closes the file, and the client if it is owned.
      update id World.flush
      if call.ownsClient then observe id fun _ => ()
      Prog.ofExcept result

end Calls

end MediaSync.DownloadStream
