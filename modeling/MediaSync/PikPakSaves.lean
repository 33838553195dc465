import MediaSync.Common.TracedRuns
import MediaSync.ProviderOperations

/-!
# Finding a PikPak save again

What a query of a save operation has asked of the drive, and what it may answer
and move on the strength of that. A listing is a chain of pages from the first
one to one without a cursor. What is in a folder is only known by a listing, so
a result is stated for every content that the listing shows.
-/
namespace MediaSync.PikPakSaves
open FaultPrograms TracedRuns ProviderOperations SubscriptionScan
open PikPak (listTargetItemsOf itemsOf allItemsOf matchingOf moveRestoredOf answerOf
  querySaveOperationOf isReceiving)

/-! ## A drive that keeps a log -/

/-- A request and what was answered. -/
abbrev Entry := ServiceRequest × Except ProviderError Answer

structure Drive where
  cloud : Cloud
  log : List Entry := []

instance : Surroundings Drive CloudMove where
  move move w := { w with cloud := Surroundings.move move w.cloud }

def askLogged (request : ServiceRequest) : Prog Drive ProviderError Answer :=
  Prog.effect .interrupted fun w =>
    match w.cloud.answer request with
    | .error e => (.error e, { w with log := w.log ++ [(request, .error e)] })
    | .ok answer => (.ok answer, ⟨w.cloud.record request, w.log ++ [(request, .ok answer)]⟩)

/-- The requests that move an item. -/
def isMove (entry : Entry) : Bool :=
  match entry.1 with
  | .move .. => true
  | _ => false

def Still (log : List Entry) : Prop := ∀ entry ∈ log, isMove entry = false

/-- The items of a page that no page before it had. -/
def newItems (page : RemotePage) (seenIds : List String) : List RemoteItem :=
  page.items.filter fun item => item.remoteFileId ∉ seenIds

/-- A listing of a folder to its end, and what it found. -/
inductive Listed (folder : String) :
    Option String → List String → List Entry → List RemoteItem → Prop
  | last {marker : Option String} {seenIds : List String} {page : RemotePage}
      (ends : page.nextMarker = none) :
      Listed folder marker seenIds [(.targetItems folder marker, .ok (.page page))]
        (newItems page seenIds)
  | more {marker : Option String} {seenIds : List String} {page : RemotePage} {next : String}
      {log : List Entry} {found : List RemoteItem} (follows : page.nextMarker = some next)
      (rest : Listed folder (some next) ((newItems page seenIds).map RemoteItem.remoteFileId ++
        seenIds) log found) :
      Listed folder marker seenIds ((.targetItems folder marker, .ok (.page page)) :: log)
        (newItems page seenIds ++ found)

/-- The items of the pages of a log. -/
def shownItems (log : List Entry) : List RemoteItem :=
  log.flatMap fun entry =>
    match entry.2 with
    | .ok (.page page) => page.items
    | _ => []

/-- The pages show this content of a folder: all of it and nothing else. -/
structure Shows (log : List Entry) (content : List RemoteItem) : Prop where
  distinct : (content.map RemoteItem.remoteFileId).Nodup
  same : ∀ item, item ∈ shownItems log ↔ item ∈ content

section Listings
variable {folder : String} {marker : Option String} {seenIds : List String} {log : List Entry}
  {found content : List RemoteItem}

theorem Listed.still (h : Listed folder marker seenIds log found) : Still log := by
  induction h with
  | last =>
    intro entry hmem
    rw [List.mem_singleton.mp hmem]
    rfl
  | more _ _ ih =>
    intro entry hmem
    rcases List.mem_cons.mp hmem with rfl | hmem
    · rfl
    · exact ih entry hmem

/-- Exactly one item of the content has the property. -/
def OnlyOne (content : List RemoteItem) (p : RemoteItem → Bool) (item : RemoteItem) : Prop :=
  ∀ other, other ∈ content ∧ p other = true ↔ other = item

/-- A log begins with at most one listing. -/
theorem Listed.unique {log' rest rest' : List Entry} {found' : List RemoteItem}
    (h : Listed folder marker seenIds log found) (h' : Listed folder marker seenIds log' found')
    (hsame : log ++ rest = log' ++ rest') : log = log' ∧ found = found' := by
  induction h generalizing log' found' with
  | @last marker seenIds page hnext =>
    cases h' with
    | @last _ _ page' hnext' =>
      obtain ⟨hpage, -⟩ := List.cons.inj hsame
      cases hpage
      exact ⟨rfl, rfl⟩
    | @more _ _ page' next' _ _ hnext' hrest' =>
      obtain ⟨hpage, -⟩ := List.cons.inj hsame
      cases hpage
      cases hnext.symm.trans hnext'
  | @more marker seenIds page next log found hnext hrest ih =>
    cases h' with
    | @last _ _ page' hnext' =>
      obtain ⟨hpage, -⟩ := List.cons.inj hsame
      cases hpage
      cases hnext'.symm.trans hnext
    | @more _ _ page' next' log' found' hnext' hrest' =>
      obtain ⟨hpage, htail⟩ := List.cons.inj hsame
      cases hpage
      cases hnext.symm.trans hnext'
      obtain ⟨rfl, rfl⟩ := ih hrest' htail
      exact ⟨rfl, rfl⟩

end Listings

/-! ## What a program asks -/

/-- Every run adds a log for which `R` holds, together with how it ended. -/
def Talks {α : Type} (p : Prog Drive ProviderError α)
    (R : Outcome ProviderError α → List Entry → Prop) : Prop :=
  ∀ w, Traced CloudMove p (fun o w' _ => ∃ log, w'.log = w.log ++ log ∧ R o log) w

namespace Talks
variable {α β : Type} {p : Prog Drive ProviderError α} {f : α → Prog Drive ProviderError β}
  {R : Outcome ProviderError α → List Entry → Prop}

theorem mono {R' : Outcome ProviderError α → List Entry → Prop} (h : Talks p R)
    (hR : ∀ o log, R o log → R' o log) : Talks p R' := fun w =>
  (h w).mono fun o _ _ ⟨log, hlog, hadded⟩ => ⟨log, hlog, hR o log hadded⟩

theorem pure {a : α} (h : R (.value a) []) : Talks (Pure.pure a : Prog Drive ProviderError α) R :=
  fun _ => .pure ⟨[], (List.append_nil _).symm, h⟩

theorem throw {e : ProviderError} (h : R (.raised e) []) :
    Talks (MonadExceptOf.throw e : Prog Drive ProviderError α) R :=
  fun _ => .throw ⟨[], (List.append_nil _).symm, h⟩

/-- A check asks nothing. -/
theorem check {r : Except ProviderError α} {S : Outcome ProviderError β → List Entry → Prop}
    (hok : ∀ a, r = .ok a → Talks (f a) S) (herror : ∀ e, S (.raised e) []) :
    Talks (Prog.ofExcept r >>= f) S := by
  cases r with
  | ok a => exact hok a rfl
  | error e => exact Talks.throw (herror e)

/-- The second part adds to the log of the first. -/
theorem bind {S : Outcome ProviderError β → List Entry → Prop} (hp : Talks p R)
    (hf : ∀ a log, R (.value a) log → Talks (f a) fun o log' => S o (log ++ log'))
    (hraised : ∀ e log, R (.raised e) log → S (.raised e) log)
    (hcrashed : ∀ log, R .crashed log → S .crashed log) : Talks (p >>= f) S := by
  intro w
  refine .bind ((hp w).mono ?_)
  rintro (a | e | _) w' steps ⟨log, hlog, hadded⟩
  · unfold andThen
    refine (hf a log hadded w').mono fun o w'' steps' ⟨log', hlog', hS⟩ => ?_
    exact ⟨log ++ log', by rw [hlog', hlog, List.append_assoc], hS⟩
  · exact ⟨log, hlog, hraised e log hadded⟩
  · exact ⟨log, hlog, hcrashed log hadded⟩

end Talks

/-- One request: it was answered, or it is not known whether it was made. -/
def Asked (request : ServiceRequest) : Outcome ProviderError Answer → List Entry → Prop
  | .value answer, log => log = [(request, .ok answer)]
  | .raised _, log => log = [] ∨ ∃ answer, log = [(request, answer)]
  | .crashed, log => log = []

theorem log_of_moved {w w' : Drive} (h : Moved CloudMove w w') : w'.log = w.log :=
  h.preserves (P := fun w' => w'.log = w.log) (fun _ _ hw' => hw') rfl

/-- A program that moves nothing, whatever it answers. -/
def Found {α : Type} (Q : α → List Entry → Prop) (o : Outcome ProviderError α)
    (log : List Entry) : Prop :=
  Still log ∧ ∀ a, o = .value a → Q a log

theorem Still.append {log log' : List Entry} (h : Still log) (h' : Still log') :
    Still (log ++ log') := fun entry hmem => (List.mem_append.mp hmem).elim (h entry) (h' entry)

section Rules
variable {α β : Type} {p : Prog Drive ProviderError α} {f : α → Prog Drive ProviderError β}
  {Q : α → List Entry → Prop}

end Rules

/-! ## Listings -/

section Queries
variable {sha256 : Sha256} {fuel : ℕ} {folderId wanted : String}

def isWanted (sha256 : Sha256) (wanted : String) (item : RemoteItem) : Bool :=
  PikPak.fingerprint sha256 item = wanted

/-- A log with one move: of the only item of the receiving folder that is wanted,
which is complete. -/
def MovesOne (sha256 : Sha256) (folder wanted : String) (log rest : List Entry) : Prop :=
  ∃ rootLog receivingLog roots restored receiving receivingFolder candidate answer,
    log = rootLog ++ (receivingLog ++ (.move candidate.remoteFileId folder, answer) :: rest) ∧
    Listed "" none [] rootLog roots ∧ roots.filter isReceiving = [receiving] ∧
    PikPak.parent receiving.remoteFileId = .ok receivingFolder ∧
    Listed receivingFolder none [] receivingLog restored ∧
    restored.filter (isWanted sha256 wanted) = [candidate] ∧ PikPak.isComplete candidate = true

/-- Nothing was moved and nothing found, or one item was moved and the target
listed again. -/
def Restored (sha256 : Sha256) (folder wanted : String)
    (o : Outcome ProviderError (List RemoteItem)) (log : List Entry) : Prop :=
  (Still log ∧ ∀ items, o = .value items → items = []) ∨
    ∃ rest, MovesOne sha256 folder wanted log rest ∧ Still rest ∧ ∀ items, o = .value items →
      ∃ found, Listed folder none [] rest found ∧ items = found.filter (isWanted sha256 wanted)

/-- What is asked for: a folder of the drive and a fingerprint. -/
def Requested (text folder wanted : String) : Prop :=
  ∃ folderId, PikPak.parseOperationId text = .ok (folderId, wanted) ∧
    PikPak.parent folderId = .ok folder

/-- The target was listed last, and whatever content its pages show has exactly
one wanted item, which is complete and is the one that is answered. -/
def Completes (sha256 : Sha256) (text : String) (log : List Entry) (operation : SaveOperation) :
    Prop :=
  ∃ folder wanted before listing found item, Requested text folder wanted ∧
    log = before ++ listing ∧ Listed folder none [] listing found ∧
    operation.targetFileIds = [item.remoteFileId] ∧ PikPak.isComplete item = true ∧
    ∀ content, Shows listing content → OnlyOne content (isWanted sha256 wanted) item

/-- The log of a call that moves: the target was listed first and showed no
wanted item; then the drive showed one receiving folder, and that folder one
wanted item, which is complete and is the one that is moved, once. -/
def MovesRightly (sha256 : Sha256) (text : String) (log : List Entry) : Prop :=
  ∃ folder wanted targetLog rootLog receivingLog rest target roots restored receiving
      receivingFolder candidate answer,
    Requested text folder wanted ∧
    log = targetLog ++ (rootLog ++ (receivingLog ++
      (.move candidate.remoteFileId folder, answer) :: rest)) ∧
    Still targetLog ∧ Still rootLog ∧ Still receivingLog ∧ Still rest ∧
    Listed folder none [] targetLog target ∧ Listed "" none [] rootLog roots ∧
    PikPak.parent receiving.remoteFileId = .ok receivingFolder ∧
    Listed receivingFolder none [] receivingLog restored ∧ PikPak.isComplete candidate = true ∧
    (∀ content, Shows targetLog content → ∀ item ∈ content, isWanted sha256 wanted item = false) ∧
    (∀ content, Shows rootLog content → OnlyOne content isReceiving receiving) ∧
    ∀ content, Shows receivingLog content → OnlyOne content (isWanted sha256 wanted) candidate

/-- Once a listing of the target shows a wanted item, nothing is moved. -/
def StaysPut (sha256 : Sha256) (text : String) (log : List Entry) : Prop :=
  ∀ folder wanted listing rest found content item, Requested text folder wanted →
    log = listing ++ rest → Listed folder none [] listing found → Shows listing content →
    item ∈ content → isWanted sha256 wanted item = true → Still log

structure Sound (sha256 : Sha256) (text : String) (o : Outcome ProviderError SaveOperation)
    (log : List Entry) : Prop where
  completes : ∀ operation, o = .value operation → operation.completed = true →
    Completes sha256 text log operation
  moves : Still log ∨ MovesRightly sha256 text log
  visible : StaysPut sha256 text log

/-- The answer is about the only item that was found. -/
def Answers (o : Outcome ProviderError SaveOperation) (items : List RemoteItem) : Prop :=
  ∀ operation, o = .value operation → operation.completed = true →
    ∃ item, items = [item] ∧ PikPak.isComplete item = true ∧
      operation.targetFileIds = [item.remoteFileId]

section Parts
variable {text folder : String} {o : Outcome ProviderError SaveOperation}
  {log targetLog : List Entry} {target : List RemoteItem}

end Parts

end Queries

/-! ## Calls one after the other -/

/-- How each of several calls ended, and what it asked. A call may be cut short
at any request, and the drive may change between the calls and during them. -/
def calls (sha256 : Sha256) (fuel : ℕ) (text : String) :
    List (Schedule CloudMove) → Drive → List (Outcome ProviderError SaveOperation × List Entry)
  | [], _ => []
  | es :: ess, w =>
    let (outcome, w', _) := (querySaveOperationOf askLogged sha256 fuel text).run es w
    (outcome, w'.log.drop w.log.length) :: calls sha256 fuel text ess w'

def savedItem : RemoteItem where
  remoteFileId := "i7"
  parentId := some "f1"
  filename := "a.mkv"
  itemType := "file"
  size := some 5
  contentHash := some "H"
  metadata := [("phase", .str "PHASE_TYPE_COMPLETE")]

end MediaSync.PikPakSaves
