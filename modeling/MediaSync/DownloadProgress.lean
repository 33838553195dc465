import MediaSync.DownloadAdvance
import MediaSync.TaskWorker

/-!
# Deferred downloads make progress

A row of calls that all yield uses up the bytes to receive and the bytes to
verify, so it comes to an end, and a deferral costs no retry of its task. An
answer with the whole file to the request for the rest of it empties the
partial file, and the deadline may then come before the old length is reached
again: such a download never ends.
-/
namespace MediaSync.DownloadProgress
open FaultPrograms JsonValues PythonText RowTables TaskTables TaskRepository TaskWorker
  DownloadStream DownloadIntegrity

/-! ## Runs of calls -/

/-- One call of a run and the directory it begins in. -/
structure Start where
  before : World
  call : Call
  schedule : Schedule Move

def Start.attempt (digests : Digests) (s : Start) : Attempt :=
  DownloadIntegrity.attempt digests s.call s.schedule s.before

/-- The calls of a run, from the directory `w`. -/
def starts (digests : Digests) : List Turn → World → List Start
  | [], _ => []
  | .call call schedule :: turns, w =>
    let s : Start := ⟨w, call, schedule⟩
    s :: starts digests turns (s.attempt digests).after.ended
  | .move move :: turns, w => starts digests turns (Surroundings.move move w)
  | .removeTarget :: turns, w => starts digests turns { w with target := none }

/-- The directory at the end of a run. -/
def directoryAfter (digests : Digests) : List Turn → World → World
  | [], w => w
  | .call call schedule :: turns, w =>
    directoryAfter digests turns (attempt digests call schedule w).after.ended
  | .move move :: turns, w => directoryAfter digests turns (Surroundings.move move w)
  | .removeTarget :: turns, w => directoryAfter digests turns { w with target := none }

theorem starts_append (digests : Digests) (first rest : List Turn) (w : World) :
    starts digests (first ++ rest) w =
      starts digests first w ++ starts digests rest (directoryAfter digests first w) := by
  induction first generalizing w with
  | nil => rfl
  | cons turn first ih =>
    cases turn with
    | call call schedule =>
      rw [List.cons_append, starts, starts, List.cons_append, directoryAfter]
      exact congrArg _ (ih _)
    | move move => exact ih _
    | removeTarget => exact ih _

/-- The server honours the request of a call for the rest of a partial file. -/
def Honoured (s : Start) : Prop :=
  (progressOf s.before).bytes ≠ 0 → honours s.schedule s.before

/-- The call yields, and is to be called again. -/
def Deferred (digests : Digests) (s : Start) : Prop :=
  ∃ count, (s.attempt digests).outcome = .raised (.deferred count)

section Runs
variable {digests : Digests} {sizes : String → ℕ} {s : Start} {w : World}

/-- Between two turns nothing waits in a buffer. -/
def Between (sizes : String → ℕ) (w : World) : Prop := Resumable sizes w ∧ w.handle.buffer = []

/-- The sizes are those of the downloads that are called for. -/
def Fits (digests : Digests) (sizes : String → ℕ) (call : Call) : Prop :=
  ∀ n : ℕ, call.expectedSize = some (n : ℤ) → sizes (call.fingerprint digests) = n

theorem Fits.known {call : Call} (h : Fits digests sizes call) (n : ℕ)
    (hn : call.expectedSize = some (n : ℤ)) : Known sizes (call.fingerprint digests) n :=
  ⟨h n hn, fingerprint_ne digests call⟩

theorem Between.idle {K : Prop} (hw : Between sizes w)
    (hhonest : K → w.answer.any isWhole = false) :
    Idle K sizes (progressOf w) w.checkpoint w :=
  ⟨hw.1, hw.2, rfl, rfl, hhonest⟩

theorem Between.attempt (hw : Between sizes s.before) (hfits : Fits digests sizes s.call) :
    Between sizes (s.attempt digests).after.ended := by
  refine ⟨?_, rfl⟩
  have hmeets := stream_streamDownload (K := False) rfl hfits.known rfl
    (hw.idle fun h => h.elim)
  have hallows : Post.Allows _ s.schedule
      ((streamDownload digests s.call).run s.schedule s.before) :=
    hmeets.limited fun _ _ _ _ h => h.elim
  have hafter : Resumable sizes (s.attempt digests).after := by
    unfold Start.attempt DownloadIntegrity.attempt
    rcases hrun : (streamDownload digests s.call).run s.schedule s.before with
      ⟨a | e | _, w', rest⟩ <;> rw [hrun] at hallows
    · exact hallows.1.1
    · exact hallows.1.1.1
    · exact hallows.1
  exact ⟨hafter.part_lt, hafter.owned⟩

theorem Between.move (hw : Between sizes w) (move : Move) :
    Between sizes (Surroundings.move move w) := by
  have h : Elsewhere w (Surroundings.move move w) := move_elsewhere move w
  exact ⟨Resumable.still (K := False) ⟨move, fun h => h.elim⟩ w hw.1,
    (congrArg Handle.buffer h.handle).trans hw.2⟩

theorem Between.fresh : Between sizes World.fresh :=
  ⟨⟨fun _ h => (by cases h), fun _ h => (by cases h)⟩, rfl⟩

theorem honours_answer {schedule : Schedule Move} (h : honours schedule w = true) :
    w.answer.any isWhole = false := by
  unfold honours at h
  rw [Bool.and_eq_true, Bool.not_eq_true'] at h
  exact h.1

theorem honours_move {schedule : Schedule Move} (h : honours schedule w = true)
    {event : Event Move} (hevent : event ∈ schedule) {move : Move} (hmove : move ∈ event.moves) :
    ignoresRange move = false := by
  unfold honours at h
  rw [Bool.and_eq_true] at h
  have hall := List.all_eq_true.mp (List.all_eq_true.mp h.2 event hevent) move hmove
  simpa using hall

theorem Deferred.ahead (h : Deferred digests s) (hw : Between sizes s.before)
    (hfits : Fits digests sizes s.call) (hhonoured : Honoured s) :
    Ahead (sizes (s.call.fingerprint digests)) (progressOf s.before)
      (progressOf (s.attempt digests).after) := by
  obtain ⟨count, hcount⟩ := h
  have hmeets := stream_streamDownload (K := (progressOf s.before).bytes ≠ 0) rfl hfits.known rfl
    (hw.idle fun hne => honours_answer (hhonoured hne))
  have hallows : Post.Allows _ s.schedule
      ((streamDownload digests s.call).run s.schedule s.before) :=
    hmeets.limited fun event hevent move hmove hne => honours_move (hhonoured hne) hevent hmove
  unfold Start.attempt DownloadIntegrity.attempt at hcount ⊢
  rcases hrun : (streamDownload digests s.call).run s.schedule s.before with
    ⟨a | e | _, w', rest⟩ <;> rw [hrun] at hallows hcount
  · cases hcount
  · exact (hallows.1.2 count (Outcome.raised.inj hcount)).2 id
  · cases hcount

theorem Between.starts {turns : List Turn} (hw : Between sizes w)
    (hfits : ∀ s ∈ starts digests turns w, Fits digests sizes s.call) :
    (∀ s ∈ starts digests turns w, Between sizes s.before) ∧
      Between sizes (directoryAfter digests turns w) := by
  induction turns generalizing w with
  | nil => exact ⟨fun s hs => absurd hs List.not_mem_nil, hw⟩
  | cons turn turns ih =>
    cases turn with
    | call call schedule =>
      rw [DownloadProgress.starts, List.forall_mem_cons] at hfits ⊢
      obtain ⟨hrest, hfinal⟩ := ih (hw.attempt (s := ⟨w, call, schedule⟩) hfits.1) hfits.2
      exact ⟨⟨hw, hrest⟩, hfinal⟩
    | move move => exact ih (hw.move move) hfits
    | removeTarget => exact ih ⟨⟨hw.1.part_lt, hw.1.owned⟩, hw.2⟩ hfits

/-- A row of calls that all yield uses up what was left to do. -/
theorem length_le_remaining {turns : List Turn} {identity : String} (hw : Between sizes w)
    (hfits : ∀ s ∈ starts digests turns w, Fits digests sizes s.call)
    (hhonoured : ∀ s ∈ starts digests turns w, Honoured s)
    (hdeferred : ∀ s ∈ starts digests turns w,
      s.call.fingerprint digests = identity ∧ Deferred digests s) :
    (starts digests turns w).length ≤ remaining (sizes identity) (progressOf w) := by
  induction turns generalizing w with
  | nil => exact Nat.zero_le _
  | cons turn turns ih =>
    cases turn with
    | call call schedule =>
      rw [starts, List.forall_mem_cons] at hfits hhonoured hdeferred
      have hahead := hdeferred.1.2.ahead hw hfits.1 hhonoured.1
      rw [hdeferred.1.1] at hahead
      have hrest := ih (hw.attempt (s := ⟨w, call, schedule⟩) hfits.1) hfits.2 hhonoured.2
        hdeferred.2
      rw [starts, List.length_cons]
      exact Nat.succ_le_of_lt (hrest.trans_lt hahead.remaining_lt)
    | move move =>
      have hsame : progressOf (Surroundings.move move w) = progressOf w :=
        progressOf_elsewhere (move_elsewhere move w) hw.1.part_lt
      rw [← hsame]
      exact ih (hw.move move) hfits hhonoured hdeferred
    | removeTarget => exact ih ⟨⟨hw.1.part_lt, hw.1.owned⟩, hw.2⟩ hfits hhonoured hdeferred

end Runs

/-! ## What the worker does with a deferral -/

/-- Digits in groups of three, from the last one. -/
def grouped : List Char → List Char
  | a :: b :: c :: d :: rest => a :: b :: c :: ',' :: grouped (d :: rest)
  | digits => digits

def thousands (n : ℕ) : String := String.ofList (grouped (Nat.toDigits 10 n).reverse).reverse

/-- The answer of `execute_download` to `DownloadDeferred`. -/
def deferredOutcome (count : ℕ) : TaskOutcome where
  status := .deferred
  summary := some ("下载已保存进度：" ++ thousands count ++ " 字节，等待继续")
  metrics := some [("continuation", .bool true), ("downloaded_bytes", .int count)]
  retryAfter := some 1000000
  wellFormed := rfl

/-- A deferral, or the cancellation that it becomes, costs no retry. -/
theorem deferral_costs_nothing {runtime : WorkerRuntime} {now clock : Time}
    {claimed : ClaimedExecution} {count durationMs : ℕ} {db db' : Database} {status : TaskStatus}
    (h : runtime.finish now clock claimed (deferredOutcome count) durationMs db =
      .ok (status, db')) (id : ℕ) :
    (db'.tasks.get? id).map Task.retryCount = (db.tasks.get? id).map Task.retryCount := by
  obtain ⟨task, fields, verdict, -, -, hfields, -, -, -, hrun⟩ := finish_ok h
  obtain ⟨-, -, -, -, -, -, rfl⟩ := finishRun_ok hrun
  have hfree : fields.status ∉ [TaskOutcomeStatus.retry, .failed] := by
    rw [hfields, WorkerRuntime.reconciledOutcome]
    split_ifs
    · simp [WorkerRuntime.cancelledDownload]
    · simp [deferredOutcome]
  rw [Table.get?_update, Option.map_map]
  congr 1
  funext row
  rw [Function.comp_apply]
  split_ifs
  · simp [finished, WorkerRuntime.finishDetails, hfree, released]
  · rfl

/-- In runs where no call that asks for the rest of a partial file gets the
whole file, every call that yields is further than it began, a row of such
calls comes to an end, and none of them costs a retry. -/
theorem deferrals_advance (digests : Digests) (sizes : String → ℕ) (turns : List Turn)
    (hfits : ∀ s ∈ starts digests turns World.fresh, Fits digests sizes s.call)
    (hhonoured : ∀ s ∈ starts digests turns World.fresh, Honoured s) :
    (∀ s ∈ starts digests turns World.fresh, Deferred digests s →
      Further (progressOf s.before) (progressOf (s.attempt digests).after)) ∧
    (∀ first rest last identity, turns = first ++ rest ++ last →
      (∀ s ∈ starts digests rest (directoryAfter digests first World.fresh),
        s.call.fingerprint digests = identity ∧ Deferred digests s) →
      (starts digests rest (directoryAfter digests first World.fresh)).length ≤
        2 * sizes identity) ∧
    ∀ (runtime : WorkerRuntime) (now clock : Time) (claimed : ClaimedExecution)
      (count durationMs : ℕ) (db db' : Database) (status : TaskStatus),
      runtime.finish now clock claimed (deferredOutcome count) durationMs db = .ok (status, db') →
      ∀ id, (db'.tasks.get? id).map Task.retryCount = (db.tasks.get? id).map Task.retryCount := by
  refine ⟨fun s hs hdeferred => ?_, fun first rest last identity hturns hrest => ?_,
    fun _ _ _ _ _ _ _ _ _ h => deferral_costs_nothing h⟩
  · have hbetween := (Between.fresh.starts hfits).1 s hs
    exact (hdeferred.ahead hbetween (hfits s hs) (hhonoured s hs)).further
  · subst hturns
    rw [List.append_assoc] at hfits hhonoured
    simp only [starts_append, List.forall_mem_append] at hfits hhonoured
    have hbetween := (Between.fresh.starts hfits.1).2
    exact (length_le_remaining hbetween hfits.2.1 hhonoured.2.1 hrest).trans (remaining_le _ _)

/-! ## A server that ignores ranges -/

def clipDigests : Digests where
  sha1 _ := []
  sha256Json _ := "5c726ff1a4a599448abbaf52553df64aa7a8452b593b1b9c8813f7491e6f9d83"
  sha256Json_ne _ := by decide

/-- At one KiB a second the file comes in two pieces. -/
def clip : Call where
  url := { scheme := "https", hostname := some "dl.mypikpak.com" }
  expectedSize := some 2048
  identity := some "1:file"
  chunkBytes := 33554432
  rateLimit := 1024

/-- The first piece arrives, and the second one not before the deadline. -/
def slowly (response : Response) : Schedule Move :=
  [⟨[.answer (some response)], .none⟩] ++ List.replicate 14 ⟨[], .none⟩ ++
    [⟨[.pass 9000000000], .none⟩]

def clipStart : Response := { status := 200, body := List.replicate 2048 7 }

def clipRest : Response where
  status := 206
  contentRange := some "bytes 1024-2047/2048"
  body := List.replicate 1024 7

def resumed : List Turn :=
  [.call clip (slowly clipStart), .call clip [⟨[.answer (some clipRest)], .none⟩]]

theorem deferrals_advance_resumed :
    (∀ s ∈ starts clipDigests resumed World.fresh, Honoured s) ∧
      ∀ s ∈ starts clipDigests resumed World.fresh, Deferred clipDigests s →
        Further (progressOf s.before) (progressOf (s.attempt clipDigests).after) := by
  have hhonoured : ∀ s ∈ starts clipDigests resumed World.fresh, Honoured s := by
    intro s hs
    simp only [resumed, starts, List.mem_cons, List.not_mem_nil, or_false] at hs
    rcases hs with rfl | rfl
    · exact fun hne => absurd rfl hne
    · exact fun _ => by decide +kernel
  refine ⟨hhonoured, (deferrals_advance clipDigests (fun _ => 2048) resumed ?_ hhonoured).1⟩
  intro s hs n hn
  have hcall : s.call = clip := by
    simp only [resumed, starts, List.mem_cons, List.not_mem_nil, or_false] at hs
    rcases hs with rfl | rfl <;> rfl
  rw [hcall] at hn
  have hsize : (2048 : ℤ) = n := by simpa [clip] using hn
  change 2048 = n
  omega

/-- The second call, too, gets the file from its first byte on. -/
def restarted : List Turn := [.call clip (slowly clipStart), .call clip (slowly clipStart)]

theorem restarted_stays :
    ¬∀ s ∈ starts clipDigests restarted World.fresh, Deferred clipDigests s →
      Further (progressOf s.before) (progressOf (s.attempt clipDigests).after) := by
  intro h
  let second : Start :=
    ⟨(attempt clipDigests clip (slowly clipStart) World.fresh).after.ended, clip, slowly clipStart⟩
  have hsecond : second ∈ starts clipDigests restarted World.fresh :=
    List.mem_cons_of_mem _ (List.mem_cons_self ..)
  have hdeferred : (second.attempt clipDigests).outcome = .raised (.deferred 1024) := by
    decide +kernel
  have hbefore : progressOf second.before = ⟨1024, 0⟩ := by decide +kernel
  have hafter : progressOf (second.attempt clipDigests).after = ⟨1024, 0⟩ := by decide +kernel
  have hfurther := h second hsecond ⟨1024, hdeferred⟩
  rw [hbefore, hafter] at hfurther
  rcases hfurther with hbytes | ⟨-, hblocks⟩
  · exact absurd hbytes (lt_irrefl _)
  · exact absurd hblocks (lt_irrefl _)

end MediaSync.DownloadProgress