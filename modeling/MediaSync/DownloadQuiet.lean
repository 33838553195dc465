import MediaSync.DownloadCall

/-!
# Calls that nothing disturbs

What a call computes when no other program moves, no operation fails and the
process is not stopped: the server answers as it was asked, the received bytes
reach the file, and the call ends as its transfer ends.
-/
namespace MediaSync.DownloadIntegrity
open FaultPrograms PythonText DownloadStream

variable {ε α : Type} {fail : StreamError → ε} {failure : ε} {w : World} {state saved : Checkpoint}
variable {digests : Digests} {content buffer bytes : Bytes} {position : ℕ}
variable {answer : Option Response} {served : List Served} {call : Call} {size deadline : ℕ}

theorem run_observe (view : World → α) :
    (observe fail view).run ([] : Schedule Move) w = (.value (view w), w, []) := rfl

theorem run_update (next : World → World) :
    (update fail next).run ([] : Schedule Move) w = (.value (), next w, []) := rfl

theorem run_look :
    (Prog.look failure fun _ => .ok ()).run ([] : Schedule Move) w = (.value (), w, []) := rfl

theorem run_writeCheckpoint : (writeCheckpoint fail state).run ([] : Schedule Move) w =
    (.value (), { w with checkpoint := some state }, []) := rfl

theorem run_syscall {act : World → Except StreamError α × World} {a : α}
    (h : (act w).1 = .ok a) :
    (syscall fail act).run ([] : Schedule Move) w = (.value a, (act w).2, []) := by
  change (Prog.ofExcept ((act w).1.mapError fail)).run ([] : Schedule Move) (act w).2 = _
  rw [h]
  rfl

/-- The directory and the open file of a call that nothing disturbs. -/
def desk (content buffer : Bytes) (position : ℕ) (saved : Checkpoint)
    (answer : Option Response) (served : List Served) : World :=
  { World.fresh with
    files := fun ino => ⟨if ino = 0 then content else [], 0⟩
    nextIno := 1
    part := some 0
    checkpoint := some saved
    handle := ⟨0, position, buffer⟩
    answer := answer
    served := served }

theorem run_probe :
    (probe fail).run ([] : Schedule Move) (desk content buffer position saved answer served) =
      (.value (), desk content buffer position saved answer served, []) := rfl

theorem desk_write : (desk content buffer position saved answer served).write bytes =
    desk content (buffer ++ bytes) position saved answer served := rfl

theorem desk_setContent : (desk content buffer position saved answer served).setContent bytes =
    desk bytes buffer position saved answer served := by
  unfold World.setContent desk
  congr 1
  funext ino
  by_cases h : ino = 0
  · subst h
    rfl
  · simp [h]

theorem desk_flush : (desk content buffer content.length saved answer served).flush =
    desk (content ++ buffer) [] (content.length + buffer.length) saved answer served := by
  by_cases h : buffer = []
  · rw [flush_of_empty h, h, List.append_nil]
    rfl
  · change ((desk content buffer content.length saved answer served).spill buffer.length) = _
    unfold World.spill
    dsimp only
    rw [if_neg (by change buffer.take buffer.length ≠ []; rwa [List.take_length])]
    change { (desk content buffer content.length saved answer served).setContent
      (World.overwrite content content.length (buffer.take buffer.length)) with
      handle := ⟨0, content.length + (buffer.take buffer.length).length,
        buffer.drop buffer.length⟩ } = _
    rw [desk_setContent, overwrite_end, List.take_length, List.drop_length]
    rfl

theorem run_untilDeadline {written : ℕ} {rest : Body ℕ} (hdeadline : 0 < deadline) :
    (untilDeadline call size deadline state written rest).run ([] : Schedule Move)
        (desk content buffer position saved answer served) =
      rest.run [] (desk content buffer position saved answer served) := by
  have hearly : ¬ deadline ≤ (desk content buffer position saved answer served).monotonic :=
    Nat.not_le.mpr hdeadline
  unfold untilDeadline
  split
  · simp only [Prog.run_bind, run_observe, Prog.extend, if_neg hearly]
  · rfl

theorem run_save {rest : List Bytes} {responseEnd started written received : ℕ}
    (hbound : written + rest.flatten.length ≤ responseEnd) (hrate : call.rateLimit = 0)
    (hdeadline : 0 < deadline) :
    (save call size deadline state responseEnd started rest written received).run
        ([] : Schedule Move) (desk content buffer position saved answer served) =
      (.value (written + rest.flatten.length),
        desk content (buffer ++ rest.flatten) position saved answer served, []) := by
  induction rest generalizing buffer written received with
  | nil =>
    rw [List.flatten_nil, List.append_nil]
    rfl
  | cons piece rest ih =>
    rw [List.flatten_cons, List.length_append] at hbound
    have hrest : written + piece.length + rest.flatten.length ≤ responseEnd := by omega
    have hpiece : ¬ responseEnd < written + piece.length := by omega
    have hunlimited : ¬ call.rateLimit ≠ 0 := fun hne => hne hrate
    unfold save
    simp only [Prog.run_bind, run_look, Prog.extend, run_probe, if_neg hpiece,
      if_neg hunlimited, run_update, desk_write, progress]
    rw [run_untilDeadline hdeadline, ih hrest, List.flatten_cons, List.length_append,
      Nat.add_assoc, List.append_assoc]

/-- The whole answer to a range request is received. -/
theorem run_receive {start last : ℕ} {response : Response}
    (hstatus : response.status = 206) (hencoding : response.contentEncoding = none)
    (hrange : acceptedRange size start last (response.contentRange.getD "") =
      .ok (some (start + response.body.length)))
    (hrate : call.rateLimit = 0) (hdeadline : 0 < deadline) :
    (receive call size deadline state start last response).run ([] : Schedule Move)
        (desk content [] position saved answer served) =
      (.value (start + response.body.length, state),
        desk content response.body position saved answer served, []) := by
  have hidentity : ¬ response.contentEncoding.getD "identity" ≠ "identity" := by
    simp [hencoding]
  have hflatten := pieces_flatten (readSize_pos call) (Nat.le_refl response.body.length)
  have hbound : start + (pieces (readSize call) response.body.length
      response.body).flatten.length ≤ start + response.body.length :=
    Nat.le_of_eq (by rw [hflatten])
  have hend : ¬ start + response.body.length ≠ start + response.body.length := fun h => h rfl
  unfold receive placed
  rw [if_neg hidentity, if_pos hstatus, hrange]
  simp only [Prog.run_bind, Prog.run_pure, Prog.extend, run_observe]
  rw [run_save hbound hrate hdeadline, hflatten]
  simp only [if_neg hend, Prog.run_pure, List.nil_append]

/-- A missing part that the server sends as it was asked for. -/
theorem run_complete {start : ℕ} {response : Response} (hstart : start < size)
    (hurl : validateDownloadUrl call.url = .ok ())
    (hstatus : response.status = 206) (hencoding : response.contentEncoding = none)
    (hrange : acceptedRange size start (lastOffset call size start)
      (response.contentRange.getD "") = .ok (some (start + response.body.length)))
    (hrate : call.rateLimit = 0) (hdeadline : 0 < deadline) :
    (complete digests call size deadline state start).run ([] : Schedule Move)
        (desk content [] position saved (some response) served) =
      (.value (start + response.body.length, state),
        desk content response.body position saved none
          (⟨call.fingerprint digests, call.url,
            requestRange call start (lastOffset call size start), response⟩ :: served), []) := by
  have hredirect : response.isRedirect = false := by
    unfold Response.isRedirect
    rw [hstatus]
    rfl
  have hask : (ask digests call state call.url
      (requestRange call start (lastOffset call size start))).run ([] : Schedule Move)
        (desk content [] position saved (some response) served) =
      (.value response, desk content [] position saved none
        (⟨call.fingerprint digests, call.url,
          requestRange call start (lastOffset call size start), response⟩ :: served), []) := rfl
  unfold complete fetch
  rw [if_pos hstart, hurl]
  simp only [Prog.run_bind, Except.mapError, Prog.ofExcept, Prog.run, Prog.extend, hask, hredirect]
  rw [if_neg Bool.false_ne_true]
  exact run_receive hstatus hencoding hrange hrate hdeadline

theorem desk_seekEnd : (desk content [] position saved answer served).seekEnd =
    desk content [] content.length saved answer served := rfl

theorem desk_seek {next : ℕ} : (desk content [] position saved answer served).seek next =
    desk content [] next saved answer served := rfl

theorem desk_truncate : (desk content [] position saved answer served).truncate 0 =
    desk [] [] position saved answer served := by
  change (desk content [] position saved answer served).setContent
    (content.take 0 ++ List.replicate (0 - content.length) 0) = _
  rw [desk_setContent, List.take_zero, Nat.zero_sub]
  rfl

theorem desk_read {count : ℕ} : (desk content [] position saved answer served).read count =
    desk content [] (position + ((content.drop position).take count).length) saved answer
      served := rfl

theorem run_settle : (settle state).run ([] : Schedule Move)
      (desk content buffer content.length saved answer served) =
    (.value (), desk (content ++ buffer) [] (content.length + buffer.length) state answer served,
      []) := by
  unfold settle
  simp only [Prog.run_bind, run_update, run_observe, Prog.extend, desk_flush]
  rfl

theorem run_settle_flushed : (settle state).run ([] : Schedule Move)
      (desk content [] position saved answer served) =
    (.value (), desk content [] position state answer served, []) := rfl

/-- A call that yields after a part of the file. -/
theorem run_guarded_part {response : Response}
    (hmore : content.length + response.body.length < size)
    (hurl : validateDownloadUrl call.url = .ok ())
    (hstatus : response.status = 206) (hencoding : response.contentEncoding = none)
    (hrange : acceptedRange size content.length (lastOffset call size content.length)
      (response.contentRange.getD "") = .ok (some (content.length + response.body.length)))
    (hrate : call.rateLimit = 0) (hdeadline : 0 < deadline) :
    (guarded digests call size state deadline).run ([] : Schedule Move)
        (desk content [] position saved (some response) served) =
      (.raised (.deferred (content.length + response.body.length)),
        desk (content ++ response.body) [] (content.length + response.body.length) state none
          (⟨call.fingerprint digests, call.url, requestRange call content.length
            (lastOffset call size content.length), response⟩ :: served), []) := by
  have hstart : content.length < size := by omega
  have hseek : (syscall (withState state) fun w =>
      (.ok w.seekEnd.handle.position, w.seekEnd)).run ([] : Schedule Move)
        (desk content [] position saved (some response) served) =
      (.value content.length, desk content [] content.length saved (some response) served, []) :=
    rfl
  unfold guarded transfer
  simp only [Prog.run_bind, Prog.run_attempt, hseek, Prog.extend,
    run_complete hstart hurl hstatus hencoding hrange hrate hdeadline, if_pos hmore,
    Prog.run_throw, Prog.settleResult, stateAfter, run_settle]
  rfl

/-- The last part arrives and the verification begins. -/
theorem run_transfer_last {response : Response}
    (hlast : content.length + response.body.length = size)
    (hstart : content.length < size)
    (hurl : validateDownloadUrl call.url = .ok ())
    (hstatus : response.status = 206) (hencoding : response.contentEncoding = none)
    (hrange : acceptedRange size content.length (lastOffset call size content.length)
      (response.contentRange.getD "") = .ok (some (content.length + response.body.length)))
    (hrate : call.rateLimit = 0) (hdeadline : 0 < deadline) :
    (transfer digests call size deadline state).run ([] : Schedule Move)
        (desk content [] position saved (some response) served) =
      Prog.extend (fun state => publish state size)
        ((verify digests call size deadline state).run []
          (desk (content ++ response.body) [] size saved none
            (⟨call.fingerprint digests, call.url, requestRange call content.length
              (lastOffset call size content.length), response⟩ :: served))) := by
  have hseek : (syscall (withState state) fun w =>
      (.ok w.seekEnd.handle.position, w.seekEnd)).run ([] : Schedule Move)
        (desk content [] position saved (some response) served) =
      (.value content.length, desk content [] content.length saved (some response) served, []) :=
    rfl
  have hcomplete : ¬ content.length + response.body.length < size := by omega
  unfold transfer
  simp only [Prog.run_bind, hseek, Prog.extend,
    run_complete hstart hurl hstatus hencoding hrange hrate hdeadline, if_neg hcomplete,
    run_update, desk_flush]
  rw [hlast]

/-- A file that is complete is verified at once. -/
theorem run_transfer_complete (hlength : content.length = size) :
    (transfer digests call size deadline state).run ([] : Schedule Move)
        (desk content [] position saved answer served) =
      Prog.extend (fun state => publish state size)
        ((verify digests call size deadline state).run []
          (desk content [] size saved answer served)) := by
  have hseek : (syscall (withState state) fun w =>
      (.ok w.seekEnd.handle.position, w.seekEnd)).run ([] : Schedule Move)
        (desk content [] position saved answer served) =
      (.value content.length, desk content [] content.length saved answer served, []) := rfl
  have hcomplete : complete digests call size deadline state size = pure (size, state) :=
    if_neg (Nat.lt_irrefl _)
  have hflush : (desk content [] size saved answer served).flush =
      desk content [] size saved answer served := rfl
  unfold transfer
  simp only [Prog.run_bind, hseek, Prog.extend, hlength, hcomplete, Prog.run_pure,
    if_neg (Nat.lt_irrefl size), run_update, hflush]

def hashed (digests : Digests) (state : Checkpoint) (bytes : Bytes) : Checkpoint :=
  { state with digests := some (state.digestList ++ [hexDigest (digests.sha1 bytes)]) }

theorem run_readBlock {count : ℕ} :
    (syscall (withState state) fun w => (.ok (w.readable count), w.read count)).run
        ([] : Schedule Move) (desk content [] position saved answer served) =
      (.value ((content.drop position).take count), desk content []
        (position + ((content.drop position).take count).length) saved answer served, []) := rfl

/-- A round of the verification after which the call yields. -/
theorem run_verifyBlocks_yield {block fuel checked : ℕ}
    (hread : (content.drop position).take (min block (size - position)) = bytes)
    (hne : bytes ≠ []) (hmore : position + bytes.length < size)
    (hchunk : call.chunkBytes ≠ 0 ∧ call.chunkBytes ≤ checked + bytes.length) (hfuel : fuel ≠ 0) :
    (verifyBlocks digests call size deadline block fuel state position checked).run
        ([] : Schedule Move) (desk content [] position saved answer served) =
      (.raised (.deferred size, hashed digests state bytes),
        desk content [] (position + bytes.length) saved answer served, []) := by
  obtain ⟨fuel, hsucc⟩ := Nat.exists_eq_succ_of_ne_zero hfuel
  have hposition : ¬ size ≤ position := by omega
  subst hsucc
  rw [verifyBlocks, if_neg hposition]
  simp only [Prog.run_bind, run_probe, Prog.extend, run_readBlock, hread, if_neg hne]
  rw [if_pos ⟨hmore, hchunk.1⟩, if_pos hchunk.2]
  rfl

theorem verifyBlocks_done {block fuel checked : ℕ} (h : size ≤ position) :
    verifyBlocks digests call size deadline block fuel state position checked = pure state := by
  cases fuel with
  | zero => rfl
  | succ fuel => rw [verifyBlocks, if_pos h]

/-- The last round of the verification. -/
theorem run_verifyBlocks_last {block fuel checked : ℕ}
    (hread : (content.drop position).take (min block (size - position)) = bytes)
    (hne : bytes ≠ []) (hend : position + bytes.length = size) (hfuel : fuel ≠ 0) :
    (verifyBlocks digests call size deadline block fuel state position checked).run
        ([] : Schedule Move) (desk content [] position saved answer served) =
      (.value (hashed digests state bytes), desk content [] size saved answer served, []) := by
  obtain ⟨fuel, hsucc⟩ := Nat.exists_eq_succ_of_ne_zero hfuel
  have hlength := List.length_pos_iff.mpr hne
  have hposition : ¬ size ≤ position := by omega
  have hdone : ¬ (position + bytes.length < size ∧ call.chunkBytes ≠ 0) := by omega
  subst hsucc
  rw [verifyBlocks, if_neg hposition]
  simp only [Prog.run_bind, run_probe, Prog.extend, run_readBlock, hread, if_neg hne]
  rw [if_neg hdone, verifyBlocks_done (Nat.le_of_eq hend.symm), hend]
  rfl

theorem desk_openPart : (desk content [] position saved answer served).openPart =
    desk content [] 0 saved answer served := rfl

/-- What a call with its own partial file does before the transfer. -/
theorem run_locked (hidentity : saved.identity = some (call.fingerprint digests))
    (hlength : content.length ≤ size) :
    (locked digests call size deadline).run ([] : Schedule Move)
        (desk content [] 0 saved answer served) =
      (guarded digests call size saved deadline).run []
        (desk content [] 0 saved answer served) := by
  have hlock : (Prog.look .os fun w => if w.locked then
      .error (.download "同一目标文件已有下载任务") else .ok () : Stream Unit).run
        ([] : Schedule Move) (desk content [] 0 saved answer served) =
      (.value (), desk content [] 0 saved answer served, []) := rfl
  have hsaved : (desk content [] 0 saved answer served).checkpoint.getD {} = saved := rfl
  have habsent : (desk content [] 0 saved answer served).target.isSome = false := rfl
  have hcontent : (desk content [] 0 saved answer served).content = content := rfl
  have hfits : ¬ size < content.length := Nat.not_lt.mpr hlength
  have hsame : { desk content [] 0 saved answer served with checkpoint := some saved } =
      desk content [] 0 saved answer served := rfl
  unfold locked
  simp only [Prog.run_bind, hlock, Prog.extend, run_probe, run_observe, hsaved, habsent]
  rw [if_neg Bool.false_ne_true]
  unfold adopt
  rw [if_pos hidentity]
  simp only [Prog.run_bind, run_observe, Prog.extend, hcontent, if_neg hfits, Prog.run_pure,
    run_writeCheckpoint, hsame]

/-- A call that nothing disturbs ends as it ended under the lock. -/
theorem run_entered {r : Outcome StreamError ℕ × World × Schedule Move}
    (hurl : validateDownloadUrl call.url = .ok ())
    (hsize : call.expectedSize = some (size : ℤ))
    (hlocked : (locked digests call size (w.openPart.monotonic + 8 * 10 ^ 9)).run
      ([] : Schedule Move) w.openPart = r)
    (hrest : r.2.2 = []) (hflush : r.2.1.flush = r.2.1) (hended : r.1 ≠ .crashed) :
    (streamDownload digests call).run ([] : Schedule Move) w = r := by
  have hnonneg : ¬ (size : ℤ) < 0 := by omega
  unfold streamDownload
  rw [hurl, hsize]
  simp only [Prog.ofExcept, Prog.run_bind, Prog.run, Prog.extend, if_neg hnonneg, run_observe,
    run_update, Int.toNat_natCast, Prog.run_attempt, hlocked]
  obtain ⟨outcome, w', rest⟩ := r
  dsimp only at hrest hflush hended
  subst hrest
  cases outcome with
  | value n =>
    simp only [Prog.settleResult, run_update, hflush]
    cases call.ownsClient <;> rfl
  | raised e =>
    simp only [Prog.settleResult, run_update, hflush]
    cases call.ownsClient <;> rfl
  | crashed => exact absurd rfl hended

/-- A call that nothing disturbs ends as its transfer ends. -/
theorem run_streamDownload {r : Outcome StreamError ℕ × World × Schedule Move}
    (hurl : validateDownloadUrl call.url = .ok ())
    (hsize : call.expectedSize = some (size : ℤ))
    (hidentity : saved.identity = some (call.fingerprint digests))
    (hlength : content.length ≤ size)
    (hguarded : (guarded digests call size saved (0 + 8 * 10 ^ 9)).run ([] : Schedule Move)
        (desk content [] 0 saved answer served) = r)
    (hrest : r.2.2 = []) (hflush : r.2.1.flush = r.2.1) (hended : r.1 ≠ .crashed) :
    (streamDownload digests call).run ([] : Schedule Move)
        (desk content [] 0 saved answer served) = r := by
  refine run_entered hurl hsize ?_ hrest hflush hended
  rw [desk_openPart]
  exact (run_locked hidentity hlength).trans hguarded

theorem fresh_openPart :
    { World.fresh with answer := answer }.openPart =
      { desk [] [] 0 saved answer [] with checkpoint := none } := by
  have hfiles : (fun ino : ℕ => if ino = 0 then (⟨[], 0⟩ : FileData) else ⟨[], 0⟩) =
      fun ino => ⟨if ino = 0 then [] else [], 0⟩ := by
    funext ino
    by_cases h : ino = 0 <;> simp [h]
  change ({ World.fresh with
    files := fun ino => if ino = 0 then (⟨[], 0⟩ : FileData) else ⟨[], 0⟩
    nextIno := 1
    part := some 0
    handle := ⟨0, 0, []⟩
    answer := answer } : World) = _
  rw [hfiles]
  rfl

/-- The partial file of a first call, before its checkpoint is written. -/
def blank (answer : Option Response) : World :=
  { desk [] [] 0 {} answer [] with checkpoint := none }

theorem blank_truncate : (blank answer).truncate 0 = blank answer := by
  have h : (desk [] [] 0 {} answer []).truncate 0 = desk [] [] 0 {} answer [] := desk_truncate
  exact congrArg (fun w => { w with checkpoint := none }) h

theorem run_firstDownload {r : Outcome StreamError ℕ × World × Schedule Move}
    (hurl : validateDownloadUrl call.url = .ok ())
    (hsize : call.expectedSize = some (size : ℤ))
    (hguarded : (guarded digests call size (newState (call.fingerprint digests))
      (0 + 8 * 10 ^ 9)).run ([] : Schedule Move)
        (desk [] [] 0 (newState (call.fingerprint digests)) answer []) = r)
    (hrest : r.2.2 = []) (hflush : r.2.1.flush = r.2.1) (hended : r.1 ≠ .crashed) :
    (streamDownload digests call).run ([] : Schedule Move)
        { World.fresh with answer := answer } = r := by
  have hopen : { World.fresh with answer := answer }.openPart = blank answer := fresh_openPart
  have hlock : (Prog.look .os fun w => if w.locked then
      .error (.download "同一目标文件已有下载任务") else .ok () : Stream Unit).run
        ([] : Schedule Move) (blank answer) = (.value (), blank answer, []) := rfl
  have hprobe : (probe id : Stream Unit).run ([] : Schedule Move) (blank answer) =
      (.value (), blank answer, []) := rfl
  have hsaved : (blank answer).checkpoint.getD {} = {} := rfl
  have habsent : (blank answer).target.isSome = false := rfl
  have hnone : ¬ ({} : Checkpoint).identity = some (call.fingerprint digests) :=
    fun h => by cases h
  have hunnamed : ¬ truthy ({} : Checkpoint).identity = true := by decide
  have hnew : { blank answer with checkpoint := some (newState (call.fingerprint digests)) } =
      desk [] [] 0 (newState (call.fingerprint digests)) answer [] := rfl
  have hlocked : (locked digests call size (0 + 8 * 10 ^ 9)).run ([] : Schedule Move)
      (blank answer) = r := by
    unfold locked
    simp only [Prog.run_bind, hlock, Prog.extend, hprobe, run_observe, hsaved, habsent]
    rw [if_neg Bool.false_ne_true]
    unfold adopt restart
    rw [if_neg hnone, if_neg hunnamed]
    simp only [Prog.run_bind, run_update, Prog.extend, blank_truncate, Prog.run_pure,
      run_writeCheckpoint]
    exact hguarded
  refine run_entered hurl hsize ?_ hrest hflush hended
  rw [hopen]
  exact hlocked

end MediaSync.DownloadIntegrity
