import MediaSync.DownloadDirectory

/-!
# The transfer of a download

One rule for each part of the transfer, from the pieces of an answer to the
hard link. A part is described by what it answers when it returns; wherever it
raises, the call still works on its own partial file, and wherever the process
stops the directory is sound.
-/
namespace MediaSync.DownloadIntegrity
open FaultPrograms PythonText DownloadStream

variable {digests : Digests} {S : Prop} {identity : String} {state : Checkpoint} {w : World}

/-! ## Rules for the body of a call -/

/-- What a part of the body promises: wherever it stops the directory is
sound, and an error carries a state that may be written out. -/
def bodyPost {α : Type} (digests : Digests) (S : Prop) (identity : String) (V : α → World → Prop) :
    Post World (StreamError × Checkpoint) α where
  value := V
  raised e w := Working digests S identity e.2 w
  refused e w := Working digests S identity e.2 w
  crashed := Directory digests S
  step := Keeps identity

variable {α β : Type} {P : World → Prop}

abbrev BodyMeets (digests : Digests) (S : Prop) (identity : String) (p : Body α)
    (V : α → World → Prop) (w : World) : Prop :=
  Meets Move p (bodyPost digests S identity V) w

/-- One effect of the body, from an assertion that other programs leave alone. -/
theorem body_effect {act : World → Except (StreamError × Checkpoint) α × World}
    {failure : StreamError × Checkpoint} {V : α → World → Prop}
    (hP : Stable P) (hw : P w) (hworking : ∀ w', P w' → Working digests S identity failure.2 w')
    (hact : ∀ w', P w' → Working digests S identity failure.2 (act w').2 ∧
      Keeps identity w' (act w').2 ∧ match (act w').1 with
        | .ok a => V a (act w').2
        | .error e => e.2 = failure.2) :
    BodyMeets digests S identity (Prog.effect failure act) V w := by
  refine Meets.stable_effect (fun move w' => hP w' _ (move_elsewhere move w')) hw
    (fun w' h => (hworking w' h).directory) (fun w' h => ⟨hworking w' h, (hact w' h).1⟩)
    (fun w' h => (hact w' h).2.1) fun w' h => ?_
  obtain ⟨hnext, _, hanswer⟩ := hact w' h
  cases hresult : (act w').1 with
  | ok a =>
    rw [hresult] at hanswer
    exact hanswer
  | error e =>
    rw [hresult] at hanswer
    change Working digests S identity e.2 _ ∧ Working digests S identity e.2 _
    rw [hanswer]
    exact ⟨hnext, hnext⟩

theorem Keeps.refl (identity : String) (w : World) : Keeps identity w w :=
  ⟨fun _ h => ⟨h, fun _ _ => rfl⟩, fun _ => ⟨rfl, rfl, rfl⟩, Nat.le_refl _⟩

theorem sleep_keeps (nanoseconds : ℕ) (w : World) : Keeps identity w (w.sleep nanoseconds) :=
  ⟨fun _ h => ⟨h, fun _ _ => rfl⟩, fun _ => ⟨rfl, rfl, rfl⟩, Nat.le_refl _⟩

/-- An effect that only looks, and may refuse. -/
theorem body_look {view : World → Except (StreamError × Checkpoint) α}
    {failure : StreamError × Checkpoint} {V : α → World → Prop}
    (hP : Stable P) (hw : P w) (hworking : ∀ w', P w' → Working digests S identity failure.2 w')
    (hview : ∀ w', P w' → match view w' with
      | .ok a => V a w'
      | .error e => e.2 = failure.2) :
    BodyMeets digests S identity (Prog.look failure view) V w :=
  body_effect hP hw hworking fun w' h => ⟨hworking w' h, Keeps.refl identity w', hview w' h⟩

theorem body_observe {view : World → α} {V : α → World → Prop}
    (hP : Stable P) (hw : P w) (hworking : ∀ w', P w' → Working digests S identity state w')
    (hview : ∀ w', P w' → V (view w') w') :
    BodyMeets digests S identity (observe (withState state) view) V w :=
  body_look hP hw hworking hview

theorem body_update {next : World → World} {V : Unit → World → Prop}
    (hP : Stable P) (hw : P w) (hworking : ∀ w', P w' → Working digests S identity state w')
    (hnext : ∀ w', P w' → Working digests S identity state (next w') ∧
      Keeps identity w' (next w') ∧ V () (next w')) :
    BodyMeets digests S identity (update (withState state) next) V w :=
  body_effect hP hw hworking hnext

theorem body_syscall {act : World → Except StreamError α × World} {V : α → World → Prop}
    (hP : Stable P) (hw : P w) (hworking : ∀ w', P w' → Working digests S identity state w')
    (hact : ∀ w', P w' → Working digests S identity state (act w').2 ∧
      Keeps identity w' (act w').2 ∧ ∀ a, (act w').1 = .ok a → V a (act w').2) :
    BodyMeets digests S identity (syscall (withState state) act) V w := by
  refine body_effect hP hw hworking fun w' h => ?_
  obtain ⟨hnext, hkeeps, hvalue⟩ := hact w' h
  refine ⟨hnext, hkeeps, ?_⟩
  dsimp only
  cases hresult : (act w').1 with
  | ok a => exact hvalue a hresult
  | error e => rfl

theorem body_bind {p : Body α} {f : α → Body β} {R : α → World → Prop} {V : β → World → Prop}
    (hp : BodyMeets digests S identity p R w)
    (hf : ∀ a w', R a w' → BodyMeets digests S identity (f a) V w') :
    BodyMeets digests S identity (p >>= f) V w := Meets.bind hp hf

theorem body_probe (hP : Stable P) (hw : P w)
    (hworking : ∀ w', P w' → Working digests S identity state w') :
    BodyMeets digests S identity (probe (withState state)) (fun _ => P) w := by
  refine body_bind (R := fun _ => P) ?_ fun _ w' h => ?_
  · refine body_look hP hw hworking fun w' h => ?_
    cases w'.cancelled
    · exact h
    · rfl
  · refine body_look hP h hworking fun w' h => ?_
    cases w'.guardFails
    · exact h
    · rfl

theorem body_reject {V : α → World → Prop} (message : String)
    (hw : Working digests S identity state w) :
    BodyMeets digests S identity (reject (withState state) message) V w :=
  Meets.throw hw hw

theorem body_throw {V : α → World → Prop} (e : StreamError)
    (hw : Working digests S identity state w) :
    BodyMeets digests S identity (throw (e, state)) V w :=
  Meets.throw hw hw

/-! ## Receiving -/

/-- Content is still arriving: `written` bytes stand, all at the end of the file. -/
structure Downloading (digests : Digests) (S : Prop) (identity : String) (state : Checkpoint)
    (written : ℕ) (w : World) : Prop where
  working : Working digests S identity state w
  apart : Apart w
  atEnd : w.handle.position = w.content.length
  written : (whole w).length = written
  undigested : S → ∀ s, w.checkpoint = some s ∨ s = state → s.digestList = []

/-- The answer was given to a request for this download. -/
def Answered (identity : String) (response : Response) (w : World) : Prop :=
  ∃ served ∈ w.served, served.identity = identity ∧ served.response = response

theorem Downloading.stable {written : ℕ} :
    Stable (Downloading digests S identity state written) := by
  intro w w' h hw
  have hlt := hw.working.ino_lt
  refine ⟨Working.stable w w' h hw.working, (Apart.stable w w' h ⟨hlt, hw.apart⟩).2, ?_, ?_, ?_⟩
  · rw [h.handle, h.content hlt]
    exact hw.atEnd
  · rw [h.whole hlt]
    exact hw.written
  · rw [h.checkpoint]
    exact hw.undigested

theorem Answered.stable {response : Response} : Stable (Answered identity response) := by
  intro w w' h hw
  unfold Answered
  rw [h.served]
  exact hw

theorem Rewritten.answered {w' : World} (h : Rewritten w w') {response : Response}
    (hw : Answered identity response w) : Answered identity response w' := by
  unfold Answered
  rw [h.served]
  exact hw

/-- The bytes are what the answer gives from this offset on. -/
def Gives (response : Response) (offset : ℕ) (bytes : Bytes) : Prop :=
  ∀ k b, bytes[k]? = some b → byteAt response (offset + k) = some b

theorem Gives.append {response : Response} {offset : ℕ} {bytes more : Bytes}
    (h : Gives response offset (bytes ++ more)) :
    Gives response offset bytes ∧ Gives response (offset + bytes.length) more := by
  constructor
  · intro k b hb
    refine h k b ?_
    rw [List.getElem?_append_left (List.getElem?_eq_some_iff.mp hb).1]
    exact hb
  · intro k b hb
    rw [Nat.add_assoc]
    refine h (bytes.length + k) b ?_
    rw [List.getElem?_append_right (Nat.le_add_right ..), Nat.add_sub_cancel_left]
    exact hb

theorem gives_body {response : Response} {start : ℕ}
    (h : response.declaredStart = some start) : Gives response start response.body := by
  intro k b hb
  unfold byteAt
  rw [h]
  dsimp only
  rw [if_pos (Nat.le_add_right ..), Nat.add_sub_cancel_left]
  exact hb

theorem write_rewritten (bytes : Bytes) : Rewritten w (w.write bytes) :=
  (withHandle_rewritten ..).trans (spill_rewritten _)

/-- Received bytes are appended to the file. -/
theorem Downloading.write {written : ℕ} {response : Response} {bytes : Bytes}
    (hw : Downloading digests S identity state written w)
    (hanswered : Answered identity response w) (hgives : Gives response written bytes) :
    Downloading digests S identity state (written + bytes.length) (w.write bytes) ∧
      Keeps identity w (w.write bytes) := by
  have h : Rewritten w (w.write bytes) := write_rewritten bytes
  let appended : World :=
    { w with handle := { w.handle with buffer := w.handle.buffer ++ bytes } }
  have hspill := spill_whole (w := appended) (fun _ => hw.atEnd) w.eager
  have hwhole : whole (w.write bytes) = whole w ++ bytes := by
    refine Eq.trans hspill.1 ?_
    change w.content ++ (w.handle.buffer ++ bytes) = _
    rw [← List.append_assoc]
    rfl
  have hend : (w.write bytes).handle.position = (w.write bytes).content.length :=
    hspill.2 hw.atEnd
  have hlength : (whole (w.write bytes)).length = written + bytes.length := by
    rw [hwhole, List.length_append, hw.written]
  have hworking : Working digests S identity state (w.write bytes) := by
    refine hw.working.rewritten h (fun _ => ⟨hw.apart, hend⟩) ?_
      (fun hS s hs => .inl (hw.undigested hS s hs))
    intro offset b hb
    rw [hwhole, List.getElem?_append] at hb
    split at hb
    · exact hw.working.sent offset b hb
    · rename_i hge
      obtain ⟨served, hmem, hid, hresponse⟩ := hanswered
      refine ⟨served, hmem, hid, ?_⟩
      rw [hresponse]
      have hbyte := hgives _ b hb
      rw [hw.written] at hbyte hge
      rwa [Nat.add_sub_cancel' (Nat.not_lt.mp hge)] at hbyte
  refine ⟨⟨hworking, h.apart hw.apart, hend, hlength, ?_⟩,
    hw.working.keeps h (.inr hw.apart.target)⟩
  rw [h.checkpoint]
  exact hw.undigested

theorem body_throttle (call : Call) (received started : ℕ) (fuel : ℕ) (hP : Stable P)
    (hworking : ∀ w', P w' → Working digests S identity state w') (hw : P w) :
    BodyMeets digests S identity (throttle call state received started fuel) (fun _ => P) w := by
  induction fuel generalizing w with
  | zero => exact Meets.pure hw
  | succ fuel ih =>
    unfold throttle
    refine body_bind (R := fun _ => P) (body_observe hP hw hworking fun _ h => h) ?_
    intro now w' h
    split
    · exact Meets.pure h
    · refine body_bind (R := fun _ => P) (body_probe hP h hworking) fun _ w' h => ?_
      refine body_bind (R := fun _ => P) ?_ fun _ w' h => ih h
      refine body_update hP h hworking fun w' h => ?_
      have hnext (n : ℕ) : P (w'.sleep n) := hP w' _ (sleep_elsewhere n w') h
      exact ⟨hworking _ (hnext _), sleep_keeps _ w', hnext _⟩

theorem pieces_flatten {size fuel : ℕ} {bytes : Bytes} (hsize : 0 < size)
    (hfuel : bytes.length ≤ fuel) : (pieces size fuel bytes).flatten = bytes := by
  induction fuel generalizing bytes with
  | zero =>
    rw [List.eq_nil_of_length_eq_zero (Nat.le_zero.mp hfuel)]
    rfl
  | succ fuel ih =>
    unfold pieces
    split
    · rename_i hnil
      rw [hnil]
      rfl
    · rename_i hne
      have hpos := List.length_pos_iff.mpr hne
      have hrest : (bytes.drop size).length ≤ fuel := by
        rw [List.length_drop]
        omega
      rw [List.flatten_cons, ih hrest, List.take_append_drop]

theorem readSize_pos (call : Call) : 0 < readSize call := by
  unfold readSize
  split <;> omega

/-- Every piece the loop writes is what the answer gives at that place. -/
theorem body_save {call : Call} {expectedSize deadline responseEnd started written received : ℕ}
    {response : Response} {rest : List Bytes} (hgives : Gives response written rest.flatten)
    (hw : Downloading digests S identity state written w ∧ Answered identity response w) :
    BodyMeets digests S identity
      (save call expectedSize deadline state responseEnd started rest written received)
      (Downloading digests S identity state) w := by
  induction rest generalizing written received w with
  | nil =>
    have hP : Stable (Downloading digests S identity state written) := Downloading.stable
    refine body_bind (R := fun _ => Downloading digests S identity state written) ?_
      fun _ w' h => Meets.pure h
    exact body_look hP hw.1 (fun _ h => h.working) fun _ h => h
  | cons content rest ih =>
    obtain ⟨hpiece, hrest⟩ := hgives.append
    have hP (n : ℕ) : Stable fun w => Downloading digests S identity state n w ∧
        Answered identity response w := Downloading.stable.and Answered.stable
    have hworking (n : ℕ) (w' : World) (h : Downloading digests S identity state n w' ∧
        Answered identity response w') : Working digests S identity state w' := h.1.working
    unfold save
    refine body_bind (R := fun _ w => Downloading digests S identity state written w ∧
      Answered identity response w)
      (body_look (hP written) hw (hworking written) fun _ h => h) ?_
    intro _ w' h
    refine body_bind (body_probe (hP written) h (hworking written)) fun _ w' h => ?_
    split
    · exact body_reject _ h.1.working
    · refine body_bind (R := fun _ w => Downloading digests S identity state
        (written + content.length) w ∧ Answered identity response w) ?_ ?_
      · refine body_update (hP written) h (hworking written) fun w' h => ?_
        obtain ⟨hnext, hkeeps⟩ := h.1.write h.2 hpiece
        exact ⟨hnext.working, hkeeps, hnext, (write_rewritten content).answered h.2⟩
      intro _ w' h
      refine body_bind (R := fun _ w => Downloading digests S identity state
        (written + content.length) w ∧ Answered identity response w)
        (body_look (hP _) h (hworking _) fun _ h => h) fun _ w' h => ?_
      have hloop (w' : World) (h : Downloading digests S identity state
          (written + content.length) w' ∧ Answered identity response w') :
          BodyMeets digests S identity
            (untilDeadline call expectedSize deadline state (written + content.length)
              (save call expectedSize deadline state responseEnd started rest
                (written + content.length) (received + content.length)))
            (Downloading digests S identity state) w' := by
        unfold untilDeadline
        split
        · refine body_bind (R := fun _ w => Downloading digests S identity state
            (written + content.length) w ∧ Answered identity response w)
            (body_observe (hP _) h (hworking _) fun _ h => h) ?_
          intro now w' h
          split
          · exact body_throw _ h.1.working
          · exact ih hrest h
        · exact ih hrest h
      dsimp only
      split
      · refine body_bind ?_ fun _ w' h => hloop w' h
        exact body_throttle call _ _ _ (hP _) (hworking _) h
      · exact hloop w' h

/-- A new state in memory for the same download. -/
theorem Working.withState {next : Checkpoint} (hw : Working digests S identity state w)
    (hidentity : next.identity = state.identity)
    (hpublished : ∀ p, next.publishedIdentity = some p → p.ino < w.nextIno)
    (hdescribed : S → next.digestList = [] ∨ w.handle.buffer = [] ∧
      (w.content = [] ∨ Describes digests next.digestList w.content)) :
    Working digests S identity next w := by
  refine ⟨hw.ino_lt, hw.part, hw.target_lt, hw.pending, hw.saved, ?_,
    hidentity.trans hw.own, hw.sent, ?_⟩
  · intro s hs
    rcases hs with hs | hs
    · exact hw.sane s (.inl hs)
    · rw [hs]
      refine ⟨fun id hid => ?_, hpublished⟩
      exact (hw.sane state (.inr rfl)).named id (hidentity ▸ hid)
  · intro hS s hs
    rcases hs with hs | hs
    · exact hw.described hS s (.inl hs)
    · rw [hs]
      exact hdescribed hS

/-- The file is as it stands in `content`, with nothing in the buffer. -/
structure Standing (digests : Digests) (S : Prop) (identity : String) (state : Checkpoint)
    (content : Bytes) (position : ℕ) (w : World) : Prop where
  working : Working digests S identity state w
  apart : Apart w
  buffer : w.handle.buffer = []
  content : w.content = content
  position : w.handle.position = position

theorem Standing.stable {content : Bytes} {position : ℕ} :
    Stable (Standing digests S identity state content position) := by
  intro w w' h hw
  have hlt := hw.working.ino_lt
  refine ⟨Working.stable w w' h hw.working, (Apart.stable w w' h ⟨hlt, hw.apart⟩).2, ?_, ?_, ?_⟩
  · rw [h.handle]
    exact hw.buffer
  · rw [h.content hlt]
    exact hw.content
  · rw [h.handle]
    exact hw.position

/-- No digest is stored or in memory. -/
def Undigested (S : Prop) (state : Checkpoint) (w : World) : Prop :=
  S → ∀ s, w.checkpoint = some s ∨ s = state → s.digestList = []

theorem Undigested.stable : Stable (Undigested S state) := by
  intro w w' h hw
  unfold Undigested
  rw [h.checkpoint]
  exact hw

theorem flush_standing (hw : Working digests S identity state w) (hapart : Apart w) :
    Standing digests S identity state (whole w) w.flush.handle.position w.flush :=
  ⟨hw.flush.1, (spill_rewritten _ : Rewritten w w.flush).apart hapart, flush_buffer,
    flush_content hw.ready, rfl⟩

theorem seek_standing (hw : Working digests S identity state w) (hapart : Apart w)
    (position : ℕ) :
    Standing digests S identity state (whole w) position (w.seek position) :=
  ⟨(hw.seek position).1, (seek_rewritten position).apart hapart, flush_buffer,
    flush_content hw.ready, rfl⟩

theorem Standing.whole {content : Bytes} {position : ℕ}
    (h : Standing digests S identity state content position w) : whole w = content := by
  unfold DownloadIntegrity.whole
  rw [h.buffer, List.append_nil]
  exact h.content

theorem truncate_standing {content : Bytes} {position : ℕ}
    (hw : Standing digests S identity state content position w) :
    Standing digests S identity state [] position (w.truncate 0) := by
  refine ⟨(hw.working.truncate hw.apart).1, (truncate_rewritten 0).apart hw.apart,
    truncate_buffer 0, truncate_content, ?_⟩
  change w.flush.handle.position = position
  rw [flush_of_empty hw.buffer]
  exact hw.position

/-- A file that is being written again from its beginning. -/
theorem Standing.downloading {content : Bytes}
    (h : Standing digests S identity state content content.length w)
    (hundigested : Undigested S state w) :
    Downloading digests S identity state content.length w := by
  refine ⟨h.working, h.apart, ?_, ?_, hundigested⟩
  · rw [h.position, h.content]
  · rw [h.whole]

theorem Rewritten.undigested {w' : World} (h : Rewritten w w') (hw : Undigested S state w) :
    Undigested S state w' := by
  unfold Undigested
  rw [h.checkpoint]
  exact hw

theorem acceptedRange_ok {expectedSize start last responseEnd : ℕ} {header : String}
    (h : acceptedRange expectedSize start last header = .ok (some responseEnd)) :
    (do let groups ← rangeGroups header; intOfDigits groups.1) = some start ∧
      start < responseEnd ∧ responseEnd ≤ last + 1 := by
  unfold acceptedRange at h
  split at h
  · cases h
  rename_i first final total hgroups
  split at h
  · cases h
  rename_i n hfirst
  split at h
  · cases h
  rename_i hstart
  split at h
  · cases h
  rename_i m hfinal
  split at h
  · cases h
  rename_i hrange
  split at h
  · cases h
  split at h
  · cases h
  cases h
  rw [not_not] at hstart hrange
  refine ⟨?_, Nat.lt_succ_of_le hrange.1, Nat.succ_le_succ hrange.2⟩
  rw [hgroups, ← hstart]
  exact hfirst

theorem body_startOver {start : ℕ} {response : Response}
    (hw : Downloading digests S identity state start w ∧ Answered identity response w) :
    BodyMeets digests S identity (startOver state start)
      (fun r w => Downloading digests S identity r.2 r.1 w ∧ Answered identity response w ∧
        r.1 = 0) w := by
  unfold startOver
  split
  · have hP (content : Bytes) : Stable fun w =>
        Standing digests S identity state content 0 w ∧ Undigested S state w ∧
          Answered identity response w :=
      Standing.stable.and (Undigested.stable.and Answered.stable)
    have hstable : Stable fun w => Downloading digests S identity state start w ∧
        Answered identity response w := Downloading.stable.and Answered.stable
    refine body_bind (R := fun _ w => ∃ content,
      Standing digests S identity state content 0 w ∧ Undigested S state w ∧
        Answered identity response w) ?_ fun _ w' h => ?_
    · refine body_update hstable hw (fun _ h => h.1.working) fun w' h => ?_
      have hseek := seek_rewritten (w := w') 0
      exact ⟨(h.1.working.seek 0).1, (h.1.working.seek 0).2, whole w',
        seek_standing h.1.working h.1.apart 0, hseek.undigested h.1.undigested,
        hseek.answered h.2⟩
    obtain ⟨content, h⟩ := h
    refine body_bind (R := fun _ w => Standing digests S identity state [] 0 w ∧
      Undigested S state w ∧ Answered identity response w) ?_ fun _ w' h => ?_
    · refine body_update (hP content) h (fun _ h => h.1.working) fun w' h => ?_
      have htruncate := truncate_rewritten (w := w') 0
      exact ⟨(h.1.working.truncate h.1.apart).1, (h.1.working.truncate h.1.apart).2,
        truncate_standing h.1, htruncate.undigested h.2.1, htruncate.answered h.2.2⟩
    · refine Meets.pure ⟨?_, h.2.2, rfl⟩
      have hcleared := h.1.downloading h.2.1
      refine ⟨hcleared.working.withState rfl
        (hcleared.working.sane state (.inr rfl)).published fun _ => .inl rfl,
        hcleared.apart, hcleared.atEnd, hcleared.written, ?_⟩
      intro hS s hs
      rcases hs with hs | hs
      · exact h.2.1 hS s (.inl hs)
      · rw [hs]
        rfl
  · rename_i hstart
    exact Meets.pure ⟨hw.1, hw.2, not_not.mp hstart⟩

/-- Where the bytes of an accepted answer belong. -/
theorem body_placed {call : Call} {expectedSize start last : ℕ} {response : Response}
    (hlast : last < expectedSize)
    (hw : Downloading digests S identity state start w ∧ Answered identity response w) :
    BodyMeets digests S identity (placed call expectedSize state start last response)
      (fun r w => Downloading digests S identity r.2.2 r.2.1 w ∧
        Answered identity response w ∧ response.declaredStart = some r.2.1 ∧
        r.1 ≤ expectedSize) w := by
  unfold placed
  split
  · rename_i hstatus
    split
    · exact body_throw _ hw.1.working
    · exact body_reject _ hw.1.working
    · rename_i responseEnd hrange
      obtain ⟨hstart, -, hend⟩ := acceptedRange_ok hrange
      refine Meets.pure ⟨hw.1, hw.2, ?_, by omega⟩
      unfold Response.declaredStart
      rw [if_pos hstatus]
      exact hstart
  · rename_i hpartial
    split
    · rename_i hstatus
      have hdeclared : response.declaredStart = some 0 := by
        unfold Response.declaredStart
        rw [if_neg hpartial, if_pos hstatus]
      refine body_bind (body_startOver hw) fun r w' h => ?_
      obtain ⟨hdownloading, hanswered, hzero⟩ := h
      dsimp only
      split
      · exact body_reject _ hdownloading.working
      · exact Meets.pure ⟨hdownloading, hanswered, hzero ▸ hdeclared, Nat.le_refl _⟩
    · exact body_reject _ hw.1.working

/-- What the network part answers: how much of the file stands. -/
def Received (digests : Digests) (S : Prop) (identity : String) (expectedSize : ℕ)
    (r : ℕ × Checkpoint) (w : World) : Prop :=
  Downloading digests S identity r.2 r.1 w ∧ r.1 ≤ expectedSize

theorem body_receive {call : Call} {expectedSize deadline start last : ℕ} {response : Response}
    (hlast : last < expectedSize)
    (hw : Downloading digests S identity state start w ∧ Answered identity response w) :
    BodyMeets digests S identity
      (receive call expectedSize deadline state start last response)
      (Received digests S identity expectedSize) w := by
  unfold receive
  split
  · exact body_reject _ hw.1.working
  · refine body_bind (body_placed hlast hw) fun r w' h => ?_
    obtain ⟨responseEnd, written, state'⟩ := r
    obtain ⟨hdownloading, hanswered, hdeclared, hend⟩ := h
    dsimp only at hdownloading hdeclared hend ⊢
    have hP : Stable fun w => Downloading digests S identity state' written w ∧
        Answered identity response w := Downloading.stable.and Answered.stable
    refine body_bind (R := fun _ w => Downloading digests S identity state' written w ∧
      Answered identity response w)
      (body_observe hP ⟨hdownloading, hanswered⟩ (fun _ h => h.1.working) fun _ h => h) ?_
    intro started w' h
    have hgives : Gives response written
        (pieces (readSize call) response.body.length response.body).flatten := by
      rw [pieces_flatten (readSize_pos call) (Nat.le_refl _)]
      exact gives_body hdeclared
    refine body_bind (body_save hgives h) fun n w' h => ?_
    · split
      · exact body_reject _ h.working
      · rename_i hn
        rw [not_not] at hn
        exact Meets.pure ⟨h, hn ▸ hend⟩

/-- An answer is recorded with the download it was asked for. -/
theorem Downloading.answered {written : ℕ}
    (hw : Downloading digests S identity state written w) (served : Served) :
    Downloading digests S identity state written
        { w with answer := none, served := served :: w.served } ∧
      Keeps identity w { w with answer := none, served := served :: w.served } := by
  have hworking : Working digests S identity state
      { w with answer := none, served := served :: w.served } := by
    refine ⟨hw.working.ino_lt, hw.working.part, hw.working.target_lt, ?_, hw.working.saved,
      hw.working.sane, hw.working.own, ?_, hw.working.described⟩
    · intro hbuffer
      exact ⟨⟨hw.apart.part, hw.apart.target⟩, hw.atEnd⟩
    · intro offset b hb
      obtain ⟨s, hs, hsent⟩ := hw.working.sent offset b hb
      exact ⟨s, List.mem_cons_of_mem _ hs, hsent⟩
  refine ⟨⟨hworking, ⟨hw.apart.part, hw.apart.target⟩, hw.atEnd, hw.written, hw.undigested⟩, ?_⟩
  exact ⟨fun entry hentry => ⟨hentry, fun _ _ => rfl⟩,
    fun hforeign => absurd hforeign hw.working.not_foreign, Nat.le_refl _⟩

theorem body_ask {call : Call} {start : ℕ} {url : Url} {range : Option (ℕ × ℕ)}
    (hidentity : call.fingerprint digests = identity)
    (hw : Downloading digests S identity state start w) :
    BodyMeets digests S identity (ask digests call state url range)
      (fun response w => Downloading digests S identity state start w ∧
        Answered identity response w) w := by
  refine body_effect Downloading.stable hw (fun _ h => h.working) fun w' h => ?_
  cases hanswer : w'.answer with
  | none => exact ⟨h.working, Keeps.refl identity w', rfl⟩
  | some response =>
    have hnext := h.answered ⟨call.fingerprint digests, url, range, response⟩
    exact ⟨hnext.1.working, hnext.2, hnext.1, _, List.mem_cons_self .., hidentity, rfl⟩

theorem body_ofExcept {e : Except (StreamError × Checkpoint) α} {V : α → World → Prop}
    (h : match e with
      | .ok a => V a w
      | .error e => Working digests S identity e.2 w) :
    BodyMeets digests S identity (Prog.ofExcept e) V w := by
  refine Meets.ofExcept ?_
  cases e with
  | ok a => exact h
  | error e => exact ⟨h, h⟩

theorem body_fetch {call : Call} {expectedSize deadline start last : ℕ} {url : Url}
    {rounds : ℕ} (hidentity : call.fingerprint digests = identity) (hlast : last < expectedSize)
    (hstart : start ≤ expectedSize) (hw : Downloading digests S identity state start w) :
    BodyMeets digests S identity
      (fetch digests call expectedSize deadline state start last rounds url)
      (Received digests S identity expectedSize) w := by
  induction rounds generalizing url w with
  | zero => exact Meets.pure ⟨hw, hstart⟩
  | succ rounds ih =>
    unfold fetch
    refine body_bind (R := fun _ => Downloading digests S identity state start) ?_
      fun _ w' h => ?_
    · refine body_ofExcept ?_
      cases validateDownloadUrl url with
      | ok _ => exact hw
      | error e => exact hw.working
    refine body_bind (body_ask hidentity h) fun response w' h => ?_
    split
    · split
      · exact body_reject _ h.1.working
      · split
        · exact body_reject _ h.1.working
        · exact ih h.1
    · exact body_receive hlast h

/-! ## Verifying -/

variable {content : Bytes}

/-- What the verification has so far. -/
def Verified (digests : Digests) (S : Prop) (state : Checkpoint) (content : Bytes)
    (position : ℕ) : Prop :=
  S → Describes digests state.digestList content ∧
    position = min (state.digestList.length * blockSize content.length) content.length

theorem read_standing {position : ℕ}
    (hw : Standing digests S identity state content position w) (size : ℕ) :
    w.readable size = (content.drop position).take size ∧
      Standing digests S identity state content
        (position + ((content.drop position).take size).length) (w.read size) := by
  have hreadable : w.readable size = (content.drop position).take size := by
    unfold World.readable
    rw [flush_of_empty hw.buffer, hw.position, hw.content]
  refine ⟨hreadable, ?_⟩
  have hseek := seek_standing hw.working hw.apart (position + (w.readable size).length)
  unfold World.read
  rw [flush_of_empty hw.buffer, hw.position, ← hreadable]
  rwa [hw.whole] at hseek

theorem Verified.extend {position : ℕ} {state : Checkpoint}
    (h : Verified digests S state content position) (hlt : position < content.length) :
    Verified digests S
      { state with digests := some (state.digestList ++ [hexDigest (digests.sha1
        ((content.drop position).take
          (min (blockSize content.length) (content.length - position))))]) }
      content
      (position + ((content.drop position).take
        (min (blockSize content.length) (content.length - position))).length) := by
  intro hS
  obtain ⟨hdescribed, hposition⟩ := h hS
  have hpos := blockSize_pos content.length
  have hblock : position = state.digestList.length * blockSize content.length := by omega
  have hread := read_block content state.digestList.length
  rw [← hblock] at hread
  have hnext := hdescribed.extend (by omega)
  constructor
  · change Describes digests (state.digestList ++ [_]) content
    rw [hread]
    exact hnext
  · change _ = min ((state.digestList ++ [_]).length * _) _
    rw [List.length_append, List.length_singleton, Nat.succ_mul, ← hblock, List.length_take,
      List.length_drop]
    omega

/-- The verification loop ends with the digests of the whole file. -/
theorem body_verifyBlocks {call : Call} {deadline fuel position checked : ℕ}
    (hfuel : content.length ≤ position + fuel)
    (hw : Standing digests S identity state content position w)
    (hverified : Verified digests S state content position) :
    BodyMeets digests S identity
      (verifyBlocks digests call content.length deadline (blockSize content.length) fuel state
        position checked)
      (fun state w => ∃ position, Standing digests S identity state content position w ∧
        content.length ≤ position ∧ Verified digests S state content position) w := by
  induction fuel generalizing state position checked w with
  | zero => exact Meets.pure ⟨position, hw, hfuel, hverified⟩
  | succ fuel ih =>
    unfold verifyBlocks
    split
    · rename_i hdone
      exact Meets.pure ⟨position, hw, hdone, hverified⟩
    rename_i hmore
    refine body_bind (body_probe Standing.stable hw fun _ h => h.working) fun _ w' h => ?_
    refine body_bind (R := fun bytes w => bytes = (content.drop position).take
        (min (blockSize content.length) (content.length - position)) ∧
      Standing digests S identity state content (position + bytes.length) w) ?_
      fun bytes w' h => ?_
    · refine body_syscall Standing.stable h (fun _ h => h.working) fun w' h => ?_
      obtain ⟨hreadable, hread⟩ := read_standing h
        (min (blockSize content.length) (content.length - position))
      refine ⟨hread.working, h.working.keeps (seek_rewritten _) (.inl ?_), fun bytes hbytes => ?_⟩
      · change w'.flush.data = w'.data
        rw [flush_of_empty h.buffer]
      · rw [← Except.ok.inj hbytes, hreadable]
        exact ⟨rfl, hread⟩
    · obtain ⟨hbytes, h⟩ := h
      split
      · exact body_reject _ h.working
      · rename_i hne
        have hlength := List.length_pos_iff.mpr hne
        have hnext := hverified.extend (Nat.not_le.mp hmore)
        rw [← hbytes] at hnext
        have hstanding : Standing digests S identity
            { state with digests := some (state.digestList ++ [hexDigest (digests.sha1 bytes)]) }
            content (position + bytes.length) w' := by
          refine ⟨h.working.withState rfl (h.working.sane state (.inr rfl)).published ?_,
            h.apart, h.buffer, h.content, h.position⟩
          intro hS
          rw [h.content]
          exact .inr ⟨h.buffer, .inr (hnext hS).1⟩
        have hrest : content.length ≤ position + bytes.length + fuel := by omega
        dsimp only
        split
        · split
          · exact body_throw _ hstanding.working
          · refine body_bind (R := fun _ => Standing digests S identity _ content
              (position + bytes.length)) (body_observe Standing.stable hstanding
              (fun _ h => h.working) fun _ h => h) fun now w' h => ?_
            split
            · exact body_throw _ h.working
            · exact ih hrest h hnext
        · exact ih hrest hstanding hnext

/-- The supplied hash, if there is one, is the content's. -/
def Authentic (digests : Digests) (call : Call) (content : Bytes) : Prop :=
  ∀ hash, call.expectedHash = some hash → sameHash (gcid digests content) hash

theorem Standing.withDigests {position : ℕ} {texts : Option (List String)}
    (hw : Standing digests S identity state content position w)
    (hdescribed : S → texts.getD [] = [] ∨ Describes digests (texts.getD []) content) :
    Standing digests S identity { state with digests := texts } content position w := by
  refine ⟨hw.working.withState rfl (hw.working.sane state (.inr rfl)).published ?_,
    hw.apart, hw.buffer, hw.content, hw.position⟩
  intro hS
  rcases hdescribed hS with hnil | hdescribed
  · exact .inl hnil
  · rw [hw.content]
    exact .inr ⟨hw.buffer, .inr hdescribed⟩

theorem body_verify {call : Call} {deadline position : ℕ}
    (hw : Standing digests S identity state content position w)
    (hdescribed : S → Describes digests state.digestList content) :
    BodyMeets digests S identity (verify digests call content.length deadline state)
      (fun state w => (∃ position, Standing digests S identity state content position w) ∧
        (S → Authentic digests call content)) w := by
  unfold verify
  split
  · rename_i hnone
    refine Meets.pure ⟨⟨position, hw⟩, fun _ hash hhash => ?_⟩
    rw [hnone] at hhash
    cases hhash
  rename_i expectedHash hhash
  split
  · exact body_reject _ hw.working
  have hnext : Standing digests S identity { state with digests := some state.digestList }
      content position w := hw.withDigests fun hS => .inr (hdescribed hS)
  let start := min (state.digestList.length * blockSize content.length) content.length
  refine body_bind (R := fun _ => Standing digests S identity
    { state with digests := some state.digestList } content start) ?_ fun _ w' h => ?_
  · refine body_update Standing.stable hnext (fun _ h => h.working) fun w' h => ?_
    have hseek := seek_standing h.working h.apart start
    rw [h.whole] at hseek
    exact ⟨hseek.working, (h.working.seek start).2, hseek⟩
  have hfuel : content.length ≤ start + (content.length - start) := by omega
  refine body_bind (body_verifyBlocks hfuel h fun hS => ⟨hdescribed hS, rfl⟩) ?_
  intro verified w' h
  obtain ⟨reached, hstanding, hend, hverified⟩ := h
  split
  · exact body_throw _ hstanding.working
  rename_i actual hactual
  split
  · rename_i hsame
    refine Meets.pure ⟨⟨reached, hstanding⟩, fun hS hash hgiven => ?_⟩
    rw [hhash, Option.some.injEq] at hgiven
    obtain ⟨hdescribes, hreached⟩ := hverified hS
    have hcount := hdescribes.complete (by omega)
    rw [hdescribes.gcidOf hcount, Option.some.injEq] at hactual
    unfold sameHash
    rw [hactual, hsame, hgiven]
  · refine body_bind (R := fun _ => Standing digests S identity verified content 0) ?_
      fun _ w' h => ?_
    · refine body_update Standing.stable hstanding (fun _ h => h.working) fun w' h => ?_
      have hseek := seek_standing h.working h.apart 0
      rw [h.whole] at hseek
      exact ⟨hseek.working, (h.working.seek 0).2, hseek⟩
    refine body_bind (R := fun _ => Standing digests S identity verified [] 0) ?_
      fun _ w' h => ?_
    · refine body_update Standing.stable h (fun _ h => h.working) fun w' h => ?_
      exact ⟨(h.working.truncate h.apart).1, (h.working.truncate h.apart).2,
        truncate_standing h⟩
    · exact body_reject _ (h.withDigests fun _ => .inl rfl).working

/-! ## Publication -/

/-- The target is a complete file whose hash was checked. -/
structure Published (digests : Digests) (S : Prop) (call : Call) (size : ℕ) (w : World) :
    Prop where
  buffer : w.handle.buffer = []
  target : ∃ ino, w.target = some (.file ino) ∧ (w.files ino).content.length = size ∧
    (S → Authentic digests call (w.files ino).content)

variable {call : Call} {size : ℕ}

theorem Published.elsewhere {w' : World} (hw : Published digests S call size w)
    (h : Elsewhere w w') (hlt : ∀ ino, w.target = some (.file ino) → ino < w.nextIno) :
    Published digests S call size w' := by
  obtain ⟨hbuffer, ino, htarget, hfile⟩ := hw
  refine ⟨?_, ino, ?_, ?_⟩
  · rw [h.handle]
    exact hbuffer
  · rcases h.target with hsame | ⟨habsent, _⟩
    · rw [hsame]
      exact htarget
    · rw [htarget] at habsent
      cases habsent
  · rw [h.files ino (hlt ino htarget)]
    exact hfile

theorem Published.stable : Stable fun w => Working digests S identity state w ∧
    Published digests S call size w :=
  fun w w' h hw => ⟨Working.stable w w' h hw.1, hw.2.elsewhere h hw.1.target_lt⟩

theorem Working.checkpointed (hw : Working digests S identity state w) :
    Working digests S identity state { w with checkpoint := some state } ∧
      Keeps identity w { w with checkpoint := some state } := by
  constructor
  · have hsame (s : Checkpoint) (hs : some state = some s ∨ s = state) : s = state := by
      rcases hs with hs | hs
      · exact (Option.some.inj hs).symm
      · exact hs
    refine ⟨hw.ino_lt, hw.part, hw.target_lt, ?_, ⟨state, rfl, hw.own⟩, ?_, hw.own, ?_, ?_⟩
    · intro hbuffer
      obtain ⟨hapart, hposition⟩ := hw.pending hbuffer
      exact ⟨⟨hapart.part, hapart.target⟩, hposition⟩
    · intro s hs
      exact hw.sane s (.inr (hsame s hs))
    · exact hw.sent
    · intro hS s hs
      exact hw.described hS s (.inr (hsame s hs))
  · exact ⟨fun _ hentry => ⟨hentry, fun _ _ => rfl⟩,
      fun hforeign => absurd hforeign hw.not_foreign, Nat.le_refl _⟩

theorem body_writeCheckpoint (hP : Stable P)
    (hworking : ∀ w', P w' → Working digests S identity state w')
    (hnext : ∀ w', P w' → P { w' with checkpoint := some state }) (hw : P w) :
    BodyMeets digests S identity (writeCheckpoint (withState state) state) (fun _ => P) w := by
  refine body_bind (R := fun _ => P) (body_observe hP hw hworking fun _ h => h) fun _ w' h => ?_
  refine body_update hP h hworking fun w' h => ?_
  exact ⟨(hworking w' h).checkpointed.1, (hworking w' h).checkpointed.2, hnext w' h⟩

theorem Standing.checkpointed {position : ℕ}
    (hw : Standing digests S identity state content position w) :
    Standing digests S identity state content position { w with checkpoint := some state } :=
  ⟨hw.working.checkpointed.1, ⟨hw.apart.part, hw.apart.target⟩, hw.buffer, hw.content,
    hw.position⟩

/-- The hard link makes the verified file the target. -/
theorem Standing.linked {position : ℕ}
    (hw : Standing digests S identity state content position w)
    (hauthentic : S → Authentic digests call content) :
    Working digests S identity state { w with target := some (.file w.handle.ino) } ∧
      Published digests S call content.length
        { w with target := some (.file w.handle.ino) } := by
  constructor
  · refine ⟨hw.working.ino_lt, hw.working.part, ?_, fun hne => absurd hw.buffer hne,
      hw.working.saved, hw.working.sane, hw.working.own, hw.working.sent,
      hw.working.described⟩
    intro ino hino
    rw [← Entry.file.inj (Option.some.inj hino)]
    exact hw.working.ino_lt
  · refine ⟨hw.buffer, w.handle.ino, rfl, ?_, ?_⟩
    · exact congrArg List.length hw.content
    · intro hS
      have hcontent : (w.files w.handle.ino).content = content := hw.content
      rw [hcontent]
      exact hauthentic hS

theorem Working.unlinked (hw : Working digests S identity state w)
    (hbuffer : w.handle.buffer = []) :
    Working digests S identity state { w with part := none } ∧
      Keeps identity w { w with part := none } := by
  constructor
  · exact ⟨hw.ino_lt, fun _ h => absurd h (by simp), hw.target_lt,
      fun hne => absurd hbuffer hne, hw.saved, hw.sane, hw.own, hw.sent, hw.described⟩
  · exact ⟨fun _ hentry => ⟨hentry, fun _ _ => rfl⟩,
      fun hforeign => absurd hforeign hw.not_foreign, Nat.le_refl _⟩

/-- What a transfer that ends well leaves. -/
def Transferred (digests : Digests) (S : Prop) (identity : String) (call : Call) (size : ℕ)
    (r : ℕ × Checkpoint) (w : World) : Prop :=
  Working digests S identity r.2 w ∧ Published digests S call size w

theorem body_publish {position : ℕ} {written : ℕ}
    (hauthentic : S → Authentic digests call content)
    (hw : Standing digests S identity state content position w) :
    BodyMeets digests S identity (publish state written)
      (Transferred digests S identity call content.length) w := by
  have hP : Stable (Standing digests S identity state content position) := Standing.stable
  unfold publish
  refine body_bind (body_probe hP hw fun _ h => h.working) fun _ w' h => ?_
  refine body_bind (R := fun _ => Standing digests S identity state content position) ?_
    fun _ w' h => ?_
  · refine body_update hP h (fun _ h => h.working) fun w' h => ?_
    rw [flush_of_empty h.buffer]
    exact ⟨h.working, Keeps.refl identity w', h⟩
  refine body_bind (R := fun _ => Standing digests S identity state content position)
    (body_observe hP h (fun _ h => h.working) fun _ h => h) fun _ w' h => ?_
  refine body_bind (R := fun published w => Standing digests S identity state content position w ∧
    published.ino < w.nextIno) ?_ fun published w' h => ?_
  · refine body_syscall hP h (fun _ h => h.working) fun w' h => ?_
    unfold World.partIdentity
    rw [h.apart.part]
    refine ⟨h.working, Keeps.refl identity w', fun published hpublished => ⟨h, ?_⟩⟩
    rw [← Except.ok.inj hpublished]
    exact h.working.ino_lt
  let record : Checkpoint := { state with publishedIdentity := some published, digests := none }
  have hrecord : Standing digests S identity record content position w' := by
    refine ⟨h.1.working.withState rfl ?_ fun _ => .inl rfl, h.1.apart, h.1.buffer, h.1.content,
      h.1.position⟩
    intro p hp
    rw [← Option.some.inj hp]
    exact h.2
  have hP : Stable (Standing digests S identity record content position) := Standing.stable
  refine body_bind (body_writeCheckpoint hP (fun _ h => h.working) (fun _ h => h.checkpointed)
    hrecord) fun _ w' h => ?_
  refine body_bind (body_probe hP h fun _ h => h.working) fun _ w' h => ?_
  refine body_bind (R := fun _ => Transferred digests S identity call content.length
    (written, record)) ?_ fun _ w' h => ?_
  · refine body_syscall hP h (fun _ h => h.working) fun w' h => ?_
    unfold World.link
    split
    · rename_i ino hpart habsent
      rw [h.working.part ino hpart]
      refine ⟨(h.linked hauthentic).1,
        ⟨?_, fun hforeign => absurd hforeign h.working.not_foreign, Nat.le_refl _⟩,
        fun _ _ => h.linked hauthentic⟩
      intro entry hentry
      rw [habsent] at hentry
      cases hentry
    · exact ⟨h.working, Keeps.refl identity w', fun _ hok => by cases hok⟩
  have hP : Stable (Transferred digests S identity call content.length (written, record)) :=
    Published.stable
  refine body_bind (R := fun _ => Transferred digests S identity call content.length
    (written, record)) ?_ fun _ w' h => ?_
  · refine body_syscall hP h (fun _ h => h.1) fun w' h => ?_
    have hunlinked := h.1.unlinked h.2.buffer
    unfold World.unlinkPart
    split
    · exact ⟨h.1, Keeps.refl identity w', fun _ hok => by cases hok⟩
    · exact ⟨hunlinked.1, hunlinked.2, fun _ _ => ⟨hunlinked.1, h.2.buffer, h.2.target⟩⟩
  refine body_bind (R := fun _ => Transferred digests S identity call content.length
    (written, record)) (body_look hP h (fun _ h => h.1) fun _ h => h) fun _ w' h => ?_
  exact Meets.pure h

/-- The file has its `written` bytes, and what is said of stored digests holds of it. -/
structure Filled (digests : Digests) (S : Prop) (identity : String) (state : Checkpoint)
    (written : ℕ) (w : World) : Prop where
  working : Working digests S identity state w
  apart : Apart w
  written : (whole w).length = written
  described : S → state.digestList = [] ∨
    w.handle.buffer = [] ∧ Describes digests state.digestList w.content

theorem Filled.stable {written : ℕ} : Stable (Filled digests S identity state written) := by
  intro w w' h hw
  have hlt := hw.working.ino_lt
  refine ⟨Working.stable w w' h hw.working, (Apart.stable w w' h ⟨hlt, hw.apart⟩).2, ?_, ?_⟩
  · rw [h.whole hlt]
    exact hw.written
  · rw [h.handle, h.content hlt]
    exact hw.described

theorem Filled.flushed {written : ℕ} (hw : Filled digests S identity state written w) :
    ∃ content position, Standing digests S identity state content position w.flush ∧
      content.length = written ∧ (S → Describes digests state.digestList content) := by
  refine ⟨whole w, _, flush_standing hw.working hw.apart, hw.written, fun hS => ?_⟩
  rcases hw.described hS with hnil | ⟨hbuffer, hdescribed⟩
  · rw [hnil]
    exact describes_nil digests _
  · unfold whole
    rw [hbuffer, List.append_nil]
    exact hdescribed

/-- A file whose stored digests are only there when it is complete. -/
structure Adopted (digests : Digests) (S : Prop) (identity : String) (size : ℕ)
    (state : Checkpoint) (content : Bytes) (w : World) : Prop where
  standing : ∃ position, Standing digests S identity state content position w
  le : content.length ≤ size
  settled : S → ∀ s, w.checkpoint = some s ∨ s = state → s.digestList ≠ [] →
    content ≠ [] ∧ content.length = size

theorem Adopted.stable : Stable (Adopted digests S identity size state content) := by
  intro w w' h hw
  obtain ⟨position, hstanding⟩ := hw.standing
  refine ⟨⟨position, Standing.stable w w' h hstanding⟩, hw.le, ?_⟩
  rw [h.checkpoint]
  exact hw.settled

theorem Adopted.working (hw : Adopted digests S identity size state content w) :
    Working digests S identity state w := hw.standing.choose_spec.working

theorem lastOffset_lt {start : ℕ} (h : start < size) : lastOffset call size start < size := by
  unfold lastOffset
  split <;> omega

/-- The seek to the end with which a transfer begins. -/
theorem Adopted.seekEnd (hw : Adopted digests S identity size state content w) :
    Standing digests S identity state content content.length w.seekEnd ∧
      Keeps identity w w.seekEnd := by
  obtain ⟨position, hstanding⟩ := hw.standing
  have hseek := seek_standing hstanding.working hstanding.apart w.flush.content.length
  rw [hstanding.whole] at hseek
  have hlength : w.flush.content.length = content.length := by
    rw [flush_of_empty hstanding.buffer, hstanding.content]
  refine ⟨?_, (hw.working.seek _).2⟩
  rw [hlength] at hseek
  unfold World.seekEnd
  rwa [hlength]

theorem body_complete {deadline : ℕ} (hidentity : call.fingerprint digests = identity)
    (hw : Standing digests S identity state content content.length w)
    (hsize : content.length ≤ size)
    (hsettled : S → ∀ s, w.checkpoint = some s ∨ s = state → s.digestList ≠ [] →
      content ≠ [] ∧ content.length = size) :
    BodyMeets digests S identity
      (complete digests call size deadline state content.length)
      (fun r w => Filled digests S identity r.2 r.1 w ∧ r.1 ≤ size) w := by
  unfold complete
  split
  · rename_i hlt
    have hundigested : Undigested S state w := by
      intro hS s hs
      refine Classical.byContradiction fun hne => ?_
      have := (hsettled hS s hs hne).2
      omega
    refine Meets.mono (body_fetch hidentity (lastOffset_lt hlt) hsize
      (hw.downloading hundigested)) (fun r w' h => ?_) (fun _ _ h => h) (fun _ _ h => h)
      (fun _ h => h) (fun _ _ h => h)
    exact ⟨⟨h.1.working, h.1.apart, h.1.written, fun hS => .inl (h.1.undigested hS _ (.inr rfl))⟩,
      h.2⟩
  · refine Meets.pure ⟨⟨hw.working, hw.apart, congrArg List.length hw.whole, fun hS => ?_⟩, hsize⟩
    rcases hw.working.described hS state (.inr rfl) with hnil | ⟨hbuffer, hdescribed⟩
    · exact .inl hnil
    · by_cases hnil : state.digestList = []
      · exact .inl hnil
      · rcases hdescribed with hempty | hdescribed
        · exact absurd (hw.content ▸ hempty) (hsettled hS state (.inr rfl) hnil).1
        · exact .inr ⟨hbuffer, hdescribed⟩

/-- The transfer returns only with the whole file verified and published. -/
theorem body_transfer {deadline : ℕ} (hidentity : call.fingerprint digests = identity)
    (hw : Adopted digests S identity size state content w) :
    BodyMeets digests S identity (transfer digests call size deadline state)
      (Transferred digests S identity call size) w := by
  unfold transfer
  refine body_bind (R := fun start w => start = content.length ∧
    Standing digests S identity state content content.length w ∧
      (S → ∀ s, w.checkpoint = some s ∨ s = state → s.digestList ≠ [] →
        content ≠ [] ∧ content.length = size)) ?_ fun start w' h => ?_
  · refine body_syscall Adopted.stable hw (fun _ h => h.working) fun w' h => ?_
    obtain ⟨hseek, hkeeps⟩ := h.seekEnd
    have hcheckpoint : w'.seekEnd.checkpoint = w'.checkpoint :=
      (seek_rewritten _ : Rewritten w' w'.seekEnd).checkpoint
    refine ⟨hseek.working, hkeeps, fun start hstart => ?_⟩
    rw [← Except.ok.inj hstart]
    refine ⟨hseek.position, hseek, ?_⟩
    dsimp only
    rw [hcheckpoint]
    exact h.settled
  obtain ⟨hstart, hstanding, hsettled⟩ := h
  rw [hstart]
  refine body_bind (body_complete hidentity hstanding hw.le hsettled) fun r w' h => ?_
  obtain ⟨written, state'⟩ := r
  obtain ⟨hfilled, hle⟩ := h
  dsimp only at hfilled hle ⊢
  split
  · exact body_throw _ hfilled.working
  rename_i hmissing
  have hwritten : written = size := by omega
  refine body_bind (R := fun _ w => ∃ content position,
    Standing digests S identity state' content position w ∧ content.length = size ∧
      (S → Describes digests state'.digestList content)) ?_ fun _ w' h => ?_
  · refine body_update Filled.stable hfilled (fun _ h => h.working) fun w' h => ?_
    exact ⟨h.working.flush.1, h.working.flush.2, hwritten ▸ h.flushed⟩
  obtain ⟨content', position, hstanding, hlength, hdescribed⟩ := h
  subst hlength
  refine body_bind (body_verify hstanding hdescribed) fun state'' w' h => ?_
  obtain ⟨⟨position', hstanding⟩, hauthentic⟩ := h
  exact body_publish hauthentic hstanding

end MediaSync.DownloadIntegrity
