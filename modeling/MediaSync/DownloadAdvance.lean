import MediaSync.DownloadIntegrity

/-!
# A call that yields

A bounded call whose time is over saves what it has and asks to be called
again. It leaves the partial file longer than it found it or, with all bytes
there, more blocks verified, as long as the server honours the request for the
rest of the file.

One rule for each part of a call says so. The length of the partial file is
followed through its buffer; `K` stands for the runs in which no answer gives
the whole file.
-/
namespace MediaSync.DownloadProgress
open FaultPrograms PythonText DownloadStream DownloadIntegrity

/-- How far a download is: the bytes of its partial file and the blocks
verified of it. -/
structure Progress where
  bytes : ℕ
  blocks : ℕ
  deriving DecidableEq, Repr

def progressOf (w : World) : Progress where
  bytes := (w.partData.map fun data => data.content.length).getD 0
  blocks := (w.checkpoint.getD {}).digestList.length

def Further (before after : Progress) : Prop :=
  before.bytes < after.bytes ∨ after.bytes = before.bytes ∧ before.blocks < after.blocks

/-- `Further`, as a call leaves it: blocks are verified of a complete file only. -/
def Ahead (size : ℕ) (before after : Progress) : Prop :=
  after.bytes ≤ size ∧ (before.bytes < after.bytes ∨ after.bytes = before.bytes ∧
    before.bytes = size ∧ before.blocks * blockSize size < size ∧ before.blocks < after.blocks)

theorem Ahead.further {size : ℕ} {before after : Progress} (h : Ahead size before after) :
    Further before after := by
  rcases h.2 with hbytes | ⟨hbytes, -, -, hblocks⟩
  · exact .inl hbytes
  · exact .inr ⟨hbytes, hblocks⟩

/-- What is left to do, counted in bytes to receive and bytes to verify. -/
def remaining (size : ℕ) (progress : Progress) : ℕ :=
  if progress.bytes < size then 2 * size - progress.bytes
  else size - min (progress.blocks * blockSize size) size

theorem growBlock_pos {size fuel block : ℕ} (h : 0 < block) : 0 < growBlock size fuel block := by
  induction fuel generalizing block with
  | zero => exact h
  | succ fuel ih =>
    unfold growBlock
    split_ifs
    · exact ih (by omega)
    · exact h

theorem blockSize_pos (size : ℕ) : 0 < blockSize size := growBlock_pos (by omega)

theorem Ahead.remaining_lt {size : ℕ} {before after : Progress} (h : Ahead size before after) :
    remaining size after < remaining size before := by
  obtain ⟨hle, hbytes | ⟨hbytes, hsize, hverified, hblocks⟩⟩ := h
  · unfold remaining
    split_ifs <;> omega
  · have hmore : before.blocks * blockSize size < after.blocks * blockSize size :=
      Nat.mul_lt_mul_of_pos_right hblocks (blockSize_pos size)
    have hcomplete : ¬ after.bytes < size := by omega
    have hstart : ¬ before.bytes < size := by omega
    unfold remaining
    rw [if_neg hcomplete, if_neg hstart]
    omega

theorem remaining_le (size : ℕ) (progress : Progress) : remaining size progress ≤ 2 * size := by
  unfold remaining
  split_ifs <;> omega

/-! ## The server's answers -/

/-- The answer is the whole file, whatever was asked for. -/
def isWhole (response : Response) : Bool := response.status = 200

def ignoresRange : Move → Bool
  | .answer response => response.any isWhole
  | _ => false

/-- No answer that a call can get gives the whole file. -/
def honours (schedule : Schedule Move) (w : World) : Bool :=
  !w.answer.any isWhole && schedule.all fun event => event.moves.all fun move => !ignoresRange move

/-- The moves of a run in which, under `K`, the server honours ranges. -/
abbrev Limited (K : Prop) := {move : Move // K → ignoresRange move = false}

theorem move_answer {K : Prop} (move : Limited K) {w : World}
    (h : K → w.answer.any isWhole = false) :
    K → ((Surroundings.move move w : World).answer.any isWhole) = false := by
  obtain ⟨move, hmove⟩ := move
  intro hK
  cases move with
  | answer response => exact hmove hK
  | createTarget data =>
    change (w.createTarget data).answer.any isWhole = false
    unfold World.createTarget
    split
    · exact h hK
    · exact h hK
  | linkTarget entry =>
    change (w.linkTarget entry).answer.any isWhole = false
    unfold World.linkTarget
    split
    · exact h hK
    · exact h hK
    · exact h hK
  | _ => exact h hK

theorem limited_elsewhere {K : Prop} (move : Limited K) (w : World) :
    Elsewhere w (Surroundings.move move w) := move_elsewhere move.1 w

/-- What the surroundings cannot destroy. -/
def Still (K : Prop) (P : World → Prop) : Prop :=
  ∀ (move : Limited K) w, P w → P (Surroundings.move move w)

/-! ## A call at work -/

section Work
variable {K : Prop} {sizes : String → ℕ} {identity : String} {size written : ℕ}
  {state : Checkpoint} {w w' : World}

/-- A partial file that is not empty belongs to the download that its checkpoint
names, and is not longer than that. -/
structure Resumable (sizes : String → ℕ) (w : World) : Prop where
  part_lt (ino : ℕ) : w.part = some ino → ino < w.nextIno
  owned (data : FileData) : w.partData = some data → data.content ≠ [] →
    ∃ saved owner, w.checkpoint = some saved ∧ saved.identity = some owner ∧ owner ≠ "" ∧
      data.content.length ≤ sizes owner

/-- The download `identity` has `size` bytes. -/
def Known (sizes : String → ℕ) (identity : String) (size : ℕ) : Prop :=
  sizes identity = size ∧ identity ≠ ""

/-- The call has `written` bytes in its partial file or on their way there. -/
structure Holding (K : Prop) (sizes : String → ℕ) (identity : String) (size : ℕ)
    (state : Checkpoint) (written : ℕ) (w : World) : Prop where
  lt : w.handle.ino < w.nextIno
  part : w.part = some w.handle.ino
  ready : Ready w
  length : (whole w).length = written
  le : written ≤ size
  known : Known sizes identity size
  saved : ∃ saved, w.checkpoint = some saved ∧ saved.identity = some identity
  own : state.identity = some identity
  honest : K → w.answer.any isWhole = false

def AtEnd (w : World) : Prop := w.handle.position = w.content.length

theorem Holding.still : Still K (Holding K sizes identity size state written) := by
  intro move w hw
  have h : Elsewhere w (Surroundings.move move w) := limited_elsewhere move w
  refine ⟨?_, ?_, ?_, ?_, hw.le, hw.known, ?_, hw.own, move_answer move hw.honest⟩
  · rw [h.handle]
    exact Nat.lt_of_lt_of_le hw.lt h.nextIno
  · rw [h.part, h.handle]
    exact hw.part
  · unfold Ready
    rw [h.handle, h.content hw.lt]
    exact hw.ready
  · rw [h.whole hw.lt]
    exact hw.length
  · rw [h.checkpoint]
    exact hw.saved

theorem Holding.atEnd_still :
    Still K fun w => Holding K sizes identity size state written w ∧ AtEnd w := by
  intro move w hw
  have h : Elsewhere w (Surroundings.move move w) := limited_elsewhere move w
  refine ⟨Holding.still move w hw.1, ?_⟩
  unfold AtEnd
  rw [h.handle, h.content hw.1.lt]
  exact hw.2

theorem Resumable.still : Still K (Resumable sizes) := by
  intro move w hw
  have h : Elsewhere w (Surroundings.move move w) := limited_elsewhere move w
  refine ⟨?_, ?_⟩
  · rw [h.part]
    exact fun ino hino => Nat.lt_of_lt_of_le (hw.part_lt ino hino) h.nextIno
  · rw [h.partData hw.part_lt, h.checkpoint]
    exact hw.owned

theorem Holding.partData (hw : Holding K sizes identity size state written w) :
    w.partData = some w.data := by
  unfold World.partData
  rw [hw.part]
  rfl

theorem Holding.resumable (hw : Holding K sizes identity size state written w) :
    Resumable sizes w := by
  refine ⟨fun ino hino => ?_, fun data hdata _ => ?_⟩
  · rw [hw.part, Option.some.injEq] at hino
    exact hino ▸ hw.lt
  · rw [hw.partData, Option.some.injEq] at hdata
    have hlength := hw.length
    unfold whole at hlength
    rw [List.length_append] at hlength
    obtain ⟨saved, hsaved, hidentity⟩ := hw.saved
    refine ⟨saved, identity, hsaved, hidentity, hw.known.2, ?_⟩
    rw [hw.known.1, ← hdata]
    exact (Nat.le_of_add_right_le hlength.le).trans hw.le

/-- An effect on the open file that leaves `more` bytes in it. -/
theorem Holding.rewritten {more : ℕ} (hw : Holding K sizes identity size state written w)
    (h : Rewritten w w') (hanswer : w'.answer = w.answer) (hready : Ready w')
    (hmore : (whole w').length = more) (hle : more ≤ size) :
    Holding K sizes identity size state more w' := by
  refine ⟨?_, ?_, hready, hmore, hle, hw.known, ?_, hw.own, ?_⟩
  · rw [h.ino, h.nextIno]
    exact hw.lt
  · rw [h.part, h.ino]
    exact hw.part
  · rw [h.checkpoint]
    exact hw.saved
  · rw [hanswer]
    exact hw.honest

theorem Holding.withState {next : Checkpoint} (hw : Holding K sizes identity size state written w)
    (hown : next.identity = some identity) : Holding K sizes identity size next written w :=
  ⟨hw.lt, hw.part, hw.ready, hw.length, hw.le, hw.known, hw.saved, hown, hw.honest⟩

theorem spill_answer (w : World) (count : ℕ) : (w.spill count).answer = w.answer := by
  unfold World.spill
  dsimp only
  split <;> rfl

theorem ready_of_empty (h : w.handle.buffer = []) : Ready w := fun hne => absurd h hne

theorem whole_of_empty (h : w.handle.buffer = []) : whole w = w.content := by
  unfold whole
  rw [h, List.append_nil]

theorem Holding.flush (hw : Holding K sizes identity size state written w) :
    Holding K sizes identity size state written w.flush := by
  refine hw.rewritten (spill_rewritten _) (spill_answer w _) (ready_of_empty flush_buffer) ?_ hw.le
  rw [whole_of_empty flush_buffer, flush_content hw.ready]
  exact hw.length

theorem Holding.seek (hw : Holding K sizes identity size state written w) (position : ℕ) :
    Holding K sizes identity size state written (w.seek position) := by
  have hbuffer : (w.seek position).handle.buffer = [] := flush_buffer
  refine hw.rewritten (seek_rewritten position) (spill_answer w _) (ready_of_empty hbuffer) ?_ hw.le
  rw [whole_of_empty hbuffer]
  exact (congrArg List.length (flush_content hw.ready)).trans hw.length

theorem Holding.truncate (hw : Holding K sizes identity size state written w) :
    Holding K sizes identity size state 0 (w.truncate 0) := by
  refine hw.rewritten (truncate_rewritten 0) (spill_answer w _)
    (ready_of_empty (truncate_buffer 0)) ?_ (Nat.zero_le _)
  rw [whole_of_empty (truncate_buffer 0), truncate_content]
  rfl

theorem Holding.write {bytes : Bytes} (hw : Holding K sizes identity size state written w)
    (hend : AtEnd w) (hle : written + bytes.length ≤ size) :
    Holding K sizes identity size state (written + bytes.length) (w.write bytes) ∧
      AtEnd (w.write bytes) := by
  let appended : World :=
    { w with handle := { w.handle with buffer := w.handle.buffer ++ bytes } }
  have hspill := spill_whole (w := appended) (fun _ => hend) w.eager
  have hatEnd : AtEnd (w.write bytes) := hspill.2 hend
  refine ⟨hw.rewritten (write_rewritten bytes) (spill_answer appended w.eager) (fun _ => hatEnd)
    ?_ hle, hatEnd⟩
  have hwhole : whole (w.write bytes) = whole w ++ bytes := by
    refine hspill.1.trans ?_
    change w.content ++ (w.handle.buffer ++ bytes) = _
    rw [← List.append_assoc]
    rfl
  rw [hwhole, List.length_append, hw.length]

end Work

/-! ## Rules for the transfer -/

section Rules
variable {K : Prop} {sizes : String → ℕ} {identity : String} {size : ℕ} {start : Progress}
  {state : Checkpoint} {w : World} {α β : Type} {P : World → Prop}
  {failure : StreamError × Checkpoint}

/-- The call holds its partial file, or has removed its name. -/
def Stopped (K : Prop) (sizes : String → ℕ) (identity : String) (size : ℕ) (state : Checkpoint)
    (w : World) : Prop :=
  state.identity = some identity ∧
    ((∃ written, Holding K sizes identity size state written w) ∨
      w.part = none ∧ w.handle.buffer = [])

theorem Holding.stopped {written : ℕ} (hw : Holding K sizes identity size state written w) :
    Stopped K sizes identity size state w := ⟨hw.own, .inl ⟨written, hw⟩⟩

theorem Stopped.still : Still K (Stopped K sizes identity size state) := by
  intro move w hw
  refine ⟨hw.1, ?_⟩
  rcases hw.2 with ⟨written, hholding⟩ | ⟨hpart, hbuffer⟩
  · exact .inl ⟨written, Holding.still move w hholding⟩
  · have h : Elsewhere w (Surroundings.move move w) := limited_elsewhere move w
    exact .inr ⟨h.part.trans hpart, (congrArg Handle.buffer h.handle).trans hbuffer⟩

theorem resumable_of_absent (hpart : w.part = none) : Resumable sizes w := by
  refine ⟨fun ino hino => ?_, fun data hdata => ?_⟩
  · rw [hpart] at hino
    cases hino
  · rw [World.partData, hpart] at hdata
    cases hdata

theorem Stopped.resumable (hw : Stopped K sizes identity size state w) :
    Resumable sizes w := by
  rcases hw.2 with ⟨written, hholding⟩ | ⟨hpart, -⟩
  · exact hholding.resumable
  · exact resumable_of_absent hpart

/-- What a part of the transfer leaves behind when it raises. -/
def Raised (K : Prop) (sizes : String → ℕ) (identity : String) (size : ℕ) (start : Progress)
    (e : StreamError × Checkpoint) (w : World) : Prop :=
  Stopped K sizes identity size e.2 w ∧ ∀ count, e.1 = .deferred count →
    ∃ written, Holding K sizes identity size e.2 written w ∧
      ((start.bytes ≠ 0 → K) → Ahead size start ⟨written, e.2.digestList.length⟩)

def workPost (K : Prop) (sizes : String → ℕ) (identity : String) (size : ℕ) (start : Progress)
    (V : α → World → Prop) : Post World (StreamError × Checkpoint) α where
  value := V
  raised := Raised K sizes identity size start
  refused := Raised K sizes identity size start
  crashed := Resumable sizes

abbrev WorkMeets (K : Prop) (sizes : String → ℕ) (identity : String) (size : ℕ)
    (start : Progress) (p : Body α) (V : α → World → Prop) (w : World) : Prop :=
  Meets (Limited K) p (workPost K sizes identity size start V) w

/-- The error is not a deferral. -/
def Final (e : StreamError) : Prop := ∀ count, e ≠ .deferred count

theorem Stopped.raised {e : StreamError} (hw : Stopped K sizes identity size state w)
    (he : Final e) :
    Raised K sizes identity size start (e, state) w :=
  ⟨hw, fun count heq => absurd heq (he count)⟩

theorem work_bind {p : Body α} {f : α → Body β} {R : α → World → Prop} {V : β → World → Prop}
    (hp : WorkMeets K sizes identity size start p R w)
    (hf : ∀ a w', R a w' → WorkMeets K sizes identity size start (f a) V w') :
    WorkMeets K sizes identity size start (p >>= f) V w := Meets.bind hp hf

theorem work_throw {V : α → World → Prop} {e : StreamError} (he : Final e)
    (hw : Stopped K sizes identity size state w) :
    WorkMeets K sizes identity size start (throw (e, state)) V w :=
  Meets.throw (hw.raised he) (hw.raised he)

theorem work_reject {V : α → World → Prop} (message : String)
    (hw : Stopped K sizes identity size state w) :
    WorkMeets K sizes identity size start (reject (withState state) message) V w :=
  work_throw (fun _ h => by cases h) hw

/-- A deferral is thrown where the call is further than it began. -/
theorem work_defer {V : α → World → Prop} {written count : ℕ}
    (hw : Holding K sizes identity size state written w)
    (hahead : (start.bytes ≠ 0 → K) → Ahead size start ⟨written, state.digestList.length⟩) :
    WorkMeets K sizes identity size start (throw (.deferred count, state)) V w :=
  Meets.throw ⟨hw.stopped, fun _ _ => ⟨written, hw, hahead⟩⟩
    ⟨hw.stopped, fun _ _ => ⟨written, hw, hahead⟩⟩

theorem work_effect {act : World → Except (StreamError × Checkpoint) α × World}
    {V : α → World → Prop} (hP : Still K P) (hw : P w) (hfinal : Final failure.1)
    (hstopped : ∀ w', P w' → Stopped K sizes identity size failure.2 w')
    (hact : ∀ w', P w' → Stopped K sizes identity size failure.2 (act w').2 ∧ match (act w').1 with
      | .ok a => V a (act w').2
      | .error e => Final e.1 ∧ e.2 = failure.2) :
    WorkMeets K sizes identity size start (Prog.effect failure act) V w := by
  refine Meets.stable_effect hP hw (fun w' h => (hstopped w' h).resumable)
    (fun w' h => ⟨(hstopped w' h).raised hfinal, (hact w' h).1.raised hfinal⟩)
    (fun _ _ => trivial) fun w' h => ?_
  obtain ⟨hnext, hanswer⟩ := hact w' h
  cases hresult : (act w').1 with
  | ok a =>
    rw [hresult] at hanswer
    exact hanswer
  | error e =>
    rw [hresult] at hanswer
    have hraised : Raised K sizes identity size start e (act w').2 := by
      rw [← hanswer.2] at hnext
      exact hnext.raised hanswer.1
    exact ⟨hraised, hraised⟩

theorem work_look {view : World → Except (StreamError × Checkpoint) α} {V : α → World → Prop}
    (hP : Still K P) (hw : P w) (hfinal : Final failure.1)
    (hstopped : ∀ w', P w' → Stopped K sizes identity size failure.2 w')
    (hview : ∀ w', P w' → match view w' with
      | .ok a => V a w'
      | .error e => Final e.1 ∧ e.2 = failure.2) :
    WorkMeets K sizes identity size start (Prog.look failure view) V w :=
  work_effect hP hw hfinal hstopped fun w' h => ⟨hstopped w' h, hview w' h⟩

theorem work_observe {view : World → α} {V : α → World → Prop} (hP : Still K P) (hw : P w)
    (hstopped : ∀ w', P w' → Stopped K sizes identity size state w')
    (hview : ∀ w', P w' → V (view w') w') :
    WorkMeets K sizes identity size start (observe (withState state) view) V w :=
  work_look hP hw (fun _ h => by cases h) hstopped hview

theorem work_update {next : World → World} {V : Unit → World → Prop} (hP : Still K P) (hw : P w)
    (hstopped : ∀ w', P w' → Stopped K sizes identity size state w')
    (hnext : ∀ w', P w' → Stopped K sizes identity size state (next w') ∧ V () (next w')) :
    WorkMeets K sizes identity size start (update (withState state) next) V w :=
  work_effect hP hw (fun _ h => by cases h) hstopped hnext

theorem work_syscall {act : World → Except StreamError α × World} {V : α → World → Prop}
    (hP : Still K P) (hw : P w) (hstopped : ∀ w', P w' → Stopped K sizes identity size state w')
    (hact : ∀ w', P w' → Stopped K sizes identity size state (act w').2 ∧ match (act w').1 with
      | .ok a => V a (act w').2
      | .error e => Final e) :
    WorkMeets K sizes identity size start (syscall (withState state) act) V w := by
  refine work_effect hP hw (fun _ h => by cases h) hstopped fun w' h => ?_
  obtain ⟨hnext, hanswer⟩ := hact w' h
  refine ⟨hnext, ?_⟩
  dsimp only
  cases hresult : (act w').1 with
  | ok a =>
    rw [hresult] at hanswer
    exact hanswer
  | error e =>
    rw [hresult] at hanswer
    exact ⟨hanswer, rfl⟩

theorem work_probe (hP : Still K P) (hw : P w)
    (hstopped : ∀ w', P w' → Stopped K sizes identity size state w') :
    WorkMeets K sizes identity size start (probe (withState state)) (fun _ => P) w := by
  refine work_bind (R := fun _ => P) ?_ fun _ w' h => ?_
  · refine work_look hP hw (fun _ h => by cases h) hstopped fun w' h => ?_
    cases w'.cancelled
    · exact h
    · exact ⟨fun _ h => (by cases h), rfl⟩
  · refine work_look hP h (fun _ h => by cases h) hstopped fun w' h => ?_
    cases w'.guardFails
    · exact h
    · exact ⟨fun _ h => (by cases h), rfl⟩

end Rules

/-! ## Receiving -/

section Receiving
variable {K : Prop} {sizes : String → ℕ} {identity : String} {size deadline : ℕ} {start : Progress}
  {state : Checkpoint} {w : World} {P : World → Prop} {call : Call} {digests : Digests}

theorem work_throttle (received started fuel : ℕ) (hP : Still K P)
    (hstopped : ∀ w', P w' → Stopped K sizes identity size state w') (hw : P w) :
    WorkMeets K sizes identity size start (throttle call state received started fuel)
      (fun _ => P) w := by
  induction fuel generalizing w with
  | zero => exact Meets.pure hw
  | succ fuel ih =>
    unfold throttle
    refine work_bind (R := fun _ => P) (work_observe hP hw hstopped fun _ h => h) ?_
    intro now w' h
    split
    · exact Meets.pure h
    · refine work_bind (R := fun _ => P) (work_probe hP h hstopped) fun _ w' h => ?_
      refine work_bind (R := fun _ => P) ?_ fun _ w' h => ih h
      refine work_update hP h hstopped fun w' h => ?_
      have hnext (n : ℕ) : P (w'.sleep n) := hP ⟨.pass n, fun _ => rfl⟩ w' h
      exact ⟨hstopped _ (hnext _), hnext _⟩

theorem pieces_ne_nil {pieceSize fuel : ℕ} {bytes : Bytes} (hsize : 0 < pieceSize) :
    ∀ piece ∈ pieces pieceSize fuel bytes, piece ≠ [] := by
  induction fuel generalizing bytes with
  | zero =>
    intro piece hpiece
    cases hpiece
  | succ fuel ih =>
    unfold pieces
    split
    · intro piece hpiece
      cases hpiece
    · rename_i hne
      rw [List.forall_mem_cons]
      refine ⟨fun hnil => ?_, ih⟩
      rcases List.take_eq_nil_iff.mp hnil with hzero | hempty
      · omega
      · exact hne hempty

/-- Content arrives at the end of the file, behind what was there before. -/
def Appending (K : Prop) (sizes : String → ℕ) (identity : String) (size : ℕ) (start : Progress)
    (state : Checkpoint) (written : ℕ) (w : World) : Prop :=
  (Holding K sizes identity size state written w ∧ AtEnd w) ∧
    ((start.bytes ≠ 0 → K) → start.bytes ≤ written)

theorem Appending.still {written : ℕ} :
    Still K (Appending K sizes identity size start state written) :=
  fun move w h => ⟨Holding.atEnd_still move w h.1, h.2⟩

theorem Appending.stopped {written : ℕ}
    (h : Appending K sizes identity size start state written w) :
    Stopped K sizes identity size state w := h.1.1.stopped

/-- A deferral between two pieces comes after a piece that was not empty. -/
theorem work_save {responseEnd started written received : ℕ} {rest : List Bytes}
    (hrest : ∀ piece ∈ rest, piece ≠ []) (hend : responseEnd ≤ size)
    (hw : Appending K sizes identity size start state written w) :
    WorkMeets K sizes identity size start
      (save call size deadline state responseEnd started rest written received)
      (fun n w => Holding K sizes identity size state n w) w := by
  induction rest generalizing written received w with
  | nil =>
    refine work_bind (R := fun _ => Appending K sizes identity size start state written) ?_
      fun _ w' h => Meets.pure h.1.1
    exact work_look Appending.still hw (fun _ h => by cases h) (fun _ h => h.stopped) fun _ h => h
  | cons content rest ih =>
    rw [List.forall_mem_cons] at hrest
    have hpos : 0 < content.length := List.length_pos_iff.mpr hrest.1
    unfold save
    refine work_bind (R := fun _ => Appending K sizes identity size start state written)
      (work_look Appending.still hw (fun _ h => by cases h) (fun _ h => h.stopped)
        fun _ h => h) fun _ w' h => ?_
    refine work_bind (work_probe Appending.still h fun _ h => h.stopped) fun _ w' h => ?_
    split
    · exact work_reject _ h.stopped
    rename_i hfits
    let Grown (w : World) : Prop :=
      Appending K sizes identity size start state (written + content.length) w ∧
        ((start.bytes ≠ 0 → K) → start.bytes < written + content.length)
    have hP : Still K Grown := fun move w h => ⟨Appending.still move w h.1, h.2⟩
    refine work_bind (R := fun _ => Grown) ?_ fun _ w' h => ?_
    · refine work_update Appending.still h (fun _ h => h.stopped) fun w' h => ?_
      have hle : written + content.length ≤ size := by omega
      have hwrite := h.1.1.write h.1.2 hle
      refine ⟨hwrite.1.stopped, ⟨hwrite, fun hK => ?_⟩, fun hK => ?_⟩
      · have := h.2 hK
        omega
      · have := h.2 hK
        omega
    refine work_bind (R := fun _ => Grown)
      (work_look hP h (fun _ h => by cases h) (fun _ h => h.1.stopped) fun _ h => h)
      fun _ w' h => ?_
    have hloop (w' : World) (h : Grown w') : WorkMeets K sizes identity size start
        (untilDeadline call size deadline state (written + content.length)
          (save call size deadline state responseEnd started rest (written + content.length)
            (received + content.length)))
        (fun n w => Holding K sizes identity size state n w) w' := by
      unfold untilDeadline
      split
      · refine work_bind (R := fun _ => Grown)
          (work_observe hP h (fun _ h => h.1.stopped) fun _ h => h) fun now w' h => ?_
        split
        · exact work_defer h.1.1.1 fun hK => ⟨h.1.1.1.le, .inl (h.2 hK)⟩
        · exact ih hrest.2 h.1
      · exact ih hrest.2 h.1
    dsimp only
    split
    · exact work_bind (work_throttle _ _ _ hP (fun _ h => h.1.stopped) h) fun _ w' h => hloop w' h
    · exact hloop w' h

/-- A file of the call with nothing in its buffer. -/
def Rewound (K : Prop) (sizes : String → ℕ) (identity : String) (size : ℕ) (state : Checkpoint)
    (written : ℕ) (w : World) : Prop :=
  Holding K sizes identity size state written w ∧ w.handle.position = 0 ∧ w.handle.buffer = []

theorem Rewound.still {written : ℕ} : Still K (Rewound K sizes identity size state written) := by
  intro move w hw
  have h : Elsewhere w (Surroundings.move move w) := limited_elsewhere move w
  refine ⟨Holding.still move w hw.1, ?_⟩
  rw [h.handle]
  exact hw.2

/-- Only a server that ignores the range empties the file. -/
theorem work_startOver (hfirst : (start.bytes ≠ 0 → K) → start.bytes = 0)
    (hw : Appending K sizes identity size start state start.bytes w) :
    WorkMeets K sizes identity size start (startOver state start.bytes)
      (fun r w => Appending K sizes identity size start r.2 r.1 w) w := by
  unfold startOver
  split
  · refine work_bind (R := fun _ => Rewound K sizes identity size state start.bytes) ?_
      fun _ w' h => ?_
    · refine work_update Appending.still hw (fun _ h => h.stopped) fun w' h => ?_
      exact ⟨(h.1.1.seek 0).stopped, h.1.1.seek 0, rfl, flush_buffer⟩
    refine work_bind (R := fun _ w => Holding K sizes identity size state 0 w ∧ AtEnd w) ?_
      fun _ w' h => ?_
    · refine work_update Rewound.still h (fun _ h => h.1.stopped) fun w' h => ?_
      refine ⟨h.1.truncate.stopped, h.1.truncate, ?_⟩
      unfold AtEnd
      rw [truncate_content]
      change w'.flush.handle.position = 0
      rw [flush_of_empty h.2.2]
      exact h.2.1
    · exact Meets.pure ⟨⟨h.1.withState h.1.own, h.2⟩, fun hK => (hfirst hK).le⟩
  · exact Meets.pure hw

theorem work_placed {last : ℕ} {response : Response} (hlt : start.bytes < size)
    (hlast : last < size) (hhonest : K → isWhole response = false)
    (hw : Appending K sizes identity size start state start.bytes w) :
    WorkMeets K sizes identity size start (placed call size state start.bytes last response)
      (fun r w => r.1 ≤ size ∧ start.bytes < r.1 ∧
        Appending K sizes identity size start r.2.2 r.2.1 w) w := by
  unfold placed
  split
  · split
    · rename_i e he
      refine work_throw (fun count heq => ?_) hw.stopped
      subst heq
      unfold acceptedRange at he
      split at he
      · cases he
      split at he
      · cases he
      split at he
      · cases he
      split at he
      · cases he
      split at he
      · cases he
      split at he
      · cases he
      split at he <;> cases he
    · exact work_reject _ hw.stopped
    · rename_i responseEnd hrange
      obtain ⟨-, hstart, hend⟩ := acceptedRange_ok hrange
      exact Meets.pure ⟨by dsimp only; omega, hstart, hw⟩
  · split
    · rename_i hstatus
      have hfirst (hK : start.bytes ≠ 0 → K) : start.bytes = 0 := by
        by_contra hne
        have hnot := hhonest (hK hne)
        unfold isWhole at hnot
        simp [hstatus] at hnot
      refine work_bind (work_startOver hfirst hw) fun r w' h => ?_
      dsimp only
      split
      · exact work_reject _ h.stopped
      · exact Meets.pure ⟨le_rfl, hlt, h⟩
    · exact work_reject _ hw.stopped

/-- A returned part of the file goes beyond what was there. -/
theorem work_receive {last : ℕ} {response : Response} (hlt : start.bytes < size)
    (hlast : last < size) (hhonest : K → isWhole response = false)
    (hw : Appending K sizes identity size start state start.bytes w) :
    WorkMeets K sizes identity size start
      (receive call size deadline state start.bytes last response)
      (fun r w => Holding K sizes identity size r.2 r.1 w ∧ start.bytes < r.1) w := by
  unfold receive
  split
  · exact work_reject _ hw.stopped
  refine work_bind (work_placed hlt hlast hhonest hw) fun r w' h => ?_
  obtain ⟨responseEnd, written, state'⟩ := r
  obtain ⟨hend, hstart, h⟩ := h
  dsimp only at hend hstart h ⊢
  refine work_bind (R := fun _ => Appending K sizes identity size start state' written)
    (work_observe Appending.still h (fun _ h => h.stopped) fun _ h => h) fun started w' h => ?_
  refine work_bind (work_save (pieces_ne_nil (readSize_pos call)) hend h) fun n w' h => ?_
  split
  · exact work_reject _ h.stopped
  · rename_i hall
    rw [not_not] at hall
    exact Meets.pure ⟨h, hall ▸ hstart⟩

theorem work_ask {url : Url} {range : Option (ℕ × ℕ)}
    (hw : Appending K sizes identity size start state start.bytes w) :
    WorkMeets K sizes identity size start (ask digests call state url range)
      (fun response w => Appending K sizes identity size start state start.bytes w ∧
        (K → isWhole response = false)) w := by
  refine work_effect Appending.still hw (fun _ h => by cases h) (fun _ h => h.stopped)
    fun w' h => ?_
  cases hanswer : w'.answer with
  | none => exact ⟨h.stopped, fun _ h => (by cases h), rfl⟩
  | some response =>
    have hnext : Appending K sizes identity size start state start.bytes { w' with
        answer := none
        served := ⟨call.fingerprint digests, url, range, response⟩ :: w'.served } := by
      refine ⟨⟨⟨h.1.1.lt, h.1.1.part, h.1.1.ready, h.1.1.length, h.1.1.le, h.1.1.known, h.1.1.saved,
        h.1.1.own, fun _ => rfl⟩, h.1.2⟩, h.2⟩
    refine ⟨hnext.stopped, hnext, fun hK => ?_⟩
    have hhonest := h.1.1.honest hK
    rw [hanswer] at hhonest
    exact hhonest

theorem validateDownloadUrl_final {url : Url} {e : StreamError}
    (h : validateDownloadUrl url = .error e) : Final e := by
  intro count heq
  subst heq
  unfold validateDownloadUrl at h
  split at h
  · cases h
  split at h
  · cases h
  · split at h <;> cases h
  · split at h <;> cases h

/-- One round over the redirects, and what follows a redirect. -/
theorem work_fetchRound {last rounds : ℕ} {url : Url} (hlt : start.bytes < size)
    (hlast : last < size)
    (hnext : rounds ≠ 0 → ∀ location w',
      Appending K sizes identity size start state start.bytes w' →
      WorkMeets K sizes identity size start
        (fetch digests call size deadline state start.bytes last rounds location)
        (fun r w => Holding K sizes identity size r.2 r.1 w ∧ start.bytes < r.1) w')
    (hw : Appending K sizes identity size start state start.bytes w) :
    WorkMeets K sizes identity size start
      (fetch digests call size deadline state start.bytes last (rounds + 1) url)
      (fun r w => Holding K sizes identity size r.2 r.1 w ∧ start.bytes < r.1) w := by
  unfold fetch
  refine work_bind (R := fun _ => Appending K sizes identity size start state start.bytes) ?_
    fun _ w' h => ?_
  · refine Meets.ofExcept ?_
    cases hvalid : validateDownloadUrl url with
    | ok _ => exact hw
    | error e =>
      have hraised : Raised K sizes identity size start (e, state) w :=
        hw.stopped.raised (validateDownloadUrl_final hvalid)
      exact ⟨hraised, hraised⟩
  refine work_bind (work_ask h) fun response w' h => ?_
  obtain ⟨h, hhonest⟩ := h
  split
  · split
    · exact work_reject _ h.stopped
    · split
      · exact work_reject _ h.stopped
      · rename_i hrounds
        exact hnext hrounds _ _ h
  · exact work_receive hlt hlast hhonest h

theorem work_fetch {last rounds : ℕ} {url : Url} (hlt : start.bytes < size) (hlast : last < size)
    (hw : Appending K sizes identity size start state start.bytes w) :
    WorkMeets K sizes identity size start
      (fetch digests call size deadline state start.bytes last (rounds + 1) url)
      (fun r w => Holding K sizes identity size r.2 r.1 w ∧ start.bytes < r.1) w := by
  induction rounds generalizing url w with
  | zero => exact work_fetchRound hlt hlast (fun h => absurd rfl h) hw
  | succ rounds ih => exact work_fetchRound hlt hlast (fun _ _ _ h => ih h) hw

/-- The missing part, if one is missing. -/
theorem work_complete (hw : Appending K sizes identity size start state start.bytes w) :
    WorkMeets K sizes identity size start (complete digests call size deadline state start.bytes)
      (fun r w => Holding K sizes identity size r.2 r.1 w ∧
        (start.bytes < r.1 ∨ start.bytes = size ∧ r = (start.bytes, state))) w := by
  unfold complete
  split
  · rename_i hlt
    refine Meets.mono (work_fetch hlt (lastOffset_lt hlt) hw) (fun r w' h => ⟨h.1, .inl h.2⟩)
      (fun _ _ h => h) (fun _ _ h => h) (fun _ h => h) fun _ _ h => h
  · rename_i hall
    have hle := hw.1.1.le
    exact Meets.pure ⟨hw.1.1, .inr ⟨by omega, rfl⟩⟩

end Receiving

/-! ## Verifying -/

section Verifying
variable {K : Prop} {sizes : String → ℕ} {identity : String} {size deadline : ℕ} {start : Progress}
  {state : Checkpoint} {w : World} {P : World → Prop} {call : Call} {digests : Digests}

/-- What the verification needs to know of the state it continues. -/
def Continues (size : ℕ) (start : Progress) (state : Checkpoint) (position : ℕ) : Prop :=
  start.bytes < size ∨ start.bytes = size ∧ start.blocks ≤ state.digestList.length ∧
    (position < size → start.blocks * blockSize size < size)

theorem Holding.read {written count : ℕ} (hw : Holding K sizes identity size state written w) :
    Holding K sizes identity size state written (w.read count) := hw.seek _

/-- A round that is reached appends a digest before it can yield. -/
theorem work_verifyBlocks {block fuel position checked : ℕ}
    (hcontinues : Continues size start state position)
    (hw : Holding K sizes identity size state size w) :
    WorkMeets K sizes identity size start
      (verifyBlocks digests call size deadline block fuel state position checked)
      (fun state' w => Holding K sizes identity size state' size w) w := by
  induction fuel generalizing state position checked w with
  | zero => exact Meets.pure hw
  | succ fuel ih =>
    unfold verifyBlocks
    split
    · exact Meets.pure hw
    rename_i hposition
    refine work_bind (work_probe Holding.still hw fun _ h => h.stopped) fun _ w' h => ?_
    refine work_bind (R := fun _ => Holding K sizes identity size state size) ?_
      fun content w' h => ?_
    · exact work_syscall Holding.still h (fun _ h => h.stopped) fun w' h =>
        ⟨h.read.stopped, h.read⟩
    split
    · exact work_reject _ h.stopped
    let next : Checkpoint := { state with
      digests := some (state.digestList ++ [hexDigest (digests.sha1 content)]) }
    have hlength : next.digestList.length = state.digestList.length + 1 := by
      change (state.digestList ++ [hexDigest (digests.sha1 content)]).length = _
      rw [List.length_append, List.length_singleton]
    have h : Holding K sizes identity size next size w' := h.withState h.own
    have hahead : Ahead size start ⟨size, next.digestList.length⟩ := by
      refine ⟨le_rfl, ?_⟩
      rcases hcontinues with hlt | ⟨heq, hle, hblocks⟩
      · exact .inl hlt
      · exact .inr ⟨heq.symm, heq, hblocks (by omega), by rw [hlength]; exact Nat.lt_succ_of_le hle⟩
    have hlater (position : ℕ) : Continues size start next position := by
      rcases hcontinues with hlt | ⟨heq, hle, hblocks⟩
      · exact .inl hlt
      · exact .inr ⟨heq, by omega, fun _ => hblocks (by omega)⟩
    dsimp only
    split
    · split
      · exact work_defer h fun _ => hahead
      · refine work_bind (R := fun _ => Holding K sizes identity size next size)
          (work_observe Holding.still h (fun _ h => h.stopped) fun _ h => h) fun now w' h => ?_
        split
        · exact work_defer h fun _ => hahead
        · exact ih (hlater _) h
    · exact ih (hlater _) h

theorem work_verify (hcontinues : start.bytes < size ∨ start.bytes = size ∧
      start.blocks = state.digestList.length)
    (hw : Holding K sizes identity size state size w) :
    WorkMeets K sizes identity size start (verify digests call size deadline state)
      (fun state' w => Holding K sizes identity size state' size w) w := by
  unfold verify
  split
  · exact Meets.pure hw
  split
  · exact work_reject _ hw.stopped
  rename_i expectedHash _ _
  let listed : Checkpoint := { state with digests := some state.digestList }
  have h : Holding K sizes identity size listed size w := hw.withState hw.own
  refine work_bind (R := fun _ => Holding K sizes identity size listed size) ?_ fun _ w' h => ?_
  · exact work_update Holding.still h (fun _ h => h.stopped) fun w' h =>
      ⟨(h.seek _).stopped, h.seek _⟩
  refine work_bind (work_verifyBlocks ?_ h) fun state' w' h => ?_
  · rcases hcontinues with hlt | ⟨heq, hblocks⟩
    · exact .inl hlt
    · refine .inr ⟨heq, hblocks.le, fun hlt => ?_⟩
      change min (state.digestList.length * blockSize size) size < size at hlt
      rw [hblocks]
      omega
  split
  · exact work_throw (fun _ h => by cases h) h.stopped
  split
  · exact Meets.pure h
  refine work_bind (R := fun _ => Holding K sizes identity size state' size) ?_ fun _ w' h => ?_
  · exact work_update Holding.still h (fun _ h => h.stopped) fun w' h =>
      ⟨(h.seek _).stopped, h.seek _⟩
  refine work_bind (R := fun _ => Holding K sizes identity size state' 0) ?_ fun _ w' h => ?_
  · exact work_update Holding.still h (fun _ h => h.stopped) fun w' h =>
      ⟨h.truncate.stopped, h.truncate⟩
  · have hempty : Holding K sizes identity size { state' with digests := some [] } 0 w' :=
      h.withState h.own
    exact work_reject _ hempty.stopped

/-- The open file without anything in its buffer. -/
def Flushed (K : Prop) (sizes : String → ℕ) (identity : String) (size : ℕ) (state : Checkpoint)
    (written : ℕ) (w : World) : Prop :=
  Holding K sizes identity size state written w ∧ w.handle.buffer = []

theorem Flushed.still {written : ℕ} : Still K (Flushed K sizes identity size state written) := by
  intro move w hw
  have h : Elsewhere w (Surroundings.move move w) := limited_elsewhere move w
  exact ⟨Holding.still move w hw.1, (congrArg Handle.buffer h.handle).trans hw.2⟩

theorem Flushed.stopped {written : ℕ} (h : Flushed K sizes identity size state written w) :
    Stopped K sizes identity size state w := h.1.stopped

theorem Flushed.checkpointed {written : ℕ} (h : Flushed K sizes identity size state written w) :
    Flushed K sizes identity size state written { w with checkpoint := some state } :=
  ⟨⟨h.1.lt, h.1.part, h.1.ready, h.1.length, h.1.le, h.1.known, ⟨state, rfl, h.1.own⟩, h.1.own,
    h.1.honest⟩, h.2⟩

theorem work_publish {written : ℕ} (hw : Holding K sizes identity size state size w) :
    WorkMeets K sizes identity size start (publish state written)
      (fun r w => Stopped K sizes identity size r.2 w) w := by
  unfold publish
  refine work_bind (work_probe Holding.still hw fun _ h => h.stopped) fun _ w' h => ?_
  refine work_bind (R := fun _ => Flushed K sizes identity size state size) ?_ fun _ w' h => ?_
  · exact work_update Holding.still h (fun _ h => h.stopped) fun w' h =>
      ⟨h.flush.stopped, h.flush, flush_buffer⟩
  refine work_bind (R := fun _ => Flushed K sizes identity size state size)
    (work_observe Flushed.still h (fun _ h => h.stopped) fun _ h => h) fun _ w' h => ?_
  refine work_bind (R := fun _ => Flushed K sizes identity size state size) ?_
    fun published w' h => ?_
  · refine work_syscall Flushed.still h (fun _ h => h.stopped) fun w' h => ?_
    rw [World.partIdentity, h.1.part]
    exact ⟨h.stopped, h⟩
  let record : Checkpoint := { state with publishedIdentity := some published, digests := none }
  have h : Flushed K sizes identity size record size w' := ⟨h.1.withState h.1.own, h.2⟩
  refine work_bind (R := fun _ => Flushed K sizes identity size record size) ?_ fun _ w' h => ?_
  · refine work_bind (R := fun _ => Flushed K sizes identity size record size)
      (work_observe Flushed.still h (fun _ h => h.stopped) fun _ h => h) fun _ w' h => ?_
    exact work_update Flushed.still h (fun _ h => h.stopped) fun w' h =>
      ⟨h.checkpointed.stopped, h.checkpointed⟩
  refine work_bind (work_probe Flushed.still h fun _ h => h.stopped) fun _ w' h => ?_
  refine work_bind (R := fun _ => Flushed K sizes identity size record size) ?_ fun _ w' h => ?_
  · refine work_syscall Flushed.still h (fun _ h => h.stopped) fun w' h => ?_
    have hlinked (ino : ℕ) : Flushed K sizes identity size record size
        { w' with target := some (.file ino) } :=
      ⟨⟨h.1.lt, h.1.part, h.1.ready, h.1.length, h.1.le, h.1.known, h.1.saved, h.1.own,
        h.1.honest⟩, h.2⟩
    unfold World.link
    split
    · exact ⟨(hlinked _).stopped, hlinked _⟩
    · exact ⟨h.stopped, fun _ h => by cases h⟩
  refine work_bind (R := fun _ => Stopped K sizes identity size record) ?_ fun _ w' h => ?_
  · refine work_syscall Flushed.still h (fun _ h => h.stopped) fun w' h => ?_
    have hunlinked : Stopped K sizes identity size record { w' with part := none } :=
      ⟨h.1.own, .inr ⟨rfl, h.2⟩⟩
    rw [World.unlinkPart, h.1.part]
    exact ⟨hunlinked, hunlinked⟩
  refine work_bind (R := fun _ => Stopped K sizes identity size record)
    (work_look Stopped.still h (fun _ h => by cases h) (fun _ h => h) fun _ h => h) fun _ w' h => ?_
  exact Meets.pure h

/-- A transfer that yields is further than it began. -/
theorem work_transfer (hblocks : start.blocks = state.digestList.length)
    (hw : Flushed K sizes identity size state start.bytes w) :
    WorkMeets K sizes identity size start (transfer digests call size deadline state)
      (fun r w => Stopped K sizes identity size r.2 w) w := by
  unfold transfer
  refine work_bind (R := fun position w => position = start.bytes ∧
    Appending K sizes identity size start state start.bytes w) ?_ fun position w' h => ?_
  · refine work_syscall Flushed.still hw (fun _ h => h.stopped) fun w' h => ?_
    have hlength : w'.flush.content.length = start.bytes := by
      rw [flush_content h.1.ready]
      exact h.1.length
    have hseek : Holding K sizes identity size state start.bytes w'.seekEnd := h.1.seek _
    exact ⟨hseek.stopped, hlength, ⟨hseek, rfl⟩, fun _ => le_rfl⟩
  obtain ⟨hposition, h⟩ := h
  rw [hposition]
  refine work_bind (work_complete h) fun r w' h => ?_
  obtain ⟨written, state'⟩ := r
  obtain ⟨h, hfurther⟩ := h
  dsimp only at h hfurther ⊢
  split
  · rename_i hmissing
    refine work_defer h fun _ => ⟨h.le, ?_⟩
    rcases hfurther with hlt | ⟨heq, hsame⟩
    · exact .inl hlt
    · rw [Prod.mk.injEq] at hsame
      omega
  rename_i hall
  have hwritten : written = size := by
    have := h.le
    omega
  subst hwritten
  refine work_bind (R := fun _ => Holding K sizes identity written state' written) ?_
    fun _ w' h => ?_
  · exact work_update Holding.still h (fun _ h => h.stopped) fun w' h => ⟨h.flush.stopped, h.flush⟩
  refine work_bind (work_verify ?_ h) fun state'' w' h => work_publish h
  rcases hfurther with hlt | ⟨heq, hsame⟩
  · exact .inl hlt
  · rw [Prod.mk.injEq] at hsame
    exact .inr ⟨heq, hsame.2 ▸ hblocks⟩

end Verifying

/-! ## The call around the transfer -/

section Calls
variable {K : Prop} {sizes : String → ℕ} {identity : String} {size deadline : ℕ}
  {start before : Progress} {state : Checkpoint} {w : World} {α β : Type} {P : World → Prop}
  {call : Call} {digests : Digests} {failure : StreamError} {found : Option Checkpoint}

/-- A file object that can be closed, over a directory that the next call can use. -/
def Closing (K : Prop) (sizes : String → ℕ) (identity : String) (size : ℕ) (w : World) : Prop :=
  Resumable sizes w ∧ (w.handle.buffer = [] ∨
    ∃ state written, Holding K sizes identity size state written w)

theorem Stopped.closing (hw : Stopped K sizes identity size state w) :
    Closing K sizes identity size w := by
  refine ⟨hw.resumable, ?_⟩
  rcases hw.2 with ⟨written, h⟩ | ⟨-, hbuffer⟩
  · exact .inr ⟨state, written, h⟩
  · exact .inl hbuffer

theorem Closing.still : Still K (Closing K sizes identity size) := by
  intro move w hw
  refine ⟨Resumable.still move w hw.1, ?_⟩
  rcases hw.2 with hbuffer | ⟨state, written, h⟩
  · have h : Elsewhere w (Surroundings.move move w) := limited_elsewhere move w
    exact .inl ((congrArg Handle.buffer h.handle).trans hbuffer)
  · exact .inr ⟨state, written, Holding.still move w h⟩

theorem Closing.flush (hw : Closing K sizes identity size w) :
    Closing K sizes identity size w.flush := by
  rcases hw.2 with hbuffer | ⟨state, written, h⟩
  · rw [flush_of_empty hbuffer]
    exact hw
  · exact h.flush.stopped.closing

/-- The call yielded, everything is saved, and it is further than it began. -/
def Yielded (K : Prop) (size : ℕ) (start : Progress) (w : World) : Prop :=
  w.handle.buffer = [] ∧ ((start.bytes ≠ 0 → K) → Ahead size start (progressOf w))

theorem progressOf_elsewhere {w' : World} (h : Elsewhere w w')
    (hlt : ∀ ino, w.part = some ino → ino < w.nextIno) : progressOf w' = progressOf w := by
  unfold progressOf
  rw [h.partData hlt, h.checkpoint]

def Ended (K : Prop) (sizes : String → ℕ) (identity : String) (size : ℕ) (start : Progress)
    (e : StreamError) (w : World) : Prop :=
  Closing K sizes identity size w ∧ ∀ count, e = .deferred count → Yielded K size start w

theorem Ended.still {e : StreamError} : Still K (Ended K sizes identity size start e) := by
  intro move w hw
  have h : Elsewhere w (Surroundings.move move w) := limited_elsewhere move w
  refine ⟨Closing.still move w hw.1, fun count hcount => ?_⟩
  obtain ⟨hbuffer, hahead⟩ := hw.2 count hcount
  refine ⟨(congrArg Handle.buffer h.handle).trans hbuffer, ?_⟩
  rw [progressOf_elsewhere h hw.1.1.part_lt]
  exact hahead

theorem Closing.ended {e : StreamError} (hw : Closing K sizes identity size w) (he : Final e) :
    Ended K sizes identity size start e w := ⟨hw, fun count heq => absurd heq (he count)⟩

def callPost (K : Prop) (sizes : String → ℕ) (identity : String) (size : ℕ) (start : Progress)
    (V : α → World → Prop) : Post World StreamError α where
  value := V
  raised := Ended K sizes identity size start
  refused := Ended K sizes identity size start
  crashed := Resumable sizes

abbrev StreamMeets (K : Prop) (sizes : String → ℕ) (identity : String) (size : ℕ)
    (start : Progress) (p : Stream α) (V : α → World → Prop) (w : World) : Prop :=
  Meets (Limited K) p (callPost K sizes identity size start V) w

theorem stream_bind {p : Stream α} {f : α → Stream β} {R : α → World → Prop}
    {V : β → World → Prop} (hp : StreamMeets K sizes identity size start p R w)
    (hf : ∀ a w', R a w' → StreamMeets K sizes identity size start (f a) V w') :
    StreamMeets K sizes identity size start (p >>= f) V w := Meets.bind hp hf

theorem stream_effect {act : World → Except StreamError α × World} {V : α → World → Prop}
    (hP : Still K P) (hw : P w) (hfinal : Final failure)
    (hclosing : ∀ w', P w' → Closing K sizes identity size w')
    (hact : ∀ w', P w' → Closing K sizes identity size (act w').2 ∧ match (act w').1 with
      | .ok a => V a (act w').2
      | .error e => Final e) :
    StreamMeets K sizes identity size start (Prog.effect failure act) V w := by
  refine Meets.stable_effect hP hw (fun w' h => (hclosing w' h).1)
    (fun w' h => ⟨(hclosing w' h).ended hfinal, (hact w' h).1.ended hfinal⟩)
    (fun _ _ => trivial) fun w' h => ?_
  obtain ⟨hnext, hanswer⟩ := hact w' h
  cases hresult : (act w').1 with
  | ok a =>
    rw [hresult] at hanswer
    exact hanswer
  | error e =>
    rw [hresult] at hanswer
    exact ⟨hnext.ended hanswer, hnext.ended hanswer⟩

theorem stream_look {view : World → Except StreamError α} {V : α → World → Prop}
    (hP : Still K P) (hw : P w) (hfinal : Final failure)
    (hclosing : ∀ w', P w' → Closing K sizes identity size w')
    (hview : ∀ w', P w' → match view w' with
      | .ok a => V a w'
      | .error e => Final e) :
    StreamMeets K sizes identity size start (Prog.look failure view) V w :=
  stream_effect hP hw hfinal hclosing fun w' h => ⟨hclosing w' h, hview w' h⟩

theorem stream_observe {view : World → α} {V : α → World → Prop} (hP : Still K P) (hw : P w)
    (hclosing : ∀ w', P w' → Closing K sizes identity size w')
    (hview : ∀ w', P w' → V (view w') w') :
    StreamMeets K sizes identity size start (observe id view) V w :=
  stream_effect hP hw (fun _ h => by cases h) hclosing fun w' h => ⟨hclosing w' h, hview w' h⟩

theorem stream_update {next : World → World} {V : Unit → World → Prop} (hP : Still K P) (hw : P w)
    (hclosing : ∀ w', P w' → Closing K sizes identity size w')
    (hnext : ∀ w', P w' → Closing K sizes identity size (next w') ∧ V () (next w')) :
    StreamMeets K sizes identity size start (update id next) V w :=
  stream_effect hP hw (fun _ h => by cases h) hclosing hnext

theorem stream_reject {V : α → World → Prop} (message : String)
    (hw : Closing K sizes identity size w) :
    StreamMeets K sizes identity size start (reject id message) V w :=
  Meets.throw (hw.ended fun _ h => by cases h) (hw.ended fun _ h => by cases h)

theorem stream_probe (hP : Still K P) (hw : P w)
    (hclosing : ∀ w', P w' → Closing K sizes identity size w') :
    StreamMeets K sizes identity size start (probe id) (fun _ => P) w := by
  refine stream_bind (R := fun _ => P) ?_ fun _ w' h => ?_
  · refine stream_look hP hw (fun _ h => by cases h) hclosing fun w' h => ?_
    cases w'.cancelled
    · exact h
    · exact fun _ h => by cases h
  · refine stream_look hP h (fun _ h => by cases h) hclosing fun w' h => ?_
    cases w'.guardFails
    · exact h
    · exact fun _ h => by cases h

theorem Flushed.progressOf {written : ℕ} (h : Flushed K sizes identity size state written w)
    (hcheckpoint : w.checkpoint = some state) :
    progressOf w = ⟨written, state.digestList.length⟩ := by
  unfold DownloadProgress.progressOf
  rw [h.1.partData, hcheckpoint, Option.map_some, Option.getD_some, Option.getD_some]
  congr 1
  have hlength := h.1.length
  rw [whole_of_empty h.2] at hlength
  exact hlength

/-- The final block flushes what there is and writes the state beside it. -/
theorem stream_settle {written : ℕ} (hw : Holding K sizes identity size state written w) :
    StreamMeets K sizes identity size start (settle state) (fun _ w =>
      Flushed K sizes identity size state written w ∧ w.checkpoint = some state) w := by
  have hclosing (w' : World) (h : Flushed K sizes identity size state written w') :
      Closing K sizes identity size w' := h.stopped.closing
  unfold settle
  refine stream_bind (R := fun _ => Flushed K sizes identity size state written) ?_ fun _ w' h => ?_
  · exact stream_update Holding.still hw (fun _ h => h.stopped.closing) fun w' h =>
      ⟨h.flush.stopped.closing, h.flush, flush_buffer⟩
  refine stream_bind (R := fun _ => Flushed K sizes identity size state written)
    (stream_observe Flushed.still h hclosing fun _ h => h) fun _ w' h => ?_
  refine stream_bind
    (R := fun there w => there = true ∧ Flushed K sizes identity size state written w)
    (stream_observe Flushed.still h hclosing fun w' h => ⟨by rw [h.1.part]; rfl, h⟩)
    fun there w' h => ?_
  obtain ⟨hthere, h⟩ := h
  rw [if_pos hthere]
  refine stream_bind (R := fun _ => Flushed K sizes identity size state written)
    (stream_observe Flushed.still h hclosing fun _ h => h) fun _ w' h => ?_
  exact stream_update Flushed.still h hclosing fun w' h =>
    ⟨h.checkpointed.stopped.closing, h.checkpointed, rfl⟩

/-- The name of the partial file is gone. -/
def Removed (w : World) : Prop := w.part = none ∧ w.handle.buffer = []

theorem Removed.still : Still K Removed := by
  intro move w hw
  have h : Elsewhere w (Surroundings.move move w) := limited_elsewhere move w
  exact ⟨h.part.trans hw.1, (congrArg Handle.buffer h.handle).trans hw.2⟩

theorem Removed.closing (hw : Removed w) : Closing K sizes identity size w :=
  ⟨resumable_of_absent hw.1, .inl hw.2⟩

theorem stream_settle_removed (hw : Removed w) :
    StreamMeets K sizes identity size start (settle state) (fun _ => Removed) w := by
  unfold settle
  refine stream_bind (R := fun _ => Removed) ?_ fun _ w' h => ?_
  · refine stream_update Removed.still hw (fun _ h => h.closing) fun w' h => ?_
    rw [flush_of_empty h.2]
    exact ⟨h.closing, h⟩
  refine stream_bind (R := fun _ => Removed)
    (stream_observe Removed.still h (fun _ h => h.closing) fun _ h => h) fun _ w' h => ?_
  refine stream_bind (R := fun there w => there = false ∧ Removed w)
    (stream_observe Removed.still h (fun _ h => h.closing) fun w' h => ⟨by rw [h.1]; rfl, h⟩)
    fun there w' h => ?_
  rw [if_neg (by rw [h.1]; exact Bool.false_ne_true)]
  exact Meets.pure h.2

theorem stream_settle_stopped (hw : Stopped K sizes identity size state w) :
    StreamMeets K sizes identity size start (settle state)
      (fun _ => Closing K sizes identity size) w := by
  rcases hw.2 with ⟨written, h⟩ | h
  · exact Meets.mono (stream_settle h) (fun _ _ h => h.1.stopped.closing) (fun _ _ h => h)
      (fun _ _ h => h) (fun _ h => h) fun _ _ h => h
  · exact Meets.mono (stream_settle_removed h) (fun _ _ h => h.closing) (fun _ _ h => h)
      (fun _ _ h => h) (fun _ h => h) fun _ _ h => h

theorem stream_guarded (hblocks : start.blocks = state.digestList.length)
    (hw : Flushed K sizes identity size state start.bytes w) :
    StreamMeets K sizes identity size start (guarded digests call size state deadline)
      (fun _ => Closing K sizes identity size) w := by
  unfold guarded
  refine stream_bind (R := fun result w => match result with
    | .ok r => Stopped K sizes identity size r.2 w
    | .error e => Raised K sizes identity size start e w) ?_ fun result w' h => ?_
  · exact Meets.attempt (Meets.mono (work_transfer hblocks hw) (fun _ _ h => h) (fun _ _ h => h)
      (fun _ _ _ => trivial) (fun _ h => h) fun _ _ h => h)
  cases result with
  | ok r => exact stream_bind (stream_settle_stopped h) fun _ w' h => Meets.ret h
  | error e =>
    obtain ⟨e, state'⟩ := e
    by_cases hfinal : Final e
    · refine stream_bind (stream_settle_stopped h.1) fun _ w' h => ?_
      exact Meets.raise (h.ended hfinal) (h.ended hfinal)
    · rw [Final, not_forall] at hfinal
      simp only [not_not] at hfinal
      obtain ⟨count, rfl⟩ := hfinal
      obtain ⟨written, hholding, hahead⟩ := h.2 count rfl
      refine stream_bind (stream_settle hholding) fun _ w' h => ?_
      have hended : Ended K sizes identity size start (.deferred count) w' := by
        refine ⟨h.1.stopped.closing, fun _ _ => ⟨h.1.2, ?_⟩⟩
        rw [h.1.progressOf h.2]
        exact hahead
      exact Meets.raise hended hended

/-! ## Taking the partial file over -/

/-- The call has opened the partial file, and it is as it was. -/
structure Opening (K : Prop) (sizes : String → ℕ) (identity : String) (size : ℕ) (before : Progress)
    (found : Option Checkpoint) (w : World) : Prop where
  lt : w.handle.ino < w.nextIno
  part : w.part = some w.handle.ino
  buffer : w.handle.buffer = []
  checkpoint : w.checkpoint = found
  length : w.content.length = before.bytes
  known : Known sizes identity size
  owned : before.bytes ≠ 0 → ∃ saved owner, found = some saved ∧ saved.identity = some owner ∧
    owner ≠ "" ∧ before.bytes ≤ sizes owner
  honest : K → w.answer.any isWhole = false

theorem Opening.still : Still K (Opening K sizes identity size before found) := by
  intro move w hw
  have h : Elsewhere w (Surroundings.move move w) := limited_elsewhere move w
  refine ⟨?_, ?_, ?_, h.checkpoint.trans hw.checkpoint, ?_, hw.known, hw.owned,
    move_answer move hw.honest⟩
  · rw [h.handle]
    exact Nat.lt_of_lt_of_le hw.lt h.nextIno
  · rw [h.part, h.handle]
    exact hw.part
  · rw [h.handle]
    exact hw.buffer
  · rw [h.content hw.lt]
    exact hw.length

theorem Opening.partData (hw : Opening K sizes identity size before found w) :
    w.partData = some w.data := by
  unfold World.partData
  rw [hw.part]
  rfl

theorem Opening.closing (hw : Opening K sizes identity size before found w) :
    Closing K sizes identity size w := by
  refine ⟨⟨fun ino hino => ?_, fun data hdata hne => ?_⟩, .inl hw.buffer⟩
  · rw [hw.part, Option.some.injEq] at hino
    exact hino ▸ hw.lt
  · rw [hw.partData, Option.some.injEq] at hdata
    rw [← hdata] at hne ⊢
    rw [hw.checkpoint, show w.data.content.length = before.bytes from hw.length]
    exact hw.owned fun hzero => hne (List.length_eq_zero_iff.mp (hw.length.trans hzero))

/-- The first checkpoint of the call makes the file its own. -/
theorem Opening.flushed (hw : Opening K sizes identity size before found w)
    (hown : state.identity = some identity) (hle : before.bytes ≤ size) :
    Flushed K sizes identity size state before.bytes { w with checkpoint := some state } := by
  have hwhole : (whole { w with checkpoint := some state }).length = before.bytes := by
    rw [whole_of_empty (w := { w with checkpoint := some state }) hw.buffer]
    exact hw.length
  exact ⟨⟨hw.lt, hw.part, ready_of_empty hw.buffer, hwhole, hle, hw.known, ⟨state, rfl, hown⟩, hown,
    hw.honest⟩, hw.buffer⟩

/-- The state a call works with is the saved one, or nothing was there. -/
structure Adopted (identity : String) (size : ℕ) (before : Progress) (state : Checkpoint) :
    Prop where
  own : state.identity = some identity
  le : before.bytes ≤ size
  saved : state.digestList.length = before.blocks ∨ before.bytes = 0 ∧ state.digestList = []

theorem stream_restart (hidentity : call.fingerprint digests = identity)
    (hzero : before.bytes = 0) (hw : Opening K sizes identity size before found w) :
    StreamMeets K sizes identity size start (restart digests call) (fun state w =>
      Adopted identity size before state ∧ Opening K sizes identity size before found w) w := by
  unfold restart
  refine stream_bind (R := fun _ => Opening K sizes identity size before found) ?_ fun _ w' h => ?_
  · refine stream_update Opening.still hw (fun _ h => h.closing) fun w' h => ?_
    have htruncated : Opening K sizes identity size before found (w'.truncate 0) := by
      have hrewritten := truncate_rewritten (w := w') 0
      refine ⟨?_, ?_, truncate_buffer 0, hrewritten.checkpoint.trans h.checkpoint, ?_, h.known,
        h.owned, ?_⟩
      · rw [hrewritten.ino, hrewritten.nextIno]
        exact h.lt
      · rw [hrewritten.part, hrewritten.ino]
        exact h.part
      · rw [truncate_content, hzero]
        rfl
      · rw [show (w'.truncate 0).answer = w'.answer from spill_answer w' _]
        exact h.honest
    exact ⟨htruncated.closing, htruncated⟩
  · exact Meets.pure ⟨⟨congrArg some hidentity, hzero ▸ Nat.zero_le _, .inr ⟨hzero, rfl⟩⟩, h⟩

theorem stream_adopt (hidentity : call.fingerprint digests = identity)
    (hblocks : before.blocks = (found.getD {}).digestList.length)
    (hw : Opening K sizes identity size before found w) :
    StreamMeets K sizes identity size start (adopt digests call size (found.getD {}))
      (fun state w => Adopted identity size before state ∧
        Opening K sizes identity size before found w) w := by
  unfold adopt
  split
  · rename_i hsaved
    rw [hidentity] at hsaved
    have hle : before.bytes ≤ size := by
      by_cases hzero : before.bytes = 0
      · exact hzero ▸ Nat.zero_le _
      · obtain ⟨saved, owner, rfl, howner, -, hfits⟩ := hw.owned hzero
        have hsame : owner = identity := Option.some.inj (howner.symm.trans hsaved)
        exact hw.known.1 ▸ hsame ▸ hfits
    refine stream_bind (R := fun length w => length = before.bytes ∧
      Opening K sizes identity size before found w)
      (stream_observe Opening.still hw (fun _ h => h.closing) fun _ h => ⟨h.length, h⟩)
      fun length w' h => ?_
    obtain ⟨hlength, h⟩ := h
    rw [if_neg (by omega)]
    exact Meets.pure ⟨⟨hsaved, hle, .inl hblocks.symm⟩, h⟩
  · split
    · refine stream_bind (R := fun length w => length = before.bytes ∧
        Opening K sizes identity size before found w)
        (stream_observe Opening.still hw (fun _ h => h.closing) fun _ h => ⟨h.length, h⟩)
        fun length w' h => ?_
      split
      · exact stream_reject _ h.2.closing
      · exact stream_restart hidentity (by omega) h.2
    · rename_i hunnamed
      refine stream_restart hidentity ?_ hw
      by_contra hpositive
      obtain ⟨saved, owner, rfl, howner, hnamed, -⟩ := hw.owned hpositive
      apply hunnamed
      rw [Option.getD_some, howner]
      simpa [truthy] using hnamed

theorem Ahead.of_adopted {after : Progress} (hadopted : Adopted identity size before state)
    (h : Ahead size ⟨before.bytes, state.digestList.length⟩ after) : Ahead size before after := by
  rcases hadopted.saved with hblocks | ⟨hzero, hnil⟩
  · rw [hblocks] at h
    exact h
  · refine ⟨h.1, ?_⟩
    rcases h.2 with hbytes | ⟨-, hsize, hverified, -⟩
    · exact .inl hbytes
    · dsimp only at hsize hverified
      omega

theorem stream_locked (hidentity : call.fingerprint digests = identity)
    (hblocks : before.blocks = (found.getD {}).digestList.length)
    (hw : Opening K sizes identity size before found w) :
    StreamMeets K sizes identity size before (locked digests call size deadline)
      (fun _ => Closing K sizes identity size) w := by
  have hclosing (w' : World) (h : Opening K sizes identity size before found w') :
      Closing K sizes identity size w' := h.closing
  unfold locked
  refine stream_bind (R := fun _ => Opening K sizes identity size before found) ?_ fun _ w' h => ?_
  · refine stream_look Opening.still hw (fun _ h => by cases h) hclosing fun w' h => ?_
    cases w'.locked
    · exact h
    · exact fun _ h => by cases h
  refine stream_bind (stream_probe Opening.still h hclosing) fun _ w' h => ?_
  refine stream_bind (R := fun saved w => saved = found.getD {} ∧
    Opening K sizes identity size before found w)
    (stream_observe Opening.still h hclosing fun w' h => ⟨by rw [h.checkpoint], h⟩)
    fun saved w' h => ?_
  obtain ⟨rfl, h⟩ := h
  refine stream_bind (R := fun _ => Opening K sizes identity size before found)
    (stream_observe Opening.still h hclosing fun _ h => h) fun there w' h => ?_
  split
  · refine stream_bind (R := fun _ => Opening K sizes identity size before found)
      (stream_observe Opening.still h hclosing fun _ h => h) fun recorded w' h => ?_
    split
    · refine stream_bind (R := fun _ => Closing K sizes identity size) ?_ fun _ w' h => Meets.pure h
      refine stream_effect Opening.still h (fun _ h => by cases h) hclosing fun w' h => ?_
      have hremoved : Closing K sizes identity size { w' with part := none } :=
        Removed.closing ⟨rfl, h.buffer⟩
      rw [World.unlinkPart, h.part]
      exact ⟨hremoved, hremoved⟩
    · exact stream_reject _ h.closing
  · refine stream_bind (stream_adopt hidentity hblocks h) fun state w' h => ?_
    obtain ⟨hadopted, h⟩ := h
    refine stream_bind (R := fun _ => Flushed K sizes identity size state before.bytes) ?_
      fun _ w' h => ?_
    · refine stream_bind (R := fun _ => Opening K sizes identity size before found)
        (stream_observe Opening.still h hclosing fun _ h => h) fun _ w' h => ?_
      exact stream_update Opening.still h hclosing fun w' h =>
        ⟨(h.flushed hadopted.own hadopted.le).stopped.closing, h.flushed hadopted.own hadopted.le⟩
    have hended (e : StreamError) (w' : World)
        (h : Ended K sizes identity size ⟨before.bytes, state.digestList.length⟩ e w') :
        Ended K sizes identity size before e w' :=
      ⟨h.1, fun count hcount => ⟨(h.2 count hcount).1, fun hK =>
        ((h.2 count hcount).2 hK).of_adopted hadopted⟩⟩
    have hguarded : StreamMeets K sizes identity size ⟨before.bytes, state.digestList.length⟩
        (guarded digests call size state deadline) (fun _ => Closing K sizes identity size) _ :=
      stream_guarded rfl h
    exact Meets.mono hguarded (fun _ _ h => h) hended hended (fun _ h => h) fun _ _ h => h

/-- What a call finds, and what the surroundings do not change before it opens
the partial file. -/
structure Idle (K : Prop) (sizes : String → ℕ) (before : Progress) (found : Option Checkpoint)
    (w : World) : Prop where
  resumable : Resumable sizes w
  buffer : w.handle.buffer = []
  progress : progressOf w = before
  checkpoint : w.checkpoint = found
  honest : K → w.answer.any isWhole = false

theorem Idle.still : Still K (Idle K sizes before found) := by
  intro move w hw
  have h : Elsewhere w (Surroundings.move move w) := limited_elsewhere move w
  exact ⟨Resumable.still move w hw.resumable,
    (congrArg Handle.buffer h.handle).trans hw.buffer,
    (progressOf_elsewhere h hw.resumable.part_lt).trans hw.progress,
    h.checkpoint.trans hw.checkpoint, move_answer move hw.honest⟩

theorem Idle.closing (hw : Idle K sizes before found w) : Closing K sizes identity size w :=
  ⟨hw.resumable, .inl hw.buffer⟩

theorem Idle.openPart (hw : Idle K sizes before found w) (hknown : Known sizes identity size) :
    Opening K sizes identity size before found w.openPart := by
  have hbytes := congrArg Progress.bytes hw.progress
  dsimp only [progressOf] at hbytes
  unfold World.openPart
  split
  · rename_i ino hpart
    have hdata : w.partData = some (w.files ino) := by
      rw [World.partData, hpart]
      rfl
    rw [hdata, Option.map_some, Option.getD_some] at hbytes
    refine ⟨hw.resumable.part_lt ino hpart, hpart, rfl, hw.checkpoint, hbytes, hknown,
      fun hne => ?_, hw.honest⟩
    have hcontent : (w.files ino).content ≠ [] := by
      intro hnil
      rw [hnil] at hbytes
      exact hne hbytes.symm
    obtain ⟨saved, owner, hsaved, howner, hnamed, hfits⟩ := hw.resumable.owned _ hdata hcontent
    rw [hbytes] at hfits
    exact ⟨saved, owner, hw.checkpoint.symm.trans hsaved, howner, hnamed, hfits⟩
  · rename_i hpart
    have hdata : w.partData = none := by
      rw [World.partData, hpart]
      rfl
    rw [hdata] at hbytes
    have hnew : (w.addFile ⟨[], w.clock⟩).files w.nextIno = ⟨[], w.clock⟩ := if_pos rfl
    refine ⟨Nat.lt_succ_self _, rfl, rfl, hw.checkpoint, ?_, hknown,
      fun hne => absurd hbytes.symm hne, hw.honest⟩
    exact (congrArg (fun data => data.content.length) hnew).trans hbytes

/-- A call that yields is further than it began, unless it asked for the rest
of a partial file and got the whole file. -/
theorem stream_streamDownload (hidentity : call.fingerprint digests = identity)
    (hsize : ∀ n : ℕ, call.expectedSize = some (n : ℤ) → Known sizes identity n)
    (hblocks : before.blocks = (found.getD {}).digestList.length)
    (hw : Idle K sizes before found w) :
    StreamMeets K sizes identity (sizes identity) before (streamDownload digests call)
      (fun _ => Closing K sizes identity (sizes identity)) w := by
  have hclosing (w' : World) (h : Idle K sizes before found w') :
      Closing K sizes identity (sizes identity) w' := h.closing
  unfold streamDownload
  refine stream_bind (R := fun _ => Idle K sizes before found) ?_ fun _ w' h => ?_
  · refine Meets.ofExcept ?_
    cases hvalid : validateDownloadUrl call.url with
    | ok _ => exact hw
    | error e =>
      have hfinal := validateDownloadUrl_final hvalid
      exact ⟨(hclosing w hw).ended hfinal, (hclosing w hw).ended hfinal⟩
  cases hexpected : call.expectedSize with
  | none => exact stream_reject _ (hclosing _ h)
  | some expected =>
    dsimp only
    split
    · exact stream_reject _ (hclosing _ h)
    rename_i hnonneg
    obtain ⟨n, rfl⟩ := Int.eq_ofNat_of_zero_le (Int.not_lt.mp hnonneg)
    have hknown := hsize n hexpected
    have hn : n = sizes identity := hknown.1.symm
    subst hn
    rw [Int.toNat_natCast]
    refine stream_bind (R := fun _ => Idle K sizes before found)
      (stream_observe Idle.still h hclosing fun _ h => h) fun _ w' h => ?_
    refine stream_bind (R := fun _ => Opening K sizes identity (sizes identity) before found) ?_
      fun _ w' h => ?_
    · exact stream_update Idle.still h hclosing fun w' h =>
        ⟨(h.openPart hknown).closing, h.openPart hknown⟩
    refine stream_bind (R := fun _ => Opening K sizes identity (sizes identity) before found)
      (stream_observe Opening.still h (fun _ h => h.closing) fun _ h => h) fun now w' h => ?_
    let Left (result : Except StreamError ℕ) (w : World) : Prop := match result with
      | .ok _ => Closing K sizes identity (sizes identity) w
      | .error e => Ended K sizes identity (sizes identity) before e w
    have hleft (result : Except StreamError ℕ) (w : World) (h : Left result w) :
        Closing K sizes identity (sizes identity) w := by
      cases result with
      | ok n => exact h
      | error e => exact h.1
    have hP (result : Except StreamError ℕ) : Still K (Left result) := by
      cases result with
      | ok n => exact Closing.still
      | error e => exact Ended.still
    refine stream_bind (R := Left) ?_ fun result w' h => ?_
    · exact Meets.attempt (Meets.mono (stream_locked hidentity hblocks h) (fun _ _ h => h)
        (fun _ _ h => h) (fun _ _ _ => trivial) (fun _ h => h) fun _ _ h => h)
    refine stream_bind (R := fun _ => Left result) ?_ fun _ w' h => ?_
    · refine stream_update (hP result) h (hleft result) fun w' h => ?_
      refine ⟨(hleft result w' h).flush, ?_⟩
      cases result with
      | ok n => exact Closing.flush h
      | error e =>
        refine ⟨h.1.flush, fun count hcount => ?_⟩
        have hyielded := h.2 count hcount
        rw [flush_of_empty hyielded.1]
        exact hyielded
    have hlast (w : World) (h : Left result w) : StreamMeets K sizes identity (sizes identity)
        before (Prog.ofExcept result) (fun _ => Closing K sizes identity (sizes identity)) w := by
      refine Meets.ofExcept ?_
      cases result with
      | ok n => exact h
      | error e => exact ⟨h, h⟩
    split
    · exact stream_bind (R := fun _ => Left result)
        (stream_observe (hP result) h (hleft result) fun _ h => h) fun _ w' h => hlast w' h
    · exact hlast w' h

end Calls

end MediaSync.DownloadProgress
