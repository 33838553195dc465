import MediaSync.DownloadTransfer

/-!
# One call of a download

The call around the transfer: it opens the partial file, takes it over if it
is free or its own, and writes out what it has whenever the transfer ends. A
call that starts where no digest stands beside an incomplete file returns only
with a verified target, and every call leaves a sound directory behind.
-/
namespace MediaSync.DownloadIntegrity
open FaultPrograms PythonText DownloadStream

variable {digests : Digests} {S : Prop} {identity : String} {state : Checkpoint} {w : World}
variable {call : Call} {size : ℕ} {α β : Type} {P : World → Prop}

/-! ## Rules for the call around the transfer -/

/-- An error leaves a file object that can be closed. -/
def Closing (digests : Digests) (S : Prop) (identity : String) (w : World) : Prop :=
  Directory digests S w ∧
    (w.handle.buffer = [] ∨ ∃ state, Working digests S identity state w)

theorem Working.closing (hw : Working digests S identity state w) :
    Closing digests S identity w := ⟨hw.directory, .inr ⟨state, hw⟩⟩

theorem Closing.stable : Stable (Closing digests S identity) := by
  intro w w' h hw
  refine ⟨Directory.stable digests S w w' h hw.1, ?_⟩
  rcases hw.2 with hbuffer | ⟨state, hworking⟩
  · rw [h.handle]
    exact .inl hbuffer
  · exact .inr ⟨state, Working.stable w w' h hworking⟩

theorem Closing.flush (hw : Closing digests S identity w) :
    Closing digests S identity w.flush ∧ Keeps identity w w.flush := by
  rcases hw.2 with hbuffer | ⟨state, hworking⟩
  · rw [flush_of_empty hbuffer]
    exact ⟨hw, Keeps.refl identity w⟩
  · exact ⟨hworking.flush.1.closing, hworking.flush.2⟩

def callPost (digests : Digests) (S : Prop) (identity : String) (V : α → World → Prop) :
    Post World StreamError α where
  value := V
  raised _ := Closing digests S identity
  refused _ := Closing digests S identity
  crashed := Directory digests S
  step := Keeps identity

abbrev CallMeets (digests : Digests) (S : Prop) (identity : String) (p : Stream α)
    (V : α → World → Prop) (w : World) : Prop :=
  Meets Move p (callPost digests S identity V) w

theorem call_bind {p : Stream α} {f : α → Stream β} {R : α → World → Prop}
    {V : β → World → Prop} (hp : CallMeets digests S identity p R w)
    (hf : ∀ a w', R a w' → CallMeets digests S identity (f a) V w') :
    CallMeets digests S identity (p >>= f) V w := Meets.bind hp hf

theorem call_effect {act : World → Except StreamError α × World} {failure : StreamError}
    {V : α → World → Prop} (hP : Stable P) (hw : P w)
    (hclosing : ∀ w', P w' → Closing digests S identity w')
    (hact : ∀ w', P w' → Closing digests S identity (act w').2 ∧
      Keeps identity w' (act w').2 ∧ ∀ a, (act w').1 = .ok a → V a (act w').2) :
    CallMeets digests S identity (Prog.effect failure act) V w := by
  refine Meets.stable_effect (fun move w' => hP w' _ (move_elsewhere move w')) hw
    (fun w' h => (hclosing w' h).1) (fun w' h => ⟨hclosing w' h, (hact w' h).1⟩)
    (fun w' h => (hact w' h).2.1) fun w' h => ?_
  obtain ⟨hnext, _, hvalue⟩ := hact w' h
  cases hresult : (act w').1 with
  | ok a => exact hvalue a hresult
  | error e => exact ⟨hnext, hnext⟩

theorem call_look {view : World → Except StreamError α} {failure : StreamError}
    {V : α → World → Prop} (hP : Stable P) (hw : P w)
    (hclosing : ∀ w', P w' → Closing digests S identity w')
    (hview : ∀ w', P w' → ∀ a, view w' = .ok a → V a w') :
    CallMeets digests S identity (Prog.look failure view) V w :=
  call_effect hP hw hclosing fun w' h =>
    ⟨hclosing w' h, Keeps.refl identity w', hview w' h⟩

theorem call_observe {view : World → α} {V : α → World → Prop} (hP : Stable P) (hw : P w)
    (hclosing : ∀ w', P w' → Closing digests S identity w')
    (hview : ∀ w', P w' → V (view w') w') :
    CallMeets digests S identity (observe id view) V w :=
  call_look hP hw hclosing fun w' h _ ha => Except.ok.inj ha ▸ hview w' h

theorem call_update {next : World → World} {V : Unit → World → Prop} (hP : Stable P) (hw : P w)
    (hclosing : ∀ w', P w' → Closing digests S identity w')
    (hnext : ∀ w', P w' → Closing digests S identity (next w') ∧ Keeps identity w' (next w') ∧
      V () (next w')) : CallMeets digests S identity (update id next) V w :=
  call_effect hP hw hclosing fun w' h =>
    ⟨(hnext w' h).1, (hnext w' h).2.1, fun _ _ => (hnext w' h).2.2⟩

theorem call_probe (hP : Stable P) (hw : P w)
    (hclosing : ∀ w', P w' → Closing digests S identity w') :
    CallMeets digests S identity (probe id) (fun _ => P) w :=
  call_bind (R := fun _ => P) (call_look hP hw hclosing fun _ h _ _ => h) fun _ _ h =>
    call_look hP h hclosing fun _ h _ _ => h

theorem call_reject {V : α → World → Prop} (message : String)
    (hw : Closing digests S identity w) :
    CallMeets digests S identity (reject id message) V w := Meets.throw hw hw

/-! ## The final block -/

/-- Writing the state of a call to its checkpoint file. -/
theorem call_writeCheckpoint (hP : Stable P)
    (hworking : ∀ w', P w' → Working digests S identity state w')
    (hnext : ∀ w', P w' → P { w' with checkpoint := some state }) (hw : P w) :
    CallMeets digests S identity (writeCheckpoint id state) (fun _ => P) w := by
  have hclosing (w' : World) (h : P w') : Closing digests S identity w' :=
    (hworking w' h).closing
  refine call_bind (R := fun _ => P) (call_observe hP hw hclosing fun _ h => h) fun _ w' h => ?_
  refine call_update hP h hclosing fun w' h => ?_
  exact ⟨(hworking w' h).checkpointed.1.closing, (hworking w' h).checkpointed.2, hnext w' h⟩

/-- What the final block finds, whether the transfer returned or raised. -/
def Settling (digests : Digests) (S : Prop) (identity : String) (call : Call) (size : ℕ)
    (result : Except (StreamError × Checkpoint) (ℕ × Checkpoint)) (w : World) : Prop :=
  Working digests S identity (stateAfter result) w ∧
    ∀ r, result = .ok r → Published digests S call size w

variable {result : Except (StreamError × Checkpoint) (ℕ × Checkpoint)}

theorem Settling.stable : Stable (Settling digests S identity call size result) := by
  intro w w' h hw
  refine ⟨Working.stable w w' h hw.1, fun r hr => ?_⟩
  exact (Published.stable w w' h ⟨hw.1, hw.2 r hr⟩).2

theorem Settling.flush (hw : Settling digests S identity call size result w) :
    Settling digests S identity call size result w.flush := by
  refine ⟨hw.1.flush.1, fun r hr => ?_⟩
  rw [flush_of_empty (hw.2 r hr).buffer]
  exact hw.2 r hr

theorem Settling.checkpointed (hw : Settling digests S identity call size result w) :
    Settling digests S identity call size result
      { w with checkpoint := some (stateAfter result) } :=
  ⟨hw.1.checkpointed.1, fun r hr => ⟨(hw.2 r hr).buffer, (hw.2 r hr).target⟩⟩

theorem call_settle (hw : Settling digests S identity call size result w) :
    CallMeets digests S identity (settle (stateAfter result))
      (fun _ => Settling digests S identity call size result) w := by
  have hP : Stable (Settling digests S identity call size result) := Settling.stable
  have hclosing (w' : World) (h : Settling digests S identity call size result w') :
      Closing digests S identity w' := h.1.closing
  unfold settle
  refine call_bind (R := fun _ => Settling digests S identity call size result) ?_
    fun _ w' h => ?_
  · exact call_update hP hw hclosing fun w' h => ⟨h.1.flush.1.closing, h.1.flush.2, h.flush⟩
  refine call_bind (R := fun _ => Settling digests S identity call size result)
    (call_observe hP h hclosing fun _ h => h) fun _ w' h => ?_
  refine call_bind (R := fun _ => Settling digests S identity call size result)
    (call_observe hP h hclosing fun _ h => h) fun exists? w' h => ?_
  split
  · exact call_writeCheckpoint hP (fun _ h => h.1) (fun _ h => h.checkpointed) h
  · exact Meets.pure h

theorem call_guarded {content : Bytes} {deadline : ℕ}
    (hidentity : call.fingerprint digests = identity)
    (hw : Adopted digests S identity size state content w) :
    CallMeets digests S identity (guarded digests call size state deadline)
      (fun _ w => Directory digests S w ∧ Published digests S call size w) w := by
  unfold guarded
  refine call_bind (R := Settling digests S identity call size) ?_ fun result w' h => ?_
  · refine Meets.attempt ?_
    refine Meets.mono (body_transfer hidentity hw) (fun r w' h => ⟨h.1, fun _ _ => h.2⟩)
      (fun e w' h => ⟨h, fun _ hr => by cases hr⟩) (fun _ _ _ => trivial) (fun _ h => h)
      (fun _ _ h => h)
  refine call_bind (call_settle h) fun _ w' h => Meets.ofExcept ?_
  cases result with
  | ok r => exact ⟨h.1.directory, h.2 r rfl⟩
  | error e => exact ⟨h.1.closing, h.1.closing⟩

/-! ## Taking the partial file over -/

/-- What was there when the call began is still there. -/
structure Since (w₀ w : World) : Prop where
  checkpoint : w.checkpoint = w₀.checkpoint
  nextIno : w₀.nextIno ≤ w.nextIno
  files (ino : ℕ) : ino < w₀.nextIno → w.files ino = w₀.files ino
  target (ino : ℕ) : w.target = some (.file ino) → ino < w₀.nextIno →
    w₀.target = some (.file ino)

theorem Since.refl (w : World) : Since w w :=
  ⟨rfl, Nat.le_refl _, fun _ _ => rfl, fun _ h _ => h⟩

theorem Since.elsewhere {w₀ w' : World} (hw : Since w₀ w) (h : Elsewhere w w') : Since w₀ w' := by
  refine ⟨h.checkpoint.trans hw.checkpoint, Nat.le_trans hw.nextIno h.nextIno, ?_, ?_⟩
  · intro ino hino
    rw [h.files ino (Nat.lt_of_lt_of_le hino hw.nextIno)]
    exact hw.files ino hino
  · intro ino hfile hino
    rcases h.target with hsame | ⟨_, hnew⟩
    · rw [hsame] at hfile
      exact hw.target ino hfile hino
    · have := (hnew ino hfile).1
      have := hw.nextIno
      omega

/-- The call holds the partial file and has not touched it. -/
structure Opened (digests : Digests) (S : Prop) (w₀ w : World) : Prop where
  directory : Directory digests S w
  nextIno : w₀.nextIno ≤ w.nextIno
  checkpoint : w.checkpoint = w₀.checkpoint
  part : w.part = some w.handle.ino
  buffer : w.handle.buffer = []

theorem Opened.stable {w₀ : World} : Stable (Opened digests S w₀) := by
  intro w w' h hw
  refine ⟨Directory.stable digests S w w' h hw.directory, Nat.le_trans hw.nextIno h.nextIno,
    h.checkpoint.trans hw.checkpoint, ?_, ?_⟩
  · rw [h.part, h.handle]
    exact hw.part
  · rw [h.handle]
    exact hw.buffer

theorem Opened.closing {w₀ : World} (hw : Opened digests S w₀ w) :
    Closing digests S identity w := ⟨hw.directory, .inl hw.buffer⟩

theorem Opened.partData {w₀ : World} (hw : Opened digests S w₀ w) :
    w.partData = some w.data := by
  unfold World.partData
  rw [hw.part]
  rfl

/-- Digests stored for this download describe a complete file. -/
def Completed (S : Prop) (identity : String) (size : ℕ) (w : World) : Prop :=
  S → ∀ s, w.checkpoint = some s → s.identity = some identity → s.digestList ≠ [] →
    w.content ≠ [] ∧ w.content.length = size

theorem Completed.elsewhere {w₀ w' : World} (hw : Completed S identity size w)
    (hopened : Opened digests S w₀ w) (h : Elsewhere w w') : Completed S identity size w' := by
  unfold Completed
  rw [h.checkpoint, h.content (hopened.directory.part_lt _ hopened.part)]
  exact hw

/-- The target is not another name of the partial file, and the partial file
does not belong to another download. -/
structure Unclaimed (digests : Digests) (S : Prop) (identity : String) (w₀ w : World) :
    Prop where
  opened : Opened digests S w₀ w
  target : w.target ≠ some (.file w.handle.ino)
  mine : ¬ Foreign identity w

theorem Unclaimed.stable {w₀ : World} : Stable (Unclaimed digests S identity w₀) := by
  intro w w' h hw
  have hopened := Opened.stable w w' h hw.opened
  refine ⟨hopened, ?_, ?_⟩
  · rw [h.handle]
    exact h.not_target (hw.opened.directory.part_lt _ hw.opened.part) hw.target
  · unfold Foreign checkpointIdentity
    rw [h.checkpoint, h.partData hw.opened.directory.part_lt]
    exact hw.mine

/-- The partial file and a state that fit together. -/
structure Claimed (digests : Digests) (S : Prop) (identity : String) (size : ℕ) (w₀ : World)
    (state : Checkpoint) (w : World) : Prop where
  unclaimed : Unclaimed digests S identity w₀ w
  own : state.identity = some identity
  sane : Sane w.nextIno state
  le : w.content.length ≤ size
  sent (offset : ℕ) (b : UInt8) : w.content[offset]? = some b → Sent w identity offset b
  described : S → state.digestList ≠ [] → w.content ≠ [] ∧ w.content.length = size ∧
    Describes digests state.digestList w.content

theorem Claimed.stable {w₀ : World} :
    Stable (Claimed digests S identity size w₀ state) := by
  intro w w' h hw
  have hlt := hw.unclaimed.opened.directory.part_lt _ hw.unclaimed.opened.part
  have hcontent := h.content hlt
  refine ⟨Unclaimed.stable w w' h hw.unclaimed, hw.own, hw.sane.mono h.nextIno, ?_, ?_, ?_⟩
  · rw [hcontent]
    exact hw.le
  · rw [hcontent]
    exact fun offset b hb => h.sent.mpr (hw.sent offset b hb)
  · rw [hcontent]
    exact hw.described

/-- Writing the first checkpoint makes the partial file this call's own. -/
theorem Claimed.adopted {w₀ : World} (hw : Claimed digests S identity size w₀ state w) :
    Adopted digests S identity size state w.content { w with checkpoint := some state } ∧
      Keeps identity w { w with checkpoint := some state } := by
  have hopened := hw.unclaimed.opened
  have hstate (s : Checkpoint) (hs : some state = some s ∨ s = state) : s = state := by
    rcases hs with hs | hs
    · exact (Option.some.inj hs).symm
    · exact hs
  have hapart : Apart { w with checkpoint := some state } := ⟨hopened.part, hw.unclaimed.target⟩
  have hworking : Working digests S identity state { w with checkpoint := some state } := by
    refine ⟨hopened.directory.part_lt _ hopened.part, ?_, hopened.directory.target_lt,
      fun hne => absurd hopened.buffer hne, ⟨state, rfl, hw.own⟩, ?_, hw.own, ?_, ?_⟩
    · intro ino hino
      change w.part = some ino at hino
      rw [hopened.part] at hino
      exact (Option.some.inj hino).symm
    · intro s hs
      rw [hstate s hs]
      exact hw.sane
    · intro offset b hb
      unfold whole at hb
      change (w.content ++ w.handle.buffer)[offset]? = some b at hb
      rw [hopened.buffer, List.append_nil] at hb
      exact hw.sent offset b hb
    · intro hS s hs
      rw [hstate s hs]
      by_cases hnil : state.digestList = []
      · exact .inl hnil
      · exact .inr ⟨hopened.buffer, .inr (hw.described hS hnil).2.2⟩
  constructor
  · refine ⟨⟨w.handle.position, hworking, hapart, hopened.buffer, rfl, rfl⟩, hw.le, ?_⟩
    intro hS s hs hne
    rw [hstate s hs] at hne
    exact ⟨(hw.described hS hne).1, (hw.described hS hne).2.1⟩
  · exact ⟨fun _ hentry => ⟨hentry, fun _ _ => rfl⟩,
      fun hforeign => absurd hforeign hw.unclaimed.mine, Nat.le_refl _⟩

theorem fingerprint_ne (digests : Digests) (call : Call) : call.fingerprint digests ≠ "" :=
  digests.sha256Json_ne _

/-- The state a call starts with when nothing of it is there. -/
def newState (identity : String) : Checkpoint :=
  { identity := some identity, digests := some [] }

/-- An emptied partial file fits a new state. -/
theorem Unclaimed.truncate {w₀ : World} (hw : Unclaimed digests S identity w₀ w)
    (hidentity : identity ≠ "") :
    Claimed digests S identity size w₀ (newState identity) (w.truncate 0) ∧
      Keeps identity w (w.truncate 0) := by
  have h : Rewritten w (w.truncate 0) := truncate_rewritten 0
  have hopened := hw.opened
  have hpart : (w.truncate 0).partData = some (w.truncate 0).data := by
    unfold World.partData World.data
    rw [h.part, h.ino, hopened.part]
    rfl
  have hempty : (w.truncate 0).content = [] := truncate_content
  have hdirectory : Directory digests S (w.truncate 0) := by
    refine ⟨?_, ?_, ?_, ?_, ?_⟩
    · rw [h.part, h.nextIno]
      exact hopened.directory.part_lt
    · rw [h.target, h.nextIno]
      exact hopened.directory.target_lt
    · rw [h.checkpoint, h.nextIno]
      exact hopened.directory.saved
    · intro data hdata offset b hb
      rw [hpart, Option.some.injEq] at hdata
      have hcontent : data.content = [] := hdata ▸ hempty
      rw [hcontent, List.getElem?_nil] at hb
      cases hb
    · intro _ s data _ hdata
      rw [hpart, Option.some.injEq] at hdata
      exact .inl (hdata ▸ hempty)
  constructor
  · refine ⟨⟨⟨hdirectory, ?_, ?_, ?_, truncate_buffer 0⟩, ?_, ?_⟩, rfl, ?_, ?_, ?_, ?_⟩
    · rw [h.nextIno]
      exact hopened.nextIno
    · rw [h.checkpoint]
      exact hopened.checkpoint
    · rw [h.part, h.ino]
      exact hopened.part
    · rw [h.target, h.ino]
      exact hw.target
    · intro hforeign
      obtain ⟨_, data, hdata, hne⟩ := hforeign
      rw [hpart, Option.some.injEq] at hdata
      exact hne (hdata ▸ hempty)
    · exact ⟨fun id hid => Option.some.inj hid ▸ hidentity, fun p hp => by cases hp⟩
    · rw [hempty]
      exact Nat.zero_le _
    · intro offset b hb
      rw [hempty, List.getElem?_nil] at hb
      cases hb
    · exact fun _ hne => absurd rfl hne
  · refine ⟨?_, fun hforeign => absurd hforeign hw.mine, Nat.le_of_eq h.nextIno.symm⟩
    intro entry hentry
    refine ⟨h.target.trans hentry, fun ino hino => h.files ino fun hown => ?_⟩
    rw [hino, hown] at hentry
    exact hw.target hentry

theorem call_restart {w₀ : World} (hidentity : call.fingerprint digests = identity)
    (hw : Unclaimed digests S identity w₀ w) :
    CallMeets digests S identity (restart digests call)
      (fun state => Claimed digests S identity size w₀ state) w := by
  have hne : identity ≠ "" := hidentity ▸ fingerprint_ne digests call
  unfold restart
  refine call_bind (R := fun _ => Claimed digests S identity size w₀ (newState identity)) ?_
    fun _ w' h => ?_
  · refine call_update Unclaimed.stable hw (fun _ h => h.opened.closing) fun w' h => ?_
    have hnext : Claimed digests S identity size w₀ (newState identity) (w'.truncate 0) ∧
        Keeps identity w' (w'.truncate 0) := h.truncate hne
    exact ⟨hnext.1.unclaimed.opened.closing, hnext.2, hnext.1⟩
  · rw [hidentity]
    exact Meets.pure h

/-- Bytes without a recorded download cannot be there. -/
theorem Opened.not_foreign {w₀ : World} (hw : Opened digests S w₀ w)
    (h : checkpointIdentity w = none ∨ checkpointIdentity w = some identity ∨ w.content = []) :
    ¬ Foreign identity w := by
  intro hforeign
  obtain ⟨⟨other, hother, hne⟩, data, hdata, hcontent⟩ := hforeign
  rcases h with hnone | hsame | hempty
  · rw [hnone] at hother
    cases hother
  · rw [hsame, Option.some.injEq] at hother
    exact hne hother.symm
  · rw [hw.partData, Option.some.injEq] at hdata
    exact hcontent (hdata ▸ hempty)

/-- The saved state fits the partial file it was saved for. -/
theorem Opened.claimed {w₀ : World} (hw : Opened digests S w₀ w)
    (htarget : w.target ≠ some (.file w.handle.ino)) (hcompleted : Completed S identity size w)
    (hstate : w.checkpoint = some state) (hown : state.identity = some identity)
    (hle : w.content.length ≤ size) : Claimed digests S identity size w₀ state w := by
  have hidentity : checkpointIdentity w = some identity := by
    unfold checkpointIdentity
    rw [hstate]
    exact hown
  refine ⟨⟨hw, htarget, hw.not_foreign (.inr (.inl hidentity))⟩, hown,
    hw.directory.saved state hstate, hle, ?_, ?_⟩
  · intro offset b hb
    obtain ⟨named, hnamed, hsent⟩ := hw.directory.sent w.data hw.partData offset b hb
    rw [hidentity, Option.some.injEq] at hnamed
    rw [hnamed]
    exact hsent
  · intro hS hne
    obtain ⟨hcontent, hlength⟩ := hcompleted hS state hstate hown hne
    rcases hw.directory.described hS state w.data hstate hw.partData with hempty | hdescribed
    · exact absurd hempty hcontent
    · exact ⟨hcontent, hlength, hdescribed⟩

/-- Whichever way a call takes the partial file over, file and state fit. -/
theorem call_adopt {w₀ : World} {saved : Checkpoint}
    (hidentity : call.fingerprint digests = identity)
    (hsaved : saved = w₀.checkpoint.getD {})
    (hw : Opened digests S w₀ w ∧ Completed S identity size w ∧
      w.target ≠ some (.file w.handle.ino)) :
    CallMeets digests S identity (adopt digests call size saved)
      (fun state => Claimed digests S identity size w₀ state) w := by
  let Free (w : World) : Prop := Opened digests S w₀ w ∧ Completed S identity size w ∧
    w.target ≠ some (.file w.handle.ino)
  have hP : Stable Free := by
    intro w w' h hw
    refine ⟨Opened.stable w w' h hw.1, hw.2.1.elsewhere hw.1 h, ?_⟩
    rw [h.handle]
    exact h.not_target (hw.1.directory.part_lt _ hw.1.part) hw.2.2
  have hclosing (w' : World) (h : Free w') : Closing digests S identity w' := h.1.closing
  have hcurrent (w' : World) (h : Opened digests S w₀ w') :
      checkpointIdentity w' = saved.identity := by
    unfold checkpointIdentity
    rw [h.checkpoint, hsaved]
    cases w₀.checkpoint <;> rfl
  have hmeasure : CallMeets digests S identity (observe id fun w => w.content.length)
      (fun length w => length = w.content.length ∧ Free w) w :=
    call_observe hP hw hclosing fun _ h => ⟨rfl, h⟩
  unfold adopt
  rw [hidentity]
  split
  · rename_i hown
    refine call_bind hmeasure fun length w' h => ?_
    obtain ⟨hlength, hopened, hcompleted, htarget⟩ := h
    split
    · refine call_restart hidentity ⟨hopened, htarget, hopened.not_foreign (.inr (.inl ?_))⟩
      rw [hcurrent w' hopened, hown]
    · rename_i hle
      refine Meets.pure (hopened.claimed htarget hcompleted ?_ hown (by omega))
      rw [hopened.checkpoint]
      cases hcheckpoint : w₀.checkpoint with
      | none =>
        rw [hsaved, hcheckpoint] at hown
        cases hown
      | some s =>
        rw [hsaved, hcheckpoint]
        rfl
  · split
    · refine call_bind hmeasure fun length w' h => ?_
      obtain ⟨hlength, hopened, hcompleted, htarget⟩ := h
      split
      · exact call_reject _ hopened.closing
      · rename_i hzero
        refine call_restart hidentity ⟨hopened, htarget, hopened.not_foreign (.inr (.inr ?_))⟩
        exact List.eq_nil_of_length_eq_zero (by omega)
    · rename_i hunnamed
      obtain ⟨hopened, _, htarget⟩ := hw
      refine call_restart hidentity ⟨hopened, htarget, hopened.not_foreign (.inl ?_)⟩
      rw [hcurrent w hopened]
      cases hid : saved.identity with
      | none => rfl
      | some text =>
        have hne : text ≠ "" := by
          cases hcheckpoint : w₀.checkpoint with
          | none =>
            rw [hsaved, hcheckpoint] at hid
            cases hid
          | some s =>
            rw [hsaved, hcheckpoint] at hid
            exact (hopened.directory.saved s (hopened.checkpoint.trans hcheckpoint)).named text hid
        rw [hid] at hunnamed
        exact absurd (by simp [truthy, hne]) hunnamed

/-! ## The whole call -/

/-- A target that was there, recorded as published by this download. -/
def Recorded (digests : Digests) (call : Call) (w : World) : Prop :=
  recordedTarget digests call (w.checkpoint.getD {}) w = true

/-- What a call that returns has reached. -/
def Reached (digests : Digests) (S : Prop) (call : Call) (size : ℕ) (w₀ w : World) : Prop :=
  Recorded digests call w₀ ∨ Published digests S call size w

theorem recordedTarget_eq_true {saved : Checkpoint} {w : World} :
    recordedTarget digests call saved w = true ↔ ∃ ino, w.target = some (.file ino) ∧
      saved.identity = some (call.fingerprint digests) ∧
        saved.publishedIdentity = some ((w.files ino).identity ino) := by
  unfold recordedTarget
  cases w.target with
  | none => simp
  | some entry => cases entry <;> simp

/-- A recorded target has been there since the call began. -/
theorem Since.recorded {w₀ : World} (hw : Since w₀ w) (hdirectory : Directory digests S w₀)
    (h : recordedTarget digests call (w₀.checkpoint.getD {}) w = true) :
    Recorded digests call w₀ := by
  obtain ⟨ino, htarget, hidentity, hpublished⟩ := recordedTarget_eq_true.mp h
  cases hcheckpoint : w₀.checkpoint with
  | none =>
    rw [hcheckpoint] at hidentity
    cases hidentity
  | some s =>
    rw [hcheckpoint] at hpublished hidentity
    have hlt : ino < w₀.nextIno := (hdirectory.saved s hcheckpoint).published _ hpublished
    unfold Recorded
    rw [recordedTarget_eq_true, hcheckpoint]
    refine ⟨ino, hw.target ino htarget hlt, hidentity, ?_⟩
    rw [← hw.files ino hlt]
    exact hpublished

/-- A call that has opened the partial file and changed nothing else. -/
structure Beginning (digests : Digests) (S : Prop) (identity : String) (size : ℕ)
    (w₀ w : World) : Prop where
  opened : Opened digests S w₀ w
  since : Since w₀ w
  completed : Completed S identity size w

theorem Beginning.stable {w₀ : World} : Stable (Beginning digests S identity size w₀) :=
  fun w w' h hw => ⟨Opened.stable w w' h hw.opened, hw.since.elsewhere h,
    hw.completed.elsewhere hw.opened h⟩

/-- Removing the name of the partial file beside a recorded target. -/
theorem Opened.unlink {w₀ : World} (hw : Opened digests S w₀ w)
    (hmine : ¬ Foreign identity w) :
    Closing digests S identity (World.unlinkPart w).2 ∧
      Keeps identity w (World.unlinkPart w).2 := by
  unfold World.unlinkPart
  split
  · exact ⟨hw.closing, Keeps.refl identity w⟩
  · have habsent (data : FileData) (h : { w with part := none }.partData = some data) : False := by
      cases h
    refine ⟨⟨⟨fun _ h => (by cases h), hw.directory.target_lt, hw.directory.saved,
      fun data h => (habsent data h).elim, fun _ _ data _ h => (habsent data h).elim⟩,
      .inl hw.buffer⟩, ?_⟩
    exact ⟨fun _ hentry => ⟨hentry, fun _ _ => rfl⟩, fun hforeign => absurd hforeign hmine,
      Nat.le_refl _⟩

theorem call_locked {w₀ : World} {deadline : ℕ} (hidentity : call.fingerprint digests = identity)
    (hdirectory : Directory digests S w₀)
    (hw : Beginning digests S identity size w₀ w) :
    CallMeets digests S identity (locked digests call size deadline)
      (fun _ w => Closing digests S identity w ∧ Reached digests S call size w₀ w) w := by
  have hP : Stable (Beginning digests S identity size w₀) := Beginning.stable
  have hclosing (w' : World) (h : Beginning digests S identity size w₀ w') :
      Closing digests S identity w' := h.opened.closing
  unfold locked
  refine call_bind (R := fun _ => Beginning digests S identity size w₀)
    (call_look hP hw hclosing fun _ h _ _ => h) fun _ w' h => ?_
  refine call_bind (call_probe hP h hclosing) fun _ w' h => ?_
  refine call_bind (R := fun saved w => saved = w₀.checkpoint.getD {} ∧
    Beginning digests S identity size w₀ w) ?_ fun saved w' h => ?_
  · refine call_observe hP h hclosing fun w' h => ⟨?_, h⟩
    rw [h.opened.checkpoint]
  obtain ⟨hsaved, h⟩ := h
  refine call_bind (R := fun present w => present = w.target.isSome ∧
    Beginning digests S identity size w₀ w) (call_observe hP h hclosing fun _ h => ⟨rfl, h⟩) ?_
  intro present w' h
  obtain ⟨hpresent, h⟩ := h
  split
  · refine call_bind (R := fun recorded w => recorded = recordedTarget digests call saved w ∧
      Beginning digests S identity size w₀ w)
      (call_observe hP h hclosing fun _ h => ⟨rfl, h⟩) fun recorded w' h => ?_
    obtain ⟨hrecorded, h⟩ := h
    split
    · rename_i htrue
      rw [hrecorded, hsaved] at htrue
      have hfound := h.since.recorded hdirectory htrue
      refine call_bind (R := fun _ w => Closing digests S identity w) ?_ fun _ w' h =>
        Meets.pure ⟨h, .inl hfound⟩
      refine call_effect hP h hclosing fun w' h => ?_
      have hmine : ¬ Foreign identity w' := by
        refine h.opened.not_foreign (.inr (.inl ?_))
        obtain ⟨_, _, hid, _⟩ := recordedTarget_eq_true.mp htrue
        unfold checkpointIdentity
        rw [h.opened.checkpoint]
        cases hcheckpoint : w₀.checkpoint with
        | none =>
          rw [hcheckpoint] at hid
          cases hid
        | some s =>
          rw [hcheckpoint] at hid
          exact hid.trans (congrArg some hidentity)
      obtain ⟨hnext, hkeeps⟩ := h.opened.unlink hmine
      exact ⟨hnext, hkeeps, fun _ _ => hnext⟩
    · exact call_reject _ h.opened.closing
  · rename_i habsent
    rw [hpresent] at habsent
    have htarget : w'.target ≠ some (.file w'.handle.ino) := by
      intro hfile
      rw [hfile] at habsent
      exact habsent rfl
    refine call_bind (call_adopt hidentity hsaved ⟨h.opened, h.completed, htarget⟩) ?_
    intro state w' h
    refine call_bind (R := fun _ w => ∃ content,
      Adopted digests S identity size state content w) ?_ fun _ w' h => ?_
    · have hclosing (w' : World) (h : Claimed digests S identity size w₀ state w') :
          Closing digests S identity w' := h.unclaimed.opened.closing
      refine call_bind (R := fun _ => Claimed digests S identity size w₀ state)
        (call_observe Claimed.stable h hclosing fun _ h => h) fun _ w' h => ?_
      refine call_update Claimed.stable h hclosing fun w' h => ?_
      exact ⟨h.adopted.1.working.closing, h.adopted.2, _, h.adopted.1⟩
    · obtain ⟨content, h⟩ := h
      refine Meets.mono (call_guarded hidentity h) (fun _ w' h => ?_) (fun _ _ h => h)
        (fun _ _ h => h) (fun _ h => h) (fun _ _ h => h)
      exact ⟨⟨h.1, .inl h.2.buffer⟩, .inr h.2⟩

/-- No digest is stored for this download beside an incomplete partial file. -/
def Settled (digests : Digests) (call : Call) (w : World) : Prop :=
  ∀ s, w.checkpoint = some s → s.identity = some (call.fingerprint digests) →
    s.digestList ≠ [] → ∃ data, w.partData = some data ∧ data.content ≠ [] ∧
      call.expectedSize = some (data.content.length : ℤ)

/-- What a call finds, and what no other program changes before it begins. -/
structure Before (digests : Digests) (S : Prop) (w₀ w : World) : Prop where
  directory : Directory digests S w
  since : Since w₀ w
  partData : w.partData = w₀.partData
  buffer : w.handle.buffer = []

theorem Before.stable {w₀ : World} : Stable (Before digests S w₀) := by
  intro w w' h hw
  refine ⟨Directory.stable digests S w w' h hw.directory, hw.since.elsewhere h,
    (h.partData hw.directory.part_lt).trans hw.partData, ?_⟩
  rw [h.handle]
  exact hw.buffer

/-- Opening the partial file where it exists. -/
theorem Before.openExisting {w₀ : World} {ino : ℕ} (hw : Before digests S w₀ w)
    (hidentity : call.fingerprint digests = identity) (hsize : call.expectedSize = some (size : ℤ))
    (hsettled : S → Settled digests call w₀) (hpart : w.part = some ino) :
    Beginning digests S identity size w₀ { w with handle := ⟨ino, 0, []⟩ } := by
  have hd := hw.directory
  refine ⟨⟨⟨hd.part_lt, hd.target_lt, hd.saved, hd.sent, hd.described⟩, hw.since.nextIno,
    hw.since.checkpoint, hpart, rfl⟩, ⟨hw.since.checkpoint, hw.since.nextIno, hw.since.files,
    hw.since.target⟩, ?_⟩
  intro hS s hs hid hne
  change w.checkpoint = some s at hs
  rw [hw.since.checkpoint] at hs
  obtain ⟨data, hdata, hnonempty, hlength⟩ :=
    hsettled hS s hs (hid.trans (congrArg some hidentity.symm)) hne
  rw [← hw.partData] at hdata
  unfold World.partData at hdata
  rw [hpart, Option.map_some, Option.some.injEq] at hdata
  rw [hsize, Option.some.injEq] at hlength
  change (w.files ino).content ≠ [] ∧ (w.files ino).content.length = size
  rw [hdata]
  exact ⟨hnonempty, (Int.ofNat.inj hlength).symm⟩

/-- Creating the partial file. -/
theorem Before.openNew {w₀ : World} (hw : Before digests S w₀ w)
    (hidentity : call.fingerprint digests = identity) (hsettled : S → Settled digests call w₀)
    (hpart : w.part = none) :
    Beginning digests S identity size w₀
        { w.addFile ⟨[], w.clock⟩ with part := some w.nextIno, handle := ⟨w.nextIno, 0, []⟩ } ∧
      Keeps identity w
        { w.addFile ⟨[], w.clock⟩ with part := some w.nextIno, handle := ⟨w.nextIno, 0, []⟩ } := by
  have hd := hw.directory
  have hold (ino : ℕ) (hino : ino < w.nextIno) :
      (w.addFile ⟨[], w.clock⟩).files ino = w.files ino := if_neg (Nat.ne_of_lt hino)
  have hnew : (w.addFile ⟨[], w.clock⟩).files w.nextIno = ⟨[], w.clock⟩ := if_pos rfl
  have hdata (data : FileData) (h : some ((w.addFile ⟨[], w.clock⟩).files w.nextIno) = some data) :
      data.content = [] := by
    rw [hnew, Option.some.injEq] at h
    rw [← h]
  constructor
  · refine ⟨⟨⟨?_, ?_, ?_, ?_, ?_⟩, Nat.le_succ_of_le hw.since.nextIno, hw.since.checkpoint, rfl,
      rfl⟩, ⟨hw.since.checkpoint, Nat.le_succ_of_le hw.since.nextIno, ?_, hw.since.target⟩, ?_⟩
    · intro ino hino
      rw [← Option.some.inj hino]
      exact Nat.lt_succ_self _
    · exact fun ino hino => Nat.lt_succ_of_lt (hd.target_lt ino hino)
    · exact fun s hs => (hd.saved s hs).mono (Nat.le_succ _)
    · intro data h offset b hb
      rw [hdata data h, List.getElem?_nil] at hb
      cases hb
    · exact fun _ s data _ h => .inl (hdata data h)
    · intro ino hino
      refine Eq.trans ?_ (hw.since.files ino hino)
      exact hold ino (Nat.lt_of_lt_of_le hino hw.since.nextIno)
    · intro hS s hs hid hne
      change w.checkpoint = some s at hs
      rw [hw.since.checkpoint] at hs
      obtain ⟨data, hsome, _⟩ := hsettled hS s hs (hid.trans (congrArg some hidentity.symm)) hne
      rw [← hw.partData] at hsome
      unfold World.partData at hsome
      rw [hpart] at hsome
      cases hsome
  · refine ⟨?_, ?_, Nat.le_succ _⟩
    · intro entry hentry
      refine ⟨hentry, fun ino hino => hold ino (hd.target_lt ino ?_)⟩
      rw [hentry, hino]
    · intro hforeign
      obtain ⟨_, data, hsome, _⟩ := hforeign
      unfold World.partData at hsome
      rw [hpart] at hsome
      cases hsome

theorem Before.openPart {w₀ : World} (hw : Before digests S w₀ w)
    (hidentity : call.fingerprint digests = identity) (hsize : call.expectedSize = some (size : ℤ))
    (hsettled : S → Settled digests call w₀) :
    Beginning digests S identity size w₀ w.openPart ∧ Keeps identity w w.openPart := by
  unfold World.openPart
  split
  · rename_i ino hpart
    exact ⟨hw.openExisting hidentity hsize hsettled hpart,
      ⟨fun _ hentry => ⟨hentry, fun _ _ => rfl⟩, fun _ => ⟨rfl, rfl, rfl⟩, Nat.le_refl _⟩⟩
  · rename_i hpart
    exact hw.openNew hidentity hsettled hpart

/-- What one call keeps and what it has reached when it returns. -/
theorem call_streamDownload {w₀ : World} (hdirectory : Directory digests S w₀)
    (hbuffer : w₀.handle.buffer = []) (hsettled : S → Settled digests call w₀) :
    CallMeets digests S (call.fingerprint digests) (streamDownload digests call)
      (fun _ w => Directory digests S w ∧ ∃ size : ℕ, call.expectedSize = some (size : ℤ) ∧
        Reached digests S call size w₀ w) w₀ := by
  have hstart : Before digests S w₀ w₀ := ⟨hdirectory, Since.refl w₀, rfl, hbuffer⟩
  have hbefore (w : World) (h : Before digests S w₀ w) :
      Closing digests S (call.fingerprint digests) w := ⟨h.directory, .inl h.buffer⟩
  unfold streamDownload
  refine call_bind (R := fun _ => Before digests S w₀) ?_ fun _ w h => ?_
  · refine Meets.ofExcept ?_
    cases validateDownloadUrl call.url with
    | ok _ => exact hstart
    | error e => exact ⟨hbefore _ hstart, hbefore _ hstart⟩
  cases hexpected : call.expectedSize with
  | none => exact call_reject _ (hbefore _ h)
  | some expected =>
    dsimp only
    split
    · exact call_reject _ (hbefore _ h)
    rename_i hnonneg
    obtain ⟨size, hsize⟩ := Int.eq_ofNat_of_zero_le (Int.not_lt.mp hnonneg)
    subst hsize
    rw [Int.toNat_natCast]
    refine call_bind (R := fun _ => Before digests S w₀)
      (call_observe Before.stable h hbefore fun _ h => h) fun _ w h => ?_
    refine call_bind (R := fun _ => Beginning digests S (call.fingerprint digests) size w₀) ?_
      fun _ w h => ?_
    · refine call_update Before.stable h hbefore fun w h => ?_
      obtain ⟨hopened, hkeeps⟩ := h.openPart rfl hexpected hsettled
      exact ⟨hopened.opened.closing, hkeeps, hopened⟩
    refine call_bind (R := fun _ => Beginning digests S (call.fingerprint digests) size w₀)
      (call_observe Beginning.stable h (fun _ h => h.opened.closing) fun _ h => h) ?_
    intro now w h
    let Ended (result : Except StreamError ℕ) (w : World) : Prop :=
      Closing digests S (call.fingerprint digests) w ∧
        ∀ n, result = .ok n → Reached digests S call size w₀ w
    have hP (result : Except StreamError ℕ) : Stable (Ended result) := by
      intro w w' h hw
      refine ⟨Closing.stable w w' h hw.1, fun n hn => ?_⟩
      rcases hw.2 n hn with hrecorded | hpublished
      · exact .inl hrecorded
      · exact .inr (hpublished.elsewhere h hw.1.1.target_lt)
    refine call_bind (R := Ended) ?_ fun result w h => ?_
    · refine Meets.attempt (Meets.mono (call_locked rfl hdirectory h)
        (fun n w h => ⟨h.1, fun _ _ => h.2⟩) (fun e w h => ⟨h, fun _ hn => by cases hn⟩)
        (fun _ _ _ => trivial) (fun _ h => h) (fun _ _ h => h))
    refine call_bind (R := fun _ => Ended result) ?_ fun _ w h => ?_
    · refine call_update (hP result) h (fun _ h => h.1) fun w h => ?_
      refine ⟨h.1.flush.1, h.1.flush.2, h.1.flush.1, fun n hn => ?_⟩
      rcases h.2 n hn with hrecorded | hpublished
      · exact .inl hrecorded
      · rw [flush_of_empty hpublished.buffer]
        exact .inr hpublished
    have hlast (w : World) (h : Ended result w) :
        CallMeets digests S (call.fingerprint digests) (Prog.ofExcept result)
          (fun _ w => Directory digests S w ∧ ∃ n : ℕ, some (size : ℤ) = some (n : ℤ) ∧
            Reached digests S call n w₀ w) w := by
      refine Meets.ofExcept ?_
      cases result with
      | ok n => exact ⟨h.1.1, size, rfl, h.2 n rfl⟩
      | error e => exact ⟨h.1, h.1⟩
    split
    · exact call_bind (R := fun _ => Ended result)
        (call_observe (hP result) h (fun _ h => h.1) fun _ h => h) fun _ w h => hlast w h
    · exact hlast w h

end MediaSync.DownloadIntegrity
