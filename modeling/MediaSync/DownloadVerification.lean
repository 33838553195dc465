import MediaSync.Common.CalmRuns
import MediaSync.DownloadIntegrity

/-!
# Verification over several calls

A call of `_verify` that runs out of time leaves the digests of the blocks it has
read, and the next one goes on after them. The last call of such a series
decides as the digest of the whole content would, and there are no more calls
than the content has blocks, or one for an empty file.
-/
namespace MediaSync.DownloadVerification
open FaultPrograms QuietRuns CalmRuns DownloadStream DownloadIntegrity
open PythonText hiding zeros

/-! ## The open file -/

/-- A move that neither cancels the task nor makes its guard fail. -/
def Harmless : Move → Prop
  | .cancel requested => requested = false
  | .guard fails => fails = false
  | _ => True

/-- The partial file as a call of `_verify` finds it: everything is written to it. -/
structure Opened (calm : Prop) (content : Bytes) (w : World) : Prop where
  ino_lt : w.handle.ino < w.nextIno
  buffer : w.handle.buffer = []
  content : w.content = content
  calm : calm → w.cancelled = false ∧ w.guardFails = false

abbrev CalmMove (calm : Prop) := {move : Move // calm → Harmless move}

section Files
variable {calm : Prop} {content : Bytes} {position : ℕ} {w w' : World}

theorem harmless_calm {move : Move} (h : Harmless move)
    (hw : w.cancelled = false ∧ w.guardFails = false) :
    (Surroundings.move move w).cancelled = false ∧
      (Surroundings.move move w).guardFails = false := by
  cases move with
  | cancel requested => exact ⟨h, hw.2⟩
  | guard fails => exact ⟨hw.1, h⟩
  | createTarget data =>
    change (w.createTarget data).cancelled = false ∧ (w.createTarget data).guardFails = false
    unfold World.createTarget
    split <;> exact hw
  | linkTarget entry =>
    change (w.linkTarget entry).cancelled = false ∧ (w.linkTarget entry).guardFails = false
    unfold World.linkTarget
    split <;> exact hw
  | _ => exact hw

theorem Opened.moved (h : Opened calm content w) (hmoved : Moved (CalmMove calm) w w') :
    Opened calm content w' ∧ w'.handle.position = w.handle.position := by
  refine hmoved.preserves (P := fun w' => Opened calm content w' ∧
    w'.handle.position = w.handle.position) (fun move w' hw' => ?_) ⟨h, rfl⟩
  have helsewhere : Elsewhere w' (Surroundings.move move w') := move_elsewhere move.1 w'
  refine ⟨⟨?_, ?_, ?_, fun hcalm => harmless_calm (move.2 hcalm) (hw'.1.calm hcalm)⟩, ?_⟩
  · rw [helsewhere.handle]
    exact hw'.1.ino_lt.trans_le helsewhere.nextIno
  · rw [helsewhere.handle]
    exact hw'.1.buffer
  · rw [helsewhere.content hw'.1.ino_lt]
    exact hw'.1.content
  · rw [helsewhere.handle]
    exact hw'.2

theorem Opened.seek (h : Opened calm content w) (position : ℕ) :
    Opened calm content (w.seek position) ∧ (w.seek position).handle.position = position := by
  unfold World.seek
  rw [flush_of_empty h.buffer]
  exact ⟨⟨h.ino_lt, h.buffer, h.content, h.calm⟩, rfl⟩

theorem Opened.read (h : Opened calm content w) (size : ℕ) :
    w.readable size = (content.drop w.handle.position).take size ∧
      Opened calm content (w.read size) ∧ (w.read size).handle.position =
        w.handle.position + ((content.drop w.handle.position).take size).length := by
  have hreadable : w.readable size = (content.drop w.handle.position).take size := by
    unfold World.readable
    rw [flush_of_empty h.buffer, h.content]
  obtain ⟨hopened, hposition⟩ := h.seek (w.handle.position + (w.readable size).length)
  unfold World.read
  rw [flush_of_empty h.buffer, ← hreadable]
  exact ⟨rfl, hopened, hposition⟩

end Files

/-! ## How a call ends -/

/-- An error that comes from the surroundings. -/
def Interruption (e : StreamError) : Prop := e = .cancelled ∨ e = .guard ∨ e = .callback ∨ e = .os

/-- A deferral after at least one block, with a block left to verify. -/
def Yields (digests : Digests) (content : Bytes) (blocks : ℕ) (e : StreamError × Checkpoint) :
    Prop :=
  e.1 = .deferred content.length ∧ Describes digests e.2.digestList content ∧
    blocks < e.2.digestList.length ∧ e.2.digestList.length < blockCount content.length

/-- The rejection of a content that does not have the expected hash. -/
def Rejects (digests : Digests) (content : Bytes) (expectedHash : String)
    (e : StreamError × Checkpoint) : Prop :=
  ¬sameHash (gcid digests content) expectedHash ∧ ∃ message, e.1 = .download message

section Rounds
variable {calm : Prop} {digests : Digests} {content : Bytes} {call : Call} {deadline blocks : ℕ}
  {state : Checkpoint} {position : ℕ} {w : World}
  {E : StreamError × Checkpoint → World → Prop}

/-- Between two blocks: the digests so far, and where the file is read next. -/
structure Verifying (calm : Prop) (digests : Digests) (content : Bytes) (blocks : ℕ)
    (state : Checkpoint) (position : ℕ) (w : World) : Prop where
  opened : Opened calm content w
  standing : w.handle.position = position
  verified : Verified digests True state content position
  blocks : blocks ≤ state.digestList.length

theorem Verifying.moved {w' : World} (h : Verifying calm digests content blocks state position w)
    (hmoved : Moved (CalmMove calm) w w') :
    Verifying calm digests content blocks state position w' :=
  ⟨(h.opened.moved hmoved).1, (h.opened.moved hmoved).2.trans h.standing, h.verified, h.blocks⟩

theorem probe_finishes (hE : ∀ e w', ¬calm → Interruption e → E (e, state) w')
    (h : Verifying calm digests content blocks state position w) :
    Finishes calm (CalmMove calm) (probe (withState state))
      (fun _ => Verifying calm digests content blocks state position) E w := by
  unfold probe
  refine .bind (R := fun _ => Verifying calm digests content blocks state position)
    (.look (fun hcalm w' _ => hE _ w' hcalm (.inr (.inr (.inl rfl)))) fun w' hmoved => ?_)
    fun _ w' h => .look (fun hcalm w' _ => hE _ w' hcalm (.inr (.inr (.inl rfl))))
      fun w'' hmoved => ?_
  · have h := h.moved hmoved
    cases hcancelled : w'.cancelled with
    | false => exact h
    | true =>
      refine hE _ w' (fun hcalm => ?_) (.inl rfl)
      exact Bool.noConfusion (hcancelled.symm.trans (h.opened.calm hcalm).1)
  · have h := h.moved hmoved
    cases hguard : w''.guardFails with
    | false => exact h
    | true =>
      refine hE _ w'' (fun hcalm => ?_) (.inr (.inl rfl))
      exact Bool.noConfusion (hguard.symm.trans (h.opened.calm hcalm).2)

/-- One more block: its digest is the next one of the content. -/
theorem Verifying.extend (h : Verifying calm digests content blocks state position w)
    (hmore : position < content.length) {bytes : Bytes} {w' : World}
    (hbytes : bytes = (content.drop position).take
      (min (blockSize content.length) (content.length - position)))
    (hw' : Opened calm content w') (hposition : w'.handle.position = position + bytes.length) :
    bytes ≠ [] ∧ Verifying calm digests content (blocks + 1)
      { state with digests := some (state.digestList ++ [hexDigest (digests.sha1 bytes)]) }
      (position + bytes.length) w' := by
  have hpos := blockSize_pos content.length
  have hlength : bytes.length = min (blockSize content.length) (content.length - position) := by
    rw [hbytes, List.length_take, List.length_drop, min_assoc, min_self]
  refine ⟨fun hnil => ?_, hw', hposition, ?_, ?_⟩
  · rw [hnil, List.length_nil] at hlength
    omega
  · rw [hbytes]
    exact h.verified.extend hmore
  · change _ ≤ (state.digestList ++ [_]).length
    rw [List.length_append, List.length_singleton]
    exact Nat.succ_le_succ h.blocks

/-- Where the position stands before the end, a block is left. -/
theorem Verifying.yields (h : Verifying calm digests content (blocks + 1) state position w)
    (hmore : position < content.length) :
    Yields digests content blocks (.deferred content.length, state) := by
  obtain ⟨hdescribed, hposition⟩ := h.verified trivial
  have hlt : state.digestList.length * blockSize content.length < content.length := by omega
  exact ⟨rfl, hdescribed, h.blocks, lt_blockCount.mpr hlt⟩

theorem Verifying.weaken (h : Verifying calm digests content (blocks + 1) state position w) :
    Verifying calm digests content blocks state position w :=
  ⟨h.opened, h.standing, h.verified, (Nat.le_succ _).trans h.blocks⟩

theorem verifyBlocks_finishes {fuel checked : ℕ}
    (hE : ∀ e state w', (¬calm ∧ Interruption e) ∨ Yields digests content blocks (e, state) →
      E (e, state) w')
    (hfuel : content.length ≤ position + fuel)
    (h : Verifying calm digests content blocks state position w) :
    Finishes calm (CalmMove calm)
      (verifyBlocks digests call content.length deadline (blockSize content.length) fuel state
        position checked)
      (fun state w => Opened calm content w ∧ Describes digests state.digestList content ∧
        state.digestList.length = blockCount content.length) E w := by
  have hdone {state : Checkpoint} {position : ℕ} {w : World}
      (h : Verifying calm digests content blocks state position w)
      (hend : content.length ≤ position) : Opened calm content w ∧
        Describes digests state.digestList content ∧
        state.digestList.length = blockCount content.length := by
    obtain ⟨hdescribed, hposition⟩ := h.verified trivial
    exact ⟨h.opened, hdescribed, hdescribed.complete (by omega)⟩
  induction fuel generalizing state position checked w with
  | zero => exact .pure (hdone h hfuel)
  | succ fuel ih =>
    unfold verifyBlocks
    split
    · rename_i hend
      exact .pure (hdone h hend)
    rename_i hmore
    refine .bind (probe_finishes (fun e w' hcalm he => hE _ _ _ (.inl ⟨hcalm, he⟩)) h)
      fun _ w' h => ?_
    refine .bind (R := fun bytes w' => bytes = (content.drop position).take
        (min (blockSize content.length) (content.length - position)) ∧ Opened calm content w' ∧
        w'.handle.position = position + bytes.length) (.effect ?_ ?_) fun bytes w' hread => ?_
    · exact fun hcalm w' _ => ⟨hE _ _ _ (.inl ⟨hcalm, by simp [Interruption]⟩),
        hE _ _ _ (.inl ⟨hcalm, by simp [Interruption]⟩)⟩
    · intro w' hmoved
      have h := h.moved hmoved
      obtain ⟨hreadable, hopened, hposition⟩ :=
        h.opened.read (min (blockSize content.length) (content.length - position))
      rw [h.standing] at hreadable hposition
      refine ⟨hreadable, hopened, ?_⟩
      rw [hreadable]
      exact hposition
    · obtain ⟨hne, hnext⟩ := h.extend (Nat.not_le.mp hmore) hread.1 hread.2.1 hread.2.2
      have hlength := List.length_pos_iff.mpr hne
      rw [if_neg hne]
      dsimp only
      split
      · rename_i hcount
        split
        · exact .throw (hE _ _ _ (.inr (hnext.yields hcount.1)))
        · refine .bind (R := fun _ => Verifying calm digests content (blocks + 1) _ _)
            (.look (fun hcalm w' _ => hE _ _ _ (.inl ⟨hcalm, by simp [Interruption]⟩))
              fun w' hmoved => hnext.moved hmoved) fun now w' h => ?_
          split
          · exact .throw (hE _ _ _ (.inr (h.yields hcount.1)))
          · exact ih (by omega) h.weaken
      · exact ih (by omega) hnext.weaken

end Rounds

/-! ## One call -/

section Hashes
variable {digests : Digests} {content : Bytes} {hash : String}

theorem isHexDigit_of_lower {c : Char} (h : isHexDigit (lowerHex c) = true) :
    isHexDigit c = true := by
  unfold lowerHex at h
  split_ifs at h with hupper
  · unfold isHexDigit
    simp [hupper]
  · exact h

theorem isHexDigit_hexDigit {n : ℕ} (h : n < 16) : isHexDigit (lowerHex (hexDigit n)) = true := by
  revert n
  decide

theorem hexDigest_length (bytes : Bytes) : (hexDigest bytes).toList.length = 2 * bytes.length := by
  unfold hexDigest
  rw [String.toList_ofList]
  induction bytes with
  | nil => rfl
  | cons b bytes ih =>
    rw [List.flatMap_cons, List.length_append, ih, List.length_cons]
    simp only [List.length_cons, List.length_nil]
    omega

theorem hexDigest_digits {bytes : Bytes} {c : Char} (h : c ∈ (hexDigest bytes).toList) :
    isHexDigit (lowerHex c) = true := by
  unfold hexDigest at h
  rw [String.toList_ofList, List.mem_flatMap] at h
  obtain ⟨b, -, hc⟩ := h
  have hb : b.toNat < 256 := b.toNat_lt
  rcases List.mem_pair.mp hc with rfl | rfl
  · exact isHexDigit_hexDigit (by omega)
  · exact isHexDigit_hexDigit (by omega)

/-- What equals a digest of twenty bytes looks like one. -/
theorem hashRecognized_of_same (hsha1 : ∀ bytes, (digests.sha1 bytes).length = 20)
    (h : sameHash (gcid digests content) hash) : hashRecognized hash = true := by
  unfold sameHash gcid at h
  unfold hashRecognized
  rw [Bool.and_eq_true, decide_eq_true_eq, List.all_eq_true]
  constructor
  · have hlength := congrArg List.length h
    rw [List.length_map, List.length_map, hexDigest_length, hsha1] at hlength
    exact hlength.symm
  · intro c hc
    have hlower : lowerHex c ∈ (hash.toList).map lowerHex := List.mem_map_of_mem hc
    rw [← h] at hlower
    obtain ⟨d, hd, heq⟩ := List.mem_map.mp hlower
    exact isHexDigit_of_lower (heq ▸ hexDigest_digits hd)

end Hashes

/-- How a call of `_verify` ends with an error. -/
def Fails (calm : Prop) (digests : Digests) (content : Bytes) (expectedHash : String) (blocks : ℕ)
    (e : StreamError × Checkpoint) : Prop :=
  (¬calm ∧ Interruption e.1) ∨ Yields digests content blocks e ∨
    Rejects digests content expectedHash e

theorem verify_finishes {calm : Prop} {digests : Digests} {content : Bytes} {call : Call}
    {deadline : ℕ} {state : Checkpoint} {expectedHash : String} {w : World}
    (hsha1 : ∀ bytes, (digests.sha1 bytes).length = 20)
    (hhash : call.expectedHash = some expectedHash)
    (hdescribed : Describes digests state.digestList content) (hw : Opened calm content w) :
    Finishes calm (CalmMove calm) (verify digests call content.length deadline state)
      (fun _ _ => sameHash (gcid digests content) expectedHash)
      (fun e _ => Fails calm digests content expectedHash state.digestList.length e) w := by
  have hstopped (state' : Checkpoint) (hcalm : ¬calm) :
      Fails calm digests content expectedHash state.digestList.length (.os, state') :=
    .inl ⟨hcalm, .inr (.inr (.inr rfl))⟩
  unfold verify
  rw [hhash]
  dsimp only
  split
  · rename_i hformat
    refine .throw (.inr (.inr ⟨fun hsame => hformat ?_, _, rfl⟩))
    exact hashRecognized_of_same hsha1 hsame
  refine .bind (R := fun _ => Verifying calm digests content state.digestList.length
      { state with digests := some state.digestList }
      (min (state.digestList.length * blockSize content.length) content.length))
    (.effect (fun hcalm w' _ => ⟨hstopped _ hcalm, hstopped _ hcalm⟩) fun w' hmoved => ?_)
    fun _ w' h => ?_
  · obtain ⟨hopened, hposition⟩ := (hw.moved hmoved).1.seek
      (min (state.digestList.length * blockSize content.length) content.length)
    exact ⟨hopened, hposition, fun _ => ⟨hdescribed, rfl⟩, le_rfl⟩
  refine .bind (verifyBlocks_finishes (fun e state' w' he => ?_) (by omega) h)
    fun verified w' ⟨hopened, hverified, hcount⟩ => ?_
  · exact he.elim .inl fun h => .inr (.inl h)
  rw [hverified.gcidOf hcount]
  dsimp only
  split
  · rename_i hsame
    exact .pure hsame
  · rename_i hdiffers
    refine .bind (R := fun _ _ => True)
      (.effect (fun hcalm w' _ => ⟨hstopped _ hcalm, hstopped _ hcalm⟩) fun _ _ => trivial)
      fun _ w' _ => .bind (R := fun _ _ => True)
        (.effect (fun hcalm w' _ => ⟨hstopped _ hcalm, hstopped _ hcalm⟩) fun _ _ => trivial)
        fun _ w' _ => ?_
    exact .throw (.inr (.inr ⟨hdiffers, _, rfl⟩))

/-- A call of `_verify`, and what happens during it. -/
structure Attempt where
  call : Call
  deadline : ℕ
  world : World
  schedule : Schedule Move

inductive Ending where
  | accepted
  | rejected
  | deferred
  | interrupted
  deriving DecidableEq, Repr

def ending : Outcome (StreamError × Checkpoint) Checkpoint → Ending
  | .value _ => .accepted
  | .raised (.download _, _) => .rejected
  | .raised (.deferred _, _) => .deferred
  | .raised _ => .interrupted
  | .crashed => .interrupted

namespace Attempt

def outcome (digests : Digests) (content : Bytes) (attempt : Attempt) (state : Checkpoint) :
    Outcome (StreamError × Checkpoint) Checkpoint :=
  ((verify digests attempt.call content.length attempt.deadline state).run attempt.schedule
    attempt.world).1

theorem outcome_of_length {digests : Digests} {content : Bytes} {call : Call} {deadline size : ℕ}
    {world : World} {schedule : Schedule Move} {state : Checkpoint} (h : content.length = size) :
    (Attempt.mk call deadline world schedule).outcome digests content state =
      ((verify digests call size deadline state).run schedule world).1 := by
  subst h
  rfl

/-- The call is for the expected hash, and everything is written to its file. -/
structure On (content : Bytes) (expectedHash : String) (attempt : Attempt) : Prop where
  hash : attempt.call.expectedHash = some expectedHash
  ino_lt : attempt.world.handle.ino < attempt.world.nextIno
  buffer : attempt.world.handle.buffer = []
  content : attempt.world.content = content

/-- Nothing fails, and the task is neither cancelled nor taken away. Time passes. -/
structure Undisturbed (attempt : Attempt) : Prop where
  quiet : Quiet attempt.schedule
  moves : ∀ e ∈ attempt.schedule, ∀ move ∈ e.moves, Harmless move
  cancelled : attempt.world.cancelled = false
  guard : attempt.world.guardFails = false

end Attempt

section Series
variable {digests : Digests} {content : Bytes} {expectedHash : String} {start state : Checkpoint}
  {attempt last : Attempt} {attempts : List Attempt}

theorem verify_ends (calm : Prop) (hsha1 : ∀ bytes, (digests.sha1 bytes).length = 20)
    (hon : attempt.On content expectedHash) (hcalm : calm → attempt.Undisturbed)
    (hdescribed : Describes digests state.digestList content) :
    match attempt.outcome digests content state with
    | .value _ => sameHash (gcid digests content) expectedHash
    | .raised e => Fails calm digests content expectedHash state.digestList.length e
    | .crashed => ¬calm := by
  have hmoves : ∀ e ∈ attempt.schedule, ∀ move ∈ e.moves, calm → Harmless move :=
    fun e he move hmove h => (hcalm h).moves e he move hmove
  obtain ⟨es, hes⟩ := exists_forget hmoves
  have hopened : Opened calm content attempt.world :=
    ⟨hon.ino_lt, hon.buffer, hon.content, fun h => ⟨(hcalm h).cancelled, (hcalm h).guard⟩⟩
  have hquiet (h : calm) : Quiet es := by
    intro e he
    exact (hcalm h).quiet e.forget (hes ▸ List.mem_map_of_mem he)
  have hfinished : Finished calm (fun _ _ => sameHash (gcid digests content) expectedHash)
      (fun e _ => Fails calm digests content expectedHash state.digestList.length e)
      ((verify digests attempt.call content.length attempt.deadline state).run es attempt.world) :=
    verify_finishes hsha1 hon.hash hdescribed hopened es hquiet
  unfold Attempt.outcome
  rw [← hes, run_forget]
  rcases hrun : (verify digests attempt.call content.length attempt.deadline state).run es
      attempt.world with ⟨a | e | _, w', es'⟩ <;> rw [hrun] at hfinished
  · exact hfinished.1
  · exact hfinished.1
  · exact hfinished

/-- A series of calls that were all deferred. Each goes on with the digests that
the one before it has left. -/
inductive Deferrals (digests : Digests) (content : Bytes) (expectedHash : String) :
    Checkpoint → List Attempt → Checkpoint → Prop
  | nil (state : Checkpoint) : Deferrals digests content expectedHash state [] state
  | cons {state left next last : Checkpoint} {attempt : Attempt} {rest : List Attempt} {count : ℕ}
      (on : attempt.On content expectedHash)
      (deferred : attempt.outcome digests content state = .raised (.deferred count, left))
      (carried : next.digestList = left.digestList)
      (series : Deferrals digests content expectedHash next rest last) :
      Deferrals digests content expectedHash state (attempt :: rest) last

/-- A deferred call has verified a block, and not the last one. -/
theorem deferred_yields (hsha1 : ∀ bytes, (digests.sha1 bytes).length = 20)
    (hon : attempt.On content expectedHash)
    (hdescribed : Describes digests state.digestList content) {left : Checkpoint} {count : ℕ}
    (h : attempt.outcome digests content state = .raised (.deferred count, left)) :
    Yields digests content state.digestList.length (.deferred count, left) := by
  have hends := verify_ends False hsha1 hon False.elim hdescribed
  rw [h] at hends
  rcases hends with ⟨-, hinterrupted⟩ | hyields | ⟨-, message, hmessage⟩
  · rcases hinterrupted with h | h | h | h <;> cases h
  · exact hyields
  · cases hmessage

theorem Deferrals.describes (hsha1 : ∀ bytes, (digests.sha1 bytes).length = 20)
    (h : Deferrals digests content expectedHash start attempts state)
    (hstart : Describes digests start.digestList content) :
    Describes digests state.digestList content ∧
      start.digestList.length + attempts.length ≤ state.digestList.length ∧
      (attempts ≠ [] → state.digestList.length < blockCount content.length) := by
  induction h with
  | nil state => exact ⟨hstart, le_rfl, fun h => absurd rfl h⟩
  | @cons state left next last attempt rest count hon hdeferred hcarried hrest ih =>
    obtain ⟨-, hdescribed, hless, hleft⟩ := deferred_yields hsha1 hon hstart hdeferred
    rw [← hcarried] at hdescribed hless hleft
    obtain ⟨hlast, hcount, hmore⟩ := ih hdescribed
    refine ⟨hlast, ?_, fun _ => ?_⟩
    · rw [List.length_cons]
      omega
    · by_cases hnil : rest = []
      · subst hnil
        cases hrest
        exact hleft
      · exact hmore hnil

/-- However the verification is split, its last call decides as the digest of
the whole content does, and fewer calls are deferred than there are blocks. -/
theorem resumed_gcid (hsha1 : ∀ bytes, (digests.sha1 bytes).length = 20)
    (hstart : start.digestList = [])
    (hdeferred : Deferrals digests content expectedHash start attempts state)
    (hlast : last.On content expectedHash) :
    attempts.length < max 1 (blockCount content.length) ∧
      (last.Undisturbed → ending (last.outcome digests content state) ≠ .interrupted) ∧
      (ending (last.outcome digests content state) = .accepted ∨
        ending (last.outcome digests content state) = .rejected →
          (ending (last.outcome digests content state) = .accepted ↔
            sameHash (gcid digests content) expectedHash)) := by
  obtain ⟨hdescribed, hcount, hmore⟩ := hdeferred.describes hsha1
    (hstart.symm ▸ describes_nil digests content)
  refine ⟨?_, fun hundisturbed hinterrupted => ?_, fun hended => ?_⟩
  · rcases attempts with _ | ⟨attempt, attempts⟩
    · exact lt_max_of_lt_left Nat.one_pos
    · have hlt := hmore (List.cons_ne_nil _ _)
      exact lt_max_of_lt_right (by omega)
  · have hends := verify_ends True hsha1 hlast (fun _ => hundisturbed) hdescribed
    cases houtcome : last.outcome digests content state with
    | value left =>
      rw [houtcome] at hinterrupted
      cases hinterrupted
    | crashed =>
      rw [houtcome] at hends
      exact hends trivial
    | raised e =>
      obtain ⟨error, left⟩ := e
      rw [houtcome] at hends hinterrupted
      rcases hends with ⟨hcalm, -⟩ | ⟨rfl, -⟩ | ⟨-, message, rfl⟩
      · exact hcalm trivial
      · cases hinterrupted
      · cases hinterrupted
  · have hends := verify_ends False hsha1 hlast False.elim hdescribed
    cases houtcome : last.outcome digests content state with
    | value left =>
      rw [houtcome] at hends
      exact ⟨fun _ => hends, fun _ => rfl⟩
    | crashed =>
      rw [houtcome] at hended
      rcases hended with h | h <;> cases h
    | raised e =>
      obtain ⟨error, left⟩ := e
      rw [houtcome] at hends hended
      rcases hends with ⟨-, hinterrupted⟩ | ⟨rfl, -⟩ | ⟨hdiffers, message, rfl⟩
      · rcases hinterrupted with rfl | rfl | rfl | rfl <;> rcases hended with h | h <;> cases h
      · rcases hended with h | h <;> cases h
      · exact ⟨fun h => (nomatch h), fun h => absurd h hdiffers⟩

end Series

/-! A file of two blocks -/

/-- A call that yields after a block, unless it was the last one. -/
def movieAttempt : Attempt where
  call := movie
  deadline := 8000000000
  world := desk (zeros ++ [0]) [] 0 {} none []
  schedule := []

/-- The first call reads the first block and is deferred; the second one reads
the other block and decides. -/
theorem resumed_gcid_movie :
    let start := newState (movie.fingerprint sample)
    let left := hashed sample start zeros
    Deferrals sample (zeros ++ [0]) (hexDigest goodDigest) start [movieAttempt] left ∧
      ending (movieAttempt.outcome sample (zeros ++ [0]) left) = .accepted ∧
      sameHash (gcid sample (zeros ++ [0])) (hexDigest goodDigest) := by
  intro start left
  have hlength : (zeros ++ [0]).length = 262145 := by
    rw [List.length_append, zeros_length]
    rfl
  have hon : movieAttempt.On (zeros ++ [0]) (hexDigest goodDigest) := ⟨rfl, by decide, rfl, rfl⟩
  have houtcome (state : Checkpoint) : movieAttempt.outcome sample (zeros ++ [0]) state =
      ((verify sample movie 262145 8000000000 state).run ([] : Schedule Move)
        (desk (zeros ++ [0]) [] 0 {} none [])).1 := by
    unfold movieAttempt
    exact Attempt.outcome_of_length hlength
  have hdeferred : movieAttempt.outcome sample (zeros ++ [0]) start =
      .raised (.deferred 262145, left) := by
    rw [houtcome, movie_verify_yields zeros_length rfl]
  have haccepted : ending (movieAttempt.outcome sample (zeros ++ [0]) left) = .accepted := by
    rw [houtcome, movie_verify_accepts zeros_length (hashed_zeros rfl), ending]
  have hseries : Deferrals sample (zeros ++ [0]) (hexDigest goodDigest) start [movieAttempt] left :=
    .cons hon hdeferred rfl (.nil _)
  exact ⟨hseries, haccepted,
    ((resumed_gcid sample_sha1_length rfl hseries hon).2.2 (.inl haccepted)).mp haccepted⟩

end MediaSync.DownloadVerification
