import MediaSync.DownloadStream

/-!
# The directory of a download

What the files of a download keep, wherever a call is stopped: every byte of
the partial file was sent by the server for that offset to the download its
checkpoint names, and the stored block digests describe the file. The first
holds in every run; the second only in runs where no call starts with digests
beside an incomplete file, so it is stated under a condition `S` on the run.

Effects on the open file are described by what they leave alone, other
programs by what they cannot reach.
-/
namespace MediaSync.DownloadIntegrity
open FaultPrograms PythonText DownloadStream

/-- The byte an answer gives for an offset of the file. -/
def byteAt (response : Response) (offset : ℕ) : Option UInt8 :=
  match response.declaredStart with
  | none => none
  | some start => if start ≤ offset then response.body[offset - start]? else none

/-- The server sent `b` for this offset to the download named `identity`. -/
def Sent (w : World) (identity : String) (offset : ℕ) (b : UInt8) : Prop :=
  ∃ served ∈ w.served, served.identity = identity ∧ byteAt served.response offset = some b

def checkpointIdentity (w : World) : Option String := w.checkpoint.bind Checkpoint.identity

/-- Every byte of the partial file is the server's. -/
def Provenance (w : World) : Prop :=
  ∀ data, w.partData = some data → ∀ offset b, data.content[offset]? = some b →
    ∃ identity, checkpointIdentity w = some identity ∧ Sent w identity offset b

def KeepsTarget (w w' : World) : Prop :=
  ∀ entry, w.target = some entry →
    w'.target = some entry ∧ ∀ ino, entry = .file ino → w'.files ino = w.files ino

/-- There is content in the partial file and it belongs to another download. -/
def Foreign (identity : String) (w : World) : Prop :=
  (∃ other, checkpointIdentity w = some other ∧ other ≠ identity) ∧
    ∃ data, w.partData = some data ∧ data.content ≠ []

def KeepsForeign (identity : String) (w w' : World) : Prop :=
  Foreign identity w →
    w'.part = w.part ∧ w'.partData = w.partData ∧ w'.checkpoint = w.checkpoint

/-! ## Content addresses -/

section Blocks
variable (digests : Digests)

def blockAt (content : Bytes) (j : ℕ) : Bytes :=
  (content.drop (j * blockSize content.length)).take (blockSize content.length)

def blockCount (size : ℕ) : ℕ := (size + blockSize size - 1) / blockSize size

def blockDigest (content : Bytes) (j : ℕ) : Bytes := digests.sha1 (blockAt content j)

/-- The digest of the digests of the blocks. -/
def gcid (content : Bytes) : String :=
  hexDigest (digests.sha1 ((List.range (blockCount content.length)).map
    (blockDigest digests content)).flatten)

def sameHash (a b : String) : Prop := a.toList.map lowerHex = b.toList.map lowerHex

/-- The texts are the digests of the first blocks of the content. -/
def Describes (texts : List String) (content : Bytes) : Prop :=
  texts.length ≤ blockCount content.length ∧
    texts = (List.range texts.length).map fun j => hexDigest (blockDigest digests content j)

theorem growBlock_pos (size fuel block : ℕ) (h : 0 < block) : 0 < growBlock size fuel block := by
  induction fuel generalizing block with
  | zero => exact h
  | succ fuel ih =>
    unfold growBlock
    split
    · exact ih (block * 2) (by omega)
    · exact h

theorem blockSize_pos (size : ℕ) : 0 < blockSize size := growBlock_pos size 3 _ (by decide)

theorem lt_blockCount {size j : ℕ} : j < blockCount size ↔ j * blockSize size < size := by
  unfold blockCount
  have hpos := blockSize_pos size
  rw [Nat.lt_iff_add_one_le, Nat.le_div_iff_mul_le hpos, Nat.succ_mul]
  omega

theorem describes_nil (content : Bytes) : Describes digests [] content :=
  ⟨Nat.zero_le _, rfl⟩

variable {digests}

theorem read_block (content : Bytes) (j : ℕ) :
    (content.drop (j * blockSize content.length)).take
      (min (blockSize content.length) (content.length - j * blockSize content.length)) =
    blockAt content j := by
  unfold blockAt
  rw [← List.length_drop, ← List.take_eq_take_min]

/-- One more verified block. -/
theorem Describes.extend {texts : List String} {content : Bytes}
    (h : Describes digests texts content)
    (hlt : texts.length * blockSize content.length < content.length) :
    Describes digests (texts ++ [hexDigest (blockDigest digests content texts.length)])
      content := by
  have hcount := lt_blockCount.mpr hlt
  refine ⟨?_, ?_⟩
  · rw [List.length_append, List.length_singleton]
    exact hcount
  · rw [List.length_append, List.length_singleton, List.range_succ, List.map_append, ← h.2]
    rfl

/-- A description that reaches the end of the content is complete. -/
theorem Describes.complete {texts : List String} {content : Bytes}
    (h : Describes digests texts content)
    (hend : content.length ≤ texts.length * blockSize content.length) :
    texts.length = blockCount content.length := by
  have hnot := mt lt_blockCount.mp (Nat.not_lt.mpr hend)
  have hle := h.1
  omega

theorem mapM_fromHex (blocks : List Bytes) :
    (blocks.map hexDigest).mapM fromHex = some blocks := by
  induction blocks with
  | nil => rfl
  | cons block blocks ih => simp [List.mapM_cons, fromHex_hexDigest, ih]

theorem Describes.gcidOf {texts : List String} {content : Bytes}
    (h : Describes digests texts content) (hend : texts.length = blockCount content.length) :
    DownloadStream.gcidOf digests texts = some (gcid digests content).toList := by
  have htexts : texts =
      ((List.range (blockCount content.length)).map (blockDigest digests content)).map
        hexDigest := by
    rw [List.map_map, ← hend]
    exact h.2
  unfold DownloadStream.gcidOf gcid
  rw [htexts, mapM_fromHex]
  rfl

end Blocks

/-! ## What the surroundings leave alone -/

/-- Other programs own neither the partial file nor its checkpoint, and a
target they create is a new file. -/
structure Elsewhere (w w' : World) : Prop where
  part : w'.part = w.part
  checkpoint : w'.checkpoint = w.checkpoint
  handle : w'.handle = w.handle
  served : w'.served = w.served
  nextIno : w.nextIno ≤ w'.nextIno
  files (ino : ℕ) : ino < w.nextIno → w'.files ino = w.files ino
  target : w'.target = w.target ∨ w.target = none ∧
    ∀ ino, w'.target = some (.file ino) → w.nextIno ≤ ino ∧ ino < w'.nextIno

theorem move_elsewhere (move : Move) (w : World) : Elsewhere w (Surroundings.move move w) := by
  cases move with
  | createTarget data =>
    change Elsewhere w (w.createTarget data)
    unfold World.createTarget
    split
    · exact ⟨rfl, rfl, rfl, rfl, Nat.le_refl _, fun _ _ => rfl, .inl rfl⟩
    · rename_i habsent
      refine ⟨rfl, rfl, rfl, rfl, Nat.le_succ _, fun ino hino => ?_, .inr ⟨?_, ?_⟩⟩
      · exact if_neg (Nat.ne_of_lt hino)
      · simpa using habsent
      · intro ino hino
        have heq : w.nextIno = ino := by simpa using hino
        exact ⟨heq ▸ Nat.le_refl _, heq ▸ Nat.lt_succ_self _⟩
  | linkTarget entry =>
    change Elsewhere w (w.linkTarget entry)
    unfold World.linkTarget
    split
    · rename_i habsent
      exact ⟨rfl, rfl, rfl, rfl, Nat.le_refl _, fun _ _ => rfl,
        .inr ⟨habsent, fun ino hino => by simp at hino⟩⟩
    · rename_i habsent
      exact ⟨rfl, rfl, rfl, rfl, Nat.le_refl _, fun _ _ => rfl,
        .inr ⟨habsent, fun ino hino => by simp at hino⟩⟩
    · exact ⟨rfl, rfl, rfl, rfl, Nat.le_refl _, fun _ _ => rfl, .inl rfl⟩
  | _ => exact ⟨rfl, rfl, rfl, rfl, Nat.le_refl _, fun _ _ => rfl, .inl rfl⟩

theorem sleep_elsewhere (nanoseconds : ℕ) (w : World) : Elsewhere w (w.sleep nanoseconds) :=
  move_elsewhere (.pass nanoseconds) w

/-- What no other program can destroy. -/
def Stable (P : World → Prop) : Prop := ∀ w w', Elsewhere w w' → P w → P w'

theorem Stable.and {P Q : World → Prop} (hP : Stable P) (hQ : Stable Q) :
    Stable fun w => P w ∧ Q w :=
  fun w w' h hw => ⟨hP w w' h hw.1, hQ w w' h hw.2⟩

theorem Elsewhere.not_target {w w' : World} (h : Elsewhere w w') {ino : ℕ}
    (hino : ino < w.nextIno) (hne : w.target ≠ some (.file ino)) :
    w'.target ≠ some (.file ino) := by
  rcases h.target with htarget | ⟨_, hnew⟩
  · rw [htarget]
    exact hne
  · intro hfile
    have := (hnew ino hfile).1
    omega

theorem Elsewhere.target_lt {w w' : World} (h : Elsewhere w w')
    (hw : ∀ ino, w.target = some (.file ino) → ino < w.nextIno) (ino : ℕ)
    (hino : w'.target = some (.file ino)) : ino < w'.nextIno := by
  rcases h.target with htarget | ⟨_, hnew⟩
  · rw [htarget] at hino
    exact Nat.lt_of_lt_of_le (hw ino hino) h.nextIno
  · exact (hnew ino hino).2

theorem Elsewhere.sent {w w' : World} (h : Elsewhere w w') {identity : String} {offset : ℕ}
    {b : UInt8} : Sent w' identity offset b ↔ Sent w identity offset b := by
  unfold Sent
  rw [h.served]

theorem Elsewhere.partData {w w' : World} (h : Elsewhere w w')
    (hlt : ∀ ino, w.part = some ino → ino < w.nextIno) : w'.partData = w.partData := by
  unfold World.partData
  rw [h.part]
  rcases hpart : w.part with _ | ino
  · rfl
  · exact congrArg some (h.files ino (hlt ino hpart))

theorem Elsewhere.data {w w' : World} (h : Elsewhere w w') (hlt : w.handle.ino < w.nextIno) :
    w'.data = w.data := by
  unfold World.data
  rw [h.handle]
  exact h.files _ hlt

/-! ## The directory wherever a call stops -/

/-- A saved state names a download and an inode that exists. -/
structure Sane (nextIno : ℕ) (state : Checkpoint) : Prop where
  named (identity : String) : state.identity = some identity → identity ≠ ""
  published (identity : FileIdentity) :
    state.publishedIdentity = some identity → identity.ino < nextIno

theorem Sane.mono {n m : ℕ} {state : Checkpoint} (h : Sane n state) (hle : n ≤ m) :
    Sane m state :=
  ⟨h.named, fun identity hid => Nat.lt_of_lt_of_le (h.published identity hid) hle⟩

section Invariants
variable (digests : Digests) (S : Prop)

/-- The directory as every call finds and leaves it. What is said about the
stored digests holds in the runs that `S` selects. -/
structure Directory (w : World) : Prop where
  part_lt (ino : ℕ) : w.part = some ino → ino < w.nextIno
  target_lt (ino : ℕ) : w.target = some (.file ino) → ino < w.nextIno
  saved (state : Checkpoint) : w.checkpoint = some state → Sane w.nextIno state
  sent : Provenance w
  described : S → ∀ state data, w.checkpoint = some state → w.partData = some data →
    data.content = [] ∨ Describes digests state.digestList data.content

theorem Directory.stable : Stable (Directory digests S) := by
  intro w w' h hw
  have hpart := h.partData hw.part_lt
  refine ⟨?_, h.target_lt hw.target_lt, ?_, ?_, ?_⟩
  · intro ino hino
    rw [h.part] at hino
    exact Nat.lt_of_lt_of_le (hw.part_lt ino hino) h.nextIno
  · intro state hstate
    rw [h.checkpoint] at hstate
    exact (hw.saved state hstate).mono h.nextIno
  · intro data hdata offset b hb
    rw [hpart] at hdata
    obtain ⟨identity, hid, hsent⟩ := hw.sent data hdata offset b hb
    refine ⟨identity, ?_, h.sent.mpr hsent⟩
    unfold checkpointIdentity
    rw [h.checkpoint]
    exact hid
  · intro hS state data hstate hdata
    rw [h.checkpoint] at hstate
    rw [hpart] at hdata
    exact hw.described hS state data hstate hdata

/-- The handle belongs to the partial file and to nothing else. -/
structure Apart (w : World) : Prop where
  part : w.part = some w.handle.ino
  target : w.target ≠ some (.file w.handle.ino)

/-- The file as the program sees it, with what is still in the buffer. -/
def whole (w : World) : Bytes := w.content ++ w.handle.buffer

/-- A call at work on the partial file of the download `identity`. -/
structure Working (identity : String) (state : Checkpoint) (w : World) : Prop where
  ino_lt : w.handle.ino < w.nextIno
  part (ino : ℕ) : w.part = some ino → ino = w.handle.ino
  target_lt (ino : ℕ) : w.target = some (.file ino) → ino < w.nextIno
  pending : w.handle.buffer ≠ [] → Apart w ∧ w.handle.position = w.content.length
  saved : ∃ saved, w.checkpoint = some saved ∧ saved.identity = some identity
  sane (s : Checkpoint) : w.checkpoint = some s ∨ s = state → Sane w.nextIno s
  own : state.identity = some identity
  sent (offset : ℕ) (b : UInt8) : (whole w)[offset]? = some b → Sent w identity offset b
  described : S → ∀ s, w.checkpoint = some s ∨ s = state → s.digestList = [] ∨
    w.handle.buffer = [] ∧ (w.content = [] ∨ Describes digests s.digestList w.content)

variable {digests S} {identity : String} {state : Checkpoint} {w : World}

theorem Apart.stable : Stable fun w => w.handle.ino < w.nextIno ∧ Apart w := by
  intro w w' h hw
  refine ⟨?_, ?_, ?_⟩
  · rw [h.handle]
    exact Nat.lt_of_lt_of_le hw.1 h.nextIno
  · rw [h.part, h.handle]
    exact hw.2.part
  · rw [h.handle]
    exact h.not_target hw.1 hw.2.target

theorem Elsewhere.content {w' : World} (h : Elsewhere w w')
    (hlt : w.handle.ino < w.nextIno) : w'.content = w.content :=
  congrArg FileData.content (h.data hlt)

theorem Elsewhere.whole {w' : World} (h : Elsewhere w w') (hlt : w.handle.ino < w.nextIno) :
    whole w' = whole w := by
  unfold DownloadIntegrity.whole
  rw [h.content hlt, h.handle]

theorem Working.stable : Stable (Working digests S identity state) := by
  intro w w' h hw
  have hcontent := h.content hw.ino_lt
  refine ⟨?_, ?_, h.target_lt hw.target_lt, ?_, ?_, ?_, hw.own, ?_, ?_⟩
  · rw [h.handle]
    exact Nat.lt_of_lt_of_le hw.ino_lt h.nextIno
  · rw [h.part, h.handle]
    exact hw.part
  · rw [h.handle, hcontent]
    intro hbuffer
    obtain ⟨hapart, hposition⟩ := hw.pending hbuffer
    exact ⟨(Apart.stable w w' h ⟨hw.ino_lt, hapart⟩).2, hposition⟩
  · rw [h.checkpoint]
    exact hw.saved
  · rw [h.checkpoint]
    exact fun s hs => (hw.sane s hs).mono h.nextIno
  · intro offset b hb
    rw [h.whole hw.ino_lt] at hb
    exact h.sent.mpr (hw.sent offset b hb)
  · rw [h.checkpoint, h.handle, hcontent]
    exact hw.described

theorem Working.partData (h : Working digests S identity state w) {data : FileData}
    (hdata : w.partData = some data) : data = w.data := by
  unfold World.partData at hdata
  rcases hpart : w.part with _ | ino
  · rw [hpart] at hdata
    exact absurd hdata (by simp)
  · rw [hpart, Option.map_some, Option.some.injEq] at hdata
    rw [← hdata, h.part ino hpart]
    rfl

theorem Working.checkpointIdentity (h : Working digests S identity state w) :
    checkpointIdentity w = some identity := by
  obtain ⟨saved, hsaved, hid⟩ := h.saved
  unfold DownloadIntegrity.checkpointIdentity
  rw [hsaved]
  exact hid

/-- A call may stop at any moment of its work. -/
theorem Working.directory (h : Working digests S identity state w) : Directory digests S w := by
  refine ⟨?_, h.target_lt, fun s hs => h.sane s (.inl hs), ?_, ?_⟩
  · intro ino hino
    rw [h.part ino hino]
    exact h.ino_lt
  · intro data hdata offset b hb
    rw [h.partData hdata] at hb
    refine ⟨identity, h.checkpointIdentity, h.sent offset b ?_⟩
    have hlt : offset < w.content.length := (List.getElem?_eq_some_iff.mp hb).1
    unfold DownloadIntegrity.whole
    rw [List.getElem?_append_left hlt]
    exact hb
  · intro hS s data hs hdata
    rw [h.partData hdata]
    rcases h.described hS s (.inl hs) with hnil | ⟨_, hdescribed⟩
    · rw [hnil]
      exact .inr (describes_nil digests _)
    · exact hdescribed

/-! ## Effects on the open file -/

/-- An effect on the open file changes nothing else. -/
structure Rewritten (w w' : World) : Prop where
  part : w'.part = w.part
  checkpoint : w'.checkpoint = w.checkpoint
  target : w'.target = w.target
  nextIno : w'.nextIno = w.nextIno
  served : w'.served = w.served
  ino : w'.handle.ino = w.handle.ino
  files (ino : ℕ) : ino ≠ w.handle.ino → w'.files ino = w.files ino

theorem Rewritten.refl (w : World) : Rewritten w w :=
  ⟨rfl, rfl, rfl, rfl, rfl, rfl, fun _ _ => rfl⟩

theorem Rewritten.trans {w w' w'' : World} (h : Rewritten w w') (k : Rewritten w' w'') :
    Rewritten w w'' := by
  refine ⟨k.part.trans h.part, k.checkpoint.trans h.checkpoint, k.target.trans h.target,
    k.nextIno.trans h.nextIno, k.served.trans h.served, k.ino.trans h.ino, ?_⟩
  intro ino hino
  rw [k.files ino (h.ino ▸ hino), h.files ino hino]

theorem Rewritten.apart {w' : World} (h : Rewritten w w') (hw : Apart w) : Apart w' := by
  refine ⟨?_, ?_⟩
  · rw [h.part, h.ino]
    exact hw.part
  · rw [h.target, h.ino]
    exact hw.target

theorem Rewritten.sent {w' : World} (h : Rewritten w w') {offset : ℕ} {b : UInt8} :
    Sent w' identity offset b ↔ Sent w identity offset b := by
  unfold Sent
  rw [h.served]

theorem setContent_rewritten (content : Bytes) : Rewritten w (w.setContent content) :=
  ⟨rfl, rfl, rfl, rfl, rfl, rfl, fun _ hino => if_neg hino⟩

theorem setContent_content (content : Bytes) : (w.setContent content).content = content := by
  change (if w.handle.ino = w.handle.ino then (⟨content, w.clock⟩ : FileData) else _).content = _
  rw [if_pos rfl]

theorem withHandle_rewritten (position : ℕ) (buffer : Bytes) :
    Rewritten w { w with handle := ⟨w.handle.ino, position, buffer⟩ } :=
  ⟨rfl, rfl, rfl, rfl, rfl, rfl, fun _ _ => rfl⟩

theorem spill_rewritten (count : ℕ) : Rewritten w (w.spill count) := by
  unfold World.spill
  dsimp only
  split
  · exact Rewritten.refl w
  · exact (setContent_rewritten _).trans (withHandle_rewritten ..)

/-- Bytes wait in the buffer only where the file ends. -/
def Ready (w : World) : Prop := w.handle.buffer ≠ [] → w.handle.position = w.content.length

theorem Working.ready (h : Working digests S identity state w) : Ready w :=
  fun hbuffer => (h.pending hbuffer).2

theorem overwrite_end (content bytes : Bytes) :
    World.overwrite content content.length bytes = content ++ bytes := by
  unfold World.overwrite
  simp

/-- Handing bytes to the system does not change the file as the program sees it. -/
theorem spill_whole (h : Ready w) (count : ℕ) :
    whole (w.spill count) = whole w ∧
      (w.handle.position = w.content.length →
        (w.spill count).handle.position = (w.spill count).content.length) := by
  unfold World.spill
  dsimp only
  split
  · exact ⟨rfl, id⟩
  · rename_i hout
    have hbuffer : w.handle.buffer ≠ [] := fun hnil => hout (by rw [hnil, List.take_nil])
    have hcontent := setContent_content (w := w)
      (World.overwrite w.content w.handle.position (w.handle.buffer.take count))
    rw [h hbuffer, overwrite_end] at hcontent
    refine ⟨?_, fun _ => ?_⟩
    · change (w.setContent _).content ++ w.handle.buffer.drop count = _
      rw [h hbuffer, overwrite_end, hcontent, List.append_assoc, List.take_append_drop]
      rfl
    · change w.handle.position + (w.handle.buffer.take count).length =
        (w.setContent _).content.length
      rw [h hbuffer, overwrite_end, hcontent, List.length_append]

theorem flush_of_empty (h : w.handle.buffer = []) : w.flush = w := by
  unfold World.flush World.spill
  rw [h]
  rfl

theorem flush_buffer : w.flush.handle.buffer = [] := by
  by_cases h : w.handle.buffer = []
  · rw [flush_of_empty h, h]
  · unfold World.flush World.spill
    dsimp only
    rw [if_neg (by rwa [List.take_length]), List.drop_length]

theorem flush_content (h : Ready w) : w.flush.content = whole w := by
  have hwhole := (spill_whole h w.handle.buffer.length).1
  change whole w.flush = whole w at hwhole
  rw [← hwhole]
  unfold whole
  rw [flush_buffer, List.append_nil]

/-- An effect that keeps every byte in its place keeps the work. -/
theorem Working.rewritten {w' : World} (hw : Working digests S identity state w)
    (h : Rewritten w w')
    (hpending : w'.handle.buffer ≠ [] → Apart w ∧ w'.handle.position = w'.content.length)
    (hsent : ∀ offset b, (whole w')[offset]? = some b → Sent w identity offset b)
    (hdescribed : S → ∀ s, w.checkpoint = some s ∨ s = state → s.digestList = [] ∨
      w'.handle.buffer = [] ∧ (w'.content = [] ∨ Describes digests s.digestList w'.content)) :
    Working digests S identity state w' := by
  refine ⟨?_, ?_, ?_, ?_, ?_, ?_, hw.own, ?_, ?_⟩
  · rw [h.ino, h.nextIno]
    exact hw.ino_lt
  · rw [h.part, h.ino]
    exact hw.part
  · rw [h.target, h.nextIno]
    exact hw.target_lt
  · intro hbuffer
    exact ⟨h.apart (hpending hbuffer).1, (hpending hbuffer).2⟩
  · rw [h.checkpoint]
    exact hw.saved
  · rw [h.checkpoint, h.nextIno]
    exact hw.sane
  · exact fun offset b hb => h.sent.mpr (hsent offset b hb)
  · rw [h.checkpoint]
    exact hdescribed

/-- What one effect of a call for `identity` must leave alone. -/
structure Keeps (identity : String) (w w' : World) : Prop where
  target : KeepsTarget w w'
  foreign : KeepsForeign identity w w'
  nextIno : w.nextIno ≤ w'.nextIno

theorem Working.not_foreign (h : Working digests S identity state w) : ¬ Foreign identity w := by
  intro hforeign
  obtain ⟨⟨other, hother, hne⟩, _⟩ := hforeign
  rw [h.checkpointIdentity, Option.some.injEq] at hother
  exact hne hother.symm

theorem Working.keeps {w' : World} (hw : Working digests S identity state w)
    (h : Rewritten w w') (hown : w'.data = w.data ∨ w.target ≠ some (.file w.handle.ino)) :
    Keeps identity w w' := by
  refine ⟨?_, fun hforeign => absurd hforeign hw.not_foreign, Nat.le_of_eq h.nextIno.symm⟩
  intro entry hentry
  refine ⟨h.target.trans hentry, ?_⟩
  intro ino hino
  by_cases hown_ino : ino = w.handle.ino
  · subst hown_ino
    rcases hown with hdata | htarget
    · unfold World.data at hdata
      rwa [h.ino] at hdata
    · exact absurd (hino ▸ hentry) htarget
  · exact h.files ino hown_ino

theorem Working.flush (hw : Working digests S identity state w) :
    Working digests S identity state w.flush ∧ Keeps identity w w.flush := by
  have h : Rewritten w w.flush := spill_rewritten _
  have hcontent := flush_content hw.ready
  have hbuffer : w.flush.handle.buffer = [] := flush_buffer
  constructor
  · refine hw.rewritten h (fun hne => absurd hbuffer hne) ?_ ?_
    · unfold whole
      rw [hbuffer, hcontent, List.append_nil]
      exact hw.sent
    · intro hS s hs
      rcases hw.described hS s hs with hnil | ⟨hempty, hdescribed⟩
      · exact .inl hnil
      · refine .inr ⟨hbuffer, ?_⟩
        rwa [flush_of_empty hempty]
  · refine hw.keeps h ?_
    by_cases hempty : w.handle.buffer = []
    · rw [flush_of_empty hempty]
      exact .inl rfl
    · exact .inr (hw.pending hempty).1.target

/-- Moving the position of a file with nothing in its buffer. -/
theorem Working.reposition (hw : Working digests S identity state w)
    (hbuffer : w.handle.buffer = []) (position : ℕ) :
    Working digests S identity state
      { w with handle := { w.handle with position := position } } := by
  have h : Rewritten w { w with handle := { w.handle with position := position } } :=
    withHandle_rewritten ..
  refine hw.rewritten h (fun hne => absurd hbuffer hne) hw.sent hw.described

theorem Working.seek (hw : Working digests S identity state w) (position : ℕ) :
    Working digests S identity state (w.seek position) ∧ Keeps identity w (w.seek position) := by
  obtain ⟨hflush, hkeeps⟩ := hw.flush
  refine ⟨hflush.reposition flush_buffer position, ?_⟩
  exact ⟨hkeeps.target, hkeeps.foreign, hkeeps.nextIno⟩

theorem seek_rewritten (position : ℕ) : Rewritten w (w.seek position) :=
  (spill_rewritten _).trans (withHandle_rewritten ..)

theorem truncate_rewritten (size : ℕ) : Rewritten w (w.truncate size) :=
  (spill_rewritten _).trans (setContent_rewritten _)

theorem truncate_content : (w.truncate 0).content = [] := by
  unfold World.truncate
  rw [setContent_content]
  simp

theorem truncate_buffer (size : ℕ) : (w.truncate size).handle.buffer = [] := flush_buffer

/-- Emptying the file of a call. -/
theorem Working.truncate (hw : Working digests S identity state w) (hapart : Apart w) :
    Working digests S identity state (w.truncate 0) ∧ Keeps identity w (w.truncate 0) := by
  constructor
  · refine hw.rewritten (truncate_rewritten 0)
      (fun hne => absurd (truncate_buffer 0) hne) ?_ ?_
    · intro offset b hb
      unfold whole at hb
      rw [truncate_content, truncate_buffer, List.append_nil, List.getElem?_nil] at hb
      exact absurd hb (by simp)
    · exact fun _ s _ => .inr ⟨truncate_buffer 0, .inl truncate_content⟩
  · exact hw.keeps (truncate_rewritten 0) (.inr hapart.target)

end Invariants

end MediaSync.DownloadIntegrity
