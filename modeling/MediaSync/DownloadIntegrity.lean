import MediaSync.DownloadQuiet

/-!
# What a resumed download keeps

Any number of calls for one target, each stopped anywhere, keep the partial
file honest: every byte of it was sent by the server, for that offset, to the
download its checkpoint names. A target that exists is left alone, and so is
the partial file of another download.

The stored block digests are less robust. They describe the partial file only
while it is complete, and a process that stops between emptying a rejected
file and rewriting the checkpoint leaves them beside an empty file. A run in
which no call starts from such a directory publishes only what it verified.
-/
namespace MediaSync.DownloadIntegrity
open FaultPrograms PythonText DownloadStream

variable {digests : Digests} {S : Prop} {w : World} {call : Call}

/-! ## Runs -/

/-- What happens to one target: a call, a change by another program, or the
removal of the target by its owner. -/
inductive Turn where
  | call (call : Call) (schedule : Schedule Move)
  | move (move : Move)
  | removeTarget

/-- One call of a run: how it began, every effect it had, and how it ended. -/
structure Attempt where
  call : Call
  before : World
  effects : List (World × World)
  outcome : Outcome StreamError ℕ
  after : World

def attempt (digests : Digests) (call : Call) (schedule : Schedule Move) (w : World) : Attempt :=
  let r := (streamDownload digests call).run schedule w
  ⟨call, w, (streamDownload digests call).steps schedule w, r.1, r.2.1⟩

/-- The calls of a run, from the directory `w`. -/
def attempts (digests : Digests) : List Turn → World → List Attempt
  | [], _ => []
  | .call call schedule :: turns, w =>
    let a := attempt digests call schedule w
    a :: attempts digests turns a.after.ended
  | .move move :: turns, w => attempts digests turns (Surroundings.move move w)
  | .removeTarget :: turns, w => attempts digests turns { w with target := none }

/-- What a call keeps; that returned content was verified is promised under `S`. -/
structure Kept (digests : Digests) (S : Prop) (a : Attempt) : Prop where
  provenance : Provenance a.after
  target : KeepsTarget a.before a.after
  foreign : KeepsForeign (a.call.fingerprint digests) a.before a.after
  effects (s : World × World) : s ∈ a.effects →
    KeepsTarget s.1 s.2 ∧ KeepsForeign (a.call.fingerprint digests) s.1 s.2
  returned (count : ℕ) : a.outcome = .value count → Recorded digests a.call a.before ∨
    ∃ ino, a.after.target = some (.file ino) ∧
      a.call.expectedSize = some ((a.after.files ino).content.length : ℤ) ∧
        (S → Authentic digests a.call (a.after.files ino).content)

theorem attempt_kept {schedule : Schedule Move} (hdirectory : Directory digests S w)
    (hbuffer : w.handle.buffer = []) (hsettled : S → Settled digests call w) :
    Kept digests S (attempt digests call schedule w) ∧
      Directory digests S (attempt digests call schedule w).after := by
  have hmeets := call_streamDownload hdirectory hbuffer hsettled
  obtain ⟨hresult, hsteps⟩ := hmeets schedule
  have hafter : Directory digests S (attempt digests call schedule w).after := by
    unfold attempt
    rcases hrun : (streamDownload digests call).run schedule w with ⟨n | e | _, w', es⟩ <;>
      rw [hrun] at hresult
    · exact hresult.1.1
    · exact hresult.1.1
    · exact hresult.1
  refine ⟨⟨hafter.sent, ?_, ?_, fun s hs => ⟨(hsteps s hs).target, (hsteps s hs).foreign⟩, ?_⟩,
    hafter⟩
  · intro entry hentry
    have hframe := hmeets.frame (J := fun w' => w'.target = some entry ∧ ∀ ino,
      entry = .file ino → ino < w'.nextIno ∧ w'.files ino = w.files ino) ?_ ?_ ?_ schedule
    · exact ⟨hframe.1, fun ino hino => (hframe.2 ino hino).2⟩
    · intro move w' h
      have helsewhere := move_elsewhere move w'
      refine ⟨?_, fun ino hino => ?_⟩
      · rcases helsewhere.target with hsame | ⟨habsent, _⟩
        · exact hsame.trans h.1
        · rw [h.1] at habsent
          cases habsent
      · obtain ⟨hlt, hfile⟩ := h.2 ino hino
        exact ⟨Nat.lt_of_lt_of_le hlt helsewhere.nextIno, (helsewhere.files ino hlt).trans hfile⟩
    · intro w' w'' hstep h
      obtain ⟨htarget, hfiles⟩ := hstep.target entry h.1
      refine ⟨htarget, fun ino hino => ?_⟩
      obtain ⟨hlt, hfile⟩ := h.2 ino hino
      exact ⟨Nat.lt_of_lt_of_le hlt hstep.nextIno, (hfiles ino hino).trans hfile⟩
    · exact ⟨hentry, fun ino hino => ⟨hdirectory.target_lt ino (hino ▸ hentry), rfl⟩⟩
  · intro hforeign
    have hframe := hmeets.frame (J := fun w' => w.nextIno ≤ w'.nextIno ∧ w'.part = w.part ∧
      w'.partData = w.partData ∧ w'.checkpoint = w.checkpoint) ?_ ?_ ?_ schedule
    · exact hframe.2
    · intro move w' h
      obtain ⟨hle, hpart, hdata, hcheckpoint⟩ := h
      have helsewhere := move_elsewhere move w'
      refine ⟨Nat.le_trans hle helsewhere.nextIno, helsewhere.part.trans hpart, ?_,
        helsewhere.checkpoint.trans hcheckpoint⟩
      refine (helsewhere.partData fun ino hino => ?_).trans hdata
      rw [hpart] at hino
      exact Nat.lt_of_lt_of_le (hdirectory.part_lt ino hino) hle
    · intro w' w'' hstep h
      obtain ⟨hle, hpart, hdata, hcheckpoint⟩ := h
      have hthere : Foreign (call.fingerprint digests) w' := by
        unfold Foreign checkpointIdentity
        rw [hdata, hcheckpoint]
        exact hforeign
      obtain ⟨hpart', hdata', hcheckpoint'⟩ := hstep.foreign hthere
      exact ⟨Nat.le_trans hle hstep.nextIno, hpart'.trans hpart, hdata'.trans hdata,
        hcheckpoint'.trans hcheckpoint⟩
    · exact ⟨Nat.le_refl _, rfl, rfl, rfl⟩
  · intro count hcount
    unfold attempt at hcount
    rcases hrun : (streamDownload digests call).run schedule w with ⟨n | e | _, w', es⟩ <;>
      rw [hrun] at hresult hcount
    · obtain ⟨_, size, hsize, hreached⟩ := hresult.1
      rcases hreached with hrecorded | hpublished
      · exact .inl hrecorded
      · obtain ⟨ino, htarget, hlength, hauthentic⟩ := hpublished.target
        refine .inr ⟨ino, ?_, ?_, ?_⟩
        all_goals
          unfold attempt
          rw [hrun]
        · exact htarget
        · exact hsize.trans (congrArg (fun n : ℕ => some (n : ℤ)) hlength.symm)
        · exact hauthentic
    · cases hcount
    · cases hcount

theorem Directory.fresh : Directory digests S World.fresh :=
  ⟨fun _ h => (by cases h), fun _ h => (by cases h), fun _ h => (by cases h),
    fun _ h => (by cases h), fun _ _ _ h => (by cases h)⟩

theorem attempts_kept {turns : List Turn} (hdirectory : Directory digests S w)
    (hbuffer : w.handle.buffer = [])
    (hsettled : S → ∀ a ∈ attempts digests turns w, Settled digests a.call a.before) :
    ∀ a ∈ attempts digests turns w, Kept digests S a := by
  induction turns generalizing w with
  | nil => exact fun a ha => absurd ha List.not_mem_nil
  | cons turn turns ih =>
    cases turn with
    | call call schedule =>
      obtain ⟨hkept, hafter⟩ := attempt_kept hdirectory
        hbuffer fun hS => hsettled hS _ (List.mem_cons_self ..)
      intro a ha
      rcases List.mem_cons.mp ha with ha | ha
      · rw [ha]
        exact hkept
      · refine ih ?_ rfl (fun hS b hb => hsettled hS b (List.mem_cons_of_mem _ hb)) a ha
        exact ⟨hafter.part_lt, hafter.target_lt, hafter.saved, hafter.sent, hafter.described⟩
    | move move =>
      have h := move_elsewhere move w
      refine ih (Directory.stable digests S w _ h hdirectory) ?_ hsettled
      rw [h.handle]
      exact hbuffer
    | removeTarget =>
      refine ih ?_ hbuffer hsettled
      exact ⟨hdirectory.part_lt, fun _ h => (by cases h), hdirectory.saved, hdirectory.sent,
        hdirectory.described⟩

/-- In every run, whatever stops its calls. -/
theorem downloads_careful (digests : Digests) (turns : List Turn) :
    ∀ a ∈ attempts digests turns World.fresh, Kept digests False a :=
  attempts_kept Directory.fresh rfl fun h => h.elim

/-- A run in which every call starts from a settled directory returns only
content with the supplied hash. -/
theorem settled_downloads_kept (digests : Digests) (turns : List Turn)
    (hsettled : ∀ a ∈ attempts digests turns World.fresh, Settled digests a.call a.before) :
    ∀ a ∈ attempts digests turns World.fresh, Kept digests True a :=
  attempts_kept Directory.fresh rfl fun _ => hsettled

/-! The run that publishes a file it did not verify -/

@[irreducible] def zeros : Bytes := List.replicate 262144 0

@[irreducible] def ones : Bytes := List.replicate 262144 1

theorem zeros_length : zeros.length = 262144 := by
  unfold zeros
  exact List.length_replicate

theorem ones_length : ones.length = 262144 := by
  unfold ones
  exact List.length_replicate

def zerosDigest : Bytes :=
  [0x2e, 0x00, 0x0f, 0xa7, 0xe8, 0x57, 0x59, 0xc7, 0xf4, 0xc2,
    0x54, 0xd4, 0xd9, 0xc3, 0x3e, 0xf4, 0x81, 0xe4, 0x59, 0xa7]

def onesDigest : Bytes :=
  [0xd9, 0x3b, 0x20, 0x83, 0x38, 0x76, 0x94, 0x47, 0x00, 0x4e,
    0x90, 0xbf, 0x14, 0x27, 0x69, 0xfc, 0x00, 0x4d, 0x8b, 0x0c]

def zeroDigest : Bytes :=
  [0x5b, 0xa9, 0x3c, 0x9d, 0xb0, 0xcf, 0xf9, 0x3f, 0x52, 0xb5,
    0x21, 0xd7, 0x42, 0x0e, 0x43, 0xf6, 0xed, 0xa2, 0x78, 0x4f]

def oneDigest : Bytes :=
  [0xbf, 0x8b, 0x45, 0x30, 0xd8, 0xd2, 0x46, 0xdd, 0x74, 0xac,
    0x53, 0xa1, 0x34, 0x71, 0xbb, 0xa1, 0x79, 0x41, 0xdf, 0xf7]

def goodDigest : Bytes :=
  [0xd0, 0x0c, 0xaf, 0xa9, 0x58, 0xf0, 0x37, 0xc1, 0x09, 0x3d,
    0x8f, 0x45, 0xc7, 0x67, 0x5c, 0xaf, 0x6e, 0xac, 0xac, 0xc1]

def rejectedDigest : Bytes :=
  [0xd1, 0xe6, 0x58, 0xb0, 0x68, 0x06, 0x62, 0x62, 0x57, 0x4c,
    0x0b, 0xfa, 0xb0, 0xe4, 0x6b, 0x1a, 0x34, 0x87, 0xc6, 0x8d]

def staleDigest : Bytes :=
  [0x12, 0xc2, 0x5c, 0x68, 0xb0, 0x2c, 0xb8, 0x82, 0x8a, 0x4a,
    0xf2, 0x57, 0x83, 0x49, 0xed, 0x49, 0x68, 0xe0, 0x23, 0xb8]

/-- SHA-1 of the short texts of the run. -/
def shortSha1 (bytes : Bytes) : Bytes :=
  if bytes = [0] then zeroDigest
  else if bytes = [1] then oneDigest
  else if bytes = zerosDigest ++ zeroDigest then goodDigest
  else if bytes = zerosDigest ++ oneDigest then rejectedDigest
  else if bytes = onesDigest ++ zeroDigest then staleDigest
  else List.replicate 20 0

def sampleSha1 (bytes : Bytes) : Bytes :=
  if bytes = zeros then zerosDigest else if bytes = ones then onesDigest else shortSha1 bytes

theorem sampleSha1_short {bytes : Bytes} (h : bytes.length ≠ 262144) :
    sampleSha1 bytes = shortSha1 bytes := by
  have hzeros : bytes ≠ zeros := fun heq => h (by rw [heq, zeros_length])
  have hones : bytes ≠ ones := fun heq => h (by rw [heq, ones_length])
  unfold sampleSha1
  rw [if_neg hzeros, if_neg hones]

theorem ones_ne_zeros : ones ≠ zeros := by
  intro heq
  have hhead := congrArg List.head? heq
  unfold ones zeros at hhead
  rw [List.head?_replicate, List.head?_replicate] at hhead
  rw [if_neg (by decide), if_neg (by decide)] at hhead
  exact absurd hhead (by decide)

theorem sampleSha1_zeros : sampleSha1 zeros = zerosDigest := by
  unfold sampleSha1
  exact if_pos rfl

theorem sampleSha1_ones : sampleSha1 ones = onesDigest := by
  unfold sampleSha1
  rw [if_neg ones_ne_zeros]
  exact if_pos rfl

def sample : Digests where
  sha1 := sampleSha1
  sha256Json _ := "b85a5fec5a6ff4101a34c5f1176b7ffc3a7614eb3c1af2358e5a85c077ff9197"
  sha256Json_ne _ := by decide

theorem sample_sha1 : sample.sha1 = sampleSha1 := rfl

theorem sample_sha1_length (bytes : Bytes) : (sample.sha1 bytes).length = 20 := by
  rw [sample_sha1]
  unfold sampleSha1 shortSha1
  split_ifs <;> rfl

def movie : Call where
  url := { scheme := "https", hostname := some "dl.mypikpak.com" }
  expectedSize := some 262145
  identity := some "1:movie"
  expectedHash := some (hexDigest goodDigest)
  chunkBytes := 262144

def firstPart (body : Bytes) : Response :=
  { status := 206, contentRange := some "bytes 0-262143/262145", body := body }

def lastPart (body : Bytes) : Response :=
  { status := 206, contentRange := some "bytes 262144-262144/262145", body := body }

def movieServed (start last : ℕ) (response : Response) : Served :=
  ⟨movie.fingerprint sample, movie.url, requestRange movie start last, response⟩

section Movie
variable {content : Bytes} {saved state : Checkpoint} {served : List Served} {deadline : ℕ}

theorem firstRange :
    acceptedRange 262145 0 262143 "bytes 0-262143/262145" = .ok (some 262144) := by rfl

theorem lastRange :
    acceptedRange 262145 262144 262144 "bytes 262144-262144/262145" = .ok (some 262145) := by rfl

theorem firstOffset : lastOffset movie 262145 0 = 262143 := by decide

theorem endOffset : lastOffset movie 262145 262144 = 262144 := by decide

theorem movie_first {body : Bytes} (hdeadline : 0 < deadline) (hbody : body.length = 262144) :
    (guarded sample movie 262145 state deadline).run ([] : Schedule Move)
        (desk [] [] 0 saved (some (firstPart body)) served) =
      (.raised (.deferred 262144), desk body [] 262144 state none
        (movieServed 0 262143 (firstPart body) :: served), []) := by
  have hlength : ([] : Bytes).length + (firstPart body).body.length = 262144 := by
    change 0 + body.length = 262144
    omega
  have hrange : acceptedRange 262145 ([] : Bytes).length
      (lastOffset movie 262145 ([] : Bytes).length)
      ((firstPart body).contentRange.getD "") =
        .ok (some (([] : Bytes).length + (firstPart body).body.length)) := by
    rw [hlength, List.length_nil, firstOffset]
    exact firstRange
  have h : (guarded sample movie 262145 state deadline).run ([] : Schedule Move)
      (desk [] [] 0 saved (some (firstPart body)) served) = _ :=
    run_guarded_part (by rw [hlength]; decide) rfl rfl rfl hrange rfl hdeadline
  rw [hlength, List.length_nil, firstOffset] at h
  exact h

theorem movie_recognized : hashRecognized (hexDigest goodDigest) = true := by
  unfold hashRecognized hexDigest
  rw [String.toList_ofList]
  decide

theorem movie_block : blockSize 262145 = 262144 := by decide

/-- The last byte arrives and the verification begins. -/
theorem movie_last {tail : UInt8} (hdeadline : 0 < deadline) (hcontent : content.length = 262144) :
    (transfer sample movie 262145 deadline state).run ([] : Schedule Move)
        (desk content [] 0 saved (some (lastPart [tail])) served) =
      Prog.extend (fun state => publish state 262145)
        ((verify sample movie 262145 deadline state).run []
          (desk (content ++ [tail]) [] 262145 saved none
            (movieServed 262144 262144 (lastPart [tail]) :: served))) := by
  have hlast : content.length + (lastPart [tail]).body.length = 262145 := by
    rw [hcontent]
    rfl
  have hrange : acceptedRange 262145 content.length (lastOffset movie 262145 content.length)
      ((lastPart [tail]).contentRange.getD "") =
        .ok (some (content.length + (lastPart [tail]).body.length)) := by
    rw [hlast, hcontent, endOffset]
    exact lastRange
  have h : (transfer sample movie 262145 deadline state).run ([] : Schedule Move)
      (desk content [] 0 saved (some (lastPart [tail])) served) = _ :=
    run_transfer_last hlast (by rw [hcontent]; decide) rfl rfl rfl hrange rfl hdeadline
  rw [hcontent, endOffset] at h
  exact h

/-- The verification of a complete file that has no digest yet yields after its first block. -/
theorem movie_verify_yields {tail : UInt8} {position : ℕ} (hcontent : content.length = 262144)
    (hnone : state.digests = some []) :
    (verify sample movie 262145 deadline state).run ([] : Schedule Move)
        (desk (content ++ [tail]) [] position saved none served) =
      (.raised (.deferred 262145, hashed sample state content),
        desk (content ++ [tail]) [] 262144 saved none served, []) := by
  have hread : ((content ++ [tail]).drop 0).take (min 262144 (262145 - 0)) = content := by
    rw [List.drop_zero]
    exact List.take_left' hcontent
  have hne : content ≠ [] := by
    intro hnil
    rw [hnil] at hcontent
    cases hcontent
  have hempty : state.digestList = [] := by
    unfold Checkpoint.digestList
    rw [hnone]
    rfl
  have hstate : { state with digests := some state.digestList } = state := by
    rw [hempty, ← hnone]
  have hstart : min (state.digestList.length * 262144) 262145 = 0 := by
    rw [hempty]
    rfl
  have hround : (verifyBlocks sample movie 262145 deadline 262144 (262145 - 0) state 0 0).run
      ([] : Schedule Move) (desk (content ++ [tail]) [] 0 saved none served) = _ :=
    run_verifyBlocks_yield hread hne (by rw [hcontent]; decide)
      ⟨by decide, by rw [hcontent]; decide⟩ (by decide)
  rw [hcontent] at hround
  have hhash : movie.expectedHash = some (hexDigest goodDigest) := rfl
  unfold verify
  rw [hhash]
  dsimp only
  rw [if_neg (not_not.mpr movie_recognized), hstate, movie_block, hstart]
  simp only [Prog.run_bind, run_update, Prog.extend, desk_seek, hround]

theorem movie_yields {tail : UInt8} (hdeadline : 0 < deadline) (hcontent : content.length = 262144)
    (hnone : state.digests = some []) :
    (guarded sample movie 262145 state deadline).run ([] : Schedule Move)
        (desk content [] 0 saved (some (lastPart [tail])) served) =
      (.raised (.deferred 262145), desk (content ++ [tail]) [] 262144
        (hashed sample state content) none
        (movieServed 262144 262144 (lastPart [tail]) :: served), []) := by
  have htransfer : (transfer sample movie 262145 deadline state).run ([] : Schedule Move)
      (desk content [] 0 saved (some (lastPart [tail])) served) = _ :=
    movie_last hdeadline hcontent
  rw [movie_verify_yields hcontent hnone] at htransfer
  unfold guarded
  simp only [Prog.run_bind, Prog.run_attempt, htransfer, Prog.extend, Prog.settleResult, stateAfter,
    run_settle_flushed]
  rfl

theorem gcidOf_stored :
    gcidOf sample [hexDigest zerosDigest, hexDigest zeroDigest] =
      some (hexDigest goodDigest).toList := by
  have hsha : sampleSha1 [zerosDigest, zeroDigest].flatten = goodDigest := by
    rw [sampleSha1_short (by decide)]
    decide
  have hstored := mapM_fromHex [zerosDigest, zeroDigest]
  unfold gcidOf
  change (List.mapM fromHex ([zerosDigest, zeroDigest].map hexDigest)).map _ = _
  rw [hstored]
  change some (hexDigest (sampleSha1 [zerosDigest, zeroDigest].flatten)).toList = _
  rw [hsha]

theorem sampleSha1_zero : sample.sha1 [0] = zeroDigest := by
  change sampleSha1 [0] = _
  rw [sampleSha1_short (by decide)]
  decide

/-- What is stored once the first block was verified. -/
theorem hashed_zeros (hnone : state.digests = some []) :
    (hashed sample state zeros).digests = some [hexDigest zerosDigest] := by
  unfold hashed Checkpoint.digestList
  rw [hnone, sample_sha1, sampleSha1_zeros]
  rfl

/-- A digest that is stored stands for its block, whatever the block is now. -/
theorem movie_verify_accepts {position : ℕ} (hcontent : content.length = 262144)
    (hstored : state.digests = some [hexDigest zerosDigest]) :
    (verify sample movie 262145 deadline state).run ([] : Schedule Move)
        (desk (content ++ [0]) [] position saved none served) =
      (.value (hashed sample state [0]),
        desk (content ++ [0]) [] 262145 saved none served, []) := by
  have hread : ((content ++ [0]).drop 262144).take (min 262144 (262145 - 262144)) =
      ([0] : Bytes) := by
    rw [List.drop_left' hcontent]
    rfl
  have hlist : state.digestList = [hexDigest zerosDigest] := by
    unfold Checkpoint.digestList
    rw [hstored]
    rfl
  have hstate : { state with digests := some state.digestList } = state := by
    rw [hlist, ← hstored]
  have hstart : min (state.digestList.length * 262144) 262145 = 262144 := by
    rw [hlist]
    rfl
  have hround : (verifyBlocks sample movie 262145 deadline 262144 (262145 - 262144) state
      262144 0).run ([] : Schedule Move) (desk (content ++ [0]) [] 262144 saved none served) = _ :=
    run_verifyBlocks_last hread (by decide) (by decide) (by decide)
  have hhash : movie.expectedHash = some (hexDigest goodDigest) := rfl
  have hgcid : gcidOf sample (hashed sample state [0]).digestList =
      some (hexDigest goodDigest).toList := by
    change gcidOf sample (state.digestList ++ [hexDigest (sample.sha1 [0])]) = _
    rw [hlist, sampleSha1_zero]
    exact gcidOf_stored
  unfold verify
  rw [hhash]
  dsimp only
  rw [if_neg (not_not.mpr movie_recognized), hstate, movie_block, hstart]
  simp only [Prog.run_bind, run_update, Prog.extend, desk_seek, hround, hgcid, if_true,
    Prog.run_pure]

def publishedState (state : Checkpoint) (content : Bytes) : Checkpoint :=
  { state with digests := none, publishedIdentity := some ⟨0, content.length, 0⟩ }

theorem run_publish {written position : ℕ} :
    (publish state written).run ([] : Schedule Move) (desk content [] position saved none served) =
      (.value (written, publishedState state content),
        { desk content [] position (publishedState state content) none served with
          part := none
          target := some (.file 0) }, []) := rfl

theorem movie_accepts (hdeadline : 0 < deadline) (hcontent : content.length = 262144)
    (hstored : state.digests = some [hexDigest zerosDigest]) :
    (guarded sample movie 262145 state deadline).run ([] : Schedule Move)
        (desk content [] 0 saved (some (lastPart [0])) served) =
      (.value 262145,
        { desk (content ++ [0]) [] 262145
            (publishedState (hashed sample state [0]) (content ++ [0])) none
            (movieServed 262144 262144 (lastPart [0]) :: served) with
          part := none
          target := some (.file 0) }, []) := by
  have htransfer : (transfer sample movie 262145 deadline state).run ([] : Schedule Move)
      (desk content [] 0 saved (some (lastPart [0])) served) = _ :=
    movie_last hdeadline hcontent
  rw [movie_verify_accepts hcontent hstored] at htransfer
  unfold guarded
  simp only [Prog.run_bind, Prog.run_attempt, htransfer, Prog.extend, run_publish,
    Prog.settleResult, stateAfter]
  rfl

/-- A call that finds the file complete verifies what is left of it. -/
theorem movie_resumes (hcontent : content.length = 262144)
    (hstored : state.digests = some [hexDigest zerosDigest]) :
    (guarded sample movie 262145 state deadline).run ([] : Schedule Move)
        (desk (content ++ [0]) [] 0 saved none served) =
      (.value 262145,
        { desk (content ++ [0]) [] 262145
            (publishedState (hashed sample state [0]) (content ++ [0])) none served with
          part := none
          target := some (.file 0) }, []) := by
  have hlength : (content ++ [0]).length = 262145 := by
    rw [List.length_append, hcontent]
    rfl
  have htransfer : (transfer sample movie 262145 deadline state).run ([] : Schedule Move)
      (desk (content ++ [0]) [] 0 saved none served) = _ := run_transfer_complete hlength
  rw [movie_verify_accepts hcontent hstored] at htransfer
  unfold guarded
  simp only [Prog.run_bind, Prog.run_attempt, htransfer, Prog.extend, run_publish,
    Prog.settleResult, stateAfter]
  rfl

/-! A stop between emptying a rejected file and the next checkpoint -/

def stopAfter (count : ℕ) : Schedule Move := List.replicate count ⟨[], .none⟩ ++ [⟨[], .crash⟩]

section Stopped
variable {ε α : Type} {fail : StreamError → ε} {failure : ε} {w : World} {n : ℕ}

theorem stop_observe (view : World → α) :
    (observe fail view).run (stopAfter (n + 1)) w = (.value (view w), w, stopAfter n) := rfl

theorem stop_update (next : World → World) :
    (update fail next).run (stopAfter (n + 1)) w = (.value (), next w, stopAfter n) := rfl

theorem stop_writeCheckpoint : (writeCheckpoint fail state).run (stopAfter (n + 2)) w =
    (.value (), { w with checkpoint := some state }, stopAfter n) := rfl

end Stopped

theorem stop_probe {ε : Type} {fail : StreamError → ε} {n position : ℕ} :
    (probe fail).run (stopAfter (n + 2)) (desk content [] position saved none served) =
      (.value (), desk content [] position saved none served, stopAfter n) := rfl

theorem stop_readBlock {count n position : ℕ} :
    (syscall (withState state) fun w => (.ok (w.readable count), w.read count)).run
        (stopAfter (n + 1)) (desk content [] position saved none served) =
      (.value ((content.drop position).take count), desk content []
        (position + ((content.drop position).take count).length) saved none served,
        stopAfter n) := rfl

theorem stop_seekEnd {n position : ℕ} :
    (syscall (withState state) fun w => (.ok w.seekEnd.handle.position, w.seekEnd)).run
        (stopAfter (n + 1)) (desk content [] position saved none served) =
      (.value content.length, desk content [] content.length saved none served, stopAfter n) :=
  rfl

theorem stop_transfer {digests : Digests} {call : Call} {size n position : ℕ}
    (hlength : content.length = size) :
    (transfer digests call size deadline state).run (stopAfter (n + 2))
        (desk content [] position saved none served) =
      Prog.extend (fun state => publish state size)
        ((verify digests call size deadline state).run (stopAfter n)
          (desk content [] size saved none served)) := by
  have hcomplete : complete digests call size deadline state size = pure (size, state) :=
    if_neg (Nat.lt_irrefl _)
  have hflush : (desk content [] size saved none served).flush =
      desk content [] size saved none served := rfl
  unfold transfer
  simp only [Prog.run_bind, stop_seekEnd, Prog.extend, hlength, hcomplete, Prog.run_pure,
    if_neg (Nat.lt_irrefl size), stop_update, hflush]

/-- The verification of the last block of a file with a stored digest. -/
theorem stop_verifyBlocks {tail : UInt8} {n : ℕ} (hcontent : content.length = 262144) :
    (verifyBlocks sample movie 262145 deadline 262144 1 state 262144 0).run (stopAfter (n + 3))
        (desk (content ++ [tail]) [] 262144 saved none served) =
      (.value (hashed sample state [tail]),
        desk (content ++ [tail]) [] 262145 saved none served, stopAfter n) := by
  have hread : ((content ++ [tail]).drop 262144).take (min 262144 (262145 - 262144)) =
      [tail] := by
    rw [List.drop_left' hcontent]
    rfl
  rw [verifyBlocks, if_neg (by decide)]
  simp only [Prog.run_bind, stop_probe, Prog.extend, stop_readBlock, hread]
  rw [if_neg (List.cons_ne_nil _ _), if_neg fun h => Nat.lt_irrefl _ h.1]
  rfl

/-- The rejected file is emptied; its digests are not. -/
theorem movie_stops {tail : UInt8} (hcontent : content.length = 262144)
    (hrejected : gcidOf sample (hashed sample state [tail]).digestList =
      some (hexDigest rejectedDigest).toList)
    (hidentity : state.identity = some (movie.fingerprint sample))
    (hstored : state.digests = some [hexDigest zerosDigest]) :
    (streamDownload sample movie).run (stopAfter 19)
        (desk (content ++ [tail]) [] 0 state none served) =
      (.crashed, desk [] [] 0 state none served, []) := by
  have hlength : (content ++ [tail]).length = 262145 := by
    rw [List.length_append, hcontent]
    rfl
  have hurl : validateDownloadUrl movie.url = .ok () := rfl
  have hsize : movie.expectedSize = some ((262145 : ℕ) : ℤ) := rfl
  have hhash : movie.expectedHash = some (hexDigest goodDigest) := rfl
  have hlist : state.digestList = [hexDigest zerosDigest] := by
    unfold Checkpoint.digestList
    rw [hstored]
    rfl
  have hstate : { state with digests := some state.digestList } = state := by
    rw [hlist, ← hstored]
  have hstart : min (state.digestList.length * 262144) 262145 = 262144 := by
    rw [hlist]
    rfl
  have hdiffer : ¬ (hexDigest rejectedDigest).toList.map lowerHex =
      (hexDigest goodDigest).toList.map lowerHex := by
    unfold hexDigest
    rw [String.toList_ofList, String.toList_ofList]
    decide
  have hverify (deadline : ℕ) : (verify sample movie 262145 deadline state).run
      (stopAfter 6) (desk (content ++ [tail]) [] 262145 state none served) =
        (.raised (.download "PikPak GCID 内容校验失败，未发布文件；重试将重新下载",
          { hashed sample state [tail] with digests := some [] }),
          desk [] [] 0 state none served, stopAfter 0) := by
    unfold verify
    rw [hhash]
    dsimp only
    rw [if_neg (not_not.mpr movie_recognized), hstate, movie_block, hstart]
    simp only [Prog.run_bind, stop_update, Prog.extend, desk_seek, Nat.reduceSub,
      stop_verifyBlocks hcontent, hrejected, if_neg hdiffer, desk_truncate]
    rfl
  have htransfer (deadline : ℕ) : (transfer sample movie 262145 deadline state).run
      (stopAfter 8) (desk (content ++ [tail]) [] 0 state none served) =
        (.raised (.download "PikPak GCID 内容校验失败，未发布文件；重试将重新下载",
          { hashed sample state [tail] with digests := some [] }),
          desk [] [] 0 state none served, stopAfter 0) := by
    rw [stop_transfer hlength, hverify]
    rfl
  have hguarded (deadline : ℕ) : (guarded sample movie 262145 state deadline).run
      (stopAfter 8) (desk (content ++ [tail]) [] 0 state none served) =
        (.crashed, desk [] [] 0 state none served, []) := by
    unfold guarded
    simp only [Prog.run_bind, Prog.run_attempt, htransfer, Prog.settleResult, Prog.extend]
    rfl
  have hlock : (Prog.look .os fun w => if w.locked then
      .error (.download "同一目标文件已有下载任务") else .ok () : Stream Unit).run
        (stopAfter 16) (desk (content ++ [tail]) [] 0 state none served) =
      (.value (), desk (content ++ [tail]) [] 0 state none served, stopAfter 15) := rfl
  have hsaved : (desk (content ++ [tail]) [] 0 state none served).checkpoint.getD {} = state := rfl
  have habsent : (desk (content ++ [tail]) [] 0 state none served).target.isSome = false := rfl
  have hmeasured : (desk (content ++ [tail]) [] 0 state none served).content.length = 262145 :=
    hlength
  have hsame : { desk (content ++ [tail]) [] 0 state none served with
      checkpoint := some state } = desk (content ++ [tail]) [] 0 state none served := rfl
  have hlocked (deadline : ℕ) : (locked sample movie 262145 deadline).run (stopAfter 16)
      (desk (content ++ [tail]) [] 0 state none served) =
        (.crashed, desk [] [] 0 state none served, []) := by
    unfold locked
    simp only [Prog.run_bind, hlock, Prog.extend, stop_probe, stop_observe, hsaved, habsent]
    rw [if_neg Bool.false_ne_true]
    unfold adopt
    rw [if_pos hidentity]
    simp only [Prog.run_bind, stop_observe, Prog.extend, hmeasured]
    rw [if_neg (Nat.lt_irrefl _)]
    simp only [Prog.run_pure, stop_writeCheckpoint, hsame, hguarded]
  unfold streamDownload
  rw [hurl, hsize]
  simp only [Prog.ofExcept, Prog.run_bind, Prog.run, Prog.extend]
  rw [if_neg (by decide)]
  simp only [Prog.run_bind, stop_observe, stop_update, Prog.extend, desk_openPart,
    Prog.run_attempt, hlocked, Int.toNat_natCast, Prog.settleResult]

end Movie

def staleRun : List Turn :=
  [.move (.answer (some (firstPart zeros))), .call movie [],
    .move (.answer (some (lastPart [1]))), .call movie [],
    .call movie (stopAfter 19),
    .move (.answer (some (firstPart ones))), .call movie [],
    .move (.answer (some (lastPart [0]))), .call movie []]

theorem gcid_stale : gcid sample (ones ++ [0]) = hexDigest staleDigest := by
  have hlength : (ones ++ [0]).length = 262145 := by
    rw [List.length_append, ones_length]
    rfl
  have hfirst : blockDigest sample (ones ++ [0]) 0 = onesDigest := by
    unfold blockDigest blockAt
    rw [hlength, movie_block, Nat.zero_mul, List.drop_zero,
      List.take_left' ones_length, sample_sha1]
    exact sampleSha1_ones
  have hlast : blockDigest sample (ones ++ [0]) 1 = zeroDigest := by
    unfold blockDigest blockAt
    rw [hlength, movie_block, Nat.one_mul, List.drop_left' ones_length]
    exact sampleSha1_zero
  have hcount : blockCount 262145 = 2 := by decide
  have hsha : sampleSha1 [onesDigest, zeroDigest].flatten = staleDigest := by
    rw [sampleSha1_short (by decide)]
    decide
  unfold gcid
  rw [hlength, hcount, sample_sha1]
  have hblocks : (List.range 2).map (blockDigest sample (ones ++ [0])) =
      [onesDigest, zeroDigest] := by
    rw [← hfirst, ← hlast]
    rfl
  rw [hblocks, hsha]

/-- Calls that end are followed by calls from what they leave. -/
theorem attempts_call {digests : Digests} {call : Call} {schedule rest : Schedule Move}
    {turns : List Turn} {w w' : World} {outcome : Outcome StreamError ℕ}
    (h : (streamDownload digests call).run schedule w = (outcome, w', rest)) :
    attempts digests (.call call schedule :: turns) w =
      attempt digests call schedule w :: attempts digests turns w'.ended := by
  have hafter : (attempt digests call schedule w).after = w' := congrArg (fun r => r.2.1) h
  rw [← hafter]
  rfl

/-- The next answer arrives after a call that left the directory at a desk. -/
theorem attempts_answered {digests : Digests} {call : Call} {schedule rest : Schedule Move}
    {turns : List Turn} {w : World} {outcome : Outcome StreamError ℕ} {content : Bytes}
    {position : ℕ} {saved : Checkpoint} {served : List Served} {answer : Option Response}
    (h : (streamDownload digests call).run schedule w =
      (outcome, desk content [] position saved none served, rest)) :
    attempts digests (.call call schedule :: .move (.answer answer) :: turns) w =
      attempt digests call schedule w ::
        attempts digests turns (desk content [] 0 saved answer served) := by
  rw [attempts_call h]
  rfl

theorem attempts_restarted {digests : Digests} {call : Call} {schedule rest : Schedule Move}
    {turns : List Turn} {w : World} {outcome : Outcome StreamError ℕ} {content : Bytes}
    {position : ℕ} {saved : Checkpoint} {served : List Served}
    (h : (streamDownload digests call).run schedule w =
      (outcome, desk content [] position saved none served, rest)) :
    attempts digests (.call call schedule :: turns) w =
      attempt digests call schedule w ::
        attempts digests turns (desk content [] 0 saved none served) := by
  rw [attempts_call h]
  rfl

/-- What a call published has the supplied hash. -/
theorem published_hash {w : World} {content : Bytes} {position : ℕ} {saved : Checkpoint}
    {served : List Served} {rest : Schedule Move}
    (h : (streamDownload sample movie).run [] w = (.value 262145,
      { desk content [] position saved none served with
          part := none
          target := some (.file 0) }, rest))
    (hnot : ¬ Recorded sample movie w) (hkept : Kept sample True (attempt sample movie [] w)) :
    sameHash (gcid sample content) (hexDigest goodDigest) := by
  have hreturned := hkept.returned 262145
  unfold attempt at hreturned
  rw [h] at hreturned
  rcases hreturned rfl with hrecorded | ⟨ino, htarget, _, hauthentic⟩
  · exact absurd hrecorded hnot
  · have hino : ino = 0 := (Entry.file.inj (Option.some.inj htarget)).symm
    subst hino
    exact hauthentic trivial _ rfl

/-- The second call yields after the first block, and the third one goes on from
the digest that it stored. -/
def settledRun : List Turn :=
  [.move (.answer (some (firstPart zeros))), .call movie [],
    .move (.answer (some (lastPart [0]))), .call movie [], .call movie []]

/-- The file that the third call publishes has the supplied hash. -/
theorem settled_downloads_kept_resumed :
    ∃ a ∈ attempts sample settledRun World.fresh,
      a.before.checkpoint.map Checkpoint.digestList = some [hexDigest zerosDigest] ∧
      a.outcome = .value 262145 ∧ Kept sample True a ∧
      sameHash (gcid sample (zeros ++ [0])) (hexDigest goodDigest) := by
  have hurl : validateDownloadUrl movie.url = .ok () := rfl
  have hsize : movie.expectedSize = some ((262145 : ℕ) : ℤ) := rfl
  have hdeadline : 0 < 0 + 8 * 10 ^ 9 := by decide
  have hlength : (zeros ++ [0]).length = 262145 := by
    rw [List.length_append, zeros_length]
    rfl
  let s₁ : Checkpoint := newState (movie.fingerprint sample)
  let s₂ : Checkpoint := hashed sample s₁ zeros
  have hstored : s₂.digests = some [hexDigest zerosDigest] := hashed_zeros rfl
  have first : (streamDownload sample movie).run ([] : Schedule Move)
      { World.fresh with answer := some (firstPart zeros) } = _ :=
    run_firstDownload hurl hsize (movie_first hdeadline zeros_length) rfl rfl fun h => by cases h
  have second (served : List Served) : (streamDownload sample movie).run ([] : Schedule Move)
      (desk zeros [] 0 s₁ (some (lastPart [0])) served) = _ :=
    run_streamDownload hurl hsize rfl (by rw [zeros_length]; decide)
      (movie_yields hdeadline zeros_length rfl) rfl rfl fun h => by cases h
  have third (served : List Served) : (streamDownload sample movie).run ([] : Schedule Move)
      (desk (zeros ++ [0]) [] 0 s₂ none served) = _ :=
    run_streamDownload hurl hsize rfl hlength.le (movie_resumes zeros_length hstored) rfl rfl
      fun h => by cases h
  have hcalls : ∃ before served, attempts sample settledRun World.fresh =
      [attempt sample movie [] { World.fresh with answer := some (firstPart zeros) },
        attempt sample movie [] (desk zeros [] 0 s₁ (some (lastPart [0])) before),
        attempt sample movie [] (desk (zeros ++ [0]) [] 0 s₂ none served)] := by
    have hstart : attempts sample settledRun World.fresh =
        attempts sample settledRun.tail { World.fresh with answer := some (firstPart zeros) } := rfl
    rw [hstart, settledRun, List.tail_cons, attempts_answered first, attempts_restarted (second _)]
    exact ⟨_, _, rfl⟩
  obtain ⟨before, served, hcalls⟩ := hcalls
  have hsettled : ∀ a ∈ attempts sample settledRun World.fresh, Settled sample a.call a.before := by
    rw [hcalls]
    intro a ha s hs hidentity hdigests
    rcases List.mem_cons.mp ha with rfl | ha
    · cases hs
    rcases List.mem_cons.mp ha with rfl | ha
    · cases hs
      exact absurd rfl hdigests
    · obtain rfl := List.mem_singleton.mp ha
      exact ⟨⟨zeros ++ [0], 0⟩, rfl, by simp, hsize.trans (by rw [hlength])⟩
  have hlast : attempt sample movie [] (desk (zeros ++ [0]) [] 0 s₂ none served) ∈
      attempts sample settledRun World.fresh := by
    rw [hcalls]
    exact List.mem_cons_of_mem _ (List.mem_cons_of_mem _ (List.mem_cons_self ..))
  have hkept := settled_downloads_kept sample settledRun hsettled _ hlast
  refine ⟨_, hlast, ?_, ?_, hkept, ?_⟩
  · change some (s₂.digests.getD []) = _
    rw [hstored]
    rfl
  · unfold attempt
    rw [third]
  · exact published_hash (third served) (fun h => by cases h) hkept

/-- The third call stops between emptying the rejected file and its checkpoint,
and the fifth publishes content with another hash. -/
theorem stale_digest_published :
    ¬ ∀ a ∈ attempts sample staleRun World.fresh, Kept sample True a := by
  have hurl : validateDownloadUrl movie.url = .ok () := rfl
  have hsize : movie.expectedSize = some ((262145 : ℕ) : ℤ) := rfl
  have hdeadline : 0 < 0 + 8 * 10 ^ 9 := by decide
  let s₁ : Checkpoint := newState (movie.fingerprint sample)
  let s₂ : Checkpoint := hashed sample s₁ zeros
  have hstored : s₂.digests = some [hexDigest zerosDigest] := hashed_zeros rfl
  have hidentity : s₂.identity = some (movie.fingerprint sample) := rfl
  have hrejected : gcidOf sample (hashed sample s₂ [1]).digestList =
      some (hexDigest rejectedDigest).toList := by
    have hlist : (hashed sample s₂ [1]).digestList =
        [zerosDigest, oneDigest].map hexDigest := by
      change s₂.digests.getD [] ++ [hexDigest (sample.sha1 [1])] = _
      rw [hstored, sample_sha1, sampleSha1_short (by decide)]
      rfl
    have hsha : sampleSha1 [zerosDigest, oneDigest].flatten = rejectedDigest := by
      rw [sampleSha1_short (by decide)]
      decide
    unfold gcidOf
    rw [hlist, mapM_fromHex, Option.map_some, sample_sha1, hsha]
  have first : (streamDownload sample movie).run ([] : Schedule Move)
      { World.fresh with answer := some (firstPart zeros) } = _ :=
    run_firstDownload hurl hsize (movie_first hdeadline zeros_length) rfl rfl fun h => by cases h
  have second (served : List Served) : (streamDownload sample movie).run ([] : Schedule Move)
      (desk zeros [] 0 s₁ (some (lastPart [1])) served) = _ :=
    run_streamDownload hurl hsize rfl (by rw [zeros_length]; decide)
      (movie_yields hdeadline zeros_length rfl) rfl rfl fun h => by cases h
  have third (served : List Served) : (streamDownload sample movie).run (stopAfter 19)
      (desk (zeros ++ [1]) [] 0 s₂ none served) = _ :=
    movie_stops zeros_length hrejected hidentity hstored
  have fourth (served : List Served) : (streamDownload sample movie).run ([] : Schedule Move)
      (desk [] [] 0 s₂ (some (firstPart ones)) served) = _ :=
    run_streamDownload hurl hsize hidentity (Nat.zero_le _)
      (movie_first hdeadline ones_length) rfl rfl fun h => by cases h
  have fifth (served : List Served) : (streamDownload sample movie).run ([] : Schedule Move)
      (desk ones [] 0 s₂ (some (lastPart [0])) served) = _ :=
    run_streamDownload hurl hsize hidentity (by rw [ones_length]; decide)
      (movie_accepts hdeadline ones_length hstored) rfl rfl fun h => by cases h
  have hlast : ∃ served, attempt sample movie [] (desk ones [] 0 s₂ (some (lastPart [0])) served) ∈
      attempts sample staleRun World.fresh := by
    have hstart : attempts sample staleRun World.fresh =
        attempts sample staleRun.tail { World.fresh with answer := some (firstPart zeros) } := rfl
    rw [hstart, staleRun, List.tail_cons, attempts_answered first, attempts_restarted (second _),
      attempts_answered (third _), attempts_answered (fourth _)]
    exact ⟨_, List.mem_cons_of_mem _ (List.mem_cons_of_mem _ (List.mem_cons_of_mem _
      (List.mem_cons_of_mem _ (List.mem_cons_self ..))))⟩
  intro h
  obtain ⟨served, hmem⟩ := hlast
  have hnot : ¬ Recorded sample movie (desk ones [] 0 s₂ (some (lastPart [0])) served) :=
    fun hrecorded => by cases hrecorded
  have hsame := published_hash (fifth served) hnot (h _ hmem)
  rw [gcid_stale] at hsame
  unfold sameHash hexDigest at hsame
  rw [String.toList_ofList, String.toList_ofList] at hsame
  exact absurd hsame (by decide)

end MediaSync.DownloadIntegrity
