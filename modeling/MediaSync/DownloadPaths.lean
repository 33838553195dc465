import MediaSync.DownloadRequests

/-!
# The files of a download

A download writes its target and three files beside it, whose names are made of
the target's: the partial file, the checkpoint, and the checkpoint while it is
being written. A path with a part that looks like one of these names is refused,
so the files of one download are never the files of another one.
-/
namespace MediaSync.DownloadPaths
open PosixPaths PythonText DownloadRequests

/-! ## Names -/

/-- `Path.with_name` -/
def withName (path : PurePosixPath) (name : List Char) : PurePosixPath :=
  ⟨path.root, path.parts.dropLast ++ [name]⟩

/-- `Path.name` -/
def nameOf (path : PurePosixPath) : List Char := path.parts.getLast?.getD []

/-- A name that is made of the target's. -/
def recoveryName (suffix : String) (name : List Char) : List Char :=
  '.' :: (name ++ suffix.toList)

def recoveryFile (suffix : String) (target : PurePosixPath) : PurePosixPath :=
  withName target (recoveryName suffix (nameOf target))

def partialFile : PurePosixPath → PurePosixPath := recoveryFile ".mediasync.part"

def checkpointFile : PurePosixPath → PurePosixPath := recoveryFile ".mediasync.json"

/-- The checkpoint while `_checkpoint` writes it. -/
def temporaryFile (target : PurePosixPath) : PurePosixPath :=
  withName (checkpointFile target) (nameOf (checkpointFile target) ++ ".tmp".toList)

/-- What a download of the target reads and writes. -/
def files (target : PurePosixPath) : List PurePosixPath :=
  [target, partialFile target, checkpointFile target, temporaryFile target]

theorem nameOf_withName (path : PurePosixPath) (name : List Char) :
    nameOf (withName path name) = name := by
  simp [nameOf, withName]

theorem withName_withName (path : PurePosixPath) (name name' : List Char) :
    withName (withName path name) name' = withName path name' := by
  simp [withName]

theorem temporaryFile_eq (target : PurePosixPath) :
    temporaryFile target = recoveryFile ".mediasync.json.tmp" target := by
  unfold temporaryFile checkpointFile recoveryFile recoveryName
  rw [nameOf_withName, withName_withName]
  simp

theorem mem_files {target file : PurePosixPath} : file ∈ files target ↔
    file = target ∨ ∃ suffix ∈ reservedSuffixes, file = recoveryFile suffix target := by
  simp [files, temporaryFile_eq, reservedSuffixes, partialFile, checkpointFile]

theorem reserved_recoveryName {suffix : String} (h : suffix ∈ reservedSuffixes)
    (name : List Char) : reserved (recoveryName suffix name) = true := by
  unfold reserved recoveryName
  rw [Bool.and_eq_true, List.any_eq_true]
  refine ⟨by simp, suffix, h, ?_⟩
  rw [List.isSuffixOf_iff_suffix]
  exact ⟨'.' :: name, rfl⟩

theorem suffix_ne_nil {suffix : String} (h : suffix ∈ reservedSuffixes) : suffix.toList ≠ [] := by
  have hall : ∀ suffix ∈ reservedSuffixes, suffix.toList ≠ [] := by decide
  exact hall suffix h

/-- The suffixes end with different characters. -/
theorem suffix_inj {suffix suffix' : String} (h : suffix ∈ reservedSuffixes)
    (h' : suffix' ∈ reservedSuffixes)
    (hlast : suffix.toList.getLast? = suffix'.toList.getLast?) : suffix = suffix' := by
  have hall : ∀ suffix ∈ reservedSuffixes, ∀ suffix' ∈ reservedSuffixes,
      suffix.toList.getLast? = suffix'.toList.getLast? → suffix = suffix' := by decide
  exact hall suffix h suffix' h' hlast

theorem recoveryName_inj {suffix suffix' : String} {name name' : List Char}
    (h : suffix ∈ reservedSuffixes) (h' : suffix' ∈ reservedSuffixes)
    (heq : recoveryName suffix name = recoveryName suffix' name') : name = name' := by
  have happend := (List.cons.inj heq).2
  have hlast := congrArg List.getLast? happend
  rw [List.getLast?_append_of_ne_nil _ (suffix_ne_nil h),
    List.getLast?_append_of_ne_nil _ (suffix_ne_nil h')] at hlast
  rw [suffix_inj h h' hlast] at happend
  exact List.append_cancel_right happend

/-! ## Accepted paths -/

/-- A target at some parts below a directory, none of which is reserved. -/
structure Below (base target : PurePosixPath) (parts : List (List Char)) : Prop where
  eq : target = ⟨base.root, base.parts ++ parts⟩
  ne_nil : parts ≠ []
  plain : ∀ part ∈ parts, part ≠ [] ∧ part ≠ ['.'] ∧ part ≠ ['.', '.'] ∧ '/' ∉ part
  unreserved : ∀ part ∈ parts, reserved part = false

theorem parts_ne_nil {relative : String} (hne : relative ≠ "")
    (hroot : (PurePosixPath.ofString relative).root = [])
    (hdots : ∀ piece ∈ PurePosixPath.splitSlash relative.toList,
      piece ≠ ['.', '.'] ∧ piece ≠ ['.']) :
    (PurePosixPath.ofString relative).parts ≠ [] := by
  have hcs : relative.toList ≠ [] := by simpa using hne
  obtain ⟨c, cs, heq⟩ := List.exists_cons_of_ne_nil hcs
  have hc : c ≠ '/' := by
    rintro rfl
    unfold PurePosixPath.ofString PurePosixPath.rootOf at hroot
    rw [heq] at hroot
    dsimp only at hroot
    split at hroot <;> simp_all
  obtain ⟨piece, hpiece⟩ : ∃ piece, c :: piece ∈ splitChar '/' (c :: cs) := by
    rw [splitChar_cons]
    cases splitChar '/' cs with
    | nil => exact ⟨[], List.mem_cons_self ..⟩
    | cons piece pieces =>
      dsimp only
      rw [if_neg hc]
      exact ⟨piece, List.mem_cons_self ..⟩
  rw [← PurePosixPath.splitSlash_eq, ← heq] at hpiece
  refine List.ne_nil_of_mem (a := c :: piece) (List.mem_filter.mpr ⟨hpiece, ?_⟩)
  exact decide_eq_true ⟨List.cons_ne_nil _ _, (hdots _ hpiece).2⟩

/-- A check that raises has let the value pass. -/
theorem checked_ok {ε α : Type} {c : Prop} [Decidable c] {e : ε} {rest : Except ε α} {a : α}
    (h : (if c then (do throw e; rest) else rest) = .ok a) : ¬c ∧ rest = .ok a := by
  split at h
  · cases h
  · exact ⟨‹_›, h⟩

/-- A target under the resolved root, which it does not leave by a link. -/
structure Inside (settings : Settings) (root : String) (target : PurePosixPath) : Prop where
  below : ∃ parts, Below (.ofString (settings.links.follow root)) target parts
  resolved : ((PurePosixPath.ofString (settings.links.follow target.toString)).relativeTo
    (.ofString (settings.links.follow root))).isSome

theorem destinationPath_ok {settings : Settings} {disk : Disk} {root relative : String}
    {target : PurePosixPath} (h : destinationPath settings disk root relative = .ok target) :
    Inside settings root target := by
  unfold destinationPath at h
  dsimp only at h
  obtain ⟨hrelative, h⟩ := checked_ok h
  obtain ⟨-, h⟩ := checked_ok h
  obtain ⟨hreserved, h⟩ := checked_ok h
  obtain ⟨-, h⟩ := checked_ok h
  obtain ⟨-, h⟩ := checked_ok h
  obtain ⟨hinside, h⟩ := checked_ok h
  obtain rfl := Except.ok.inj h
  simp only [not_or, List.any_eq_true, not_exists, not_and, Bool.or_eq_true, decide_eq_true_eq,
    not_not] at hrelative
  obtain ⟨hne, hroot, hdots⟩ := hrelative
  refine ⟨⟨(PurePosixPath.ofString relative).parts, rfl, parts_ne_nil hne hroot hdots, ?_, ?_⟩, ?_⟩
  · intro part hpart
    have hpiece := (List.mem_filter.mp hpart).1
    have hnormal := (PurePosixPath.normal_ofString relative).parts part hpart
    exact ⟨hnormal.2.1, hnormal.2.2, (hdots part hpiece).1, hnormal.1⟩
  · intro part hpart
    rw [List.any_eq_true, not_exists] at hreserved
    exact Bool.eq_false_iff.mpr fun hres => hreserved part ⟨hpart, hres⟩
  · exact Option.isSome_iff_ne_none.mpr fun hnone => hinside (Option.isNone_iff_eq_none.mpr hnone)

/-! ## Separate files -/

/-- What a file of the download of a target is called, and where it is. -/
theorem file_eq {base target file : PurePosixPath} {directory : List (List Char)}
    {last : List Char} (h : Below base target (directory ++ [last])) (hfile : file ∈ files target) :
    ∃ name, file = ⟨base.root, base.parts ++ directory ++ [name]⟩ ∧
      (name = last ∨ ∃ suffix ∈ reservedSuffixes, name = recoveryName suffix last) := by
  have htarget : target = ⟨base.root, base.parts ++ directory ++ [last]⟩ := by
    rw [h.eq, List.append_assoc]
  rcases mem_files.mp hfile with rfl | ⟨suffix, hsuffix, rfl⟩
  · exact ⟨last, htarget, .inl rfl⟩
  · refine ⟨recoveryName suffix last, ?_, .inr ⟨suffix, hsuffix, rfl⟩⟩
    rw [htarget]
    simp [recoveryFile, withName, nameOf]

/-- Targets that share a file are the same. -/
theorem target_unique {base base' target target' file : PurePosixPath}
    {parts parts' : List (List Char)} (h : Below base target parts)
    (h' : Below base' target' parts') (hfile : file ∈ files target)
    (hfile' : file ∈ files target') : target = target' := by
  obtain ⟨directory, last, rfl⟩ := (List.eq_nil_or_concat' parts).resolve_left h.ne_nil
  obtain ⟨directory', last', rfl⟩ := (List.eq_nil_or_concat' parts').resolve_left h'.ne_nil
  obtain ⟨name, heq, hname⟩ := file_eq h hfile
  obtain ⟨name', heq', hname'⟩ := file_eq h' hfile'
  rw [heq, PurePosixPath.mk.injEq] at heq'
  obtain ⟨hroot, hparts⟩ := heq'
  obtain ⟨hdirectory, hsame⟩ := List.append_inj' hparts rfl
  rw [List.singleton_inj] at hsame
  have hplain := h.unreserved last (by simp)
  have hplain' := h'.unreserved last' (by simp)
  have hlast : last = last' := by
    rcases hname with hname | ⟨suffix, hsuffix, hname⟩ <;>
      rcases hname' with hname' | ⟨suffix', hsuffix', hname'⟩ <;>
      rw [hname, hname'] at hsame
    · exact hsame
    · rw [hsame, reserved_recoveryName hsuffix'] at hplain
      cases hplain
    · rw [← hsame, reserved_recoveryName hsuffix] at hplain'
      cases hplain'
    · exact recoveryName_inj hsuffix hsuffix' hsame
  calc target = ⟨base.root, base.parts ++ directory ++ [last]⟩ := by rw [h.eq, List.append_assoc]
    _ = ⟨base'.root, base'.parts ++ directory' ++ [last']⟩ := by rw [hroot, hdirectory, hlast]
    _ = target' := by rw [h'.eq, List.append_assoc]

/-- Two downloads, each accepted when its directories and links were as they
were then. -/
theorem downloads_apart (settings settings' : Settings) (disk disk' : Disk)
    (root root' relative relative' : String) (target target' : PurePosixPath)
    (h : destinationPath settings disk root relative = .ok target)
    (h' : destinationPath settings' disk' root' relative' = .ok target')
    (hne : target ≠ target') :
    Inside settings root target ∧ Inside settings' root' target' ∧
      (files target).Disjoint (files target') := by
  have hinside := destinationPath_ok h
  have hinside' := destinationPath_ok h'
  obtain ⟨parts, hbelow⟩ := hinside.below
  obtain ⟨parts', hbelow'⟩ := hinside'.below
  refine ⟨hinside, hinside', fun file hfile hfile' => ?_⟩
  exact hne (target_unique hbelow hbelow' hfile hfile')

def sampleSettings : Settings where
  links := .plain
  home _ := none
  sha256 text := text

def sampleDisk : Disk where
  present _ := true
  isDirectory _ := true
  writable _ := true
  isSymlink _ := false
  stat _ := none

/-- A name that looks like a partial file, but for the dot. -/
theorem downloads_apart_sample :
    (files (PurePosixPath.ofString "/srv/media/show/e01.mkv")).Disjoint
      (files (PurePosixPath.ofString "/srv/media/show/e01.mkv.mediasync.part")) :=
  (downloads_apart sampleSettings sampleSettings sampleDisk sampleDisk "/srv/media" "/srv/media"
    "show/e01.mkv" "show/e01.mkv.mediasync.part" _ _ (by decide) (by decide) (by decide)).2.2

end MediaSync.DownloadPaths
