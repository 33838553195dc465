import MediaSync.ProviderOperations

/-!
# Operation ids are read back

What a provider puts into an operation id, it takes out again: the folder
survives its encoding, and the fingerprint is as long as its reader expects. A
reader also looks at the folder, and that is where one provider fails: it saves
into the drive itself under one name and writes another one into the id.
-/
namespace MediaSync.OperationIds
open FaultPrograms JsonValues PosixPaths PythonText UrlSafeBase64 SubscriptionScan
open ProviderOperations

/-! ## Ids -/

theorem hexDigest_isLowerHex (bytes : Bytes) : (hexDigest bytes).toList.all isLowerHex = true := by
  have hdigit (n : ℕ) (h : n < 16) : isLowerHex (hexDigit n) = true := by
    revert n
    decide
  rw [List.all_eq_true]
  intro c hc
  unfold hexDigest at hc
  rw [String.toList_ofList, List.mem_flatMap] at hc
  obtain ⟨b, -, hc⟩ := hc
  have hb := b.toNat_lt
  rcases List.mem_cons.mp hc with rfl | hc
  · exact hdigit _ (by omega)
  · rw [List.mem_singleton.mp hc]
    exact hdigit _ (by omega)

theorem length_hexDigest (bytes : Bytes) : (hexDigest bytes).toList.length = 2 * bytes.length := by
  unfold hexDigest
  rw [String.toList_ofList]
  induction bytes with
  | nil => rfl
  | cons b rest ih =>
    rw [List.flatMap_cons, List.length_append, ih]
    simp only [List.length_cons, List.length_nil]
    omega

section Ids
variable {sha256 : Sha256} {folder : String}

theorem unpadded_notMem_dot (bytes : Bytes) : '.' ∉ unpadded bytes := by
  intro h
  obtain ⟨n, hn, hc⟩ := mem_unpadded h
  exact sextetChar_ne_dot hn hc.symm

theorem dot_notMem_of_hex {cs : List Char} (h : cs.all isLowerHex = true) : '.' ∉ cs := by
  intro hmem
  exact absurd (List.all_eq_true.mp h '.' hmem) (by decide)

/-- An id is taken apart into what it was made of, if the folder is one that
the reader accepts. -/
theorem parseOperationId_operationId (label folder : String) (strict : Bool)
    (error : ProviderError) (accepts : String → Bool) {fingerprint : String} {length : ℕ}
    (hlabel : '.' ∉ label.toList) (hlength : fingerprint.toList.length = length)
    (hhex : fingerprint.toList.all isLowerHex = true) :
    parseOperationId label strict length error accepts (operationId label folder fingerprint) =
      if accepts folder then .ok (folder, fingerprint) else .error error := by
  have hpieces : splitChar '.' (operationId label folder fingerprint).toList =
      [label.toList, rstrip '=' (encode (utf8 folder)), fingerprint.toList] := by
    unfold operationId
    rw [String.toList_ofList, splitChar_append hlabel, rstrip_encode,
      splitChar_append (unpadded_notMem_dot _), splitChar_of_notMem (dot_notMem_of_hex hhex)]
  unfold parseOperationId
  rw [hpieces]
  dsimp only
  rw [if_neg (by simp [hlength]), decodeStripped_rstrip, Option.bind_some, fromUtf8_utf8]
  dsimp only
  rw [hhex, String.ofList_toList]
  cases accepts folder <;> rfl

theorem shortFingerprint_length (sha256 : Sha256) (item : RemoteItem) :
    (shortFingerprint sha256 item).toList.length = 24 := by
  unfold shortFingerprint Sha256.hexdigest
  rw [String.toList_ofList, List.length_take, length_hexDigest, sha256.length_digest]
  rfl

theorem shortFingerprint_hex (sha256 : Sha256) (item : RemoteItem) :
    (shortFingerprint sha256 item).toList.all isLowerHex = true := by
  unfold shortFingerprint
  rw [String.toList_ofList, List.all_eq_true]
  intro c hc
  exact List.all_eq_true.mp (hexDigest_isLowerHex _) c (List.mem_of_mem_take hc)

theorem pan123_parse (item : RemoteItem) :
    Pan123.parseOperationId (Pan123.operationId folder (Pan123.operationFingerprint sha256 item)) =
      if isdecimal folder then .ok (folder, Pan123.operationFingerprint sha256 item)
      else .error (.value "Invalid 123 operation ID") :=
  parseOperationId_operationId "p123v1" folder false _ isdecimal (by decide)
    (shortFingerprint_length sha256 item) (shortFingerprint_hex sha256 item)

theorem baidu_parse (item : RemoteItem) :
    Baidu.parseOperationId (Baidu.operationId folder (Baidu.fingerprint sha256 item)) =
      if folder.toList.head? = some '/' then .ok (folder, Baidu.fingerprint sha256 item)
      else .error (.value "Invalid Baidu operation ID") := by
  have hparse := parseOperationId_operationId "baiduv1" folder false
    (.value "Invalid Baidu operation ID") (fun path => path.toList.head? = some '/') (by decide)
    (shortFingerprint_length sha256 item) (shortFingerprint_hex sha256 item)
  simp only [decide_eq_true_eq] at hparse
  exact hparse

theorem pikpak_parse (item : RemoteItem) {id : String} (hparent : PikPak.parent folder = .ok id) :
    PikPak.parseOperationId (PikPak.operationId folder (PikPak.fingerprint sha256 item)) =
      .ok (folder, PikPak.fingerprint sha256 item) := by
  have hlength : (PikPak.fingerprint sha256 item).toList.length = 64 := by
    unfold PikPak.fingerprint Sha256.hexdigest
    rw [length_hexDigest, sha256.length_digest]
  have hparse := parseOperationId_operationId "pikpak1" folder true
    (.request "Invalid PikPak operation ID") (fun _ => true) (by decide) hlength
    (hexDigest_isLowerHex _)
  rw [if_pos rfl] at hparse
  unfold PikPak.parseOperationId PikPak.operationId
  rw [hparse]
  simp only [bind, Except.bind, hparent]
  rfl

end Ids

/-! ## What is saved -/

section Saves
variable {sha256 : Sha256} {fuel : ℕ} {share : ShareInfo} {source : RemoteItem}
  {target : FolderRef} {w w' : Cloud} {id : String}

/-- A save that was accepted is the last one. -/
theorem ask_save {folder : Option String} {item : RemoteItem} {answer : Answer}
    (h : Returns CloudMove (ask (.save folder item)) w answer w') :
    w'.saved.getLast? = some item := by
  obtain ⟨w₁, -, hact⟩ := h.effect
  split at hact
  · cases hact
  · cases hact
    simp [Cloud.record]

/-- What a start leaves behind: an item was saved, and the id is made of its
folder and its fingerprint. -/
def Started (provider : Provider) (sha256 : Sha256) (target : FolderRef) (id : String)
    (w : Cloud) : Prop :=
  ∃ item, w.saved.getLast? = some item ∧ match provider with
    | .pan123 => (∃ folder, Pan123.targetFolderId target.folderId = .ok folder) ∧
      id = Pan123.operationId target.folderId (Pan123.operationFingerprint sha256 item)
    | .baidu => id = Baidu.operationId target.path (Baidu.fingerprint sha256 item)
    | .pikpak => ∃ folder, PikPak.targetId target.folderId = .ok folder ∧
      id = PikPak.operationId folder (PikPak.fingerprint sha256 item)

theorem pan123_started
    (h : Returns CloudMove (Pan123.startSaveSharedItem sha256 fuel share source target) w id w') :
    Started .pan123 sha256 target id w' := by
  obtain ⟨resolved, w₁, -, h⟩ := h.bind
  split at h
  · exact h.throw.elim
  · obtain ⟨item, w₂, -, h⟩ := h.bind
    obtain ⟨folder, w₃, hfolder, h⟩ := h.bind
    obtain ⟨answer, w₄, hsave, h⟩ := h.bind
    obtain ⟨rfl, rfl⟩ := h.pure
    exact ⟨item, ask_save hsave, ⟨folder, hfolder.ofExcept.1⟩, rfl⟩

theorem baidu_started
    (h : Returns CloudMove (Baidu.startSaveSharedItem sha256 share source target) w id w') :
    Started .baidu sha256 target id w' := by
  obtain ⟨_, w₁, hsubmit, h⟩ := h.bind
  obtain ⟨rfl, rfl⟩ := h.pure
  obtain ⟨resolved, w₂, -, hsubmit⟩ := hsubmit.bind
  split at hsubmit
  · exact hsubmit.throw.elim
  · obtain ⟨folder, w₃, -, hsubmit⟩ := hsubmit.bind
    obtain ⟨answer, w₄, hsave, hsubmit⟩ := hsubmit.bind
    obtain ⟨-, rfl⟩ := hsubmit.pure
    exact ⟨source, ask_save hsave, rfl⟩

theorem pikpak_started
    (h : Returns CloudMove (PikPak.startSaveSharedItem sha256 fuel share source target) w id w') :
    Started .pikpak sha256 target id w' := by
  obtain ⟨resolved, w₁, -, h⟩ := h.bind
  split at h
  · exact h.throw.elim
  · split at h
    · exact h.throw.elim
    · obtain ⟨folder, w₂, hfolder, h⟩ := h.bind
      dsimp only at h
      split at h
      · exact h.throw.elim
      · obtain ⟨existing, w₃, -, h⟩ := h.bind
        cases existing with
        | some item => exact h.throw.elim
        | none =>
          obtain ⟨answer, w₄, hsave, h⟩ := h.bind
          obtain ⟨rfl, rfl⟩ := h.pure
          exact ⟨source, ask_save hsave, folder, hfolder.ofExcept.1, rfl⟩

theorem started {provider : Provider}
    (h : Returns CloudMove (provider.startSaveSharedItem sha256 fuel share source target) w id w') :
    Started provider sha256 target id w' := by
  cases provider with
  | pan123 => exact pan123_started h
  | baidu => exact baidu_started h
  | pikpak => exact pikpak_started h

end Saves

/-! ## Target folders -/

section Targets
variable {fuel : ℕ} {w w' : Cloud} {target next : FolderRef} {name : String}

/-- Only absolute paths are normalized. -/
theorem normalizeTargetPath_absolute {value path : String}
    (h : Baidu.normalizeTargetPath value = .ok path) : path.toList.head? = some '/' := by
  unfold Baidu.normalizeTargetPath at h
  dsimp only at h
  split_ifs at h with habsolute
  cases h
  rw [not_or, not_not] at habsolute
  obtain ⟨rest, hrest⟩ : ∃ rest, strip value.toList = '/' :: rest := by
    cases hvalue : strip value.toList with
    | nil => rw [hvalue] at habsolute; exact absurd habsolute.1 (by simp)
    | cons c rest =>
      rw [hvalue, List.head?_cons, Option.some.injEq] at habsolute
      exact ⟨rest, by rw [habsolute.1]⟩
  have hroot : ∃ more, PurePosixPath.rootOf ('/' :: rest) = '/' :: more := by
    unfold PurePosixPath.rootOf
    split
    · exact ⟨[], rfl⟩
    · exact ⟨['/'], rfl⟩
    · exact ⟨[], rfl⟩
    · rename_i hslash
      exact absurd rfl (hslash rest)
  obtain ⟨more, hroot⟩ := hroot
  unfold PurePosixPath.toString PurePosixPath.ofString
  simp only [hrest, String.toList_ofList, hroot]
  simp

/-- A path that is its own normal form. -/
def OwnForm (path : String) : Prop := Baidu.normalizeTargetPath path = .ok path

theorem ownForm_root : OwnForm "/" := by
  unfold OwnForm
  decide

/-- A normal form is what is left without trailing slashes, unless it is the root. -/
theorem normalizeTargetPath_toList {value path : String}
    (h : Baidu.normalizeTargetPath value = .ok path) :
    path = "/" ∨ path.toList = rstrip '/' (strip value.toList) := by
  unfold Baidu.normalizeTargetPath at h
  dsimp only at h
  split_ifs at h with _ _ hform
  cases h
  by_cases hroot : strip value.toList = ['/'] ∧
      (PurePosixPath.ofString (String.ofList (strip value.toList))).toString = "/"
  · exact .inl hroot.2
  · exact .inr (Classical.byContradiction fun hne => hform ⟨hne, hroot⟩)

theorem rstrip_rstrip (c : Char) (cs : List Char) : rstrip c (rstrip c cs) = rstrip c cs :=
  List.rdropWhile_idempotent _ _

theorem rstrip_sublist (c : Char) (cs : List Char) : (rstrip c cs).Sublist cs :=
  (List.rdropWhile_prefix _ _).sublist

/-- What was normalized and has no space at its ends is its own normal form. -/
theorem ownForm_of_strip {value path : String} (h : Baidu.normalizeTargetPath value = .ok path)
    (hstrip : strip path.toList = path.toList) : OwnForm path := by
  rcases normalizeTargetPath_toList h with rfl | hlist
  · exact ownForm_root
  have habsolute := normalizeTargetPath_absolute h
  have hsub := rstrip_sublist '/' (strip value.toList)
  rw [← hlist] at hsub
  unfold Baidu.normalizeTargetPath at h
  dsimp only at h
  split_ifs at h with hlong hcontrol _ hdots
  have hpath := Except.ok.inj h
  have hsame : PurePosixPath.ofString path =
      PurePosixPath.ofString (String.ofList (strip value.toList)) := by
    rw [← hpath, PurePosixPath.ofString_toString (PurePosixPath.normal_ofString _)]
  unfold OwnForm Baidu.normalizeTargetPath
  dsimp only
  rw [hstrip, String.ofList_toList, hsame, hpath]
  rw [if_neg, if_neg, if_neg, if_neg hdots]
  · rintro ⟨hne, -⟩
    refine hne ?_
    rw [hlist, rstrip_rstrip]
  · intro hany
    obtain ⟨c, hc, hbad⟩ := List.any_eq_true.mp hany
    exact hcontrol (List.any_eq_true.mpr ⟨c, hsub.subset hc, hbad⟩)
  · rintro (hhead | hlength)
    · exact hhead habsolute
    · exact hlong (.inr (Nat.lt_of_lt_of_le hlength hsub.length_le))

/-- What is stripped of a child's path: spaces after its name. -/
theorem strip_child {base : List Char} (name : List Char)
    (hbase : base = [] ∨ base.head? = some '/') :
    strip (base ++ '/' :: name) = base ++ '/' :: name.rdropWhile isSpace := by
  have hspace : isSpace '/' = false := by decide
  have hfront : (base ++ '/' :: name).dropWhile isSpace = base ++ '/' :: name := by
    rcases hbase with rfl | hhead
    · rw [List.nil_append, List.dropWhile_cons_of_neg (by simp [hspace])]
    · cases base with
      | nil => cases hhead
      | cons c base =>
        cases hhead
        rw [List.cons_append, List.dropWhile_cons_of_neg (by simp [hspace])]
  unfold strip
  rw [hfront, List.rdropWhile, List.reverse_append, List.reverse_cons, List.append_assoc,
    List.dropWhile_append]
  split
  · rename_i hempty
    rw [List.isEmpty_iff.mp hempty, List.singleton_append,
      List.dropWhile_cons_of_neg (by simp [hspace])]
    simp
  · simp

/-- A folder below a path that is its own normal form; a name of spaces only
leads back to that path. -/
theorem childPath_ownForm {parent : FolderRef} {path : String} (hparent : OwnForm parent.path)
    (hname : '/' ∉ name.toList) (h : Baidu.normalizeTargetPath (childPath parent name) = .ok path) :
    OwnForm path := by
  have hbase : rstrip '/' parent.path.toList = [] ∨
      (rstrip '/' parent.path.toList).head? = some '/' := by
    have habsolute := normalizeTargetPath_absolute hparent
    obtain ⟨tail, htail⟩ := List.rdropWhile_prefix (fun c => decide (c = '/')) parent.path.toList
    cases hcs : rstrip '/' parent.path.toList with
    | nil => exact .inl rfl
    | cons c cs =>
      refine .inr ?_
      change rstrip '/' parent.path.toList ++ tail = _ at htail
      rw [hcs] at htail
      rw [← htail] at habsolute
      exact habsolute
  have hchild : (childPath parent name).toList =
      rstrip '/' parent.path.toList ++ '/' :: name.toList := by
    simp [childPath]
  have hstrip := strip_child name.toList hbase
  rw [← hchild] at hstrip
  rcases normalizeTargetPath_toList h with rfl | hlist
  · exact ownForm_root
  rw [hstrip] at hlist
  by_cases hempty : name.toList.rdropWhile isSpace = []
  · have hparentList : path.toList = rstrip '/' parent.path.toList := by
      rw [hlist, hempty]
      exact (List.rdropWhile_concat_pos (fun c => decide (c = '/')) _ '/' (by decide)).trans
        (rstrip_rstrip _ _)
    rcases normalizeTargetPath_toList hparent with hroot | hform
    · have habsolute := normalizeTargetPath_absolute h
      rw [hparentList, hroot] at habsolute
      exact absurd habsolute (by decide)
    · have hsame : path = parent.path := by
        rw [← String.toList_inj, hparentList, hform, rstrip_rstrip]
      exact hsame ▸ hparent
  · have hlast :
        rstrip '/' (rstrip '/' parent.path.toList ++ '/' :: name.toList.rdropWhile isSpace) =
        rstrip '/' parent.path.toList ++ '/' :: name.toList.rdropWhile isSpace := by
      refine List.rdropWhile_eq_self_iff.mpr fun hne hslash => ?_
      rw [List.getLast_append_of_ne_nil _ (List.cons_ne_nil _ _),
        List.getLast_cons hempty] at hslash
      have hmem := (List.rdropWhile_prefix isSpace name.toList).subset (List.getLast_mem hempty)
      rw [of_decide_eq_true hslash] at hmem
      exact hname hmem
    refine ownForm_of_strip h ?_
    rw [hlist, hlast, strip_child _ hbase, List.rdropWhile_idempotent]

theorem baidu_ensureFolder_ownForm (htarget : OwnForm target.path)
    (h : Returns CloudMove (Baidu.ensureFolder fuel target name) w next w') :
    OwnForm next.path := by
  unfold Baidu.ensureFolder at h
  split at h
  · exact h.throw.elim
  · rename_i hname
    obtain ⟨path, w₁, hpath, h⟩ := h.bind
    have hform : OwnForm path :=
      childPath_ownForm htarget (fun hslash => hname (.inr (.inl hslash))) hpath.ofExcept.1
    obtain ⟨existing, w₂, -, h⟩ := h.bind
    cases existing with
    | some item =>
      dsimp only at h
      split at h
      · exact h.throw.elim
      · obtain ⟨rfl, -⟩ := h.pure
        exact hform
    | none =>
      obtain ⟨answer, w₃, -, h⟩ := h.bind
      obtain ⟨rfl, -⟩ := h.pure
      exact hform

theorem ensureParts_ownForm {parts : List String} (hstart : OwnForm target.path)
    (h : Returns CloudMove (Provider.ensureParts fuel .baidu parts target) w next w') :
    OwnForm next.path := by
  induction parts generalizing target w with
  | nil =>
    obtain ⟨rfl, -⟩ := h.pure
    exact hstart
  | cons part rest ih =>
    unfold Provider.ensureParts ensurePartsOf at h
    split at h
    · exact ih hstart h
    · obtain ⟨-, w₁, -, h⟩ := h.bind
      obtain ⟨middle, w₂, hmiddle, h⟩ := h.bind
      exact ih (baidu_ensureFolder_ownForm hstart hmiddle) h

/-- The folder an id is made for is one that its reader takes. -/
theorem pikpak_parent_targetId {folderId folder : String}
    (h : PikPak.targetId folderId = .ok folder) : ∃ id, PikPak.parent folder = .ok id := by
  unfold PikPak.targetId at h
  cases hparent : PikPak.parent folderId with
  | error e =>
    rw [hparent] at h
    cases h
  | ok id =>
    rw [hparent] at h
    have hfolder : (if id = "" then "root" else id) = folder := Except.ok.inj h
    subst hfolder
    by_cases hid : id = ""
    · exact ⟨"", by rw [if_pos hid]; rfl⟩
    · rw [if_neg hid]
      unfold PikPak.parent at hparent
      split_ifs at hparent with hdrive hvalid
      · exact absurd (Except.ok.inj hparent).symm hid
      · have hsame : folderId = id := Except.ok.inj hparent
        subst hsame
        exact ⟨folderId, by rw [PikPak.parent, if_neg hdrive, if_pos hvalid]⟩

end Targets

/-- A query takes the folder that was saved into and the fingerprint of what
was saved from the id of a save, except where the 123 drive itself goes by its
general name. -/
theorem operation_id_round_trip (sha256 : Sha256) (fuel : ℕ) (provider : Provider)
    (rootPath relativePath : String) (share : ShareInfo) (source : RemoteItem)
    (w₀ w₁ w₂ w₃ : Cloud) (target : FolderRef) (id : String)
    (hensure : Returns CloudMove (provider.ensureTargetFolder fuel rootPath relativePath) w₀ target
      w₁)
    (hstart : Returns CloudMove (provider.startSaveSharedItem sha256 fuel share source target) w₂ id
      w₃) :
    ∃ item, w₃.saved.getLast? = some item ∧
      ((∃ folder, provider.savedInto target = .ok folder ∧
        provider.parseOperationId id = .ok (folder, provider.fingerprint sha256 item)) ↔
      ¬(provider = .pan123 ∧ target.folderId = "root")) := by
  obtain ⟨item, hsaved, hid⟩ := started hstart
  refine ⟨item, hsaved, ?_⟩
  cases provider with
  | pan123 =>
    obtain ⟨⟨folder, hfolder⟩, rfl⟩ := hid
    change (∃ folder, Pan123.targetFolderId target.folderId = .ok folder ∧
      Pan123.parseOperationId _ = .ok (folder, Pan123.operationFingerprint sha256 item)) ↔ _
    rw [pan123_parse]
    by_cases hroot : target.folderId = "root"
    · have hrejected : isdecimal target.folderId = false := by
        rw [hroot]
        decide
      rw [if_neg (by rw [hrejected]; decide)]
      constructor
      · rintro ⟨_, _, hparse⟩
        cases hparse
      · exact fun h => absurd ⟨rfl, hroot⟩ h
    · have htarget : isdecimal target.folderId = true ∧ folder = target.folderId := by
        unfold Pan123.targetFolderId at hfolder
        simp only [hroot, if_false] at hfolder
        split_ifs at hfolder with hdecimal
        exact ⟨hdecimal, (Except.ok.inj hfolder).symm⟩
      rw [if_pos htarget.1]
      constructor
      · rintro - ⟨-, h⟩
        exact hroot h
      · rintro -
        exact ⟨target.folderId, htarget.2 ▸ hfolder, rfl⟩
  | baidu =>
    subst hid
    have hform : OwnForm target.path := ensureParts_ownForm ownForm_root hensure
    refine ⟨(fun _ h => nomatch h.1), fun _ => ⟨target.path, hform, ?_⟩⟩
    change Baidu.parseOperationId _ = _
    rw [baidu_parse, if_pos (normalizeTargetPath_absolute hform)]
    rfl
  | pikpak =>
    obtain ⟨folder, hfolder, rfl⟩ := hid
    obtain ⟨parentId, hparent⟩ := pikpak_parent_targetId hfolder
    exact ⟨(fun _ h => nomatch h.1), fun _ => ⟨folder, hfolder, pikpak_parse item hparent⟩⟩

/-! ## A save into the drive itself -/

def sampleItem : RemoteItem where
  remoteFileId := "7"
  parentId := some "0"
  filename := "a.mkv"
  itemType := "file"
  size := some 5
  contentHash := some "c4ca4238a0b923820dcc509a6f75849b"
  metadata := [("etag", .str "c4ca4238a0b923820dcc509a6f75849b")]

def sampleFolder : RemoteItem where
  remoteFileId := "42"
  parentId := some "0"
  filename := "show"
  itemType := "folder"

def sampleShare : ShareInfo where
  shareKey := "k"
  name := "123 share"
  rootFolderId := "0"

/-- The digest of the sample item's text. -/
def sampleSha256 : Sha256 where
  digest _ := [51, 72, 167, 31, 236, 189, 152, 127, 23, 221, 169, 4, 50, 251, 251, 66, 222, 135,
    189, 92, 100, 27, 79, 0, 77, 14, 199, 229, 246, 115, 85, 71]
  length_digest _ := rfl

def sampleCloud : Cloud where
  answer
    | .shareItems .. => .ok (.page ⟨[sampleItem], none⟩)
    | .targetItems .. => .ok (.page ⟨[sampleFolder], none⟩)
    | .createFolder .. => .ok .accepted
    | .save .. => .ok .accepted
    | .move .. => .ok .accepted
  resolved := ["k"]

def sampleSaved : Cloud := { sampleCloud with saved := [sampleItem] }

theorem sample_rootTarget : Returns CloudMove
    (Provider.pan123.ensureTargetFolder 9 "/" "a.mkv") sampleCloud ⟨"root", "/"⟩ sampleCloud :=
  ⟨[], [], rfl⟩

theorem sample_rootSave : Returns CloudMove
    (Provider.pan123.startSaveSharedItem sampleSha256 9 sampleShare sampleItem ⟨"root", "/"⟩)
    sampleCloud "p123v1.cm9vdA.3348a71fecbd987f17dda904" sampleSaved :=
  ⟨[], [], rfl⟩

/-- A file is saved into the drive itself, and the query raises on the id. -/
theorem own_id_rejected :
    Returns CloudMove (Provider.pan123.ensureTargetFolder 9 "/" "a.mkv") sampleCloud ⟨"root", "/"⟩
      sampleCloud ∧
    Returns CloudMove
      (Provider.pan123.startSaveSharedItem sampleSha256 9 sampleShare sampleItem ⟨"root", "/"⟩)
      sampleCloud "p123v1.cm9vdA.3348a71fecbd987f17dda904" sampleSaved ∧
    Provider.pan123.parseOperationId "p123v1.cm9vdA.3348a71fecbd987f17dda904" =
      .error (.value "Invalid 123 operation ID") :=
  ⟨sample_rootTarget, sample_rootSave, by decide +kernel⟩

/-- A save into a folder of the drive. -/
theorem operation_id_round_trip_sample :
    ∃ item, sampleSaved.saved.getLast? = some item ∧
      ((∃ folder, Provider.pan123.savedInto ⟨"42", "/show"⟩ = .ok folder ∧
        Provider.pan123.parseOperationId "p123v1.NDI.3348a71fecbd987f17dda904" =
          .ok (folder, Provider.pan123.fingerprint sampleSha256 item)) ↔
      ¬(Provider.pan123 = .pan123 ∧ (⟨"42", "/show"⟩ : FolderRef).folderId = "root")) :=
  operation_id_round_trip sampleSha256 9 .pan123 "/" "show/a.mkv" sampleShare sampleItem
    sampleCloud sampleCloud sampleCloud sampleSaved ⟨"42", "/show"⟩
    "p123v1.NDI.3348a71fecbd987f17dda904" ⟨[], [], rfl⟩ ⟨[], [], rfl⟩

end MediaSync.OperationIds
