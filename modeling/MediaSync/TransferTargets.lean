import MediaSync.FullScanCoverage
import MediaSync.ProviderOperations

/-!
# Where a transfer puts a scanned item

A scan builds the relative path of an item from the names the provider reports,
one join for each folder, and the transfer takes the text apart again: it
ensures the folders of the target path and then those above the item. A name
that is more or less than one component of a path changes what comes out.
-/
namespace MediaSync.TransferTargets
open PosixPaths SubscriptionScan RemoteTrees ProviderOperations FaultPrograms FullScanCoverage

/-! ## The relative path of an item -/

/-- The path of a folder by the names that lead to it. A sub-folder starts from
the text that was stored for its checkpoint. -/
def folderPath (ancestors : List String) : PurePosixPath :=
  ancestors.foldl (fun path name => .ofString (path.join name).toString) (.ofString "")

/-- The relative path that a scan stores for an item. -/
def scannedPath (ancestors : List String) (filename : String) : String :=
  ((folderPath ancestors).join filename).toString

theorem folderPath_normal (ancestors : List String) : (folderPath ancestors).Normal := by
  rcases List.eq_nil_or_concat' ancestors with rfl | ⟨init, name, rfl⟩
  · exact PurePosixPath.normal_ofString ""
  · rw [folderPath, List.foldl_append]
    exact PurePosixPath.normal_ofString _

theorem folderPath_concat (ancestors : List String) (name : String) :
    folderPath (ancestors ++ [name]) = (folderPath ancestors).join name := by
  rw [folderPath, List.foldl_append]
  exact PurePosixPath.ofString_toString ((folderPath_normal ancestors).join name)

/-- The folder is reached from the root by folders of these names. -/
inductive Named (tree : RemoteTree) : String → List String → Prop
  | root : Named tree tree.rootFolderId []
  | sub {folder : String} {names : List String} {item : RemoteItem} :
      Named tree folder names → item ∈ tree.subfolders folder →
      Named tree item.remoteFileId (names ++ [item.filename])

theorem Named.at {tree : RemoteTree} {folder : String} {names : List String}
    (h : Named tree folder names) : tree.At folder (folderPath names) := by
  induction h with
  | root => exact .root
  | sub _ hitem ih =>
    rw [folderPath_concat]
    exact .sub ih hitem

/-- What a scan that covers the tree has stored for its items. -/
theorem recorded_scannedPath {tree : RemoteTree} {subscriptionId : ℕ} {w w' : ScanWorld Asked}
    {result : ScanDomainResult} (h : Coverage tree subscriptionId w result w') {folder : String}
    {names : List String} (hnamed : Named tree folder names) {item : RemoteItem}
    (hitem : item ∈ tree.items folder) :
    RecordedAt w'.db subscriptionId item.remoteFileId (scannedPath names item.filename) :=
  h.recorded folder _ hnamed.at item hitem

/-! ## The folders a transfer ensures -/

/-- The parts of a path that the loop does not skip. -/
def walked (parts : List String) : List String := parts.filter fun part => part ∉ ["", ".", "/"]

/-- The folders of the target path alone. -/
def targetFolders (targetPath : String) : List String :=
  let path := PurePosixPath.ofString targetPath
  walked (((if path.root = [] then [] else [path.root]) ++ path.parts).map String.ofList)

/-- The names of the folders that are ensured for an item, one below another. -/
def walkedFolders (targetPath relativePath : String) : List String :=
  walked (Provider.targetFolderParts targetPath relativePath)

/-- Each folder is ensured below the one before. -/
def ensureEach (fuel : ℕ) (provider : Provider) : List String → FolderRef → Provide FolderRef
  | [], target => pure target
  | name :: rest, target => do
    Provider.raiseIfCancelled
    let next ← provider.ensureFolder fuel target name
    ensureEach fuel provider rest next

theorem ensureParts_walked (fuel : ℕ) (provider : Provider) (parts : List String)
    (target : FolderRef) :
    Provider.ensureParts fuel provider parts target =
      ensureEach fuel provider (walked parts) target := by
  induction parts generalizing target with
  | nil => rfl
  | cons part parts ih =>
    unfold Provider.ensureParts ensurePartsOf walked
    split_ifs with hskipped
    · rw [List.filter_cons_of_neg (by rw [decide_eq_true_eq]; exact not_not.mpr hskipped)]
      exact ih target
    · rw [List.filter_cons_of_pos (by rw [decide_eq_true_eq]; exact hskipped)]
      have hrest : ∀ next, ensurePartsOf Provider.raiseIfCancelled (provider.ensureFolder fuel)
          parts next = ensureEach fuel provider (walked parts) next := ih
      simp only [hrest]
      rfl

theorem ensureTargetFolder_walked (fuel : ℕ) (provider : Provider)
    (targetPath relativePath : String) :
    provider.ensureTargetFolder fuel targetPath relativePath =
      ensureEach fuel provider (walkedFolders targetPath relativePath) ⟨"root", "/"⟩ :=
  ensureParts_walked fuel provider _ _

/-! ## Names that are one component -/

def Component (name : String) : Prop := '/' ∉ name.toList ∧ name ≠ "" ∧ name ≠ "."

/-- The names that keep an item below its own folders: every folder's name is one
component, and the item's own is a relative path of one. -/
structure Plain (ancestors : List String) (filename : String) : Prop where
  folders : ∀ name ∈ ancestors, Component name
  relative : (PurePosixPath.ofString filename).root = []
  single : (PurePosixPath.ofString filename).parts.length = 1 ∨
    (PurePosixPath.ofString filename).parts = [] ∧ ancestors = []

theorem ofString_component {name : String} (h : Component name) :
    PurePosixPath.ofString name = ⟨[], [name.toList]⟩ := by
  obtain ⟨hslash, hempty, hdot⟩ := h
  have hroot : PurePosixPath.rootOf name.toList = [] := by
    cases htext : name.toList with
    | nil => rfl
    | cons c cs =>
      rw [htext] at hslash
      exact PurePosixPath.rootOf_of_ne fun hc => hslash (hc ▸ List.mem_cons_self ..)
  have hne : name.toList ≠ [] := fun hnil => hempty (String.toList_eq_nil_iff.mp hnil)
  have hnot : name.toList ≠ ['.'] := fun heq => hdot (String.toList_inj.mp heq)
  rw [PurePosixPath.ofString, hroot, PurePosixPath.splitSlash_eq,
    PythonText.splitChar_of_notMem hslash, List.filter_cons_of_pos (by simp [hne, hnot])]
  rfl

theorem component_ofList {part : List Char} (h : '/' ∉ part ∧ part ≠ [] ∧ part ≠ ['.']) :
    Component (String.ofList part) := by
  refine ⟨by simpa using h.1, fun hempty => h.2.1 ?_, fun hdot => h.2.2 ?_⟩
  · simpa using congrArg String.toList hempty
  · simpa using congrArg String.toList hdot

theorem folderPath_components {ancestors : List String} (h : ∀ name ∈ ancestors, Component name) :
    folderPath ancestors = ⟨[], ancestors.map String.toList⟩ := by
  induction ancestors using List.reverseRecOn with
  | nil => rfl
  | append_singleton ancestors name ih =>
    have hname := h name (List.mem_append_right _ (List.mem_singleton_self _))
    rw [folderPath_concat, ih fun other hmem => h other (List.mem_append_left _ hmem),
      PurePosixPath.join, ofString_component hname]
    simp

theorem walked_append (parts parts' : List String) :
    walked (parts ++ parts') = walked parts ++ walked parts' := List.filter_append _ _

theorem walked_components {parts : List String} (h : ∀ part ∈ parts, Component part) :
    walked parts = parts := by
  refine List.filter_eq_self.mpr fun part hpart => ?_
  obtain ⟨hslash, hempty, hdot⟩ := h part hpart
  have hroot : part ≠ "/" := fun heq => hslash (heq ▸ by decide)
  simp [hempty, hdot, hroot]

theorem normal_components {path : PurePosixPath} (h : path.Normal) :
    ∀ part ∈ path.parts.dropLast.map String.ofList, Component part := by
  intro part hpart
  obtain ⟨piece, hpiece, rfl⟩ := List.mem_map.mp hpart
  exact component_ofList (h.parts piece (List.dropLast_subset _ hpiece))

/-- A relative path leads into the folders of the target path. -/
theorem walkedFolders_relative {path : PurePosixPath} (h : path.Normal) (hroot : path.root = [])
    (targetPath : String) : walkedFolders targetPath path.toString =
      targetFolders targetPath ++ path.parts.dropLast.map String.ofList := by
  unfold walkedFolders Provider.targetFolderParts targetFolders
  dsimp only
  rw [PurePosixPath.ofString_toString h, if_pos hroot, List.map_append, List.map_append,
    List.map_append, ← List.append_assoc, walked_append]
  congr 1
  exact walked_components (normal_components h)

/-- An absolute path forgets the target path. -/
theorem walkedFolders_absolute {path : PurePosixPath} (h : path.Normal) (hroot : path.root ≠ [])
    (targetPath otherPath : String) :
    walkedFolders targetPath path.toString = walkedFolders otherPath path.toString := by
  unfold walkedFolders Provider.targetFolderParts
  dsimp only
  rw [PurePosixPath.ofString_toString h]
  simp only [if_neg hroot]

/-- The transfer of an item stays below its own folders. -/
def Stays (ancestors : List String) (filename : String) : Prop :=
  ∀ targetPath, walkedFolders targetPath (scannedPath ancestors filename) =
    targetFolders targetPath ++ ancestors

section Item
variable {ancestors : List String} {filename : String}

theorem join_relative (path : PurePosixPath) {right : PurePosixPath}
    (h : PurePosixPath.ofString filename = right)
    (hroot : right.root = []) : path.join filename = ⟨path.root, path.parts ++ right.parts⟩ := by
  unfold PurePosixPath.join
  rw [h, if_pos hroot]

theorem Plain.stays (h : Plain ancestors filename) : Stays ancestors filename := by
  have hfolder := folderPath_components h.folders
  have hjoin := join_relative (folderPath ancestors) rfl h.relative
  intro targetPath
  rw [scannedPath, walkedFolders_relative ((folderPath_normal ancestors).join filename)
    (by rw [hjoin, hfolder]), hjoin, hfolder]
  congr 1
  rcases h.single with hone | ⟨hnone, rfl⟩
  · obtain ⟨part, hpart⟩ := List.length_eq_one_iff.mp hone
    rw [hpart, List.dropLast_concat, List.map_map]
    simp
  · rw [hnone]
    rfl

/-- What an item that stays below its own folders is like. -/
theorem Stays.plain (h : Stays ancestors filename) : Plain ancestors filename := by
  have hnormal := (folderPath_normal ancestors).join filename
  have hroot : ((folderPath ancestors).join filename).root = [] := by
    by_contra habsolute
    have hsame := walkedFolders_absolute hnormal habsolute "/" "a"
    rw [← scannedPath, h "/", h "a"] at hsame
    have hlength := congrArg List.length hsame
    rw [List.length_append, List.length_append, show targetFolders "/" = [] by decide,
      show targetFolders "a" = ["a"] by decide] at hlength
    simp at hlength
  have hchain := h "/"
  rw [scannedPath, walkedFolders_relative hnormal hroot] at hchain
  have hnames := List.append_cancel_left hchain
  have hfolders : ∀ name ∈ ancestors, Component name := hnames ▸ normal_components hnormal
  have hfolder := folderPath_components hfolders
  have hrelative : (PurePosixPath.ofString filename).root = [] := by
    by_contra habsolute
    rw [PurePosixPath.join, if_neg habsolute] at hroot
    exact habsolute hroot
  refine ⟨hfolders, hrelative, ?_⟩
  have hlength := congrArg List.length hnames
  rw [join_relative _ rfl hrelative, hfolder, List.length_map, List.length_dropLast,
    List.length_append, List.length_map] at hlength
  by_cases hnone : (PurePosixPath.ofString filename).parts = []
  · rw [hnone, List.length_nil] at hlength
    exact .inr ⟨hnone, List.length_eq_zero_iff.mp (by omega)⟩
  · have hpos := List.length_pos_iff.mpr hnone
    exact .inl (by omega)

end Item

/-- The folders ensured for an item are those of the target path and one for
each folder above it, under every target path, if and only if the names are
plain. Plain items of differently named folders do not meet. -/
theorem transfer_stays_iff_plain (ancestors : List String) (filename : String) :
    (Stays ancestors filename ↔ Plain ancestors filename) ∧
    (∀ targetPath others name, Plain ancestors filename → Plain others name →
      walkedFolders targetPath (scannedPath ancestors filename) =
        walkedFolders targetPath (scannedPath others name) → ancestors = others) ∧
    (∀ fuel (provider : Provider) targetPath,
      provider.ensureTargetFolder fuel targetPath (scannedPath ancestors filename) =
        ensureEach fuel provider (walkedFolders targetPath (scannedPath ancestors filename))
          ⟨"root", "/"⟩) ∧
    ∀ (tree : RemoteTree) (subscriptionId : ℕ) (w w' : ScanWorld Asked) (result : ScanDomainResult)
      (folder : String) (item : RemoteItem), Coverage tree subscriptionId w result w' →
      Named tree folder ancestors → item ∈ tree.items folder → item.filename = filename →
      RecordedAt w'.db subscriptionId item.remoteFileId (scannedPath ancestors filename) := by
  refine ⟨⟨Stays.plain, Plain.stays⟩, fun targetPath others name h h' hsame => ?_,
    fun fuel provider targetPath => ensureTargetFolder_walked fuel provider _ _, ?_⟩
  · rw [h.stays targetPath, h'.stays targetPath] at hsame
    exact List.append_cancel_left hsame
  · rintro tree subscriptionId w w' result folder item hcoverage hnamed hitem rfl
    exact recorded_scannedPath hcoverage hnamed hitem

/-- A folder named like an absolute path leads out of the target folder, and two
folders lead into one. -/
theorem names_lead_outside :
    ¬(∀ targetPath ancestors filename, (∀ name ∈ ancestors, name ≠ "") → filename ≠ "" →
      walkedFolders targetPath (scannedPath ancestors filename) =
        targetFolders targetPath ++ ancestors) ∧
    walkedFolders "/shows" (scannedPath ["/etc"] "e01.mkv") = ["etc"] ∧
    walkedFolders "/shows" (scannedPath ["s01", "."] "e01.mkv") =
      walkedFolders "/shows" (scannedPath ["s01"] "e01.mkv") := by
  refine ⟨fun h => ?_, by decide, by decide⟩
  have hstays := h "/shows" ["/etc"] "e01.mkv" (by decide) (by decide)
  exact absurd hstays (by decide)

end MediaSync.TransferTargets
