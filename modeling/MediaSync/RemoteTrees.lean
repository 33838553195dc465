import MediaSync.Common.PreorderWalks
import MediaSync.SubscriptionScan

/-!
# Remote folder trees and their listings

A share is a finite tree of folders. Each folder is listed page by page: a
page's cursor is the way to the next one, and every page but the last brings an
item that no earlier page had. A listing may shift between two requests, so an
item can be on several pages of its folder.

The provider answers from such a listing and remembers what it was asked.
-/
namespace MediaSync.RemoteTrees
open PosixPaths SubscriptionScan PreorderWalks

def entries (pages : List RemotePage) : List RemoteItem := pages.flatMap RemotePage.items

def isFolder (item : RemoteItem) : Bool := item.itemType = "folder"

/-- The page has an item that no earlier page has. -/
def Brings (before : List RemotePage) (page : RemotePage) : Prop :=
  ∃ id ∈ page.itemIds, ∀ earlier ∈ before, id ∉ earlier.itemIds

instance (before : List RemotePage) (page : RemotePage) : Decidable (Brings before page) := by
  unfold Brings
  infer_instance

/-- A listing by cursors that do not repeat, every page but the last with
something new. -/
structure Paginated (pages : List RemotePage) : Prop where
  nonempty : pages ≠ []
  continues : ∀ before page after, pages = before ++ page :: after → after ≠ [] →
    given page.nextMarker ∧ (∀ earlier ∈ before, earlier.nextMarker ≠ page.nextMarker) ∧
      Brings before page
  ends : ∀ before last, pages = before ++ [last] → last.items = [] ∨ given last.nextMarker = false

/-- The last page is empty or brings something new, too. -/
def EndsFresh (pages : List RemotePage) : Prop :=
  ∀ before last, pages = before ++ [last] → last.items = [] ∨ Brings before last

theorem Brings.items_ne_nil {before : List RemotePage} {page : RemotePage}
    (h : Brings before page) :
    page.items ≠ [] := by
  obtain ⟨id, hid, -⟩ := h
  rintro hnil
  rw [RemotePage.itemIds, hnil] at hid
  exact absurd hid List.not_mem_nil

/-- An empty page is the last one. -/
theorem Paginated.after_empty {before after : List RemotePage} {page : RemotePage}
    (h : Paginated (before ++ page :: after)) (hitems : page.items = []) : after = [] := by
  by_contra hne
  exact (h.continues before page after rfl hne).2.2.items_ne_nil hitems

theorem paginated_singleton {last : RemotePage}
    (h : last.items = [] ∨ given last.nextMarker = false) : Paginated [last] where
  nonempty := List.cons_ne_nil _ _
  continues before page after heq hne := by
    cases before with
    | nil => exact absurd (List.cons.inj heq).2.symm hne
    | cons first before => simp at heq
  ends before page heq := by
    have happend : [] ++ [last] = before ++ [page] := heq
    obtain ⟨-, hlast⟩ := List.append_inj' happend (by simp)
    cases hlast
    exact h

theorem paginated_pair {first last : RemotePage} (hmarker : given first.nextMarker)
    (hitems : first.items ≠ []) (h : last.items = [] ∨ given last.nextMarker = false) :
    Paginated [first, last] where
  nonempty := List.cons_ne_nil _ _
  continues before page after heq hne := by
    rcases before with _ | ⟨second, before⟩
    · obtain ⟨rfl, -⟩ := List.cons.inj heq
      obtain ⟨item, hitem⟩ := List.exists_mem_of_ne_nil _ hitems
      exact ⟨hmarker, by simp, item.remoteFileId, List.mem_map_of_mem hitem, by simp⟩
    · obtain ⟨-, hrest⟩ := List.cons.inj heq
      rcases before with _ | ⟨third, before⟩
      · exact absurd (List.cons.inj hrest).2.symm hne
      · simp at hrest
  ends before page heq := by
    have happend : [first] ++ [last] = before ++ [page] := heq
    obtain ⟨-, hlast⟩ := List.append_inj' happend (by simp)
    cases hlast
    exact h

theorem endsFresh_concat {before : List RemotePage} {last : RemotePage} :
    EndsFresh (before ++ [last]) ↔ last.items = [] ∨ Brings before last := by
  constructor
  · intro h
    exact h before last rfl
  · rintro h before' last' heq
    obtain ⟨rfl, rfl⟩ := List.concat_inj.mp (by simpa using heq)
    exact h

structure RemoteTree where
  rootFolderId : String
  pages : String → List RemotePage
  height : String → ℕ
  paginated : ∀ folder, Paginated (pages folder)
  rootApart : ∀ folder, ∀ item ∈ entries (pages folder), item.remoteFileId ≠ rootFolderId
  lower : ∀ folder, ∀ item ∈ entries (pages folder), isFolder item →
    height item.remoteFileId < height folder
  onePosition : ∀ folder, ∀ item ∈ entries (pages folder), ∀ folder',
    ∀ item' ∈ entries (pages folder'), item.remoteFileId = item'.remoteFileId →
      folder = folder' ∧ item.filename = item'.filename ∧ item.itemType = item'.itemType

namespace RemoteTree
variable (tree : RemoteTree)

def items (folder : String) : List RemoteItem := entries (tree.pages folder)

/-- The sub-folders of a folder, one entry for each time a page shows one. -/
def subfolders (folder : String) : List RemoteItem := (tree.items folder).filter isFolder

def branching : Branching String where
  children folder := (tree.subfolders folder).map RemoteItem.remoteFileId
  height := tree.height
  lower folder id h := by
    obtain ⟨item, hitem, rfl⟩ := List.mem_map.mp h
    obtain ⟨hmem, hfolder⟩ := List.mem_filter.mp hitem
    exact tree.lower folder item hmem hfolder

/-- The folder is in the tree, and this is its path. -/
inductive At : String → PurePosixPath → Prop
  | root : At tree.rootFolderId (PurePosixPath.ofString "")
  | sub {folder : String} {path : PurePosixPath} {item : RemoteItem} :
      At folder path → item ∈ tree.subfolders folder →
      At item.remoteFileId (path.join item.filename)

def folders : Set String := {folder | ∃ path, tree.At folder path}

/-- An item of the tree has this id and this relative path. -/
def Located (id path : String) : Prop :=
  ∃ folder parentPath item, tree.At folder parentPath ∧ item ∈ tree.items folder ∧
    item.remoteFileId = id ∧ (parentPath.join item.filename).toString = path

variable {tree}

theorem at_iff_reaches {folder : String} :
    folder ∈ tree.folders ↔ tree.branching.Reaches tree.rootFolderId folder := by
  constructor
  · rintro ⟨path, h⟩
    induction h with
    | root => exact .refl
    | sub _ hitem ih => exact ih.tail (List.mem_map_of_mem hitem)
  · intro h
    induction h with
    | refl => exact ⟨_, .root⟩
    | tail _ hchild ih =>
      obtain ⟨path, hpath⟩ := ih
      obtain ⟨item, hitem, rfl⟩ := List.mem_map.mp hchild
      exact ⟨_, .sub hpath hitem⟩

theorem At.normal {folder : String} {path : PurePosixPath} (h : tree.At folder path) :
    path.Normal := by
  induction h with
  | root => exact PurePosixPath.normal_ofString ""
  | sub _ _ ih => exact ih.join _

theorem mem_items_of_subfolders {folder : String} {item : RemoteItem}
    (h : item ∈ tree.subfolders folder) : item ∈ tree.items folder :=
  (List.mem_filter.mp h).1

theorem one_parent (a b c : String) (ha : tree.branching.Child a c)
    (hb : tree.branching.Child b c) :
    a = b := by
  obtain ⟨item, hitem, rfl⟩ := List.mem_map.mp ha
  obtain ⟨item', hitem', heq⟩ := List.mem_map.mp hb
  exact (tree.onePosition a item (mem_items_of_subfolders hitem) b item'
    (mem_items_of_subfolders hitem') heq.symm).1

theorem root_not_sub {folder : String} {item : RemoteItem} (hitem : item ∈ tree.subfolders folder) :
    item.remoteFileId ≠ tree.rootFolderId :=
  tree.rootApart folder item (mem_items_of_subfolders hitem)

theorem At.unique {folder : String} {path path' : PurePosixPath} (h : tree.At folder path)
    (h' : tree.At folder path') : path = path' := by
  induction h generalizing path' with
  | root =>
    generalize hroot : tree.rootFolderId = folder at h'
    cases h' with
    | root => rfl
    | sub hparent hitem => exact absurd hroot.symm (root_not_sub hitem)
  | @sub folder path item hparent hitem ih =>
    generalize hid : item.remoteFileId = id at h'
    cases h' with
    | root => exact absurd hid (root_not_sub hitem)
    | @sub folder' path' item' hparent' hitem' =>
      obtain ⟨rfl, hname, -⟩ := tree.onePosition folder item (mem_items_of_subfolders hitem) folder'
        item' (mem_items_of_subfolders hitem') hid
      rw [ih hparent', hname]

theorem root_not_located (path : String) : ¬tree.Located tree.rootFolderId path := by
  rintro ⟨folder, parent, item, -, hitem, hid, -⟩
  exact tree.rootApart folder item hitem hid

theorem Located.unique {id path path' : String} (h : tree.Located id path)
    (h' : tree.Located id path') : path = path' := by
  obtain ⟨folder, parent, item, hat, hitem, hid, rfl⟩ := h
  obtain ⟨folder', parent', item', hat', hitem', hid', rfl⟩ := h'
  obtain ⟨rfl, hname, -⟩ := tree.onePosition folder item hitem folder' item' hitem'
    (hid.trans hid'.symm)
  rw [hat.unique hat', hname]

/-- A scan from the root walks the folders in preorder, and as often as folders
are shown. -/
def walk (tree : RemoteTree) : List String := tree.branching.preorder tree.rootFolderId

theorem mem_walk {folder : String} : folder ∈ tree.walk ↔ folder ∈ tree.folders := by
  rw [walk, Branching.mem_preorder, at_iff_reaches]

theorem folders_eq : tree.folders = {folder | tree.branching.Reaches tree.rootFolderId folder} := by
  ext folder
  exact at_iff_reaches

theorem nodup_walk : tree.walk.Nodup ↔ ∀ folder ∈ tree.folders,
    ((tree.subfolders folder).map RemoteItem.remoteFileId).Nodup := by
  rw [folders_eq]
  exact tree.branching.nodup_preorder one_parent

theorem length_walk : tree.walk.length = tree.folders.ncard ↔ tree.walk.Nodup := by
  rw [folders_eq]
  exact tree.branching.length_preorder_eq

/-- The turns of fuel that walking a folder takes. -/
def turns (tree : RemoteTree) : ℕ :=
  tree.height tree.rootFolderId + (tree.walk.map fun folder => (tree.pages folder).length).sum + 1

end RemoteTree

/-! ## Answering from a listing -/

/-- The page a cursor leads to. -/
def pageFor : List RemotePage → Option String → Option RemotePage
  | [], _ => none
  | page :: _, none => some page
  | page :: rest, some marker =>
    if page.nextMarker = some marker then rest.head? else pageFor rest (some marker)

abbrev Asked := List (String × Option String)

def RemoteTree.provider (tree : RemoteTree) (share : ShareInfo) : ShareProvider Asked where
  resolveShare _ _ asked := (.ok share, asked)
  listShareItems _ folder marker asked :=
    (match pageFor (tree.pages folder) marker with
      | some page => .ok page
      | none => .error "unknown cursor", asked ++ [(folder, marker)])

/-- The folders whose first page was asked for, in order. -/
def listed (asked : Asked) : List String :=
  (asked.filter fun request => request.2 = none).map Prod.fst

/-- The cursor that the pages seen so far lead to. -/
def cursor (before : List RemotePage) : Option String := before.getLast?.bind RemotePage.nextMarker

theorem listed_append (asked asked' : Asked) :
    listed (asked ++ asked') = listed asked ++ listed asked' := by
  simp only [listed, List.filter_append, List.map_append]

theorem isSome_of_given {text : Option String} (h : given text) : text.isSome := by
  cases text with
  | none => cases h
  | some _ => rfl

/-- Only the first page is asked for without a cursor. -/
theorem cursor_isNone {before after : List RemotePage} {page : RemotePage}
    (h : Paginated (before ++ page :: after)) : (cursor before).isNone = decide (before = []) := by
  rcases List.eq_nil_or_concat' before with rfl | ⟨init, last, rfl⟩
  · rfl
  · rw [List.append_assoc, List.singleton_append] at h
    have hgiven := (h.continues init last (page :: after) rfl (List.cons_ne_nil _ _)).1
    have hsome := isSome_of_given hgiven
    simp [cursor, hsome]

theorem pageFor_cursor {before after : List RemotePage} {page : RemotePage}
    (h : Paginated (before ++ page :: after)) :
    pageFor (before ++ page :: after) (cursor before) = some page := by
  rcases List.eq_nil_or_concat' before with rfl | ⟨init, last, rfl⟩
  · rfl
  · rw [List.append_assoc, List.singleton_append] at h ⊢
    obtain ⟨hgiven, hearlier, -⟩ := h.continues init last (page :: after) rfl (List.cons_ne_nil _ _)
    obtain ⟨marker, hmarker⟩ := Option.isSome_iff_exists.mp (isSome_of_given hgiven)
    have hcursor : cursor (init ++ [last]) = some marker := by
      simp [cursor, hmarker]
    rw [hcursor]
    clear h hcursor
    induction init with
    | nil => simp [pageFor, hmarker]
    | cons first init ih =>
      have hfirst : first.nextMarker ≠ some marker :=
        hmarker ▸ hearlier first (List.mem_cons_self ..)
      rw [List.cons_append, pageFor, if_neg hfirst]
      exact ih fun earlier hmem => hearlier earlier (List.mem_cons_of_mem _ hmem)

end MediaSync.RemoteTrees
