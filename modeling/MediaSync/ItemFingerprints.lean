import MediaSync.Common.DateTimes
import MediaSync.SubscriptionScan

/-!
# What a fingerprint tells apart

A scan takes a file for a changed one when its fingerprint changed: a digest of
its id, its type, its size, its content hash and the time of its last update,
joined with separators. A field that is absent is an empty text. So are a size
of zero and an empty hash, and nothing else is mistaken for another.
-/
namespace MediaSync.ItemFingerprints
open DateTimes SubscriptionScan TaskTables

/-- What a fingerprint is made of. -/
structure Observed (δ : Type) where
  remoteFileId : String
  itemType : String
  size : Option ℤ := none
  contentHash : Option String := none
  updatedAt : Option δ := none
  deriving DecidableEq

/-- `str(item.size or "")` -/
def sizeText : Option ℤ → String
  | none => ""
  | some size => if size = 0 then "" else toString size

def separator : Char := '\x00'

namespace Observed
variable {δ : Type} (isoformat : δ → String)

def parts (item : Observed δ) : List String :=
  [item.remoteFileId, item.itemType, sizeText item.size, item.contentHash.getD "",
    (item.updatedAt.map isoformat).getD ""]

/-- The text that `fingerprint_item` hashes. -/
def fingerprintText (item : Observed δ) : String := "\x00".intercalate (item.parts isoformat)

def ofItem (item : RemoteItem) : Observed Time where
  remoteFileId := item.remoteFileId
  itemType := item.itemType
  size := item.size
  contentHash := item.contentHash
  updatedAt := item.updatedAt

theorem fingerprintText_ofItem (texts : Texts) (item : RemoteItem) :
    SubscriptionScan.fingerprintText texts item =
      (ofItem item).fingerprintText texts.isoformat := rfl

/-- No text of the item has the separator in it. -/
structure NulFree (item : Observed δ) : Prop where
  remoteFileId : separator ∉ item.remoteFileId.toList
  itemType : separator ∉ item.itemType.toList
  contentHash : ∀ hash ∈ item.contentHash, separator ∉ hash.toList

instance (item : Observed δ) : Decidable item.NulFree :=
  decidable_of_iff (separator ∉ item.remoteFileId.toList ∧ separator ∉ item.itemType.toList ∧
      ∀ hash ∈ item.contentHash, separator ∉ hash.toList)
    ⟨fun h => ⟨h.1, h.2.1, h.2.2⟩, fun h => ⟨h.remoteFileId, h.itemType, h.contentHash⟩⟩

end Observed

/-! ## The fields -/

/-- One of two values is absent, and the other one counts as absent. -/
def Blank {α : Type} (zero : α) (a b : Option α) : Prop :=
  a = none ∧ b = some zero ∨ a = some zero ∧ b = none

theorem Blank.ne {α : Type} {zero : α} {a b : Option α} (h : Blank zero a b) : a ≠ b := by
  rcases h with ⟨rfl, rfl⟩ | ⟨rfl, rfl⟩ <;> simp

theorem getD_eq_iff {α : Type} {zero : α} {a b : Option α} :
    a.getD zero = b.getD zero ↔ a = b ∨ Blank zero a b := by
  unfold Blank
  rcases a with _ | a <;> rcases b with _ | b <;> simp [eq_comm]

theorem toString_ne_empty (n : ℤ) : toString n ≠ "" := by
  rw [Int.toString_eq_repr, Int.repr_eq_if]
  split
  · exact Nat.repr_ne_empty
  · intro h
    have hlength := congrArg (fun text => text.toList.length) h
    simp at hlength

theorem sizeText_eq_iff {a b : Option ℤ} : sizeText a = sizeText b ↔ a = b ∨ Blank 0 a b := by
  have hzero (size : Option ℤ) :
      sizeText size = if size.getD 0 = 0 then "" else toString (size.getD 0) := by
    cases size <;> rfl
  rw [← getD_eq_iff, hzero, hzero]
  constructor
  · intro h
    split_ifs at h with ha hb hb
    · exact ha.trans hb.symm
    · exact absurd h.symm (toString_ne_empty _)
    · exact absurd h (toString_ne_empty _)
    · exact Int.repr_injective h
  · intro h
    rw [h]

theorem notMem_repr (n : ℕ) : separator ∉ n.repr.toList := by
  intro h
  rw [Nat.toList_repr] at h
  exact absurd (Nat.isDigit_of_mem_toDigits (by decide) (by decide) h) (by decide)

theorem notMem_sizeText (size : Option ℤ) : separator ∉ (sizeText size).toList := by
  rcases size with _ | size
  · exact List.not_mem_nil
  · rw [sizeText]
    split_ifs with hzero
    · exact List.not_mem_nil
    · rw [Int.toString_eq_repr, Int.repr_eq_if]
      split
      · exact notMem_repr _
      · rw [String.toList_append, List.mem_append]
        rintro (h | h)
        · exact absurd h (by decide)
        · exact notMem_repr _ h

theorem notMem_isoformat (moment : DateTime) : separator ∉ moment.isoformat.toList := by
  intro h
  exact absurd (List.all_eq_true.mp (all_isoformat moment) _ h) (by decide)

theorem isoformat_ne_empty (moment : DateTime) : moment.isoformat ≠ "" := by
  intro h
  have hlength := congrArg (fun text => text.toList.length) h
  simp [DateTime.isoformat, DateTime.plainChars] at hlength

theorem updatedText_eq_iff {a b : Option DateTime} :
    (a.map DateTime.isoformat).getD "" = (b.map DateTime.isoformat).getD "" ↔ a = b := by
  rcases a with _ | a <;> rcases b with _ | b
  · simp
  · simpa using (isoformat_ne_empty b).symm
  · simpa using isoformat_ne_empty a
  · simpa using isoformat_injective.eq_iff

/-! ## The text -/

open Observed

/-- The parts of a text can be told apart when none has the separator in it. -/
theorem intercalate_inj {xs ys : List String} (hlength : xs.length = ys.length) (hne : xs ≠ [])
    (hxs : ∀ text ∈ xs, separator ∉ text.toList) (hys : ∀ text ∈ ys, separator ∉ text.toList)
    (h : "\x00".intercalate xs = "\x00".intercalate ys) : xs = ys := by
  have hsplit {texts : List String} (hne : texts ≠ [])
      (hfree : ∀ text ∈ texts, separator ∉ text.toList) :
      ("\x00".intercalate texts).toList.splitOn separator = texts.map String.toList := by
    rw [String.toList_intercalate]
    refine List.splitOn_intercalate separator ?_ (by simpa using hne)
    simpa using hfree
  have hne' : ys ≠ [] := by
    rintro rfl
    exact hne (List.length_eq_zero_iff.mp hlength)
  have hmap : xs.map String.toList = ys.map String.toList := by
    rw [← hsplit hne hxs, h, hsplit hne' hys]
  exact List.map_injective_iff.mpr (fun _ _ => String.toList_injective) hmap

theorem notMem_parts {item : Observed DateTime} (h : item.NulFree) :
    ∀ text ∈ item.parts DateTime.isoformat, separator ∉ text.toList := by
  have hhash : separator ∉ (item.contentHash.getD "").toList := by
    rcases hc : item.contentHash with _ | hash
    · exact List.not_mem_nil
    · exact h.contentHash hash hc
  have hupdated : separator ∉ ((item.updatedAt.map DateTime.isoformat).getD "").toList := by
    rcases item.updatedAt with _ | moment
    · exact List.not_mem_nil
    · exact notMem_isoformat moment
  simpa [parts] using ⟨h.remoteFileId, h.itemType, notMem_sizeText item.size, hhash, hupdated⟩

/-- The items differ in a size of zero against no size, or in an empty hash
against no hash, and in nothing else. -/
structure OnlyBlank (a b : Observed DateTime) : Prop where
  remoteFileId : a.remoteFileId = b.remoteFileId
  itemType : a.itemType = b.itemType
  updatedAt : a.updatedAt = b.updatedAt
  size : a.size = b.size ∨ Blank 0 a.size b.size
  contentHash : a.contentHash = b.contentHash ∨ Blank "" a.contentHash b.contentHash
  differ : Blank 0 a.size b.size ∨ Blank "" a.contentHash b.contentHash

theorem fingerprintText_eq_iff {a b : Observed DateTime} (ha : a.NulFree) (hb : b.NulFree) :
    a.fingerprintText DateTime.isoformat = b.fingerprintText DateTime.isoformat ↔
      a = b ∨ OnlyBlank a b := by
  have hparts : a.fingerprintText DateTime.isoformat = b.fingerprintText DateTime.isoformat ↔
      a.parts DateTime.isoformat = b.parts DateTime.isoformat :=
    ⟨intercalate_inj rfl (List.cons_ne_nil _ _) (notMem_parts ha) (notMem_parts hb),
      congrArg ("\x00".intercalate ·)⟩
  rw [hparts]
  simp only [parts, List.cons.injEq, and_true, sizeText_eq_iff, updatedText_eq_iff]
  rw [getD_eq_iff]
  constructor
  · rintro ⟨hid, htype, hsize, hhash, hupdated⟩
    by_cases hblank : Blank 0 a.size b.size ∨ Blank "" a.contentHash b.contentHash
    · exact .inr ⟨hid, htype, hupdated, hsize, hhash, hblank⟩
    · rw [not_or] at hblank
      obtain ⟨_, _, _, _, _⟩ := a
      obtain ⟨_, _, _, _, _⟩ := b
      left
      rw [Observed.mk.injEq]
      exact ⟨hid, htype, hsize.resolve_right hblank.1, hhash.resolve_right hblank.2, hupdated⟩
  · rintro (rfl | h)
    · exact ⟨rfl, rfl, .inl rfl, .inl rfl, rfl⟩
    · exact ⟨h.remoteFileId, h.itemType, h.size, h.contentHash, h.updatedAt⟩

/-- Items with one text agree, unless all they differ in counts as absent. -/
theorem changes_seen_iff {a b : Observed DateTime} (ha : a.NulFree) (hb : b.NulFree) :
    (a.fingerprintText DateTime.isoformat = b.fingerprintText DateTime.isoformat → a = b) ↔
      ¬OnlyBlank a b := by
  rw [fingerprintText_eq_iff ha hb]
  constructor
  · intro h hblank
    obtain rfl := h (.inr hblank)
    exact hblank.differ.elim (fun h => h.ne rfl) fun h => h.ne rfl
  · exact fun hblank h => h.resolve_right hblank

def unknownSize : Observed DateTime where
  remoteFileId := "65f0c2"
  itemType := "file"

def emptyFile : Observed DateTime := { unknownSize with size := some 0 }

def oneByte : Observed DateTime := { unknownSize with size := some 1 }

theorem changes_seen_sample : (oneByte.NulFree ∧ emptyFile.NulFree) ∧
    (oneByte.fingerprintText DateTime.isoformat = emptyFile.fingerprintText DateTime.isoformat →
      oneByte = emptyFile) := by
  refine ⟨by decide, (changes_seen_iff (by decide) (by decide)).mpr fun h => ?_⟩
  have hsize := h.size
  unfold Blank at hsize
  revert hsize
  decide

/-- A file that turns out to be empty is not seen to change. -/
theorem empty_file_unseen : ¬∀ a b : Observed DateTime, a.NulFree → b.NulFree →
    a.fingerprintText DateTime.isoformat = b.fingerprintText DateTime.isoformat → a = b := by
  intro h
  have hsame : unknownSize = emptyFile := h unknownSize emptyFile (by decide) (by decide) rfl
  exact absurd (congrArg Observed.size hsame) (by decide)

end MediaSync.ItemFingerprints
