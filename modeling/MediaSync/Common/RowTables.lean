import Mathlib

/-!
# Tables of rows under integer keys

A table is a list of columns under distinct keys, in insertion order. The
operations are the ones a relational program issues: select, insert under a
key that the table allocates, update and delete where a predicate holds.
A row's key is not one of its columns, so an update cannot move a row.

Keys are allocated one above the largest key that is present. A key is
therefore fresh when it is handed out, and may have been used before by a row
that has since been deleted.
-/
namespace MediaSync.RowTables

structure Table (α : Type) where
  rows : List (ℕ × α)
  keyed : (rows.map Prod.fst).Nodup

variable {α : Type}

instance [DecidableEq α] : DecidableEq (Table α) := fun s t =>
  decidable_of_iff (s.rows = t.rows) ⟨fun h => by cases s; cases t; cases h; rfl, fun h => h ▸ rfl⟩

namespace Table

def empty : Table α := ⟨[], List.nodup_nil⟩

def get? (t : Table α) (id : ℕ) : Option α :=
  (t.rows.find? fun row => row.1 = id).map Prod.snd

def select (t : Table α) (p : ℕ → α → Bool) : List (ℕ × α) :=
  t.rows.filter fun row => p row.1 row.2

/-- The key of the next inserted row: one more than the largest key present. -/
def nextId (t : Table α) : ℕ := (t.rows.map Prod.fst).foldr max 0 + 1

theorem lt_nextId {t : Table α} {row : ℕ × α} (h : row ∈ t.rows) : row.1 < t.nextId :=
  Nat.lt_succ_of_le (List.le_max_of_le (List.mem_map_of_mem h) le_rfl)

theorem nextId_fresh (t : Table α) : t.nextId ∉ t.rows.map Prod.fst := by
  rintro h
  obtain ⟨row, hrow, hid⟩ := List.mem_map.mp h
  exact absurd hid (lt_nextId hrow).ne

def insert (t : Table α) (a : α) : Table α where
  rows := t.rows ++ [(t.nextId, a)]
  keyed := by
    rw [List.map_append, List.nodup_append]
    refine ⟨t.keyed, List.nodup_singleton _, ?_⟩
    intro id hid next hnext heq
    rw [List.map_singleton, List.mem_singleton] at hnext
    rw [heq, hnext] at hid
    exact t.nextId_fresh hid

/-- Replaces the columns of every row where `p` holds. -/
def update (t : Table α) (p : ℕ → α → Bool) (f : ℕ → α → α) : Table α where
  rows := t.rows.map fun row => (row.1, if p row.1 row.2 then f row.1 row.2 else row.2)
  keyed := by
    rw [List.map_map]
    exact t.keyed

def delete (t : Table α) (p : ℕ → α → Bool) : Table α where
  rows := t.rows.filter fun row => !p row.1 row.2
  keyed := t.keyed.sublist (List.filter_sublist.map _)

theorem mem_iff_get? {t : Table α} {id : ℕ} {a : α} : (id, a) ∈ t.rows ↔ t.get? id = some a := by
  obtain ⟨rows, keyed⟩ := t
  simp only [get?]
  induction rows with
  | nil => simp
  | cons row rows ih =>
    rw [List.map_cons, List.nodup_cons] at keyed
    by_cases hid : row.1 = id
    · rw [List.find?_cons_of_pos (by simpa using hid), List.mem_cons]
      constructor
      · rintro (rfl | hmem)
        · rfl
        · exact absurd (List.mem_map_of_mem (f := Prod.fst) hmem) (hid ▸ keyed.1)
      · intro h
        exact .inl (Prod.ext hid.symm (Option.some.inj h).symm)
    · rw [List.find?_cons_of_neg (by simpa using hid), List.mem_cons, ih keyed.2]
      constructor
      · rintro (rfl | h)
        · exact absurd rfl hid
        · exact h
      · exact .inr

theorem mem_select {t : Table α} {p : ℕ → α → Bool} {id : ℕ} {a : α} :
    (id, a) ∈ t.select p ↔ t.get? id = some a ∧ p id a := by
  rw [select, List.mem_filter, mem_iff_get?]

theorem select_ne_nil {t : Table α} {p : ℕ → α → Bool} :
    t.select p ≠ [] ↔ ∃ id a, t.get? id = some a ∧ p id a := by
  constructor
  · intro h
    obtain ⟨⟨id, a⟩, hmem⟩ := List.exists_mem_of_ne_nil _ h
    exact ⟨id, a, mem_select.mp hmem⟩
  · intro ⟨id, a, hmem⟩
    exact List.ne_nil_of_mem (mem_select.mpr hmem)

theorem get?_eq_none {t : Table α} {id : ℕ} : t.get? id = none ↔ ∀ a, (id, a) ∉ t.rows := by
  rw [Option.eq_none_iff_forall_ne_some]
  exact forall_congr' fun a => by rw [mem_iff_get?]

theorem get?_lt_nextId {t : Table α} {id : ℕ} {a : α} (h : t.get? id = some a) :
    id < t.nextId := lt_nextId (mem_iff_get?.mpr h)

@[simp] theorem get?_nextId (t : Table α) : t.get? t.nextId = none :=
  get?_eq_none.mpr fun _ h => t.nextId_fresh (List.mem_map_of_mem h)

@[simp] theorem get?_empty (id : ℕ) : (empty : Table α).get? id = none := rfl

theorem get?_insert (t : Table α) (a : α) (id : ℕ) :
    (t.insert a).get? id = if id = t.nextId then some a else t.get? id := by
  have hmem (b : α) : (id, b) ∈ (t.insert a).rows ↔ t.get? id = some b ∨ id = t.nextId ∧ b = a := by
    simp only [insert, List.mem_append, List.mem_singleton, Prod.mk.injEq, mem_iff_get?]
  ext b
  rw [← mem_iff_get?, hmem]
  split_ifs with hid
  · subst hid
    simp [eq_comm]
  · simp [hid]

@[simp] theorem get?_insert_nextId (t : Table α) (a : α) :
    (t.insert a).get? t.nextId = some a := by
  rw [get?_insert, if_pos rfl]

theorem get?_insert_of_some {t : Table α} {a b : α} {id : ℕ} (h : t.get? id = some b) :
    (t.insert a).get? id = some b := by
  rw [get?_insert, if_neg (get?_lt_nextId h).ne, h]

theorem get?_update (t : Table α) (p : ℕ → α → Bool) (f : ℕ → α → α) (id : ℕ) :
    (t.update p f).get? id = (t.get? id).map fun a => if p id a then f id a else a := by
  ext b
  rw [← mem_iff_get?]
  simp only [update, List.mem_map, Prod.mk.injEq, Option.map_eq_some_iff]
  constructor
  · rintro ⟨row, hrow, rfl, rfl⟩
    exact ⟨row.2, mem_iff_get?.mp hrow, rfl⟩
  · rintro ⟨a, ha, rfl⟩
    exact ⟨(id, a), mem_iff_get?.mpr ha, rfl, rfl⟩

theorem get?_delete (t : Table α) (p : ℕ → α → Bool) (id : ℕ) :
    (t.delete p).get? id = (t.get? id).filter fun a => !p id a := by
  ext b
  rw [← mem_iff_get?]
  simp only [delete, List.mem_filter, mem_iff_get?, Option.filter_eq_some_iff]

/-- Selecting by what an update leaves alone sees the updated rows in place. -/
theorem select_update (t : Table α) {p q : ℕ → α → Bool} {f : ℕ → α → α}
    (h : ∀ id a, p id a → q id (f id a) = q id a) :
    (t.update p f).select q = (t.select q).map fun row =>
      (row.1, if p row.1 row.2 then f row.1 row.2 else row.2) := by
  have hq (row : ℕ × α) : q row.1 (if p row.1 row.2 then f row.1 row.2 else row.2) =
      q row.1 row.2 := by
    split_ifs with hp
    · exact h _ _ hp
    · rfl
  simp only [select, update, List.filter_map, Function.comp_def, hq]

theorem select_insert (t : Table α) (a : α) (q : ℕ → α → Bool) :
    (t.insert a).select q = t.select q ++ if q t.nextId a then [(t.nextId, a)] else [] := by
  simp only [select, insert, List.filter_append, List.filter_singleton, Bool.cond_eq_ite]

/-- Another column layout under the same keys. -/
def map {β : Type} (t : Table α) (f : ℕ → α → β) : Table β where
  rows := t.rows.map fun row => (row.1, f row.1 row.2)
  keyed := by
    rw [List.map_map]
    exact t.keyed

theorem get?_map {β : Type} (t : Table α) (f : ℕ → α → β) (id : ℕ) :
    (t.map f).get? id = (t.get? id).map (f id) := by
  ext b
  rw [← mem_iff_get?]
  simp only [map, List.mem_map, Prod.mk.injEq, Option.map_eq_some_iff]
  constructor
  · rintro ⟨row, hrow, rfl, rfl⟩
    exact ⟨row.2, mem_iff_get?.mp hrow, rfl⟩
  · rintro ⟨a, ha, rfl⟩
    exact ⟨(id, a), mem_iff_get?.mpr ha, rfl, rfl⟩

@[simp] theorem nextId_update (t : Table α) (p : ℕ → α → Bool) (f : ℕ → α → α) :
    (t.update p f).nextId = t.nextId := by
  simp only [nextId, update, List.map_map]
  rfl

end Table

end MediaSync.RowTables
