import Mathlib

/-!
# Serving the least recently served first

Every key carries the time of its last turn, or none. A turn serves a batch of
the keys that come first, older turns before newer ones and ties by the key,
and gives each of them a time later than any before. The keys ahead of a key
that still waits are the ones served, so it waits no longer than it takes to
serve them all.
-/
namespace MediaSync.Rotations

variable {κ τ : Type} [LinearOrder κ] [LinearOrder τ] {keys batch : Finset κ} {size : ℕ}
  {last last' last'' : κ → WithBot τ} {batches : List (Finset κ)} {k : κ}

/-- The place of a key in the order of service. -/
def place (last : κ → WithBot τ) (k : κ) : WithBot τ ×ₗ κ := toLex (last k, k)

structure Turn (keys : Finset κ) (size : ℕ) (last last' : κ → WithBot τ) (batch : Finset κ) :
    Prop where
  subset : batch ⊆ keys
  card : batch.card = min size keys.card
  first : ∀ a ∈ batch, ∀ k ∈ keys, k ∉ batch → place last a < place last k
  later : ∀ a ∈ batch, ∀ k ∈ keys, last k < last' a
  kept : ∀ k ∈ keys, k ∉ batch → last' k = last k

inductive Turns (keys : Finset κ) (size : ℕ) :
    (κ → WithBot τ) → List (Finset κ) → (κ → WithBot τ) → Prop
  | nil (last : κ → WithBot τ) : Turns keys size last [] last
  | cons {last last' last'' : κ → WithBot τ} {batch : Finset κ} {batches : List (Finset κ)} :
    Turn keys size last last' batch → Turns keys size last' batches last'' →
    Turns keys size last (batch :: batches) last''

/-- The keys that are served before `k`. -/
def ahead (keys : Finset κ) (last : κ → WithBot τ) (k : κ) : Finset κ :=
  keys.filter fun a => place last a < place last k

theorem place_lt_of_last {a : κ} (h : last a < last k) : place last a < place last k :=
  Prod.Lex.toLex_lt_toLex.mpr (.inl h)

theorem ahead_card_lt (hk : k ∈ keys) : (ahead keys last k).card < keys.card := by
  apply Finset.card_lt_card
  refine ⟨Finset.filter_subset _ _, fun hsubset => ?_⟩
  have hself := (Finset.mem_filter.mp (hsubset hk)).2
  exact absurd hself (lt_irrefl _)

/-- A key that is not served has a whole batch ahead of it. -/
theorem Turn.batch_ahead (h : Turn keys size last last' batch) (hk : k ∈ keys)
    (hwaits : k ∉ batch) :
    batch ⊆ ahead keys last k ∧ batch.card = size := by
  refine ⟨fun a ha => Finset.mem_filter.mpr ⟨h.subset ha, h.first a ha k hk hwaits⟩, ?_⟩
  have hlt : batch.card < keys.card :=
    Finset.card_lt_card ⟨h.subset, fun hsubset => hwaits (hsubset hk)⟩
  have hcard := h.card
  omega

/-- Afterwards the batch is behind it, and nothing else has passed it. -/
theorem Turn.ahead_sdiff (h : Turn keys size last last' batch) (hk : k ∈ keys)
    (hwaits : k ∉ batch) :
    ahead keys last' k = ahead keys last k \ batch := by
  have hkept := h.kept k hk hwaits
  ext a
  rw [Finset.mem_sdiff, ahead, ahead, Finset.mem_filter, Finset.mem_filter]
  by_cases ha : a ∈ batch
  · have hbehind : last' k < last' a := hkept ▸ h.later a ha k hk
    constructor
    · rintro ⟨-, hahead⟩
      exact absurd hahead (place_lt_of_last hbehind).asymm
    · rintro ⟨-, hnot⟩
      exact absurd ha hnot
  · constructor
    · rintro ⟨hmem, hahead⟩
      rw [place, place, h.kept a hmem ha, hkept] at hahead
      exact ⟨⟨hmem, hahead⟩, ha⟩
    · rintro ⟨⟨hmem, hahead⟩, -⟩
      refine ⟨hmem, ?_⟩
      rw [place, place, h.kept a hmem ha, hkept]
      exact hahead

theorem Turns.ahead_card (h : Turns keys size last batches last') (hk : k ∈ keys)
    (hwaits : ∀ batch ∈ batches, k ∉ batch) :
    (ahead keys last' k).card + size * batches.length = (ahead keys last k).card := by
  induction h with
  | nil last => simp
  | @cons last last' last'' batch batches hturn _ ih =>
    have hbatch := hwaits batch (List.mem_cons_self ..)
    obtain ⟨hsubset, hcard⟩ := hturn.batch_ahead hk hbatch
    have hrest := ih fun batch' hmem => hwaits batch' (List.mem_cons_of_mem _ hmem)
    rw [hturn.ahead_sdiff hk hbatch, Finset.card_sdiff_of_subset hsubset, hcard] at hrest
    have hle := hcard ▸ Finset.card_le_card hsubset
    rw [List.length_cons, Nat.mul_succ]
    omega

/-- Enough turns serve every key. -/
theorem Turns.serves (h : Turns keys size last batches last')
    (henough : keys.card ≤ size * batches.length) (hk : k ∈ keys) :
    ∃ batch ∈ batches, k ∈ batch := by
  by_contra hnone
  push Not at hnone
  have hcard := h.ahead_card hk hnone
  have hlt : (ahead keys last k).card < keys.card := ahead_card_lt hk
  omega

end MediaSync.Rotations
