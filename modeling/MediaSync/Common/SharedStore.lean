import MediaSync.Common.CalmRuns
import MediaSync.Common.Interleavings
import MediaSync.Common.TracedRuns

/-!
# A database with one writer

Sessions read and write a database statement by statement. A session that has
written holds the write lock and works on a draft of its own until it commits
or rolls back; nobody else writes meanwhile, and nobody sees the draft. A read
is not protected: what it saw may be gone with the next commit of another
session. Whatever is not in the database stands beside it.
-/
namespace MediaSync.SharedStore
open FaultPrograms Interleavings TracedRuns
open CalmRuns (Finishes)

variable {κ δ ω ε α : Type}

structure Shared (κ δ ω : Type) where
  committed : δ
  /-- The session that holds the write lock, and what it has written. -/
  draft : Option (κ × δ) := none
  outside : ω

namespace Shared
variable [DecidableEq κ]

/-- What session `k` reads. -/
def view (w : Shared κ δ ω) (k : κ) : δ :=
  match w.draft with
  | none => w.committed
  | some (j, d) => if j = k then d else w.committed

/-- Another session holds the write lock. -/
def locked (w : Shared κ δ ω) (k : κ) : Bool := w.draft.any fun d => d.1 ≠ k

def commit (w : Shared κ δ ω) (k : κ) : Shared κ δ ω :=
  match w.draft with
  | none => w
  | some (j, d) => if j = k then { w with committed := d, draft := none } else w

def rollback (w : Shared κ δ ω) (k : κ) : Shared κ δ ω :=
  match w.draft with
  | none => w
  | some (j, _) => if j = k then { w with draft := none } else w

def write (w : Shared κ δ ω) (k : κ) (d : δ) : Shared κ δ ω := { w with draft := some (k, d) }

/-- A whole transaction at once, when nobody holds the lock. -/
def transact (w : Shared κ δ ω) (f : δ → δ) : Shared κ δ ω :=
  match w.draft with
  | none => { w with committed := f w.committed }
  | some _ => w

section Lemmas
variable (w : Shared κ δ ω) (k : κ) (d : δ)

theorem view_write : (w.write k d).view k = d := by
  simp [view, write]

theorem view_of_unlocked {w : Shared κ δ ω} {k : κ} (h : w.draft = none) :
    w.view k = w.committed := by
  simp [view, h]

theorem view_of_unlocked_other {w : Shared κ δ ω} {k j : κ} (hlock : w.locked k = false)
    (hj : j ≠ k) : w.view j = w.committed := by
  unfold locked at hlock
  unfold view
  cases hdraft : w.draft with
  | none => rfl
  | some held =>
    rw [hdraft] at hlock
    have hheld : held.1 = k := by simpa using hlock
    simp [hheld, Ne.symm hj]

theorem view_write_other {k j : κ} (hj : j ≠ k) (w : Shared κ δ ω) (d : δ) :
    (w.write k d).view j = w.committed := by
  simp [view, write, Ne.symm hj]

theorem view_beside (w : Shared κ δ ω) (outside : ω) (j : κ) :
    ({ w with outside := outside } : Shared κ δ ω).view j = w.view j := rfl

theorem view_of_draft {w : Shared κ δ ω} {k j : κ} {d : δ} (hdraft : w.draft = some (k, d))
    (hj : j ≠ k) : w.view j = w.committed := by
  simp [view, hdraft, Ne.symm hj]

@[simp] theorem commit_outside : (w.commit k).outside = w.outside := by
  unfold commit
  split
  · rfl
  · split <;> rfl

@[simp] theorem rollback_outside : (w.rollback k).outside = w.outside := by
  unfold rollback
  split
  · rfl
  · split <;> rfl

@[simp] theorem rollback_committed : (w.rollback k).committed = w.committed := by
  unfold rollback
  split
  · rfl
  · split <;> rfl

theorem commit_beside : { w.commit k with outside := w.outside } = w.commit k :=
  congrArg (fun outside => { w.commit k with outside := outside }) (w.commit_outside k).symm

theorem rollback_beside : { w.rollback k with outside := w.outside } = w.rollback k :=
  congrArg (fun outside => { w.rollback k with outside := outside }) (w.rollback_outside k).symm

/-- Committing publishes what the session saw. -/
theorem commit_cases : w.commit k = w ∨
    (w.draft = some (k, w.view k) ∧
      w.commit k = { w with committed := w.view k, draft := none }) := by
  cases hdraft : w.draft with
  | none =>
    left
    unfold commit
    rw [hdraft]
  | some held =>
    obtain ⟨j, d⟩ := held
    by_cases hj : j = k
    · right
      subst hj
      simp [commit, view, hdraft]
    · left
      simp [commit, hdraft, hj]

theorem rollback_cases : w.rollback k = w ∨
    ((∃ d, w.draft = some (k, d)) ∧ w.rollback k = { w with draft := none }) := by
  cases hdraft : w.draft with
  | none =>
    left
    unfold rollback
    rw [hdraft]
  | some held =>
    obtain ⟨j, d⟩ := held
    by_cases hj : j = k
    · right
      subst hj
      exact ⟨⟨d, rfl⟩, by simp [rollback, hdraft]⟩
    · left
      simp [rollback, hdraft, hj]

omit [DecidableEq κ] in
theorem transact_cases (f : δ → δ) : w.transact f = w ∨
    (w.draft = none ∧ w.transact f = { w with committed := f w.committed }) := by
  unfold transact
  cases hdraft : w.draft with
  | none => exact .inr ⟨rfl, rfl⟩
  | some held => exact .inl rfl

end Lemmas

end Shared

/-! ## Statements -/

section Statements
variable [DecidableEq κ] (k : κ) (failure : ε)

/-- A statement that reads; `note` is what stands beside the database then. -/
def query (view : ω → δ → Except ε α) (note : α → ω → ω) : Prog (Shared κ δ ω) ε α :=
  Prog.effect failure fun w =>
    match view w.outside (w.view k) with
    | .error e => (.error e, w)
    | .ok a => (.ok a, { w with outside := note a w.outside })

/-- A statement that writes waits for the lock; one that was given up waiting
raises. -/
def statement (act : ω → δ → Except ε (α × δ)) (note : α → ω → ω) : Prog (Shared κ δ ω) ε α :=
  Prog.effect failure fun w =>
    if w.locked k then (.error failure, w)
    else match act w.outside (w.view k) with
    | .error e => (.error e, w)
    | .ok (a, d) => (.ok a, { w.write k d with outside := note a w.outside })

def commit (note : ω → ω) : Prog (Shared κ δ ω) ε Unit :=
  Prog.change failure fun w => { w.commit k with outside := note w.outside }

def rollback (note : ω → ω) : Prog (Shared κ δ ω) ε Unit :=
  Prog.change failure fun w => { w.rollback k with outside := note w.outside }

/-- A session: what it does is committed, unless it raises. -/
def session (note : ω → ω) (p : Prog (Shared κ δ ω) ε α) : Prog (Shared κ δ ω) ε α :=
  tryCatch (do
    let a ← p
    commit k failure note
    pure a) fun e => do
      rollback k failure note
      throw e

end Statements

section Rules
variable [DecidableEq κ] {k : κ} {failure : ε} {R G : Shared κ δ ω → Shared κ δ ω → Prop}
  {A : Shared κ δ ω → Prop}

/-- What a query answers is what it saw. -/
theorem query_from {Q : Except ε α → Shared κ δ ω → Prop} {view : ω → δ → Except ε α}
    (hA : Stable R A) (hG : ∀ w, G w w)
    (hview : ∀ w w', A w → R w w' → Q (view w.outside (w.view k)) w')
    (hlost : ∀ w, A w → Q (.error failure) w) :
    From R G A (query k failure view fun _ => id) Q := by
  refine From.effect hA (fun w _ => ?_) (fun w w' hw hr => ?_) hlost fun w w' hw hr => ?_
  · cases view w.outside (w.view k) <;> exact hG w
  · have hview' := hview w w'
    cases hanswer : view w.outside (w.view k) with
    | error e =>
      dsimp only at hr ⊢
      rw [hanswer] at hr hview'
      exact hview' hw hr
    | ok a =>
      dsimp only at hr ⊢
      rw [hanswer] at hr hview'
      exact hview' hw hr
  · cases hanswer : view w.outside (w.view k) with
    | error e =>
      dsimp only at hr
      rw [hanswer] at hr
      exact hlost w' (hA w w' hr hw)
    | ok a =>
      dsimp only at hr
      rw [hanswer] at hr
      exact hlost w' (hA w w' hr hw)

theorem query_safe (hA : Stable R A) (hG : ∀ w, G w w) (view : ω → δ → Except ε α) :
    Safe R G A (query k failure view fun _ => id) :=
  query_from hA hG (fun _ _ _ _ => trivial) fun _ _ => trivial

/-- A session is safe if what it does, its commit and its rollback are. -/
theorem session_safe {note : ω → ω} {p : Prog (Shared κ δ ω) ε α} (hR : Reliable R)
    (hcommit : ∀ w, G w { w.commit k with outside := note w.outside })
    (hrollback : ∀ w, G w { w.rollback k with outside := note w.outside })
    (hp : Safe R G (fun _ => True) p) : Safe R G (fun _ => True) (session k failure note p) := by
  refine From.handle (S := fun _ _ => True) hR ?_ fun e => ?_
  · have hbody : Safe R G (fun _ => True) (do
        let a ← p
        commit k failure note
        pure a : Prog (Shared κ δ ω) ε α) :=
      hp.bind hR fun a => Safe.bind hR (Safe.effect stable_true fun w _ => hcommit w) fun _ =>
        Safe.pure a
    refine hbody.weaken (fun _ h => h) fun r _ _ => ?_
    cases r <;> trivial
  · exact Safe.bind hR (Safe.effect stable_true fun w _ => hrollback w) fun _ => Safe.throw e

end Rules

/-! ## Promises -/

section Promises
variable [DecidableEq κ] {ι : Type} [Surroundings (Shared κ δ ω) ι] {k : κ} {failure : ε}
  {w : Shared κ δ ω} {A : Shared κ δ ω → Prop}
  {V : α → Shared κ δ ω → List (Shared κ δ ω × Shared κ δ ω) → Prop}
  {E : ε → Shared κ δ ω → List (Shared κ δ ω × Shared κ δ ω) → Prop} {C : Shared κ δ ω → Prop}

/-- A query between statements of others. -/
theorem query_traced {view : ω → δ → Except ε α} {note : α → ω → ω}
    (hmove : ∀ (i : ι) w, A w → A (Surroundings.move i w)) (hw : A w)
    (hnote : ∀ w a, A w → A { w with outside := note a w.outside })
    (hcrash : ∀ w, A w → C w) (hlost : ∀ w steps, A w → E failure w steps)
    (hview : ∀ w, A w → match view w.outside (w.view k) with
      | .ok a => V a { w with outside := note a w.outside }
          [(w, { w with outside := note a w.outside })]
      | .error e => E e w [(w, w)]) :
    Traced ι (query k failure view note) (promised V E C) w := by
  refine Traced.stable_effect hmove hw hcrash (fun w hA => ?_) fun w hA => ?_
  · refine ⟨hlost w _ hA, ?_⟩
    cases view w.outside (w.view k) with
    | error e => exact hlost w _ hA
    | ok a => exact hlost _ _ (hnote w a hA)
  · have hanswer := hview w hA
    cases hview : view w.outside (w.view k) with
    | error e =>
      rw [hview] at hanswer
      exact hanswer
    | ok a =>
      rw [hview] at hanswer
      exact hanswer

/-- A statement of a session that nobody keeps from the lock, and that the
database does not refuse. -/
theorem statement_traced {act : ω → δ → Except ε (α × δ)} {note : α → ω → ω}
    (hmove : ∀ (i : ι) w, A w → A (Surroundings.move i w)) (hw : A w)
    (hlock : ∀ w, A w → w.locked k = false)
    (hcrash : ∀ w, A w → C w) (hlost : ∀ w steps, A w → E failure w steps)
    (hact : ∀ w, A w → ∃ a d, act w.outside (w.view k) = .ok (a, d) ∧
      V a { w.write k d with outside := note a w.outside }
        [(w, { w.write k d with outside := note a w.outside })] ∧
      ∀ steps, E failure { w.write k d with outside := note a w.outside } steps) :
    Traced ι (statement k failure act note) (promised V E C) w := by
  have hdone (w : Shared κ δ ω) (hA : A w) : ∃ a d,
      V a { w.write k d with outside := note a w.outside }
        [(w, { w.write k d with outside := note a w.outside })] ∧
      (∀ steps, E failure { w.write k d with outside := note a w.outside } steps) ∧
      (if w.locked k then ((.error failure, w) : Except ε α × Shared κ δ ω)
        else match act w.outside (w.view k) with
        | .error e => (.error e, w)
        | .ok (a, d) => (.ok a, { w.write k d with outside := note a w.outside })) =
      (.ok a, { w.write k d with outside := note a w.outside }) := by
    obtain ⟨a, d, hanswer, hvalue, hraised⟩ := hact w hA
    refine ⟨a, d, hvalue, hraised, ?_⟩
    rw [hlock w hA, if_neg Bool.false_ne_true, hanswer]
  refine Traced.stable_effect hmove hw hcrash (fun w hA => ?_) fun w hA => ?_
  · obtain ⟨a, d, -, hraised, heq⟩ := hdone w hA
    rw [heq]
    exact ⟨hlost w _ hA, hraised _⟩
  · obtain ⟨a, d, hvalue, -, heq⟩ := hdone w hA
    rw [heq]
    exact hvalue

end Promises

/-! ## Without faults -/

section Unhindered
variable [DecidableEq κ] {k : κ} {failure : ε} {w : Shared κ δ ω}

/-- The session has the write lock, or nobody has. -/
def Owned (k : κ) (w : Shared κ δ ω) : Prop := ∀ j d, w.draft = some (j, d) → j = k

theorem Owned.unlocked (h : Owned k w) : w.locked k = false := by
  unfold Shared.locked
  cases hdraft : w.draft with
  | none => rfl
  | some held => simp [h held.1 held.2 hdraft]

theorem Owned.commit (h : Owned k w) : Owned k (w.commit k) := by
  rcases w.commit_cases k with hsame | ⟨-, hcommitted⟩
  · rw [hsame]
    exact h
  · rw [hcommitted]
    rintro _ _ ⟨⟩

theorem Owned.rollback (h : Owned k w) : Owned k (w.rollback k) := by
  rcases w.rollback_cases k with hsame | ⟨-, hdropped⟩
  · rw [hsame]
    exact h
  · rw [hdropped]
    rintro _ _ ⟨⟩

/-- Without faults, and while nobody else takes the lock, the program does not
fail by what its statements raise when they are given up. -/
def Unhindered (ι : Type) [Surroundings (Shared κ δ ω) ι] (k : κ) (failure : ε)
    (p : Prog (Shared κ δ ω) ε α) (w : Shared κ δ ω) : Prop :=
  Finishes True ι p (fun _ => Owned k) (fun e w => Owned k w ∧ e ≠ failure) w

variable {ι : Type} [Surroundings (Shared κ δ ω) ι]
  (hmove : ∀ (i : ι) (w : Shared κ δ ω), Owned k w → Owned k (Surroundings.move i w))
include hmove

omit [DecidableEq κ] in
theorem effect_unhindered {act : Shared κ δ ω → Except ε α × Shared κ δ ω}
    (h : Owned k w)
    (hact : ∀ w, Owned k w → Owned k (act w).2 ∧ ∀ e, (act w).1 = .error e → e ≠ failure) :
    Unhindered ι k failure (Prog.effect failure act) w := by
  refine Finishes.effect (fun hfault => absurd trivial hfault) fun w' hmoved => ?_
  obtain ⟨howned, herror⟩ := hact w' (hmoved.preserves hmove h)
  cases hanswer : (act w').1 with
  | ok a => exact howned
  | error e => exact ⟨howned, herror e hanswer⟩

theorem query_unhindered {view : ω → δ → Except ε α} {note : α → ω → ω}
    (h : Owned k w)
    (hview : ∀ beside db e, view beside db = .error e → e ≠ failure) :
    Unhindered ι k failure (query k failure view note) w := by
  refine effect_unhindered hmove h fun w h => ?_
  have hview := hview w.outside (w.view k)
  cases hanswer : view w.outside (w.view k) with
  | ok a => exact ⟨h, fun e he => by cases he⟩
  | error e =>
    rw [hanswer] at hview
    exact ⟨h, hview⟩

theorem statement_unhindered {act : ω → δ → Except ε (α × δ)} {note : α → ω → ω}
    (h : Owned k w)
    (hact : ∀ beside db e, act beside db = .error e → e ≠ failure) :
    Unhindered ι k failure (statement k failure act note) w := by
  refine effect_unhindered hmove h fun w h => ?_
  have hact := hact w.outside (w.view k)
  rw [h.unlocked, if_neg Bool.false_ne_true]
  cases hanswer : act w.outside (w.view k) with
  | ok answer =>
    refine ⟨?_, fun e he => by cases he⟩
    rintro j d ⟨⟩
    rfl
  | error e =>
    rw [hanswer] at hact
    exact ⟨h, fun e' he => hact e' (by cases he; rfl)⟩

/-- Neither the commit nor the rollback of a session is given up. -/
theorem session_unhindered {note : ω → ω} {p : Prog (Shared κ δ ω) ε α}
    (hp : Unhindered ι k failure p w) :
    Unhindered ι k failure (session k failure note p) w := by
  unfold session
  refine Finishes.handle (Finishes.bind hp fun a w' h => ?_) fun e w' h => ?_
  · exact Finishes.bind (effect_unhindered hmove h fun w h => ⟨h.commit, fun e he => by cases he⟩)
      fun _ w' h => Finishes.pure h
  · exact Finishes.bind
      (effect_unhindered hmove h.1 fun w h => ⟨h.rollback, fun e he => by cases he⟩)
      fun _ w' hrolled => Finishes.throw ⟨hrolled, h.2⟩

end Unhindered

/-! ## Runs that return -/

section Returned
variable [DecidableEq κ] {ι : Type} [Surroundings (Shared κ δ ω) ι] {k : κ} {failure : ε}
  {w w' : Shared κ δ ω} {a : α}

theorem query_returns {view : ω → δ → Except ε α}
    (h : Returns ι (query k failure view fun _ => id) w a w') :
    ∃ w₁, Moved ι w w₁ ∧ view w₁.outside (w₁.view k) = .ok a ∧ w' = w₁ := by
  obtain ⟨w₁, hmoved, hact⟩ := h.effect
  refine ⟨w₁, hmoved, ?_⟩
  split at hact
  next => cases hact
  next heq =>
    cases hact
    exact ⟨heq, rfl⟩

theorem statement_returns {act : ω → δ → Except ε (α × δ)}
    (h : Returns ι (statement k failure act fun _ => id) w a w') :
    ∃ w₁ d, Moved ι w w₁ ∧ w₁.locked k = false ∧ act w₁.outside (w₁.view k) = .ok (a, d) ∧
      w' = w₁.write k d := by
  obtain ⟨w₁, hmoved, hact⟩ := h.effect
  cases hlock : w₁.locked k with
  | true =>
    rw [hlock] at hact
    cases hact
  | false =>
    rw [hlock, if_neg Bool.false_ne_true] at hact
    split at hact
    next => cases hact
    next b d heq =>
      cases hact
      exact ⟨w₁, d, hmoved, hlock, heq, rfl⟩

/-- A session that returned has committed. -/
theorem session_returns {p : Prog (Shared κ δ ω) ε α}
    (h : Returns ι (session k failure id p) w a w') :
    ∃ w₁ w₂, Returns ι p w a w₁ ∧ Moved ι w₁ w₂ ∧ w' = w₂.commit k := by
  rcases h.handle with h | ⟨e, w₁, h⟩
  · obtain ⟨b, w₁, hp, hcommit⟩ := h.bind
    obtain ⟨_, w₂, hchange, hpure⟩ := hcommit.bind
    obtain ⟨rfl, rfl⟩ := hpure.pure
    obtain ⟨w₃, hmoved, hact⟩ := hchange.effect
    obtain ⟨-, rfl⟩ := Prod.mk.inj hact
    exact ⟨w₁, w₃, hp, hmoved, w₃.commit_beside k⟩
  · obtain ⟨_, w₂, -, hthrow⟩ := h.bind
    exact hthrow.throw.elim

end Returned

end MediaSync.SharedStore
