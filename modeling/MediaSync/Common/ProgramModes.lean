import MediaSync.Common.Interleavings

/-!
# Programs that go through modes

What a program may do next often depends on what it has done: an effect is
allowed in one mode and takes the program into another. `Follows` says that a
program keeps to such a protocol, whatever state its effects find and however
they are answered.

A pool of programs that keep to their protocols is simulated by a machine that
knows the state and one mode for each process. An invariant of the machine is
one of the pool, also under conditions on what happens.
-/
namespace MediaSync.ProgramModes
open FaultPrograms Interleavings

variable {κ β ι σ ε α γ S : Type}

/-! ## One program -/

/-- Every effect is allowed in the mode in which it is performed, and the answer
satisfies `Q` in the mode that is reached. An effect that is lost changes
nothing, one that is late is performed and raises. -/
def Follows (allowed : S → σ → σ → S → Prop) (Q : Except ε α → S → Prop) : Prog σ ε α → S → Prop
  | .ret a, s => Q (.ok a) s
  | .raise e, s => Q (.error e) s
  | .eff next cont failed, s => Follows allowed Q failed s ∧ ∀ w,
      (∃ s', allowed s w (next w) s' ∧ Follows allowed Q (cont w) s') ∧
      ∃ s', allowed s w (next w) s' ∧ Follows allowed Q failed s'

namespace Follows
variable {allowed : S → σ → σ → S → Prop} {Q : Except ε α → S → Prop} {p : Prog σ ε α} {s : S}

theorem pure {a : α} (h : Q (.ok a) s) :
    Follows allowed Q (Pure.pure a : Prog σ ε α) s := h

theorem throw {e : ε} (h : Q (.error e) s) :
    Follows allowed Q (MonadExceptOf.throw e : Prog σ ε α) s := h

theorem ofExcept {r : Except ε α} (h : Q r s) : Follows allowed Q (Prog.ofExcept r) s := by
  cases r <;> exact h

theorem bind {P : Except ε γ → S → Prop} {q : Prog σ ε γ} {f : γ → Prog σ ε α}
    (hq : Follows allowed P q s) (hf : ∀ c s, P (.ok c) s → Follows allowed Q (f c) s)
    (he : ∀ e s, P (.error e) s → Q (.error e) s) : Follows allowed Q (q >>= f) s := by
  change Follows allowed Q (Prog.bind q f) s
  induction q generalizing s with
  | ret c => exact hf c s hq
  | raise e => exact he e s hq
  | eff next cont failed ihc ihf =>
    obtain ⟨hlost, hnext⟩ := hq
    constructor
    · exact ihf hlost
    · intro w
      obtain ⟨⟨s₁, hallowed₁, hcont⟩, s₂, hallowed₂, hlate⟩ := hnext w
      exact ⟨⟨s₁, hallowed₁, ihc w hcont⟩, s₂, hallowed₂, ihf hlate⟩

theorem handle {P : Except ε α → S → Prop} {h : ε → Prog σ ε α} (hp : Follows allowed P p s)
    (hok : ∀ a s, P (.ok a) s → Q (.ok a) s)
    (hh : ∀ e s, P (.error e) s → Follows allowed Q (h e) s) :
    Follows allowed Q (tryCatch p h) s := by
  change Follows allowed Q (Prog.handle p h) s
  induction p generalizing s with
  | ret a => exact hok a s hp
  | raise e => exact hh e s hp
  | eff next cont failed ihc ihf =>
    obtain ⟨hlost, hnext⟩ := hp
    constructor
    · exact ihf hlost
    · intro w
      obtain ⟨⟨s₁, hallowed₁, hcont⟩, s₂, hallowed₂, hlate⟩ := hnext w
      exact ⟨⟨s₁, hallowed₁, ihc w hcont⟩, s₂, hallowed₂, ihf hlate⟩

theorem attempt {ε' : Type} {Q : Except ε' (Except ε α) → S → Prop}
    (hp : Follows allowed (fun r => Q (.ok r)) p s) :
    Follows allowed Q (Prog.attempt p : Prog σ ε' (Except ε α)) s := by
  induction p generalizing s with
  | ret a => exact hp
  | raise e => exact hp
  | eff next cont failed ihc ihf =>
    obtain ⟨hlost, hnext⟩ := hp
    constructor
    · exact ihf hlost
    · intro w
      obtain ⟨⟨s₁, hallowed₁, hcont⟩, s₂, hallowed₂, hlate⟩ := hnext w
      exact ⟨⟨s₁, hallowed₁, ihc w hcont⟩, s₂, hallowed₂, ihf hlate⟩

theorem effect {failure : ε} {act : σ → Except ε α × σ} (hlost : Q (.error failure) s)
    (hact : ∀ w, ∃ s', allowed s w (act w).2 s' ∧ Q (act w).1 s')
    (hlate : ∀ w, ∃ s', allowed s w (act w).2 s' ∧ Q (.error failure) s') :
    Follows allowed Q (Prog.effect failure act) s := by
  constructor
  · exact hlost
  · intro w
    obtain ⟨s₁, hallowed₁, hanswer⟩ := hact w
    obtain ⟨s₂, hallowed₂, hraised⟩ := hlate w
    exact ⟨⟨s₁, hallowed₁, ofExcept hanswer⟩, s₂, hallowed₂, hraised⟩

/-- A program whose effects are all allowed in one mode stays in it. -/
theorem within {R : σ → σ → Prop} (hp : Within R p) (hallowed : ∀ w w', R w w' → allowed s w w' s)
    (hQ : ∀ r, Q r s) : Follows allowed Q p s := by
  induction p with
  | ret a => exact hQ _
  | raise e => exact hQ _
  | eff next cont failed ihc ihf =>
    obtain ⟨hnext, hcont, hfailed⟩ := hp
    constructor
    · exact ihf hfailed
    · intro w
      exact ⟨⟨s, hallowed _ _ (hnext w), ihc w (hcont w)⟩, s, hallowed _ _ (hnext w), ihf hfailed⟩

/-- A part that stays in the mode, and the rest. -/
theorem after {R : σ → σ → Prop} {q : Prog σ ε γ} {f : γ → Prog σ ε α} (hq : Within R q)
    (hallowed : ∀ w w', R w w' → allowed s w w' s) (hf : ∀ c, Follows allowed Q (f c) s)
    (he : ∀ e, Q (.error e) s) : Follows allowed Q (q >>= f) s := by
  refine bind (within (Q := fun _ s' => s' = s) hq hallowed fun _ => rfl) ?_ ?_
  · rintro c s' rfl
    exact hf c
  · rintro e s' rfl
    exact he e

/-- A protocol whose modes are modes of another one. -/
theorem image {S' : Type} {allowed' : S' → σ → σ → S' → Prop} (f : S → S')
    (h : Follows allowed (fun _ _ => True) p s)
    (hallowed : ∀ s w w' s', allowed s w w' s' → allowed' (f s) w w' (f s')) :
    Follows allowed' (fun _ _ => True) p (f s) := by
  induction p generalizing s with
  | ret a => trivial
  | raise e => trivial
  | eff next cont failed ihc ihf =>
    obtain ⟨hlost, hnext⟩ := h
    constructor
    · exact ihf hlost
    · intro w
      obtain ⟨⟨s₁, hallowed₁, hcont⟩, s₂, hallowed₂, hlate⟩ := hnext w
      exact ⟨⟨f s₁, hallowed _ _ _ _ hallowed₁, ihc w hcont⟩,
        f s₂, hallowed _ _ _ _ hallowed₂, ihf hlate⟩

/-- Where no effect depends on the mode, all of them are of one kind. -/
theorem toWithin {R : σ → σ → Prop} (h : Follows (fun _ w w' _ => R w w') Q p s) :
    Within R p := by
  induction p generalizing s with
  | ret a => trivial
  | raise e => trivial
  | eff next cont failed ihc ihf =>
    obtain ⟨hlost, hnext⟩ := h
    refine ⟨fun w => ?_, fun w => ?_, ihf hlost⟩
    · obtain ⟨⟨s', hstep, -⟩, -⟩ := hnext w
      exact hstep
    · obtain ⟨⟨s', -, hcont⟩, -⟩ := hnext w
      exact ihc w hcont

end Follows

/-! ## A pool -/

section Pools
variable [DecidableEq κ]

/-- What may happen to the state and to the modes at once. -/
inductive Turn (sys : System κ β ι σ ε α) (allowed : κ → S → σ → σ → S → Prop) (w : σ)
    (mode : κ → S) : Happening κ β ι → σ → (κ → S) → Prop
  | rest (happening : Happening κ β ι) : Turn sys allowed w mode happening w mode
  | act (k : κ) (w' : σ) (s : S) (step : allowed k (mode k) w w' s) :
      Turn sys allowed w mode (.act k) w' (Function.update mode k s)
  | late (k : κ) (w' : σ) (s : S) (step : allowed k (mode k) w w' s) :
      Turn sys allowed w mode (.fault k true) w' (Function.update mode k s)
  | stop (k : κ) : Turn sys allowed w mode (.stop k) (sys.abandon k w) mode
  | move (i : ι) : Turn sys allowed w mode (.move i) (sys.move i w) mode

/-- Every running process keeps to its protocol from its mode on. -/
structure Tracked (allowed : κ → S → σ → σ → S → Prop) (start : κ → S) (pool : Pool κ σ ε α)
    (mode : κ → S) : Prop where
  follows (k : κ) (p : Prog σ ε α) : pool.process k = .running p →
    Follows (allowed k) (fun _ _ => True) p (mode k)
  fresh (k : κ) : pool.process k = .absent → mode k = start k

namespace Tracked
variable {sys : System κ β ι σ ε α} {allowed : κ → S → σ → σ → S → Prop} {start : κ → S}
  {pool : Pool κ σ ε α} {mode : κ → S}

omit [DecidableEq κ] in
theorem initial (allowed : κ → S → σ → σ → S → Prop) (start : κ → S) (w : σ) :
    Tracked allowed start (Pool.initial w : Pool κ σ ε α) start where
  follows k p hp := by cases hp
  fresh k _ := rfl

/-- One process goes on, in a mode of its own. -/
theorem set (h : Tracked allowed start pool mode) (k : κ) (process : Process σ ε α) (s : S) (w : σ)
    (hprocess : ∀ p, process = .running p → Follows (allowed k) (fun _ _ => True) p s)
    (hpresent : process ≠ .absent) :
    Tracked allowed start (pool.set k process w) (Function.update mode k s) where
  follows j p hp := by
    by_cases hj : j = k
    · subst hj
      rw [Pool.set_same] at hp
      rw [Function.update_self]
      exact hprocess p hp
    · rw [Pool.set_other pool hj] at hp
      rw [Function.update_of_ne hj]
      exact h.follows j p hp
  fresh j hj := by
    by_cases hjk : j = k
    · subst hjk
      rw [Pool.set_same] at hj
      exact absurd hj hpresent
    · rw [Pool.set_other pool hjk] at hj
      rw [Function.update_of_ne hjk]
      exact h.fresh j hj

theorem step (hprogram : ∀ k job,
    Follows (allowed k) (fun _ _ => True) (sys.program k job) (start k))
    (h : Tracked allowed start pool mode) (happening : Happening κ β ι) :
    ∃ mode', Turn sys allowed pool.state mode happening (pool.step sys happening).state mode' ∧
      Tracked allowed start (pool.step sys happening) mode' := by
  cases happening with
  | start k job =>
    unfold Pool.step
    dsimp only
    split
    · rename_i habsent
      have hset := h.set k (.running (sys.program k job)) (mode k) pool.state
        (fun p hp => by cases hp; rw [h.fresh k habsent]; exact hprogram k job) (by simp)
      rw [Function.update_eq_self] at hset
      exact ⟨mode, .rest _, hset⟩
    · exact ⟨mode, .rest _, h⟩
  | act k =>
    unfold Pool.step
    dsimp only
    split
    · rename_i next cont failed hpending
      obtain ⟨-, hnext⟩ := h.follows k _ (Protocol.pending_some hpending)
      obtain ⟨⟨s, hallowed, hcont⟩, -⟩ := hnext pool.state
      exact ⟨Function.update mode k s, .act k _ s hallowed,
        h.set k _ s _ (fun p hp => by cases hp; exact hcont) (by simp)⟩
    · exact ⟨mode, .rest _, h⟩
  | fault k late =>
    unfold Pool.step
    dsimp only
    split
    · rename_i next cont failed hpending
      obtain ⟨hlost, hnext⟩ := h.follows k _ (Protocol.pending_some hpending)
      cases late with
      | false =>
        have hset := h.set k (.running failed) (mode k) pool.state
          (fun p hp => by cases hp; exact hlost) (by simp)
        rw [Function.update_eq_self] at hset
        exact ⟨mode, .rest _, hset⟩
      | true =>
        obtain ⟨-, s, hallowed, hlate⟩ := hnext pool.state
        exact ⟨Function.update mode k s, .late k _ s hallowed,
          h.set k _ s _ (fun p hp => by cases hp; exact hlate) (by simp)⟩
    · exact ⟨mode, .rest _, h⟩
  | stop k =>
    have hset := h.set k .stopped (mode k) (sys.abandon k pool.state)
      (fun p hp => by cases hp) (by simp)
    rw [Function.update_eq_self] at hset
    exact ⟨mode, .stop k, hset⟩
  | move i => exact ⟨mode, .move i, h.follows, h.fresh⟩

/-- An invariant of the machine holds along every run of the pool that meets the
condition. -/
theorem run (hprogram : ∀ k job,
    Follows (allowed k) (fun _ _ => True) (sys.program k job) (start k))
    {C : σ → Happening κ β ι → σ → Prop} {J : σ → (κ → S) → Prop}
    (hturn : ∀ w mode happening w' mode', J w mode → C w happening w' →
      Turn sys allowed w mode happening w' mode' → J w' mode')
    (happenings : List (Happening κ β ι)) (h : Tracked allowed start pool mode)
    (hJ : J pool.state mode)
    (hC : Pool.Along sys (fun pool happening =>
      C pool.state happening (pool.step sys happening).state) happenings pool) :
    ∃ mode, J (pool.run sys happenings).state mode ∧
      Tracked allowed start (pool.run sys happenings) mode := by
  apply Pool.run_invariant sys
    (C := fun pool happening => C pool.state happening (pool.step sys happening).state)
    (J := fun pool => ∃ mode, J pool.state mode ∧ Tracked allowed start pool mode)
  · rintro pool happening ⟨mode, hmode, htracked⟩ hcondition
    obtain ⟨mode', hstep, htracked'⟩ := htracked.step hprogram happening
    exact ⟨mode', hturn _ _ _ _ _ hmode hcondition hstep, htracked'⟩
  · exact ⟨mode, hJ, h⟩
  · exact hC

end Tracked

end Pools

end MediaSync.ProgramModes
