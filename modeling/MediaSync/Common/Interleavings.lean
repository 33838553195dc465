import MediaSync.Common.FaultPrograms

/-!
# Programs that share a state

Processes run programs on one state, effect by effect and in any order. A
process may stop for good between two effects, an effect may raise with or
without having happened, and the surroundings may move the state themselves.

`Sound` is what is left of a program that may rely on what the others do: from
here on, whatever they do in between, each of its effects is one that it
guarantees. One process's guarantees are what the others rely on, so soundness
of all processes survives every happening, and so does an invariant that every
guarantee keeps.
-/
namespace MediaSync.Interleavings
open FaultPrograms

variable {κ β ι σ ε α γ : Type}

/-! ## Pools of processes -/

inductive Process (σ ε α : Type) where
  | absent
  | running (p : Prog σ ε α)
  | stopped

structure Pool (κ σ ε α : Type) where
  state : σ
  process : κ → Process σ ε α

/-- What happens next. -/
inductive Happening (κ β ι : Type) where
  | start (k : κ) (job : β)
  | act (k : κ)
  /-- The effect raises, and it happened all the same if `late`. -/
  | fault (k : κ) (late : Bool)
  | stop (k : κ)
  | move (i : ι)
  deriving DecidableEq, Repr

/-- Who can be started to do what, what the surroundings can do, and what
becomes of the state when a process stops. -/
structure System (κ β ι σ ε α : Type) where
  program : κ → β → Prog σ ε α
  move : ι → σ → σ
  abandon : κ → σ → σ

/-- The effect a program is about to perform. -/
def pending : Process σ ε α → Option ((σ → σ) × (σ → Prog σ ε α) × Prog σ ε α)
  | .running (.eff next cont failed) => some (next, cont, failed)
  | _ => none

namespace Pool
variable [DecidableEq κ]

def set (pool : Pool κ σ ε α) (k : κ) (process : Process σ ε α) (state : σ) : Pool κ σ ε α where
  state := state
  process j := if j = k then process else pool.process j

theorem set_state (pool : Pool κ σ ε α) (k : κ) (process : Process σ ε α) (state : σ) :
    (pool.set k process state).state = state := rfl

theorem set_same (pool : Pool κ σ ε α) (k : κ) (process : Process σ ε α) (state : σ) :
    (pool.set k process state).process k = process := if_pos rfl

theorem set_other (pool : Pool κ σ ε α) {k j : κ} (h : j ≠ k) (process : Process σ ε α)
    (state : σ) : (pool.set k process state).process j = pool.process j := if_neg h

/-- What is not possible does not happen: a process is started once, and only a
live one acts. -/
def step (sys : System κ β ι σ ε α) (pool : Pool κ σ ε α) : Happening κ β ι → Pool κ σ ε α
  | .start k job =>
    match pool.process k with
    | .absent => pool.set k (.running (sys.program k job)) pool.state
    | _ => pool
  | .act k =>
    match pending (pool.process k) with
    | some (next, cont, _) => pool.set k (.running (cont pool.state)) (next pool.state)
    | none => pool
  | .fault k late =>
    match pending (pool.process k) with
    | some (next, _, failed) =>
      pool.set k (.running failed) (if late then next pool.state else pool.state)
    | none => pool
  | .stop k => pool.set k .stopped (sys.abandon k pool.state)
  | .move i => { pool with state := sys.move i pool.state }

def run (sys : System κ β ι σ ε α) (pool : Pool κ σ ε α) (happenings : List (Happening κ β ι)) :
    Pool κ σ ε α := happenings.foldl (step sys) pool

/-- A condition that is met whenever something happens. -/
def Along (sys : System κ β ι σ ε α) (C : Pool κ σ ε α → Happening κ β ι → Prop) :
    List (Happening κ β ι) → Pool κ σ ε α → Prop
  | [], _ => True
  | happening :: rest, pool => C pool happening ∧ Along sys C rest (pool.step sys happening)

theorem along_true (sys : System κ β ι σ ε α) (happenings : List (Happening κ β ι))
    (pool : Pool κ σ ε α) : Along sys (fun _ _ => True) happenings pool := by
  induction happenings generalizing pool with
  | nil => trivial
  | cons happening rest ih => exact ⟨trivial, ih _⟩

/-- A condition on the happenings alone. -/
theorem along_of_forall (sys : System κ β ι σ ε α) {C : Happening κ β ι → Prop}
    {happenings : List (Happening κ β ι)} (h : ∀ happening ∈ happenings, C happening)
    (pool : Pool κ σ ε α) : Along sys (fun _ => C) happenings pool := by
  induction happenings generalizing pool with
  | nil => trivial
  | cons happening rest ih =>
    rw [List.forall_mem_cons] at h
    exact ⟨h.1, ih h.2 _⟩

/-- An invariant of single happenings holds of every run. -/
theorem run_invariant (sys : System κ β ι σ ε α) {C : Pool κ σ ε α → Happening κ β ι → Prop}
    {J : Pool κ σ ε α → Prop} (hstep : ∀ pool happening, J pool → C pool happening →
      J (pool.step sys happening)) (happenings : List (Happening κ β ι)) {pool : Pool κ σ ε α}
    (h : J pool) (hC : Along sys C happenings pool) : J (pool.run sys happenings) := by
  induction happenings generalizing pool with
  | nil => exact h
  | cons happening rest ih => exact ih (hstep pool happening h hC.1) hC.2

/-- Nobody has been started. -/
def initial (state : σ) : Pool κ σ ε α := ⟨state, fun _ => .absent⟩

end Pool

/-! ## Soundness of what is left of a program -/

/-- Whatever the others do, every effect is one that is guaranteed, and the
answer satisfies `Q`. -/
def Sound (R G : σ → σ → Prop) (Q : Except ε α → σ → Prop) : Prog σ ε α → σ → Prop
  | .ret a, w => ∀ w', R w w' → Q (.ok a) w'
  | .raise e, w => ∀ w', R w w' → Q (.error e) w'
  | .eff next cont failed, w => ∀ w', R w w' → G w' (next w') ∧ Sound R G Q (cont w') (next w') ∧
      Sound R G Q failed w' ∧ Sound R G Q failed (next w')

/-- What a process may rely on can happen any number of times. -/
structure Reliable (R : σ → σ → Prop) : Prop where
  refl (w : σ) : R w w
  trans {w w' w'' : σ} : R w w' → R w' w'' → R w w''

/-- From every state where `A` holds. -/
def From (R G : σ → σ → Prop) (A : σ → Prop) (p : Prog σ ε α) (Q : Except ε α → σ → Prop) : Prop :=
  ∀ w, A w → Sound R G Q p w

/-- An assertion the others leave alone. -/
def Stable (R : σ → σ → Prop) (A : σ → Prop) : Prop := ∀ w w', R w w' → A w → A w'

section Rules
variable {R G : σ → σ → Prop} {Q : Except ε α → σ → Prop} {A B : σ → Prop} {p : Prog σ ε α}

theorem Sound.rely (hR : Reliable R) {w w' : σ} (h : Sound R G Q p w) (hw : R w w') :
    Sound R G Q p w' := by
  cases p with
  | ret a => exact fun w'' h' => h w'' (hR.trans hw h')
  | raise e => exact fun w'' h' => h w'' (hR.trans hw h')
  | eff next cont failed => exact fun w'' h' => h w'' (hR.trans hw h')

theorem Sound.mono {G' : σ → σ → Prop} {Q' : Except ε α → σ → Prop} {w : σ}
    (h : Sound R G Q p w) (hG : ∀ w w', G w w' → G' w w') (hQ : ∀ r w, Q r w → Q' r w) :
    Sound R G' Q' p w := by
  induction p generalizing w with
  | ret a => exact fun w' h' => hQ _ _ (h w' h')
  | raise e => exact fun w' h' => hQ _ _ (h w' h')
  | eff next cont failed ihc ihf =>
    intro w' h'
    obtain ⟨hstep, hcont, hlost, hlate⟩ := h w' h'
    exact ⟨hG _ _ hstep, ihc _ hcont, ihf hlost, ihf hlate⟩

namespace From

theorem weaken {S : Except ε α → σ → Prop} (h : From R G B p S) (hA : ∀ w, A w → B w)
    (hQ : ∀ r w, S r w → Q r w) : From R G A p Q :=
  fun w hw => (h w (hA w hw)).mono (fun _ _ h => h) hQ

theorem pre (h : From R G B p Q) (hA : ∀ w, A w → B w) : From R G A p Q :=
  fun w hw => h w (hA w hw)

theorem guaranteeing {G' : σ → σ → Prop} (h : From R G A p Q) (hG : ∀ w w', G w w' → G' w w') :
    From R G' A p Q :=
  fun w hw => (h w hw).mono hG fun _ _ h => h

/-- What the others and the program itself leave alone still holds at the end. -/
theorem frame (h : From R G A p Q) (hB : Stable R B) (hkept : ∀ w w', G w w' → B w → B w') :
    From R G (fun w => A w ∧ B w) p fun r w => Q r w ∧ B w := by
  rintro w ⟨hA, hw⟩
  have hsound := h w hA
  clear h hA
  induction p generalizing w with
  | ret a => exact fun w' hr => ⟨hsound w' hr, hB w w' hr hw⟩
  | raise e => exact fun w' hr => ⟨hsound w' hr, hB w w' hr hw⟩
  | eff next cont failed ihc ihf =>
    intro w' hr
    obtain ⟨hstep, hcont, hlost, hlate⟩ := hsound w' hr
    have hw' := hB w w' hr hw
    have hnext := hkept w' _ hstep hw'
    exact ⟨hstep, ihc _ _ hnext hcont, ihf _ hw' hlost, ihf _ hnext hlate⟩

theorem ret {a : α} (hA : Stable R A) (h : ∀ w, A w → Q (.ok a) w) :
    From R G A (Prog.ret a : Prog σ ε α) Q :=
  fun w hw w' hr => h w' (hA w w' hr hw)

theorem pure {a : α} (hA : Stable R A) (h : ∀ w, A w → Q (.ok a) w) :
    From R G A (Pure.pure a : Prog σ ε α) Q := From.ret hA h

theorem throw {e : ε} (hA : Stable R A) (h : ∀ w, A w → Q (.error e) w) :
    From R G A (MonadExceptOf.throw e : Prog σ ε α) Q :=
  fun w hw w' hr => h w' (hA w w' hr hw)

/-- Sequencing: errors of the first part are errors of the whole. -/
theorem bind {S : Except ε γ → σ → Prop} {q : Prog σ ε γ} {f : γ → Prog σ ε α}
    (hR : Reliable R) (hq : From R G A q S) (hf : ∀ c, From R G (S (.ok c)) (f c) Q)
    (he : ∀ e w, S (.error e) w → Q (.error e) w) : From R G A (q >>= f) Q := by
  intro w hw
  have hsound := hq w hw
  clear hw hq
  change Sound R G Q (Prog.bind q f) w
  induction q generalizing w with
  | ret c => exact hf c w (hsound w (hR.refl w))
  | raise e => exact fun w' hr => he e w' (hsound w' hr)
  | eff next cont failed ihc ihf =>
    intro w' hr
    obtain ⟨hstep, hcont, hlost, hlate⟩ := hsound w' hr
    exact ⟨hstep, ihc _ _ hcont, ihf _ hlost, ihf _ hlate⟩

theorem handle {S : ε → σ → Prop} {h : ε → Prog σ ε α} (hR : Reliable R)
    (hp : From R G A p fun r w => match r with
      | .ok a => Q (.ok a) w
      | .error e => S e w)
    (hh : ∀ e, From R G (S e) (h e) Q) : From R G A (tryCatch p h) Q := by
  intro w hw
  have hsound := hp w hw
  clear hw hp
  change Sound R G Q (Prog.handle p h) w
  induction p generalizing w with
  | ret a => exact fun w' hr => hsound w' hr
  | raise e => exact hh e w (hsound w (hR.refl w))
  | eff next cont failed ihc ihf =>
    intro w' hr
    obtain ⟨hstep, hcont, hlost, hlate⟩ := hsound w' hr
    exact ⟨hstep, ihc _ _ hcont, ihf _ hlost, ihf _ hlate⟩

theorem ofExcept {r : Except ε α} (hA : Stable R A) (h : ∀ w, A w → Q r w) :
    From R G A (Prog.ofExcept r) Q := by
  cases r with
  | ok a => exact From.ret hA h
  | error e => exact fun w hw w' hr => h w' (hA w w' hr hw)

/-- One effect: it is guaranteed, and its answer is accounted for, also when it
raises before or after it happened. -/
theorem effect {failure : ε} {act : σ → Except ε α × σ} (hA : Stable R A)
    (hG : ∀ w, A w → G w (act w).2) (hact : ∀ w w', A w → R (act w).2 w' → Q (act w).1 w')
    (hlost : ∀ w, A w → Q (.error failure) w)
    (hlate : ∀ w w', A w → R (act w).2 w' → Q (.error failure) w') :
    From R G A (Prog.effect failure act) Q := by
  intro w hw w' hr
  have hw' := hA w w' hr hw
  refine ⟨hG w' hw', ?_, fun w'' h => hlost w'' (hA w' w'' h hw'), fun w'' h =>
    hlate w' w'' hw' h⟩
  have hact' := hact w'
  change Sound R G Q (Prog.ofExcept (act w').1) (act w').2
  cases hanswer : (act w').1 with
  | ok a =>
    rw [hanswer] at hact'
    exact fun w'' h => hact' w'' hw' h
  | error e =>
    rw [hanswer] at hact'
    exact fun w'' h => hact' w'' hw' h

end From

/-- Sound whatever it answers. -/
abbrev Safe (R G : σ → σ → Prop) (A : σ → Prop) (p : Prog σ ε α) : Prop :=
  From R G A p fun _ _ => True

theorem stable_true : Stable R fun _ => True := fun _ _ _ _ => trivial

namespace Safe

theorem bind {q : Prog σ ε γ} {f : γ → Prog σ ε α} (hR : Reliable R) (hq : Safe R G A q)
    (hf : ∀ c, Safe R G (fun _ => True) (f c)) : Safe R G A (q >>= f) :=
  From.bind hR hq hf fun _ _ _ => trivial

theorem pure (a : α) : Safe R G (fun _ => True) (Pure.pure a : Prog σ ε α) :=
  From.pure stable_true fun _ _ => trivial

theorem throw (e : ε) : Safe R G (fun _ => True) (MonadExceptOf.throw e : Prog σ ε α) :=
  From.throw stable_true fun _ _ => trivial

theorem ofExcept (r : Except ε α) : Safe R G (fun _ => True) (Prog.ofExcept r) :=
  From.ofExcept stable_true fun _ _ => trivial

theorem effect {failure : ε} {act : σ → Except ε α × σ} (hA : Stable R A)
    (hG : ∀ w, A w → G w (act w).2) : Safe R G A (Prog.effect failure act) :=
  From.effect hA hG (fun _ _ _ _ => trivial) (fun _ _ => trivial) fun _ _ _ _ => trivial

end Safe

end Rules

/-! ## Soundness of a pool -/

/-- What each process may rely on and guarantees, and what it answers. -/
structure Protocol (κ σ ε α : Type) where
  rely : κ → σ → σ → Prop
  guarantee : κ → σ → σ → Prop
  answer : κ → Except ε α → σ → Prop
  reliable (k : κ) : Reliable (rely k)

variable [DecidableEq κ]

/-- Every running process is sound where it stands. -/
def Protocol.Keeps (P : Protocol κ σ ε α) (pool : Pool κ σ ε α) : Prop :=
  ∀ k p, pool.process k = .running p → Sound (P.rely k) (P.guarantee k) (P.answer k) p pool.state

/-- What the processes other than the one that acts may rely on is what it
guarantees; they may rely on moves and on stops. -/
structure Protocol.Respects (P : Protocol κ σ ε α) (sys : System κ β ι σ ε α)
    (pool : Pool κ σ ε α) (happening : Happening κ β ι) : Prop where
  others (k j : κ) : happening = .act k ∨ happening = .fault k true → j ≠ k →
    ∀ w', P.guarantee k pool.state w' → P.rely j pool.state w'
  stops (k j : κ) : happening = .stop k → j ≠ k →
    P.rely j pool.state (sys.abandon k pool.state)
  moves (i : ι) (j : κ) : happening = .move i → P.rely j pool.state (sys.move i pool.state)
  starts (k : κ) (job : β) : happening = .start k job → pool.process k = .absent →
    Sound (P.rely k) (P.guarantee k) (P.answer k) (sys.program k job) pool.state

namespace Protocol
variable {P : Protocol κ σ ε α} {sys : System κ β ι σ ε α} {pool : Pool κ σ ε α}

theorem Keeps.others (h : P.Keeps pool) {k : κ} {process : Process σ ε α} {w : σ}
    (hk : ∀ p, process = .running p → Sound (P.rely k) (P.guarantee k) (P.answer k) p w)
    (hrely : ∀ j, j ≠ k → P.rely j pool.state w) : P.Keeps (pool.set k process w) := by
  intro j p hp
  by_cases hj : j = k
  · subst hj
    rw [Pool.set_same] at hp
    exact hk p hp
  · rw [Pool.set_other pool hj] at hp
    exact (h j p hp).rely (P.reliable j) (hrely j hj)

theorem pending_some {process : Process σ ε α} {next : σ → σ} {cont : σ → Prog σ ε α}
    {failed : Prog σ ε α} (h : pending process = some (next, cont, failed)) :
    process = .running (.eff next cont failed) := by
  unfold pending at h
  split at h
  · cases h
    rfl
  · cases h

omit [DecidableEq κ] in
/-- The effect a sound process performs is one that it guarantees. -/
theorem Keeps.guaranteed (h : P.Keeps pool) {k : κ} {next : σ → σ} {cont : σ → Prog σ ε α}
    {failed : Prog σ ε α} (hk : pending (pool.process k) = some (next, cont, failed)) :
    P.guarantee k pool.state (next pool.state) := by
  have hsound := h k _ (pending_some hk)
  exact (hsound pool.state ((P.reliable k).refl _)).1

theorem Keeps.step (h : P.Keeps pool) {happening : Happening κ β ι}
    (hrespects : P.Respects sys pool happening) : P.Keeps (pool.step sys happening) := by
  cases happening with
  | start k job =>
    unfold Pool.step
    dsimp only
    split
    · rename_i habsent
      refine h.others (fun p hp => ?_) fun j _ => (P.reliable j).refl _
      cases hp
      exact hrespects.starts k job rfl habsent
    · exact h
  | act k =>
    unfold Pool.step
    dsimp only
    split
    · rename_i next cont failed hpending
      have hsound := h k _ (pending_some hpending) pool.state ((P.reliable k).refl _)
      refine h.others (fun p hp => ?_) fun j hj => hrespects.others k j (.inl rfl) hj _ hsound.1
      cases hp
      exact hsound.2.1
    · exact h
  | fault k late =>
    unfold Pool.step
    dsimp only
    split
    · rename_i next cont failed hpending
      have hsound := h k _ (pending_some hpending) pool.state ((P.reliable k).refl _)
      cases late with
      | false =>
        refine h.others (fun p hp => ?_) fun j _ => (P.reliable j).refl _
        cases hp
        exact hsound.2.2.1
      | true =>
        refine h.others (fun p hp => ?_) fun j hj => hrespects.others k j (.inr rfl) hj _ hsound.1
        cases hp
        exact hsound.2.2.2
    · exact h
  | stop k =>
    exact h.others (fun p hp => nomatch hp) fun j hj => hrespects.stops k j rfl hj
  | move i =>
    intro j p hp
    exact (h j p hp).rely (P.reliable j) (hrespects.moves i j rfl)

/-- An invariant of the state survives a happening if what processes guarantee,
stops and moves keep it. -/
theorem Keeps.state (h : P.Keeps pool) {J : σ → Prop} (hJ : J pool.state)
    {happening : Happening κ β ι}
    (hguarantee : ∀ k w', P.guarantee k pool.state w' → w' = (pool.step sys happening).state → J w')
    (hstop : ∀ k, J (sys.abandon k pool.state)) (hmove : ∀ i, J (sys.move i pool.state)) :
    J (pool.step sys happening).state := by
  cases happening with
  | start k job =>
    unfold Pool.step
    dsimp only
    split <;> exact hJ
  | act k =>
    cases hpending : pending (pool.process k) with
    | none =>
      unfold Pool.step
      simp only [hpending]
      exact hJ
    | some effect =>
      obtain ⟨next, cont, failed⟩ := effect
      have hnext : (pool.step sys (.act k)).state = next pool.state := by
        simp only [Pool.step, hpending, Pool.set_state]
      rw [hnext]
      exact hguarantee k _ (h.guaranteed hpending) hnext.symm
  | fault k late =>
    cases hpending : pending (pool.process k) with
    | none =>
      unfold Pool.step
      simp only [hpending]
      exact hJ
    | some effect =>
      obtain ⟨next, cont, failed⟩ := effect
      cases late with
      | false =>
        have hlost : (pool.step sys (.fault k false)).state = pool.state := by
          simp [Pool.step, hpending, Pool.set_state]
        rw [hlost]
        exact hJ
      | true =>
        have hlate : (pool.step sys (.fault k true)).state = next pool.state := by
          simp only [Pool.step, hpending, Pool.set_state, if_true]
        rw [hlate]
        exact hguarantee k _ (h.guaranteed hpending) hlate.symm
  | stop k => exact hstop k
  | move i => exact hmove i

omit [DecidableEq κ] in
theorem keeps_initial (P : Protocol κ σ ε α) (state : σ) : P.Keeps (Pool.initial state) :=
  fun _ _ hp => nomatch hp

end Protocol

end MediaSync.Interleavings
