import MediaSync.Common.GuardedPrograms

/-!
# The first fault of a run

A program that performs its effects in a row returns unless one of them is hit
by a fault, and what it leaves behind then depends on the first fault alone:
on its position and on its kind.
-/
namespace MediaSync.FirstFaults
open FaultPrograms GuardedPrograms

variable {σ ι ε α β : Type}

/-! ## Schedules -/

/-- The position and the kind of the first fault. -/
def firstFault : Schedule ι → Option (ℕ × Fault)
  | [] => none
  | e :: es =>
    if e.fault = .none then (firstFault es).map fun hit => (hit.1 + 1, hit.2) else some (0, e.fault)

/-- The first `n` effects are not hit. -/
def Spared (n : ℕ) (es : Schedule ι) : Prop := ∀ i f, firstFault es = some (i, f) → n ≤ i

theorem spared_nil (n : ℕ) : Spared n ([] : Schedule ι) := fun _ _ h => nomatch h

theorem firstFault_none {moves : List ι} (es : Schedule ι) :
    firstFault (⟨moves, .none⟩ :: es) = (firstFault es).map fun hit => (hit.1 + 1, hit.2) := by
  rw [firstFault, if_pos rfl]

theorem firstFault_hit {e : Event ι} (h : e.fault ≠ .none) (es : Schedule ι) :
    firstFault (e :: es) = some (0, e.fault) := by
  rw [firstFault, if_neg h]

theorem spared_cons {n : ℕ} {e : Event ι} {es : Schedule ι} :
    Spared (n + 1) (e :: es) ↔ e.fault = .none ∧ Spared n es := by
  obtain ⟨moves, fault⟩ := e
  constructor
  · intro h
    have hfault : fault = .none := by
      by_contra hhit
      have hzero := h 0 fault (firstFault_hit (e := ⟨moves, fault⟩) hhit es)
      omega
    subst hfault
    refine ⟨rfl, fun i f hes => ?_⟩
    have hlater := h (i + 1) f (by rw [firstFault_none, hes]; rfl)
    omega
  · rintro ⟨hfault, h⟩ i f hes
    dsimp only at hfault
    subst hfault
    rw [firstFault_none] at hes
    obtain ⟨hit, hhit, heq⟩ := Option.map_eq_some_iff.mp hes
    cases heq
    have hlater := h hit.1 hit.2 hhit
    omega

/-- What hits a schedule after its first `n` events hits the rest of it. -/
theorem firstFault_drop {n : ℕ} {es : Schedule ι} (h : Spared n es) :
    firstFault es = (firstFault (es.drop n)).map fun hit => (hit.1 + n, hit.2) := by
  induction n generalizing es with
  | zero =>
    rw [List.drop_zero]
    cases firstFault es <;> rfl
  | succ n ih =>
    cases es with
    | nil => rfl
    | cons e es =>
      obtain ⟨hfault, hrest⟩ := spared_cons.mp h
      rw [List.drop_succ_cons, firstFault, if_pos hfault, ih hrest, Option.map_map]
      rfl

theorem Spared.drop {n m : ℕ} {es : Schedule ι} (h : Spared (n + m) es) : Spared m (es.drop n) := by
  have hfirst : Spared n es := fun i f hes => le_trans (Nat.le_add_right n m) (h i f hes)
  intro i f hes
  have hlater := h (i + n) f (by rw [firstFault_drop hfirst, hes]; rfl)
  omega

/-! ## Runs that do not return -/

/-- A run ended early, by a crash or by an error; a crash does not raise. -/
def Stopped (f : Fault) (P : σ → Prop) : Outcome ε α × σ × Schedule ι → Prop
  | (.value _, _, _) => False
  | (.raised _, w, _) => f ≠ .crash ∧ P w
  | (.crashed, w, _) => P w

section Stopping
variable [Surroundings σ ι] {f : Fault} {P : σ → Prop}

theorem Stopped.extend {g : α → Prog σ ε β} {r : Outcome ε α × σ × Schedule ι}
    (h : Stopped f P r) : Stopped f P (Prog.extend g r) := by
  rcases r with ⟨a | e | _, w, es⟩
  · exact h.elim
  · exact h
  · exact h

theorem Stopped.rescue {handler : ε → Prog σ ε α} {r : Outcome ε α × σ × Schedule ι}
    (h : Stopped f P r)
    (hrest : ∀ e w (es : Schedule ι), f ≠ .crash → P w → Stopped f P ((handler e).run es w)) :
    Stopped f P (Prog.rescue handler r) := by
  rcases r with ⟨a | e | _, w, es⟩
  · exact h.elim
  · exact hrest e w es h.1 h.2
  · exact h

theorem answers_run {p : Prog σ ε α} {Q : α → Prop} (h : Answers Q p) {es es' : Schedule ι}
    {w w' : σ} {a : α} (hrun : p.run es w = (.value a, w', es')) : Q a := by
  induction p generalizing es w with
  | ret b =>
    cases hrun
    exact h
  | raise e => cases hrun
  | eff next cont failed ihc ihf =>
    rcases es with _ | ⟨⟨moves, _ | _ | _ | _⟩, es⟩
    · exact ihc w (h.1 w) hrun
    · exact ihc _ (h.1 _) hrun
    · cases hrun
    · exact ihf h.2 hrun
    · exact ihf h.2 hrun

/-- A program that never returns and whose effects keep `P` is stopped. -/
theorem Answers.stopped {p : Prog σ ε α} (hp : Answers (fun _ => False) p)
    (hwithin : Within (fun w w' => P w → P w') p)
    (hmove : ∀ (i : ι) w, P w → P (Surroundings.move i w)) (hf : f ≠ .crash) {w : σ} (hw : P w)
    (es : Schedule ι) : Stopped f P (p.run es w) := by
  have hend := hwithin.run (fun _ h => h) (fun h h' hw => h' (h hw)) hmove es w hw
  rcases hrun : p.run es w with ⟨a | e | _, w', es'⟩ <;> rw [hrun] at hend
  · exact answers_run hp hrun
  · exact ⟨hf, hend⟩
  · exact hend

/-- A quiet run uses up no events and does not crash. -/
theorem run_quiet (ι : Type) [Surroundings σ ι] (p : Prog σ ε α) (w : σ) :
    (p.run ([] : Schedule ι) w).2.2 = [] ∧ (p.run ([] : Schedule ι) w).1 ≠ .crashed := by
  induction p generalizing w with
  | ret a =>
    rw [Prog.run]
    exact ⟨rfl, by simp⟩
  | raise e =>
    rw [Prog.run]
    exact ⟨rfl, by simp⟩
  | eff next cont failed ihc _ =>
    rw [Prog.run]
    exact ihc w (next w)

theorem crash_of_run {p : Prog σ ε α} {es es' : Schedule ι} {w w' : σ}
    (hrun : p.run es w = (.crashed, w', es')) : ∃ e ∈ es, e.fault = .crash := by
  induction p generalizing es w with
  | ret a => cases hrun
  | raise e => cases hrun
  | eff next cont failed ihc ihf =>
    rcases es with _ | ⟨⟨moves, fault⟩, es⟩
    · have hquiet := (run_quiet ι (cont w) (next w)).2
      rw [Prog.run] at hrun
      rw [hrun] at hquiet
      exact absurd rfl hquiet
    · have hlater (h : ∃ e ∈ es, e.fault = .crash) :
          ∃ e ∈ (⟨moves, fault⟩ :: es : Schedule ι), e.fault = .crash := by
        obtain ⟨e, hmem, he⟩ := h
        exact ⟨e, List.mem_cons_of_mem _ hmem, he⟩
      cases fault with
      | none => exact hlater (ihc _ hrun)
      | crash => exact ⟨_, List.mem_cons_self .., rfl⟩
      | lost => exact hlater (ihf hrun)
      | late => exact hlater (ihf hrun)

/-- A program all of whose effects are `R` steps. -/
theorem Within.meets {R : σ → σ → Prop} {p : Prog σ ε α} (hp : Within R p) (hrefl : ∀ w, R w w)
    (htrans : ∀ {w w' w''}, R w w' → R w' w'' → R w w'')
    (hmove : ∀ (i : ι) w, R w (Surroundings.move i w)) (w : σ) :
    Meets ι p ⟨fun _ => R w, fun _ => R w, fun _ => R w, R w, fun _ _ => True⟩ w := by
  intro es
  have hend := hp.run hrefl htrans hmove es w
  have hquiet := run_quiet ι p w
  refine ⟨?_, fun _ _ => trivial⟩
  rcases hrun : p.run es w with ⟨a | e | _, w', es'⟩ <;> rw [hrun] at hend
  · refine ⟨hend, fun hes => ?_⟩
    subst hes
    rw [hrun] at hquiet
    exact hquiet.1
  · refine ⟨hend, fun hes => ?_⟩
    subst hes
    rw [hrun] at hquiet
    exact ⟨hend, hquiet.1⟩
  · refine ⟨hend, fun hes => ?_⟩
    subst hes
    rw [hrun] at hquiet
    exact hquiet.2 rfl

end Stopping

/-! ## Straight programs -/

/-- From `w`, `p` performs `n` effects and returns `a` in `w'`, unless one of
them is hit: `left` is what the first fault leaves. -/
structure Straight (n : ℕ) (p : Prog σ ε α) (w : σ) (a : α) (w' : σ) (left : ℕ → Fault → σ → Prop) :
    Prop where
  returns (es : Schedule Empty) : Spared n es → p.run es w = (.value a, w', es.drop n)
  stopped (es : Schedule Empty) (i : ℕ) (f : Fault) :
    firstFault es = some (i, f) → i < n → Stopped f (left i f) (p.run es w)

theorem settle_alone (moves : List Empty) (w : σ) : Prog.settle moves w = w := by
  cases moves with
  | nil => rfl
  | cons i _ => exact i.elim

namespace Straight
variable {p : Prog σ ε α} {w w' w'' : σ} {a : α} {b : β} {n m : ℕ} {left : ℕ → Fault → σ → Prop}

theorem pure (a : α) (w : σ) : Straight 0 (Pure.pure a : Prog σ ε α) w a w left where
  returns es _ := by rw [Prog.run_pure, List.drop_zero]
  stopped _ _ _ _ h := absurd h (Nat.not_lt_zero _)

theorem ofExcept {r : Except ε α} (h : r = .ok a) (w : σ) :
    Straight 0 (Prog.ofExcept r) w a w left := by
  subst h
  exact pure a w

/-- One effect that does not refuse. -/
theorem effect {failure : ε} {act : σ → Except ε α × σ} (hact : act w = (.ok a, w'))
    (hlost : left 0 .lost w) (hlate : left 0 .late w') (hcrash : left 0 .crash w) :
    Straight 1 (Prog.effect failure act) w a w' left where
  returns es h := by
    rcases es with _ | ⟨⟨moves, fault⟩, es⟩
    · rw [Prog.effect, Prog.run, hact]
      rfl
    · obtain ⟨hfault, -⟩ := spared_cons.mp h
      dsimp only at hfault
      subst hfault
      rw [Prog.effect, Prog.run, settle_alone, hact]
      rfl
  stopped es i f hes hi := by
    rcases es with _ | ⟨⟨moves, fault⟩, es⟩
    · cases hes
    · rw [firstFault] at hes
      split_ifs at hes with hnone
      · obtain ⟨hit, -, heq⟩ := Option.map_eq_some_iff.mp hes
        cases heq
        omega
      · cases hes
        dsimp only at hnone ⊢
        cases fault with
        | none => exact absurd rfl hnone
        | crash =>
          rw [Prog.effect, Prog.run, settle_alone]
          exact hcrash
        | lost =>
          rw [Prog.effect, Prog.run, settle_alone]
          exact ⟨by decide, hlost⟩
        | late =>
          rw [Prog.effect, Prog.run, settle_alone, hact]
          exact ⟨by decide, hlate⟩

theorem look {failure : ε} {view : σ → Except ε α} (hview : view w = .ok a)
    (hleft : ∀ f, left 0 f w) : Straight 1 (Prog.look failure view) w a w left :=
  effect (by rw [hview]) (hleft _) (hleft _) (hleft _)

theorem change {failure : ε} {next : σ → σ} (hlost : left 0 .lost w) (hlate : left 0 .late (next w))
    (hcrash : left 0 .crash w) : Straight 1 (Prog.change failure next) w () (next w) left :=
  effect rfl hlost hlate hcrash

/-- One part after the other. -/
theorem bind {f : α → Prog σ ε β} (hp : Straight n p w a w' left)
    (hf : Straight m (f a) w' b w'' fun i => left (i + n)) :
    Straight (n + m) (p >>= f) w b w'' left where
  returns es h := by
    have hfirst : Spared n es := fun i f hes => le_trans (Nat.le_add_right n m) (h i f hes)
    rw [Prog.run_bind, hp.returns es hfirst, Prog.extend, hf.returns _ h.drop, List.drop_drop]
  stopped es i fault hes hi := by
    rw [Prog.run_bind]
    by_cases hfirst : i < n
    · exact (hp.stopped es i fault hes hfirst).extend
    · have hspared : Spared n es := by
        intro j f hj
        rw [hes] at hj
        cases hj
        omega
      have hrest : firstFault (es.drop n) = some (i - n, fault) := by
        rw [firstFault_drop hspared] at hes
        obtain ⟨hit, hhit, heq⟩ := Option.map_eq_some_iff.mp hes
        cases heq
        rw [hhit, Nat.add_sub_cancel]
      rw [hp.returns es hspared, Prog.extend]
      have hstopped := hf.stopped _ _ _ hrest (by omega)
      rwa [Nat.sub_add_cancel (by omega)] at hstopped

/-- A handler that does not return and leaves what it finds. -/
theorem handle {h : ε → Prog σ ε α} (hp : Straight n p w a w' left)
    (hh : ∀ e i f w (es : Schedule Empty), i < n → f ≠ .crash → left i f w →
      Stopped f (left i f) ((h e).run es w)) :
    Straight n (tryCatch p h) w a w' left where
  returns es hes := by rw [Prog.run_handle, hp.returns es hes, Prog.rescue]
  stopped es i f hes hi := by
    rw [Prog.run_handle]
    exact (hp.stopped es i f hes hi).rescue fun e w es hf hw => hh e i f w es hi hf hw

/-- A straight program refuses nothing. -/
theorem meets (h : Straight n p w a w' left) :
    Meets Empty p ⟨fun b w'' => b = a ∧ w'' = w', fun _ w'' => ∃ i f, left i f w'',
      fun _ _ => False, fun w'' => ∃ i f, left i f w'', fun _ _ => True⟩ w := by
  intro es
  refine ⟨?_, fun _ _ => trivial⟩
  by_cases hspared : Spared n es
  · rw [h.returns es hspared]
    refine ⟨⟨rfl, rfl⟩, fun hes => ?_⟩
    rw [hes, List.drop_nil]
  · have hes : es ≠ [] := by
      rintro rfl
      exact hspared (spared_nil n)
    unfold Spared at hspared
    push Not at hspared
    obtain ⟨i, f, hfirst, hi⟩ := hspared
    have hstopped := h.stopped es i f hfirst hi
    rcases hrun : p.run es w with ⟨b | e | _, w'', es'⟩ <;> rw [hrun] at hstopped
    · exact hstopped.elim
    · exact ⟨⟨i, f, hstopped.2⟩, fun hnil => absurd hnil hes⟩
    · exact ⟨⟨i, f, hstopped⟩, hes⟩

end Straight

end MediaSync.FirstFaults
