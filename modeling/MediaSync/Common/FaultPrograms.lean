import Mathlib

/-!
# Programs that may be interrupted at every effect

A program acts on a durable state through single effects. A schedule decides,
effect by effect, what the surroundings do first and what happens to the
process: the effect returns, the process stops, or the effect raises with or
without having happened. A schedule that has run out is quiet: nothing else
happens and no fault is injected, so a run of a quiet schedule is the plain
run of the program.

`Meets` is the program logic of these runs. One derivation covers every
schedule: what holds on a return, on a raise, at every point where the process
can stop, and which errors the program raises on its own in a quiet run.
-/
namespace MediaSync.FaultPrograms

inductive Fault where
  | none
  | crash
  | lost
  | late
  deriving DecidableEq, Repr

structure Event (ι : Type) where
  moves : List ι := []
  fault : Fault := .none
  deriving DecidableEq, Repr

abbrev Schedule (ι : Type) := List (Event ι)

inductive Outcome (ε α : Type) where
  | value (a : α)
  | raised (e : ε)
  | crashed
  deriving DecidableEq, Repr

/-- What the other parties sharing the state may do between two effects. -/
class Surroundings (σ : Type) (ι : Type) where
  move : ι → σ → σ

/-- A process that is alone on its state. -/
instance (σ : Type) : Surroundings σ Empty := ⟨fun i => i.elim⟩

/-- A program between two of its effects: it has answered, has raised, or is
about to perform `next`, after which it goes on with what it learned from the
state, or with `failed` when the effect raised. -/
inductive Prog (σ ε α : Type) where
  | ret (a : α)
  | raise (e : ε)
  | eff (next : σ → σ) (cont : σ → Prog σ ε α) (failed : Prog σ ε α)

variable {σ ι ε α β : Type}

theorem mapError_ok {ε' : Type} {f : ε → ε'} {r : Except ε α} {a : α}
    (h : r.mapError f = .ok a) : r = .ok a := by
  cases r with
  | error e => cases h
  | ok b =>
    cases h
    rfl

/-- Both parts of a computation that answered have answered. -/
theorem bind_ok {r : Except ε α} {f : α → Except ε β} {b : β}
    (h : r >>= f = .ok b) : ∃ a, r = .ok a ∧ f a = .ok b := by
  cases r with
  | ok a => exact ⟨a, rfl, h⟩
  | error e => cases h

namespace Prog

def bind : Prog σ ε α → (α → Prog σ ε β) → Prog σ ε β
  | ret a, f => f a
  | raise e, _ => raise e
  | eff next cont failed, f => eff next (fun w => bind (cont w) f) (bind failed f)

/-- A handler sees raised errors only: a stopped process runs nothing. -/
def handle : Prog σ ε α → (ε → Prog σ ε α) → Prog σ ε α
  | ret a, _ => ret a
  | raise e, h => h e
  | eff next cont failed, h => eff next (fun w => handle (cont w) h) (handle failed h)

instance : Monad (Prog σ ε) where
  pure := ret
  bind := bind

instance : MonadExceptOf ε (Prog σ ε) where
  throw := raise
  tryCatch := handle

/-- The result of a program as a value, for a caller that has work to do in
either case. -/
def attempt {ε' : Type} : Prog σ ε α → Prog σ ε' (Except ε α)
  | ret a => ret (.ok a)
  | raise e => ret (.error e)
  | eff next cont failed => eff next (fun w => attempt (cont w)) (attempt failed)

def ofExcept : Except ε α → Prog σ ε α
  | .ok a => ret a
  | .error e => raise e

/-- One effect. `failure` is what its caller sees when the effect is lost or
its answer comes too late. -/
def effect (failure : ε) (act : σ → Except ε α × σ) : Prog σ ε α :=
  eff (fun w => (act w).2) (fun w => ofExcept (act w).1) (raise failure)

/-- An effect that only looks at the state. -/
def look (failure : ε) (view : σ → Except ε α) : Prog σ ε α :=
  effect failure fun w => (view w, w)

/-- An effect that always succeeds and answers nothing. -/
def change (failure : ε) (next : σ → σ) : Prog σ ε Unit :=
  effect failure fun w => (.ok (), next w)

/-- The state after the surroundings made their moves. -/
def settle [Surroundings σ ι] (moves : List ι) (w : σ) : σ :=
  moves.foldl (fun w i => Surroundings.move i w) w

def run [Surroundings σ ι] : Prog σ ε α → Schedule ι → σ → Outcome ε α × σ × Schedule ι
  | ret a, es, w => (.value a, w, es)
  | raise e, es, w => (.raised e, w, es)
  | eff next cont _, [], w => run (cont w) [] (next w)
  | eff next cont _, ⟨moves, .none⟩ :: es, w =>
    run (cont (settle moves w)) es (next (settle moves w))
  | eff _ _ _, ⟨moves, .crash⟩ :: es, w => (.crashed, settle moves w, es)
  | eff _ _ failed, ⟨moves, .lost⟩ :: es, w => run failed es (settle moves w)
  | eff next _ failed, ⟨moves, .late⟩ :: es, w => run failed es (next (settle moves w))

/-- The effects a run performs, each as the states before and after it. -/
def steps [Surroundings σ ι] : Prog σ ε α → Schedule ι → σ → List (σ × σ)
  | ret _, _, _ => []
  | raise _, _, _ => []
  | eff next cont _, [], w => (w, next w) :: steps (cont w) [] (next w)
  | eff next cont _, ⟨moves, .none⟩ :: es, w =>
    (settle moves w, next (settle moves w)) ::
      steps (cont (settle moves w)) es (next (settle moves w))
  | eff _ _ _, ⟨_, .crash⟩ :: _, _ => []
  | eff _ _ failed, ⟨moves, .lost⟩ :: es, w => steps failed es (settle moves w)
  | eff next _ failed, ⟨moves, .late⟩ :: es, w =>
    (settle moves w, next (settle moves w)) :: steps failed es (next (settle moves w))

/-- What a result becomes when the program goes on with `f`. -/
def extend [Surroundings σ ι] (f : α → Prog σ ε β) :
    Outcome ε α × σ × Schedule ι → Outcome ε β × σ × Schedule ι
  | (.value a, w, es) => run (f a) es w
  | (.raised e, w, es) => (.raised e, w, es)
  | (.crashed, w, es) => (.crashed, w, es)

/-- What a result becomes when raised errors are handled by `h`. -/
def rescue [Surroundings σ ι] (h : ε → Prog σ ε α) :
    Outcome ε α × σ × Schedule ι → Outcome ε α × σ × Schedule ι
  | (.value a, w, es) => (.value a, w, es)
  | (.raised e, w, es) => run (h e) es w
  | (.crashed, w, es) => (.crashed, w, es)

/-- What a result becomes when raised errors are turned into values. -/
def settleResult {ε' : Type} :
    Outcome ε α × σ × Schedule ι → Outcome ε' (Except ε α) × σ × Schedule ι
  | (.value a, w, es) => (.value (.ok a), w, es)
  | (.raised e, w, es) => (.value (.error e), w, es)
  | (.crashed, w, es) => (.crashed, w, es)

/-- The effects performed when a run goes on with `f` after its result. -/
def stepsAfter [Surroundings σ ι] (f : α → Prog σ ε β) :
    Outcome ε α × σ × Schedule ι → List (σ × σ)
  | (.value a, w, es) => steps (f a) es w
  | (.raised _, _, _) => []
  | (.crashed, _, _) => []

/-- The effects performed when a handler takes over after a raised error. -/
def stepsRescue [Surroundings σ ι] (h : ε → Prog σ ε α) :
    Outcome ε α × σ × Schedule ι → List (σ × σ)
  | (.value _, _, _) => []
  | (.raised e, w, es) => steps (h e) es w
  | (.crashed, _, _) => []

section Steps
variable [Surroundings σ ι] {f : α → Prog σ ε β} {h : ε → Prog σ ε α} {next : σ → σ}
  {cont : σ → Prog σ ε α} {failed : Prog σ ε α} {moves : List ι} {es : Schedule ι} {w : σ}

theorem bind_eff :
    bind (eff next cont failed) f = eff next (fun w => bind (cont w) f) (bind failed f) := rfl

theorem handle_eff : handle (eff next cont failed) h =
    eff next (fun w => handle (cont w) h) (handle failed h) := rfl

theorem attempt_eff {ε' : Type} : attempt (eff next cont failed) =
    (eff next (fun w => attempt (cont w)) (attempt failed) : Prog σ ε' (Except ε α)) := rfl

theorem run_quiet :
    run (eff next cont failed) ([] : Schedule ι) w = run (cont w) [] (next w) := rfl

theorem run_none : run (eff next cont failed) (⟨moves, .none⟩ :: es) w =
    run (cont (settle moves w)) es (next (settle moves w)) := rfl

theorem run_lost : run (eff next cont failed) (⟨moves, .lost⟩ :: es) w =
    run failed es (settle moves w) := rfl

theorem run_late : run (eff next cont failed) (⟨moves, .late⟩ :: es) w =
    run failed es (next (settle moves w)) := rfl

theorem steps_quiet : steps (eff next cont failed) ([] : Schedule ι) w =
    (w, next w) :: steps (cont w) ([] : Schedule ι) (next w) := rfl

theorem steps_none : steps (eff next cont failed) (⟨moves, .none⟩ :: es) w =
    (settle moves w, next (settle moves w)) ::
      steps (cont (settle moves w)) es (next (settle moves w)) := rfl

theorem steps_crash :
    steps (eff next cont failed) (⟨moves, .crash⟩ :: es) w = [] := rfl

theorem steps_lost : steps (eff next cont failed) (⟨moves, .lost⟩ :: es) w =
    steps failed es (settle moves w) := rfl

theorem steps_late : steps (eff next cont failed) (⟨moves, .late⟩ :: es) w =
    (settle moves w, next (settle moves w)) :: steps failed es (next (settle moves w)) := rfl

end Steps

section Runs
variable [Surroundings σ ι] {p : Prog σ ε α} {f : α → Prog σ ε β} {h : ε → Prog σ ε α}

@[simp] theorem run_pure {a : α} {es : Schedule ι} {w : σ} :
    run (pure a : Prog σ ε α) es w = (.value a, w, es) := rfl

@[simp] theorem run_throw {e : ε} {es : Schedule ι} {w : σ} :
    run (throw e : Prog σ ε α) es w = (.raised e, w, es) := rfl

theorem run_bind (es : Schedule ι) (w : σ) : run (p >>= f) es w = extend f (run p es w) := by
  change run (bind p f) es w = _
  induction p generalizing es w with
  | ret a => rfl
  | raise e => rfl
  | eff next cont failed ihc ihf =>
    rcases es with _ | ⟨⟨moves, _ | _ | _ | _⟩, es⟩
    · exact ihc w [] (next w)
    · exact ihc _ es _
    · rfl
    · exact ihf es _
    · exact ihf es _

theorem run_handle (es : Schedule ι) (w : σ) :
    run (tryCatch p h) es w = rescue h (run p es w) := by
  change run (handle p h) es w = _
  induction p generalizing es w with
  | ret a => rfl
  | raise e => rfl
  | eff next cont failed ihc ihf =>
    rcases es with _ | ⟨⟨moves, _ | _ | _ | _⟩, es⟩
    · exact ihc w [] (next w)
    · exact ihc _ es _
    · rfl
    · exact ihf es _
    · exact ihf es _

theorem run_attempt {ε' : Type} (es : Schedule ι) (w : σ) :
    run (attempt p : Prog σ ε' (Except ε α)) es w = settleResult (run p es w) := by
  induction p generalizing es w with
  | ret a => rfl
  | raise e => rfl
  | eff next cont failed ihc ihf =>
    rcases es with _ | ⟨⟨moves, _ | _ | _ | _⟩, es⟩
    · exact ihc w [] (next w)
    · exact ihc _ es _
    · rfl
    · exact ihf es _
    · exact ihf es _

theorem steps_attempt {ε' : Type} (es : Schedule ι) (w : σ) :
    steps (attempt p : Prog σ ε' (Except ε α)) es w = steps p es w := by
  induction p generalizing es w with
  | ret a => rfl
  | raise e => rfl
  | eff next cont failed ihc ihf =>
    rcases es with _ | ⟨⟨moves, _ | _ | _ | _⟩, es⟩ <;>
      simp only [attempt_eff, steps_quiet, steps_none, steps_crash, steps_lost, steps_late, ihc,
        ihf]

theorem steps_bind (es : Schedule ι) (w : σ) :
    steps (p >>= f) es w = steps p es w ++ stepsAfter f (run p es w) := by
  change steps (bind p f) es w = _
  induction p generalizing es w with
  | ret a => rfl
  | raise e => rfl
  | eff next cont failed ihc ihf =>
    rcases es with _ | ⟨⟨moves, _ | _ | _ | _⟩, es⟩
    · simp only [bind_eff, steps_quiet, run_quiet, ihc, List.cons_append]
    · simp only [bind_eff, steps_none, run_none, ihc, List.cons_append]
    · rfl
    · simp only [bind_eff, steps_lost, run_lost, ihf]
    · simp only [bind_eff, steps_late, run_late, ihf, List.cons_append]

theorem steps_handle (es : Schedule ι) (w : σ) :
    steps (tryCatch p h) es w = steps p es w ++ stepsRescue h (run p es w) := by
  change steps (handle p h) es w = _
  induction p generalizing es w with
  | ret a => rfl
  | raise e => rfl
  | eff next cont failed ihc ihf =>
    rcases es with _ | ⟨⟨moves, _ | _ | _ | _⟩, es⟩
    · simp only [handle_eff, steps_quiet, run_quiet, ihc, List.cons_append]
    · simp only [handle_eff, steps_none, run_none, ihc, List.cons_append]
    · rfl
    · simp only [handle_eff, steps_lost, run_lost, ihf]
    · simp only [handle_eff, steps_late, run_late, ihf, List.cons_append]

end Runs

end Prog

/-- `Moved w w'`: the surroundings can take the state from `w` to `w'`. -/
inductive Moved (ι : Type) [Surroundings σ ι] : σ → σ → Prop
  | refl (w : σ) : Moved ι w w
  | step {w w' : σ} (i : ι) : Moved ι (Surroundings.move i w) w' → Moved ι w w'

theorem moved_settle [Surroundings σ ι] (is : List ι) (w : σ) :
    Moved ι w (Prog.settle is w) := by
  induction is generalizing w with
  | nil => exact .refl w
  | cons i is ih => exact .step i (ih _)

/-- What no single move destroys, no sequence of moves destroys. -/
theorem Moved.preserves [Surroundings σ ι] {P : σ → Prop}
    (stable : ∀ (i : ι) w, P w → P (Surroundings.move i w)) {w w' : σ}
    (h : Moved ι w w') (hw : P w) : P w' := by
  induction h with
  | refl => exact hw
  | step i _ ih => exact ih (stable i _ hw)

@[simp] theorem moved_alone {w w' : σ} : Moved Empty w w' ↔ w' = w := by
  constructor
  · intro h
    cases h with
    | refl => rfl
    | step i _ => exact i.elim
  · rintro rfl
    exact .refl w'

/-- A run of `p` that begins at `w` can return `a` and leave `w'`. -/
def Returns (ι : Type) [Surroundings σ ι] (p : Prog σ ε α) (w : σ) (a : α) (w' : σ) : Prop :=
  ∃ es es' : Schedule ι, p.run es w = (.value a, w', es')

namespace Returns
variable [Surroundings σ ι] {p : Prog σ ε α} {f : α → Prog σ ε β} {w w' : σ} {a b : α} {c : β}

theorem of_run {es : Schedule ι} {r : Outcome ε α × σ × Schedule ι} (hrun : p.run es w = r)
    (h : r.1 = .value a) : Returns ι p w a r.2.1 :=
  ⟨es, r.2.2, hrun.trans (Prod.ext h rfl)⟩

theorem pure (h : Returns ι (Pure.pure a : Prog σ ε α) w b w') : b = a ∧ w' = w := by
  obtain ⟨es, es', hrun⟩ := h
  rw [Prog.run_pure] at hrun
  cases hrun
  exact ⟨rfl, rfl⟩

theorem throw {e : ε} (h : Returns ι (MonadExceptOf.throw e : Prog σ ε α) w a w') : False := by
  obtain ⟨es, es', hrun⟩ := h
  change Prog.run (Prog.raise e) es w = _ at hrun
  rw [Prog.run] at hrun
  cases hrun

/-- Both parts of a sequence return. -/
theorem bind (h : Returns ι (p >>= f) w c w') :
    ∃ a w₁, Returns ι p w a w₁ ∧ Returns ι (f a) w₁ c w' := by
  obtain ⟨es, es', hrun⟩ := h
  rw [Prog.run_bind] at hrun
  rcases hfirst : p.run es w with ⟨a | e | _, w₁, es₁⟩ <;> rw [hfirst] at hrun
  · exact ⟨a, w₁, ⟨es, es₁, hfirst⟩, es₁, es', hrun⟩
  · cases hrun
  · cases hrun

/-- What a handled program returns, it or its handler has returned. -/
theorem handle {h : ε → Prog σ ε α} (hreturns : Returns ι (tryCatch p h) w a w') :
    Returns ι p w a w' ∨ ∃ e w₁, Returns ι (h e) w₁ a w' := by
  obtain ⟨es, es', hrun⟩ := hreturns
  rw [Prog.run_handle] at hrun
  rcases hfirst : p.run es w with ⟨b | e | _, w₁, es₁⟩ <;> rw [hfirst] at hrun
  · cases hrun
    exact .inl ⟨es, es', hfirst⟩
  · exact .inr ⟨e, w₁, es₁, es', hrun⟩
  · cases hrun

theorem ofExcept {r : Except ε α} (h : Returns ι (Prog.ofExcept r) w a w') :
    r = .ok a ∧ w' = w := by
  cases r with
  | ok b =>
    obtain ⟨hb, hw⟩ := Returns.pure (a := b) h
    exact ⟨congrArg _ hb.symm, hw⟩
  | error e => exact (Returns.throw (e := e) h).elim

/-- An effect that returned was performed in the state the surroundings had
left. -/
theorem effect {failure : ε} {act : σ → Except ε α × σ}
    (h : Returns ι (Prog.effect failure act) w a w') :
    ∃ w₁, Moved ι w w₁ ∧ act w₁ = (.ok a, w') := by
  obtain ⟨es, es', hrun⟩ := h
  have hdone {es : Schedule ι} {w₁ w₂ : σ}
      (hrun : (Prog.ofExcept (act w₁).1).run es (act w₁).2 = (.value a, w₂, es')) :
      act w₁ = (.ok a, w₂) := by
    have hreturns : Returns ι (Prog.ofExcept (act w₁).1) (act w₁).2 a w₂ := ⟨es, es', hrun⟩
    obtain ⟨hanswer, hstate⟩ := hreturns.ofExcept
    exact Prod.ext hanswer hstate.symm
  rcases es with _ | ⟨⟨moves, _ | _ | _ | _⟩, es⟩
  · exact ⟨w, .refl w, hdone hrun⟩
  · exact ⟨_, moved_settle moves w, hdone hrun⟩
  · cases hrun
  · cases hrun
  · cases hrun

theorem look {failure : ε} {view : σ → Except ε α} (h : Returns ι (Prog.look failure view) w a w') :
    Moved ι w w' ∧ view w' = .ok a := by
  obtain ⟨w₁, hmoved, hact⟩ := h.effect
  obtain ⟨hview, rfl⟩ := Prod.mk.inj hact
  exact ⟨hmoved, hview⟩

/-- A run that returned needs a part of its schedule only, and the rest of the
schedule may be any. -/
theorem exists_prefix (h : Returns ι p w a w') :
    ∃ es : Schedule ι, ∀ rest, p.run (es ++ rest) w = (.value a, w', rest) := by
  obtain ⟨es, es', hrun⟩ := h
  induction p generalizing es w with
  | ret b =>
    rw [Prog.run] at hrun
    cases hrun
    exact ⟨[], fun rest => rfl⟩
  | raise e =>
    rw [Prog.run] at hrun
    cases hrun
  | eff next cont failed ihc ihf =>
    rcases es with _ | ⟨⟨moves, fault⟩, es⟩
    · obtain ⟨es₀, hprefix⟩ := ihc w [] hrun
      exact ⟨⟨[], .none⟩ :: es₀, hprefix⟩
    · cases fault with
      | none =>
        obtain ⟨es₀, hprefix⟩ := ihc _ es hrun
        exact ⟨⟨moves, .none⟩ :: es₀, hprefix⟩
      | crash => cases hrun
      | lost =>
        obtain ⟨es₀, hprefix⟩ := ihf es hrun
        exact ⟨⟨moves, .lost⟩ :: es₀, hprefix⟩
      | late =>
        obtain ⟨es₀, hprefix⟩ := ihf es hrun
        exact ⟨⟨moves, .late⟩ :: es₀, hprefix⟩

/-- Two runs that follow each other are one run. -/
theorem andThen {w₁ : σ} (hp : Returns ι p w a w₁) (hf : Returns ι (f a) w₁ c w') :
    Returns ι (p >>= f) w c w' := by
  obtain ⟨es, hprefix⟩ := hp.exists_prefix
  obtain ⟨rest, es', hrest⟩ := hf
  refine ⟨es ++ rest, es', ?_⟩
  rw [Prog.run_bind, hprefix]
  exact hrest

theorem of_pure (a : α) (w : σ) : Returns ι (Pure.pure a : Prog σ ε α) w a w :=
  ⟨[], [], Prog.run_pure⟩

theorem of_effect {failure : ε} {act : σ → Except ε α × σ} (hact : act w = (.ok a, w')) :
    Returns ι (Prog.effect failure act) w a w' := by
  refine ⟨[], [], ?_⟩
  change Prog.run (Prog.ofExcept (act w).1) [] (act w).2 = _
  rw [hact]
  rfl

/-- A handler is not needed. -/
theorem handled {h : ε → Prog σ ε α} (hp : Returns ι p w a w') :
    Returns ι (tryCatch p h) w a w' := by
  obtain ⟨es, es', hrun⟩ := hp
  exact ⟨es, es', by rw [Prog.run_handle, hrun]; rfl⟩

end Returns

/-- The four ways a run can leave the state, and what every single effect may
do. `refused` is the stronger promise about errors of a quiet run, where no
fault was injected. -/
structure Post (σ ε α : Type) where
  value : α → σ → Prop
  raised : ε → σ → Prop
  refused : ε → σ → Prop
  crashed : σ → Prop
  step : σ → σ → Prop := fun _ _ => True

/-- What `Q` says of the result of a run of the schedule `es`. -/
def Post.Allows (Q : Post σ ε α) (es : Schedule ι) : Outcome ε α × σ × Schedule ι → Prop
  | (.value a, w, es') => Q.value a w ∧ (es = [] → es' = [])
  | (.raised e, w, es') => Q.raised e w ∧ (es = [] → Q.refused e w ∧ es' = [])
  | (.crashed, w, _) => Q.crashed w ∧ es ≠ []

/-- The same promises for a part of the program that answers something else. -/
def Post.part (Q : Post σ ε β) (R : α → σ → Prop) : Post σ ε α :=
  ⟨R, Q.raised, Q.refused, Q.crashed, Q.step⟩

def Meets (ι : Type) [Surroundings σ ι] (p : Prog σ ε α) (Q : Post σ ε α) (w : σ) : Prop :=
  ∀ es : Schedule ι, Q.Allows es (p.run es w) ∧ ∀ s ∈ p.steps es w, Q.step s.1 s.2

/-- A part of a run that began on the schedule `es` inherits its quietness. -/
theorem Post.Allows.of_rest {Q : Post σ ε α} {es es' : Schedule ι}
    {r : Outcome ε α × σ × Schedule ι} (h : Q.Allows es' r) (hq : es = [] → es' = []) :
    Q.Allows es r := by
  rcases r with ⟨a | e | _, w, es''⟩
  · exact ⟨h.1, fun hes => h.2 (hq hes)⟩
  · exact ⟨h.1, fun hes => h.2 (hq hes)⟩
  · exact ⟨h.1, fun hes => h.2 (hq hes)⟩

namespace Meets
variable [Surroundings σ ι] {p : Prog σ ε α} {f : α → Prog σ ε β} {w : σ}

theorem mono {Q R : Post σ ε α} (h : Meets ι p Q w)
    (hv : ∀ a w', Q.value a w' → R.value a w')
    (hr : ∀ e w', Q.raised e w' → R.raised e w')
    (hf : ∀ e w', Q.refused e w' → R.refused e w')
    (hc : ∀ w', Q.crashed w' → R.crashed w')
    (hs : ∀ w' w'', Q.step w' w'' → R.step w' w'') : Meets ι p R w := by
  intro es
  obtain ⟨hes, hsteps⟩ := h es
  refine ⟨?_, fun s hs' => hs _ _ (hsteps s hs')⟩
  rcases hrun : p.run es w with ⟨a | e | _, w', es'⟩ <;> rw [hrun] at hes
  · exact ⟨hv _ _ hes.1, hes.2⟩
  · exact ⟨hr _ _ hes.1, fun hq => ⟨hf _ _ (hes.2 hq).1, (hes.2 hq).2⟩⟩
  · exact ⟨hc _ hes.1, hes.2⟩

theorem ret {Q : Post σ ε α} {a : α} (h : Q.value a w) :
    Meets ι (Prog.ret a : Prog σ ε α) Q w :=
  fun _ => ⟨⟨h, id⟩, fun _ hs => absurd hs List.not_mem_nil⟩

theorem pure {Q : Post σ ε α} {a : α} (h : Q.value a w) :
    Meets ι (Pure.pure a : Prog σ ε α) Q w := Meets.ret h

theorem raise {Q : Post σ ε α} {e : ε} (h : Q.raised e w) (hf : Q.refused e w) :
    Meets ι (Prog.raise e : Prog σ ε α) Q w :=
  fun _ => ⟨⟨h, fun hq => ⟨hf, hq⟩⟩, fun _ hs => absurd hs List.not_mem_nil⟩

theorem throw {Q : Post σ ε α} {e : ε} (h : Q.raised e w) (hf : Q.refused e w) :
    Meets ι (throw e : Prog σ ε α) Q w := Meets.raise h hf

/-- Sequencing: the second part starts wherever the first one returned. -/
theorem bind {Q : Post σ ε β} {R : α → σ → Prop} (hp : Meets ι p (Q.part R) w)
    (hf : ∀ a w', R a w' → Meets ι (f a) Q w') : Meets ι (p >>= f) Q w := by
  intro es
  obtain ⟨hes, hsteps⟩ := hp es
  rw [Prog.run_bind, Prog.steps_bind]
  rcases hrun : p.run es w with ⟨a | e | _, w', es'⟩ <;> rw [hrun] at hes
  · obtain ⟨hrest, hmore⟩ := hf a w' hes.1 es'
    refine ⟨hrest.of_rest hes.2, fun s hs => ?_⟩
    rcases List.mem_append.mp hs with hs | hs
    · exact hsteps s hs
    · exact hmore s hs
  · refine ⟨hes, fun s hs => hsteps s ?_⟩
    rwa [Prog.stepsAfter, List.append_nil] at hs
  · refine ⟨hes, fun s hs => hsteps s ?_⟩
    rwa [Prog.stepsAfter, List.append_nil] at hs

/-- A handler of injected errors owes nothing in a quiet run; a handler of the
program's own errors keeps the quiet promise. -/
theorem handle {Q : Post σ ε α} {R S : ε → σ → Prop} {h : ε → Prog σ ε α}
    (hp : Meets ι p ⟨Q.value, R, S, Q.crashed, Q.step⟩ w)
    (hr : ∀ e w', R e w' →
      Meets ι (h e) ⟨Q.value, Q.raised, fun _ _ => True, Q.crashed, Q.step⟩ w')
    (hs : ∀ e w', S e w' → Meets ι (h e) Q w') : Meets ι (tryCatch p h) Q w := by
  intro es
  obtain ⟨hes, hsteps⟩ := hp es
  rw [Prog.run_handle, Prog.steps_handle]
  rcases hrun : p.run es w with ⟨a | e | _, w', es'⟩ <;> rw [hrun] at hes
  · refine ⟨hes, fun s hs => hsteps s ?_⟩
    rwa [Prog.stepsRescue, List.append_nil] at hs
  · obtain ⟨hrest, hmore⟩ := hr e w' hes.1 es'
    refine ⟨?_, fun s hs => ?_⟩
    · by_cases hq : es = []
      · exact (hs e w' (hes.2 hq).1 es').1.of_rest fun h => (hes.2 h).2
      · rw [Prog.rescue]
        rcases hnext : (h e).run es' w' with ⟨b | e' | _, w'', es''⟩ <;> rw [hnext] at hrest
        · exact ⟨hrest.1, fun hq' => absurd hq' hq⟩
        · exact ⟨hrest.1, fun hq' => absurd hq' hq⟩
        · exact ⟨hrest.1, hq⟩
    · rcases List.mem_append.mp hs with hs | hs
      · exact hsteps s hs
      · exact hmore s hs
  · refine ⟨hes, fun s hs => hsteps s ?_⟩
    rwa [Prog.stepsRescue, List.append_nil] at hs

theorem attempt {ε' : Type} {Q : Post σ ε' (Except ε α)}
    (hp : Meets ι p ⟨fun a w' => Q.value (.ok a) w', fun e w' => Q.value (.error e) w',
      fun _ _ => True, Q.crashed, Q.step⟩ w) : Meets ι (Prog.attempt p) Q w := by
  intro es
  obtain ⟨hes, hsteps⟩ := hp es
  rw [Prog.run_attempt, Prog.steps_attempt]
  refine ⟨?_, hsteps⟩
  rcases hrun : p.run es w with ⟨a | e | _, w', es'⟩ <;> rw [hrun] at hes
  · exact hes
  · exact ⟨hes.1, fun hq => (hes.2 hq).2⟩
  · exact hes

theorem ofExcept {Q : Post σ ε α} {r : Except ε α}
    (h : match r with
      | .ok a => Q.value a w
      | .error e => Q.raised e w ∧ Q.refused e w) :
    Meets ι (Prog.ofExcept r) Q w := by
  cases r with
  | ok a => exact Meets.ret h
  | error e => exact Meets.raise h.1 h.2

theorem steps_ofExcept (r : Except ε α) (es : Schedule ι) (w : σ) :
    (Prog.ofExcept r : Prog σ ε α).steps es w = [] := by
  cases r <;> rfl

/-- The effect rule. After any moves of the surroundings the state must be fit
to be left behind, and the effect's own answer must be accounted for. -/
theorem effect {Q : Post σ ε α} {failure : ε} {act : σ → Except ε α × σ}
    (hcrash : ∀ w', Moved ι w w' → Q.crashed w')
    (hlost : ∀ w', Moved ι w w' →
      Q.raised failure w' ∧ Q.raised failure (act w').2)
    (hstep : ∀ w', Moved ι w w' → Q.step w' (act w').2)
    (hact : ∀ w', Moved ι w w' → match (act w').1 with
      | .ok a => Q.value a (act w').2
      | .error e => Q.raised e (act w').2 ∧ Q.refused e (act w').2) :
    Meets ι (Prog.effect failure act) Q w := by
  intro es
  rcases es with _ | ⟨⟨moves, fault⟩, es⟩
  · refine ⟨(ofExcept (hact w (.refl w)) []).1.of_rest id, fun s hs => ?_⟩
    rw [Prog.effect, Prog.steps, steps_ofExcept] at hs
    rw [List.mem_singleton.mp hs]
    exact hstep w (.refl w)
  · have hm := moved_settle moves w
    have hne : (⟨moves, fault⟩ :: es : Schedule ι) ≠ [] := List.cons_ne_nil _ _
    refine ⟨?_, fun s hs => ?_⟩
    · cases fault with
      | none => exact (ofExcept (hact _ hm) es).1.of_rest fun hq => absurd hq hne
      | crash => exact ⟨hcrash _ hm, hne⟩
      | lost => exact ⟨(hlost _ hm).1, fun hq => absurd hq hne⟩
      | late => exact ⟨(hlost _ hm).2, fun hq => absurd hq hne⟩
    · have hperformed : s = (Prog.settle moves w, (act (Prog.settle moves w)).2) := by
        cases fault with
        | none =>
          rw [Prog.effect, Prog.steps, steps_ofExcept] at hs
          exact List.mem_singleton.mp hs
        | crash => exact absurd hs List.not_mem_nil
        | lost => exact absurd hs List.not_mem_nil
        | late =>
          rw [Prog.effect, Prog.steps, Prog.steps] at hs
          exact List.mem_singleton.mp hs
      rw [hperformed]
      exact hstep _ hm

theorem look {Q : Post σ ε α} {failure : ε} {view : σ → Except ε α}
    (hcrash : ∀ w', Moved ι w w' → Q.crashed w')
    (hlost : ∀ w', Moved ι w w' → Q.raised failure w')
    (hstep : ∀ w', Moved ι w w' → Q.step w' w')
    (hview : ∀ w', Moved ι w w' → match view w' with
      | .ok a => Q.value a w'
      | .error e => Q.raised e w' ∧ Q.refused e w') :
    Meets ι (Prog.look failure view) Q w := by
  exact effect hcrash (fun w' hm => ⟨hlost w' hm, hlost w' hm⟩) hstep hview

theorem change {Q : Post σ ε Unit} {failure : ε} {next : σ → σ}
    (hcrash : ∀ w', Moved ι w w' → Q.crashed w')
    (hlost : ∀ w', Moved ι w w' → Q.raised failure w' ∧ Q.raised failure (next w'))
    (hstep : ∀ w', Moved ι w w' → Q.step w' (next w'))
    (hnext : ∀ w', Moved ι w w' → Q.value () (next w')) :
    Meets ι (Prog.change failure next) Q w := effect hcrash hlost hstep hnext

/-- A property that the surroundings and the program's own effects leave alone
holds wherever a run ends. -/
theorem frame {Q : Post σ ε α} {J : σ → Prop} (h : Meets ι p Q w)
    (hmove : ∀ (i : ι) w', J w' → J (Surroundings.move i w'))
    (hstep : ∀ w' w'', Q.step w' w'' → J w' → J w'') (hw : J w) (es : Schedule ι) :
    J (p.run es w).2.1 := by
  have hsteps := (h es).2
  clear h
  have hsettle (moves : List ι) (w' : σ) : J w' → J (Prog.settle moves w') :=
    (moved_settle moves w').preserves hmove
  induction p generalizing es w with
  | ret a => exact hw
  | raise e => exact hw
  | eff next cont failed ihc ihf =>
    rcases es with _ | ⟨⟨moves, fault⟩, es⟩
    · have hnext := hstep _ _ (hsteps _ (List.mem_cons_self ..)) hw
      exact ihc w hnext [] fun s hs => hsteps s (List.mem_cons_of_mem _ hs)
    · have hm := hsettle moves w hw
      cases fault with
      | none =>
        have hnext := hstep _ _ (hsteps _ (List.mem_cons_self ..)) hm
        exact ihc _ hnext es fun s hs => hsteps s (List.mem_cons_of_mem _ hs)
      | crash => exact hm
      | lost => exact ihf hm es hsteps
      | late =>
        have hnext := hstep _ _ (hsteps _ (List.mem_cons_self ..)) hm
        exact ihf hnext es fun s hs => hsteps s (List.mem_cons_of_mem _ hs)

/-- The effect rule where one assertion survives the surroundings. -/
theorem stable_effect {Q : Post σ ε α} {P : σ → Prop} {failure : ε}
    {act : σ → Except ε α × σ} (hmove : ∀ (i : ι) w', P w' → P (Surroundings.move i w'))
    (hw : P w) (hcrash : ∀ w', P w' → Q.crashed w')
    (hlost : ∀ w', P w' → Q.raised failure w' ∧ Q.raised failure (act w').2)
    (hstep : ∀ w', P w' → Q.step w' (act w').2)
    (hact : ∀ w', P w' → match (act w').1 with
      | .ok a => Q.value a (act w').2
      | .error e => Q.raised e (act w').2 ∧ Q.refused e (act w').2) :
    Meets ι (Prog.effect failure act) Q w := by
  have hP : ∀ w', Moved ι w w' → P w' := fun w' hm => hm.preserves hmove hw
  exact effect (fun w' hm => hcrash w' (hP w' hm)) (fun w' hm => hlost w' (hP w' hm))
    (fun w' hm => hstep w' (hP w' hm)) (fun w' hm => hact w' (hP w' hm))

end Meets

/-! ## Surroundings that make only some of their moves -/

section Limited
variable {M : ι → Prop} [Surroundings σ ι] {p : Prog σ ε α} {w : σ}

instance : Surroundings σ {i : ι // M i} := ⟨fun i => Surroundings.move i.1⟩

def Event.forget (e : Event {i : ι // M i}) : Event ι := ⟨e.moves.map Subtype.val, e.fault⟩

theorem settle_forget (moves : List {i : ι // M i}) (w : σ) :
    Prog.settle (moves.map Subtype.val) w = Prog.settle moves w := by
  rw [Prog.settle, List.foldl_map]
  rfl

theorem run_forget (es : Schedule {i : ι // M i}) (w : σ) :
    p.run (es.map Event.forget) w =
      ((p.run es w).1, (p.run es w).2.1, (p.run es w).2.2.map Event.forget) := by
  induction p generalizing es w with
  | ret a => rw [Prog.run, Prog.run]
  | raise e => rw [Prog.run, Prog.run]
  | eff next cont failed ihc ihf =>
    rcases es with _ | ⟨⟨moves, _ | _ | _ | _⟩, es⟩
    · exact ihc w [] (next w)
    all_goals
      rw [List.map_cons, Event.forget]
      simp only [Prog.run, settle_forget, ihc, ihf]

theorem exists_forget {es : Schedule ι} (h : ∀ e ∈ es, ∀ i ∈ e.moves, M i) :
    ∃ es' : Schedule {i : ι // M i}, es'.map Event.forget = es := by
  induction es with
  | nil => exact ⟨[], rfl⟩
  | cons e es ih =>
    rw [List.forall_mem_cons] at h
    obtain ⟨es', hes'⟩ := ih h.2
    refine ⟨⟨e.moves.attachWith M h.1, e.fault⟩ :: es', ?_⟩
    rw [List.map_cons, hes', Event.forget, List.attachWith_map_subtype_val]

/-- A run whose surroundings make only moves in `M`. -/
theorem Meets.limited {Q : Post σ ε α} (h : Meets {i : ι // M i} p Q w) {es : Schedule ι}
    (hes : ∀ e ∈ es, ∀ i ∈ e.moves, M i) : Q.Allows es (p.run es w) := by
  obtain ⟨es', rfl⟩ := exists_forget hes
  have hallows := (h es').1
  rw [run_forget]
  rcases hrun : p.run es' w with ⟨a | e | _, w', rest⟩ <;> rw [hrun] at hallows
  · exact ⟨hallows.1, fun hnil => by rw [hallows.2 (List.map_eq_nil_iff.mp hnil)]; rfl⟩
  · refine ⟨hallows.1, fun hnil => ?_⟩
    obtain ⟨hrefused, hrest⟩ := hallows.2 (List.map_eq_nil_iff.mp hnil)
    exact ⟨hrefused, by rw [hrest]; rfl⟩
  · exact ⟨hallows.1, mt List.map_eq_nil_iff.mp hallows.2⟩

end Limited

/-- Every effect the program can ever perform is an `R` step. -/
def Within (R : σ → σ → Prop) : Prog σ ε α → Prop
  | .ret _ => True
  | .raise _ => True
  | .eff next cont failed =>
    (∀ w, R w (next w)) ∧ (∀ w, Within R (cont w)) ∧ Within R failed

namespace Within
variable {R : σ → σ → Prop} {p : Prog σ ε α} {f : α → Prog σ ε β} {h : ε → Prog σ ε α}

theorem pure (a : α) : Within R (Pure.pure a : Prog σ ε α) := trivial

theorem throw (e : ε) : Within R (throw e : Prog σ ε α) := trivial

theorem bind (hp : Within R p) (hf : ∀ a, Within R (f a)) : Within R (p >>= f) := by
  change Within R (Prog.bind p f)
  induction p with
  | ret a => exact hf a
  | raise e => trivial
  | eff next cont failed ihc ihf => exact ⟨hp.1, fun w => ihc w (hp.2.1 w), ihf hp.2.2⟩

theorem handle (hp : Within R p) (hh : ∀ e, Within R (h e)) : Within R (tryCatch p h) := by
  change Within R (Prog.handle p h)
  induction p with
  | ret a => trivial
  | raise e => exact hh e
  | eff next cont failed ihc ihf => exact ⟨hp.1, fun w => ihc w (hp.2.1 w), ihf hp.2.2⟩

theorem mono {R' : σ → σ → Prop} (hp : Within R p) (h : ∀ w w', R w w' → R' w w') :
    Within R' p := by
  induction p with
  | ret a => trivial
  | raise e => trivial
  | eff next cont failed ihc ihf =>
    exact ⟨fun w => h _ _ (hp.1 w), fun w => ihc w (hp.2.1 w), ihf hp.2.2⟩

theorem attempt {ε' : Type} (hp : Within R p) :
    Within R (Prog.attempt p : Prog σ ε' (Except ε α)) := by
  induction p with
  | ret a => trivial
  | raise e => trivial
  | eff next cont failed ihc ihf => exact ⟨hp.1, fun w => ihc w (hp.2.1 w), ihf hp.2.2⟩

theorem ofExcept (r : Except ε α) : Within R (Prog.ofExcept r : Prog σ ε α) := by
  cases r <;> trivial

theorem effect {failure : ε} {act : σ → Except ε α × σ} (hact : ∀ w, R w (act w).2) :
    Within R (Prog.effect failure act) := ⟨hact, fun _ => ofExcept _, trivial⟩

theorem look (hrefl : ∀ w, R w w) {failure : ε} {view : σ → Except ε α} :
    Within R (Prog.look failure view) := effect hrefl

/-- A run stays within `R` when the surroundings do. -/
theorem run [Surroundings σ ι] (hp : Within R p) (hrefl : ∀ w, R w w)
    (htrans : ∀ {w w' w''}, R w w' → R w' w'' → R w w'')
    (hmove : ∀ (i : ι) w, R w (Surroundings.move i w)) (es : Schedule ι) (w : σ) :
    R w (p.run es w).2.1 := by
  have hsettle (moves : List ι) (w : σ) : R w (Prog.settle moves w) :=
    (moved_settle moves w).preserves (fun i w' h => htrans h (hmove i w')) (hrefl w)
  induction p generalizing es w with
  | ret a => exact hrefl w
  | raise e => exact hrefl w
  | eff next cont failed ihc ihf =>
    rcases es with _ | ⟨⟨moves, _ | _ | _ | _⟩, es⟩
    · exact htrans (hp.1 w) (ihc w (hp.2.1 w) _ _)
    · exact htrans (hsettle moves w) (htrans (hp.1 _) (ihc _ (hp.2.1 _) _ _))
    · exact hsettle moves w
    · exact htrans (hsettle moves w) (ihf hp.2.2 _ _)
    · exact htrans (hsettle moves w) (htrans (hp.1 _) (ihf hp.2.2 _ _))

end Within

end MediaSync.FaultPrograms
