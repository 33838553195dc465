import MediaSync.Common.FaultPrograms

/-!
# Runs with the effects they performed

What a run leaves is stated together with the list of its effects, so that it
can be said that an effect has happened, and not only what every effect does.
The rules follow the structure of the program and allow every fault.
-/
namespace MediaSync.TracedRuns
open FaultPrograms

variable {σ ι ε α β : Type}

/-- Every run from `w` ends with `Q`: the outcome, the state that is left, and
the effects in order, each as the states before and after it. -/
def Traced (ι : Type) [Surroundings σ ι] (p : Prog σ ε α)
    (Q : Outcome ε α → σ → List (σ × σ) → Prop) (w : σ) : Prop :=
  ∀ es : Schedule ι, Q (p.run es w).1 (p.run es w).2.1 (p.steps es w)

/-- A part that returned goes on with the rest; one that did not is the end. -/
def andThen (ι : Type) [Surroundings σ ι] (f : α → Prog σ ε β)
    (Q : Outcome ε β → σ → List (σ × σ) → Prop) : Outcome ε α → σ → List (σ × σ) → Prop
  | .value a, w, steps => Traced ι (f a) (fun o w' steps' => Q o w' (steps ++ steps')) w
  | .raised e, w, steps => Q (.raised e) w steps
  | .crashed, w, steps => Q .crashed w steps

namespace Traced
variable [Surroundings σ ι] {p : Prog σ ε α} {f : α → Prog σ ε β} {w : σ}
  {Q : Outcome ε α → σ → List (σ × σ) → Prop}

theorem mono {R : Outcome ε α → σ → List (σ × σ) → Prop} (h : Traced ι p Q w)
    (hQ : ∀ o w' steps, Q o w' steps → R o w' steps) : Traced ι p R w :=
  fun es => hQ _ _ _ (h es)

theorem ret {a : α} (h : Q (.value a) w []) : Traced ι (Prog.ret a) Q w := fun _ => h

theorem pure {a : α} (h : Q (.value a) w []) : Traced ι (Pure.pure a : Prog σ ε α) Q w :=
  Traced.ret h

theorem throw {e : ε} (h : Q (.raised e) w []) :
    Traced ι (MonadExceptOf.throw e : Prog σ ε α) Q w := fun _ => h

theorem ofExcept {r : Except ε α} (hok : ∀ a, r = .ok a → Q (.value a) w [])
    (herror : ∀ e, r = .error e → Q (.raised e) w []) : Traced ι (Prog.ofExcept r) Q w := by
  cases r with
  | ok a => exact Traced.ret (hok a rfl)
  | error e => exact Traced.throw (herror e rfl)

theorem bind {R : Outcome ε β → σ → List (σ × σ) → Prop}
    (hp : Traced ι p (andThen ι f R) w) : Traced ι (p >>= f) R w := by
  intro es
  have hfirst := hp es
  rw [Prog.run_bind, Prog.steps_bind]
  rcases hrun : p.run es w with ⟨a | e | _, w', es'⟩ <;> rw [hrun] at hfirst
  · exact hfirst es'
  · rw [Prog.stepsAfter, List.append_nil]
    exact hfirst
  · rw [Prog.stepsAfter, List.append_nil]
    exact hfirst

/-- An effect that answers: the state before it is one that the surroundings
have left. A lost one raises without having happened, a late one after it. -/
theorem effect {failure : ε} {act : σ → Except ε α × σ}
    (hcrash : ∀ w', Moved ι w w' → Q .crashed w' [])
    (hlost : ∀ w', Moved ι w w' → Q (.raised failure) w' [] ∧
      Q (.raised failure) (act w').2 [(w', (act w').2)])
    (hact : ∀ w', Moved ι w w' → match (act w').1 with
      | .ok a => Q (.value a) (act w').2 [(w', (act w').2)]
      | .error e => Q (.raised e) (act w').2 [(w', (act w').2)]) :
    Traced ι (Prog.effect failure act) Q w := by
  have hdone (w' : σ) (hmoved : Moved ι w w') : Traced ι (Prog.ofExcept (act w').1)
      (fun o w'' steps => Q o w'' ((w', (act w').2) :: steps)) (act w').2 := by
    have h := hact w' hmoved
    refine Traced.ofExcept (fun a ha => ?_) fun e he => ?_
    · rw [ha] at h
      exact h
    · rw [he] at h
      exact h
  intro es
  rcases es with _ | ⟨⟨moves, _ | _ | _ | _⟩, es⟩
  · exact hdone w (.refl w) []
  · exact hdone _ (moved_settle moves w) es
  · exact hcrash _ (moved_settle moves w)
  · exact (hlost _ (moved_settle moves w)).1
  · exact (hlost _ (moved_settle moves w)).2

theorem look {failure : ε} {view : σ → Except ε α}
    (hcrash : ∀ w', Moved ι w w' → Q .crashed w' [])
    (hlost : ∀ w', Moved ι w w' → Q (.raised failure) w' [] ∧ Q (.raised failure) w' [(w', w')])
    (hview : ∀ w', Moved ι w w' → match view w' with
      | .ok a => Q (.value a) w' [(w', w')]
      | .error e => Q (.raised e) w' [(w', w')]) :
    Traced ι (Prog.look failure view) Q w := Traced.effect hcrash hlost hview

end Traced

/-! ## Promises -/

/-- A promise for every end of a run; unless the run stopped, it speaks of its
effects. -/
def promised (V : α → σ → List (σ × σ) → Prop) (E : ε → σ → List (σ × σ) → Prop) (C : σ → Prop) :
    Outcome ε α → σ → List (σ × σ) → Prop
  | .value a, w, steps => V a w steps
  | .raised e, w, steps => E e w steps
  | .crashed, w, _ => C w

section Promises
variable [Surroundings σ ι] {p : Prog σ ε α} {f : α → Prog σ ε β} {w : σ}
  {V : α → σ → List (σ × σ) → Prop} {E : ε → σ → List (σ × σ) → Prop} {C : σ → Prop}

/-- Sequencing: the second part starts wherever the first one returned. -/
theorem Traced.andThen {V' : β → σ → List (σ × σ) → Prop} (hp : Traced ι p (promised V E C) w)
    (hf : ∀ a w' steps, V a w' steps →
      Traced ι (f a) (promised (fun b w'' steps' => V' b w'' (steps ++ steps'))
        (fun e w'' steps' => E e w'' (steps ++ steps')) C) w') :
    Traced ι (p >>= f) (promised V' E C) w := by
  refine Traced.bind (hp.mono ?_)
  rintro (a | e | _) w' steps h
  · rw [TracedRuns.andThen]
    refine (hf a w' steps h).mono ?_
    rintro (b | e | _) w'' steps' h'
    · exact h'
    · exact h'
    · exact h'
  · exact h
  · exact h

/-- A handler goes on from wherever the error was raised. -/
theorem Traced.handle {R : ε → σ → List (σ × σ) → Prop} {h : ε → Prog σ ε α}
    (hp : Traced ι p (promised V R C) w)
    (hh : ∀ e w' steps, R e w' steps →
      Traced ι (h e) (promised (fun a w'' steps' => V a w'' (steps ++ steps'))
        (fun e w'' steps' => E e w'' (steps ++ steps')) C) w') :
    Traced ι (tryCatch p h) (promised V E C) w := by
  intro es
  have hfirst := hp es
  rw [Prog.run_handle, Prog.steps_handle]
  rcases hrun : p.run es w with ⟨a | e | _, w', es'⟩ <;> rw [hrun] at hfirst
  · rw [Prog.stepsRescue, List.append_nil]
    exact hfirst
  · have hrest := hh e w' _ hfirst es'
    rw [Prog.rescue, Prog.stepsRescue]
    rcases hnext : (h e).run es' w' with ⟨b | e' | _, w'', es''⟩ <;> rw [hnext] at hrest
    · exact hrest
    · exact hrest
    · exact hrest
  · exact hfirst

/-- The effect rule where one assertion survives the surroundings. -/
theorem Traced.stable_effect {P : σ → Prop} {failure : ε} {act : σ → Except ε α × σ}
    (hmove : ∀ (i : ι) w', P w' → P (Surroundings.move i w')) (hw : P w)
    (hcrash : ∀ w', P w' → C w')
    (hlost : ∀ w', P w' → E failure w' [] ∧ E failure (act w').2 [(w', (act w').2)])
    (hact : ∀ w', P w' → match (act w').1 with
      | .ok a => V a (act w').2 [(w', (act w').2)]
      | .error e => E e (act w').2 [(w', (act w').2)]) :
    Traced ι (Prog.effect failure act) (promised V E C) w := by
  have hP (w' : σ) (hmoved : Moved ι w w') : P w' := hmoved.preserves hmove hw
  refine Traced.effect (fun w' hmoved => hcrash w' (hP w' hmoved))
    (fun w' hmoved => hlost w' (hP w' hmoved)) fun w' hmoved => ?_
  have hanswer := hact w' (hP w' hmoved)
  cases hresult : (act w').1 with
  | ok a =>
    rw [hresult] at hanswer
    exact hanswer
  | error e =>
    rw [hresult] at hanswer
    exact hanswer

end Promises

/-! ## Runs that returned -/

/-- A run of `p` that begins at `w` can return `a` and leave `w'` with these
effects. -/
def Returned (ι : Type) [Surroundings σ ι] (p : Prog σ ε α) (w : σ) (a : α) (w' : σ)
    (steps : List (σ × σ)) : Prop :=
  ∃ es es' : Schedule ι, p.run es w = (.value a, w', es') ∧ p.steps es w = steps

namespace Returned
variable [Surroundings σ ι] {p : Prog σ ε α} {f : α → Prog σ ε β} {w w' : σ} {a : α} {b : β}
  {steps : List (σ × σ)}

theorem of_run {es : Schedule ι} {r : Outcome ε α × σ × Schedule ι} (hrun : p.run es w = r)
    (h : r.1 = .value a) : Returned ι p w a r.2.1 (p.steps es w) :=
  ⟨es, r.2.2, hrun.trans (Prod.ext h rfl), rfl⟩

theorem returns (h : Returned ι p w a w' steps) : Returns ι p w a w' := by
  obtain ⟨es, es', hrun, -⟩ := h
  exact ⟨es, es', hrun⟩

/-- Both parts of a sequence return. -/
theorem bind (h : Returned ι (p >>= f) w b w' steps) : ∃ a w₁ before after,
    Returned ι p w a w₁ before ∧ Returned ι (f a) w₁ b w' after ∧ steps = before ++ after := by
  obtain ⟨es, es', hrun, rfl⟩ := h
  rw [Prog.run_bind] at hrun
  rcases hfirst : p.run es w with ⟨a | e | _, w₁, es₁⟩ <;> rw [hfirst] at hrun
  · refine ⟨a, w₁, _, _, ⟨es, es₁, hfirst, rfl⟩, ⟨es₁, es', hrun, rfl⟩, ?_⟩
    rw [Prog.steps_bind, hfirst]
    rfl
  · cases hrun
  · cases hrun

/-- An effect that returned was performed in the state the surroundings had
left. -/
theorem effect {failure : ε} {act : σ → Except ε α × σ}
    (h : Returned ι (Prog.effect failure act) w a w' steps) :
    ∃ w₁, Moved ι w w₁ ∧ act w₁ = (.ok a, w') ∧ steps = [(w₁, w')] := by
  obtain ⟨es, es', hrun, hsteps⟩ := h
  have htraced : Traced ι (Prog.effect failure act) (fun o w' steps => ∀ a, o = .value a →
      ∃ w₁, Moved ι w w₁ ∧ act w₁ = (.ok a, w') ∧ steps = [(w₁, w')]) w := by
    refine Traced.effect (fun w' _ a h => by cases h)
      (fun w' _ => ⟨fun a h => (by cases h), fun a h => by cases h⟩) fun w' hmoved => ?_
    cases hact : (act w').1 with
    | ok b =>
      rintro a ⟨⟩
      exact ⟨w', hmoved, Prod.ext hact rfl, rfl⟩
    | error e =>
      intro a h
      cases h
  have hanswer := htraced es
  rw [hrun, hsteps] at hanswer
  exact hanswer a rfl

theorem look {failure : ε} {view : σ → Except ε α}
    (h : Returned ι (Prog.look failure view) w a w' steps) :
    Moved ι w w' ∧ view w' = .ok a ∧ steps = [(w', w')] := by
  obtain ⟨w₁, hmoved, hact, hsteps⟩ := h.effect
  obtain ⟨hview, rfl⟩ := Prod.mk.inj hact
  exact ⟨hmoved, hview, hsteps⟩

end Returned

/-! ## Surroundings that make only some of their moves -/

section Limited
variable {M : ι → Prop} [Surroundings σ ι] {p : Prog σ ε α} {w : σ}
  {Q : Outcome ε α → σ → List (σ × σ) → Prop}

theorem steps_forget (es : Schedule {i : ι // M i}) (w : σ) :
    p.steps (es.map Event.forget) w = p.steps es w := by
  induction p generalizing es w with
  | ret a => rw [Prog.steps, Prog.steps]
  | raise e => rw [Prog.steps, Prog.steps]
  | eff next cont failed ihc ihf =>
    rcases es with _ | ⟨⟨moves, _ | _ | _ | _⟩, es⟩
    · exact congrArg _ (ihc w [] (next w))
    all_goals
      rw [List.map_cons, Event.forget]
      simp only [Prog.steps, settle_forget, ihc, ihf]

/-- A run whose surroundings make only moves in `M`. -/
theorem Traced.limited (h : Traced {i : ι // M i} p Q w) {es : Schedule ι}
    (hes : ∀ e ∈ es, ∀ i ∈ e.moves, M i) : Q (p.run es w).1 (p.run es w).2.1 (p.steps es w) := by
  obtain ⟨es', rfl⟩ := exists_forget hes
  rw [run_forget, steps_forget]
  exact h es'

end Limited

end MediaSync.TracedRuns
