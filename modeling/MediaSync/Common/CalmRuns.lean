import MediaSync.Common.QuietRuns

/-!
# Runs that may be calm

One derivation for every run and for those without faults. The rules follow the
structure of the program; a fault has to be accounted for only where the run is
not known to be calm.
-/
namespace MediaSync.CalmRuns
open FaultPrograms QuietRuns

variable {σ ι ε α β : Type}

/-- What a run leaves, and that a calm one did not stop and goes on calmly. -/
def Finished (calm : Prop) (Q : α → σ → Prop) (E : ε → σ → Prop) :
    Outcome ε α × σ × Schedule ι → Prop
  | (.value a, w, es) => Q a w ∧ (calm → Quiet es)
  | (.raised e, w, es) => E e w ∧ (calm → Quiet es)
  | (.crashed, _, _) => ¬calm

/-- Every run from `w`, without faults if it is calm, returns with `Q`, raises
with `E` or stops. -/
def Finishes (calm : Prop) (ι : Type) [Surroundings σ ι] (p : Prog σ ε α) (Q : α → σ → Prop)
    (E : ε → σ → Prop) (w : σ) : Prop :=
  ∀ es : Schedule ι, (calm → Quiet es) → Finished calm Q E (p.run es w)

namespace Finishes
variable {calm : Prop} [Surroundings σ ι] {p : Prog σ ε α} {f : α → Prog σ ε β}
  {Q : α → σ → Prop} {E : ε → σ → Prop} {w : σ}

theorem ret {a : α} (h : Q a w) : Finishes calm ι (Prog.ret a) Q E w := fun _ hes => ⟨h, hes⟩

theorem pure {a : α} (h : Q a w) : Finishes calm ι (Pure.pure a : Prog σ ε α) Q E w :=
  Finishes.ret h

theorem throw {e : ε} (h : E e w) :
    Finishes calm ι (MonadExceptOf.throw e : Prog σ ε α) Q E w := fun _ hes => ⟨h, hes⟩

theorem ofExcept {r : Except ε α} (hok : ∀ a, r = .ok a → Q a w)
    (herror : ∀ e, r = .error e → E e w) : Finishes calm ι (Prog.ofExcept r) Q E w := by
  cases r with
  | ok a => exact Finishes.ret (hok a rfl)
  | error e => exact Finishes.throw (herror e rfl)

theorem bind {R : α → σ → Prop} {Q : β → σ → Prop} (hp : Finishes calm ι p R E w)
    (hf : ∀ a w', R a w' → Finishes calm ι (f a) Q E w') : Finishes calm ι (p >>= f) Q E w := by
  intro es hes
  have hfirst := hp es hes
  rw [Prog.run_bind]
  rcases hrun : p.run es w with ⟨a | e | _, w', es'⟩ <;> rw [hrun] at hfirst
  · exact hf a w' hfirst.1 es' hfirst.2
  · exact hfirst
  · exact hfirst

theorem post {Q' : α → σ → Prop} (hp : Finishes calm ι p Q E w)
    (h : ∀ a w', Q a w' → Q' a w') : Finishes calm ι p Q' E w := by
  intro es hes
  have hend := hp es hes
  rcases hrun : p.run es w with ⟨a | e | _, w', es'⟩ <;> rw [hrun] at hend
  · exact ⟨h a w' hend.1, hend.2⟩
  · exact hend
  · exact hend

/-- What holds wherever a run ends holds where it returned. -/
theorem keeps {P : σ → Prop} (hp : Finishes calm ι p Q E w)
    (h : ∀ es : Schedule ι, P (p.run es w).2.1) :
    Finishes calm ι p (fun a w' => Q a w' ∧ P w') E w := by
  intro es hes
  have hend := hp es hes
  have hkept := h es
  rcases hrun : p.run es w with ⟨a | e | _, w', es'⟩ <;> rw [hrun] at hend hkept
  · exact ⟨⟨hend.1, hkept⟩, hend.2⟩
  · exact hend
  · exact hend

/-- A handler of raised errors. -/
theorem handle {S : ε → σ → Prop} {h : ε → Prog σ ε α} (hp : Finishes calm ι p Q S w)
    (hh : ∀ e w', S e w' → Finishes calm ι (h e) Q E w') :
    Finishes calm ι (tryCatch p h) Q E w := by
  intro es hes
  have hfirst := hp es hes
  rw [Prog.run_handle]
  rcases hrun : p.run es w with ⟨a | e | _, w', es'⟩ <;> rw [hrun] at hfirst
  · exact hfirst
  · exact hh e w' hfirst.1 es' hfirst.2
  · exact hfirst

/-- An effect happens in some state that the surroundings have left. One that
may be lost or late raises `failure` there. -/
theorem effect {failure : ε} {act : σ → Except ε α × σ}
    (hfail : ¬calm → ∀ w', Moved ι w w' → E failure w' ∧ E failure (act w').2)
    (hact : ∀ w', Moved ι w w' → match (act w').1 with
      | .ok a => Q a (act w').2
      | .error e => E e (act w').2) :
    Finishes calm ι (Prog.effect failure act) Q E w := by
  have hdone (w' : σ) (hmoved : Moved ι w w') :
      Finishes calm ι (Prog.ofExcept (act w').1) Q E (act w').2 := by
    have h := hact w' hmoved
    refine Finishes.ofExcept (fun a ha => ?_) fun e he => ?_
    · rw [ha] at h
      exact h
    · rw [he] at h
      exact h
  intro es hes
  rcases es with _ | ⟨⟨moves, fault⟩, es⟩
  · exact hdone w (.refl w) [] hes
  · have hmoved := moved_settle moves w
    have hfaulty (h : fault ≠ .none) : ¬calm := fun hcalm =>
      h (hes hcalm _ (List.mem_cons_self ..))
    cases fault with
    | none => exact hdone _ hmoved es fun hcalm e he => hes hcalm e (List.mem_cons_of_mem _ he)
    | crash => exact hfaulty Fault.noConfusion
    | lost =>
      have hnot := hfaulty Fault.noConfusion
      exact ⟨(hfail hnot _ hmoved).1, fun hcalm => absurd hcalm hnot⟩
    | late =>
      have hnot := hfaulty Fault.noConfusion
      exact ⟨(hfail hnot _ hmoved).2, fun hcalm => absurd hcalm hnot⟩

theorem look {failure : ε} {view : σ → Except ε α}
    (hfail : ¬calm → ∀ w', Moved ι w w' → E failure w')
    (hview : ∀ w', Moved ι w w' → match view w' with
      | .ok a => Q a w'
      | .error e => E e w') : Finishes calm ι (Prog.look failure view) Q E w :=
  Finishes.effect (fun hcalm w' hmoved => ⟨hfail hcalm w' hmoved, hfail hcalm w' hmoved⟩) hview

end Finishes

end MediaSync.CalmRuns
