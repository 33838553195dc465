import MediaSync.Common.FaultPrograms

/-!
# Runs without faults

In a quiet run no effect is lost, late or the last one; the surroundings may
still move between any two effects. A quiet run always ends, and `Ends` says how:
with a value or with an error, and what holds of the state then. The rules
follow the structure of the program.
-/
namespace MediaSync.QuietRuns
open FaultPrograms Prog

variable {σ ι ε α β : Type}

def Quiet (es : Schedule ι) : Prop := ∀ e ∈ es, e.fault = .none

/-- What holds when a quiet run has ended. -/
def Ended (Q : α → σ → Prop) (E : ε → σ → Prop) : Outcome ε α × σ × Schedule ι → Prop
  | (.value a, w, es) => Q a w ∧ Quiet es
  | (.raised e, w, es) => E e w ∧ Quiet es
  | (.crashed, _, _) => False

/-- Every quiet run from `w` returns with `Q` or raises with `E`. -/
def Ends (ι : Type) [Surroundings σ ι] (p : Prog σ ε α) (Q : α → σ → Prop) (E : ε → σ → Prop)
    (w : σ) : Prop :=
  ∀ es : Schedule ι, Quiet es → Ended Q E (p.run es w)

namespace Ends
variable [Surroundings σ ι] {p : Prog σ ε α} {f : α → Prog σ ε β} {Q : α → σ → Prop}
  {E : ε → σ → Prop} {w : σ}

theorem mono {Q' : α → σ → Prop} {E' : ε → σ → Prop} (h : Ends ι p Q E w)
    (hQ : ∀ a w', Q a w' → Q' a w') (hE : ∀ e w', E e w' → E' e w') : Ends ι p Q' E' w := by
  intro es hes
  have hended := h es hes
  rcases hrun : p.run es w with ⟨a | e | _, w', es'⟩ <;> rw [hrun] at hended
  · exact ⟨hQ a w' hended.1, hended.2⟩
  · exact ⟨hE e w' hended.1, hended.2⟩
  · exact hended

theorem ret {a : α} (h : Q a w) : Ends ι (Prog.ret a) Q E w := fun _ hes => ⟨h, hes⟩

theorem pure {a : α} (h : Q a w) : Ends ι (Pure.pure a : Prog σ ε α) Q E w := Ends.ret h

theorem throw {e : ε} (h : E e w) : Ends ι (MonadExceptOf.throw e : Prog σ ε α) Q E w :=
  fun _ hes => ⟨h, hes⟩

theorem ofExcept {r : Except ε α} (hok : ∀ a, r = .ok a → Q a w)
    (herror : ∀ e, r = .error e → E e w) : Ends ι (Prog.ofExcept r) Q E w := by
  cases r with
  | ok a => exact Ends.ret (hok a rfl)
  | error e => exact Ends.throw (herror e rfl)

theorem bind {R : β → σ → Prop} (hp : Ends ι p (fun a w' => Ends ι (f a) R E w') E w) :
    Ends ι (p >>= f) R E w := by
  intro es hes
  rw [Prog.run_bind]
  have hended := hp es hes
  rcases hrun : p.run es w with ⟨a | e | _, w', es'⟩ <;> rw [hrun] at hended
  · exact hended.1 es' hended.2
  · exact hended
  · exact hended.elim

/-- An effect happens in some state that the surroundings have left. -/
theorem effect {failure : ε} {act : σ → Except ε α × σ}
    (hok : ∀ w₁, Moved ι w w₁ → ∀ a, (act w₁).1 = .ok a → Q a (act w₁).2)
    (herror : ∀ w₁, Moved ι w w₁ → ∀ e, (act w₁).1 = .error e → E e (act w₁).2) :
    Ends ι (Prog.effect failure act) Q E w := by
  have hdone (w₁ : σ) (hmoved : Moved ι w w₁) :
      Ends ι (Prog.ofExcept (act w₁).1) Q E (act w₁).2 :=
    Ends.ofExcept (hok w₁ hmoved) (herror w₁ hmoved)
  intro es hes
  rcases es with _ | ⟨⟨moves, fault⟩, es⟩
  · exact hdone w (.refl w) [] hes
  · have hnone : fault = .none := hes _ (List.mem_cons_self ..)
    subst hnone
    exact hdone _ (moved_settle moves w) es fun e he => hes e (List.mem_cons_of_mem _ he)

theorem look {failure : ε} {view : σ → Except ε α}
    (hok : ∀ w₁, Moved ι w w₁ → ∀ a, view w₁ = .ok a → Q a w₁)
    (herror : ∀ w₁, Moved ι w w₁ → ∀ e, view w₁ = .error e → E e w₁) :
    Ends ι (Prog.look failure view) Q E w :=
  Ends.effect hok herror

theorem and {Q' : α → σ → Prop} {E' : ε → σ → Prop} (h : Ends ι p Q E w) (h' : Ends ι p Q' E' w) :
    Ends ι p (fun a w' => Q a w' ∧ Q' a w') (fun e w' => E e w' ∧ E' e w') w := by
  intro es hes
  have hended := h es hes
  have hended' := h' es hes
  rcases hrun : p.run es w with ⟨a | e | _, w', es'⟩ <;> rw [hrun] at hended hended'
  · exact ⟨⟨hended.1, hended'.1⟩, hended.2⟩
  · exact ⟨⟨hended.1, hended'.1⟩, hended.2⟩
  · exact hended

/-- There is a quiet run, and it has an end. -/
theorem outcome (h : Ends ι p Q E w) : (∃ a w', Q a w') ∨ ∃ e w', E e w' := by
  have hended := h [] fun _ he => absurd he List.not_mem_nil
  rcases hrun : p.run ([] : Schedule ι) w with ⟨a | e | _, w', es'⟩ <;> rw [hrun] at hended
  · exact .inl ⟨a, w', hended.1⟩
  · exact .inr ⟨e, w', hended.1⟩
  · exact hended.elim

/-- The surroundings may move before the first effect. -/
theorem settled {next : σ → σ} {cont : σ → Prog σ ε α} {failed : Prog σ ε α}
    (h : Ends ι (Prog.eff next cont failed) Q E w) (moves : List ι) :
    Ends ι (Prog.eff next cont failed) Q E (Prog.settle moves w) := by
  intro es hes
  rcases es with _ | ⟨⟨later, fault⟩, es⟩
  · exact h [⟨moves, .none⟩] fun e he => by rw [List.mem_singleton.mp he]
  · have hnone : fault = .none := hes _ (List.mem_cons_self ..)
    subst hnone
    have hquiet : Quiet ((⟨moves ++ later, .none⟩ : Event ι) :: es) := by
      intro e he
      rcases List.mem_cons.mp he with rfl | he
      · rfl
      · exact hes e (List.mem_cons_of_mem _ he)
    have hended := h _ hquiet
    unfold Prog.run Prog.settle at hended ⊢
    rw [List.foldl_append] at hended
    exact hended

end Ends

end MediaSync.QuietRuns
