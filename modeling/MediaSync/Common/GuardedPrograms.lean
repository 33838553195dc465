import MediaSync.Common.FaultPrograms

/-!
# Programs that keep an invariant at every effect

A contract names what has to hold in every state a process can leave behind,
and what each of its effects may do. `Guarded` is the program logic for one
contract: assertions between the effects imply the invariant and survive the
moves of the surroundings, so a stop, a raise and a return are all safe.
-/
namespace MediaSync.GuardedPrograms
open FaultPrograms

variable {σ ι ε α β : Type}

/-! ## Loops -/

/-- `while` with a bound on its turns, which raises when the bound is reached. -/
def whileLoop (going : α → Bool) (body : α → Prog σ ε α) (stuck : ε) : ℕ → α → Prog σ ε α
  | 0, _ => throw stuck
  | turns + 1, a => if going a then body a >>= whileLoop going body stuck turns else pure a

/-- Whatever the program answers satisfies `P`. -/
def Answers (P : α → Prop) : Prog σ ε α → Prop
  | .ret a => P a
  | .raise _ => True
  | .eff _ cont failed => (∀ w, Answers P (cont w)) ∧ Answers P failed

namespace Answers
variable {P : α → Prop} {Q : β → Prop} {p : Prog σ ε α} {f g : α → Prog σ ε β}

theorem pure {a : α} (h : P a) : Answers P (Pure.pure a : Prog σ ε α) := h

theorem any : Answers (fun _ : α => True) p := by
  induction p with
  | ret a => trivial
  | raise e => trivial
  | eff next cont failed ihc ihf => exact ⟨ihc, ihf⟩

theorem mono {R : α → Prop} (hp : Answers P p) (h : ∀ a, P a → R a) : Answers R p := by
  induction p with
  | ret a => exact h a hp
  | raise e => trivial
  | eff next cont failed ihc ihf => exact ⟨fun w => ihc w (hp.1 w), ihf hp.2⟩

theorem bind (hp : Answers P p) (hf : ∀ a, P a → Answers Q (f a)) : Answers Q (p >>= f) := by
  change Answers Q (Prog.bind p f)
  induction p with
  | ret a => exact hf a hp
  | raise e => trivial
  | eff next cont failed ihc ihf => exact ⟨fun w => ihc w (hp.1 w), ihf hp.2⟩

theorem effect {failure : ε} {act : σ → Except ε α × σ} (h : ∀ w a, (act w).1 = .ok a → P a) :
    Answers P (Prog.effect failure act) := by
  refine ⟨fun w => ?_, trivial⟩
  change Answers P (Prog.ofExcept (act w).1)
  cases hanswer : (act w).1 with
  | ok a => exact h w a hanswer
  | error e => trivial

theorem look {failure : ε} {view : σ → Except ε α} (h : ∀ w a, view w = .ok a → P a) :
    Answers P (Prog.look failure view) := effect h

/-- What comes after depends on the answers that are possible only. -/
theorem bind_congr (hp : Answers P p) (h : ∀ a, P a → f a = g a) : p >>= f = p >>= g := by
  change Prog.bind p f = Prog.bind p g
  induction p with
  | ret a => exact h a hp
  | raise e => rfl
  | eff next cont failed ihc ihf =>
    rw [Prog.bind, Prog.bind, ihf hp.2, funext fun w => ihc w (hp.1 w)]

end Answers

/-- A loop whose body lowers a rank never reaches its bound. -/
theorem whileLoop_turns {going : α → Bool} {body : α → Prog σ ε α} {stuck : ε} (rank : α → ℕ)
    (h : ∀ a, going a = true → Answers (fun b => rank b < rank a) (body a)) {m n : ℕ} {a : α}
    (hm : rank a < m) (hn : rank a < n) :
    whileLoop going body stuck m a = whileLoop going body stuck n a := by
  induction m generalizing n a with
  | zero => omega
  | succ m ih =>
    obtain ⟨n, rfl⟩ := Nat.exists_eq_succ_of_ne_zero (Nat.ne_of_gt (Nat.zero_lt_of_lt hn))
    cases hgoing : going a with
    | false => simp only [whileLoop, hgoing, Bool.false_eq_true, if_false]
    | true =>
      simp only [whileLoop, hgoing, if_true]
      refine (h a hgoing).bind_congr fun b hb => ih ?_ ?_
      · omega
      · omega

/-! ## What lasts to the end of a run -/

section Lasting
variable [Surroundings σ ι] {P : σ → Prop} {p : Prog σ ε α} {es : Schedule ι} {w : σ}

/-- What the surroundings and the effects keep holds before every effect and in
the end. -/
theorem lasts (hmove : ∀ (i : ι) w, P w → P (Surroundings.move i w))
    (hsteps : ∀ s ∈ p.steps es w, P s.1 → P s.2) (hw : P w) :
    (∀ s ∈ p.steps es w, P s.1) ∧ P (p.run es w).2.1 := by
  have hsettle (moves : List ι) (w : σ) (hw : P w) : P (Prog.settle moves w) :=
    (moved_settle moves w).preserves hmove hw
  induction p generalizing es w with
  | ret a => exact ⟨fun s hs => absurd hs List.not_mem_nil, hw⟩
  | raise e => exact ⟨fun s hs => absurd hs List.not_mem_nil, hw⟩
  | eff next cont failed ihc ihf =>
    rcases es with _ | ⟨⟨moves, _ | _ | _ | _⟩, es⟩
    · obtain ⟨hfirst, hrest⟩ := List.forall_mem_cons.mp hsteps
      obtain ⟨hbefore, hend⟩ := ihc w hrest (hfirst hw)
      exact ⟨List.forall_mem_cons.mpr ⟨hw, hbefore⟩, hend⟩
    · have hm := hsettle moves w hw
      obtain ⟨hfirst, hrest⟩ := List.forall_mem_cons.mp hsteps
      obtain ⟨hbefore, hend⟩ := ihc _ hrest (hfirst hm)
      exact ⟨List.forall_mem_cons.mpr ⟨hm, hbefore⟩, hend⟩
    · exact ⟨fun s hs => absurd hs List.not_mem_nil, hsettle moves w hw⟩
    · exact ihf hsteps (hsettle moves w hw)
    · have hm := hsettle moves w hw
      obtain ⟨hfirst, hrest⟩ := List.forall_mem_cons.mp hsteps
      obtain ⟨hbefore, hend⟩ := ihf hrest (hfirst hm)
      exact ⟨List.forall_mem_cons.mpr ⟨hm, hbefore⟩, hend⟩

/-- The same from the effect on that brought it about. -/
theorem lasts_after (hmove : ∀ (i : ι) w, P w → P (Surroundings.move i w))
    (hsteps : ∀ s ∈ p.steps es w, P s.1 → P s.2) {early late : List (σ × σ)}
    (hsplit : p.steps es w = early ++ late) {s : σ × σ} (hs : s ∈ early) (h : P s.2) :
    (∀ s ∈ late, P s.1) ∧ P (p.run es w).2.1 := by
  have hcons {q : Prog σ ε α} {es : Schedule ι} {first : σ × σ} {early : List (σ × σ)}
      (ih : ∀ {early : List (σ × σ)}, (∀ s ∈ q.steps es first.2, P s.1 → P s.2) →
        q.steps es first.2 = early ++ late → s ∈ early →
          (∀ s ∈ late, P s.1) ∧ P (q.run es first.2).2.1)
      (hsteps : ∀ s ∈ first :: q.steps es first.2, P s.1 → P s.2)
      (hsplit : first :: q.steps es first.2 = early ++ late) (hs : s ∈ early) :
      (∀ s ∈ late, P s.1) ∧ P (q.run es first.2).2.1 := by
    have hrest := (List.forall_mem_cons.mp hsteps).2
    rcases List.cons_eq_append_iff.mp hsplit with ⟨rfl, _⟩ | ⟨early', rfl, hlater⟩
    · exact absurd hs List.not_mem_nil
    · rcases List.mem_cons.mp hs with rfl | hs
      · obtain ⟨hbefore, hend⟩ := lasts hmove hrest h
        exact ⟨fun s hs => hbefore s (hlater ▸ List.mem_append_right early' hs), hend⟩
      · exact ih hrest hlater hs
  have hnone {early : List (σ × σ)} (hsplit : [] = early ++ late) : s ∉ early := by
    rw [(List.append_eq_nil_iff.mp hsplit.symm).1]
    exact List.not_mem_nil
  induction p generalizing es w early with
  | ret a => exact absurd hs (hnone hsplit)
  | raise e => exact absurd hs (hnone hsplit)
  | eff next cont failed ihc ihf =>
    rcases es with _ | ⟨⟨moves, _ | _ | _ | _⟩, es⟩
    · exact hcons (fun hrest hlater hs => ihc w hrest hlater hs) hsteps hsplit hs
    · exact hcons (fun hrest hlater hs => ihc _ hrest hlater hs) hsteps hsplit hs
    · exact absurd hs (hnone hsplit)
    · exact ihf hsteps hsplit hs
    · exact hcons (fun hrest hlater hs => ihf hrest hlater hs) hsteps hsplit hs

end Lasting

/-! ## Contracts -/

/-- What always holds, and what an effect may do. -/
structure Contract (σ : Type) where
  always : σ → Prop
  step : σ → σ → Prop
  refl (w : σ) : always w → step w w

def Contract.post (C : Contract σ) (R : α → σ → Prop) : Post σ ε α :=
  ⟨R, fun _ => C.always, fun _ => C.always, C.always, C.step⟩

/-- An assertion that the surroundings leave alone and that implies the
invariant. -/
structure Held (ι : Type) [Surroundings σ ι] (C : Contract σ) (A : σ → Prop) : Prop where
  safe (w : σ) : A w → C.always w
  stable (i : ι) (w : σ) : A w → A (Surroundings.move i w)

def Guarded (ι : Type) [Surroundings σ ι] (C : Contract σ) (A : σ → Prop) (p : Prog σ ε α)
    (R : α → σ → Prop) : Prop :=
  ∀ w, A w → Meets ι p (C.post R) w

namespace Held
variable [Surroundings σ ι] {C : Contract σ} {A B : σ → Prop}

theorem and (hA : Held ι C A) (hB : ∀ (i : ι) w, A w → B w → B (Surroundings.move i w)) :
    Held ι C fun w => A w ∧ B w :=
  ⟨fun w h => hA.safe w h.1, fun i w h => ⟨hA.stable i w h.1, hB i w h.1 h.2⟩⟩

end Held

namespace Guarded
variable [Surroundings σ ι] {C : Contract σ} {A B : σ → Prop} {p : Prog σ ε α}
  {f : α → Prog σ ε β} {R S : α → σ → Prop} {T : β → σ → Prop}

theorem weaken (h : Guarded ι C B p S) (hA : ∀ w, A w → B w) (hR : ∀ a w, S a w → R a w) :
    Guarded ι C A p R := by
  intro w hw
  exact (h w (hA w hw)).mono hR (fun _ _ h => h) (fun _ _ h => h) (fun _ h => h)
    fun _ _ h => h

theorem pre (h : Guarded ι C B p R) (hA : ∀ w, A w → B w) : Guarded ι C A p R :=
  h.weaken hA fun _ _ h => h

theorem post (h : Guarded ι C A p S) (hR : ∀ a w, S a w → R a w) : Guarded ι C A p R :=
  h.weaken (fun _ h => h) hR

/-- A stricter contract is a contract. -/
theorem relax {D : Contract σ} (h : Guarded ι D A p R) (halways : ∀ w, D.always w → C.always w)
    (hstep : ∀ w w', D.step w w' → C.step w w') : Guarded ι C A p R := by
  intro w hw
  exact (h w hw).mono (fun _ _ h => h) (fun _ w h => halways w h) (fun _ w h => halways w h)
    halways hstep

theorem pure {a : α} (h : ∀ w, A w → R a w) : Guarded ι C A (Pure.pure a : Prog σ ε α) R :=
  fun w hw => Meets.pure (h w hw)

theorem throw {e : ε} (h : ∀ w, A w → C.always w) :
    Guarded ι C A (MonadExceptOf.throw e : Prog σ ε α) R :=
  fun w hw => Meets.throw (h w hw) (h w hw)

theorem bind (hp : Guarded ι C A p S) (hf : ∀ a, Guarded ι C (S a) (f a) T) :
    Guarded ι C A (p >>= f) T :=
  fun w hw => Meets.bind (hp w hw) fun a w' h => hf a w' h

theorem handle {h : ε → Prog σ ε α} (hp : Guarded ι C A p R)
    (hh : ∀ e, Guarded ι C C.always (h e) R) : Guarded ι C A (tryCatch p h) R := by
  intro w hw
  exact Meets.handle (hp w hw)
    (fun e w' hw' => (hh e w' hw').mono (fun _ _ h => h) (fun _ _ h => h) (fun _ _ _ => trivial)
      (fun _ h => h) fun _ _ h => h)
    fun e w' hw' => hh e w' hw'

theorem attempt {ε' : Type} {T : Except ε α → σ → Prop} (hp : Guarded ι C A p R)
    (hok : ∀ a w, R a w → T (.ok a) w) (herror : ∀ e w, C.always w → T (.error e) w) :
    Guarded ι C A (Prog.attempt p : Prog σ ε' (Except ε α)) T := by
  intro w hw
  exact Meets.attempt ((hp w hw).mono (fun a w' h => hok a w' h) (fun e w' h => herror e w' h)
    (fun _ _ _ => trivial) (fun _ h => h) fun _ _ h => h)

theorem ofExcept {r : Except ε α} (hsafe : ∀ w, A w → C.always w)
    (h : ∀ a w, A w → r = .ok a → R a w) : Guarded ι C A (Prog.ofExcept r) R := by
  intro w hw
  refine Meets.ofExcept ?_
  cases r with
  | ok a => exact h a w hw rfl
  | error e => exact ⟨hsafe w hw, hsafe w hw⟩

/-- The effect rule. The invariant has to hold after the effect also when the
process does not learn that it happened. -/
theorem effect {failure : ε} {act : σ → Except ε α × σ} (hA : Held ι C A)
    (hact : ∀ w, A w → C.always (act w).2 ∧ C.step w (act w).2)
    (hok : ∀ w a, A w → (act w).1 = .ok a → R a (act w).2) :
    Guarded ι C A (Prog.effect failure act) R := by
  intro w hw
  refine Meets.stable_effect hA.stable hw (fun w' h => hA.safe w' h)
    (fun w' h => ⟨hA.safe w' h, (hact w' h).1⟩) (fun w' h => (hact w' h).2) fun w' h => ?_
  cases hanswer : (act w').1 with
  | ok a => exact hok w' a h hanswer
  | error e => exact ⟨(hact w' h).1, (hact w' h).1⟩

theorem look {failure : ε} {view : σ → Except ε α} (hA : Held ι C A)
    (hview : ∀ w a, A w → view w = .ok a → R a w) :
    Guarded ι C A (Prog.look failure view) R :=
  effect hA (fun w hw => ⟨hA.safe w hw, C.refl w (hA.safe w hw)⟩) hview

theorem change {failure : ε} {next : σ → σ} {R : Unit → σ → Prop} (hA : Held ι C A)
    (hnext : ∀ w, A w → C.always (next w) ∧ C.step w (next w)) (hok : ∀ w, A w → R () (next w)) :
    Guarded ι C A (Prog.change failure next) R :=
  effect hA hnext fun w _ hw _ => hok w hw

/-- A program whose every effect keeps an assertion keeps it as a whole. -/
theorem within {W : σ → σ → Prop} (hA : Held ι C A) (hp : Within W p)
    (hrel : ∀ w w', A w → W w w' → A w' ∧ C.step w w') : Guarded ι C A p fun _ => A := by
  have hsettle (moves : List ι) (w : σ) (hw : A w) : A (Prog.settle moves w) :=
    (moved_settle moves w).preserves hA.stable hw
  intro w hw es
  induction p generalizing es w with
  | ret a => exact Meets.ret hw es
  | raise e => exact Meets.raise (hA.safe w hw) (hA.safe w hw) es
  | eff next cont failed ihc ihf =>
    obtain ⟨hnext, hcont, hfailed⟩ := hp
    have heffect (w : σ) (hw : A w) := hrel w (next w) hw (hnext w)
    rcases es with _ | ⟨⟨moves, fault⟩, es⟩
    · obtain ⟨hresult, hsteps⟩ := ihc w (hcont w) (next w) (heffect w hw).1 []
      refine ⟨hresult, fun s hs => ?_⟩
      rcases List.mem_cons.mp hs with rfl | hs
      · exact (heffect w hw).2
      · exact hsteps s hs
    · have hm := hsettle moves w hw
      have hne : (⟨moves, fault⟩ :: es : Schedule ι) ≠ [] := List.cons_ne_nil _ _
      cases fault with
      | none =>
        obtain ⟨hresult, hsteps⟩ := ihc _ (hcont _) _ (heffect _ hm).1 es
        refine ⟨hresult.of_rest fun hq => absurd hq hne, fun s hs => ?_⟩
        rcases List.mem_cons.mp hs with rfl | hs
        · exact (heffect _ hm).2
        · exact hsteps s hs
      | crash => exact ⟨⟨hA.safe _ hm, hne⟩, fun s hs => absurd hs List.not_mem_nil⟩
      | lost =>
        obtain ⟨hresult, hsteps⟩ := ihf hfailed _ hm es
        exact ⟨hresult.of_rest fun hq => absurd hq hne, hsteps⟩
      | late =>
        obtain ⟨hresult, hsteps⟩ := ihf hfailed _ (heffect _ hm).1 es
        refine ⟨hresult.of_rest fun hq => absurd hq hne, fun s hs => ?_⟩
        rcases List.mem_cons.mp hs with rfl | hs
        · exact (heffect _ hm).2
        · exact hsteps s hs

theorem whileLoop {A : α → σ → Prop} {going : α → Bool} {body : α → Prog σ ε α} {stuck : ε}
    (hsafe : ∀ a w, A a w → C.always w)
    (hbody : ∀ a, going a = true → Guarded ι C (A a) (body a) A) (turns : ℕ) (a : α) :
    Guarded ι C (A a) (whileLoop going body stuck turns a)
      fun b w => A b w ∧ going b = false := by
  induction turns generalizing a with
  | zero => exact throw (hsafe a)
  | succ turns ih =>
    cases hgoing : going a with
    | false =>
      simp only [GuardedPrograms.whileLoop, hgoing, Bool.false_eq_true, if_false]
      exact pure fun w hw => ⟨hw, hgoing⟩
    | true =>
      simp only [GuardedPrograms.whileLoop, hgoing, if_true]
      exact bind (hbody a hgoing) ih

/-- Every run from `A` ends in a safe state and performs allowed effects only. -/
theorem run (h : Guarded ι C A p R) (hR : ∀ a w, R a w → C.always w) {w : σ} (hw : A w)
    (es : Schedule ι) :
    C.always (p.run es w).2.1 ∧ ∀ s ∈ p.steps es w, C.step s.1 s.2 := by
  obtain ⟨hresult, hsteps⟩ := h w hw es
  refine ⟨?_, hsteps⟩
  rcases hrun : p.run es w with ⟨a | e | _, w', es'⟩ <;> rw [hrun] at hresult
  · exact hR a w' hresult.1
  · exact hresult.1
  · exact hresult.1

end Guarded

end MediaSync.GuardedPrograms
