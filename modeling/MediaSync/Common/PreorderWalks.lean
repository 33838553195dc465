import Mathlib

/-!
# Preorder walks

A walk visits a node and then, one after the other, every entry of its list of
children. A node that two entries name is walked once for each. Heights fall
along children, so a walk ends; where every node has one parent, a walk visits
each node it reaches exactly once if and only if no list of children on the way
repeats an entry.
-/
namespace MediaSync.PreorderWalks

variable {α : Type*}

structure Branching (α : Type*) where
  children : α → List α
  height : α → ℕ
  lower : ∀ a, ∀ b ∈ children a, height b < height a

namespace Branching
variable (B : Branching α) {a b c : α}

def Child (a b : α) : Prop := b ∈ B.children a

def Reaches : α → α → Prop := Relation.ReflTransGen B.Child

def preorder (a : α) : List α :=
  a :: (B.children a).attach.flatMap fun b => preorder b.1
termination_by B.height a
decreasing_by exact B.lower a b.1 b.2

theorem preorder_eq (a : α) : B.preorder a = a :: (B.children a).flatMap B.preorder := by
  rw [preorder, List.flatMap_subtype (g := B.preorder) fun _ _ => rfl, List.unattach_attach]

theorem height_le (h : B.Reaches a b) : B.height b ≤ B.height a := by
  induction h with
  | refl => exact le_rfl
  | tail _ hchild ih => exact (B.lower _ _ hchild).le.trans ih

theorem mem_preorder : b ∈ B.preorder a ↔ B.Reaches a b := by
  induction hn : B.height a using Nat.strong_induction_on generalizing a with
  | _ n ih =>
    rw [preorder_eq, List.mem_cons, List.mem_flatMap, Reaches, Relation.ReflTransGen.cases_head_iff]
    apply or_congr eq_comm
    apply exists_congr
    intro c
    apply and_congr_right
    intro hchild
    exact ih _ (hn ▸ B.lower a c hchild) rfl

/-- Two nodes that reach a third lie on one branch. -/
theorem comparable (hparent : ∀ a b c, B.Child a c → B.Child b c → a = b) (ha : B.Reaches a c)
    (hb : B.Reaches b c) : B.Reaches a b ∨ B.Reaches b a := by
  have hunique : Relator.RightUnique (Function.swap B.Child) := fun c a b => hparent a b c
  rcases Relation.ReflTransGen.total_of_right_unique hunique
    (Relation.reflTransGen_swap.mpr ha) (Relation.reflTransGen_swap.mpr hb) with h | h
  · exact .inr (Relation.reflTransGen_swap.mp h)
  · exact .inl (Relation.reflTransGen_swap.mp h)

/-- Two children of one node with a common descendant are the same child. -/
theorem siblings_eq (hparent : ∀ a b c, B.Child a c → B.Child b c → a = b) {p : α}
    (ha : B.Child p a) (hb : B.Child p b) (h : B.Reaches a b) : a = b := by
  rcases Relation.ReflTransGen.cases_tail h with rfl | ⟨q, hq, hqb⟩
  · rfl
  · have hle := B.height_le hq
    have hlt := B.lower p a ha
    rw [hparent q p b hqb hb] at hle
    omega

theorem nodup_preorder (hparent : ∀ a b c, B.Child a c → B.Child b c → a = b) :
    (B.preorder a).Nodup ↔ ∀ b, B.Reaches a b → (B.children b).Nodup := by
  constructor
  · intro h b hreach
    induction hreach using Relation.ReflTransGen.head_induction_on with
    | refl =>
      rw [preorder_eq, List.nodup_cons] at h
      rw [List.nodup_iff_pairwise_ne]
      refine (List.nodup_flatMap.mp h.2).2.imp_of_mem fun {c d} hc _ hdisjoint heq => ?_
      subst heq
      have hself : c ∈ B.preorder c := B.mem_preorder.mpr .refl
      exact hdisjoint hself hself
    | head hchild _ ih =>
      rw [preorder_eq, List.nodup_cons] at h
      exact ih ((List.nodup_flatMap.mp h.2).1 _ hchild)
  · intro h
    induction hn : B.height a using Nat.strong_induction_on generalizing a with
    | _ n ih =>
      rw [preorder_eq, List.nodup_cons, List.nodup_flatMap]
      refine ⟨?_, ?_, ?_⟩
      · intro hmem
        obtain ⟨b, hchild, hb⟩ := List.mem_flatMap.mp hmem
        have hle := B.height_le (B.mem_preorder.mp hb)
        have hlt := B.lower a b hchild
        omega
      · intro b hchild
        exact ih _ (hn ▸ B.lower a b hchild) (fun c hc => h c (.head hchild hc)) rfl
      · refine (List.nodup_iff_pairwise_ne.mp (h a .refl)).imp_of_mem fun {b c} hb hc hne => ?_
        intro x hxb hxc
        rcases B.comparable hparent (B.mem_preorder.mp hxb) (B.mem_preorder.mp hxc) with hr | hr
        · exact hne (B.siblings_eq hparent hb hc hr)
        · exact hne (B.siblings_eq hparent hc hb hr).symm

theorem setOf_reaches (a : α) : {b | B.Reaches a b} = {b | b ∈ B.preorder a} := by
  ext b
  exact B.mem_preorder.symm

/-- The walk is as long as the set of nodes it reaches is large if and only if
it repeats nothing. -/
theorem length_preorder_eq : (B.preorder a).length = {b | B.Reaches a b}.ncard ↔
    (B.preorder a).Nodup := by
  classical
  rw [B.setOf_reaches, ← List.coe_toFinset, Set.ncard_coe_finset, List.card_toFinset,
    ← List.dedup_eq_self]
  constructor
  · intro h
    exact (List.dedup_sublist _).eq_of_length h.symm
  · intro h
    rw [h]

end Branching

end MediaSync.PreorderWalks
