import Mathlib.Data.Finset.Card
import SurveyGraph.Proofs.PlanGraph
/-!
# The course of a walk

What an order that has been walked and checked says about every place in it, without the search that found it: how
each move goes, and what lies behind it (`walk_course`).
-/
open Relation List

namespace SurveyGraph.Digraph

variable {σ : Type} {g : Digraph σ} {order : List Nat}

/-- An order goes down steps and back from aggregations: from a node with an arc back it goes nowhere else. It begins
where nothing leads to, and comes to a node after all that leads to it. -/
structure Course (g : Digraph σ) (order : List Nat) : Prop where
  mem : ∀ n ∈ order, n ∈ g.nodes
  start : ∀ a, order.head? = some a → ∀ m, ¬ g.Forward m a
  moves : ∀ pre a b post, order = pre ++ a :: b :: post → g.Step a b ∧ (∀ t, ¬ g.Back a t) ∨ g.Back a b
  needs : ∀ pre n post, order = pre ++ n :: post → ∀ m, TransGen g.Forward m n → m ∈ pre
  free : ∀ a b, g.Step a b → b ∈ order → ∀ t, ¬ g.Back a t

namespace Course

variable (h : g.Course order)

include h

lemma mem_of_forward {done rest : List Nat} (heq : order = done ++ rest) {m n : Nat} (hn : n ∈ done) (hmn : g.Forward m n) :
    m ∈ done := by
  obtain ⟨pre, post, rfl⟩ := append_of_mem hn
  have hm := h.needs pre n (post ++ rest) (by simp [heq]) m (.single hmn)
  exact mem_append_left _ hm

lemma mem_of_steps {done rest : List Nat} (heq : order = done ++ rest) {m n : Nat} (hn : n ∈ done)
    (hmn : ReflTransGen g.Step m n) : m ∈ done := by
  induction hmn using ReflTransGen.head_induction_on with
  | refl => exact hn
  | head hstep _ ih => exact h.mem_of_forward heq ih hstep.forward

lemma entered (hup : ∀ a t, g.Back a t → TransGen g.Step t a) {m n : Nat} (hn : n ∈ order) (hmn : g.Forward m n) :
    ∃ pre a post, order = pre ++ a :: n :: post ∧ g.Step a n := by
  obtain ⟨pre, post, heq, hfirst⟩ := eq_append_cons_of_mem hn
  have hm := h.needs pre n post heq m (.single hmn)
  obtain ⟨pre, a, rfl⟩ := (eq_nil_or_concat pre).resolve_left (ne_nil_of_mem hm)
  have heq' : order = pre ++ a :: n :: post := by simpa using heq
  refine ⟨pre, a, post, heq', ?_⟩
  rcases h.moves pre a n post heq' with ⟨hstep, _⟩ | hback
  · exact hstep
  · -- an arc back leads to a node that the order has passed
    have hforward : TransGen g.Forward n a :=
      TransGen.mono (fun _ _ h => Step.forward h) _ _ (hup a n hback)
    have hn' := h.needs pre a (n :: post) heq' n hforward
    exact absurd (by simp [hn']) hfirst

lemma idxOf_lt {m n : Nat} (hn : n ∈ order) (hmn : g.Forward m n) : order.idxOf m < order.idxOf n := by
  obtain ⟨pre, post, heq, hfirst⟩ := eq_append_cons_of_mem hn
  have hm := h.needs pre n post heq m (.single hmn)
  rw [heq, idxOf_append_of_mem hm, idxOf_append_of_notMem hfirst, idxOf_cons_self]
  exact idxOf_lt_length_iff.mpr hm

/-- Nothing goes back from above a node that an order comes to by a step. -/
lemma not_back_of_steps {x n t : Nat} (hn : n ∈ order) (hxn : TransGen g.Step x n) : ¬ g.Back x t := by
  obtain ⟨y, hxy, hyn⟩ := TransGen.head'_iff.mp hxn
  exact h.free x y hxy (h.mem_of_steps (append_nil order).symm hn hyn) t

end Course

/-! ## What the check of orders says -/

lemma mem_pairs {a b : Nat} : (a, b) ∈ pairs order ↔ ∃ pre post, order = pre ++ a :: b :: post := by
  induction order with
  | nil => simp [pairs]
  | cons x order ih =>
    cases order with
    | nil =>
      simp only [pairs, tail_cons, zip_nil_right, not_mem_nil, false_iff, not_exists]
      intro pre post h
      have := congrArg List.length h
      simp at this
      omega
    | cons y order =>
      have hcons : pairs (x :: y :: order) = (x, y) :: pairs (y :: order) := rfl
      rw [hcons, mem_cons, ih]
      constructor
      · rintro (h | ⟨pre, post, h⟩)
        · cases h
          exact ⟨[], order, rfl⟩
        · exact ⟨x :: pre, post, by simp [h]⟩
      · rintro ⟨pre, post, h⟩
        cases pre with
        | nil =>
          obtain ⟨h1, h⟩ := cons.inj h
          exact .inl (by rw [h1, (cons.inj h).1])
        | cons z pre => exact .inr ⟨pre, post, (cons.inj h).2⟩

lemma checkNeeds_inv (hc : g.Closed) : ∀ (rest done : List Nat),
    (∀ x ∈ done, ∀ m ∈ g.needs x, m ∈ done) → g.checkNeeds rest done = .ok () →
    ∀ pre n post, rest = pre ++ n :: post → ∀ m ∈ g.needs n, m ∈ done ++ pre
  | [], _, _, _, pre, n, post, heq, _, _ => by simp at heq
  | x :: rest, done, hdone, h, pre, n, post, heq, m, hm => by
    unfold checkNeeds at h
    by_cases hx : x ∈ done
    · rw [if_pos (contains_iff_mem.mpr hx)] at h
      cases pre with
      | nil =>
        obtain ⟨rfl, _⟩ := cons.inj heq
        exact mem_append_left _ (hdone x hx m hm)
      | cons y pre =>
        have hmem := checkNeeds_inv hc rest done hdone h pre n post (cons.inj heq).2 m hm
        simp only [mem_append, mem_cons] at hmem ⊢
        exact hmem.imp_right .inr
    · rw [if_neg (by simpa using hx)] at h
      split at h
      · rename_i hall
        simp only [all_eq_true, contains_iff_mem] at hall
        have hdone' : ∀ y ∈ done ++ [x], ∀ m ∈ g.needs y, m ∈ done ++ [x] := by
          intro y hy m hm
          rcases mem_append.mp hy with hy | hy
          · exact mem_append_left _ (hdone y hy m hm)
          · exact mem_append_left _ (hall m (mem_singleton.mp hy ▸ hm))
        cases pre with
        | nil =>
          obtain ⟨rfl, _⟩ := cons.inj heq
          exact mem_append_left _ (hall m hm)
        | cons y pre =>
          have hmem := checkNeeds_inv hc rest (done ++ [x]) hdone' h pre n post (cons.inj heq).2 m hm
          rw [← (cons.inj heq).1]
          simpa using hmem
      · cases h

/-- An order that passes the check takes exactly the steps and arcs back, and comes to every node after all
that it needs. -/
lemma checkWalk_inv (hc : g.Closed) (h : g.checkWalk order = .ok ()) :
    (∀ a b, (a, b) ∈ pairs order ↔ g.Step a b ∨ g.Back a b) ∧
    ∀ pre n post, order = pre ++ n :: post → ∀ m ∈ g.needs n, m ∈ pre := by
  obtain ⟨_, _, h⟩ := bind_ok h
  simp only at h
  split at h
  · cases h
  · rename_i hwanted
    simp only [Bool.not_eq_true', Bool.not_eq_false, Bool.and_eq_true, all_eq_true, contains_iff_mem,
      Prod.forall, mem_walkable] at hwanted
    refine ⟨fun a b => ⟨hwanted.2 a b, hwanted.1 a b⟩, fun pre n post heq m hm => ?_⟩
    simpa using checkNeeds_inv hc order [] (by simp) h pre n post heq m hm

/-! ## The course of a walk -/

lemma acyclic_of_topologicalOrder (hc : g.Closed) (hnd : g.nodes.Nodup) {topo : List Nat}
    (h : g.forward.topologicalOrder = .ok topo) (n : Nat) : ¬ TransGen g.Forward n n := by
  obtain ⟨_, hall, hsplit⟩ := topologicalOrder_spec (hc.filterArcs _) hnd h
  have hafter : ∀ {x y : Nat}, TransGen g.Forward x y → ∀ pre post, topo = pre ++ x :: post → y ∈ post := by
    intro x y hxy
    induction hxy using TransGen.head_induction_on with
    | single hxy => exact fun pre post heq => hsplit pre _ post heq _ (arrow_forward.mpr hxy)
    | @head x _ hxz _ ih =>
      intro pre post heq
      obtain ⟨l₁, l₂, hl⟩ := append_of_mem (hsplit pre _ post heq _ (arrow_forward.mpr hxz))
      have hy := ih (pre ++ x :: l₁) l₂ (by simp [heq, hl])
      simp [hl, hy]
  intro hn
  obtain ⟨m, hnm, _⟩ := TransGen.head'_iff.mp hn
  obtain ⟨pre, post, heq, hpost⟩ := exists_last ((hall n).mpr (hc.arrow hnm.arrow).1)
  exact hpost (hafter hn pre post heq)

/-- What holds along every order that a walk returns and that passes the check. -/
lemma walk_course (hg : g.Climbing) (hnd : g.nodes.Nodup) {fuel : Nat} (hw : g.walk none none fuel = .ok order)
    (hcheck : g.checkWalk order = .ok ()) : g.Course order := by
  obtain ⟨a, b, w, hends, hcomp, rfl⟩ := walk_ok hw
  obtain ⟨topo, htopo, _⟩ := endsOr_ok hends
  obtain ⟨ha, hroot⟩ := endsOr_start hg.closed hnd hends
  obtain ⟨hpairs, hneeds⟩ := checkWalk_inv hg.closed hcheck
  obtain ⟨⟨hd, hhead⟩, _⟩ := complete_induction hg.simple hg.oneBack
    (P := fun w => g.Descent w ∧ w.order.head? = some a) (fun w v ⟨hd, hh⟩ _ hm => by
      obtain ⟨n, _, horder, _⟩ := hm.spec
      exact ⟨hd.move hg hm, by rw [horder, head?_append, hh]; rfl⟩)
    fuel ⟨.start fun m hm => hroot m hm.forward, rfl⟩ hcomp
  have hmoves : ∀ pre a b post, w.order = pre ++ a :: b :: post →
      g.Step a b ∧ (∀ t, ¬ g.Back a t) ∨ g.Back a b := by
    intro pre a b post heq
    rcases (hpairs a b).mp (mem_pairs.mpr ⟨pre, post, heq⟩) with hstep | hback
    · refine .inl ⟨hstep, fun t ht => ?_⟩
      have hbt := hd.backs pre a b post heq t ht
      exact hg.simple.not_step_back hstep (hbt ▸ ht)
    · exact .inr hback
  refine ⟨?_, ?_, hmoves, ?_, ?_⟩
  · intro n hn
    obtain ⟨pre, post, heq⟩ := append_of_mem hn
    rcases eq_nil_or_concat pre with rfl | ⟨pre, x, rfl⟩
    · rw [heq] at hhead
      exact Option.some.inj hhead ▸ ha
    · have hmove := hmoves pre x n post (by simpa using heq)
      exact (hg.closed.arrow (hmove.elim (·.1.forward.arrow) (·.arrow))).2
  · intro x hx
    rw [hhead] at hx
    exact Option.some.inj hx ▸ hroot
  · intro pre n post heq m hm
    refine hneeds pre n post heq m ((mem_needs hg.closed).mpr ⟨hm.to_reflTransGen, ?_⟩)
    rintro rfl
    exact acyclic_of_topologicalOrder hg.closed hnd htopo m hm
  · intro x y hxy _ t ht
    obtain ⟨pre, post, heq⟩ := mem_pairs.mp ((hpairs x y).mpr (.inl hxy))
    rcases hmoves pre x y post heq with ⟨_, hno⟩ | hback
    · exact hno t ht
    · exact hg.simple.not_step_back hxy hback

/-- The course of a walk through the part that a result needs is one through the whole graph, if arcs back
lead up. -/
lemma Course.of_restrictedTo (hc : g.Closed) (hup : ∀ a t, g.Back a t → TransGen g.Step t a) {r : Nat}
    (h : (g.restrictedTo r).Course order) : g.Course order := by
  have hr : ∀ n ∈ order, ReflTransGen g.Forward n r := fun n hn =>
    ((mem_restrictedTo_nodes hc).mp (h.mem n hn)).2
  have hforward : ∀ {m n}, ReflTransGen g.Forward n r → g.Forward m n → (g.restrictedTo r).Forward m n := by
    rintro m n hn ⟨e, he, hw, rfl, rfl⟩
    exact ⟨e, (mem_restrictedTo_arcs hc).mpr ⟨he, hn.head ⟨e, he, hw, rfl, rfl⟩, hn⟩, hw, rfl, rfl⟩
  have hforwards : ∀ {m n}, ReflTransGen g.Forward n r → TransGen g.Forward m n →
      TransGen (g.restrictedTo r).Forward m n := by
    intro m n hn hmn
    induction hmn using TransGen.head_induction_on with
    | single hmn => exact .single (hforward hn hmn)
    | head hmx hxn ih => exact ih.head (hforward (hxn.to_reflTransGen.trans hn) hmx)
  refine ⟨fun n hn => ((mem_restrictedTo_nodes hc).mp (h.mem n hn)).1, ?_, ?_, ?_, ?_⟩
  · intro a ha m hm
    exact h.start a ha m (hforward (hr a (mem_of_mem_head? ha)) hm)
  · intro pre a b post heq
    rcases h.moves pre a b post heq with ⟨hstep, hno⟩ | hback
    · refine .inl ⟨((step_restrictedTo hc).mp hstep).1, fun t ht => hno t ?_⟩
      exact ht.restrictedTo hc hup (hr a (by simp [heq]))
    · exact .inr (back_restrictedTo hc hback).1
  · intro pre n post heq m hm
    exact h.needs pre n post heq m (hforwards (hr n (by simp [heq])) hm)
  · intro a b hab hb t ht
    have hab' := (step_restrictedTo hc).mpr ⟨hab, hr b hb⟩
    exact h.free a b hab' hb t (ht.restrictedTo hc hup ((hr b hb).head hab.forward))

end SurveyGraph.Digraph
