import SurveyGraph.Proofs.Outcome
import SurveyGraph.Proofs.TopologicalOrder
import SurveyGraph.Proofs.WalkStep
/-!
# A walk takes every arc

The graph of a query is a tree of steps with arcs back, in which everything leads to the result. The search never looks
whether every arc has been taken, and going back opens nodes and arcs again; still the order passes the check. Whatever the
walk has left behind is settled (`Trail`): it came to a node from above, after all that the node depends on, and took its arc
back. At the end everything that leads to the result has been left behind.
-/
open Relation List

namespace SurveyGraph.Digraph

variable {σ : Type} {g : Digraph σ} {w w' : Walk}

/-- Steps form a tree that spans all nodes, a node has one arc back at most, and without these there
is no cycle and everything leads to one node. -/
structure QueryShaped (g : Digraph σ) : Prop where
  nodup : g.nodes.Nodup
  closed : g.Closed
  simple : g.Simple
  oneBack : g.OneBack
  parent : ∀ m m' n, g.Step m n → g.Step m' n → m = m'
  root : ∃ r ∈ g.nodes, (∀ m, ¬ g.Step m r) ∧ ∀ n ∈ g.nodes, ReflTransGen g.Step r n
  acyclic : ∀ n, ¬ TransGen g.Forward n n
  sink : ∃ s ∈ g.nodes, ∀ n ∈ g.nodes, ReflTransGen g.Forward n s

/-! ## Orders -/

/-- In an order `m` stands before the first `n`. -/
def Precedes (order : List Nat) (m n : Nat) : Prop := ∀ pre post, order = pre ++ n :: post → n ∉ pre → m ∈ pre

variable {order : List Nat} {m n a : Nat} {pre : List Nat} {b : Nat}

lemma Precedes.append (h : Precedes order m n) (hn : n ∈ order) (l : List Nat) : Precedes (order ++ l) m n := by
  intro pre post heq hpre
  rcases append_eq_append_iff.mp heq with ⟨x, rfl, _⟩ | ⟨x, hx, hl⟩
  · exact absurd (mem_append_left x hn) hpre
  · cases x with
    | nil => exact absurd (by simpa [hx] using hn) hpre
    | cons y x =>
      obtain ⟨rfl, _⟩ : n = y ∧ post = x ++ l := by simpa using hl
      exact h pre x hx hpre

lemma precedes_snoc (hm : m ∈ order) (hn : n ∉ order) : Precedes (order ++ [n]) m n := by
  intro pre post heq _
  rcases append_eq_append_iff.mp heq with ⟨x, hx, hl⟩ | ⟨x, hx, hl⟩
  · exact hx ▸ mem_append_left x hm
  · cases x with
    | nil => simpa [hx] using hm
    | cons y x =>
      obtain ⟨rfl, _⟩ : n = y ∧ post = x ++ [n] := by simpa using hl
      simp [hx] at hn

lemma Precedes.trans {l : Nat} (hlm : Precedes order l m) (hmn : Precedes order m n) : Precedes order l n := by
  intro pre post heq hn
  obtain ⟨as, bs, hm, has⟩ := eq_append_cons_of_mem (hmn pre post heq hn)
  have hl : l ∈ as := hlm as (bs ++ n :: post) (by simp [heq, hm]) has
  simp [hm, hl]

lemma pairs_snoc (pre : List Nat) (a b : Nat) : pairs (pre ++ [a] ++ [b]) = pairs (pre ++ [a]) ++ [(a, b)] := by
  induction pre with
  | nil => rfl
  | cons x pre ih =>
    cases pre with
    | nil => rfl
    | cons y pre => simpa [pairs] using ih

/-! ## What a walk leaves behind -/

/-- A walk from `a` has come to every other node down a step, and what it left is settled: what a node depends
on came before it, and its arcs back have been taken. -/
structure Trail (g : Digraph σ) (a : Nat) (w : Walk) (pre : List Nat) : Prop where
  last : w.order = pre ++ [w.node]
  head : w.order.head? = some a
  moves : ∀ p ∈ pairs w.order, g.Step p.1 p.2 ∨ g.Back p.1 p.2
  doneNodes : ∀ n ∈ w.doneNodes, n ∈ w.order
  doneArcs : ∀ e ∈ w.doneArcs, e ∈ pairs w.order
  entered : ∀ n ∈ w.order, n ≠ a → ∃ m, g.Step m n ∧ (m, n) ∈ pairs w.order ∧ Precedes w.order m n
  needs : ∀ n ∈ pre, ∀ d, g.Needs d n → Precedes w.order d n
  backs : ∀ n ∈ pre, ∀ t, g.Back n t → (n, t) ∈ pairs w.order

lemma Trail.start (a : Nat) : g.Trail a { node := a, order := [a] } [] where
  last := rfl
  head := rfl
  moves := by simp [pairs]
  doneNodes := by simp
  doneArcs := by simp
  entered := by simp
  needs := by simp
  backs := by simp

/-- A move adds its node to the order. What is done afterwards was done before or is part of the move. -/
lemma Move.spec (h : g.Move w w') : ∃ n, w'.node = n ∧ w'.order = w.order ++ [n] ∧
    (∀ x ∈ w'.doneNodes, x ∈ w.doneNodes ∨ x = w.node ∨ x = n) ∧ (∀ e ∈ w'.doneArcs, e ∈ w.doneArcs ∨ e = (w.node, n)) ∧
    (g.Back w.node n ∧ n ∈ w.order ∨ g.Step w.node n ∧ g.backOptions w = []) := by
  cases h with
  | @back n v hn hv =>
    obtain ⟨pre, post, horder, _, rfl⟩ := goBack_ok hv
    refine ⟨n, rfl, rfl, fun x hx => ?_, fun e he => ?_, .inl ⟨(mem_backOptions.mp hn).1, by simp [horder]⟩⟩
    · simp only [Walk.go, mem_append, Walk.mem_reopen_doneNodes, Walk.reopen_node, mem_singleton] at hx
      exact hx.imp And.left .inl
    · exact (Walk.mem_reopen_doneArcs.mp he).1
  | @step n hb hn =>
    refine ⟨n, rfl, rfl, fun x hx => ?_, fun e he => .inl he, .inr ⟨(mem_stepOptions.mp hn).1, hb⟩⟩
    simp only [Walk.go, mem_append, mem_singleton] at hx
    exact hx.imp id .inl
  | @choose n hb hn =>
    refine ⟨n, rfl, rfl, fun x hx => ?_, fun e he => .inl he, .inr ⟨(mem_stepOptions.mp hn).1, hb⟩⟩
    simp only [Walk.go, mem_append, mem_singleton] at hx
    tauto

/-- A node that is left is settled: it was ready, and its arc back is done or taken. -/
lemma Trail.leave (hq : g.QueryShaped) (ht : g.Trail a w pre) (hr : g.isReady w w.node = true) :
    (∀ n ∈ w.order, ∀ d, g.Needs d n → Precedes w.order d n) := by
  intro n hn d hd
  by_cases hpre : n ∈ pre
  · exact ht.needs n hpre d hd
  · obtain rfl : n = w.node := by
      rw [ht.last] at hn
      simpa [hpre] using hn
    have hne : d ≠ w.node := by
      rintro rfl
      exact hq.acyclic _ (.single hd.forward)
    have hdone : d ∈ w.order := ht.doneNodes d (isReady_iff.mp hr d hd)
    rw [ht.last] at hdone ⊢
    exact precedes_snoc (by simpa [hne] using hdone) hpre

lemma Trail.move (hq : g.QueryShaped) (ht : g.Trail a w pre)
    (hr : g.isReady w w.node = true) (hm : g.Move w w') : g.Trail a w' w.order := by
  obtain ⟨n, hnode, horder, hnodes, harcs, hmove⟩ := hm.spec
  have hpairs : pairs w'.order = pairs w.order ++ [(w.node, n)] := by
    rw [horder, ht.last]
    exact pairs_snoc pre w.node n
  refine ⟨by rw [horder, hnode], ?_, ?_, ?_, ?_, ?_, ?_, ?_⟩
  · rw [horder, head?_append, ht.head]
    rfl
  · intro p hp
    rw [hpairs, mem_append, mem_singleton] at hp
    rcases hp with hp | rfl
    · exact ht.moves p hp
    · exact hmove.symm.imp And.left And.left
  · intro x hx
    rw [horder, mem_append, mem_singleton]
    rcases hnodes x hx with hx | rfl | rfl
    · exact .inl (ht.doneNodes x hx)
    · exact .inl (by simp [ht.last])
    · exact .inr rfl
  · intro e he
    rw [hpairs, mem_append, mem_singleton]
    exact (harcs e he).imp_left (ht.doneArcs e)
  · intro x hx hxa
    rw [horder, mem_append, mem_singleton] at hx
    by_cases hold : x ∈ w.order
    · obtain ⟨m, hstep, hmem, hpre⟩ := ht.entered x hold hxa
      exact ⟨m, hstep, by simp [hpairs, hmem], horder ▸ hpre.append hold [n]⟩
    · obtain rfl : x = n := hx.resolve_left hold
      rcases hmove with ⟨_, hback⟩ | ⟨hstep, _⟩
      · exact absurd hback hold
      · exact ⟨w.node, hstep, by simp [hpairs], horder ▸ precedes_snoc (by simp [ht.last]) hold⟩
  · intro x hx d hd
    exact horder ▸ (ht.leave hq hr x hx d hd).append hx [n]
  · intro x hx t hback
    rw [hpairs, mem_append, mem_singleton]
    by_cases hpre : x ∈ pre
    · exact .inl (ht.backs x hpre t hback)
    · obtain rfl : x = w.node := by
        rw [ht.last] at hx
        simpa [hpre] using hx
      rcases hmove with ⟨hb, _⟩ | ⟨_, hnil⟩
      · exact .inr (by rw [hq.oneBack _ _ _ hback hb])
      · by_contra hno
        have hopt : t ∈ g.backOptions w :=
          mem_backOptions.mpr ⟨hback, fun hdone => hno (.inl (ht.doneArcs _ hdone))⟩
        simp [hnil] at hopt

/-! ## The end of a walk -/

lemma endsOr_ok (h : g.endsOr none none = .ok (a, b)) : ∃ order,
    g.forward.topologicalOrder = .ok order ∧ order.head? = some a ∧ order.getLast? = some b := by
  unfold endsOr at h
  cases ht : g.forward.topologicalOrder with
  | error e => simp [ht, bind, Except.bind] at h
  | ok order =>
    cases hh : order.head? <;> cases hl : order.getLast? <;>
      simp_all [bind, Except.bind, pure, Except.pure]

lemma endsOr_start (hc : g.Closed) (hnd : g.nodes.Nodup) (h : g.endsOr none none = .ok (a, b)) :
    a ∈ g.nodes ∧ ∀ m, ¬ g.Forward m a := by
  obtain ⟨order, htop, hhead, _⟩ := endsOr_ok h
  obtain ⟨hfree, hall, _⟩ := topologicalOrder_spec (hc.filterArcs _) hnd htop
  exact ⟨(hall a).mp (mem_of_mem_head? hhead), fun m hm => hfree a hhead m (arrow_forward.mpr hm)⟩

lemma endsOr_finish (hq : g.QueryShaped) (h : g.endsOr none none = .ok (a, b)) :
    ∀ n ∈ g.nodes, ReflTransGen g.Forward n b := by
  obtain ⟨order, htop, _, hlast⟩ := endsOr_ok h
  obtain ⟨_, hall, hsplit⟩ := topologicalOrder_spec (hq.closed.filterArcs _) hq.nodup htop
  obtain ⟨s, _, hsink⟩ := hq.sink
  obtain ⟨pre, rfl⟩ : ∃ pre, order = pre ++ [b] := by
    simpa [eq_comm] using getLast?_eq_some_iff.mp hlast
  -- nothing leads on from the last node, so it is the one that everything leads to
  have hb : b ∈ g.nodes := (hall b).mp (by simp)
  rcases (hsink b hb).cases_head with rfl | ⟨y, hy, _⟩
  · exact hsink
  · simpa using hsplit pre b [] rfl y (arrow_forward.mpr hy)

lemma Trail.precedes (hq : g.QueryShaped) (ht : g.Trail a w pre) (hr : g.isReady w w.node = true) (ha : ∀ m, ¬ g.Step m a)
    (hmn : g.Forward m n) (hn : n ∈ w.order) : Precedes w.order m n := by
  rcases hmn.cases with hstep | hneeds
  · obtain ⟨m', hstep', _, hpre⟩ := ht.entered n hn (fun hna => ha m (hna ▸ hstep))
    exact hq.parent m' m n hstep' hstep ▸ hpre
  · exact ht.leave hq hr n hn m hneeds

lemma Precedes.mem (h : Precedes order m n) (hn : n ∈ order) : m ∈ order := by
  obtain ⟨as, bs, heq, has⟩ := eq_append_cons_of_mem hn
  exact heq ▸ mem_append_left _ (h as bs heq has)

lemma Trail.mem_of_forward (hq : g.QueryShaped) (ht : g.Trail a w pre)
    (hr : g.isReady w w.node = true) (ha : ∀ m, ¬ g.Step m a) (hn : ReflTransGen g.Forward n w.node) : n ∈ w.order := by
  induction hn using ReflTransGen.head_induction_on with
  | refl => simp [ht.last]
  | head hmn _ ih => exact (ht.precedes hq hr ha hmn ih).mem ih

lemma Trail.mem_pairs_iff (hq : g.QueryShaped) (ht : g.Trail a w pre)
    (ha : ∀ m, ¬ g.Step m a) (hall : ∀ n ∈ g.nodes, n ∈ w.order) (hopt : g.options w = []) (m n : Nat) :
    (m, n) ∈ pairs w.order ↔ g.Step m n ∨ g.Back m n := by
  refine ⟨ht.moves (m, n), ?_⟩
  rintro (hstep | hback)
  · have hn : n ∈ w.order := hall n (hq.closed.arrow hstep.forward.arrow).2
    obtain ⟨m', hstep', hmem, _⟩ := ht.entered n hn (fun hna => ha m (hna ▸ hstep))
    exact hq.parent m' m n hstep' hstep ▸ hmem
  · have hm : m ∈ w.order := hall m (hq.closed.arrow hback.arrow).1
    by_cases hpre : m ∈ pre
    · exact ht.backs m hpre n hback
    · obtain rfl : m = w.node := by
        rw [ht.last] at hm
        simpa [hpre] using hm
      by_contra hno
      have hmem : n ∈ g.backOptions w := mem_backOptions.mpr ⟨hback, fun hdone => hno (ht.doneArcs _ hdone)⟩
      simp [(options_eq_nil.mp hopt).1] at hmem

/-! ## The check of orders -/

lemma mem_walkable : (m, n) ∈ g.walkable.arcs.map (fun e => (e.src, e.dst)) ↔ g.Step m n ∨ g.Back m n := by
  simp only [walkable, filterArcs, mem_map, mem_filter, bne_iff_ne, Prod.mk.injEq, Step, Back]
  constructor
  · rintro ⟨e, ⟨he, hd⟩, hs, ht⟩
    by_cases hw : e.type = .wrt
    · exact .inr ⟨e, he, hw, hs, ht⟩
    · exact .inl ⟨e, he, hw, hd, hs, ht⟩
  · rintro (⟨e, he, _, hd, hs, ht⟩ | ⟨e, he, hw, hs, ht⟩)
    · exact ⟨e, ⟨he, hd⟩, hs, ht⟩
    · exact ⟨e, ⟨he, by simp [hw]⟩, hs, ht⟩

lemma checkNeeds_ok (hc : g.Closed) {order : List Nat} (h : ∀ m n, n ∈ order → TransGen g.Forward m n → Precedes order m n) :
    ∀ (rest pre done : List Nat), order = pre ++ rest → (∀ x, x ∈ done ↔ x ∈ pre) → g.checkNeeds rest done = .ok ()
  | [], _, _, _, _ => rfl
  | n :: rest, pre, done, heq, hdone => by
    have hnext : ∀ x, (x ∈ done ∨ x = n) ↔ x ∈ pre ++ [n] := by simp [hdone]
    unfold checkNeeds
    by_cases hn : n ∈ done
    · rw [if_pos (contains_iff_mem.mpr hn)]
      refine checkNeeds_ok hc h rest (pre ++ [n]) done (by simp [heq]) fun x => ?_
      rw [← hnext]
      exact ⟨.inl, fun hx => hx.elim id (· ▸ hn)⟩
    · have hall : (g.needs n).all done.contains = true := by
        simp only [all_eq_true, contains_iff_mem, mem_needs hc]
        rintro m ⟨hmn, hne⟩
        have htrans : TransGen g.Forward m n :=
          (Relation.reflTransGen_iff_eq_or_transGen.mp hmn).resolve_left (fun h => hne h.symm)
        exact (hdone m).mpr (h m n (by simp [heq]) htrans pre rest heq (mt (hdone n).mpr hn))
      rw [if_neg (by simpa using hn), if_pos hall]
      exact checkNeeds_ok hc h rest (pre ++ [n]) (done ++ [n]) (by simp [heq]) fun x => by simp [← hnext]

lemma Simple.not_needs (hs : g.Simple) (h : g.Step m n ∨ g.Back m n) : ¬ g.Needs m n := by
  rintro ⟨e, he, hdep, hs1, hd1⟩
  rcases h with ⟨e', he', _, hno, hs2, hd2⟩ | ⟨e', he', hwrt, hs2, hd2⟩
  · exact hno (hs.eq he' he (hs2.trans hs1.symm) (hd2.trans hd1.symm) ▸ hdep)
  · rw [hs.eq he' he (hs2.trans hs1.symm) (hd2.trans hd1.symm), hdep] at hwrt
    cases hwrt

lemma checkMove_ok (hs : g.Simple) (h : g.Step m n ∨ g.Back m n) : g.checkMove m n = .ok () := by
  obtain ⟨e, he, hsrc, hdst⟩ : g.Arrow m n := h.elim (·.forward.arrow) (·.arrow)
  have hdep : e.type ≠ .dep := fun hd => hs.not_needs h ⟨e, he, hd, hsrc, hdst⟩
  subst hsrc hdst
  simp [checkMove, hs.arc? he, hdep]

/-- An order passes the check if it takes exactly the steps and arcs back and comes to every node after all
that leads to it. -/
lemma checkWalk_ok (hc : g.Closed) (hs : g.Simple) (hpairs : ∀ m n, (m, n) ∈ pairs order ↔ g.Step m n ∨ g.Back m n)
    (h : ∀ m n, n ∈ order → TransGen g.Forward m n → Precedes order m n) : g.checkWalk order = .ok () := by
  have hwanted : ((g.walkable.arcs.map (fun e => (e.src, e.dst))).all (pairs order).contains &&
      (pairs order).all (g.walkable.arcs.map (fun e => (e.src, e.dst))).contains) = true := by
    simp only [Bool.and_eq_true, all_eq_true, contains_iff_mem, Prod.forall, mem_walkable, hpairs]
    exact ⟨fun _ _ => id, fun _ _ => id⟩
  unfold checkWalk
  rw [forM_eq_ok fun p hp => checkMove_ok hs ((hpairs p.1 p.2).mp hp)]
  simp only [hwanted, bind, Except.bind, Bool.not_true, Bool.false_eq_true, if_false]
  exact checkNeeds_ok hc h order [] [] rfl (by simp)

/-- On the graph of a query, whatever order the search returns passes the check: its moves are exactly the
arcs but dependencies, and all that leads to a node stands before the walk first comes to it. -/
theorem walk_covers (hq : g.QueryShaped) {fuel : Nat} {order : List Nat} (h : g.walk none none fuel = .ok order) :
    g.checkWalk order = .ok () ∧ (∀ m n, (m, n) ∈ pairs order → ¬ g.Needs m n) ∧
    (∀ m n, (m, n) ∈ pairs order ↔ g.Step m n ∨ g.Back m n) ∧ ∀ m n, TransGen g.Forward m n → Precedes order m n := by
  obtain ⟨a, b, w, hends, hw, rfl⟩ := walk_ok h
  have hroot : ∀ m, ¬ g.Step m a := fun m hm => (endsOr_start hq.closed hq.nodup hends).2 m hm.forward
  have hsink := endsOr_finish hq hends
  obtain ⟨⟨pre, ht⟩, hready, hopt, hb⟩ := complete_induction hq.simple hq.oneBack (P := fun w => ∃ pre, g.Trail a w pre)
    (fun _ _ ⟨_, ht⟩ hr hm => ⟨_, ht.move hq hr hm⟩) fuel ⟨[], Trail.start a⟩ hw
  have hall : ∀ n ∈ g.nodes, n ∈ w.order := fun n hn => ht.mem_of_forward hq hready hroot (hb ▸ hsink n hn)
  have hpairs := ht.mem_pairs_iff hq hroot hall hopt
  have hprecedes : ∀ m n, TransGen g.Forward m n → Precedes w.order m n := by
    intro m n hmn
    induction hmn with
    | single hmn => exact ht.precedes hq hready hroot hmn (hall _ (hq.closed.arrow hmn.arrow).2)
    | tail _ hmn ih => exact ih.trans (ht.precedes hq hready hroot hmn (hall _ (hq.closed.arrow hmn.arrow).2))
  exact ⟨checkWalk_ok hq.closed hq.simple hpairs fun m n _ => hprecedes m n,
    fun m n hmn => hq.simple.not_needs ((hpairs m n).mp hmn), hpairs, hprecedes⟩

/-- A graph that goes down a step, aggregates back, and uses the result there. -/
def countGraph : Digraph Unit where
  nodes := [0, 1, 2, 3]
  arcs := [{ src := 0, dst := 1, type := .traversal }, { src := 1, dst := 2, type := .aggregate },
    { src := 2, dst := 0, type := .wrt }, { src := 0, dst := 3, type := .return }, { src := 2, dst := 3, type := .dep }]

lemma countGraph_step : countGraph.Step a b ↔ a = 0 ∧ b = 1 ∨ a = 1 ∧ b = 2 ∨ a = 0 ∧ b = 3 := by
  simp [Step, countGraph, eq_comm]

lemma countGraph_forward : countGraph.Forward a b ↔ a = 0 ∧ b = 1 ∨ a = 1 ∧ b = 2 ∨ a = 0 ∧ b = 3 ∨ a = 2 ∧ b = 3 := by
  simp [Forward, countGraph, eq_comm]

lemma countGraph_queryShaped : countGraph.QueryShaped where
  nodup := by decide
  closed := by simp [Closed, countGraph]
  simple := by simp [Simple, countGraph]
  oneBack := by
    simp only [OneBack, Back, countGraph]
    grind
  parent := by
    simp only [countGraph_step]
    omega
  root := by
    have h1 : ReflTransGen countGraph.Step 0 1 := .single (by simp [countGraph_step])
    have h2 : ReflTransGen countGraph.Step 0 2 := h1.tail (by simp [countGraph_step])
    have h3 : ReflTransGen countGraph.Step 0 3 := .single (by simp [countGraph_step])
    refine ⟨0, by decide, by simp [countGraph_step], fun n hn => ?_⟩
    obtain rfl | rfl | rfl | rfl : n = 0 ∨ n = 1 ∨ n = 2 ∨ n = 3 := by simpa [countGraph] using hn
    exacts [.refl, h1, h2, h3]
  acyclic := by
    have hlt : ∀ {a b}, TransGen countGraph.Forward a b → a < b := by
      intro a b hab
      induction hab with
      | single h | tail _ h ih => rw [countGraph_forward] at h; omega
    exact fun n h => Nat.lt_irrefl n (hlt h)
  sink := by
    have h2 : ReflTransGen countGraph.Forward 2 3 := .single (by simp [countGraph_forward])
    have h1 : ReflTransGen countGraph.Forward 1 3 := h2.head (by simp [countGraph_forward])
    have h0 : ReflTransGen countGraph.Forward 0 3 := h1.head (by simp [countGraph_forward])
    refine ⟨3, by decide, fun n hn => ?_⟩
    obtain rfl | rfl | rfl | rfl : n = 0 ∨ n = 1 ∨ n = 2 ∨ n = 3 := by simpa [countGraph] using hn
    exacts [h0, h1, h2, .refl]

/-- The count is made before the walk goes on from where it came. -/
theorem walk_covers_countGraph : countGraph.walk none none = .ok [0, 1, 2, 0, 3] ∧
    countGraph.checkWalk [0, 1, 2, 0, 3] = .ok () :=
  have h : countGraph.walk none none = .ok [0, 1, 2, 0, 3] := by rfl
  ⟨h, (walk_covers countGraph_queryShaped h).1⟩

end SurveyGraph.Digraph
