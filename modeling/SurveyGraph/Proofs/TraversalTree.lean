import SurveyGraph.Proofs.PlanGraph
/-!
# The tree of a plan

Without dependencies and arcs back the graph of a plan is a tree. A call that adds a statement brings one step about, to a
new node, or takes up one that is there. Arcs that it adds after that may fall on others and change their types, but never on
a step (`steps_addArc`), as long as no node needs its own parent and every arc back leads up.
-/
open Relation List

namespace SurveyGraph
open SurveyGraph.Digraph

namespace Digraph

variable {σ : Type} {g : Digraph σ} {e x : Arc σ}

lemma filter_map_of_fails {α : Type} {P : α → Bool} {f : α → α} {l : List α}
    (h : ∀ a ∈ l, f a = a ∨ P a = false ∧ P (f a) = false) : (l.map f).filter P = l.filter P := by
  induction l with
  | nil => rfl
  | cons a l ih =>
    obtain ⟨ha, hl⟩ := forall_mem_cons.mp h
    rw [map_cons, filter_cons, filter_cons, ih hl]
    rcases ha with ha | ⟨hno, hno'⟩
    · rw [ha]
    · rw [hno, hno']
      rfl

/-- An arc of another type changes no step, unless it falls on one. -/
lemma steps_addArc (hs : x.src ∈ g.nodes) (hd : x.dst ∈ g.nodes) (ht : x.type = .wrt ∨ x.type = .dep)
    (hno : ¬g.Step x.src x.dst) : (g.addArc x).steps.arcs = g.steps.arcs := by
  have hx : (x.type != .dep && x.type != .wrt) = false := by
    rcases ht with ht | ht <;> rw [ht] <;> rfl
  simp only [steps, forward, walkable, filterArcs, filter_filter]
  by_cases ha : g.Arrow x.src x.dst
  · rw [addArc_old hs hd ha]
    refine filter_map_of_fails fun e he => ?_
    split
    · rename_i hends
      simp only [Bool.and_eq_true, beq_iff_eq] at hends
      refine .inr ⟨?_, hx⟩
      by_contra hstep
      simp only [Bool.not_eq_false, Bool.and_eq_true, bne_iff_ne] at hstep
      exact hno ⟨e, he, hstep.2, hstep.1, hends⟩
    · exact .inl rfl
  · rw [addArc_new hs hd ha, filter_append, filter_singleton, hx]
    exact append_nil _

lemma step_addArc (hs : x.src ∈ g.nodes) (hd : x.dst ∈ g.nodes) (ht : x.type = .wrt ∨ x.type = .dep)
    (hno : ¬g.Step x.src x.dst) {a b : Nat} : (g.addArc x).Step a b ↔ g.Step a b := by
  rw [← arrow_steps, ← arrow_steps, Arrow, Arrow, steps_addArc hs hd ht hno]

lemma step_iff {a b : Nat} : g.Step a b ↔ ∃ e ∈ g.steps.inArcs b, e.src = a := by
  rw [← arrow_steps]
  constructor
  · rintro ⟨e, he, hsrc, hdst⟩
    exact ⟨e, mem_filter.mpr ⟨he, beq_iff_eq.mpr hdst⟩, hsrc⟩
  · rintro ⟨e, he, hsrc⟩
    obtain ⟨he, hdst⟩ := mem_filter.mp he
    exact ⟨e, he, hsrc, beq_iff_eq.mp hdst⟩

end Digraph

namespace Plan

variable {p q : Plan} {arc : Arc Statement} {s : Statement} {needs : List Nat} {back : Option Nat} {n a b : Nat}

/-- The steps form a tree: one leads to every node but the start, from an earlier node. Statements stand at
steps only. -/
structure Treelike (p : Plan) : Prop extends Indexed p where
  label : ∀ e ∈ p.graph.arcs, e.label.isSome → e ∈ p.graph.steps.arcs
  root : p.graph.steps.inArcs 0 = []
  parent : ∀ n, 0 < n → n < p.nodes.length → ∃ e, p.graph.steps.inArcs n = [e] ∧ e.src < n

/-- A call's parent and all that it needs are there, it does not need its parent, and it goes back to its
parent or a node above that. -/
structure Takes (p : Plan) (arc : Arc Statement) (needs : List Nat) (back : Option Nat) : Prop where
  step : arc.type ≠ .wrt ∧ arc.type ≠ .dep
  parent : arc.src ∈ p.graph.nodes
  needs : ∀ d ∈ needs, d ∈ p.graph.nodes ∧ d ≠ arc.src
  back : ∀ t, back = some t → ReflTransGen p.graph.Step t arc.src

inductive Called : Plan → Prop
  | start : Called {}
  | call {p : Plan} {arc : Arc Statement} {s : Statement} {needs : List Nat} {back : Option Nat} (before : Called p)
      (takes : p.Takes arc needs back) : Called (p.withNode arc s needs back).2

namespace Treelike

variable (h : p.Treelike)

include h

lemma parent_of_step (hab : p.graph.Step a b) : ∃ e, p.graph.steps.inArcs b = [e] ∧ e.src = a ∧ a < b := by
  have hlt : b < p.nodes.length := by
    obtain ⟨e, he, -, -, -, rfl⟩ := hab
    exact (h.arc_lt he).2
  obtain ⟨e, he, hsrc⟩ := step_iff.mp hab
  by_cases hb : b = 0
  · rw [hb, h.root] at he
    cases he
  · obtain ⟨d, hd, hless⟩ := h.parent b (Nat.pos_of_ne_zero hb) hlt
    rw [hd, mem_singleton] at he
    subst he
    exact ⟨e, hd, hsrc, hsrc ▸ hless⟩

lemma le_of_steps (hab : ReflTransGen p.graph.Step a b) : a ≤ b := by
  induction hab with
  | refl => exact Nat.le_refl a
  | tail _ hstep ih =>
    obtain ⟨_, _, _, hlt⟩ := h.parent_of_step hstep
    exact ih.trans (Nat.le_of_lt hlt)

lemma withArc {x : Arc Statement} (hs : x.src ∈ p.graph.nodes) (hd : x.dst ∈ p.graph.nodes) (hl : x.label = none)
    (ht : x.type = .wrt ∨ x.type = .dep) (hno : ¬p.graph.Step x.src x.dst) :
    ({ p with graph := p.graph.addArc x } : Plan).Treelike := by
  have hsteps := steps_addArc hs hd ht hno
  have hin : ∀ n, (p.graph.addArc x).steps.inArcs n = p.graph.steps.inArcs n := fun n => congrArg (List.filter _) hsteps
  refine ⟨h.toIndexed.withArc hs hd hl, fun e he hlabel => ?_, (hin 0).trans h.root, fun n hpos hn => ?_⟩
  · obtain ⟨s, hes⟩ := Option.isSome_iff_exists.mp hlabel
    obtain ⟨d, hdm, hsrc, hdst, hsame, htype⟩ := labelled_addArc hs hd hl he hes
    obtain ⟨-, hw, hdep⟩ := mem_steps_arcs.mp (h.label d hdm (by simp [hsame]))
    rcases htype with htype | ⟨-, hxs, hxd⟩
    · exact mem_steps_arcs.mpr ⟨he, htype ▸ hw, htype ▸ hdep⟩
    · exact absurd ⟨d, hdm, hw, hdep, hsrc.symm.trans hxs, hdst.symm.trans hxd⟩ hno
  · exact (hin n).symm ▸ h.parent n hpos hn

lemma withNew (hsrc : arc.src ∈ p.graph.nodes) (ht : arc.type ≠ .wrt ∧ arc.type ≠ .dep) (s : Statement) :
    (p.withNew arc s).Treelike := by
  have hlt := h.mem_nodes.mp hsrc
  obtain ⟨-, harcs⟩ := h.withNew_graph s hlt
  have hlen : (p.withNew arc s).nodes.length = p.nodes.length + 1 := by simp [Plan.withNew]
  have hsteps : (p.withNew arc s).graph.steps.arcs =
      p.graph.steps.arcs ++ [{ arc with dst := p.nodes.length, label := some s }] := by
    simp [steps, forward, walkable, filterArcs, harcs, ht]
  have hin : ∀ n, (p.withNew arc s).graph.steps.inArcs n = p.graph.steps.inArcs n ++
      bif p.nodes.length == n then [{ arc with dst := p.nodes.length, label := some s }] else [] := by
    intro n
    rw [inArcs, hsteps, filter_append, filter_singleton, ← inArcs]
  refine ⟨h.toIndexed.withNew s hlt, fun e he hlabel => ?_, ?_, fun n hpos hn => ?_⟩
  · rw [harcs, mem_append] at he
    rw [hsteps, mem_append]
    exact he.imp_left fun he => h.label e he hlabel
  · rw [hin, h.root, beq_false_of_ne (Nat.ne_of_gt h.start)]
    rfl
  · rw [hin]
    by_cases hlast : n < p.nodes.length
    · rw [beq_false_of_ne (Nat.ne_of_gt hlast), cond_false, append_nil]
      exact h.parent n hpos hlast
    · obtain rfl : n = p.nodes.length := by omega
      have hnone : p.graph.steps.inArcs p.nodes.length = [] := filter_eq_nil_iff.mpr fun e he => by
        have := (h.arc_lt (mem_steps_arcs.mp he).1).2
        simp
        omega
      rw [hnone, beq_self_eq_true]
      exact ⟨_, rfl, hlt⟩

/-- A statement leads from its parent to a node, new or not, by a step. All steps stay. -/
lemma withStatement (hsrc : arc.src ∈ p.graph.nodes) (ht : arc.type ≠ .wrt ∧ arc.type ≠ .dep)
    (heq : p.withStatement arc s = (n, q)) : q.Treelike ∧ p.graph.nodes ⊆ q.graph.nodes ∧ q.graph.Step arc.src n ∧
    ∀ a b, p.graph.Step a b → q.graph.Step a b := by
  rcases withStatement_cases p arc s with ⟨e, he, hes, s', hs', -, heq'⟩ | heq'
  · cases heq.symm.trans heq'
    obtain ⟨-, hw, hd⟩ := mem_steps_arcs.mp (h.label e he (by rw [hs']; rfl))
    exact ⟨h, List.Subset.refl _, ⟨e, he, hw, hd, hes, rfl⟩, fun _ _ hab => hab⟩
  · cases heq.symm.trans heq'
    have hlt := h.mem_nodes.mp hsrc
    refine ⟨h.withNew hsrc ht s, fun m hm => ?_, ⟨_, (h.mem_withNew hlt).mpr (.inr rfl), ht.1, ht.2, rfl, rfl⟩, ?_⟩
    · rw [(h.withNew_graph s hlt).1, mem_range]
      exact Nat.lt_succ_of_lt (h.mem_nodes.mp hm)
    · rintro a b ⟨e, he, hrest⟩
      exact ⟨e, (h.mem_withNew hlt).mpr (.inl he), hrest⟩

lemma withDependencies (hstep : p.graph.Step a n) (hn : n ∈ p.graph.nodes) (hneeds : ∀ d ∈ needs, d ∈ p.graph.nodes ∧ d ≠ a) :
    (needs.foldl (withDependency n) p).Treelike := by
  induction needs generalizing p with
  | nil => exact h
  | cons d needs ih =>
    obtain ⟨⟨hd, hne⟩, hneeds⟩ := forall_mem_cons.mp hneeds
    have hno : ¬p.graph.Step d n := by
      intro hdn
      obtain ⟨e, he, hea, -⟩ := h.parent_of_step hstep
      obtain ⟨e', he', hed, -⟩ := h.parent_of_step hdn
      obtain rfl := singleton_inj.mp (he.symm.trans he')
      exact hne (hed.symm.trans hea)
    have hnodes : (p.withDependency n d).graph.nodes = p.graph.nodes := addArc_nodes hd hn
    refine ih (h.withArc hd hn rfl (.inr rfl) hno) ?_ (hnodes ▸ hn) (hnodes ▸ hneeds)
    exact (step_addArc hd hn (.inr rfl) hno).mpr hstep

lemma withNode (ht : p.Takes arc needs back) : (p.withNode arc s needs back).2.Treelike := by
  unfold Plan.withNode
  cases hst : p.withStatement arc s with
  | mk n p₁ =>
    obtain ⟨h₁, hsub, hstep, hkeeps⟩ := h.withStatement ht.parent ht.step hst
    have hn : n ∈ p₁.graph.nodes := by
      obtain ⟨e, he, -, -, -, rfl⟩ := hstep
      exact (h₁.closed e he).2
    have hneeds : ∀ d ∈ needs, d ∈ p₁.graph.nodes ∧ d ≠ arc.src := fun d hd =>
      ⟨hsub (ht.needs d hd).1, (ht.needs d hd).2⟩
    cases hback : back with
    | none => exact h₁.withDependencies hstep hn hneeds
    | some t =>
      have hup := h₁.le_of_steps (ReflTransGen.mono hkeeps _ _ (ht.back t hback))
      obtain ⟨-, -, -, hlt⟩ := h₁.parent_of_step hstep
      have htn : t ∈ p₁.graph.nodes := h₁.mem_nodes.mpr (hup.trans_lt (h₁.mem_nodes.mp (hsub ht.parent)))
      -- steps lead to later nodes, and the arc back to an earlier one
      have hno : ¬p₁.graph.Step n t := by
        intro hnt
        obtain ⟨-, -, -, hgt⟩ := h₁.parent_of_step hnt
        omega
      have hnodes : (p₁.withBack n t).graph.nodes = p₁.graph.nodes := addArc_nodes hn htn
      have h₂ : (p₁.withBack n t).Treelike := h₁.withArc hn htn rfl (.inl rfl) hno
      exact h₂.withDependencies ((step_addArc hn htn (.inl rfl) hno).mpr hstep) (hnodes ▸ hn) (hnodes ▸ hneeds)

end Treelike

lemma Called.treelike (h : Called p) : p.Treelike := by
  induction h with
  | start => exact ⟨⟨rfl, by decide, fun e he => (nomatch he)⟩, fun e he => (nomatch he), rfl, fun n hpos hn => by
      exact absurd hn (by change ¬n < 1; omega)⟩
  | call _ takes ih => exact ih.withNode takes

/-- Whatever calls are made, nodes are numbered in turn, no step leads to the start, and exactly one to every
other node, from an earlier one. -/
theorem called_tree (h : Called p) : p.graph.nodes = List.range p.nodes.length ∧ p.graph.steps.inArcs 0 = [] ∧
    ∀ n ∈ p.graph.nodes, n ≠ 0 → ∃ e, p.graph.steps.inArcs n = [e] ∧ e.src < n :=
  have ht := h.treelike
  ⟨ht.nodes, ht.root, fun n hn hne => ht.parent n (Nat.pos_of_ne_zero hne) (ht.mem_nodes.mp hn)⟩

/-- The runs of observations are counted. Then the observations, asked for again, are to need the count. -/
def recalled : Plan :=
  let obs := (Plan.withNode {} { src := 0, dst := 0, type := .traversal } (.start "ob" none "ob0") [] none).2
  let runs := (obs.withNode { src := 1, dst := 1, type := .traversal } (.traversal (.text "ob0") "run" [] none "run0" "e0") [] none).2
  let count := (runs.withNode { src := 2, dst := 2, type := .aggregate } (.aggregate (.text "run0") 1 "" "count" "count0") [] (some 1)).2
  (count.withNode { src := 0, dst := 0, type := .traversal } (.start "ob" none "ob1") [3] none).2

/-- The arc back from the count has become a dependency, and the tree is there. -/
theorem called_tree_recalled : Called recalled ∧ recalled.graph.nodes = [0, 1, 2, 3] ∧
    (recalled.graph.arc? 3 1).map (·.type) = some .dep ∧ ∃ e, recalled.graph.steps.inArcs 3 = [e] ∧ e.src < 3 := by
  have hcalled : Called recalled := by
    refine .call (.call (.call (.call .start ⟨?_, ?_, ?_, nofun⟩) ⟨?_, ?_, ?_, nofun⟩) ⟨?_, ?_, ?_, ?_⟩) ⟨?_, ?_, ?_, nofun⟩
    case refine_10 =>
      rintro t ⟨⟩
      exact .single ⟨_, List.mem_cons_of_mem _ List.mem_cons_self, by decide, by decide, rfl, rfl⟩
    all_goals decide +kernel
  exact ⟨hcalled, by decide +kernel, by decide +kernel, (called_tree hcalled).2.2 3 (by decide +kernel) (by decide)⟩

end Plan

end SurveyGraph
