import SurveyGraph.Proofs.Reach
import SurveyGraph.Read.Walk
/-!
# One move of a walk

`Digraph.complete` follows a walk while there is one way to go on, and tries the ways where there are several. What one move
can do is said once, by `Move`; whatever the search answers comes from moves (`complete_cases`).
-/
open List

namespace SurveyGraph.Digraph

variable {σ : Type} {g : Digraph σ} {w w' : Walk} {n t : Nat} {again : List Nat}

def Simple (g : Digraph σ) : Prop := (g.arcs.map (fun e => (e.src, e.dst))).Nodup

def OneBack (g : Digraph σ) : Prop := ∀ a b b', g.Back a b → g.Back a b' → b = b'

lemma Simple.eq (h : g.Simple) {e e' : Arc σ} (he : e ∈ g.arcs) (he' : e' ∈ g.arcs) (hs : e.src = e'.src)
    (hd : e.dst = e'.dst) : e = e' :=
  inj_on_of_nodup_map h he he' (by simp [hs, hd])

lemma Simple.arc? (h : g.Simple) {e : Arc σ} (he : e ∈ g.arcs) : g.arc? e.src e.dst = some e := by
  unfold Digraph.arc?
  cases hf : g.arcs.find? (fun d => d.src == e.src && d.dst == e.dst) with
  | none => simpa using find?_eq_none.mp hf e he
  | some d =>
    have hp := find?_some hf
    simp only [Bool.and_eq_true, beq_iff_eq] at hp
    rw [h.eq (mem_of_find?_eq_some hf) he hp.1 hp.2]

lemma Simple.not_step_back (h : g.Simple) {a b : Nat} : g.Step a b → ¬ g.Back a b := by
  rintro ⟨e, he, hw, _, hs, hd⟩ ⟨e', he', hw', hs', hd'⟩
  exact hw (h.eq he he' (hs.trans hs'.symm) (hd.trans hd'.symm) ▸ hw')

lemma Simple.isBack_iff (h : g.Simple) {a b : Nat} : (g.arc? a b).any (·.type == .wrt) = true ↔ g.Back a b := by
  constructor
  · intro hb
    cases hf : g.arc? a b with
    | none => simp [hf] at hb
    | some e =>
      have hp := find?_some hf
      simp only [Bool.and_eq_true, beq_iff_eq] at hp
      exact ⟨e, mem_of_find?_eq_some hf, by simpa [hf] using hb, hp.1, hp.2⟩
  · rintro ⟨e, he, hw, rfl, rfl⟩
    simp [h.arc? he, hw]

lemma Simple.nodup_successors (h : g.Simple) (p : Arc σ → Bool) (a : Nat) : ((g.filterArcs p).successors a).Nodup := by
  have hsub : ((g.arcs.filter p).filter (·.src == a)).Sublist g.arcs :=
    filter_sublist.trans filter_sublist
  have hnd : (((g.arcs.filter p).filter (·.src == a)).map (fun e => (e.src, e.dst))).Nodup :=
    (hsub.map _).nodup h
  have heq : ((g.arcs.filter p).filter (·.src == a)).map (fun e => (e.src, e.dst)) =
      ((g.filterArcs p).successors a).map (fun b => (a, b)) := by
    unfold successors outArcs filterArcs
    rw [map_map]
    refine map_congr_left fun e he => ?_
    have hs := (mem_filter.mp he).2
    simp only [beq_iff_eq] at hs
    simp [hs]
  exact Nodup.of_map _ (heq ▸ hnd)

/-! ## Ways to go on -/

lemma isReady_iff : g.isReady w n = true ↔ ∀ d, g.Needs d n → d ∈ w.doneNodes := by
  simp only [isReady, all_eq_true, contains_iff_mem, mem_predecessors, arrow_dependencies]

lemma mem_backOptions : n ∈ g.backOptions w ↔ g.Back w.node n ∧ (w.node, n) ∉ w.doneArcs := by
  simp [backOptions, mem_successors]

lemma mem_stepOptions : n ∈ g.stepOptions w ↔ g.Step w.node n ∧ n ∉ w.doneNodes := by
  have hnext : n ∈ ((g.steps.outArcs w.node).filter (fun e => !w.doneNodes.contains e.dst)).map (·.dst) ↔
      g.Step w.node n ∧ n ∉ w.doneNodes := by
    rw [← arrow_steps]
    simp only [outArcs, mem_map, mem_filter, beq_iff_eq, Bool.not_eq_true', contains_eq_mem,
      decide_eq_false_iff_not, Arrow]
    constructor
    · rintro ⟨e, ⟨⟨he, hs⟩, hd⟩, rfl⟩
      exact ⟨⟨e, he, hs, rfl⟩, hd⟩
    · rintro ⟨⟨e, he, hs, rfl⟩, hd⟩
      exact ⟨e, ⟨⟨he, hs⟩, hd⟩, rfl⟩
  simp only [stepOptions]
  generalize (g.steps.outArcs w.node).filter (fun e => !w.doneNodes.contains e.dst) = next at hnext ⊢
  generalize hf : (next.filter (fun e => e.type == .operation && e.single == some true && g.isReady w e.dst)).map
    (·.dst) = first
  have hfirst : ∀ m ∈ first, m ∈ next.map (·.dst) := by
    intro m hm
    rw [← hf] at hm
    exact (filter_sublist.map _).subset hm
  rw [← hnext, mem_append, mem_filter]
  constructor
  · rintro (h | h)
    · exact hfirst n h
    · exact h.1
  · intro h
    by_cases hn : n ∈ first
    · exact .inl hn
    · exact .inr ⟨h, by simpa using hn⟩

lemma options_eq_nil : g.options w = [] ↔ g.backOptions w = [] ∧ g.stepOptions w = [] := by
  unfold options
  cases h : g.backOptions w <;> simp

/-- The ways on are the arcs back not done, and if there is none the steps to nodes not done. -/
lemma mem_options : n ∈ g.options w ↔ n ∈ g.backOptions w ∨ (g.backOptions w = [] ∧ n ∈ g.stepOptions w) := by
  unfold options
  cases h : g.backOptions w <;> simp

lemma options_back (hs : g.Simple) (h1 : g.OneBack) (hn : n ∈ g.backOptions w) : g.options w = [n] := by
  have hopt : g.options w = g.backOptions w := by
    unfold options
    cases h : g.backOptions w with
    | nil => rw [h] at hn; simp at hn
    | cons _ _ => simp
  have hnd : (g.backOptions w).Nodup := (hs.nodup_successors _ _).filter _
  have hall : ∀ m ∈ g.backOptions w, m = n := fun m hm =>
    h1 _ _ _ (mem_backOptions.mp hm).1 (mem_backOptions.mp hn).1
  rw [hopt]
  match hl : g.backOptions w with
  | [] => rw [hl] at hn; simp at hn
  | [m] => rw [hall m (by simp [hl])]
  | m :: m' :: _ =>
    rw [hl] at hnd
    have e1 := hall m (by simp [hl])
    have e2 := hall m' (by simp [hl])
    simp [e1, e2] at hnd

/-! ## Going back -/

@[simp] lemma Walk.reopen_node (t : Nat) (again : List Nat) : (w.reopen t again).node = w.node := rfl

@[simp] lemma Walk.reopen_order (t : Nat) (again : List Nat) : (w.reopen t again).order = w.order := rfl

@[simp] lemma Walk.go_order (n : Nat) : (w.go n).order = w.order ++ [n] := rfl

@[simp] lemma Walk.mem_reopen_doneNodes {x : Nat} : x ∈ (w.reopen t again).doneNodes ↔ x ∈ w.doneNodes ∧ x ∉ again := by
  simp [Walk.reopen]

@[simp] lemma Walk.mem_reopen_doneArcs {e : Nat × Nat} :
    e ∈ (w.reopen t again).doneArcs ↔ (e ∈ w.doneArcs ∨ e = (w.node, t)) ∧ e.1 ∉ again := by
  simp [Walk.reopen, or_and_right]

lemma branchSince_of_last {pre post : List Nat} (hn : n ∉ post) : branchSince n (pre ++ n :: post) = some (n :: post) := by
  have htake : ((pre ++ n :: post).reverse.takeWhile (· != n)).reverse = post := by
    have hrev : (pre ++ n :: post).reverse = post.reverse ++ n :: pre.reverse := by simp
    rw [hrev, takeWhile_append_of_pos (by simpa using fun a ha => ne_of_mem_of_not_mem ha hn)]
    simp
  rw [branchSince, if_pos (by simp), htake]

lemma exists_last {order : List Nat} (h : n ∈ order) : ∃ pre post, order = pre ++ n :: post ∧ n ∉ post := by
  obtain ⟨as, bs, heq, hn⟩ := eq_append_cons_of_mem (mem_reverse.mpr h)
  refine ⟨bs.reverse, as.reverse, ?_, by simpa using hn⟩
  simpa using congrArg List.reverse heq

lemma reopened_subset {branch : List Nat} : g.reopened w branch ⊆ branch.dropLast := by
  intro x hx
  simpa using (mem_filter.mp hx).1

/-- Going back fails only from a place passed before on the branch, or to one where the walk never was. -/
lemma goBack_eq {pre post : List Nat} (horder : w.order = pre ++ t :: post) (ht : t ∉ post)
    (hnode : w.node ∉ (t :: post).dropLast) : g.goBack w t = .ok (w.reopen t (g.reopened w (t :: post))) := by
  simp [goBack, horder, branchSince_of_last ht, hnode, pure, Except.pure]

/-- Going back to `t` opens again some nodes passed since the walk last was at `t`. -/
lemma goBack_ok (h : g.goBack w t = .ok w') : ∃ pre post, w.order = pre ++ t :: post ∧ t ∉ post ∧
    w' = w.reopen t (g.reopened w (t :: post)) := by
  by_cases hm : t ∈ w.order
  · obtain ⟨pre, post, horder, ht⟩ := exists_last hm
    refine ⟨pre, post, horder, ht, ?_⟩
    unfold goBack at h
    rw [horder, branchSince_of_last ht] at h
    simp only at h
    split at h
    · simp [bind, Except.bind] at h
    · simpa [pure, Except.pure] using h.symm
  · simp [goBack, branchSince, hm] at h

/-! ## Moves -/

/-- One move: back from an aggregation, or down a step. Where there were several ways, the node gone to counts
as done. -/
inductive Move (g : Digraph σ) (w : Walk) : Walk → Prop
  | back {n : Nat} {v : Walk} (hn : n ∈ g.backOptions w) (hv : g.goBack w n = .ok v) : Move g w (v.go n)
  | step {n : Nat} (hb : g.backOptions w = []) (hn : n ∈ g.stepOptions w) : Move g w (w.go n)
  | choose {n : Nat} (hb : g.backOptions w = []) (hn : n ∈ g.stepOptions w) :
    Move g w { w.go n with doneNodes := (w.go n).doneNodes ++ [n] }

lemma firstAlive_cases {α : Type} (attempt : Nat → Except Fault α) : ∀ ns : List Nat,
    (∃ e, firstAlive attempt ns = .error e ∧ e.kind = .deadEnd) ∨ ∃ n ∈ ns, firstAlive attempt ns = attempt n
  | [] => .inl ⟨_, rfl, rfl⟩
  | n :: ns => by
    unfold firstAlive
    split
    · rename_i hn
      exact .inr ⟨n, by simp, hn.symm⟩
    · rename_i hn
      split
      · rcases firstAlive_cases attempt ns with h | ⟨m, hm, h⟩
        · exact .inl h
        · exact .inr ⟨m, mem_cons_of_mem n hm, h⟩
      · exact .inr ⟨n, by simp, hn.symm⟩

/-- A search answers a dead end, the walk itself at its end, what fails in going back, or what is answered
after a move. -/
lemma complete_cases (hs : g.Simple) (h1 : g.OneBack) (finish fuel : Nat) (w : Walk) :
    (∃ e, g.complete finish (fuel + 1) w = .error e ∧ e.kind = .deadEnd) ∨ g.isReady w w.node = true ∧
      ((g.complete finish (fuel + 1) w = .ok w ∧ g.options w = [] ∧ w.node = finish) ∨
      (∃ n e, n ∈ g.backOptions w ∧ g.goBack w n = .error e ∧ g.complete finish (fuel + 1) w = .error e) ∨
      ∃ v, g.Move w v ∧ g.complete finish (fuel + 1) w = g.complete finish fuel v) := by
  rw [complete]
  by_cases hr : g.isReady w w.node
  swap
  · refine .inl ⟨Cause.toFault ReadCause.deadEnd, ?_, rfl⟩
    simp [hr, bind, Except.bind]
  simp only [hr, Bool.not_true, Bool.false_eq_true, if_false, true_and]
  split
  · rename_i hopt
    by_cases hf : w.node = finish
    · exact .inr (.inl ⟨by simp [hf, pure, Except.pure], hopt, hf⟩)
    · exact .inl ⟨Cause.toFault ReadCause.deadEnd, by simp [hf], rfl⟩
  · rename_i n hopt
    rcases mem_options.mp (by simp [hopt] : n ∈ g.options w) with hb | ⟨hb, hn⟩
    · have hback := hs.isBack_iff.mpr (mem_backOptions.mp hb).1
      simp only [hback, if_true]
      cases hg : g.goBack w n with
      | error e => exact .inr (.inr (.inl ⟨n, e, hb, hg, rfl⟩))
      | ok v => exact .inr (.inr (.inr ⟨_, .back hb hg, rfl⟩))
    · have hback : (g.arc? w.node n).any (·.type == .wrt) = false := by
        rw [Bool.eq_false_iff, ne_eq, hs.isBack_iff]
        exact hs.not_step_back (mem_stepOptions.mp hn).1
      simp only [hback, Bool.false_eq_true, if_false]
      exact .inr (.inr (.inr ⟨_, .step hb hn, rfl⟩))
  · rename_i many hnil hone
    rcases firstAlive_cases (fun n => g.complete finish fuel
      { w.go n with doneNodes := (w.go n).doneNodes ++ [n] }) (g.options w) with h | ⟨n, hn, h⟩
    · exact .inl h
    · rcases mem_options.mp hn with hb | ⟨hb, hn⟩
      · exact absurd (options_back hs h1 hb) (hone n)
      · exact .inr (.inr (.inr ⟨_, .choose hb hn, h⟩))

/-- What every move keeps holds where a walk ends: at its last node with nothing left to do. -/
lemma complete_induction (hs : g.Simple) (h1 : g.OneBack) {P : Walk → Prop}
    (hmove : ∀ w v, P w → g.isReady w w.node = true → g.Move w v → P v) {finish : Nat} :
    ∀ (fuel : Nat) {w w' : Walk}, P w → g.complete finish fuel w = .ok w' →
      P w' ∧ g.isReady w' w'.node = true ∧ g.options w' = [] ∧ w'.node = finish
  | 0, _, _, _, h => by simp [complete] at h
  | fuel + 1, w, w', hw, h => by
    rcases complete_cases hs h1 finish fuel w with ⟨e, he, _⟩ | ⟨hr, ⟨hok, hopt, hf⟩ | ⟨n, e, _, _, he⟩ | ⟨v, hm, hv⟩⟩
    · rw [he] at h; simp at h
    · rw [hok] at h
      obtain rfl : w = w' := by simpa using h
      exact ⟨hw, hr, hopt, hf⟩
    · rw [he] at h; simp at h
    · rw [hv] at h
      exact complete_induction hs h1 hmove fuel (hmove w v hw hr hm) h

lemma walk_ok {start finish : Option Nat} {fuel : Nat} {order : List Nat} (h : g.walk start finish fuel = .ok order) :
    ∃ a b w, g.endsOr start finish = .ok (a, b) ∧ g.complete b fuel { node := a, order := [a] } = .ok w ∧ w.order = order := by
  obtain ⟨⟨a, b⟩, hends, hon⟩ := bind_ok h
  refine ⟨a, b, ?_⟩
  by_cases ha : a ∈ g.nodes
  · simp only [walkOn, contains_iff_mem.mpr ha, Bool.not_true, Bool.false_eq_true, if_false] at hon
    obtain ⟨w, hw, horder⟩ := bind_ok hon
    exact ⟨w, hends, hw, Except.ok.inj horder⟩
  · simp [walkOn, ha, bind, Except.bind] at hon

end SurveyGraph.Digraph
