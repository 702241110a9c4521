import Mathlib.Algebra.GroupWithZero.Nat
import SurveyGraph.Proofs.WalkCovers
/-!
# Walks end where arcs back lead up

Going back opens nodes and arcs again, so on some graphs the search goes round for ever. Where arcs back lead up it ends:
`complete_halts`.

On the way down from a node `u` the walk has only been below `u`. When it goes back to `u`, the arcs back that are opened
again lead to nodes below `u`, which come later. An arc back to `u` therefore weighs more than all that are opened again by
taking it, and the arcs still to take weigh less and less (`weight`). Between two of them the walk goes down.
-/
open Relation List

namespace SurveyGraph.Digraph

variable {σ α : Type} {g : Digraph σ} {w w' : Walk} {I : Walk → Prop} {again : List Nat} {l : List α}

/-- Arcs back lead up: steps lead to later nodes and join nowhere, and a node has one arc back at most, to a
node from which steps lead down to it. -/
structure Climbing (g : Digraph σ) : Prop where
  closed : g.Closed
  simple : g.Simple
  later : ∀ m n, g.Step m n → m < n
  parent : ∀ m m' n, g.Step m n → g.Step m' n → m = m'
  up : ∀ m n, g.Back m n → TransGen g.Step n m
  oneBack : g.OneBack

variable {n a : Nat} {pre post : List Nat} {t : Nat} {e : Fault}

lemma Climbing.lt (hg : g.Climbing) {m : Nat} (h : TransGen g.Step m n) : m < n := by
  induction h with
  | single h => exact hg.later _ _ h
  | tail _ h ih => exact Nat.lt_trans ih (hg.later _ _ h)

lemma Climbing.above (hg : g.Climbing) {x m : Nat} (hmn : g.Step m n) (h : TransGen g.Step x n) :
    ReflTransGen g.Step x m := by
  obtain ⟨m', hxm, hm'⟩ := TransGen.tail'_iff.mp h
  exact hg.parent m' m n hm' hmn ▸ hxm

lemma mem_steps_arcs {e : Arc σ} : e ∈ g.steps.arcs ↔ e ∈ g.arcs ∧ e.type ≠ .wrt ∧ e.type ≠ .dep := by
  simp only [steps, forward, walkable, filterArcs, mem_filter, bne_iff_ne, and_assoc]

lemma mem_backward_arcs {e : Arc σ} : e ∈ g.backward.arcs ↔ e ∈ g.arcs ∧ e.type = .wrt := by
  simp [backward, filterArcs]

lemma climbs_iff : g.climbs = true ↔ g.Climbing := by
  have hclosed : g.arcs.all (fun e => g.nodes.contains e.src && g.nodes.contains e.dst) = true ↔ g.Closed := by
    simp [Closed]
  have hsteps : g.steps.arcs.all (fun e => e.src < e.dst && g.steps.arcs.all
      (fun d => d.dst != e.dst || d.src == e.src)) = true ↔
      (∀ m n, g.Step m n → m < n) ∧ ∀ m m' n, g.Step m n → g.Step m' n → m = m' := by
    simp only [all_eq_true, Bool.and_eq_true, decide_eq_true_eq, Bool.or_eq_true, bne_iff_ne, beq_iff_eq, mem_steps_arcs]
    constructor
    · intro h
      refine ⟨?_, ?_⟩
      · rintro m n ⟨e, he, hw, hd, rfl, rfl⟩
        exact (h e ⟨he, hw, hd⟩).1
      · rintro m m' n ⟨e, he, hw, hd, rfl, rfl⟩ ⟨e', he', hw', hd', rfl, hdst⟩
        exact (((h e ⟨he, hw, hd⟩).2 e' ⟨he', hw', hd'⟩).resolve_left (fun hne => hne hdst)).symm
    · rintro ⟨hlt, hpar⟩ e ⟨he, hw, hd⟩
      refine ⟨hlt _ _ ⟨e, he, hw, hd, rfl, rfl⟩, ?_⟩
      rintro e' ⟨he', hw', hd'⟩
      by_cases hdst : e'.dst = e.dst
      · exact .inr (hpar _ _ _ ⟨e', he', hw', hd', rfl, hdst⟩ ⟨e, he, hw, hd, rfl, rfl⟩)
      · exact .inl hdst
  have hbacks (hc : g.Closed) : g.backward.arcs.all (fun e => (g.steps.ancestors e.src).contains e.dst &&
      g.backward.arcs.all (fun d => d.src != e.src || d.dst == e.dst)) = true ↔
      (∀ m n, g.Back m n → ReflTransGen g.Step n m ∧ n ≠ m) ∧ g.OneBack := by
    have hrel : g.steps.Arrow = g.Step := by
      funext a b
      simp
    simp only [all_eq_true, Bool.and_eq_true, Bool.or_eq_true, bne_iff_ne, beq_iff_eq, mem_backward_arcs,
      contains_iff_mem, ancestors, mem_filter, mem_reaching (g := g.steps) (hc.filterArcs _ |>.filterArcs _),
      hrel]
    constructor
    · intro h
      refine ⟨?_, ?_⟩
      · rintro m n ⟨e, he, hw, rfl, rfl⟩
        exact (h e ⟨he, hw⟩).1
      · rintro m n n' ⟨e, he, hw, rfl, rfl⟩ ⟨e', he', hw', hsrc, rfl⟩
        exact (((h e ⟨he, hw⟩).2 e' ⟨he', hw'⟩).resolve_left (fun hne => hne hsrc)).symm
    · rintro ⟨hup, hone⟩ e ⟨he, hw⟩
      refine ⟨hup _ _ ⟨e, he, hw, rfl, rfl⟩, ?_⟩
      rintro e' ⟨he', hw'⟩
      by_cases hsrc : e'.src = e.src
      · exact .inr (hone _ _ _ ⟨e', he', hw', hsrc, rfl⟩ ⟨e, he, hw, rfl, rfl⟩)
      · exact .inl hsrc
  simp only [climbs, Bool.and_eq_true, decide_eq_true_eq, hclosed, hsteps]
  constructor
  · rintro ⟨⟨⟨hc, hs⟩, hlt, hpar⟩, hb⟩
    obtain ⟨hup, hone⟩ := (hbacks hc).mp hb
    refine ⟨hc, hs, hlt, hpar, fun m n h => ?_, hone⟩
    exact (Relation.reflTransGen_iff_eq_or_transGen.mp (hup m n h).1).resolve_left (fun h' => (hup m n h).2 h'.symm)
  · intro hg
    refine ⟨⟨⟨hg.closed, hg.simple⟩, hg.later, hg.parent⟩, (hbacks hg.closed).mpr ⟨fun m n h => ?_, hg.oneBack⟩⟩
    exact ⟨(hg.up m n h).to_reflTransGen, Nat.ne_of_lt (hg.lt (hg.up m n h))⟩

/-! ## Where the walk has been -/

/-- A walk has been at all nodes above it, none of which has an arc back. Since it last was at a node it has
only been below it, unless it left that part altogether. From a node with an arc back it went back. -/
structure Descent (g : Digraph σ) (w : Walk) : Prop where
  last : ∃ pre, w.order = pre ++ [w.node]
  above : ∀ x, ReflTransGen g.Step x w.node → x ∈ w.order
  below : ∀ pre u post, w.order = pre ++ u :: post → u ∉ post →
    (∀ x ∈ post, TransGen g.Step u x) ∨ ¬ ReflTransGen g.Step u w.node
  backs : ∀ pre b c post, w.order = pre ++ b :: c :: post → ∀ t, g.Back b t → c = t
  free : ∀ x t, TransGen g.Step x w.node → ¬ g.Back x t
  done : ∀ e ∈ w.doneArcs, e.1 ∈ w.doneNodes
  fresh : ∀ t, g.Back w.node t → (w.node, t) ∉ w.doneArcs

lemma Descent.start (ha : ∀ m, ¬ g.Step m a) : g.Descent { node := a, order := [a] } where
  last := ⟨[], rfl⟩
  above := by
    intro x hx
    rcases hx.cases_tail with rfl | ⟨y, _, hy⟩
    · simp
    · exact absurd hy (ha y)
  below := by
    intro pre u post h _
    have hpost : post = [] := by
      have := congrArg List.length h
      simp at this
      exact length_eq_zero_iff.mp (by omega)
    simp [hpost]
  backs := by
    intro pre b c post h
    have := congrArg List.length h
    simp at this
    omega
  free := by
    intro x t hx
    obtain ⟨y, _, hy⟩ := TransGen.tail'_iff.mp hx
    exact absurd hy (ha y)
  done := by simp
  fresh := by simp

lemma snoc_eq_split {order : List Nat} {u : Nat} (h : order ++ [n] = pre ++ u :: post) :
    (post = [] ∧ u = n ∧ pre = order) ∨ ∃ post', post = post' ++ [n] ∧ order = pre ++ u :: post' := by
  rcases eq_nil_or_concat post with rfl | ⟨post', x, rfl⟩
  · obtain ⟨h1, h2⟩ := append_inj' h rfl
    exact .inl ⟨rfl, by simpa using h2.symm, h1.symm⟩
  · have h' : order ++ [n] = (pre ++ u :: post') ++ [x] := by simpa using h
    obtain ⟨h1, h2⟩ := append_inj' h' rfl
    obtain rfl : n = x := by simpa using h2
    exact .inr ⟨post', by simp, h1⟩

lemma mem_dropLast_split {l : List Nat} (h : a ∈ l.dropLast) : ∃ l₁ c l₂, l = l₁ ++ a :: c :: l₂ := by
  rcases eq_nil_or_concat l with rfl | ⟨l', x, rfl⟩
  · simp at h
  · obtain ⟨l₁, l₂, rfl⟩ := append_of_mem (by simpa using h : a ∈ l')
    cases l₂ with
    | nil => exact ⟨l₁, x, [], by simp⟩
    | cons c l₂ => exact ⟨l₁, c, l₂ ++ [x], by simp⟩

lemma Descent.no_back (hd : g.Descent w) (hb : g.backOptions w = []) (t : Nat) : ¬ g.Back w.node t := by
  intro ht
  have hmem : t ∈ g.backOptions w := mem_backOptions.mpr ⟨ht, hd.fresh t ht⟩
  simp [hb] at hmem

lemma Descent.ends (hd : g.Descent w) (horder : w.order = pre ++ post) (hne : post ≠ []) : ∃ l, post = l ++ [w.node] := by
  obtain ⟨ord, hlast⟩ := hd.last
  obtain ⟨l, x, rfl⟩ := (eq_nil_or_concat post).resolve_left hne
  have heq : ord ++ [w.node] = (pre ++ l) ++ [x] := by simpa [hlast] using horder
  exact ⟨l, by simp [singleton_inj.mp (append_inj' heq rfl).2]⟩

section Descent

variable (hg : g.Climbing) (hd : g.Descent w)

include hg hd

lemma Descent.down (hb : g.backOptions w = []) (hn : n ∈ g.stepOptions w) (hnode : w'.node = n)
    (horder : w'.order = w.order ++ [n]) (harcs : w'.doneArcs = w.doneArcs) (hnodes : w.doneNodes ⊆ w'.doneNodes) :
    g.Descent w' := by
  obtain ⟨hstep, hnot⟩ := mem_stepOptions.mp hn
  obtain ⟨ord, hlast⟩ := hd.last
  have hnone := hd.no_back hb
  refine ⟨⟨w.order, by rw [horder, hnode]⟩, ?_, ?_, ?_, ?_, ?_, ?_⟩
  · intro x hx
    rw [hnode] at hx
    rw [horder, mem_append, mem_singleton]
    rcases ReflTransGen.cases_tail hx with rfl | ⟨y, hxy, hy⟩
    · exact .inr rfl
    · exact .inl (hd.above x (hg.parent y w.node n hy hstep ▸ hxy))
  · intro pre u post heq hu
    rw [horder] at heq
    rcases snoc_eq_split heq with ⟨rfl, _⟩ | ⟨post, rfl, hold⟩
    · simp
    · simp only [mem_append, mem_singleton, not_or] at hu
      rcases hd.below pre u post hold hu.1 with hbelow | hapart
      · have hun : ReflTransGen g.Step u w.node := by
          rcases snoc_eq_split (hlast.symm.trans hold) with ⟨_, rfl, _⟩ | ⟨post', rfl, _⟩
          · exact .refl
          · exact (hbelow w.node (by simp)).to_reflTransGen
        refine .inl fun x hx => ?_
        rcases mem_append.mp hx with hx | hx
        · exact hbelow x hx
        · rw [mem_singleton.mp hx]
          exact TransGen.tail' hun hstep
      · refine .inr fun hun => hapart ?_
        rw [hnode] at hun
        rcases ReflTransGen.cases_tail hun with rfl | ⟨y, huy, hy⟩
        · exact absurd rfl hu.2
        · exact hg.parent y w.node n hy hstep ▸ huy
  · intro pre b c post heq t ht
    rw [horder] at heq
    have heq : w.order ++ [n] = (pre ++ [b]) ++ c :: post := by simpa using heq
    rcases snoc_eq_split heq with ⟨_, _, hpre⟩ | ⟨post, rfl, hold⟩
    · have hbn : b = w.node := by simpa using (append_inj' (hpre.trans hlast) rfl).2
      exact absurd (hbn ▸ ht) (hnone t)
    · exact hd.backs pre b c post (by simpa using hold) t ht
  · intro x t hx ht
    rw [hnode] at hx
    rcases Relation.reflTransGen_iff_eq_or_transGen.mp (hg.above hstep hx) with rfl | hx
    · exact hnone t ht
    · exact hd.free x t hx ht
  · intro e he
    exact hnodes (hd.done e (harcs ▸ he))
  · intro t _ hmem
    rw [hnode, harcs] at hmem
    exact hnot (hd.done _ hmem)

lemma Descent.up (ht : g.Back w.node t) (again : List Nat) : g.Descent ((w.reopen t again).go t) := by
  have hup : TransGen g.Step t w.node := hg.up _ _ ht
  obtain ⟨ord, hlast⟩ := hd.last
  refine ⟨⟨w.order, rfl⟩, ?_, ?_, ?_, ?_, ?_, ?_⟩
  · intro x hx
    exact mem_append_left _ (hd.above x (hx.trans hup.to_reflTransGen))
  · intro pre u post heq hu
    rcases snoc_eq_split heq with ⟨rfl, _⟩ | ⟨post, rfl, hold⟩
    · simp
    · simp only [mem_append, mem_singleton, not_or] at hu
      by_cases hut : ReflTransGen g.Step u t
      · have hut' : TransGen g.Step u t :=
          (Relation.reflTransGen_iff_eq_or_transGen.mp hut).resolve_left (fun h => hu.2 h.symm)
        rcases hd.below pre u post hold hu.1 with hbelow | hapart
        · refine .inl fun x hx => ?_
          rcases mem_append.mp hx with hx | hx
          · exact hbelow x hx
          · exact mem_singleton.mp hx ▸ hut'
        · exact absurd (hut.trans hup.to_reflTransGen) hapart
      · exact .inr hut
  · intro pre b c post heq t' ht'
    have heq : w.order ++ [t] = (pre ++ [b]) ++ c :: post := by simpa using heq
    rcases snoc_eq_split heq with ⟨_, hc, hpre⟩ | ⟨post, rfl, hold⟩
    · have hbn : b = w.node := by simpa using (append_inj' (hpre.trans hlast) rfl).2
      rw [hc]
      exact hg.oneBack w.node t t' ht (hbn ▸ ht')
    · exact hd.backs pre b c post (by simpa using hold) t' ht'
  · intro x t' hx
    exact hd.free x t' (hx.trans hup)
  · intro e he
    obtain ⟨he, hagain⟩ := Walk.mem_reopen_doneArcs.mp he
    refine mem_append.mpr ?_
    rcases he with he | rfl
    · exact .inl (Walk.mem_reopen_doneNodes.mpr ⟨hd.done e he, hagain⟩)
    · exact .inr (by simp)
  · intro t' ht'
    exact absurd ht' (hd.free t t' hup)

lemma Descent.move (hm : g.Move w w') : g.Descent w' := by
  cases hm with
  | back hn hv =>
    obtain ⟨pre, post, _, _, rfl⟩ := goBack_ok hv
    exact hd.up hg (mem_backOptions.mp hn).1 _
  | step hb hn | choose hb hn => exact hd.down hg hb hn rfl rfl rfl (by simp [Walk.go])

/-! ## What going back opens again -/

lemma Descent.since (ht : g.Back w.node t) (horder : w.order = pre ++ t :: post) (hpost : t ∉ post) :
    w.node ∉ (t :: post).dropLast ∧ ∀ a ∈ (t :: post).dropLast, ∀ t', g.Back a t' → t < t' := by
  have hbelow : ∀ x ∈ post, TransGen g.Step t x :=
    (hd.below pre t post horder hpost).resolve_right (fun h => h (hg.up _ _ ht).to_reflTransGen)
  -- what comes next on the branch after a node with an arc back is where that arc leads
  have hnext : ∀ a ∈ (t :: post).dropLast, ∀ t', g.Back a t' → t' ∈ post := by
    intro a ha t' hat
    obtain ⟨l₁, c, l₂, hsplit⟩ := mem_dropLast_split ha
    obtain rfl : c = t' := hd.backs (pre ++ l₁) a c l₂ (by simp [horder, hsplit]) t' hat
    cases l₁ with
    | nil | cons _ _ => simp [(cons.inj hsplit).2]
  exact ⟨fun hmem => hpost (hnext _ hmem t ht), fun a ha t' hat => hg.lt (hbelow t' (hnext a ha t' hat))⟩

lemma Descent.goBack_ok (ht : g.Back w.node t) : ∃ v, g.goBack w t = .ok v := by
  obtain ⟨pre, post, horder, hpost⟩ := exists_last (hd.above t (hg.up _ _ ht).to_reflTransGen)
  exact ⟨_, goBack_eq horder hpost (hd.since hg ht horder hpost).1⟩

end Descent

/-! ## The weight of what is left -/

/-- An arc back weighs more than all arcs back to later nodes together. -/
def backWeight (g : Digraph σ) (n : Nat) : Nat := (g.backward.arcs.length + 1) ^ (g.top - n)

/-- The weight of the arcs back that are not done. -/
def weight (g : Digraph σ) (w : Walk) : Nat :=
  (g.backward.arcs.map (fun e => if (e.src, e.dst) ∈ w.doneArcs then 0 else g.backWeight e.dst)).sum

/-- What is left for a walk to do: every move makes it less. -/
def remaining (g : Digraph σ) (w : Walk) : Nat := (g.top + 1) * g.weight w + (g.top - w.node)

lemma lt_top (h : n ∈ g.nodes) : n < g.top := by
  unfold top
  generalize g.nodes = ms at h
  induction ms with
  | nil => simp at h
  | cons m ms ih =>
    rcases mem_cons.mp h with rfl | h
    · exact Nat.lt_of_lt_of_le (Nat.lt_succ_self n) (Nat.le_max_left _ _)
    · exact Nat.lt_of_lt_of_le (ih h) (Nat.le_max_right _ _)

lemma sum_map_le {f h : α → Nat} {c : Nat} (hle : ∀ e ∈ l, f e ≤ h e + c) : (l.map f).sum ≤ (l.map h).sum + l.length * c := by
  induction l with
  | nil => simp
  | cons e l ih =>
    have h1 := hle e (by simp)
    have h2 := ih fun x hx => hle x (mem_cons_of_mem e hx)
    simp only [map_cons, sum_cons, length_cons, Nat.add_mul]
    omega

/-- What `f` falls short of `h` by at one place shows in the sum, up to what it exceeds `h` by elsewhere. -/
lemma sum_map_add_le {f h : α → Nat} {c d : Nat} {j : α} (hj : j ∈ l)
    (hjd : f j + d ≤ h j) (hle : ∀ e ∈ l, f e ≤ h e + c) : (l.map f).sum + d ≤ (l.map h).sum + l.length * c := by
  obtain ⟨l₁, l₂, rfl⟩ := append_of_mem hj
  have h1 := sum_map_le (l := l₁) fun x hx => hle x (by simp [hx])
  have h2 := sum_map_le (l := l₂) fun x hx => hle x (by simp [hx])
  simp only [map_append, map_cons, sum_append, sum_cons, length_append, length_cons, Nat.add_mul]
  omega

lemma weight_le (w : Walk) : g.weight w ≤ g.backward.arcs.length * (g.backward.arcs.length + 1) ^ g.top := by
  have h := sum_map_le (l := g.backward.arcs) (c := (g.backward.arcs.length + 1) ^ g.top)
    (f := fun e => if (e.src, e.dst) ∈ w.doneArcs then 0 else g.backWeight e.dst) (h := fun _ => 0) ?_
  · simpa [weight] using h
  · intro e _
    have hle : g.backWeight e.dst ≤ (g.backward.arcs.length + 1) ^ g.top :=
      Nat.pow_le_pow_right (Nat.succ_pos _) (Nat.sub_le _ _)
    split <;> omega

lemma Descent.weight_lt (hg : g.Climbing) (hd : g.Descent w) (ht : g.Back w.node t) (horder : w.order = pre ++ t :: post)
    (hpost : t ∉ post) (hagain : again ⊆ (t :: post).dropLast) : g.weight (w.reopen t again) < g.weight w := by
  obtain ⟨hnode, hlater⟩ := hd.since hg ht horder hpost
  have htop : t < g.top := lt_top (hg.closed.arrow ht.arrow).2
  obtain ⟨j, hj, hwrt, hsrc, hdst⟩ := ht
  let c := (g.backward.arcs.length + 1) ^ (g.top - t - 1)
  have hc : 0 < c := Nat.pow_pos (Nat.succ_pos _)
  have hweight : g.backWeight t = g.backward.arcs.length * c + c := by
    unfold backWeight
    have : g.top - t = g.top - t - 1 + 1 := by omega
    rw [this, Nat.pow_succ, Nat.mul_comm]
    simp only [Nat.add_mul, Nat.one_mul, c]
  have hsum := sum_map_add_le (c := c) (d := g.backWeight t)
    (f := fun e => if (e.src, e.dst) ∈ (w.reopen t again).doneArcs then 0 else g.backWeight e.dst)
    (h := fun e => if (e.src, e.dst) ∈ w.doneArcs then 0 else g.backWeight e.dst)
    (mem_backward_arcs.mpr ⟨hj, hwrt⟩) ?_ ?_
  · unfold weight
    omega
  · -- the arc taken counts as done now
    have hdone : (j.src, j.dst) ∈ (w.reopen t again).doneArcs := by
      rw [Walk.mem_reopen_doneArcs, hsrc, hdst]
      exact ⟨.inr rfl, fun h => hnode (hagain h)⟩
    have hnot : (j.src, j.dst) ∉ w.doneArcs := by
      rw [hsrc, hdst]
      exact hd.fresh t ⟨j, hj, hwrt, hsrc, hdst⟩
    rw [if_pos hdone, if_neg hnot, hdst]
    omega
  · -- an arc opened again leads to a later node
    intro e he
    obtain ⟨he, hew⟩ := mem_backward_arcs.mp he
    by_cases hopen : e.src ∈ again
    · have hlt : t < e.dst := hlater e.src (hagain hopen) e.dst ⟨e, he, hew, rfl, rfl⟩
      have hle : g.backWeight e.dst ≤ c := Nat.pow_le_pow_right (Nat.succ_pos _) (by omega)
      split <;> omega
    · have hsame : (e.src, e.dst) ∈ w.doneArcs → (e.src, e.dst) ∈ (w.reopen t again).doneArcs :=
        fun h => Walk.mem_reopen_doneArcs.mpr ⟨.inl h, hopen⟩
      split
      · omega
      · rw [if_neg (mt hsame ‹_›)]
        omega

lemma Move.mem_nodes (hg : g.Climbing) (hm : g.Move w w') : w'.node ∈ g.nodes := by
  obtain ⟨n, rfl, _, _, _, ⟨hback, _⟩ | ⟨hstep, _⟩⟩ := hm.spec
  · exact (hg.closed.arrow hback.arrow).2
  · exact (hg.closed.arrow hstep.forward.arrow).2

/-- Every move leaves less to do: the walk goes down, or the arcs back left weigh less. -/
lemma Descent.remaining_lt (hg : g.Climbing) (hd : g.Descent w) (hm : g.Move w w') : g.remaining w' < g.remaining w := by
  have htop : w'.node < g.top := lt_top (hm.mem_nodes hg)
  have hdown : g.weight w' = g.weight w → w.node < w'.node → g.remaining w' < g.remaining w := by
    intro hsame hlt
    simp only [remaining, hsame]
    omega
  cases hm with
  | back hn hv =>
    obtain ⟨pre, post, horder, hpost, rfl⟩ := Digraph.goBack_ok hv
    have hlt := hd.weight_lt hg (mem_backOptions.mp hn).1 horder hpost (reopened_subset (g := g) (w := w))
    have hmul := Nat.mul_le_mul_left (g.top + 1) hlt
    rw [Nat.mul_succ] at hmul
    simp only [remaining]
    change (g.top + 1) * g.weight (w.reopen _ _) + _ < _
    omega
  | step hb hn | choose hb hn => exact hdown rfl (hg.later _ _ (mem_stepOptions.mp hn).1)

lemma complete_halts (hg : g.Climbing) (finish : Nat) : ∀ (fuel : Nat) {w : Walk}, g.Descent w → g.remaining w < fuel →
    (∃ w', g.complete finish fuel w = .ok w') ∨ ∃ e, g.complete finish fuel w = .error e ∧ e.kind = .deadEnd
  | 0, _, _, hfuel => absurd hfuel (Nat.not_lt_zero _)
  | fuel + 1, w, hd, hfuel => by
    rcases complete_cases hg.simple hg.oneBack finish fuel w with
      hdead | ⟨_, ⟨hok, _⟩ | ⟨n, e, hn, he, _⟩ | ⟨v, hm, hv⟩⟩
    · exact .inr hdead
    · exact .inl ⟨w, hok⟩
    · obtain ⟨v, hv⟩ := hd.goBack_ok hg (mem_backOptions.mp hn).1
      rw [hv] at he
      cases he
    · rw [hv]
      have hlt := hd.remaining_lt hg hm
      exact complete_halts hg finish fuel (hd.move hg hm) (by omega)

lemma remaining_lt_climbFuel (w : Walk) : g.remaining w < g.climbFuel := by
  have h := Nat.mul_le_mul_left (g.top + 1) (weight_le (g := g) w)
  simp only [remaining, climbFuel, Nat.pow_eq]
  rw [Nat.mul_add]
  omega

lemma topologicalOrder_error (h : g.topologicalOrder = .error e) : e.kind = .cyclic := by
  simp only [topologicalOrder] at h
  split at h
  · cases h
  · obtain rfl : Cause.toFault FaultKind.cyclic = e := by simpa using h
    rfl

lemma endsOr_error (hc : g.Closed) (hnd : g.nodes.Nodup) (hne : g.nodes ≠ [])
    (h : g.endsOr none none = .error e) : e.kind = .cyclic := by
  unfold endsOr at h
  cases ht : g.forward.topologicalOrder with
  | error e' =>
    rw [ht] at h
    obtain rfl : e' = e := by simpa [bind, Except.bind] using h
    exact topologicalOrder_error ht
  | ok order =>
    obtain ⟨n, hn⟩ := exists_mem_of_ne_nil _ hne
    have hmem : n ∈ order := ((topologicalOrder_spec (hc.filterArcs _) hnd ht).2.1 n).mpr hn
    cases order with
    | nil => simp at hmem
    | cons m ms => simp [ht, getLast?_eq_some_getLast, bind, Except.bind, pure, Except.pure] at h

/-- Where arcs back lead up, a walk comes to its end or to a dead end, and does not begin where there is a
cycle. -/
lemma walk_halts (hg : g.Climbing) (hnd : g.nodes.Nodup) (hne : g.nodes ≠ []) : (∃ order, g.walk none none = .ok order) ∨
    ∃ e, g.walk none none = .error e ∧ (e.kind = .deadEnd ∨ e.kind = .cyclic) := by
  unfold walk
  cases hends : g.endsOr none none with
  | error e => exact .inr ⟨e, rfl, .inr (endsOr_error hg.closed hnd hne hends)⟩
  | ok ends =>
    obtain ⟨a, b⟩ := ends
    obtain ⟨ha, hroot⟩ := endsOr_start hg.closed hnd hends
    have hfuel : g.walkFuel = g.climbFuel := if_pos (climbs_iff.mpr hg)
    simp only [bind, Except.bind, walkOn, contains_iff_mem.mpr ha, Bool.not_true, Bool.false_eq_true, if_false, hfuel]
    rcases complete_halts hg b g.climbFuel (.start fun m hm => hroot m hm.forward) (remaining_lt_climbFuel _) with
      ⟨w, hw⟩ | ⟨e, he, hk⟩
    · exact .inl ⟨w.order, by rw [hw]; rfl⟩
    · exact .inr ⟨e, by rw [he], .inl hk⟩

/-! ## Walks without end -/

/-- The move that a search tries first, unless the walk ends. -/
def firstMove (g : Digraph σ) (w : Walk) : Option Walk :=
  if !g.isReady w w.node then none else
  match g.options w with
  | [] => none
  | [n] => if (g.arc? w.node n).any (·.type == .wrt) then (g.goBack w n).toOption.map (·.go n) else some (w.go n)
  | n :: _ => some { w.go n with doneNodes := (w.go n).doneNodes ++ [n] }

lemma firstMove_back (hr : g.isReady w w.node) (ho : g.options w = [t]) (hb : (g.arc? w.node t).any (·.type == .wrt))
    (horder : w.order = pre ++ t :: post) (ht : t ∉ post) (hnode : w.node ∉ (t :: post).dropLast)
    (hagain : g.reopened w (t :: post) = again) : g.firstMove w = some ((w.reopen t again).go t) := by
  simp [firstMove, hr, ho, hb, goBack_eq horder ht hnode, hagain, Except.toOption]

lemma complete_of_firstMove {v : Walk} {finish fuel : Nat} (hv : g.firstMove w = some v)
    (he : g.complete finish fuel v = .error e) (hk : (e.kind == .deadEnd) = false) :
    g.complete finish (fuel + 1) w = .error e := by
  unfold firstMove at hv
  rw [complete]
  by_cases hr : g.isReady w w.node
  swap
  · simp [hr] at hv
  simp only [hr, Bool.not_true, Bool.false_eq_true, if_false] at hv ⊢
  cases ho : g.options w with
  | nil => simp [ho] at hv
  | cons n ns =>
    cases ns with
    | cons m ms =>
      obtain rfl : _ = v := by simpa [ho] using hv
      simp [firstAlive, he, hk]
    | nil =>
      simp only [ho] at hv ⊢
      by_cases hb : (g.arc? w.node n).any (·.type == .wrt)
      · simp only [hb, if_true] at hv ⊢
        cases hgo : g.goBack w n with
        | error _ => simp [hgo, Except.toOption] at hv
        | ok u =>
          obtain rfl : u.go n = v := by simpa [hgo, Except.toOption] using hv
          exact he
      · obtain rfl : w.go n = v := by simpa [hb] using hv
        simpa [hb] using he

/-- If walks all lead to each other, a search through one does not end. -/
lemma complete_endless (hI : ∀ w, I w → ∃ v, g.firstMove w = some v ∧ I v) (finish : Nat) :
    ∀ (fuel : Nat) {w : Walk}, I w → g.complete finish fuel w = .error (Cause.toFault FaultKind.tooDeep)
  | 0, _, _ => rfl
  | fuel + 1, w, hw => by
    obtain ⟨v, hv, hIv⟩ := hI w hw
    exact complete_of_firstMove hv (complete_endless hI finish fuel hIv) rfl

lemma walk_endless (hI : ∀ w, I w → ∃ v, g.firstMove w = some v ∧ I v) {b : Nat}
    (hends : g.endsOr none none = .ok (a, b)) (ha : a ∈ g.nodes) (hw : I { node := a, order := [a] }) (fuel : Nat) :
    g.walk none none fuel = .error (Cause.toFault FaultKind.tooDeep) := by
  simp [walk, hends, walkOn, ha, complete_endless hI b fuel hw, bind, Except.bind]

end SurveyGraph.Digraph
