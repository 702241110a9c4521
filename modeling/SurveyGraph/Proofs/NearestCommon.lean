import Mathlib.Data.Nat.Find
import SurveyGraph.Proofs.PlanMethods
/-!
# The nearest common node

An operation on several nodes is counted to a node above all of them. The nodes above a node form a chain (`above_chain`), so
among the common ones there is a nearest. `sharedAncestor` looks for it by depth, which counts the nodes that lead to a node.
An arc back leads around a circle of equally deep nodes. So the nearest common node is found, in whatever order, exactly if
no other common node is as deep: where aggregations go up, if no way leads from it to another one.
-/
open Relation List

namespace SurveyGraph

namespace Digraph

variable {σ : Type} {g : Digraph σ} {m n r : Nat}

/-! ## Chains of nodes -/

/-- Steps lead to later nodes and join nowhere. A node has one arc back at most, to an earlier node. -/
structure Upward (g : Digraph σ) : Prop where
  closed : g.Closed
  later : ∀ m n, g.Step m n → m < n
  parent : ∀ m m' n, g.Step m n → g.Step m' n → m = m'
  oneBack : g.OneBack
  earlier : ∀ m n, g.Back m n → n < m

lemma arrow_above (h : g.Closed) : g.above.Arrow n m ↔ g.Up n m := by
  have hsrc : ∀ k, ∀ e ∈ g.aboveArcs k, e.src = k := by
    intro k e he
    rcases mem_append.mp he with he | he
    · exact beq_iff_eq.mp (mem_filter.mp (mem_filter.mp he).1).2
    · obtain ⟨d, hd, rfl⟩ := mem_map.mp he
      exact beq_iff_eq.mp (mem_filter.mp (mem_filter.mp hd).1).2
  rw [← mem_aboveArcs, mem_map]
  constructor
  · rintro ⟨e, he, rfl, hdst⟩
    obtain ⟨k, -, hk⟩ := mem_flatMap.mp he
    exact ⟨e, hsrc k e hk ▸ hk, hdst⟩
  · rintro ⟨e, he, hdst⟩
    have hn : n ∈ g.nodes := (h.up (mem_aboveArcs.mp (mem_map.mpr ⟨e, he, rfl⟩))).1
    exact ⟨e, mem_flatMap.mpr ⟨n, hn, he⟩, hsrc n e he, hdst⟩

lemma exists_up (h : ∃ m, g.Step m n) : ∃ m, g.Up n m := by
  by_cases hback : ∃ t, g.Back n t
  · exact hback.imp fun t ht => .inl ht
  · exact h.imp fun m hm => .inr ⟨fun t ht => hback ⟨t, ht⟩, hm⟩

namespace Upward

lemma up_lt (h : g.Upward) : g.Up n m → m < n
  | .inl hback => h.earlier n m hback
  | .inr ⟨_, hstep⟩ => h.later m n hstep

lemma up_unique (h : g.Upward) : Relator.RightUnique g.Up := by
  rintro n m m' (hback | ⟨hnone, hstep⟩) (hback' | ⟨hnone', hstep'⟩)
  · exact h.oneBack n m m' hback hback'
  · exact absurd hback (hnone' m)
  · exact absurd hback' (hnone m')
  · exact h.parent m m' n hstep hstep'

lemma le_of_above (h : g.Upward) (hup : ReflTransGen g.Up n m) : m ≤ n := by
  induction hup with
  | refl => exact Nat.le_refl n
  | tail _ hlast ih => exact (Nat.le_of_lt (h.up_lt hlast)).trans ih

/-- Every way up ends at a node that alone has no step to it. -/
lemma start_above (h : g.Upward) (hsteps : ∀ n ∈ g.nodes, n ≠ r → ∃ m, g.Step m n) (hn : n ∈ g.nodes) :
    ReflTransGen g.Up n r := by
  induction n using Nat.strong_induction_on with
  | _ n ih =>
    by_cases hr : n = r
    · exact hr ▸ .refl
    · obtain ⟨m, hm⟩ := exists_up (hsteps n hn hr)
      exact (ih m (h.up_lt hm) (h.closed.up hm).2).head hm

end Upward

/-- The steps moreover form a tree: one leads to every node but `r`. -/
structure Rooted (g : Digraph σ) (r : Nat) : Prop extends g.Upward where
  child : ∀ n ∈ g.nodes, n ≠ r → ∃ m, g.Step m n

/-- No node comes before the first one, so that no arc back leads from it. -/
lemma Rooted.top (h : g.Rooted r) : ¬g.Up r m := by
  intro hup
  have hle := h.le_of_above (h.start_above h.child (h.closed.up hup).2)
  exact absurd (h.up_lt hup) (Nat.not_lt.mpr hle)

end Digraph

namespace Plan
open SurveyGraph.Digraph

variable {p : Plan} {ns order : List Nat} {c d m n r : Nat} {ranked : List (Nat × Nat)}

lemma Sound.upward (h : p.Sound) : p.graph.Upward where
  closed := h.closed
  later _ _ := h.later
  parent _ _ _ := h.parent
  oneBack := h.oneBack
  earlier := by
    rintro m n ⟨e, he, hw, rfl, rfl⟩
    obtain ⟨e', he', hdst, s, hs, ht⟩ := h.back e he hw
    exact hdst ▸ (h.label e' he' s hs).2.2 e.dst ht

lemma Sound.start_above (h : p.Sound) (hsteps : ∀ n, 0 < n → n < p.nodes.length → ∃ m, p.graph.Step m n)
    (hn : n < p.nodes.length) : ReflTransGen p.graph.Up n Plan.start :=
  h.upward.start_above (fun n hn hpos => hsteps n (Nat.pos_of_ne_zero hpos) (h.mem_nodes.mp hn)) (h.mem_nodes.mpr hn)

/-! ## Common nodes -/

/-- A node is above each of the given nodes, or is the node. -/
def Common (p : Plan) (ns : List Nat) (d : Nat) : Prop := ∀ n ∈ ns, d ∈ p.graph.stateAbove n

instance : Decidable (p.Common ns d) := inferInstanceAs (Decidable (∀ n ∈ ns, d ∈ p.graph.stateAbove n))

/-- A common node that all others are above. -/
def Nearest (p : Plan) (ns : List Nat) (c : Nat) : Prop := p.Common ns c ∧ ∀ d, p.Common ns d → d ∈ p.graph.stateAbove c

lemma nearest_cons : p.Nearest (n :: ns) c ↔
    p.Common (n :: ns) c ∧ ∀ d ∈ p.graph.stateAbove n, p.Common ns d → d ∈ p.graph.stateAbove c := by
  simp only [Nearest, Common, forall_mem_cons, and_imp]

/-- The nearest of the common nodes is the one that was made last. -/
lemma Sound.exists_nearest (h : p.Sound) (hns : ns ≠ []) (hd : p.Common ns d) : ∃ c, p.Nearest ns c := by
  obtain ⟨n, rest, rfl⟩ := exists_cons_of_ne_nil hns
  have hle : ∀ d, p.Common (n :: rest) d → d ≤ n := fun d hd =>
    h.upward.le_of_above ((mem_stateAbove h.closed).mp (hd n (.head _)))
  have hc : p.Common (n :: rest) (Nat.findGreatest (p.Common (n :: rest)) n) := Nat.findGreatest_spec (hle d hd) hd
  refine ⟨_, hc, fun d hd => ?_⟩
  have hlast : d ≤ Nat.findGreatest (p.Common (n :: rest)) n := Nat.le_findGreatest (hle d hd) hd
  -- both are above the first node, so one of them is above the other
  have habove := (mem_stateAbove h.closed).mp (hd n (.head _))
  have habove_c := (mem_stateAbove h.closed).mp (hc n (.head _))
  rw [mem_stateAbove h.closed]
  rcases ReflTransGen.total_of_right_unique h.upward.up_unique habove_c habove with hcd | hdc
  · exact hcd
  · rw [Nat.le_antisymm hlast (h.upward.le_of_above hdc)]

lemma Sound.nearest_unique (h : p.Sound) (hc : p.Nearest ns c) (hd : p.Nearest ns d) : d = c :=
  Nat.le_antisymm (h.upward.le_of_above ((mem_stateAbove h.closed).mp (hc.2 d hd.1)))
    (h.upward.le_of_above ((mem_stateAbove h.closed).mp (hd.2 c hc.1)))

/-! ## Depth -/

/-- Steps and arcs back lead from one node to another. -/
def WalksTo (p : Plan) (a b : Nat) : Prop := ReflTransGen p.graph.walkable.Arrow a b

lemma Sound.mem_walkable_reaching (h : p.Sound) : m ∈ p.graph.walkable.reaching n ↔ p.WalksTo m n :=
  mem_reaching (h.closed.filterArcs _)

lemma Sound.depth_add_one (h : p.Sound) (n : Nat) : p.depth n + 1 = (p.graph.walkable.reaching n).length := by
  have hnd : (p.graph.walkable.reaching n).Nodup := Shortest.nodup_closure _ _ _ (by simp)
  have hmem : n ∈ p.graph.walkable.reaching n := h.mem_walkable_reaching.mpr .refl
  rw [depth, ancestors, ← hnd.erase_eq_filter, length_erase_of_mem hmem]
  exact Nat.sub_add_cancel (length_pos_of_mem hmem)

/-- A node that leads to another is not deeper, and as deep if the other leads back. -/
lemma Sound.depth_of_walksTo (h : p.Sound) (hdc : p.WalksTo d c) :
    p.depth d ≤ p.depth c ∧ (p.depth d < p.depth c ↔ ¬ p.WalksTo c d) := by
  have hsub : ∀ {a b : Nat}, p.WalksTo a b → p.depth a ≤ p.depth b := by
    intro a b hab
    have hlen : (p.graph.walkable.reaching a).length ≤ (p.graph.walkable.reaching b).length :=
      (Nodup.subperm (Shortest.nodup_closure _ _ _ (by simp)) fun x hx =>
        h.mem_walkable_reaching.mpr ((h.mem_walkable_reaching.mp hx).trans hab)).length_le
    have := h.depth_add_one a
    have := h.depth_add_one b
    omega
  refine ⟨hsub hdc, fun hlt hcd => absurd (hsub hcd) (by omega), fun hno => ?_⟩
  -- the deeper node leads to itself, and not to the other one
  have hnew : (c :: p.graph.walkable.reaching d).Nodup := by
    refine nodup_cons.mpr ⟨fun hc => hno (h.mem_walkable_reaching.mp hc), Shortest.nodup_closure _ _ _ (by simp)⟩
  have hlen : (c :: p.graph.walkable.reaching d).length ≤ (p.graph.walkable.reaching c).length := by
    refine (Nodup.subperm hnew fun x hx => h.mem_walkable_reaching.mpr ?_).length_le
    rcases mem_cons.mp hx with rfl | hx
    · exact .refl
    · exact (h.mem_walkable_reaching.mp hx).trans hdc
  have := h.depth_add_one d
  have := h.depth_add_one c
  rw [length_cons] at hlen
  omega

lemma walksTo_of_above (hup : p.GoesUp) (h : ReflTransGen p.graph.Up c d) : p.WalksTo d c := by
  induction h with
  | refl => exact .refl
  | tail _ hlast ih =>
    refine ReflTransGen.trans ?_ ih
    rcases hlast with hback | ⟨_, hstep⟩
    · exact (hup _ _ hback).to_reflTransGen.lift id fun a b hab => arrow_walkable.mpr (.inl hab)
    · exact .single (arrow_walkable.mpr (.inl hstep))

/-! ## The choice by depth -/

lemma lowest_eq_none : lowest ranked = none ↔ ranked = [] := by
  fun_induction lowest ranked with
  | case1 => simp
  | case2 n d rest hany ih =>
    rw [ih]
    constructor
    · rintro rfl
      simp at hany
    · simp
  | case3 => simp

lemma le_of_lowest : ∀ {ranked : List (Nat × Nat)}, lowest ranked = some m → ∃ k, (m, k) ∈ ranked ∧ ∀ x ∈ ranked, x.2 ≤ k
  | (n, k) :: rest, h => by
    unfold lowest at h
    split at h
    · rename_i hany
      obtain ⟨k', hmem, hmax⟩ := le_of_lowest h
      obtain ⟨x, hx, hkx⟩ := any_eq_true.mp hany
      refine ⟨k', .tail _ hmem, forall_mem_cons.mpr ⟨?_, hmax⟩⟩
      exact (of_decide_eq_true hkx).trans (hmax x hx)
    · rename_i hany
      cases h
      refine ⟨k, .head _, forall_mem_cons.mpr ⟨Nat.le_refl k, fun x hx => ?_⟩⟩
      have hno := (any_eq_false.mp (Bool.eq_false_iff.mpr hany)) x hx
      simp only [decide_eq_true_eq] at hno
      omega

lemma lowest_concat {k : Nat} (h : ∀ x ∈ ranked, x.2 ≤ k) : lowest (ranked ++ [(m, k)]) = some m := by
  induction ranked with
  | nil => rfl
  | cons x rest ih =>
    obtain ⟨hx, hrest⟩ := forall_mem_cons.mp h
    rw [cons_append, lowest, if_pos]
    · exact ih hrest
    · exact any_eq_true.mpr ⟨(m, k), by simp, by simpa using hx⟩

/-- The common nodes in some order. -/
structure Enumerates (p : Plan) (ns order : List Nat) : Prop where
  nodup : order.Nodup
  mem : ∀ d, d ∈ order ↔ p.Common ns d

/-- No other common node is as deep as this one. -/
def Deepest (p : Plan) (ns : List Nat) (c : Nat) : Prop := ∀ d, p.Common ns d → d ≠ c → p.depth d < p.depth c

lemma lowest_mem (h : lowest (order.map fun d => (d, p.depth d)) = some m) :
    m ∈ order ∧ ∀ d ∈ order, p.depth d ≤ p.depth m := by
  obtain ⟨k, hmem, hmax⟩ := le_of_lowest h
  obtain ⟨x, hx, hxk⟩ := mem_map.mp hmem
  cases hxk
  exact ⟨hx, fun d hd => hmax _ (mem_map_of_mem hd)⟩

/-- A node that is deeper than all others is chosen in every order. -/
lemma Deepest.lowest (h : p.Deepest ns c) (hc : p.Common ns c)
    (horder : ∀ d, d ∈ order ↔ p.Common ns d) : lowest (order.map fun d => (d, p.depth d)) = some c := by
  cases hlow : Plan.lowest (order.map fun d => (d, p.depth d)) with
  | none =>
    rw [lowest_eq_none, map_eq_nil_iff] at hlow
    exact absurd ((horder c).mpr hc) (by simp [hlow])
  | some m =>
    obtain ⟨hm, hmax⟩ := lowest_mem hlow
    by_contra hne
    have hlt := h m ((horder m).mp hm) fun heq => hne (by rw [heq])
    exact absurd (hmax c ((horder c).mpr hc)) (by omega)

lemma deepest_of_lowest {common : List Nat} (hcommon : p.Enumerates ns common)
    (h : ∀ order, p.Enumerates ns order → lowest (order.map fun d => (d, p.depth d)) = some c) : p.Deepest ns c := by
  intro d hd hne
  have hmax := (lowest_mem (h common hcommon)).2
  by_contra hnot
  -- the other node comes last, and none is deeper
  have hlast : p.Enumerates ns (common.filter (· != d) ++ [d]) := by
    refine ⟨nodup_append.mpr ⟨hcommon.nodup.filter _, by simp, ?_⟩, fun x => ?_⟩
    · intro a ha b hb
      rw [mem_singleton.mp hb]
      simpa using (mem_filter.mp ha).2
    · rw [mem_append, mem_filter, hcommon.mem]
      by_cases hx : x = d
      · simp [hx, hd]
      · simp [hx]
  have hchosen := h _ hlast
  rw [map_append, map_singleton, lowest_concat] at hchosen
  · exact hne (Option.some.inj hchosen)
  · intro x hx
    obtain ⟨y, hy, rfl⟩ := mem_map.mp hx
    have := hmax y (mem_of_mem_filter hy)
    omega

/-- The common nodes in the order in which the choice is made. -/
def shared (p : Plan) (n : Nat) (rest : List Nat) : List Nat :=
  let above (m : Nat) : NodeTable := .ofList ((p.graph.stateAbove m).filter (· != m) ++ [m])
  ((rest.map above).foldl NodeTable.inter (above n)).members

lemma mem_shared (h : p.graph.Closed) (n : Nat) (rest : List Nat) : d ∈ p.shared n rest ↔ p.Common (n :: rest) d := by
  have habove : ∀ x, d ∈ (NodeTable.ofList ((p.graph.stateAbove x).filter (· != x) ++ [x])).members ↔
      d ∈ p.graph.stateAbove x := by
    intro x
    rw [NodeTable.mem_ofList, mem_append, mem_filter]
    by_cases hdx : d = x
    · simp [hdx, (mem_stateAbove h).mpr ReflTransGen.refl]
    · simp [hdx]
  rw [shared, NodeTable.mem_foldl_inter, Common, forall_mem_cons, forall_mem_map, habove]
  exact and_congr_right fun _ => forall₂_congr fun x _ => habove x

/-- If the given nodes are one node, it is the answer; else depth decides. -/
lemma sharedAncestor_cases (p : Plan) (n : Nat) (rest : List Nat) :
    (∀ m ∈ rest, m = n) ∧ p.sharedAncestor (n :: rest) = .ok n ∨
    ∀ m, p.sharedAncestor (n :: rest) = .ok m ↔ lowest ((p.shared n rest).map fun d => (d, p.depth d)) = some m := by
  unfold sharedAncestor shared
  by_cases hall : rest.all (· == n) = true
  · refine .inl ⟨fun m hm => ?_, by simp only [hall, if_true]; rfl⟩
    exact beq_iff_eq.mp (all_eq_true.mp hall m hm)
  · refine .inr fun m => ?_
    simp only [hall, Bool.false_eq_true, if_false]
    split
    · rename_i heq
      rw [heq]
      exact ⟨fun h => congrArg some (Except.ok.inj h), fun h => congrArg Except.ok (Option.some.inj h)⟩
    · rename_i heq
      rw [heq]
      exact ⟨nofun, nofun⟩

/-- A common node is found if there is one. -/
lemma sharedAncestor_ok_iff (h : p.graph.Closed) (hns : ns ≠ []) :
    (∃ m, p.sharedAncestor ns = .ok m) ↔ ∃ d, p.Common ns d := by
  obtain ⟨n, rest, rfl⟩ := exists_cons_of_ne_nil hns
  rcases p.sharedAncestor_cases n rest with ⟨hall, hok⟩ | hchoice
  · refine ⟨fun _ => ⟨n, fun m hm => ?_⟩, fun _ => ⟨n, hok⟩⟩
    obtain rfl : m = n := (mem_cons.mp hm).elim id (hall m)
    exact (mem_stateAbove h).mpr .refl
  · simp only [hchoice, ← Option.isSome_iff_exists, ← Option.ne_none_iff_isSome, ne_eq, lowest_eq_none]
    rw [map_eq_nil_iff, eq_nil_iff_forall_not_mem, not_forall_not]
    exact exists_congr fun d => mem_shared h n rest

lemma common_of_sharedAncestor (hc : p.graph.Closed) (hm : p.sharedAncestor ns = .ok m) : p.Common ns m := by
  cases ns with
  | nil => cases hm
  | cons n rest =>
    rcases p.sharedAncestor_cases n rest with ⟨hall, hok⟩ | hchoice
    · obtain rfl : n = m := Except.ok.inj (hok.symm.trans hm)
      intro x hx
      obtain rfl : x = n := (mem_cons.mp hx).elim id (hall x)
      exact (mem_stateAbove hc).mpr .refl
    · exact (mem_shared hc n rest).mp (lowest_mem ((hchoice m).mp hm)).1

/-- What is found is a common node, and no common node is deeper. -/
lemma Sound.depth_le_sharedAncestor (h : p.Sound) (hm : p.sharedAncestor ns = .ok m) (hup : p.GoesUp) :
    p.Common ns m ∧ ∀ d, p.Common ns d → p.depth d ≤ p.depth m := by
  refine ⟨common_of_sharedAncestor h.closed hm, fun d hd => ?_⟩
  cases ns with
  | nil => cases hm
  | cons n rest =>
    rcases p.sharedAncestor_cases n rest with ⟨-, hok⟩ | hchoice
    · obtain rfl : n = m := Except.ok.inj (hok.symm.trans hm)
      have habove := (mem_stateAbove h.closed).mp (hd n (.head _))
      exact (h.depth_of_walksTo (walksTo_of_above hup habove)).1
    · exact (lowest_mem ((hchoice m).mp hm)).2 d ((mem_shared h.closed n rest).mpr hd)

lemma Deepest.sharedAncestor (h : p.Deepest ns c) (hs : p.Sound) (hns : ns ≠ []) (hc : p.Nearest ns c) :
    p.sharedAncestor ns = .ok c := by
  obtain ⟨n, rest, rfl⟩ := exists_cons_of_ne_nil hns
  rcases p.sharedAncestor_cases n rest with ⟨hall, hok⟩ | hchoice
  · -- the node itself is the nearest
    have hn : p.Nearest (n :: rest) n := by
      refine ⟨fun x hx => ?_, fun d hd => hd n (.head _)⟩
      obtain rfl : x = n := (mem_cons.mp hx).elim id (hall x)
      exact (mem_stateAbove hs.closed).mpr .refl
    rw [hok, hs.nearest_unique hc hn]
  · exact (hchoice c).mpr (h.lowest hc.1 fun d => mem_shared hs.closed n rest)

lemma Sound.deepest_iff (h : p.Sound) (hup : p.GoesUp) (hc : p.Nearest ns c) :
    p.Deepest ns c ↔ ∀ d, p.Common ns d → p.WalksTo c d → d = c := by
  have hlt : ∀ d, p.Common ns d → (p.depth d < p.depth c ↔ ¬ p.WalksTo c d) := fun d hd =>
    (h.depth_of_walksTo (walksTo_of_above hup ((mem_stateAbove h.closed).mp (hc.2 d hd)))).2
  refine forall₂_congr fun d hd => ?_
  rw [hlt d hd]
  exact not_imp_not

/-! ## The nearest common node -/

/-- Of nodes with a common node above them, exactly one common node is the nearest. It is chosen in every
order of the common nodes if and only if no other is as deep, and then it is the answer. Where aggregations go
up that is so unless steps and arcs back lead from it to another common node; the answer always lies on a
circle with it, or is the nearest itself. -/
theorem sharedAncestor_nearest (hb : Built p) (hns : ns ≠ []) (hmem : ∀ n ∈ ns, n < p.nodes.length) :
    ((∀ n, 0 < n → n < p.nodes.length → ∃ m, p.graph.Step m n) → p.Common ns Plan.start) ∧
    ((∃ m, p.sharedAncestor ns = .ok m) ↔ ∃ d, p.Common ns d) ∧
    ∀ d, p.Common ns d → ∃ c, p.Nearest ns c ∧ (∀ c', p.Nearest ns c' → c' = c) ∧
      ((∀ order, p.Enumerates ns order → lowest (order.map fun d => (d, p.depth d)) = some c) ↔ p.Deepest ns c) ∧
      (p.Deepest ns c → p.sharedAncestor ns = .ok c) ∧
      (p.GoesUp → (p.Deepest ns c ↔ ∀ d, p.Common ns d → p.WalksTo c d → d = c) ∧
        ∀ m, p.sharedAncestor ns = .ok m → p.Common ns m ∧ p.WalksTo m c ∧ p.WalksTo c m) := by
  have hs := hb.sound
  refine ⟨fun hsteps n hn => ?_, sharedAncestor_ok_iff hs.closed hns, fun d hd => ?_⟩
  · exact (Digraph.mem_stateAbove hs.closed).mpr (hs.start_above hsteps (hmem n hn))
  · obtain ⟨c, hc⟩ := hs.exists_nearest hns hd
    refine ⟨c, hc, fun c' hc' => hs.nearest_unique hc hc', ⟨fun h => ?_, fun h order horder => ?_⟩,
      fun h => h.sharedAncestor hs hns hc, fun hup => ⟨hs.deepest_iff hup hc, fun m hm => ?_⟩⟩
    · obtain ⟨n, rest, rfl⟩ := List.exists_cons_of_ne_nil hns
      refine deepest_of_lowest ⟨Shortest.nodup_eraseDups (p.shared n rest), fun d => ?_⟩ h
      rw [List.mem_eraseDups, mem_shared hs.closed]
    · exact h.lowest hc.1 horder.mem
    · obtain ⟨hcommon, hmax⟩ := hs.depth_le_sharedAncestor hm hup
      have hmc := walksTo_of_above hup ((Digraph.mem_stateAbove hs.closed).mp (hc.2 m hcommon))
      refine ⟨hcommon, hmc, ?_⟩
      by_contra hno
      exact absurd (hmax c hc.1) (Nat.not_le.mpr ((hs.depth_of_walksTo hmc).2.mpr hno))

/-- The exposure times of the runs with sums of them, then the number and exposure times of the runs of every
observation. -/
def runCalls (sums : Nat) : List Call :=
  [.start "run" none, .property 1 "exptime" 0] ++ (range sums).map (fun k => .operation (k + 2) "\x7b0\x7d + 1" "+" []) ++
    [.start "ob" none, .traversal (sums + 3) [] "run" false none none,
      .aggregate (sums + 4) (sums + 3) "count(\x7b0\x7d)" "count" false none none, .property (sums + 4) "exptime" 0]

/-- The number of runs and their exposure times have the observation in common. -/
theorem sharedAncestor_nearest_runs : Built (grow {} (runCalls 0)) ∧ (grow {} (runCalls 0)).GoesUp ∧
    (grow {} (runCalls 0)).Nearest [5, 6] 3 ∧ (grow {} (runCalls 0)).Deepest [5, 6] 3 ∧
    (grow {} (runCalls 0)).sharedAncestor [5, 6] = .ok 3 := by
  let p := grow {} (runCalls 0)
  have hb : Built p := Built.empty.grow (by decide +kernel)
  have hup : p.GoesUp := (Digraph.climbs_iff.mp (by decide +kernel)).up
  have hc : p.Nearest [5, 6] 3 := nearest_cons.mpr (by decide +kernel)
  obtain ⟨-, -, hnearest⟩ := sharedAncestor_nearest hb (List.cons_ne_nil 5 [6]) (by decide +kernel)
  obtain ⟨c, -, hunique, -, hanswer, -⟩ := hnearest 3 hc.1
  obtain rfl := hunique 3 hc
  have hdeep : p.Deepest [5, 6] 3 := by
    have hall : ∀ d ∈ p.graph.stateAbove 5, p.Common [5, 6] d → d ≠ 3 →
        p.depth d < p.depth 3 := by decide +kernel
    exact fun d hd => hall d (hd 5 (by simp)) hd
  exact ⟨hb, hup, hc, hdeep, hanswer hdeep⟩

/-- The answer may be another than the nearest, although all aggregations go up and every node has a step to
it. The runs and their exposure times have the runs in common, but the count of the runs leads back to the
observations, so that these are as deep, and the numbers of the nodes decide. -/
theorem exists_sharedAncestor_not_nearest : ∃ p ns c m, Built p ∧ p.GoesUp ∧
    (∀ n, 0 < n → n < p.nodes.length → ∃ m, p.graph.Step m n) ∧ p.Nearest ns c ∧
    p.sharedAncestor ns = .ok m ∧ m ≠ c ∧ ∃ order, p.Enumerates ns order ∧
    lowest (order.map fun d => (d, p.depth d)) = some c := by
  let q := grow {} (runCalls 4)
  have hb : Built q := Built.empty.grow (by decide +kernel)
  have hup : q.GoesUp := (Digraph.climbs_iff.mp (by decide +kernel)).up
  have hsteps : ∀ n < q.nodes.length, 0 < n → ∃ e ∈ q.graph.steps.arcs, e.dst = n := by decide +kernel
  have hc : q.Nearest [8, 10] 8 := nearest_cons.mpr (by decide +kernel)
  have horder : q.Enumerates [8, 10] [0, 7, 8] := by
    have hall : ∀ d ∈ q.graph.stateAbove 8, d ∈ [0, 7, 8] := by decide +kernel
    have hcommon : ∀ d ∈ [0, 7, 8], q.Common [8, 10] d := by decide +kernel
    exact ⟨by decide, fun d => ⟨hcommon d, fun hd => hall d (hd 8 (by simp))⟩⟩
  refine ⟨q, [8, 10], 8, 7, hb, hup, fun n hpos hn => ?_, hc, ?_, by decide, _, horder, by decide +kernel⟩
  · obtain ⟨e, he, rfl⟩ := hsteps n hn hpos
    exact ⟨e.src, Digraph.arrow_steps.mp ⟨e, he, rfl, rfl⟩⟩
  · exact eq_ok_of_gives (by decide +kernel)

/-! ## Trees with arcs back -/

/-- Where steps form a tree with ever later nodes, and a node has one arc back at most, to an earlier node, exactly
one arc leads up from every node but the first: the arc back or, if there is none, the step against its
direction. The nodes above a node are a chain that ends at the first one, so that any nodes have one in common. -/
theorem above_chain (h : p.graph.Rooted r) :
    (∀ m, ¬p.graph.above.Arrow r m) ∧
    (∀ n ∈ p.graph.nodes, n ≠ r → ∃ m, (∀ k, p.graph.above.Arrow n k ↔ k = m) ∧
      (p.graph.Back n m ∨ (∀ t, ¬p.graph.Back n t) ∧ p.graph.Step m n)) ∧
    (∀ n ∈ p.graph.nodes, r ∈ p.graph.stateAbove n ∧ ∀ a ∈ p.graph.stateAbove n, ∀ b ∈ p.graph.stateAbove n,
      a ∈ p.graph.stateAbove b ∨ b ∈ p.graph.stateAbove a) ∧
    ∀ ns, ns ≠ [] → (∀ n ∈ ns, n ∈ p.graph.nodes) → p.Common ns r ∧ ∃ m, p.sharedAncestor ns = .ok m ∧ p.Common ns m := by
  have hstart : ∀ n ∈ p.graph.nodes, r ∈ p.graph.stateAbove n := fun n hn =>
    (mem_stateAbove h.closed).mpr (h.start_above h.child hn)
  simp only [arrow_above h.closed]
  refine ⟨fun m => h.top, fun n hn hne => ?_, fun n hn => ⟨hstart n hn, fun a ha b hb => ?_⟩, fun ns hns hmem => ?_⟩
  · obtain ⟨m, hm⟩ := exists_up (h.child n hn hne)
    exact ⟨m, fun k => ⟨fun hk => h.up_unique hk hm, fun hk => hk ▸ hm⟩, hm⟩
  · simp only [mem_stateAbove h.closed] at ha hb ⊢
    exact ReflTransGen.total_of_right_unique h.up_unique hb ha
  · have hcommon : p.Common ns r := fun n hn => hstart n (hmem n hn)
    obtain ⟨m, hm⟩ := (sharedAncestor_ok_iff h.closed hns).mpr ⟨r, hcommon⟩
    exact ⟨hcommon, m, hm, common_of_sharedAncestor h.closed hm⟩

/-- The count of the runs goes back to the observation. It has a node above it in common with the sum of the
exposure times, which begins at the runs. -/
theorem above_chain_runs : (grow {} (runCalls 1)).graph.Rooted 0 ∧
    ∃ m, (grow {} (runCalls 1)).sharedAncestor [3, 6] = .ok m ∧ (grow {} (runCalls 1)).Common [3, 6] m := by
  have hb : Built (grow {} (runCalls 1)) := Built.empty.grow (by decide +kernel)
  have hchild : ∀ n ∈ (grow {} (runCalls 1)).graph.nodes, n ≠ 0 →
      ∃ e ∈ (grow {} (runCalls 1)).graph.steps.arcs, e.dst = n := by decide +kernel
  have hrooted : (grow {} (runCalls 1)).graph.Rooted 0 := by
    refine ⟨hb.sound.upward, fun n hn hne => ?_⟩
    obtain ⟨e, he, rfl⟩ := hchild n hn hne
    exact ⟨e.src, arrow_steps.mp ⟨e, he, rfl, rfl⟩⟩
  exact ⟨hrooted, ((above_chain hrooted).2.2.2 [3, 6] (by simp) (by decide +kernel)).2⟩

end Plan

end SurveyGraph
