import SurveyGraph.Proofs.PlanMethods
/-!
# What an aggregation keeps

Two facts hold of the graph of every plan (`Anchored`). The first arc into a node carries the statement that made it. An
aggregation has an arc to the node that its statement says, unless that node came to depend on it later.

The line of an aggregation keeps the variables of the nodes above the node that it goes back to, and of what has been
aggregated to any of these. Here `keptNodes` is described by the relations of the graph (`Stands`), for a node above which
nothing aggregates.
-/
open Relation List

namespace SurveyGraph

/-! ## What leads to a node and back from it -/

namespace Digraph

variable {σ : Type} {g : Digraph σ}

lemma inArcs_addArc {x e : Arc σ} {n : Nat} (hs : x.src ∈ g.nodes) (hd : x.dst ∈ g.nodes) (hl : x.label = none)
    (h : (g.inArcs n).head? = some e) : ∃ d, ((g.addArc x).inArcs n).head? = some d ∧ d.label = e.label := by
  by_cases ha : g.Arrow x.src x.dst
  · have hmap : (g.addArc x).inArcs n =
        (g.inArcs n).map (fun d => if d.src == x.src && d.dst == x.dst then overlay d x else d) := by
      rw [inArcs, addArc_old hs hd ha, filter_map]
      congr 1
      refine filter_congr fun d _ => ?_
      simp only [Function.comp]
      split <;> rfl
    rw [hmap, head?_map, h]
    refine ⟨_, rfl, ?_⟩
    dsimp only
    split
    · simp [overlay, hl]
    · rfl
  · refine ⟨e, ?_, rfl⟩
    rw [inArcs, addArc_new hs hd ha, filter_append, head?_append, ← inArcs, h]
    rfl

lemma addArc_self {x : Arc σ} (hs : x.src ∈ g.nodes) (hd : x.dst ∈ g.nodes) :
    ∃ y ∈ (g.addArc x).arcs, y.src = x.src ∧ y.dst = x.dst ∧ y.type = x.type := by
  by_cases ha : g.Arrow x.src x.dst
  · obtain ⟨d, hdm, h1, h2⟩ := ha
    refine ⟨overlay d x, ?_, h1, h2, rfl⟩
    rw [addArc_old hs hd ⟨d, hdm, h1, h2⟩, mem_map]
    exact ⟨d, hdm, by simp [h1, h2]⟩
  · exact ⟨x, by simp [addArc_new hs hd ha], rfl, rfl, rfl⟩

end Digraph

namespace Plan

variable {p q : Plan} {needs : List Nat} {n : Nat} {l : Option Statement} {arc : Arc Statement} {back : Option Nat}
  {s : Statement}

/-- An arc leads from a node to the one its statement goes back to. -/
def Returns (g : Digraph Statement) (n : Nat) (label : Option Statement) : Prop :=
  ∃ d ∈ g.arcs, d.src = n ∧ (d.type = .wrt ∨ d.type = .dep) ∧ ∀ s, label = some s → s.target? = some d.dst

/-- The first arc into a node carries its statement, and every aggregation has its arc back. -/
structure Anchored (p : Plan) : Prop where
  first : ∀ n, 0 < n → n < p.nodes.length → ∃ e, (p.graph.inArcs n).head? = some e ∧ e.label.isSome
  returns : ∀ e ∈ p.graph.arcs, e.type = .aggregate → Returns p.graph e.dst e.label

lemma Returns.mono {g h : Digraph Statement} (hr : Returns g n l) (hsub : g.arcs ⊆ h.arcs) : Returns h n l := by
  obtain ⟨d, hd, hrest⟩ := hr
  exact ⟨d, hsub hd, hrest⟩

section AddArc

variable {g : Digraph Statement} {x : Arc Statement} (hs : x.src ∈ g.nodes) (hd : x.dst ∈ g.nodes)
  (hl : x.label = none) (ht : x.type = .dep ∨ x.type = .wrt)

include hs hd hl ht in
lemma Returns.addArc (hr : Returns g n l) : Returns (g.addArc x) n l := by
  obtain ⟨d, hdm, hsrc, htype, htarget⟩ := hr
  obtain ⟨y, hy, h1, h2, _, h4⟩ := Digraph.addArc_keeps hs hd hl hdm
  refine ⟨y, hy, h1.trans hsrc, ?_, fun s h => h2 ▸ htarget s h⟩
  rcases h4 with h4 | h4
  · exact h4 ▸ htype
  · exact h4 ▸ ht.symm

include hs hd hl ht in
lemma aggregate_of_addArc {e : Arc Statement} (he : e ∈ (g.addArc x).arcs) (hagg : e.type = .aggregate) :
    ∃ d ∈ g.arcs, d.type = .aggregate ∧ e.dst = d.dst ∧ e.label = d.label := by
  have hne : x.type ≠ .aggregate := by
    rcases ht with ht | ht <;> simp [ht]
  rcases Digraph.mem_addArc hs hd hl he with ⟨d, hdm, _, h2, h3, h4 | ⟨h4, _⟩⟩ | rfl
  · exact ⟨d, hdm, h4 ▸ hagg, h2, h3⟩
  · exact absurd (h4.symm.trans hagg) hne
  · exact absurd hagg hne

end AddArc

section Anchored

variable (h : p.Anchored) (hs : p.Sound)

include h hs

lemma Anchored.withDependency {d : Nat} (hn : n < p.nodes.length) (hd : d < p.nodes.length) :
    (p.withDependency n d).Anchored where
  first := by
    intro m hm hlt
    obtain ⟨e, he, hlabel⟩ := h.first m hm hlt
    obtain ⟨e', he', heq⟩ := Digraph.inArcs_addArc (x := { src := d, dst := n, type := .dep }) (hs.mem_nodes.mpr hd)
      (hs.mem_nodes.mpr hn) rfl he
    exact ⟨e', he', heq ▸ hlabel⟩
  returns := by
    intro e he hagg
    have hs' := hs.mem_nodes.mpr hd
    have hd' := hs.mem_nodes.mpr hn
    obtain ⟨e', he', hagg', h1, h2⟩ := aggregate_of_addArc hs' hd' rfl (.inl rfl) he hagg
    rw [h1, h2]
    exact (h.returns e' he' hagg').addArc hs' hd' rfl (.inl rfl)

lemma Anchored.withDependencies (hn : n < p.nodes.length) (hneeds : ∀ d ∈ needs, d < p.nodes.length) :
    (needs.foldl (Plan.withDependency n) p).Anchored := by
  induction needs generalizing p with
  | nil => exact h
  | cons d needs ih =>
    have hd := hneeds d (by simp)
    refine ih (h.withDependency hs hn hd) (hs.withArc rfl hd hn rfl (.inl rfl)) hn fun x hx => ?_
    exact hneeds x (mem_cons_of_mem d hx)

/-- A statement was looked up or added: all is as it was but for its own node, which still needs its arc
back. -/
lemma Anchored.withStatement (hf : p.Fits arc s needs back) (heq : p.withStatement arc s = (n, q)) :
    (∀ m, 0 < m → m < q.nodes.length → ∃ e, (q.graph.inArcs m).head? = some e ∧ e.label.isSome) ∧
    ∀ e ∈ q.graph.arcs, e.type = .aggregate → Returns q.graph e.dst e.label ∨ e.dst = n ∧ back.isSome := by
  rcases withStatement_cases p arc s with ⟨e, he, hsrc, s', hs', ha, heq'⟩ | heq'
  · cases heq.symm.trans heq'
    exact ⟨h.first, fun e he hagg => .inl (h.returns e he hagg)⟩
  · cases heq.symm.trans heq'
    obtain ⟨_, harcs⟩ := hs.withNew_graph s hf.parent
    have hlen : (p.withNew arc s).nodes.length = p.nodes.length + 1 := by simp [Plan.withNew]
    have hold : p.graph.inArcs p.nodes.length = [] := by
      rw [Digraph.inArcs, filter_eq_nil_iff]
      intro e he
      have := (hs.arc_lt he).2
      simp
      omega
    refine ⟨fun m hm hlt => ?_, fun e he hagg => ?_⟩
    · rw [Digraph.inArcs, harcs, filter_append, head?_append, ← Digraph.inArcs]
      by_cases hmn : m < p.nodes.length
      · obtain ⟨e, he, hlabel⟩ := h.first m hm hmn
        exact ⟨e, by rw [he]; rfl, hlabel⟩
      · obtain rfl : m = p.nodes.length := by omega
        exact ⟨{ arc with dst := p.nodes.length, label := some s }, by simp [hold], rfl⟩
    · rw [harcs, mem_append, mem_singleton] at he
      rcases he with he | rfl
      · exact .inl ((h.returns e he hagg).mono (by simp [harcs]))
      · exact .inr ⟨rfl, hf.aggregate hagg⟩

lemma Anchored.withNode (hf : p.Fits arc s needs back) : (p.withNode arc s needs back).2.Anchored := by
  unfold Plan.withNode
  cases hst : p.withStatement arc s with
  | mk n p₁ =>
    obtain ⟨hs₁, hlen, e₀, he₀, _, rfl, s', hs', ha⟩ := hs.withStatement hf hst
    obtain ⟨hfirst, hreturns⟩ := h.withStatement hs hf hst
    have hn : e₀.dst < p₁.nodes.length := (hs₁.arc_lt he₀).2
    have hneeds : ∀ d ∈ needs, d < p₁.nodes.length := fun d hd => (hf.needs d hd).trans_le hlen
    cases back with
    | none =>
      have h₁ : p₁.Anchored := ⟨hfirst, fun e he hagg => (hreturns e he hagg).resolve_right (by simp)⟩
      exact h₁.withDependencies hs₁ hn hneeds
    | some t =>
      have ht := hf.back t rfl
      have htlt : t < p₁.nodes.length := (hf.target t ht).trans_le hlen
      have htarget : s'.target? = some t := (Statement.target?_alike ha).trans ht
      have hsrc := hs₁.mem_nodes.mpr hn
      have hdst := hs₁.mem_nodes.mpr htlt
      have h₂ : (p₁.withBack e₀.dst t).Anchored := by
        refine ⟨fun m hm hlt => ?_, fun e he hagg => ?_⟩
        · obtain ⟨e, he, hlabel⟩ := hfirst m hm hlt
          obtain ⟨e', he', heq⟩ := Digraph.inArcs_addArc (x := { src := e₀.dst, dst := t, type := .wrt }) hsrc hdst rfl he
          exact ⟨e', he', heq ▸ hlabel⟩
        · obtain ⟨e', he', hagg', h1, h2⟩ := aggregate_of_addArc hsrc hdst rfl (.inr rfl) he hagg
          rw [h1, h2]
          rcases hreturns e' he' hagg' with hr | ⟨hend, _⟩
          · exact hr.addArc hsrc hdst rfl (.inr rfl)
          · -- the arc that was just added is the one back from this node
            obtain ⟨y, hy, hy1, hy2, hy3⟩ := Digraph.addArc_self (x := { src := e₀.dst, dst := t, type := .wrt }) hsrc hdst
            have hlabel := (hs₁.unique e' he' e₀ he₀ (hs₁.step e' he' (by simp [hagg']) (by simp [hagg']))
              (by simp [hs']) hend).2
            refine ⟨y, hy, hy1.trans hend.symm, .inl hy3, fun s'' hs'' => ?_⟩
            rw [hlabel, hs'] at hs''
            rw [← Option.some.inj hs'', htarget, hy2]
      exact h₂.withDependencies (hs₁.withBack htlt ⟨e₀, he₀, rfl, s', hs', htarget⟩) hn hneeds

end Anchored

lemma Grows.anchored (hg : p.Grows q) (hs : p.Sound) (h : p.Anchored) : q.Anchored := by
  cases hg with
  | idle hgraph hslots =>
    have hlen : q.nodes.length = p.nodes.length := by simpa using congrArg List.length hslots
    refine ⟨?_, ?_⟩ <;> simp only [hgraph, hlen]
    exacts [h.first, h.returns]
  | node hf => exact h.withNode hs hf

lemma Built.anchored (h : Built p) : p.Anchored := by
  have hsteps : ∀ {p q : Plan}, ReflTransGen Grows p q → p.Sound → p.Anchored → q.Anchored := by
    intro p q hpq hs ha
    induction hpq with
    | refl => exact ha
    | tail hpm hg ih => exact hg.anchored (sound_of_grows hs hpm).1 ih
  induction h with
  | empty => exact ⟨fun n h1 h2 => by simp at h2; omega, by simp⟩
  | call c hb hn ih => exact hsteps (Grown.call hn hb.sound).1 hb.sound ih

variable {w a k : Nat}

/-! ## The statement of a node -/

/-- A node was made by a statement, along an arc that is a step. -/
structure MadeBy (p : Plan) (n : Nat) (e : Arc Statement) (s : Statement) : Prop where
  mem : e ∈ p.graph.arcs
  dst : e.dst = n
  wrt : e.type ≠ .wrt
  dep : e.type ≠ .dep
  label : e.label = some s

lemma Sound.madeBy (hs : p.Sound) (h : p.graph.Step a n) : ∃ e s, p.MadeBy n e s ∧ e.src = a := by
  obtain ⟨e, he, hw, hd, rfl, rfl⟩ := h
  obtain ⟨s, hl⟩ := Option.isSome_iff_exists.mp (hs.step e he hw hd)
  exact ⟨e, s, ⟨he, rfl, hw, hd, hl⟩, rfl⟩

namespace MadeBy

variable {n : Nat} {e : Arc Statement} {s : Statement}

lemma step (h : p.MadeBy n e s) : p.graph.Step e.src n := ⟨e, h.mem, h.wrt, h.dep, rfl, h.dst⟩

variable (h : p.MadeBy n e s) (hs : p.Sound)

include h hs

lemma allows : s.allows e.type = true :=
  (hs.kind e h.mem s h.label).resolve_left h.dep

lemma slots : p.slots n = s.outputs := h.dst ▸ (hs.label e h.mem s h.label).2.1

lemma eq_of_label {d : Arc Statement} (hd : d ∈ p.graph.arcs) (hdst : d.dst = n) (hl : d.label.isSome) : d = e := by
  have hsrc := (hs.unique d hd e h.mem hl (by simp [h.label]) (hdst.trans h.dst.symm)).1
  exact hs.simple.eq hd h.mem hsrc (hdst.trans h.dst.symm)

lemma unique {e' : Arc Statement} {s' : Statement} (h' : p.MadeBy n e' s') : e' = e ∧ s' = s := by
  obtain rfl := h.eq_of_label hs h'.mem h'.dst (by simp [h'.label])
  exact ⟨rfl, Option.some.inj (h'.label.symm.trans h.label)⟩

lemma isReachedBy_iff {types : List ArcType} (hw : .wrt ∉ types) (hd : .dep ∉ types) :
    p.isReachedBy n types = true ↔ e.type ∈ types := by
  simp only [isReachedBy, Digraph.inArcs, any_eq_true, mem_filter, beq_iff_eq, contains_iff_mem]
  constructor
  · rintro ⟨d, ⟨hdm, hdst⟩, ht⟩
    have hl : d.label.isSome := hs.step d hdm (fun h => hw (h ▸ ht)) (fun h => hd (h ▸ ht))
    exact h.eq_of_label hs hdm hdst hl ▸ ht
  · exact fun ht => ⟨e, ⟨h.mem, h.dst⟩, ht⟩

lemma isFolded_iff : p.isFolded n = true ↔ e.type = .aggregate ∧ s.isNull = true := by
  rw [isFolded, Bool.and_eq_true, h.isReachedBy_iff hs (by simp) (by simp), mem_singleton]
  refine and_congr_right fun _ => ?_
  simp only [Digraph.inArcs, any_eq_true, mem_filter, beq_iff_eq]
  constructor
  · rintro ⟨d, ⟨hdm, hdst⟩, hnull⟩
    obtain ⟨s', hs', hnull⟩ := Option.any_eq_true _ _ |>.mp hnull
    obtain rfl := h.eq_of_label hs hdm hdst (by simp [hs'])
    rw [h.label, Option.some.injEq] at hs'
    exact hs' ▸ hnull
  · exact fun hnull => ⟨e, ⟨h.mem, h.dst⟩, by simp [h.label, hnull]⟩

end MadeBy

lemma Sound.madeBy_of_back (hs : p.Sound) (hup : p.GoesUp) {t : Nat} (h : p.graph.Back a t) :
    ∃ e s, p.MadeBy a e s ∧ s.target? = some t := by
  obtain ⟨c, _, hstep⟩ := TransGen.tail'_iff.mp (hup a t h)
  obtain ⟨e, s, hmade, _⟩ := hs.madeBy hstep
  obtain ⟨d, hd, hw, rfl, rfl⟩ := h
  obtain ⟨e', he', hdst, s', hl', ht⟩ := hs.back d hd hw
  obtain rfl := hmade.eq_of_label hs he' hdst (by simp [hl'])
  rw [hmade.label, Option.some.injEq] at hl'
  exact ⟨e', s, hmade, hl' ▸ ht⟩

/-! ## The nodes above a node -/

lemma Sound.mem_stateAbove (hs : p.Sound) (hfree : ∀ x t, ReflTransGen p.graph.Step x w → ¬ p.graph.Back x t) :
    k ∈ p.graph.stateAbove w ↔ ReflTransGen p.graph.Step k w := by
  have hup : ∀ {x y : Nat}, ReflTransGen p.graph.Step x w → (p.graph.Up x y ↔ p.graph.Step y x) := by
    intro x y hx
    constructor
    · rintro (hback | ⟨_, hstep⟩)
      · exact absurd hback (hfree x y hx)
      · exact hstep
    · exact fun hstep => .inr ⟨fun t => hfree x t hx, hstep⟩
  rw [Digraph.mem_stateAbove hs.closed]
  constructor
  · intro h
    induction h with
    | refl => exact .refl
    | tail _ hxy ih => exact ih.head ((hup ih).mp hxy)
  · intro h
    induction h using ReflTransGen.head_induction_on with
    | refl => exact .refl
    | head hxy hyw ih => exact ih.tail ((hup hyw).mpr hxy)

/-! ## What stands at a node -/

/-- What is kept because of the aggregations to a node. -/
def Counted (p : Plan) (m k : Nat) : Prop := ∃ a, p.graph.Back a m ∧ ∃ ks, p.standIns a = .ok ks ∧ k ∈ ks

/-- What stands at a node: the node, those above, and what is counted to any of these. -/
def Stands (p : Plan) (w k : Nat) : Prop :=
  ReflTransGen p.graph.Step k w ∨ ∃ m, ReflTransGen p.graph.Step m w ∧ p.Counted m k

lemma Stands.below {v : Nat} (h : p.Stands w k) (hwv : ReflTransGen p.graph.Step w v) : p.Stands v k :=
  h.imp (·.trans hwv) fun ⟨m, hm, hk⟩ => ⟨m, hm.trans hwv, hk⟩

lemma MadeBy.standIns_eq {e : Arc Statement} {s : Statement} (hmade : p.MadeBy a e s) (hs : p.Sound)
    (ha : p.Anchored) : p.standIns a = .ok (if s.isNull then p.hosts (p.nodes.length + 1) a else [a]) := by
  have hlt := hs.arc_lt hmade.mem
  rw [hmade.dst] at hlt
  obtain ⟨d, hhead, hl⟩ := ha.first a (Nat.zero_lt_of_lt (hs.later hmade.step)) hlt.2
  have hmem := mem_filter.mp (mem_of_mem_head? hhead)
  obtain rfl := hmade.eq_of_label hs hmem.1 (by simpa using hmem.2) hl
  have hfind : (p.graph.inArcs a).find? (·.type != .dep) = some d := by
    obtain ⟨rest, hrest⟩ : ∃ rest, p.graph.inArcs a = d :: rest := by
      cases hin : p.graph.inArcs a with
      | nil => simp [hin] at hhead
      | cons x rest => exact ⟨rest, by simpa [hin] using hhead⟩
    rw [hrest, find?_cons_of_pos (by simpa using hmade.dep)]
  simp [standIns, hfind, hmade.label]

lemma mem_aggregations {m : Nat} : a ∈ p.aggregations m ↔ p.graph.Back a m := by
  simp only [aggregations, Digraph.inArcs, mem_map, mem_filter, beq_iff_eq, Digraph.Back]
  constructor
  · rintro ⟨e, ⟨⟨he, hd⟩, hw⟩, hs⟩
    exact ⟨e, he, hw, hs, hd⟩
  · rintro ⟨e, he, hw, hs, hd⟩
    exact ⟨e, ⟨⟨he, hd⟩, hw⟩, hs⟩

lemma Sound.mem_stateWithAggregates (hs : p.Sound) (ha : p.Anchored) (hup : p.GoesUp) (w : Nat) :
    ∃ ks, p.stateWithAggregates w = .ok ks ∧
      ∀ k, k ∈ ks ↔ k ∈ p.graph.stateAbove w ∨ ∃ m ∈ p.graph.stateAbove w, p.Counted m k := by
  obtain ⟨added, hadded, hks⟩ := (mapM_cases p.standIns ((p.graph.stateAbove w).flatMap p.aggregations)).resolve_right
    (by
      rintro ⟨a, h, e, he, _⟩
      obtain ⟨m, _, hm⟩ := mem_flatMap.mp h
      obtain ⟨_, _, hmade, _⟩ := hs.madeBy_of_back hup (mem_aggregations.mp hm)
      rw [hmade.standIns_eq hs ha] at he
      cases he)
  refine ⟨(p.graph.stateAbove w ++ added.flatten).eraseDups, by simp only [stateWithAggregates, hadded]; rfl, fun k => ?_⟩
  simp only [mem_eraseDups, mem_append, mem_flatten, hks, mem_flatMap, mem_aggregations, Counted]
  refine or_congr_right ⟨?_, ?_⟩
  · rintro ⟨ks, ⟨a, ⟨m, hm, hback⟩, hok⟩, hk⟩
    exact ⟨m, hm, a, hback, ks, hok, hk⟩
  · rintro ⟨m, hm, a, hback, ks, hok, hk⟩
    exact ⟨ks, ⟨a, ⟨m, hm, hback⟩, hok⟩, hk⟩

/-- A node holds a variable that can be kept: it is no operation, and no aggregation that does nothing. -/
def Holds (p : Plan) (n : Nat) : Prop := p.isReachedBy n [.operation] = false ∧ p.isFolded n = false

/-- The nodes an aggregation keeps are above its target or counted there, hold a variable and have been
passed. -/
lemma Sound.mem_keptNodes (hs : p.Sound) (ha : p.Anchored) (hup : p.GoesUp) (w : Nat) (order : List Nat) :
    ∃ ks, p.keptNodes w order = .ok ks ∧ ∀ k, k ∈ ks ↔
      (k ∈ p.graph.stateAbove w ∨ ∃ m ∈ p.graph.stateAbove w, p.Counted m k) ∧ p.Holds k ∧ k ∈ order := by
  obtain ⟨above, habove, hmem⟩ := hs.mem_stateWithAggregates ha hup w
  refine ⟨_, by simp only [keptNodes, habove]; rfl, fun k => ?_⟩
  simp [hmem, Holds, and_assoc]

lemma Sound.keptNodes_ok (hs : p.Sound) (ha : p.Anchored) (hup : p.GoesUp)
    (hfree : ∀ x t, ReflTransGen p.graph.Step x w → ¬ p.graph.Back x t) (order : List Nat) :
    ∃ ks, p.keptNodes w order = .ok ks ∧ ∀ k, k ∈ ks ↔ p.Stands w k ∧ p.Holds k ∧ k ∈ order := by
  simpa only [hs.mem_stateAbove hfree, Stands] using hs.mem_keptNodes ha hup w order

lemma textAt_eq_some {t : String} : p.textAt n = .ok (some t) ↔ (p.slots n).head? = some (.text t) := by
  unfold textAt
  split <;> simp_all

/-- The variables kept are those of the kept nodes, but for the one being made, unless a node has a number for
its text. -/
lemma kept_ok {order ks : List Nat} (hks : p.keptNodes w order = .ok ks)
    (htext : ∀ k ∈ ks, ∀ n, (p.slots k).head? ≠ some (.node n)) (out : String) : ∃ names, p.kept w order out = .ok names ∧
      ∀ t, t ∈ names ↔ t ≠ out ∧ ∃ k ∈ ks, (p.slots k).head? = some (.text t) := by
  rcases mapM_cases p.textAt ks with ⟨texts, htexts, hmem⟩ | ⟨k, hk, e, he, _⟩
  · refine ⟨_, by simp only [kept, hks, htexts, bind, Except.bind]; rfl, fun t => ?_⟩
    simp only [mem_mergeSort, mem_eraseDups, mem_filter, mem_filterMap, id, exists_eq_right, hmem,
      textAt_eq_some, bne_iff_ne]
    exact and_comm
  · have hno := htext k hk
    unfold textAt at he
    split at he <;> simp_all

end Plan

end SurveyGraph
