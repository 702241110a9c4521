import SurveyGraph.Proofs.ScopeKept
/-!
# Checking a walk

Whether the statements along a walk are orderly, and whether nothing that is used has been dropped, can be computed for
a plan and an order.
-/
open Relation List

namespace SurveyGraph.Plan
open SurveyGraph.Digraph

variable {p : Plan} {order : List Nat} {k m w : Nat}

/-! ## Relations between nodes -/

/-- Whether steps lead from one node to another, or they are the same. -/
def isAbove (p : Plan) (x y : Nat) : Bool := (p.graph.steps.reaching y).contains x

/-- The nodes that the statement of an arc goes on from or needs. -/
def givers (p : Plan) (e : Arc Statement) : List Nat := e.src :: p.graph.dependencies.predecessors e.dst

/-- What is kept because of the aggregations to a node. -/
def counted (p : Plan) (m : Nat) : List Nat :=
  (p.aggregations m).flatMap fun a =>
    match p.standIns a with
    | .ok ks => ks
    | .error _ => []

def isHolding (p : Plan) (n : Nat) : Bool := !p.isReachedBy n [.operation] && !p.isFolded n

def isStanding (p : Plan) (w k : Nat) : Bool :=
  p.isAbove k w || p.graph.nodes.any (fun m => p.isAbove m w && (p.counted m).contains k)

lemma Sound.isAbove_iff (hs : p.Sound) {x y : Nat} : p.isAbove x y = true ↔ ReflTransGen p.graph.Step x y := by
  have hrel : p.graph.steps.Arrow = p.graph.Step := by
    funext a b
    simp
  rw [isAbove, contains_iff_mem, mem_reaching, hrel]
  exact (hs.closed.filterArcs _).filterArcs _

lemma gives_iff {e : Arc Statement} {t : String} : p.Gives e t k ↔ k ∈ p.givers e ∧ (p.slots k).head? = some (.text t) := by
  simp [Gives, givers, mem_predecessors]

lemma mem_counted : k ∈ p.counted m ↔ p.Counted m k := by
  simp only [counted, mem_flatMap, aggregations, inArcs, mem_map, mem_filter, beq_iff_eq, Counted,
    Digraph.Back]
  constructor
  · rintro ⟨a, ⟨e, ⟨⟨he, hd⟩, hw⟩, hs⟩, hk⟩
    split at hk
    · rename_i ks hks
      exact ⟨a, ⟨e, he, hw, hs, hd⟩, ks, hks, hk⟩
    · simp at hk
  · rintro ⟨a, ⟨e, he, hw, hs, hd⟩, ks, hks, hk⟩
    exact ⟨a, ⟨e, ⟨⟨he, hd⟩, hw⟩, hs⟩, by simpa [hks] using hk⟩

lemma isHolding_iff {n : Nat} : p.isHolding n = true ↔ p.Holds n := by
  simp [isHolding, Holds]

lemma Sound.counted_mem_nodes (hs : p.Sound) (h : p.Counted m k) : m ∈ p.graph.nodes := by
  obtain ⟨_, hback, _⟩ := h
  exact (hs.closed.arrow hback.arrow).2

lemma Sound.isStanding_iff (hs : p.Sound) : p.isStanding w k = true ↔ p.Stands w k := by
  simp only [isStanding, Bool.or_eq_true, any_eq_true, Bool.and_eq_true, contains_iff_mem, mem_counted,
    hs.isAbove_iff, Stands]
  refine or_congr_right ⟨?_, ?_⟩
  · rintro ⟨m, _, h⟩
    exact ⟨m, h⟩
  · rintro ⟨m, hm, hk⟩
    exact ⟨m, hs.counted_mem_nodes hk, hm, hk⟩

/-! ## Orderly statements -/

/-- Whether a statement takes its texts from nodes, passes on only variables unless it computes or aggregates,
and brings its variable about. -/
def isOrderlyAt (p : Plan) (e : Arc Statement) (s : Statement) : Bool :=
  s.inputs.all (fun
    | .text t => (p.givers e).any (fun k => (p.slots k).head? == some (.text t)) || (p.parameters.map (·.1)).contains t
    | .node _ => true)
  && (e.type == .operation || e.type == .aggregate || s.passesOn.all fun
    | .text t => (p.givers e).all (fun k => (p.slots k).head? != some (.text t) || p.isHolding k)
    | .node _ => false)
  && s.bound?.all (fun v => s.brings.contains v && e.type != .operation)

/-- Whether what stands for an aggregation that does nothing is kept wherever that stands for another. -/
def isNestedAt (p : Plan) (h : Nat) : Bool :=
  !p.isFolded h || p.graph.nodes.all fun t => !(p.counted t).contains h
    || (p.graph.backward.successors h).any (p.isAbove · t)
    || match p.standIns h with
      | .ok ks => ks.all (p.isStanding t)
      | .error _ => true

/-- Whether what a node depends on lies above it, or was aggregated to a node above. -/
def isSuppliedAt (p : Plan) (b : Nat) : Bool :=
  (p.graph.steps.predecessors b).all fun a => (p.graph.dependencies.predecessors b).all fun d =>
    p.isAbove d a || (p.graph.backward.successors d).any (p.isAbove · a)

/-- Whether the statements of an order are orderly. -/
def isOrderly (p : Plan) (order : List Nat) : Bool :=
  (p.graph.arcs.filter (order.contains ·.dst)).all (fun e => e.label.all (p.isOrderlyAt e)
    && (e.type != .aggregate || !(p.graph.backward.successors e.dst).isEmpty))
  && order.all p.isNestedAt && order.all p.isSuppliedAt

lemma Sound.orderly_of_isOrderly (hs : p.Sound) (h : p.isOrderly order = true) : p.Orderly order := by
  simp only [isOrderly, Bool.and_eq_true, all_eq_true, mem_filter, contains_iff_mem, and_imp] at h
  obtain ⟨⟨harcs, hnested⟩, hsupplied⟩ := h
  have hat : ∀ e ∈ p.graph.arcs, e.dst ∈ order → ∀ s, e.label = some s → p.isOrderlyAt e s = true := by
    intro e he hmem s hl
    simpa [hl] using (harcs e he hmem).1
  refine ⟨?_, ?_, ?_, ?_, ?_, ?_⟩
  · intro e he hmem s hl t ht
    have hs := hat e he hmem s hl
    simp only [isOrderlyAt, Bool.and_eq_true, all_eq_true] at hs
    have hgiven := hs.1.1 _ ht
    simp only [Bool.or_eq_true, any_eq_true, beq_iff_eq, contains_iff_mem] at hgiven
    exact hgiven.imp (fun ⟨k, hk, hhead⟩ => ⟨k, gives_iff.mpr ⟨hk, hhead⟩⟩) id
  · intro e he hmem s hl hop hagg x hx
    have hs := hat e he hmem s hl
    simp only [isOrderlyAt, Bool.and_eq_true, Bool.or_eq_true, beq_iff_eq, hop, hagg, false_or, all_eq_true] at hs
    have hcarried := hs.1.2 x hx
    cases x with
    | node n => simp at hcarried
    | text t =>
      refine ⟨t, rfl, fun k hk => ?_⟩
      obtain ⟨hmem, hhead⟩ := gives_iff.mp hk
      have := all_eq_true.mp hcarried k hmem
      simpa [hhead, isHolding_iff] using this
  · intro e he hmem s hl v hv
    have hs := hat e he hmem s hl
    simp only [isOrderlyAt, Bool.and_eq_true] at hs
    simpa [hv] using hs.2
  · intro a b d hab hb hd
    have hat := hsupplied b hb
    simp only [isSuppliedAt, all_eq_true, mem_predecessors, arrow_steps, arrow_dependencies, Bool.or_eq_true, any_eq_true,
      mem_successors, arrow_backward, hs.isAbove_iff] at hat
    exact hat a hab d hd
  · intro e he hmem hagg
    have hsome := (harcs e he hmem).2
    simp only [hagg, bne_self_eq_false, Bool.false_or, Bool.not_eq_true', isEmpty_eq_false_iff] at hsome
    obtain ⟨t, ht⟩ := exists_mem_of_ne_nil _ hsome
    exact ⟨t, by simpa [mem_successors] using ht⟩
  · intro t n hn hc hf
    have ht := hs.counted_mem_nodes hc
    have hat := hnested n hn
    simp only [isNestedAt, hf, Bool.not_true, Bool.false_or, all_eq_true] at hat
    have hcases := hat t ht
    simp only [contains_iff_mem.mpr (mem_counted.mpr hc), Bool.not_true, Bool.false_or, Bool.or_eq_true,
      any_eq_true, hs.isAbove_iff, mem_successors, arrow_backward] at hcases
    refine hcases.imp id fun hall ks hks k hk => ?_
    rw [hks] at hall
    exact hs.isStanding_iff.mp (all_eq_true.mp hall k hk)

/-! ## Fresh walks -/

/-- Where the statement from one node to another aggregates to. -/
def aggregateTarget? (p : Plan) (a b : Nat) : Option Nat :=
  match (p.graph.arc? a b).bind (·.label) with
  | some (.aggregate _ w _ _ _) => some w
  | _ => none

/-- Whether no aggregation went back past `m` since an order came to `k`. -/
def isLasting (p : Plan) (order : List Nat) (m k : Nat) : Bool :=
  order.tails.any fun l => l.head? == some k
    && (pairs l).all (fun (a, b) => (p.aggregateTarget? a b).all (p.isAbove m ·))

/-- Whether a node can be relied on at `c` after an order. -/
def isAvailable (p : Plan) (order : List Nat) (c k : Nat) : Bool :=
  p.isAbove k c || p.graph.nodes.any fun m => p.isAbove m c
    && ((p.graph.backward.successors k).contains m || (p.counted m).contains k && p.isHolding k)
    && p.isLasting order m k

/-- Whether what the step from `a` to `b` uses is available at the end of an order. -/
def isFreshStep (p : Plan) (order : List Nat) (a b : Nat) : Bool :=
  (!(p.graph.steps.successors a).contains b || (p.graph.dependencies.predecessors b).all (p.isAvailable order a))
  && match (p.graph.arc? a b).bind (·.label) with
    | some (.aggregate _ w _ _ out) =>
      match p.keptNodes w order with
      | .ok ks => ks.all fun k => (p.slots k).head? == some (.text out) || p.isAvailable order w k
      | .error _ => true
    | _ => true

/-- Whether nothing used has been dropped along the rest of an order. -/
def isFreshFrom (p : Plan) : List Nat → List Nat → Bool
  | done, a :: b :: rest => p.isFreshStep (done ++ [a]) a b && p.isFreshFrom (done ++ [a]) (b :: rest)
  | _, _ => true

lemma Sound.aggregateTarget?_eq (hs : p.Sound) {a b : Nat} (h : p.AggregatesTo a b w) : p.aggregateTarget? a b = some w := by
  obtain ⟨e, he, rfl, rfl, i, t, n, o, hl⟩ := h
  simp [aggregateTarget?, hs.simple.arc? he, hl]

lemma Sound.lasts_of_isLasting (hs : p.Sound) (h : p.isLasting order m k = true) : p.Lasts order m k := by
  simp only [isLasting, any_eq_true, mem_tails, Bool.and_eq_true, beq_iff_eq, all_eq_true] at h
  obtain ⟨l, ⟨pre, rfl⟩, hhead, hall⟩ := h
  obtain ⟨post, rfl⟩ : ∃ post, l = k :: post := by cases l <;> simp_all
  refine ⟨pre, post, rfl, fun a b w hab hagg => ?_⟩
  have := hall (a, b) hab
  rw [hs.aggregateTarget?_eq hagg, Option.all_some, hs.isAbove_iff] at this
  exact this

lemma Sound.available_of_isAvailable (hs : p.Sound) {c : Nat} (h : p.isAvailable order c k = true) :
    p.Available order c k := by
  simp only [isAvailable, Bool.or_eq_true, any_eq_true, Bool.and_eq_true, hs.isAbove_iff, contains_iff_mem,
    mem_successors, arrow_backward, mem_counted, isHolding_iff] at h
  refine h.imp id ?_
  rintro ⟨m, _, ⟨hm, hc⟩, hl⟩
  exact ⟨m, hm, hc, hs.lasts_of_isLasting hl⟩

lemma isFreshFrom_split {done rest pre post : List Nat} {a b : Nat} (h : p.isFreshFrom done rest = true)
    (heq : rest = pre ++ a :: b :: post) : p.isFreshStep (done ++ pre ++ [a]) a b = true := by
  induction pre generalizing done rest with
  | nil =>
    subst heq
    simp only [nil_append, isFreshFrom, Bool.and_eq_true] at h
    simpa using h.1
  | cons x pre ih =>
    obtain ⟨y, rest', hrest⟩ : ∃ y rest', pre ++ a :: b :: post = y :: rest' := by cases pre <;> simp
    subst heq
    rw [cons_append, hrest] at h
    simp only [isFreshFrom, Bool.and_eq_true] at h
    simpa using ih h.2 hrest.symm

lemma Sound.fresh_of_isFreshFrom (hs : p.Sound) (h : p.isFreshFrom [] order = true) : p.Fresh order := by
  constructor
  · intro pre a b post heq hstep d hneeds
    have hfresh := isFreshFrom_split h heq
    have hmem : (p.graph.steps.successors a).contains b = true := by
      simpa [mem_successors] using hstep
    simp only [isFreshStep, hmem, Bool.not_true, Bool.false_or, Bool.and_eq_true, all_eq_true] at hfresh
    exact hs.available_of_isAvailable (hfresh.1 d (by simpa [mem_predecessors] using hneeds))
  · intro pre a b post heq e he hsrc hdst input w template name out hl ks hks k hk hhead
    have hfresh := isFreshFrom_split h heq
    subst hsrc hdst
    rw [nil_append] at hfresh
    simp only [isFreshStep, hs.simple.arc? he, Option.bind_some, hl, hks, Bool.and_eq_true, all_eq_true] at hfresh
    have hkept := hfresh.2 k hk
    rw [Bool.or_eq_true, beq_iff_eq] at hkept
    exact hs.available_of_isAvailable (hkept.resolve_left hhead)

end SurveyGraph.Plan
