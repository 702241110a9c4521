import Mathlib.Order.Nat
import SurveyGraph.Proofs.WalkHalts
import SurveyGraph.Read.Plan
/-!
# The graph of a plan

A plan grows by statements (`Grows`): one leads from a node to a new one, or is used again if it is there, and its node may
come to need more nodes. So the graph of every plan is `Sound`: a node was reached by one statement, from an earlier node,
and goes back only to the node that this statement says.
-/
open Relation (ReflTransGen TransGen)
open List

namespace SurveyGraph
open SurveyGraph.Digraph

variable {n r b a : Nat} {s : Statement}

/-! ## Adding arcs -/

namespace Digraph

variable {σ : Type} {g : Digraph σ}

lemma addNode_of_mem (h : n ∈ g.nodes) : g.addNode n = g := by
  simp [addNode, h]

lemma addNode_of_not_mem (h : n ∉ g.nodes) : g.addNode n = { g with nodes := g.nodes ++ [n] } := by
  simp [addNode, h]

lemma arc?_isSome : (g.arc? a b).isSome = true ↔ g.Arrow a b := by
  simp [arc?, Arrow]

section AddArc

variable {e : Arc σ} (hs : e.src ∈ g.nodes) (hd : e.dst ∈ g.nodes)

include hs hd

lemma addArc_nodes : (g.addArc e).nodes = g.nodes := by
  simp only [addArc, addNode_of_mem hs, addNode_of_mem hd]
  split <;> rfl

lemma addArc_new (h : ¬ g.Arrow e.src e.dst) : (g.addArc e).arcs = g.arcs ++ [e] := by
  simp only [addArc, addNode_of_mem hs, addNode_of_mem hd]
  rw [if_neg (mt arc?_isSome.mp h)]

lemma addArc_old (h : g.Arrow e.src e.dst) :
    (g.addArc e).arcs = g.arcs.map (fun d => if d.src == e.src && d.dst == e.dst then overlay d e else d) := by
  simp only [addArc, addNode_of_mem hs, addNode_of_mem hd]
  rw [if_pos (arc?_isSome.mpr h)]

/-- An arc after one without a label was added: one that was there, maybe with another type, or the added
one. -/
lemma mem_addArc {x : Arc σ} (hl : e.label = none) (hx : x ∈ (g.addArc e).arcs) :
    (∃ d ∈ g.arcs, x.src = d.src ∧ x.dst = d.dst ∧ x.label = d.label ∧
      (x.type = d.type ∨ x.type = e.type ∧ x.src = e.src ∧ x.dst = e.dst)) ∨ x = e := by
  by_cases h : g.Arrow e.src e.dst
  · rw [addArc_old hs hd h, mem_map] at hx
    obtain ⟨d, hd, rfl⟩ := hx
    refine .inl ⟨d, hd, ?_⟩
    split
    · rename_i hsame
      simp only [Bool.and_eq_true, beq_iff_eq] at hsame
      exact ⟨rfl, rfl, by simp [overlay, hl], .inr ⟨rfl, hsame⟩⟩
    · exact ⟨rfl, rfl, rfl, .inl rfl⟩
  · rw [addArc_new hs hd h, mem_append, mem_singleton] at hx
    exact hx.imp (fun hx => ⟨x, hx, rfl, rfl, rfl, .inl rfl⟩) id

lemma labelled_addArc {x : Arc σ} {l : σ} (hl : e.label = none) (hx : x ∈ (g.addArc e).arcs) (hxl : x.label = some l) :
    ∃ d ∈ g.arcs, x.src = d.src ∧ x.dst = d.dst ∧ d.label = some l ∧
      (x.type = d.type ∨ x.type = e.type ∧ x.src = e.src ∧ x.dst = e.dst) := by
  rcases mem_addArc hs hd hl hx with ⟨d, hdm, h1, h2, h3, h4⟩ | rfl
  · exact ⟨d, hdm, h1, h2, h3 ▸ hxl, h4⟩
  · rw [hl] at hxl
    cases hxl

/-- An arc stays, with its label, and keeps its type or takes that of the added arc. -/
lemma addArc_keeps {d : Arc σ} (hl : e.label = none) (h : d ∈ g.arcs) :
    ∃ x ∈ (g.addArc e).arcs, x.src = d.src ∧ x.dst = d.dst ∧ x.label = d.label ∧
      (x.type = d.type ∨ x.type = e.type) := by
  by_cases ha : g.Arrow e.src e.dst
  · refine ⟨_, (addArc_old hs hd ha) ▸ mem_map_of_mem h, ?_⟩
    split
    · exact ⟨rfl, rfl, by simp [overlay, hl], .inr rfl⟩
    · exact ⟨rfl, rfl, rfl, .inl rfl⟩
  · exact ⟨d, (addArc_new hs hd ha) ▸ mem_append_left _ h, rfl, rfl, rfl, .inl rfl⟩

lemma Simple.addArc (h : g.Simple) : (g.addArc e).Simple := by
  unfold Simple
  by_cases ha : g.Arrow e.src e.dst
  · rw [addArc_old hs hd ha, map_map]
    have hends : ((fun e => (e.src, e.dst)) ∘ fun d => if d.src == e.src && d.dst == e.dst then overlay d e else d) =
        fun d : Arc σ => (d.src, d.dst) := by
      funext d
      simp only [Function.comp]
      split <;> rfl
    rw [hends]
    exact h
  · rw [addArc_new hs hd ha, map_append, nodup_append]
    refine ⟨h, by simp, ?_⟩
    intro x hx y hy hxy
    obtain ⟨d, hdm, rfl⟩ := mem_map.mp hx
    obtain rfl : y = (e.src, e.dst) := by simpa using hy
    exact ha ⟨d, hdm, congrArg Prod.fst hxy, congrArg Prod.snd hxy⟩

lemma Closed.addArc (h : g.Closed) (hl : e.label = none) : (g.addArc e).Closed := by
  intro x hx
  rw [addArc_nodes hs hd]
  rcases mem_addArc hs hd hl hx with ⟨d, hdm, h1, h2, _⟩ | rfl
  · rw [h1, h2]
    exact h d hdm
  · exact ⟨hs, hd⟩

end AddArc

end Digraph

/-! ## Sound plans -/

deriving instance ReflBEq, LawfulBEq for Slot

/-- The node to which a statement goes back. -/
def Statement.target? : Statement → Option Nat
  | .aggregate _ wrt _ _ _ => some wrt
  | .null slots =>
    match slots.getLast? with
    | some (.node t) => some t
    | _ => none
  | _ => none

/-- The text of an operation is its template, filled with its inputs. -/
def Statement.Formed : Statement → Prop
  | .operation inputs template _ text _ => filled template inputs text
  | .property input name text => filled ("\x7b\x7d.`" ++ name ++ "`") [input] text
  | .product input template _ text => filled template [input] text
  | _ => True
where
  filled (template : String) (inputs : List Slot) (text : String) : Prop :=
    ∃ s, Text.Template.fill template (inputs.map (·.shown)) = .ok s ∧ text = "(" ++ s ++ ")"

/-- Whether arcs of a type can stand for a statement. -/
def Statement.allows : Statement → ArcType → Bool
  | .start .., .traversal | .traversal .., .traversal | .unwind .., .traversal => true
  | .null _, .traversal | .null _, .aggregate | .aggregate .., .aggregate => true
  | .operation .., .operation | .property .., .operation | .product .., .operation | .pick .., .operation
  | .assign .., .operation => true
  | .directFilter .., .filter | .copyFilter .., .filter | .return .., .return => true
  | _, _ => false

lemma Statement.not_allows_wrt (s : Statement) : s.allows .wrt = false := by
  cases s <;> rfl

lemma Statement.alike_refl (s : Statement) : s.alike s = true := by
  cases s <;> simp [alike]

lemma Statement.target?_alike {s' : Statement} (h : s.alike s' = true) : s.target? = s'.target? := by
  cases s <;> cases s' <;> simp_all [alike, target?]

namespace Plan

variable {p q : Plan} {arc : Arc Statement} {needs : List Nat}

/-- Nodes are numbered in turn, and arcs join nodes. -/
structure Indexed (p : Plan) : Prop where
  nodes : p.graph.nodes = range p.nodes.length
  start : 0 < p.nodes.length
  closed : p.graph.Closed

/-- One statement reached a node, from an earlier one, and says what can be used there and where it goes
back. -/
structure Sound (p : Plan) : Prop extends Indexed p where
  simple : p.graph.Simple
  refs : ∀ n t, .node t ∈ p.slots n → t < n
  label : ∀ e ∈ p.graph.arcs, ∀ s, e.label = some s → e.src < e.dst ∧ p.slots e.dst = s.outputs ∧
    ∀ t, s.target? = some t → t < e.dst
  unique : ∀ e ∈ p.graph.arcs, ∀ e' ∈ p.graph.arcs, e.label.isSome → e'.label.isSome → e.dst = e'.dst →
    e.src = e'.src ∧ e.label = e'.label
  kind : ∀ e ∈ p.graph.arcs, ∀ s, e.label = some s → e.type = .dep ∨ s.allows e.type = true
  step : ∀ e ∈ p.graph.arcs, e.type ≠ .wrt → e.type ≠ .dep → e.label.isSome
  back : ∀ e ∈ p.graph.arcs, e.type = .wrt →
    ∃ e' ∈ p.graph.arcs, e'.dst = e.src ∧ ∃ s, e'.label = some s ∧ s.target? = some e.dst
  formed : ∀ e ∈ p.graph.arcs, ∀ s, e.label = some s → s.Formed

lemma Indexed.mem_nodes (h : p.Indexed) : n ∈ p.graph.nodes ↔ n < p.nodes.length := by
  rw [h.nodes, mem_range]

lemma Indexed.arc_lt (h : p.Indexed) {e : Arc Statement} (he : e ∈ p.graph.arcs) :
    e.src < p.nodes.length ∧ e.dst < p.nodes.length :=
  ⟨h.mem_nodes.mp (h.closed e he).1, h.mem_nodes.mp (h.closed e he).2⟩

lemma Indexed.withArc (h : p.Indexed) {e : Arc Statement} (hs : e.src ∈ p.graph.nodes) (hd : e.dst ∈ p.graph.nodes)
    (hl : e.label = none) : ({ p with graph := p.graph.addArc e } : Plan).Indexed :=
  ⟨(addArc_nodes hs hd).trans h.nodes, h.start, h.closed.addArc hs hd hl⟩

lemma sound_empty : ({} : Plan).Sound where
  nodes := rfl
  start := by simp
  closed := by simp [Digraph.Closed]
  simple := by simp [Digraph.Simple]
  refs := by
    intro n t
    cases n with
    | zero | succ n => simp [slots]
  label := by simp
  unique := by simp
  kind := by simp
  step := by simp
  back := by simp
  formed := by simp

/-- A statement uses what its nodes have, and goes back where it says. -/
structure Fits (p : Plan) (arc : Arc Statement) (s : Statement) (needs : List Nat) (back : Option Nat) : Prop where
  aggregate : arc.type = .aggregate → back.isSome
  parent : arc.src < p.nodes.length
  kind : s.allows arc.type = true
  formed : s.Formed
  needs : ∀ d ∈ needs, d < p.nodes.length
  back : ∀ t, back = some t → s.target? = some t
  target : ∀ t, s.target? = some t → t < p.nodes.length
  refs : ∀ t, .node t ∈ s.outputs → t < p.nodes.length

/-- The graph stays as it is, or a statement is added. -/
inductive Grows (p : Plan) : Plan → Prop
  | idle {q : Plan} (graph : q.graph = p.graph) (slots : q.nodes.map (·.slots) = p.nodes.map (·.slots)) : Grows p q
  | node {arc : Arc Statement} {s : Statement} {needs : List Nat} {back : Option Nat}
    (fits : p.Fits arc s needs back) : Grows p (p.withNode arc s needs back).2

lemma Sound.withArc {g : Digraph Statement} {e : Arc Statement} (h : p.Sound) (hg : g = p.graph.addArc e)
    (hs : e.src < p.nodes.length) (hd : e.dst < p.nodes.length) (hl : e.label = none)
    (htype : e.type = .dep ∨ e.type = .wrt ∧ ∃ e' ∈ p.graph.arcs, e'.dst = e.src ∧ ∃ s, e'.label = some s ∧ s.target? = some e.dst) :
    ({ p with graph := g } : Plan).Sound := by
  subst hg
  have hs := h.mem_nodes.mpr hs
  have hd := h.mem_nodes.mpr hd
  refine ⟨h.toIndexed.withArc hs hd hl, h.simple.addArc hs hd, h.refs, ?_, ?_, ?_, ?_, ?_, ?_⟩
  · intro x hx s hxs
    obtain ⟨d, hdm, h1, h2, h3, _⟩ := labelled_addArc hs hd hl hx hxs
    rw [h1, h2]
    exact h.label d hdm s h3
  · intro x hx y hy hxl hyl hxy
    obtain ⟨s, hxs⟩ := Option.isSome_iff_exists.mp hxl
    obtain ⟨s', hys⟩ := Option.isSome_iff_exists.mp hyl
    obtain ⟨d, hdm, h1, h2, h3, _⟩ := labelled_addArc hs hd hl hx hxs
    obtain ⟨d', hdm', h1', h2', h3', _⟩ := labelled_addArc hs hd hl hy hys
    rw [h1, hxs, ← h3, h1', hys, ← h3']
    exact h.unique d hdm d' hdm' (by simp [h3]) (by simp [h3']) (h2 ▸ h2' ▸ hxy)
  · intro x hx s hxs
    obtain ⟨d, hdm, _, _, h3, h4 | ⟨h4, h5, h6⟩⟩ := labelled_addArc hs hd hl hx hxs
    · rw [h4]
      exact h.kind d hdm s h3
    · rcases htype with ht | ⟨_, e', he', hdst, s', hs', ht'⟩
      · exact .inl (h4.trans ht)
      · -- an arc with a label leads to a later node, and the target of a statement is an earlier one
        have hlt := (h.label d hdm s h3).1
        have hgt := (h.label e' he' s' hs').2.2 _ ht'
        omega
  · intro x hx hw hdep
    rcases mem_addArc hs hd hl hx with ⟨d, hdm, h1, h2, h3, h4⟩ | rfl
    · rw [h3]
      rcases h4 with h4 | ⟨h4, _⟩
      · exact h.step d hdm (h4 ▸ hw) (h4 ▸ hdep)
      · rcases htype with ht | ⟨ht, _⟩
        · exact absurd (h4.trans ht) hdep
        · exact absurd (h4.trans ht) hw
    · rcases htype with ht | ⟨ht, _⟩
      · exact absurd ht hdep
      · exact absurd ht hw
  · intro x hx hw
    have htold : ∃ e' ∈ p.graph.arcs, e'.dst = x.src ∧ ∃ s, e'.label = some s ∧ s.target? = some x.dst := by
      rcases mem_addArc hs hd hl hx with ⟨d, hdm, h1, h2, _, h4 | ⟨h4, h5, h6⟩⟩ | rfl
      · rw [h1, h2]
        exact h.back d hdm (h4 ▸ hw)
      · rw [h5, h6]
        rcases htype with ht | ⟨_, htold⟩
        · rw [h4, ht] at hw
          cases hw
        · exact htold
      · rcases htype with ht | ⟨_, htold⟩
        · rw [ht] at hw
          cases hw
        · exact htold
    obtain ⟨e', he', hdst, s, hls, ht⟩ := htold
    obtain ⟨y, hy, _, h2, h3, _⟩ := addArc_keeps hs hd hl he'
    exact ⟨y, hy, h2.trans hdst, s, h3.trans hls, ht⟩
  · intro x hx s hxs
    obtain ⟨d, hdm, _, _, h3, _⟩ := labelled_addArc hs hd hl hx hxs
    exact h.formed d hdm s h3

lemma withStatement_cases (p : Plan) (arc : Arc Statement) (s : Statement) :
    (∃ e ∈ p.graph.arcs, e.src = arc.src ∧ ∃ s', e.label = some s' ∧ s'.alike s = true ∧ p.withStatement arc s = (e.dst, p)) ∨
    p.withStatement arc s = (p.nodes.length, p.withNew arc s) := by
  unfold withStatement
  split
  · rename_i e he
    have hmem := mem_of_find?_eq_some he
    have halike := find?_some he
    simp only [outArcs, mem_filter, beq_iff_eq] at hmem
    obtain ⟨s', hs', ha⟩ : ∃ s', e.label = some s' ∧ s'.alike s = true := by
      simpa [Option.any_eq_true] using halike
    exact .inl ⟨e, hmem.1, hmem.2, s', hs', ha, rfl⟩
  · exact .inr rfl

lemma slots_of_le (h : p.nodes.length ≤ n) : p.slots n = [] := by
  simp [slots, getElem?_eq_none h]

lemma withNew_slots (p : Plan) (arc : Arc Statement) (s : Statement) (n : Nat) :
    (p.withNew arc s).slots n = if n = p.nodes.length then s.outputs else p.slots n := by
  unfold slots withNew
  rcases Nat.lt_trichotomy n p.nodes.length with hlt | rfl | hgt
  · simp [getElem?_append_left hlt, Nat.ne_of_lt hlt]
  · simp [nodeFor]
  · rw [if_neg (Nat.ne_of_gt hgt), getElem?_eq_none (by simp; omega), getElem?_eq_none (by omega)]

lemma Indexed.withNew_graph (h : p.Indexed) (s : Statement) (hsrc : arc.src < p.nodes.length) :
    (p.withNew arc s).graph.nodes = range (p.nodes.length + 1) ∧
    (p.withNew arc s).graph.arcs = p.graph.arcs ++ [{ arc with dst := p.nodes.length, label := some s }] := by
  have hnew : p.nodes.length ∉ p.graph.nodes := by simp [h.nodes]
  have hs : arc.src ∈ p.graph.nodes ++ [p.nodes.length] := by simp [h.nodes, hsrc]
  simp only [withNew, addNode_of_not_mem hnew]
  refine ⟨?_, addArc_new hs (by simp) ?_⟩
  · rw [addArc_nodes hs (by simp), h.nodes, range_succ]
  · rintro ⟨d, hd, _, hdst⟩
    exact Nat.ne_of_lt (h.arc_lt hd).2 hdst

lemma Indexed.mem_withNew (h : p.Indexed) (hsrc : arc.src < p.nodes.length) {e : Arc Statement} :
    e ∈ (p.withNew arc s).graph.arcs ↔ e ∈ p.graph.arcs ∨ e = { arc with dst := p.nodes.length, label := some s } := by
  rw [(h.withNew_graph s hsrc).2, mem_append, mem_singleton]

lemma Indexed.withNew (h : p.Indexed) (s : Statement) (hsrc : arc.src < p.nodes.length) : (p.withNew arc s).Indexed := by
  obtain ⟨hnodes, -⟩ := h.withNew_graph s hsrc
  have hlen : (p.withNew arc s).nodes.length = p.nodes.length + 1 := by simp [Plan.withNew]
  refine ⟨by rw [hnodes, hlen], by omega, fun e he => ?_⟩
  rw [hnodes, mem_range, mem_range]
  rcases (h.mem_withNew hsrc).mp he with he | rfl
  · have := h.arc_lt he
    omega
  · exact ⟨Nat.lt_succ_of_lt hsrc, Nat.lt_succ_self _⟩

lemma Sound.withNew (h : p.Sound) (hsrc : arc.src < p.nodes.length)
    (hkind : s.allows arc.type = true) (htarget : ∀ t, s.target? = some t → t < p.nodes.length)
    (hrefs : ∀ t, .node t ∈ s.outputs → t < p.nodes.length) (hformed : s.Formed) : (p.withNew arc s).Sound := by
  have hcases := fun (e : Arc Statement) he => (h.mem_withNew (e := e) (s := s) hsrc).mp he
  refine ⟨h.toIndexed.withNew s hsrc, ?_, ?_, ?_, ?_, ?_, ?_, ?_, ?_⟩
  · unfold Digraph.Simple
    rw [(h.withNew_graph s hsrc).2, map_append, nodup_append]
    refine ⟨h.simple, by simp, ?_⟩
    intro x hx y hy hxy
    obtain ⟨d, hd, rfl⟩ := mem_map.mp hx
    obtain rfl : y = (arc.src, p.nodes.length) := by simpa using hy
    exact Nat.ne_of_lt (h.arc_lt hd).2 (congrArg Prod.snd hxy)
  · intro n t ht
    rw [withNew_slots] at ht
    split at ht
    · rename_i hn
      exact hn ▸ hrefs t ht
    · exact h.refs n t ht
  · intro e he s' hs'
    rw [withNew_slots]
    rcases hcases e he with he | rfl
    · rw [if_neg (Nat.ne_of_lt (h.arc_lt he).2)]
      exact h.label e he s' hs'
    · obtain rfl : s = s' := by simpa using hs'
      exact ⟨hsrc, by simp, htarget⟩
  · intro e he e' he' hl hl' hdst
    rcases hcases e he with he | rfl <;> rcases hcases e' he' with he' | rfl
    · exact h.unique e he e' he' hl hl' hdst
    · exact absurd hdst (Nat.ne_of_lt (h.arc_lt he).2)
    · exact absurd hdst.symm (Nat.ne_of_lt (h.arc_lt he').2)
    · exact ⟨rfl, rfl⟩
  · intro e he s' hs'
    rcases hcases e he with he | rfl
    · exact h.kind e he s' hs'
    · obtain rfl : s = s' := by simpa using hs'
      exact .inr hkind
  · intro e he hw hd
    rcases hcases e he with he | rfl
    · exact h.step e he hw hd
    · rfl
  · intro e he hw
    rcases hcases e he with he | rfl
    · obtain ⟨e', he', hrest⟩ := h.back e he hw
      exact ⟨e', (h.mem_withNew hsrc).mpr (.inl he'), hrest⟩
    · rw [show arc.type = .wrt from hw, s.not_allows_wrt] at hkind
      cases hkind
  · intro e he s' hs'
    rcases hcases e he with he | rfl
    · exact h.formed e he s' hs'
    · exact Option.some.inj hs' ▸ hformed

lemma Sound.withBack (h : p.Sound) {t : Nat} (ht : t < p.nodes.length)
    (htold : ∃ e ∈ p.graph.arcs, e.dst = n ∧ ∃ s, e.label = some s ∧ s.target? = some t) : (p.withBack n t).Sound := by
  obtain ⟨e, he, rfl, hs⟩ := htold
  exact h.withArc rfl (h.arc_lt he).2 ht rfl (.inr ⟨rfl, e, he, rfl, hs⟩)

lemma Sound.withDependencies (h : p.Sound) (hn : n < p.nodes.length)
    (hneeds : ∀ d ∈ needs, d < p.nodes.length) : (needs.foldl (withDependency n) p).Sound := by
  induction needs generalizing p with
  | nil => exact h
  | cons d needs ih =>
    have hd : (p.withDependency n d).Sound := h.withArc rfl (hneeds d (by simp)) hn rfl (.inl rfl)
    exact ih hd hn fun x hx => hneeds x (mem_cons_of_mem d hx)

/-- After a statement was added its node is there, and its label says where it goes back. -/
lemma Sound.withStatement (h : p.Sound) {back : Option Nat} (hf : p.Fits arc s needs back)
    (heq : p.withStatement arc s = (n, q)) : q.Sound ∧ p.nodes.length ≤ q.nodes.length ∧
    ∃ e ∈ q.graph.arcs, e.src = arc.src ∧ e.dst = n ∧ ∃ s', e.label = some s' ∧ s'.alike s = true := by
  rcases withStatement_cases p arc s with ⟨e, he, hsrc, s', hs', ha, heq'⟩ | heq'
  · cases heq.symm.trans heq'
    exact ⟨h, le_rfl, e, he, hsrc, rfl, s', hs', ha⟩
  · cases heq.symm.trans heq'
    refine ⟨h.withNew hf.parent hf.kind hf.target hf.refs hf.formed, by simp [Plan.withNew], ?_⟩
    exact ⟨_, (h.mem_withNew hf.parent).mpr (.inr rfl), rfl, rfl, s, rfl, s.alike_refl⟩

lemma withBacks_nodes (n : Nat) (back : Option Nat) : (back.toList.foldl (withBack n) p).nodes = p.nodes := by
  cases back <;> rfl

lemma withDependencies_nodes (n : Nat) (needs : List Nat) : (needs.foldl (withDependency n) p).nodes = p.nodes := by
  induction needs generalizing p with
  | nil => rfl
  | cons d needs ih => exact ih

lemma Sound.withNode (h : p.Sound) {back : Option Nat}
    (hf : p.Fits arc s needs back) : (p.withNode arc s needs back).2.Sound ∧
    p.nodes.length ≤ (p.withNode arc s needs back).2.nodes.length ∧
    (p.withNode arc s needs back).1 < (p.withNode arc s needs back).2.nodes.length := by
  unfold Plan.withNode
  cases hst : p.withStatement arc s with
  | mk n p₁ =>
    obtain ⟨h₁, hlen, e, he, _, rfl, s', hs', ha⟩ := h.withStatement hf hst
    have hn := (h₁.arc_lt he).2
    have h₂ : (back.toList.foldl (Plan.withBack e.dst) p₁).Sound := by
      cases back with
      | none => exact h₁
      | some t =>
        have ht := hf.back t rfl
        exact h₁.withBack ((hf.target t ht).trans_le hlen)
          ⟨e, he, rfl, s', hs', (Statement.target?_alike ha).trans ht⟩
    have hnodes := withBacks_nodes (p := p₁) e.dst back
    refine ⟨h₂.withDependencies (hnodes ▸ hn) fun d hd => ?_, ?_, ?_⟩
    · rw [hnodes]
      exact (hf.needs d hd).trans_le hlen
    · rw [withDependencies_nodes, hnodes]
      exact hlen
    · rw [withDependencies_nodes, hnodes]
      exact hn

lemma Grows.sound (hg : p.Grows q) (h : p.Sound) : q.Sound ∧ p.nodes.length ≤ q.nodes.length := by
  cases hg with
  | idle hgraph hslots =>
    have hlen : q.nodes.length = p.nodes.length := by simpa using congrArg List.length hslots
    have hs : ∀ n, q.slots n = p.slots n := by
      intro n
      have := congrArg (·[n]?) hslots
      simp only [getElem?_map] at this
      simp [slots, this]
    refine ⟨⟨⟨?_, ?_, ?_⟩, ?_, ?_, ?_, ?_, ?_, ?_, ?_, ?_⟩, Nat.le_of_eq hlen.symm⟩
    all_goals simp only [hgraph, hlen, hs]
    exacts [h.nodes, h.start, h.closed, h.simple, h.refs, h.label, h.unique, h.kind, h.step, h.back, h.formed]
  | node hf => exact ⟨(h.withNode hf).1, (h.withNode hf).2.1⟩

/-! ## The part that a result needs -/

end Plan

namespace Digraph

variable {σ : Type} {g : Digraph σ}

lemma mem_restrictedTo_arcs (hc : g.Closed) {r : Nat} {e : Arc σ} : e ∈ (g.restrictedTo r).arcs ↔
    e ∈ g.arcs ∧ ReflTransGen g.Forward e.src r ∧ ReflTransGen g.Forward e.dst r := by
  have hrel : g.forward.Arrow = g.Forward := by
    funext a b
    simp
  simp only [restrictedTo, filterNodes, mem_filter, Bool.and_eq_true, contains_iff_mem,
    mem_reaching (g := g.forward) (hc.filterArcs _), hrel]

lemma mem_restrictedTo_nodes (hc : g.Closed) : n ∈ (g.restrictedTo r).nodes ↔ n ∈ g.nodes ∧ ReflTransGen g.Forward n r := by
  have hrel : g.forward.Arrow = g.Forward := by
    funext a b
    simp
  simp only [restrictedTo, filterNodes, mem_filter, contains_iff_mem,
    mem_reaching (g := g.forward) (hc.filterArcs _), hrel]

lemma step_restrictedTo (hc : g.Closed) : (g.restrictedTo r).Step a b ↔ g.Step a b ∧ ReflTransGen g.Forward b r := by
  constructor
  · rintro ⟨e, he, hw, hd, rfl, rfl⟩
    obtain ⟨he, _, hr⟩ := (mem_restrictedTo_arcs hc).mp he
    exact ⟨⟨e, he, hw, hd, rfl, rfl⟩, hr⟩
  · rintro ⟨hstep, hr⟩
    have hfwd := hstep.forward
    obtain ⟨e, he, hw, hd, rfl, rfl⟩ := hstep
    exact ⟨e, (mem_restrictedTo_arcs hc).mpr ⟨he, hr.head hfwd, hr⟩, hw, hd, rfl, rfl⟩

lemma back_restrictedTo (hc : g.Closed) (h : (g.restrictedTo r).Back a b) : g.Back a b ∧ ReflTransGen g.Forward a r := by
  obtain ⟨e, he, hw, rfl, rfl⟩ := h
  obtain ⟨he, hr, _⟩ := (mem_restrictedTo_arcs hc).mp he
  exact ⟨⟨e, he, hw, rfl, rfl⟩, hr⟩

lemma Needs.restrictedTo (hc : g.Closed) (h : g.Needs a b) (hr : ReflTransGen g.Forward b r) :
    (g.restrictedTo r).Needs a b := by
  have ha := hr.head h.forward
  obtain ⟨e, he, ht, rfl, rfl⟩ := h
  exact ⟨e, (mem_restrictedTo_arcs hc).mpr ⟨he, ha, hr⟩, ht, rfl, rfl⟩

lemma Back.restrictedTo (hc : g.Closed) (hup : ∀ a t, g.Back a t → TransGen g.Step t a) (h : g.Back a b)
    (hr : ReflTransGen g.Forward a r) : (g.restrictedTo r).Back a b := by
  have hb := ReflTransGen.mono (fun _ _ h => h.forward) _ _ (hup a b h).to_reflTransGen
  obtain ⟨e, he, hw, rfl, rfl⟩ := h
  exact ⟨e, (mem_restrictedTo_arcs hc).mpr ⟨he, hr, hb.trans hr⟩, hw, rfl, rfl⟩

lemma steps_restrictedTo (hc : g.Closed) (h : TransGen g.Step a b) (hr : ReflTransGen g.Forward b r) :
    TransGen (g.restrictedTo r).Step a b := by
  induction h using TransGen.head_induction_on with
  | single h => exact .single ((step_restrictedTo hc).mpr ⟨h, hr⟩)
  | head hab hbc ih =>
    refine ih.head ((step_restrictedTo hc).mpr ⟨hab, ?_⟩)
    exact (ReflTransGen.mono (fun _ _ h => h.forward) _ _ hbc.to_reflTransGen).trans hr

end Digraph

namespace Plan

variable {p : Plan}

/-- Every aggregation goes back to a node from which steps lead down to it. -/
def GoesUp (p : Plan) : Prop := ∀ a t, p.graph.Back a t → TransGen p.graph.Step t a

lemma Sound.later (h : p.Sound) (hab : p.graph.Step a b) : a < b := by
  obtain ⟨e, he, hw, hd, rfl, rfl⟩ := hab
  obtain ⟨s, hs⟩ := Option.isSome_iff_exists.mp (h.step e he hw hd)
  exact (h.label e he s hs).1

lemma Sound.parent (h : p.Sound) {a' : Nat} (hab : p.graph.Step a b) (hab' : p.graph.Step a' b) : a = a' := by
  obtain ⟨e, he, hw, hd, rfl, rfl⟩ := hab
  obtain ⟨e', he', hw', hd', rfl, hdst⟩ := hab'
  exact (h.unique e he e' he' (h.step e he hw hd) (h.step e' he' hw' hd') hdst.symm).1

lemma Sound.oneBack (h : p.Sound) : p.graph.OneBack := by
  rintro a t t' ⟨e, he, hw, rfl, rfl⟩ ⟨e', he', hw', hsrc, rfl⟩
  obtain ⟨d, hd, hdst, s, hs, ht⟩ := h.back e he hw
  obtain ⟨d', hd', hdst', s', hs', ht'⟩ := h.back e' he' hw'
  have hlabel := (h.unique d hd d' hd' (by simp [hs]) (by simp [hs']) (by rw [hdst, hdst', hsrc])).2
  rw [hs, hs', Option.some.injEq] at hlabel
  rw [hlabel, ht'] at ht
  exact (Option.some.inj ht).symm

lemma Sound.needed_climbing (h : p.Sound) (hup : p.GoesUp) (r : Nat) : (p.needed r).Climbing where
  closed := by
    intro e he
    obtain ⟨he, hs, hd⟩ := (mem_restrictedTo_arcs h.closed).mp he
    exact ⟨(mem_restrictedTo_nodes h.closed).mpr ⟨(h.closed e he).1, hs⟩,
      (mem_restrictedTo_nodes h.closed).mpr ⟨(h.closed e he).2, hd⟩⟩
  simple := (filter_sublist.map _).nodup h.simple
  later := fun m n hmn => h.later ((step_restrictedTo h.closed).mp hmn).1
  parent := fun m m' n hmn hmn' =>
    h.parent ((step_restrictedTo h.closed).mp hmn).1 ((step_restrictedTo h.closed).mp hmn').1
  up := by
    intro m n hmn
    obtain ⟨hback, hr⟩ := back_restrictedTo h.closed hmn
    exact steps_restrictedTo h.closed (hup m n hback) hr
  oneBack := fun a t t' h1 h2 =>
    h.oneBack a t t' (back_restrictedTo h.closed h1).1 (back_restrictedTo h.closed h2).1

lemma Sound.needed_nodes (h : p.Sound) (hr : r < p.nodes.length) : (p.needed r).nodes.Nodup ∧ (p.needed r).nodes ≠ [] := by
  refine ⟨(h.nodes ▸ nodup_range).filter _, ne_nil_of_mem (a := r) ?_⟩
  exact (mem_restrictedTo_nodes h.closed).mpr ⟨h.mem_nodes.mpr hr, .refl⟩

end Plan

end SurveyGraph
