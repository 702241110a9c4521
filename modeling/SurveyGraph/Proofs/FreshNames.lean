import Mathlib.Data.List.Nodup
import SurveyGraph.Proofs.PlanMethods
/-!
# Names for variables

A name is a hint in small letters with a number, counted for each hint by itself. Hint and number cannot always be told
apart: `run` with 10 reads like `run1` with 0, and `run1` becomes a hint when a filter copies the variable of that name.
Names are different exactly if the hints and numbers given can be told apart (`Plan.Clear`), as long as no hint has been
given more than ten times.

In a plan that is clear, every variable is made by one statement only (`variables_apart`). `exists_shared_variable` is a plan
that is not clear.
-/
open Relation List

namespace SurveyGraph.Plan
open Text.Letter

variable {α β : Type} {p q : Plan} {x : String × Nat}

/-! ## Hints and numbers -/

/-- The name that is made from a hint and a number. -/
def nameOf (x : String × Nat) : String := x.1 ++ toString x.2

/-- The hint and the number have been given. -/
def Gave (p : Plan) (x : String × Nat) : Prop := x.2 < p.count x.1

/-- Hints and numbers given so far can be told apart by the names they make. -/
def Clear (p : Plan) : Prop := ∀ x y, p.Gave x → p.Gave y → nameOf x = nameOf y → x = y

lemma Numbered.refl (p : Plan) : p.Numbered p := fun _ => le_rfl

lemma Numbered.trans {r : Plan} (h : p.Numbered q) (h' : q.Numbered r) : p.Numbered r :=
  fun hint => (h hint).trans (h' hint)

lemma Numbered.gave (h : p.Numbered q) (hx : p.Gave x) : q.Gave x := hx.trans_le (h x.1)

lemma Numbered.clear (h : p.Numbered q) (hq : q.Clear) : p.Clear :=
  fun x y hx hy heq => hq x y (h.gave hx) (h.gave hy) heq

lemma gave_giving {hint : String} : (p.giving hint).Gave x ↔ p.Gave x ∨ x = (hint, p.count hint) := by
  obtain ⟨other, n⟩ := x
  unfold Gave
  rw [count_giving]
  by_cases h : other = hint
  · subst h
    simp only [if_true, Prod.mk.injEq, true_and]
    omega
  · simp [h]

lemma after_freshName (name : String) : after (freshName name) p =
    (.ok (nameOf (lower name, p.count (lower name))), p.giving (lower name)) := rfl

/-- Names given for hints come from different hints and numbers, which are all that have been given. -/
lemma after_freshNames : ∀ (hints : List String) (p : Plan), ∃ (xs : List (String × Nat)) (q : Plan),
    after (hints.mapM freshName) p = (.ok (xs.map nameOf), q) ∧ xs.Nodup ∧ p.Numbered q ∧ ∀ x, x ∈ xs ↔ q.Gave x ∧ ¬p.Gave x
  | [], p => ⟨[], p, rfl, .nil, .refl p, fun x => by simp⟩
  | name :: hints, p => by
    obtain ⟨xs, q, hq, hnodup, hnum, hmem⟩ := after_freshNames hints (p.giving (lower name))
    refine ⟨(lower name, p.count (lower name)) :: xs, q, ?_, ?_,
      (numbered_giving p _).trans hnum, fun x => ?_⟩
    · rw [mapM_cons, after_bind, after_freshName]
      simp only [after_bind, hq]
      rfl
    · refine nodup_cons.mpr ⟨fun h => ?_, hnodup⟩
      exact ((hmem _).mp h).2 (gave_giving.mpr (.inr rfl))
    · have hnew : ¬p.Gave (lower name, p.count (lower name)) := Nat.lt_irrefl _
      have hgave := hnum.gave (gave_giving.mpr (.inr rfl) : (p.giving (lower name)).Gave _)
      rw [mem_cons, hmem, gave_giving, not_or]
      constructor
      · rintro (rfl | ⟨hx, hp, -⟩)
        · exact ⟨hgave, hnew⟩
        · exact ⟨hx, hp⟩
      · rintro ⟨hx, hp⟩
        by_cases h : x = (lower name, p.count (lower name))
        · exact .inl h
        · exact .inr ⟨hx, hp, h⟩

/-- No name is given twice exactly if the plan is clear afterwards. -/
lemma nodup_names_iff (hints : List String) : ∃ names q, after (hints.mapM freshName) {} = (.ok names, q) ∧
    (names.Nodup ↔ q.Clear) := by
  obtain ⟨xs, q, hq, hnodup, -, hmem⟩ := after_freshNames hints {}
  have hgave (x : String × Nat) : x ∈ xs ↔ q.Gave x := by
    rw [hmem, and_iff_left]
    exact Nat.not_lt_zero _
  refine ⟨_, q, hq, ?_⟩
  rw [nodup_map_iff_inj_on hnodup]
  simp only [hgave]
  exact ⟨fun h x y hx hy => h x hx y hy, fun h x hx y hy => h x y hx hy⟩

/-- Numbers with one digit can be told from the hints before them. -/
lemma clear_of_count_le (h : ∀ hint, p.count hint ≤ 10) : p.Clear := by
  rintro ⟨a, i⟩ ⟨b, j⟩ hi hj heq
  have digit {n : Nat} (hn : n < 10) : (toString n).toList = [n.digitChar] := by
    rw [Nat.toString_eq_ofList_toDigits, String.toList_ofList, Nat.toDigits_of_lt_base hn]
  have inj : ∀ i < 10, ∀ j < 10, Nat.digitChar i = Nat.digitChar j → i = j := by decide
  have hi : i < 10 := hi.trans_le (h a)
  have hj : j < 10 := hj.trans_le (h b)
  have hlist := congrArg String.toList heq
  simp only [nameOf, String.toList_append, digit hi, digit hj] at hlist
  obtain ⟨hab, hij⟩ := append_inj' hlist rfl
  rw [String.toList_inj.mp hab, inj i hi j hj (singleton_inj.mp hij)]

lemma clear_of_hints (h : ∀ hint, 0 < p.count hint → ∀ c, hint.toList.getLast? = some c → c.isDigit = false) : p.Clear := by
  rintro ⟨a, i⟩ ⟨b, j⟩ hi hj heq
  obtain ⟨rfl, rfl⟩ := append_toString_inj (h a (Nat.zero_lt_of_lt hi)) (h b (Nat.zero_lt_of_lt hj)) heq
  rfl

end SurveyGraph.Plan

/-! ## Variables and their statements -/

namespace SurveyGraph

/-- The variables that a statement makes. -/
def Statement.made : Statement → List String
  | .start _ _ out | .assign _ out | .copyFilter _ _ out | .aggregate _ _ _ _ out | .unwind _ _ out _ => [out]
  | .traversal _ _ _ _ out edge | .union _ _ _ _ out edge => [out, edge]
  | _ => []

lemma Digraph.addNode_arcs {σ : Type} (g : Digraph σ) (n : Nat) : (g.addNode n).arcs = g.arcs := by
  unfold addNode
  split <;> rfl

lemma Digraph.label_addArc {σ : Type} {g : Digraph σ} {e x : Arc σ} {s : σ} (hx : x ∈ (g.addArc e).arcs)
    (hs : x.label = some s) : (∃ d ∈ g.arcs, d.src = x.src ∧ d.dst = x.dst ∧ d.label = some s) ∨
    x.src = e.src ∧ x.dst = e.dst ∧ e.label = some s := by
  simp only [addArc] at hx
  split at hx
  · simp only [addNode_arcs, mem_map] at hx
    obtain ⟨d, hd, rfl⟩ := hx
    split at hs
    · rename_i hends
      simp only [hends, if_true]
      simp only [Bool.and_eq_true, beq_iff_eq] at hends
      cases hl : e.label with
      | none => exact .inl ⟨d, hd, rfl, rfl, by simpa [overlay, hl] using hs⟩
      | some s' => exact .inr ⟨hends.1, hends.2, by simpa [overlay, hl] using hs⟩
    · rename_i hends
      simp only [hends, Bool.false_eq_true, if_false]
      exact .inl ⟨d, hd, rfl, rfl, hs⟩
  · simp only [addNode_arcs, mem_append, mem_singleton] at hx
    rcases hx with hx | rfl
    · exact .inl ⟨x, hx, rfl, rfl, hs⟩
    · exact .inr ⟨rfl, rfl, hs⟩

namespace Plan

variable {α β : Type} {p q : Plan} {back wrt : Option Nat} {needs ns : List Nat} {n : Nat} {t : Statement}

/-- A statement between two nodes makes a variable. -/
structure Makes (p : Plan) (v : String) (src dst : Nat) (s : Statement) : Prop where
  arc : ∃ e ∈ p.graph.arcs, e.src = src ∧ e.dst = dst ∧ e.label = some s
  mem : v ∈ s.made

/-- Some hint and number that have been given make a name. -/
def Named (p : Plan) (v : String) : Prop := ∃ x, p.Gave x ∧ nameOf x = v

variable {v : String} {src dst : Nat} {s : Statement}

lemma Numbered.named (h : p.Numbered q) (hv : p.Named v) : q.Named v := hv.imp fun _ hx => ⟨h.gave hx.1, hx.2⟩

/-- Every variable is a given name, made in one place. -/
structure Apart (p : Plan) : Prop where
  named : ∀ v src dst s, p.Makes v src dst s → p.Named v
  one : ∀ v src dst s src' dst' s', p.Makes v src dst s → p.Makes v src' dst' s' → src = src' ∧ dst = dst' ∧ s = s'
  nodup : ∀ v src dst s, p.Makes v src dst s → s.made.Nodup

/-- Given names of which no variable has been made yet. -/
structure Unmade (p : Plan) (names : List String) : Prop where
  named : ∀ v ∈ names, p.Named v
  free : ∀ v ∈ names, ∀ src dst s, ¬p.Makes v src dst s
  nodup : names.Nodup

lemma Makes.of_graph (h : q.Makes v src dst s) (hg : q.graph = p.graph) : p.Makes v src dst s := ⟨hg ▸ h.arc, h.mem⟩

lemma Makes.of_addArc {e : Arc Statement} (h : q.Makes v src dst s)
    (hg : q.graph = p.graph.addArc e) (hl : e.label = none) : p.Makes v src dst s := by
  obtain ⟨⟨x, hx, rfl, rfl, hs⟩, hv⟩ := h
  rcases Digraph.label_addArc (hg ▸ hx) hs with ⟨d, hd, h1, h2, h3⟩ | ⟨-, -, h3⟩
  · exact ⟨⟨d, hd, h1, h2, h3⟩, hv⟩
  · rw [hl] at h3
    cases h3

lemma Makes.of_needs : ∀ {needs : List Nat} {p : Plan},
    (needs.foldl (withDependency n) p).Makes v src dst s → p.Makes v src dst s
  | [], _, h => h
  | d :: _, p, h => (Makes.of_needs (p := p.withDependency n d) h).of_addArc rfl rfl

lemma Makes.of_back (h : (back.toList.foldl (withBack n) p).Makes v src dst s) : p.Makes v src dst s := by
  cases back with
  | none => exact h
  | some t => exact h.of_addArc rfl rfl

lemma Makes.of_new {arc : Arc Statement} (h : (p.withNew arc t).Makes v src dst s) :
    p.Makes v src dst s ∨ src = arc.src ∧ dst = p.nodes.length ∧ s = t ∧ v ∈ t.made := by
  obtain ⟨⟨x, hx, rfl, rfl, hs⟩, hv⟩ := h
  rcases Digraph.label_addArc hx hs with ⟨d, hd, h1, h2, h3⟩ | ⟨h1, h2, h3⟩
  · rw [Digraph.addNode_arcs] at hd
    exact .inl ⟨⟨d, hd, h1, h2, h3⟩, hv⟩
  · obtain rfl : t = s := Option.some.inj h3
    exact .inr ⟨h1, h2, rfl, hv⟩

lemma Makes.of_node {arc : Arc Statement} (h : (p.withNode arc t needs back).2.Makes v src dst s) :
    p.Makes v src dst s ∨ src = arc.src ∧ dst = p.nodes.length ∧ s = t ∧ v ∈ t.made := by
  unfold withNode at h
  have h := (Makes.of_needs h).of_back
  rcases withStatement_cases p arc t with ⟨e, -, -, s', -, -, heq⟩ | heq
  · rw [heq] at h
    exact .inl h
  · rw [heq] at h
    exact h.of_new

lemma Apart.withNode (h : p.Apart) (hs : p.Unmade s.made) {arc : Arc Statement}
    (hq : p.Numbered (p.withNode arc s needs back).2) : (p.withNode arc s needs back).2.Apart where
  named := by
    intro v src dst t hv
    rcases hv.of_node with hv | ⟨-, -, -, hv⟩
    · exact hq.named (h.named v src dst t hv)
    · exact hq.named (hs.named v hv)
  one := by
    intro v src dst t src' dst' t' hv hv'
    rcases hv.of_node with hv | ⟨h1, h2, h3, hm⟩ <;> rcases hv'.of_node with hv' | ⟨h1', h2', h3', hm'⟩
    · exact h.one v src dst t src' dst' t' hv hv'
    · exact absurd hv (hs.free v hm' src dst t)
    · exact absurd hv' (hs.free v hm src' dst' t')
    · exact ⟨h1.trans h1'.symm, h2.trans h2'.symm, h3.trans h3'.symm⟩
  nodup := by
    intro v src dst t hv
    rcases hv.of_node with hv | ⟨-, -, rfl, -⟩
    · exact h.nodup v src dst t hv
    · exact hs.nodup

lemma withNode_counts (p : Plan) (arc : Arc Statement) (s : Statement) (needs : List Nat) (back : Option Nat) :
    (p.withNode arc s needs back).2.counts = p.counts := by
  have hneeds (n : Nat) : ∀ (needs : List Nat) (p : Plan), (needs.foldl (withDependency n) p).counts = p.counts := by
    intro needs
    induction needs with
    | nil => exact fun _ => rfl
    | cons _ _ ih => exact fun p => ih _
  unfold withNode
  rw [hneeds]
  rcases withStatement_cases p arc s with ⟨e, -, -, s', -, -, heq⟩ | heq
  all_goals
    rw [heq]
    cases back <;> rfl

/-! ## Steps -/

/-- Variables are apart as long as names can be told apart. -/
def Tidy (p : Plan) : Prop := p.Clear → p.Apart

/-- Names that are new as long as names can be told apart. -/
def Offers (p : Plan) (names : List String) : Prop := p.Clear → p.Unmade names

lemma offers_nil : p.Offers [] := fun _ => ⟨by simp, by simp, .nil⟩

/-- A tidy plan stays tidy. -/
def Tidies (p q : Plan) : Prop := p.Tidy → q.Tidy

lemma tidy_of_tidies (h : ReflTransGen Tidies p q) (hp : p.Tidy) : q.Tidy := by
  induction h with
  | refl => exact hp
  | tail _ h ih => exact h ih

/-- Whether a step succeeds or fails, a tidy plan stays tidy, and what it gives has a property. -/
def TidyAfter (p : Plan) (m : PlanM α) (Q : α → Plan → Prop) : Prop := p.Tidy → Leads Tidies p m Q

/-- So it is, and nothing is said about what it gives. -/
abbrev StaysTidy (p : Plan) (m : PlanM α) : Prop := p.TidyAfter m fun _ _ => True

namespace TidyAfter

variable {m : PlanM α} {f : α → PlanM β} {Q : α → Plan → Prop} {R : β → Plan → Prop} {parent index : Nat} {params : List String}
  {flags : Option (List Bool)} {name template type list : String} {columns : List (Nat × Bool)} {single split : Option Bool}
  {together direct : Bool}

lemma bind (hm : p.TidyAfter m Q) (hf : ∀ a q, Q a q → q.TidyAfter (f a) R) : p.TidyAfter (m >>= f) R :=
  fun hp => (hm hp).bind fun a q hq hQ => hf a q hQ (tidy_of_tidies hq hp)

lemma pure {a : α} (h : Q a p) : p.TidyAfter (pure a) Q := fun _ => Leads.pure h

lemma refuse {ε : Type} [Cause ε] (e : ε) : p.TidyAfter (SurveyGraph.refuse e) Q := fun _ => Leads.refuse e

lemma get_bind {f : Plan → PlanM α} (h : p.TidyAfter (f p) Q) : p.TidyAfter (get >>= f) Q := h

lemma lift_bind {x : Except Fault α} (h : ∀ a, p.TidyAfter (f a) R) : p.TidyAfter (liftM x >>= f) R :=
  fun hp => Leads.lift_bind fun a _ => h a hp

lemma aside (hm : Keeps Aside m) : p.StaysTidy m := by
  refine fun _ => ⟨ReflTransGen.mono (fun p q h hp hclear => ?_) _ _ (hm p).1, fun _ _ => trivial⟩
  obtain ⟨hnamed, hone, hnodup⟩ := hp (h.numbered.clear hclear)
  exact ⟨fun v src dst s hv => h.numbered.named (hnamed v src dst s (hv.of_graph h.graph)),
    fun v src dst s src' dst' s' hv hv' => hone v src dst s src' dst' s' (hv.of_graph h.graph) (hv'.of_graph h.graph),
    fun v src dst s hv => hnodup v src dst s (hv.of_graph h.graph)⟩

/-- A name that is given is new, together with the names before it. -/
lemma freshName (hint : String) {names : List String} (h : p.Offers names) :
    p.TidyAfter (freshName hint) (fun v q => q.Offers (names ++ [v])) := by
  intro hp
  unfold Leads
  rw [after_freshName]
  generalize Text.Letter.lower hint = hint
  have hto := numbered_giving p hint
  -- the hint and its number had not been given before
  have hnew (hclear : (p.giving hint).Clear) : ¬p.Named (nameOf (hint, p.count hint)) := by
    rintro ⟨x, hx, heq⟩
    obtain rfl := hclear x _ (hto.gave hx) (gave_giving.mpr (.inr rfl)) heq
    exact Nat.lt_irrefl _ hx
  refine ⟨.single fun _ hclear => ?_, fun v hv hclear => ?_⟩
  · obtain ⟨hnamed, hone, hnodup⟩ := hp (hto.clear hclear)
    exact ⟨fun v src dst s hv => hto.named (hnamed v src dst s ⟨hv.arc, hv.mem⟩),
      fun v src dst s src' dst' s' hv hv' => hone v src dst s src' dst' s' ⟨hv.arc, hv.mem⟩ ⟨hv'.arc, hv'.mem⟩,
      fun v src dst s hv => hnodup v src dst s ⟨hv.arc, hv.mem⟩⟩
  · cases hv
    obtain ⟨hnamed, hfree, hnodup⟩ := h (hto.clear hclear)
    refine ⟨fun v hv => ?_, fun v hv src dst s hmakes => ?_, ?_⟩
    · rcases mem_append.mp hv with hv | hv
      · exact hto.named (hnamed v hv)
      · exact ⟨_, gave_giving.mpr (.inr rfl), (mem_singleton.mp hv).symm⟩
    · have hmakes : p.Makes v src dst s := ⟨hmakes.arc, hmakes.mem⟩
      rcases mem_append.mp hv with hv | hv
      · exact hfree v hv src dst s hmakes
      · obtain rfl := mem_singleton.mp hv
        exact hnew hclear ((hp (hto.clear hclear)).named _ src dst s hmakes)
    · rw [nodup_append]
      refine ⟨hnodup, by simp, fun v hv w hw hvw => hnew hclear ?_⟩
      rw [← mem_singleton.mp hw, ← hvw]
      exact hnamed v hv

lemma addNode {type : ArcType} (h : p.Offers s.made) :
    p.StaysTidy (Plan.addNode parent type s single needs back flags split) := by
  intro hp
  have hto : p.Numbered (p.withNode { src := parent, dst := parent, type, single, flags, split } s needs back).2 :=
    fun hint => by rw [count, count, withNode_counts]
  exact ⟨.single fun _ hclear => (hp (hto.clear hclear)).withNode (h (hto.clear hclear)) hto, fun _ _ => trivial⟩

lemma addNode_aside {type : ArcType} (h : s.made = []) :
    p.StaysTidy (Plan.addNode parent type s single needs back flags split) :=
  addNode (h ▸ offers_nil)

lemma mapM {l : List α} (h : ∀ a ∈ l, ∀ q : Plan, q.StaysTidy (f a)) : p.StaysTidy (l.mapM f) := fun hp =>
  (Leads.mapM (fun _ _ _ _ h => h) fun a ha q hq => h a ha q (tidy_of_tidies hq hp)).mono fun _ _ _ _ => trivial

/-! ## Methods -/

lemma addStart {unwound : Option Nat} : p.StaysTidy (Plan.addStart type unwound) :=
  (freshName type offers_nil).bind fun _ _ h => addNode h

lemma addTraversal {paths : List String} {single : Bool}
    {unwound : Option Nat} : p.StaysTidy (Plan.addTraversal parent paths type single flags unwound) :=
  get_bind <| lift_bind fun _ => (freshName type offers_nil).bind fun _ _ h =>
    (freshName "edge" h).bind fun _ _ h => addNode h

lemma aggregateStatement {wrt : Nat} :
    p.TidyAfter (Plan.aggregateStatement parent wrt template name) (fun s q => q.Offers s.made) := by
  refine get_bind ?_
  split
  · exact pure offers_nil
  · split
    · exact refuse _
    · exact lift_bind fun _ => (freshName name offers_nil).bind fun _ _ h => pure h

lemma addGeneralAggregate {wrt : Nat} {maskInfinity : Bool} {expected given : Option String} :
    p.StaysTidy (Plan.addGeneralAggregate parent wrt template name maskInfinity expected given) :=
  lift_bind fun _ => aggregateStatement.bind fun _ _ h => get_bind (addNode h)

lemma fold : p.StaysTidy (Plan.fold parent wrt) := by
  refine get_bind <| lift_bind fun n => ?_
  split
  · exact pure trivial
  · exact addGeneralAggregate

lemma addCombination : p.StaysTidy (Plan.addCombination template name ns wrt params) := by
  refine (mapM fun _ _ _ => fold).bind fun _ _ _ => get_bind <| lift_bind fun _ => lift_bind fun _ => ?_
  exact lift_bind fun _ => (addNode_aside rfl).bind fun _ _ _ => pure trivial

lemma addOperation : p.StaysTidy (Plan.addOperation parent template name params) := by
  refine get_bind ?_
  split
  · split
    · exact addCombination
    · exact refuse _
  · exact lift_bind fun _ => lift_bind fun _ => (addNode_aside rfl).bind fun _ _ _ => pure trivial

lemma addProperty {which : Nat} : p.StaysTidy (Plan.addProperty parent name which) := by
  refine get_bind ?_
  split
  · exact refuse _
  · exact lift_bind fun _ => addNode_aside rfl

lemma addProduct : p.StaysTidy (Plan.addProduct parent name) :=
  get_bind <| lift_bind fun _ => lift_bind fun _ => addNode_aside rfl

lemma filterStatement {target condition : Slot} :
    p.TidyAfter (Plan.filterStatement direct target condition) (fun s q => q.Offers s.made) := by
  unfold Plan.filterStatement
  split
  · exact pure offers_nil
  · split
    · exact (freshName _ offers_nil).bind fun _ _ h => pure h
    · exact refuse _

lemma addFilter {condition : Nat} {forceSingle split : Bool} :
    p.StaysTidy (Plan.addFilter parent condition direct forceSingle split) := by
  refine get_bind <| lift_bind fun _ => fold.bind fun c q _ => get_bind <| lift_bind fun there => ?_
  cases there with
  | false => exact refuse _
  | true =>
    exact lift_bind fun _ => lift_bind fun _ => filterStatement.bind fun _ _ h => lift_bind fun _ => addNode h

lemma addAssign {onlyComputed : Bool} : p.StaysTidy (Plan.addAssign parent onlyComputed) := by
  refine get_bind ?_
  split
  · exact lift_bind fun _ => (freshName _ offers_nil).bind fun _ _ h => addNode h
  · exact pure trivial

lemma addApply {function condition : String} {padded : Bool} :
    p.StaysTidy (Plan.addApply parent list function condition ns padded params) := by
  refine (mapM fun _ _ _ => fold).bind fun _ _ _ => get_bind <| lift_bind fun _ => ?_
  exact (aside (keeps_freshName _)).bind fun _ _ _ => lift_bind fun _ => lift_bind fun _ => addNode_aside rfl

lemma addUnwind {wrt : Nat} : p.StaysTidy (Plan.addUnwind wrt list ns params) :=
  (freshName _ offers_nil).bind fun _ _ h => addNode h

lemma gatherAs {how : Option (Nat × String)} : p.StaysTidy (Plan.gatherAs ns how) := by
  match how with
  | none => exact pure trivial
  | some (m, f) => exact mapM fun _ _ _ => addGeneralAggregate

lemma gather {counted : Bool} : p.StaysTidy (Plan.gather index columns together counted) := by
  unfold Plan.gather
  split
  · exact pure trivial
  · exact get_bind <| lift_bind fun _ => gatherAs
  · exact (mapM fun _ _ _ => get_bind <| lift_bind fun _ => gatherAs).bind fun _ _ _ => pure trivial

lemma addTable {present : Option Nat} {counted : Bool} :
    p.StaysTidy (Plan.addTable index columns present together counted) :=
  gather.bind fun _ _ _ => get_bind <| lift_bind fun _ => lift_bind fun _ => addNode_aside rfl

lemma call (c : Call) : p.StaysTidy c.run := by
  have hvoid {α : Type} {m : PlanM α} (h : p.StaysTidy m) : p.StaysTidy (void m) :=
    h.bind fun _ _ _ => pure trivial
  cases c with
  | start => exact hvoid addStart
  | traversal => exact hvoid addTraversal
  | aggregate => exact hvoid addGeneralAggregate
  | fold => exact hvoid fold
  | combination => exact hvoid addCombination
  | operation => exact hvoid addOperation
  | property => exact hvoid addProperty
  | product => exact hvoid addProduct
  | filter => exact hvoid addFilter
  | assign => exact hvoid addAssign
  | apply => exact hvoid addApply
  | unwind => exact hvoid addUnwind
  | reference => exact hvoid (get_bind (addNode_aside rfl))
  | table => exact hvoid addTable
  | row => exact hvoid (get_bind <| lift_bind fun _ => addNode_aside rfl)
  | parameter => exact hvoid (aside keeps_addParameter)
  | group => exact hvoid (aside keeps_addGroup)
  | lines => exact hvoid (aside keeps_lines)

end TidyAfter

lemma tidy_empty : ({} : Plan).Tidy := by
  intro _
  have hnone (v : String) (src dst : Nat) (s : Statement) : ¬({} : Plan).Makes v src dst s := by
    rintro ⟨⟨e, he, -⟩, -⟩
    cases he
  exact ⟨fun v src dst s h => (hnone v src dst s h).elim, fun v src dst s _ _ _ h => (hnone v src dst s h).elim,
    fun v src dst s h => (hnone v src dst s h).elim⟩

lemma Tidy.grow {calls : List Call} (h : p.Tidy) : (p.grow calls).Tidy := by
  induction calls generalizing p with
  | nil => exact h
  | cons c cs ih => exact ih (tidy_of_tidies (TidyAfter.call c h).1 h)

lemma count_le_of_counts (h : ∀ e ∈ p.counts, e.2 ≤ n) (hint : String) : p.count hint ≤ n := by
  unfold count
  cases hl : p.counts.lookup hint with
  | none => exact Nat.zero_le n
  | some k =>
    obtain ⟨l₁, l₂, hcounts, -⟩ := lookup_eq_some_iff.mp hl
    exact h (hint, k) (by simp [hcounts])

lemma makes_of_arc {i : Nat} (hv : v ∈ s.made)
    (h : p.graph.arcs[i]?.map (fun e => (e.src, e.dst, e.label)) = some (src, dst, some s)) : p.Makes v src dst s := by
  obtain ⟨e, he, heq⟩ := Option.map_eq_some_iff.mp h
  simp only [Prod.mk.injEq] at heq
  exact ⟨⟨e, mem_of_getElem? he, heq⟩, hv⟩

/-- No name is given twice exactly if hints and numbers can be told apart; then one statement makes each
variable. So it is if no hint is given more than ten times, and if none ends in a digit. -/
theorem variables_apart (hints : List String) (calls : List Call) (p : Plan) :
    (∃ names q, after (hints.mapM freshName) {} = (.ok names, q) ∧ (names.Nodup ↔ q.Clear)) ∧
    ((grow {} calls).Clear → (grow {} calls).Apart) ∧ ((∀ hint, p.count hint ≤ 10) → p.Clear) ∧
    ((∀ hint, 0 < p.count hint → ∀ c, hint.toList.getLast? = some c → c.isDigit = false) → p.Clear) :=
  ⟨nodup_names_iff hints, tidy_empty.grow, clear_of_count_le, clear_of_hints⟩

/-- All runs, and the runs of observing blocks: some are picked, and their exposures lead to further runs. In
between all runs are asked for again. -/
def pickedRuns (again : Nat) : List Call :=
  [.start "Run" none, .start "OB" none, .traversal 2 ["(\x7bin_var\x7d)-->(\x7bout_var\x7d:Run)"] "Run" false none none,
    .property 3 "id" 0, .operation 4 "\x7b0\x7d > 3" ">" [], .filter 3 5 false false false] ++
  replicate again (.start "Run" none) ++
  [.traversal 7 ["(\x7bin_var\x7d)<--(\x7bout_var\x7d:Exposure)"] "Exposure" true none none,
    .traversal 8 ["(\x7bin_var\x7d)-->(\x7bout_var\x7d:Run)"] "Run" false none none]

theorem variables_apart_pickedRuns : (∀ hint, (grow {} (pickedRuns 0)).count hint ≤ 10) ∧
    (grow {} (pickedRuns 0)).Apart ∧ ∃ s t, (grow {} (pickedRuns 0)).Makes "run10" 3 7 s ∧
    (grow {} (pickedRuns 0)).Makes "run2" 8 9 t := by
  have hcount (hint : String) : (grow {} (pickedRuns 0)).count hint ≤ 10 := count_le_of_counts (by decide +kernel) hint
  obtain ⟨-, hapart, hclear, -⟩ := variables_apart [] (pickedRuns 0) (grow {} (pickedRuns 0))
  refine ⟨hcount, hapart (hclear hcount), ?_⟩
  refine ⟨.copyFilter (.text "run1") (.text "((run1.`id`) > 3)") "run10",
    .traversal (.text "exposure0") "Run" ["(\x7bin_var\x7d)-->(\x7bout_var\x7d:Run)"] none "run2" "edge2", ?_, ?_⟩
  · exact makes_of_arc (i := 7) (by simp [Statement.made]) (by decide +kernel)
  · exact makes_of_arc (i := 10) (by simp [Statement.made]) (by decide +kernel)

theorem exists_shared_variable : ∃ calls, ({} : Plan).accepts calls = true ∧ ∃ v src dst s src' dst' t,
    (grow {} calls).Makes v src dst s ∧ (grow {} calls).Makes v src' dst' t ∧ dst ≠ dst' := by
  refine ⟨pickedRuns 8, by decide +kernel, "run10", 3, 7, .copyFilter (.text "run1") (.text "((run1.`id`) > 3)") "run10",
    8, 9, .traversal (.text "exposure0") "Run" ["(\x7bin_var\x7d)-->(\x7bout_var\x7d:Run)"] none "run10" "edge2", ?_, ?_,
    by decide⟩
  · exact makes_of_arc (i := 7) (by simp [Statement.made]) (by decide +kernel)
  · exact makes_of_arc (i := 10) (by simp [Statement.made]) (by decide +kernel)

end Plan

end SurveyGraph
