import SurveyGraph.Proofs.After
import SurveyGraph.Proofs.NamedLists
import SurveyGraph.Proofs.NodeTables
import SurveyGraph.Proofs.PlanGraph
/-!
# Plans grow

Whatever a method makes of a plan, and also where it fails, the plan only grows. So every plan that comes
about by methods is sound, and walks through it end if its aggregations go up.
-/
open Relation List

namespace SurveyGraph.Plan

variable {α β : Type} {p q : Plan} {ns : List Nat} {Q : α → Plan → Prop} {params : List String} {f : α → PlanM β} {m : PlanM α}
  {wrt : Option Nat} {name template type list : String} {n index t parent : Nat} {columns : List (Nat × Bool)}
  {flags : Option (List Bool)} {together direct : Bool} {s : Statement}

/-! ## Steps -/

abbrev Has (p : Plan) (n : Nat) : Prop := n < p.nodes.length

/-- Whether a step succeeds or fails, a sound plan only grows, and what it gives has a property. -/
def Grown (p : Plan) (m : PlanM α) (Q : α → Plan → Prop) : Prop := p.Sound → Leads Grows p m Q

/-- So it is, and nothing is said about what it gives. -/
abbrev JustGrown (p : Plan) (m : PlanM α) : Prop := p.Grown m fun _ _ => True

/-- So it is, and a node is given. -/
abbrev GrownTo (p : Plan) (m : PlanM Nat) : Prop := p.Grown m fun n q => q.Has n

lemma sound_of_grows (h : p.Sound) (hg : ReflTransGen Grows p q) : q.Sound ∧ p.nodes.length ≤ q.nodes.length := by
  induction hg with
  | refl => exact ⟨h, le_rfl⟩
  | tail _ hg ih =>
    obtain ⟨hs, hle⟩ := hg.sound ih.1
    exact ⟨hs, ih.2.trans hle⟩

lemma Grown.bind {R : β → Plan → Prop} (hm : p.Grown m Q)
    (hf : ∀ a q, q.Sound → p.nodes.length ≤ q.nodes.length → Q a q → q.Grown (f a) R) : p.Grown (m >>= f) R :=
  fun h => (hm h).bind fun a q hg hQ =>
    have hs := sound_of_grows h hg
    hf a q hs.1 hs.2 hQ hs.1

lemma Grown.pure {a : α} (h : p.Sound → Q a p) : p.Grown (pure a) Q := fun hs => Leads.pure (h hs)

lemma Grown.refuse {ε : Type} [Cause ε] (e : ε) : p.Grown (SurveyGraph.refuse e) Q :=
  fun _ => Leads.refuse e

lemma Grown.get_bind {f : Plan → PlanM α} (h : p.Sound → p.Grown (f p) Q) :
    p.Grown (get >>= f) Q := fun hs => Leads.get_bind (h hs hs)

lemma Grown.lift_bind {x : Except Fault α} {Q : β → Plan → Prop} (h : ∀ a, x = .ok a → p.Grown (f a) Q) :
    p.Grown (liftM x >>= f) Q :=
  fun hs => Leads.lift_bind fun a ha => h a ha hs

/-! ## Names -/

def count (p : Plan) (hint : String) : Nat := (p.counts.lookup hint).getD 0

/-- Every hint has been given as often or more often. -/
def Numbered (p q : Plan) : Prop := ∀ hint, p.count hint ≤ q.count hint

def giving (p : Plan) (hint : String) : Plan :=
  { p with counts := (hint, p.count hint + 1) :: p.counts.filter (·.1 != hint) }

lemma count_giving (p : Plan) (hint other : String) :
    (p.giving hint).count other = if other = hint then p.count hint + 1 else p.count other := by
  unfold giving count
  by_cases h : other = hint
  · simp [h]
  · have hne : (other == hint) = false := beq_false_of_ne h
    rw [if_neg h, lookup_cons, hne, lookup_filter_ne h]

lemma numbered_giving (p : Plan) (hint : String) : p.Numbered (p.giving hint) := by
  intro other
  rw [count_giving]
  split
  · rename_i h
    rw [h]
    exact Nat.le_succ _
  · exact le_rfl

/-- Names may be given, while the graph and the variables of its nodes stay. -/
structure Aside (p q : Plan) : Prop where
  graph : q.graph = p.graph
  slots : q.nodes.map (·.slots) = p.nodes.map (·.slots)
  numbered : p.Numbered q

lemma keeps_aside (h : ∀ p, Aside p (after m p).2) : Keeps Aside m := fun p => ⟨.single (h p), fun _ _ => trivial⟩

lemma keeps_freshName (name : String) : Keeps Aside (freshName name) := keeps_aside fun p => ⟨rfl, rfl, numbered_giving p _⟩

lemma keeps_addParameter {x : Item} : Keeps Aside (addParameter x name) := by
  have hsend : Keeps Aside (sendableItem x) := by
    unfold sendableItem
    split
    · exact .refuse _
    · exact .lift_bind fun _ => .ite (.pure _) (keeps_aside fun _ => ⟨rfl, rfl, fun _ => le_rfl⟩)
    · exact .pure _
  refine hsend.bind fun x => .get_bind fun _ => ?_
  split
  · exact .pure _
  · exact (keeps_freshName _).bind fun _ => keeps_aside fun _ => ⟨rfl, rfl, fun _ => le_rfl⟩

lemma keeps_addGroup {query : Query} : Keeps Aside (addGroup query) :=
  keeps_addParameter.bind fun _ => keeps_aside fun _ => ⟨rfl, rfl, fun _ => le_rfl⟩

lemma keeps_line {order : List Nat} : Keeps Aside (line s order) := by
  unfold Plan.line
  split
  case h_2 | h_3 => exact .lift_bind fun _ => .pure _
  case h_1 | h_4 | h_5 | h_6 | h_7 | h_8 | h_9 | h_10 | h_11 | h_15 => exact .pure _
  · exact .refuse _
  · exact .get_bind fun _ => .lift_bind fun _ => .lift_bind fun _ => .pure _
  · refine (Keeps.mapM fun _ => keeps_freshName _).bind fun _ => (keeps_freshName _).bind fun _ => ?_
    split <;> exact .pure _

lemma keeps_linesAlong : ∀ {order done : List Nat}, Keeps Aside (linesAlong done order)
  | [], _ => .pure _
  | [_], _ => .pure _
  | a :: b :: rest, done => by
    refine .get_bind fun _ => ?_
    have hrest (made : Option String) : Keeps Aside (do return made.toList ++ (← Plan.linesAlong (done ++ [a]) (b :: rest))) :=
      keeps_linesAlong.bind fun _ => .pure _
    split
    · exact hrest none
    · refine (Keeps.catching keeps_line fun e => ?_).bind fun made => hrest made
      split
      · exact .pure _
      · exact .refuse e

lemma map_slots_modify {f : PlanNode → PlanNode} : ∀ (nodes : List PlanNode) (i : Nat), (∀ n, (f n).slots = n.slots) →
    (nodes.modify i f).map (·.slots) = nodes.map (·.slots)
  | [], i, _ => by simp
  | n :: ns, 0, h => by simp [h]
  | n :: ns, i + 1, h => by simp [map_slots_modify ns i h]

lemma keeps_lines {result : Nat} {keep : Bool} : Keeps Aside (lines result keep) := by
  refine .get_bind fun _ => ?_
  split
  · exact .pure _
  · refine .lift_bind fun order => .lift_bind fun _ => keeps_linesAlong.bind fun found => ?_
    split
    · exact keeps_aside fun _ => ⟨rfl, map_slots_modify _ _ fun _ => rfl, fun _ => le_rfl⟩
    · exact .pure _

lemma Grown.aside (hm : Keeps Aside m) : p.JustGrown m :=
  fun _ => ⟨ReflTransGen.mono (fun _ _ h => .idle h.graph h.slots) _ _ (hm p).1, fun _ _ => trivial⟩

lemma Grown.freshName (name : String) : p.JustGrown (freshName name) := .aside (keeps_freshName name)

lemma Grown.addNode {type : ArcType} {single : Option Bool} {needs : List Nat} {back : Option Nat} {split : Option Bool}
    (hf : p.Sound → p.Fits { src := parent, dst := parent, type, single, flags, split } s needs back) :
    p.GrownTo (addNode parent type s single needs back flags split) := by
  intro h
  refine ⟨.single (.node (hf h)), fun n hn => ?_⟩
  cases hn
  exact (h.withNode (hf h)).2.2

/-! ## Nodes that are found -/

lemma Sound.target?_lt (h : p.Sound) (ht : p.target? n = some t) : p.Has t := by
  obtain ⟨e, he, rfl⟩ := Option.map_eq_some_iff.mp ht
  exact (h.arc_lt (mem_of_mem_filter (mem_of_find?_eq_some he))).2

lemma Sound.lastPlural_lt (h : p.Sound) : ∀ {path : List (Nat × Nat)}, p.lastPlural path = .ok n → p.Has n
  | [], hp => by cases hp
  | (b, a) :: rest, hp => by
    unfold lastPlural at hp
    split at hp
    · cases hp
    · rename_i e he
      split at hp
      · cases hp
      · exact h.lastPlural_lt hp
      · obtain rfl : b = n := Except.ok.inj hp
        have hmatch := find?_some he
        simp only [Bool.and_eq_true, beq_iff_eq] at hmatch
        exact hmatch.2 ▸ (h.arc_lt (mem_of_find?_eq_some he)).2

lemma Sound.stateAbove_lt (h : p.Sound) {m : Nat} (hn : p.Has n) (hm : m ∈ p.graph.stateAbove n) : p.Has m := by
  cases (Digraph.mem_stateAbove h.closed).mp hm with
  | refl => exact hn
  | tail _ hup => exact h.mem_nodes.mp (h.closed.up hup).2

lemma mem_of_lowest : ∀ {ranked : List (Nat × Nat)}, lowest ranked = some n → ∃ d, (n, d) ∈ ranked
  | (m, d) :: rest, h => by
    unfold lowest at h
    split at h
    · exact (mem_of_lowest h).imp fun _ => mem_cons_of_mem _
    · exact ⟨d, Option.some.inj h ▸ mem_cons_self⟩

lemma Sound.sharedAncestor_lt (h : p.Sound) (hns : ∀ n ∈ ns, p.Has n) {m : Nat} (hm : p.sharedAncestor ns = .ok m) :
    p.Has m := by
  unfold sharedAncestor at hm
  cases ns with
  | nil => cases hm
  | cons n rest =>
    have hn := hns n (by simp)
    by_cases hall : rest.all (· == n) = true
    · simp only [hall, if_true] at hm
      exact Except.ok.inj hm ▸ hn
    · simp only [hall, Bool.false_eq_true, if_false] at hm
      split at hm
      · rename_i m' hlast
        obtain rfl : m' = m := Except.ok.inj hm
        obtain ⟨d, hmem⟩ := mem_of_lowest hlast
        obtain ⟨x, hx, hxm⟩ := mem_map.mp hmem
        obtain rfl : x = m' := congrArg Prod.fst hxm
        have hx := NodeTable.mem_ofList.mp (NodeTable.mem_foldl_inter.mp hx).1
        rcases mem_append.mp hx with hx | hx
        · exact h.stateAbove_lt hn (mem_of_mem_filter hx)
        · exact mem_singleton.mp hx ▸ hn
      · cases hm

lemma Sound.commonIndex_lt (h : p.Sound) (hns : ∀ n ∈ ns, p.Has n) {m : Nat} (hm : p.commonIndex ns = .ok m) : p.Has m := by
  have htargets : ∀ t ∈ ns.map (fun n => (p.target? n).getD n), p.Has t := by
    intro t ht
    obtain ⟨n, hn, rfl⟩ := mem_map.mp ht
    cases hp : p.target? n with
    | none => exact hns n hn
    | some t => exact h.target?_lt hp
  obtain ⟨shared, hshared, hrest⟩ := bind_ok hm
  split at hrest
  · exact Except.ok.inj hrest ▸ h.sharedAncestor_lt htargets hshared
  · rename_i other heq
    obtain rfl : other = m := Except.ok.inj hrest
    exact htargets other (mem_of_mem_filter (heq ▸ mem_singleton_self other))
  · cases hrest

lemma Sound.slot_refs (h : p.Sound) (ht : .node t ∈ p.slots n) : p.Has t := by
  have hlt := h.refs n t ht
  by_cases hn : p.Has n
  · omega
  · rw [slots_of_le (by omega)] at ht
    cases ht

lemma slot_mem {i : Slot} (h : p.slot n = .ok i) : i ∈ p.slots n := by
  unfold slot at h
  split at h
  · rename_i s _ heq
    exact Except.ok.inj h ▸ heq ▸ mem_cons_self
  · cases h

/-! ## Methods -/

attribute [local simp] Statement.target? Statement.outputs

lemma Grown.addStart {unwound : Option Nat} (hu : ∀ u, unwound = some u → p.Has u) : p.GrownTo (addStart type unwound) := by
  refine (Grown.freshName type).bind fun out q _ hle _ => Grown.addNode fun hq => ⟨by simp, ?_, rfl, trivial, ?_, ?_, ?_, ?_⟩
  · cases unwound with
    | none => exact hq.start
    | some u => exact (hu u rfl).trans_le hle
  · intro d hd
    cases unwound with
    | none => cases hd
    | some u => exact mem_singleton.mp hd ▸ hq.start
  all_goals simp

lemma Grown.addTraversal {paths : List String} {single : Bool} {unwound : Option Nat} (hp : p.Has parent)
    (hu : ∀ u, unwound = some u → p.Has u) : p.GrownTo (addTraversal parent paths type single flags unwound) := by
  refine .get_bind fun _ => .lift_bind fun source _ => ?_
  refine (Grown.freshName type).bind fun out q₁ _ hle₁ _ => ?_
  refine (Grown.freshName "edge").bind fun edge q₂ _ hle₂ _ => Grown.addNode fun _ => ⟨by simp, ?_, rfl, trivial, ?_, ?_, ?_, ?_⟩
  · cases unwound with
    | none => exact hp.trans_le (hle₁.trans hle₂)
    | some u => exact (hu u rfl).trans_le (hle₁.trans hle₂)
  · intro d hd
    cases unwound with
    | none => cases hd
    | some u => exact mem_singleton.mp hd ▸ hp.trans_le (hle₁.trans hle₂)
  all_goals simp

lemma Grown.aggregateStatement {wrt : Nat} (hw : p.Has wrt) :
    p.Grown (aggregateStatement parent wrt template name) (fun s q => s.allows .aggregate = true ∧ s.Formed ∧
      s.target? = some wrt ∧ ∀ t, .node t ∈ s.outputs → q.Has t) := by
  refine .get_bind fun h => ?_
  split
  · refine .pure fun _ => ⟨rfl, trivial, by simp, fun t ht => ?_⟩
    rcases mem_append.mp ht with ht | ht
    · exact h.slot_refs ht
    · obtain rfl : t = wrt := by simpa using ht
      exact hw
  · split
    · exact .refuse _
    · refine .lift_bind fun input _ => (Grown.freshName name).bind fun out q _ _ _ => .pure fun _ => ?_
      exact ⟨rfl, trivial, rfl, by simp⟩

lemma Grown.addGeneralAggregate {wrt : Nat} {maskInfinity : Bool} {expected given : Option String} (hp : p.Has parent)
    (hw : p.Has wrt) : p.GrownTo (addGeneralAggregate parent wrt template name maskInfinity expected given) := by
  refine .lift_bind fun template _ => ?_
  refine (Grown.aggregateStatement hw).bind fun s q _ hle hs => .get_bind fun hq => Grown.addNode fun _ => ?_
  obtain ⟨hkind, hformed, ht, hrefs⟩ := hs
  refine ⟨fun _ => rfl, ?_, hkind, hformed, ?_, ?_, ?_, hrefs⟩
  · cases hprev : q.target? parent with
    | none => exact hp.trans_le hle
    | some t => exact hq.target?_lt hprev
  · intro d hd
    split at hd
    · exact mem_singleton.mp hd ▸ hp.trans_le hle
    · cases hd
  · intro t h
    exact Option.some.inj h ▸ ht
  · intro t h
    rw [ht] at h
    exact Option.some.inj h ▸ hw.trans_le hle

lemma Sound.foldTarget_lt (h : p.Sound) (hp : p.Has parent) (hw : ∀ w, wrt = some w → p.Has w)
    (hn : p.foldTarget parent wrt = .ok n) : p.Has n := by
  cases wrt with
  | some w =>
    cases hn
    split
    · exact hp
    · exact hw w rfl
  | none =>
    cases ht : p.target? parent with
    | some t =>
      simp only [foldTarget, ht] at hn
      exact Except.ok.inj hn ▸ hp
    | none =>
      simp only [foldTarget, ht] at hn
      obtain ⟨path, _, hn⟩ := bind_ok hn
      exact h.lastPlural_lt hn

lemma Grown.fold (hp : p.Has parent) (hw : ∀ w, wrt = some w → p.Has w) : p.GrownTo (fold parent wrt) := by
  refine .get_bind fun h => .lift_bind fun n hn => ?_
  split
  · exact .pure fun _ => hp
  · exact Grown.addGeneralAggregate hp (h.foldTarget_lt hp hw hn)

/-- Steps for a list; what each gives has a property that later nodes do not take away. -/
lemma Grown.mapM {R : β → Nat → Prop} (hR : ∀ b m n, m ≤ n → R b m → R b n) : ∀ {l : List α} {p : Plan},
    (∀ a ∈ l, ∀ q : Plan, p.nodes.length ≤ q.nodes.length → q.Grown (f a) (fun b q => R b q.nodes.length)) →
    p.Grown (l.mapM f) (fun bs q => ∀ b ∈ bs, R b q.nodes.length)
  | [], _, _ => by
    exact .pure fun _ => by simp
  | a :: l, p, h => by
    rw [mapM_cons]
    refine (h a (by simp) p le_rfl).bind fun b q _ hle hb => ?_
    refine (Grown.mapM hR fun c hc q' hle' => h c (by simp [hc]) q' (hle.trans hle')).bind
      fun bs q' _ hle' hbs => .pure fun _ c hc => ?_
    rcases mem_cons.mp hc with rfl | hc
    · exact hR _ _ _ hle' hb
    · exact hbs c hc

lemma Grown.mapM_fold (h : ∀ n ∈ ns, p.Has n) : p.Grown (ns.mapM (Plan.fold ·)) (fun ns q => ∀ n ∈ ns, q.Has n) :=
  Grown.mapM (R := fun n k => n < k) (fun _ _ _ hle hlt => hlt.trans_le hle) fun n hn _ hle =>
    Grown.fold ((h n hn).trans_le hle) (by simp)

lemma Sound.indexOr_lt (h : p.Sound) (hns : ∀ n ∈ ns, p.Has n) (hw : ∀ w, wrt = some w → p.Has w) {m : Nat}
    (hm : p.indexOr wrt ns = .ok m) : p.Has m := by
  cases wrt with
  | some w => exact Except.ok.inj hm ▸ hw w rfl
  | none => exact h.commonIndex_lt hns hm

lemma Grown.addCombination (hns : ∀ n ∈ ns, p.Has n) (hw : ∀ w, wrt = some w → p.Has w) :
    p.Grown (addCombination template name ns wrt params) (fun r q => q.Has r.1 ∧ q.Has r.2) := by
  refine (Grown.mapM_fold hns).bind fun folded q hq hle hfolded => .get_bind fun _ => ?_
  refine .lift_bind fun m hm => .lift_bind fun inputs _ => .lift_bind fun text htext => ?_
  have hm := hq.indexOr_lt hfolded (fun w h => (hw w h).trans_le hle) hm
  refine (Grown.addNode fun _ => ⟨?_, hm, rfl, by exact ⟨text, htext, rfl⟩, hfolded, ?_, ?_, ?_⟩).bind
    fun n q' _ hle' hn => .pure fun _ => ?_
  all_goals simp
  exact ⟨hn, hm.trans_le hle'⟩

lemma Grown.addOperation (hp : p.Has parent) :
    p.Grown (addOperation parent template name params) (fun r q => q.Has r.1 ∧ q.Has r.2) := by
  refine .get_bind fun h => ?_
  split
  · split
    · rename_i wrt hwrt
      refine Grown.addCombination (by simpa using hp) fun w hw => ?_
      exact Option.some.inj hw ▸ h.target?_lt hwrt
    · exact .refuse _
  · refine .lift_bind fun input _ => .lift_bind fun text htext => ?_
    refine (Grown.addNode fun _ => ⟨?_, hp, rfl, by exact ⟨text, htext, rfl⟩, ?_, ?_, ?_, ?_⟩).bind
      fun n q' _ hle' hn => .pure fun _ => ?_
    all_goals simp
    exact ⟨hn, hp.trans_le hle'⟩

lemma Grown.addProperty {which : Nat} (hp : p.Has parent) : p.GrownTo (addProperty parent name which) := by
  refine .get_bind fun _ => ?_
  split
  · exact .refuse _
  · refine .lift_bind fun text htext => Grown.addNode fun _ => ⟨?_, hp, rfl, ⟨text, htext, rfl⟩, ?_, ?_, ?_, ?_⟩
    all_goals simp

lemma Grown.addProduct (hp : p.Has parent) : p.GrownTo (addProduct parent name) := by
  refine .get_bind fun _ => .lift_bind fun input _ => .lift_bind fun text htext => ?_
  refine Grown.addNode fun _ => ⟨?_, hp, rfl, ⟨text, htext, rfl⟩, ?_, ?_, ?_, ?_⟩
  all_goals simp

lemma Grown.filterStatement {target condition : Slot} (ht : ∀ t, target = .node t → p.Has t) :
    p.Grown (filterStatement direct target condition) (fun s q => (s.allows .filter = true ∧ s.Formed) ∧ s.target? = none ∧
      ∀ t, .node t ∈ s.outputs → q.Has t) := by
  unfold Plan.filterStatement
  split
  · refine .pure fun _ => ⟨⟨rfl, trivial⟩, rfl, fun t h => ht t ?_⟩
    exact (mem_singleton.mp h).symm
  · split
    · refine (Grown.freshName _).bind fun out q _ _ _ => .pure fun _ => ?_
      exact ⟨⟨rfl, trivial⟩, rfl, by simp⟩
    · exact .refuse _

lemma Grown.addFilter {condition : Nat} {forceSingle split : Bool} (hp : p.Has parent) (hc : p.Has condition) :
    p.GrownTo (addFilter parent condition direct forceSingle split) := by
  refine .get_bind fun h => .lift_bind fun wrt hwrt => ?_
  have hwrt := h.sharedAncestor_lt (by simpa using ⟨hp, hc⟩) hwrt
  refine (Grown.fold hc fun w hw => Option.some.inj hw ▸ hwrt).bind fun c q hq hle hcond => .get_bind fun _ => ?_
  refine .lift_bind fun there _ => ?_
  cases there with
  | false => exact .refuse _
  | true =>
    refine .lift_bind fun predicate _ => .lift_bind fun target htarget => ?_
    refine (Grown.filterStatement fun t ht => hq.slot_refs (ht ▸ slot_mem htarget)).bind fun s q' _ hle' hs => ?_
    refine .lift_bind fun single _ => Grown.addNode fun _ => ⟨by simp, ?_, hs.1.1, hs.1.2, ?_, by simp,
      fun _ ht => (nomatch hs.2.1.symm.trans ht), hs.2.2⟩
    · exact hp.trans_le (hle.trans hle')
    · intro d hd
      exact mem_singleton.mp hd ▸ hcond.trans_le hle'

lemma Grown.addAssign {onlyComputed : Bool} (hp : p.Has parent) : p.GrownTo (addAssign parent onlyComputed) := by
  refine .get_bind fun _ => ?_
  split
  · refine .lift_bind fun input _ => (Grown.freshName "variable").bind fun out q _ hle _ => ?_
    exact Grown.addNode fun _ => ⟨by simp, hp.trans_le hle, rfl, trivial, by simp, by simp, by simp, by simp⟩
  · exact .pure fun _ => hp

lemma Grown.addApply {function condition : String} {padded : Bool} (hp : p.Has parent) (hns : ∀ n ∈ ns, p.Has n) :
    p.GrownTo (addApply parent list function condition ns padded params) := by
  refine (Grown.mapM_fold hns).bind fun folded q _ hle hfolded => .get_bind fun _ => ?_
  refine .lift_bind fun inputs _ => (Grown.freshName "x").bind fun x q' _ hle' _ => ?_
  refine .lift_bind fun applied _ => .lift_bind fun kept _ => ?_
  refine Grown.addNode fun _ => ⟨by simp, hp.trans_le (hle.trans hle'), rfl, trivial, fun d hd => ?_, ?_, ?_, ?_⟩
  · exact (hfolded d hd).trans_le hle'
  all_goals simp

lemma Grown.addUnwind {wrt : Nat} (hw : p.Has wrt) (hns : ∀ n ∈ ns, p.Has n) : p.GrownTo (addUnwind wrt list ns params) := by
  refine (Grown.freshName "unwound").bind fun out q _ hle _ => Grown.addNode fun _ =>
    ⟨by simp, ?_, rfl, trivial, fun d hd => ?_, ?_, ?_, ?_⟩
  · exact hw.trans_le hle
  · exact (hns d hd).trans_le hle
  all_goals simp

lemma Grown.addReference {node : Nat} (hp : p.Has parent) (hn : p.Has node) : p.GrownTo (addReference parent node) := by
  refine .get_bind fun h => Grown.addNode fun _ => ⟨by simp, hp, rfl, trivial, by simpa using hn, by simp, fun t ht => ?_, ?_⟩
  · refine h.slot_refs (n := node) ?_
    simp only [Statement.target?] at ht
    split at ht
    · rename_i hlast
      exact Option.some.inj ht ▸ mem_of_getLast? hlast
    · cases ht
  · exact fun t ht => h.slot_refs ht

lemma Sound.gathering_lt (h : p.Sound) {plural : Bool} (hi : p.Has index) (hn : p.Has n) {shared : Nat} {how : String}
    (hg : p.gathering index n plural = .ok (some (shared, how))) : p.Has shared := by
  unfold gathering at hg
  simp only at hg
  split at hg
  · cases hg
  · obtain ⟨m, hm, hg⟩ := bind_ok hg
    have hm := h.sharedAncestor_lt (by simpa using ⟨hi, hn⟩) hm
    split at hg
    · cases hg
    · split at hg
      · cases hg
        exact hm
      · obtain ⟨_, _, hg⟩ := bind_ok hg
        cases hg
        exact hm

lemma Grown.gatherAs {how : Option (Nat × String)} (hns : ∀ n ∈ ns, p.Has n) (hh : ∀ m f, how = some (m, f) → p.Has m) :
    p.Grown (gatherAs ns how) (fun ns q => ∀ n ∈ ns, q.Has n) := by
  match how with
  | none => exact .pure fun _ => hns
  | some (m, f) =>
    refine Grown.mapM (R := fun n k => n < k) (fun _ _ _ hle hlt => hlt.trans_le hle) fun n hn _ hle => ?_
    exact Grown.addGeneralAggregate ((hns n hn).trans_le hle) ((hh m f rfl).trans_le hle)

lemma Grown.gather {counted : Bool} (hi : p.Has index) (hc : ∀ c ∈ columns, p.Has c.1) :
    p.Grown (gather index columns together counted) (fun ns q => ∀ n ∈ ns, q.Has n) := by
  have hall : ∀ m ∈ columns.map (·.1), p.Has m := by
    intro m hm
    obtain ⟨c, hcm, rfl⟩ := mem_map.mp hm
    exact hc c hcm
  unfold Plan.gather
  split
  · exact .pure fun _ => hall
  · rename_i n plural rest
    refine .get_bind fun h => .lift_bind fun how hh => Grown.gatherAs hall ?_
    · rintro m f rfl
      exact h.gathering_lt hi (hc (n, plural) (by simp)) hh
  · refine (Grown.mapM (R := fun ns k => ∀ n ∈ ns, n < k) (fun _ _ _ hle hlt n hn => (hlt n hn).trans_le hle)
      fun c hcm q hle => ?_).bind fun gathered q _ _ hg => .pure fun _ n hn => ?_
    · refine .get_bind fun h => .lift_bind fun how hh => Grown.gatherAs ?_ ?_
      · simpa using (hc c hcm).trans_le hle
      · rintro m f rfl
        exact h.gathering_lt (hi.trans_le hle) ((hc c hcm).trans_le hle) hh
    · obtain ⟨ns, hns, hn⟩ := mem_flatten.mp hn
      exact hg ns hns n hn

lemma Grown.addTable {present : Option Nat} {counted : Bool} (hi : p.Has index) (hc : ∀ c ∈ columns, p.Has c.1) :
    p.GrownTo (addTable index columns present together counted) := by
  refine (Grown.gather hi hc).bind fun ns q _ hle hns => .get_bind fun _ => ?_
  refine .lift_bind fun slots _ => .lift_bind fun present _ => ?_
  refine Grown.addNode fun _ => ⟨?_, hi.trans_le hle, rfl, trivial, hns, ?_, ?_, ?_⟩
  all_goals simp

lemma Grown.addRow (hns : ∀ n ∈ ns, p.Has n) : p.GrownTo (addRow ns) :=
  .get_bind fun h => .lift_bind fun _ _ => Grown.addNode fun _ =>
    ⟨by simp, h.start, rfl, trivial, hns, by simp, by simp, by simp⟩

/-! ## Plans that come about by methods -/

/-- A call of a method. -/
inductive Call where
  | start (type : String) (unwound : Option Nat)
  | traversal (parent : Nat) (paths : List String) (type : String) (single : Bool) (flags : Option (List Bool))
    (unwound : Option Nat)
  | aggregate (parent wrt : Nat) (template name : String) (maskInfinity : Bool) (expected given : Option String)
  | fold (parent : Nat) (wrt : Option Nat)
  | combination (template name : String) (nodes : List Nat) (wrt : Option Nat) (params : List String)
  | operation (parent : Nat) (template name : String) (params : List String)
  | property (parent : Nat) (name : String) (which : Nat)
  | product (parent : Nat) (name : String)
  | filter (parent condition : Nat) (direct forceSingle split : Bool)
  | assign (parent : Nat) (onlyComputed : Bool)
  | apply (parent : Nat) (list function condition : String) (dependencies : List Nat) (padded : Bool)
    (params : List String)
  | unwind (wrt : Nat) (list : String) (dependencies : List Nat) (params : List String)
  | reference (parent node : Nat)
  | table (index : Nat) (columns : List (Nat × Bool)) (present : Option Nat) (together counted : Bool)
  | row (columns : List Nat)
  | parameter (x : Item) (name : String)
  | group (query : Query)
  | lines (result : Nat) (keep : Bool)

/-- A step without what it returns. -/
def void (m : PlanM α) : PlanM Unit := do
  let _ ← m

def Call.run : Call → PlanM Unit
  | .start type unwound => void (addStart type unwound)
  | .traversal parent paths type single flags unwound =>
    void (addTraversal parent paths type single flags unwound)
  | .aggregate parent wrt template name maskInfinity expected given =>
    void (addGeneralAggregate parent wrt template name maskInfinity expected given)
  | .fold parent wrt => void (Plan.fold parent wrt)
  | .combination template name nodes wrt params => void (addCombination template name nodes wrt params)
  | .operation parent template name params => void (addOperation parent template name params)
  | .property parent name which => void (addProperty parent name which)
  | .product parent name => void (addProduct parent name)
  | .filter parent condition direct forceSingle split =>
    void (addFilter parent condition direct forceSingle split)
  | .assign parent onlyComputed => void (addAssign parent onlyComputed)
  | .apply parent list function condition dependencies padded params =>
    void (addApply parent list function condition dependencies padded params)
  | .unwind wrt list dependencies params => void (addUnwind wrt list dependencies params)
  | .reference parent node => void (addReference parent node)
  | .table index columns present together counted => void (addTable index columns present together counted)
  | .row columns => void (addRow columns)
  | .parameter x name => void (addParameter x name)
  | .group query => void (addGroup query)
  | .lines result keep => void (Plan.lines result keep)

def Call.nodes : Call → List Nat
  | .start _ unwound => unwound.toList
  | .traversal parent _ _ _ _ unwound => parent :: unwound.toList
  | .aggregate parent wrt _ _ _ _ _ => [parent, wrt]
  | .fold parent wrt => parent :: wrt.toList
  | .combination _ _ nodes wrt _ => nodes ++ wrt.toList
  | .operation parent _ _ _ | .property parent _ _ | .product parent _ | .assign parent _ => [parent]
  | .filter parent condition _ _ _ => [parent, condition]
  | .apply parent _ _ _ dependencies _ _ | .unwind parent _ dependencies _ => parent :: dependencies
  | .reference parent node => [parent, node]
  | .table index columns _ _ _ => index :: columns.map (·.1)
  | .row columns => columns
  | .parameter .. | .group _ | .lines .. => []

/-- Plans that come about by calls, whether they succeed or fail. -/
inductive Built : Plan → Prop
  | empty : Built {}
  | call {p : Plan} (c : Call) (h : Built p) (hn : ∀ n ∈ c.nodes, n < p.nodes.length) : Built (after c.run p).2

attribute [local simp] Call.nodes

lemma Grown.void (h : p.Grown m Q) : p.JustGrown (void m) :=
  h.bind fun _ _ _ _ _ => .pure fun _ => trivial

lemma Grown.call {c : Call} (hn : ∀ n ∈ c.nodes, p.Has n) : p.JustGrown c.run := by
  cases c with
  | start type unwound => exact .void (Grown.addStart (by simpa using hn))
  | traversal => exact .void (Grown.addTraversal (by simp_all) (by simp_all))
  | aggregate => exact .void (Grown.addGeneralAggregate (by simp_all) (by simp_all))
  | fold => exact .void (Grown.fold (by simp_all) (by simp_all))
  | combination template name nodes wrt =>
    simp only [Call.nodes, mem_append, Option.mem_toList] at hn
    exact .void (Grown.addCombination (fun n h => hn n (.inl h)) fun w h => hn w (.inr h))
  | operation => exact .void (Grown.addOperation (by simpa using hn))
  | property => exact .void (Grown.addProperty (by simpa using hn))
  | product => exact .void (Grown.addProduct (by simpa using hn))
  | filter => exact .void (Grown.addFilter (by simp_all) (by simp_all))
  | assign => exact .void (Grown.addAssign (by simpa using hn))
  | apply => exact .void (Grown.addApply (by simp_all) (by simp_all))
  | unwind => exact .void (Grown.addUnwind (by simp_all) (by simp_all))
  | reference => exact .void (Grown.addReference (by simp_all) (by simp_all))
  | table => exact .void (Grown.addTable (by simp_all) (by simp_all))
  | row => exact .void (Grown.addRow hn)
  | parameter => exact .void (.aside keeps_addParameter)
  | group => exact .void (.aside keeps_addGroup)
  | lines => exact .void (.aside keeps_lines)

lemma Built.sound (h : Built p) : p.Sound := by
  induction h with
  | empty => exact sound_empty
  | call c _ hn ih => exact (sound_of_grows ih (Grown.call hn ih).1).1

def grow (p : Plan) (calls : List Call) : Plan := calls.foldl (fun p c => (after c.run p).2) p

/-- Whether some calls are given only nodes that are there. -/
def accepts (p : Plan) : List Call → Bool
  | [] => true
  | c :: cs => c.nodes.all (· < p.nodes.length) && accepts (after c.run p).2 cs

lemma Built.grow (h : Built p) {calls : List Call} (hc : p.accepts calls) : Built (p.grow calls) := by
  induction calls generalizing p with
  | nil => exact h
  | cons c cs ih =>
    simp only [accepts, Bool.and_eq_true, all_eq_true, decide_eq_true_eq] at hc
    exact ih (.call c h hc.1) hc.2

end SurveyGraph.Plan
