import SurveyGraph.Proofs.PlanMethods
/-!
# Statements that are shared

A statement is not added where one like it leads from the same node. Statements are compared without the names of the
variables that they bring about, and what is compared decides everything else that goes into a text. So whatever these
variables are called, the two statements give the same line and the same operation (`reused_same`).
-/
open List

namespace SurveyGraph

/-- Paths without dots can be told from their texts with dots in between, but for no path and an empty one. -/
lemma Text.join_dots {ps qs : List String} (hps : ∀ p ∈ ps, '.' ∉ p.toList) (hqs : ∀ q ∈ qs, '.' ∉ q.toList)
    (h : Text.join "." ps = Text.join "." qs) : Text.join "." ps = "" ∨ ps = qs := by
  have hsplit : ∀ {ps : List String}, (∀ p ∈ ps, '.' ∉ p.toList) → ps ≠ [] →
      (Text.join "." ps).toList.splitOn '.' = ps.map String.toList := by
    intro ps hps hne
    rw [Text.join, String.toList_intercalate]
    exact splitOn_intercalate '.' (by simpa using hps) (by simpa using hne)
  rcases eq_or_ne ps [] with rfl | hp
  · exact .inl rfl
  · rcases eq_or_ne qs [] with rfl | hq
    · exact .inl h
    · refine .inr (map_injective_iff.mpr (fun _ _ => String.toList_inj.mp) ?_)
      rw [← hsplit hps hp, ← hsplit hqs hq, h]

namespace Statement

/-- A statement with other names for the variables that it brings about. -/
def renamed (out edge : String) : Statement → Statement
  | .start type unwound _ => .start type unwound out
  | .traversal source type paths unwound _ _ => .traversal source type paths unwound out edge
  | .union source type paths unwound _ _ => .union source type paths unwound out edge
  | .assign input _ => .assign input out
  | .copyFilter target condition _ => .copyFilter target condition out
  | .aggregate input wrt template name _ => .aggregate input wrt template name out
  | .unwind wrt list _ params => .unwind wrt list out params
  | s => s

def Dotless : Statement → Prop
  | .traversal _ _ paths _ _ _ => ∀ path ∈ paths, '.' ∉ path.toList
  | _ => True

instance (s : Statement) : Decidable s.Dotless := by
  unfold Dotless
  split <;> infer_instance

/-- The line of a traversal depends on the text of its paths only. -/
lemma traversalLine_congr {source : Slot} {type out edge : String} {ps qs : List String} (hps : ∀ p ∈ ps, '.' ∉ p.toList)
    (hqs : ∀ q ∈ qs, '.' ∉ q.toList) (h : Text.join "." ps = Text.join "." qs) :
    traversalLine source type ps out edge = traversalLine source type qs out edge := by
  rcases Text.join_dots hps hqs h with hempty | rfl
  · unfold traversalLine
    rw [← h, hempty]
    rfl
  · rfl

lemma Formed.filled_unique {template text text' : String} {inputs : List Slot} (h : filled template inputs text)
    (h' : filled template inputs text') : text = text' := by
  obtain ⟨s, hs, rfl⟩ := h
  obtain ⟨s', hs', rfl⟩ := h'
  rw [hs] at hs'
  rw [Except.ok.inj hs']

/-- Statements that are alike are of one sort, and under the same names they bring the same about, in the same line. -/
lemma same_of_alike {s t : Statement} (h : t.alike s = true) (ht : t.Formed) (hs : s.Formed) (htd : t.Dotless)
    (hsd : s.Dotless) : t.sort = s.sort ∧ ∀ out edge, (t.renamed out edge).outputs = (s.renamed out edge).outputs ∧
      ∀ order, Plan.line (t.renamed out edge) order = Plan.line (s.renamed out edge) order := by
  cases t <;> cases s <;> simp only [alike, Bool.and_eq_true, beq_iff_eq, Bool.false_eq_true] at h
  case operation.operation =>
    obtain ⟨⟨rfl, rfl⟩, rfl⟩ := h
    exact ⟨rfl, fun _ _ => ⟨by simp [renamed, outputs, Formed.filled_unique ht hs], fun _ => rfl⟩⟩
  case property.property =>
    obtain ⟨rfl, rfl⟩ := h
    exact ⟨rfl, fun _ _ => ⟨by simp [renamed, outputs, Formed.filled_unique ht hs], fun _ => rfl⟩⟩
  case product.product =>
    obtain ⟨⟨rfl, rfl⟩, rfl⟩ := h
    exact ⟨rfl, fun _ _ => ⟨by simp [renamed, outputs, Formed.filled_unique ht hs], fun _ => rfl⟩⟩
  case traversal.traversal =>
    obtain ⟨⟨⟨rfl, rfl⟩, hpaths⟩, rfl⟩ := h
    refine ⟨rfl, fun out edge => ⟨rfl, fun order => ?_⟩⟩
    simp only [renamed, Plan.line, traversalLine_congr htd hsd hpaths]
  case return.return =>
    obtain ⟨⟨hinputs, rfl⟩, rfl⟩ := h
    obtain rfl := append_cancel_right hinputs
    exact ⟨rfl, fun _ _ => ⟨rfl, fun _ => rfl⟩⟩
  all_goals
    simp_all only [renamed, sort, outputs, Plan.line, implies_true, and_self]

end Statement

namespace Plan

variable {p : Plan} {arc : Arc Statement} {s : Statement}

/-- A node that is there is used for a statement only if an arc leads to it with one of the same sort. Whatever the two
call the variables that they bring about, they bring the same about, in the same line after any nodes. -/
theorem reused_same (hp : ∀ e ∈ p.graph.arcs, ∀ t, e.label = some t → t.Formed) (hs : s.Formed)
    (hpaths : ∀ e ∈ p.graph.arcs, ∀ t ∈ e.label, t.Dotless) (hdotless : s.Dotless)
    (hold : (p.withStatement arc s).1 < p.nodes.length) : (p.withStatement arc s).2 = p ∧
    ∃ e ∈ p.graph.arcs, e.src = arc.src ∧ e.dst = (p.withStatement arc s).1 ∧ ∃ t, e.label = some t ∧ t.sort = s.sort ∧
      ∀ out edge, (t.renamed out edge).outputs = (s.renamed out edge).outputs ∧
        ∀ order, line (t.renamed out edge) order = line (s.renamed out edge) order := by
  rcases withStatement_cases p arc s with ⟨e, he, hsrc, t, ht, halike, heq⟩ | heq
  · rw [heq]
    exact ⟨rfl, e, he, hsrc, rfl, t, ht, Statement.same_of_alike halike (hp e he t ht) hs (hpaths e he t ht) hdotless⟩
  · rw [heq] at hold
    exact absurd hold (Nat.lt_irrefl _)

/-- The runs of each observing block are counted. -/
def countedPlan : Plan :=
  grow {} [.start "ob" none, .traversal 1 ["(\x7bin_var\x7d)-->(\x7bout_var\x7d:Run)"] "run" false none none,
    .aggregate 2 1 "count(\x7b0\x7d)" "count" false none none]

/-- Counts the runs of each observing block. -/
def recount (out : String) : Statement := .aggregate (.text "run0") 1 "count(\x7b0\x7d)" "count" out

/-- Where runs have been counted, counting them again gives the same line under the same name. -/
theorem reused_same_counted : Built countedPlan ∧
    ∃ t, t.sort = "Aggregate" ∧ (∃ e ∈ countedPlan.graph.arcs, e.dst = 3 ∧ e.label = some t) ∧ ∀ order,
      line (t.renamed "n" "") order = line (recount "n") order := by
  have hbuilt : Built countedPlan := Built.empty.grow (by decide +kernel)
  have hnode : (countedPlan.withStatement { src := 2, dst := 2, type := .aggregate } (recount "count1")).1 = 3 := by
    decide +kernel
  have hold : 3 < countedPlan.nodes.length := by decide +kernel
  obtain ⟨-, e, he, -, hdst, t, ht, hsort, hsame⟩ :=
    reused_same (s := recount "count1") hbuilt.sound.formed trivial (by decide +kernel) trivial (hnode ▸ hold)
  exact ⟨hbuilt, t, hsort, ⟨e, he, hdst.trans hnode, ht⟩, (hsame "n" "").2⟩

end Plan

end SurveyGraph
