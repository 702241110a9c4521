import SurveyGraph.Proofs.RenderAgain
/-!
# Programs that can be written down

A program can be written down if the hints of its variables are texts, its statements mention nothing but variables, and each
can be put into words whatever the names are. Only a merge with relations can fail to be: it needs a relation, and must not
record collisions.
-/
open List

namespace SurveyGraph.Write
open SurveyGraph.Write.Statement

variable {p q : Program} {f : Naming} {g : Nat → Bool}

/-- The statement can be put into words, whatever the names of variables. -/
def Statement.Writable (s : Statement) : Prop := ∀ p : Program, ∃ text, p.statementText s = .ok text

lemma writable_mergeDependent {inputs : List Thing} {outputs hidden : List VarId} {m : Merge} {d : Dependence}
    (hrelations : d.relations ≠ []) (hrule : m.rule ≠ .trackAndFlag) :
    Statement.Writable { inputs, outputs, hidden, form := .mergeDependent m d } := by
  intro p
  have hsome : d.relations.isEmpty = false := by simpa using hrelations
  have hadapted : (m.rule == .trackAndFlag) = false := by
    cases hm : m.rule with
    | trackAndFlag => exact (hrule hm).elim
    | overwrite | ignore => rfl
  change ∃ text, p.mergeDependentText m d = .ok text
  unfold Program.mergeDependentText Program.dependentMerge Program.afterDependent
  simp only [hsome, hadapted, Bool.false_eq_true, if_false]
  exact ⟨_, rfl⟩

lemma writable_returns (unnamed : List Thing) (named : List (String × Thing)) :
    (returns unnamed named).Writable := fun _ => ⟨_, rfl⟩

/-- All that is needed to write a program down. -/
structure Program.Legible (p : Program) : Prop where
  time : Program.time < p.vars.size
  hints : ∀ v < p.vars.size, ∃ hint, (p.get v).hint = .text hint
  data : ∀ v ∈ p.data, v < p.vars.size
  blocks : ∀ v ∈ p.blocks.flatten, v < p.vars.size
  mentioned : ∀ s ∈ p.statements.toList, ∀ t ∈ s.mentioned, ∃ v < p.vars.size, t = .var v
  writable : ∀ s ∈ p.statements.toList, s.Writable

lemma legible_start (reg : Registry) (rule : Value) : (Program.start reg rule).Legible := by
  have htime : Program.time < (Program.start reg rule).vars.size := Nat.zero_lt_one
  have hstatement : ∀ s ∈ (Program.start reg rule).statements.toList,
      s = { inputs := [], outputs := [Program.time], form := .timestamp } := by simp [Program.start]
  refine ⟨htime, fun v hv => ?_, fun v hv => ?_, fun v hv => ?_, fun s hs t ht => ?_, fun s hs => ?_⟩
  · obtain rfl : v = 0 := Nat.lt_one_iff.mp hv
    exact ⟨"time", rfl⟩
  · simp [Program.start] at hv
  · obtain rfl : v = Program.time := by simpa [Program.start] using hv
    exact htime
  · obtain rfl := hstatement s hs
    obtain rfl : t = .var Program.time := by simpa [mentioned] using ht
    exact ⟨Program.time, htime, rfl⟩
  · obtain rfl := hstatement s hs
    exact fun _ => ⟨_, rfl⟩

lemma Program.Legible.push (h : p.Legible) {s : Statement} (hs : ∀ t ∈ s.mentioned, ∃ v < p.vars.size, t = .var v)
    (hw : s.Writable) : ({ p with statements := p.statements.push s } : Program).Legible where
  time := h.time
  hints := h.hints
  data := h.data
  blocks := h.blocks
  mentioned s' hs' := by
    rcases mem_append.mp (Array.toList_push ▸ hs') with hs' | hs'
    · exact h.mentioned s' hs'
    · obtain rfl := mem_singleton.mp hs'
      exact hs
  writable s' hs' := by
    rcases mem_append.mp (Array.toList_push ▸ hs') with hs' | hs'
    · exact h.writable s' hs'
    · obtain rfl := mem_singleton.mp hs'
      exact hw

lemma Program.Legible.pop (h : p.Legible) : ({ p with statements := p.statements.pop } : Program).Legible := by
  have hmem : ∀ s ∈ p.statements.pop.toList, s ∈ p.statements.toList := by
    intro s hs
    exact dropLast_subset _ hs
  exact ⟨h.time, h.hints, h.data, h.blocks, fun s hs => h.mentioned s (hmem s hs), fun s hs => h.writable s (hmem s hs)⟩

lemma Program.Legible.returning (h : p.Legible) : p.returning.Legible := by
  unfold Program.returning
  split
  · refine h.push (fun t ht => ?_) (writable_returns _ _)
    obtain rfl : t = .var Program.time := by simpa [Statement.mentioned, Statement.returns] using ht
    exact ⟨Program.time, h.time, rfl⟩
  · exact h

/-! ## Names and texts -/

section Naming

variable (hhints : ∀ v < p.vars.size, ∃ hint, (p.get v).hint = .text hint) (g : Nat → Bool)

include hhints

lemma nameData_ok : ∀ (vs : List VarId), (∀ v ∈ vs, v < p.vars.size) → ∀ (counts : NameCounts) (f : Naming),
    ∃ counts' f', after (vs.foldlM nameVariable counts) (p.written f g) = (.ok counts', p.written f' g)
  | [], _, counts, f => ⟨counts, f, rfl⟩
  | v :: vs, hvs, counts, f => by
    obtain ⟨hint, hv⟩ := hhints v (hvs v (.head _))
    rw [foldlM_cons, after_bind, after_nameVariable hv]
    exact nameData_ok vs (fun v hv => hvs v (.tail _ hv)) _ _

lemma nameThings_ok : ∀ (ts : List Thing), (∀ t ∈ ts, ∃ v < p.vars.size, t = .var v) →
    ∀ (counts : NameCounts) (f : Naming),
    ∃ counts' f', after (ts.foldlM nameThing counts) (p.written f g) = (.ok counts', p.written f' g)
  | [], _, counts, f => ⟨counts, f, rfl⟩
  | t :: ts, hts, counts, f => by
    have hrest := nameThings_ok ts fun t ht => hts t (.tail _ ht)
    obtain ⟨v, hv, rfl⟩ := hts t (.head _)
    obtain ⟨hint, hhint⟩ := hhints v hv
    rw [foldlM_cons, after_bind]
    by_cases h : p.Passes f (.var v)
    · rw [h.after_nameThing]
      exact hrest _ _
    · rw [after_nameThing_var h, after_nameVariable hhint]
      exact hrest _ _

end Naming

lemma Program.Legible.nameVariables (h : p.Legible) (f : Naming) (g : Nat → Bool) :
    ∃ f', after nameVariables (p.written f g) = (.ok (), p.written f' g) := by
  have hrun : after Write.nameVariables (p.written f g) = after (p.data.toList.foldlM nameVariable [] >>= fun counts =>
      (p.statements.toList.flatMap Statement.mentioned).foldlM nameThing counts >>= fun _ => pure ()) (p.written f g) := by
    unfold Write.nameVariables
    rw [after_get_bind, Program.written_mentioned]
    rfl
  obtain ⟨counts, f₁, h₁⟩ := nameData_ok h.hints g p.data.toList (fun v hv => h.data v (Array.mem_toList_iff.mp hv)) [] f
  obtain ⟨counts', f₂, h₂⟩ := nameThings_ok h.hints g (p.statements.toList.flatMap Statement.mentioned) (fun t ht => by
    obtain ⟨s, hs, ht⟩ := mem_flatMap.mp ht
    exact h.mentioned s hs t ht) counts f₁
  refine ⟨f₂, ?_⟩
  rw [hrun, after_bind, h₁]
  dsimp only
  rw [after_bind, h₂]
  rfl

lemma Program.Legible.textOf (h : p.Legible) (f : Naming) (i : Nat) (tied : Bool) :
    ∃ text, p.textOf f i tied = .ok text := by
  have huntied : ∃ text, p.textOf f i false = .ok text := by
    unfold Program.textOf
    split
    · exact ⟨_, rfl⟩
    · rename_i s hs
      exact h.writable s (Array.mem_toList_iff.mpr (Array.mem_of_getElem? hs)) _
  cases tied with
  | false => exact huntied
  | true =>
    obtain ⟨text, htext⟩ := huntied
    have hsame := textOf_outcome p f i false
    rw [htext] at hsame
    obtain ⟨text', htext', -⟩ := hsame.of_ok
    exact ⟨text', htext'⟩

lemma Program.Legible.texts (h : p.Legible) (f : Naming) : ∀ (is : List Nat) (g : Nat → Bool),
    ∃ texts g', after (is.mapM statementTextAt) (p.written f g) = (.ok texts, p.written f g')
  | [], g => ⟨[], g, rfl⟩
  | i :: is, g => by
    obtain ⟨text, htext⟩ := h.textOf f i (g i)
    obtain ⟨texts, g', hrest⟩ := texts h f is (Function.update g i true)
    refine ⟨text :: texts, g', ?_⟩
    rw [mapM_cons, after_bind, after_statementTextAt, htext]
    dsimp only
    rw [after_bind, hrest]
    rfl

lemma Program.Legible.render (h : p.Legible) (tag : String) (asLines : Bool) :
    ∃ r q, after (render tag asLines .none .none) p = (.ok r, q) := by
  have hreturning := h.returning
  obtain ⟨f, hnames⟩ := hreturning.nameVariables p.returning.names (fun _ => false)
  rw [Program.written_self] at hnames
  obtain ⟨texts, g, htexts⟩ := hreturning.texts f (range (p.returning.written f fun _ => false).statements.size)
    (fun _ => false)
  have hall : after statementTexts (p.returning.written f fun _ => false) = (.ok texts, p.returning.written f g) := htexts
  rw [after_render, hnames]
  dsimp only [renderNamed]
  rw [hall]
  cases asLines <;> exact ⟨_, _, rfl⟩

end SurveyGraph.Write
