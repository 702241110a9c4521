import SurveyGraph.Proofs.ScopeCheck
import SurveyGraph.Proofs.WalkedAgain
/-!
# Variables of a query are in scope

Along a careful walk, every statement mentions only variables in scope (`mentions_inScope`). After each node (`InScope`)
the variables of all texts that can be used are there: those of the nodes above the place where the walk goes on, and of
what counts to a node and lasts.

Neither condition can be left out (`exists_mention_not_inScope`): the line of an aggregation keeps whatever the walk has
passed, also what has been dropped since, and branches are walked again that serve nothing any more.
-/
open Relation

namespace SurveyGraph.Plan

variable {p : Plan} {order : List Nat}

/-- Where a walk goes on from a node: there, or where it goes back to. -/
def RestsAt (p : Plan) (c x : Nat) : Prop := p.graph.Back c x ∨ x = c ∧ ∀ t, ¬ p.graph.Back c t

/-- After an order up to `c`, the variables of the texts that can be used are in scope. -/
structure InScope (p : Plan) (done : List Nat) (c : Nat) : Prop where
  above : ∀ x, p.RestsAt c x → ∀ k v, ReflTransGen p.graph.Step k x → p.Draws k v → v ∈ p.scopeAfter done
  lasting : ∀ m k v, p.CountsTo k m → p.Lasts done m k → p.Draws k v → v ∈ p.scopeAfter done

lemma InScope.available {done : List Nat} {c x k : Nat} {v : String} (h : p.InScope done c) (hx : p.RestsAt c x)
    (hk : p.Available done x k) (hv : p.Draws k v) : v ∈ p.scopeAfter done := by
  rcases hk with hup | ⟨m, _, hc, hlast⟩
  · exact h.above x hx k v hup hv
  · exact h.lasting m k v hc hlast hv

namespace Passage

variable {pre post : List Nat} {a b : Nat} {e : Arc Statement} {s : Statement} {v : String}

variable (h : p.Passage order)

include h

lemma scopeAfter_step (hmade : p.MadeBy b e s) (hsrc : e.src = a) :
    p.scopeAfter (pre ++ [a] ++ [b]) = p.bring (pre ++ [a]) (p.scopeAfter (pre ++ [a])) s := by
  have harc := h.sound.simple.arc? hmade.mem
  rw [hsrc, hmade.dst] at harc
  rw [scopeAfter_snoc, harc]
  simp [hmade.label]

lemma label_of_back (hback : p.graph.Back a b) (he : e ∈ p.graph.arcs) (hsrc : e.src = a) (hdst : e.dst = b) :
    e.label = none := by
  rw [Option.eq_none_iff_forall_ne_some]
  intro s hl
  obtain ⟨d, hd, hw, h1, h2⟩ := h.sound.forward_of_label he hl
  obtain ⟨d', hd', hw', h1', h2'⟩ := hback
  obtain rfl := h.sound.simple.eq hd hd' (by rw [h1, h1', hsrc]) (by rw [h2, h2', hdst])
  exact hw hw'

lemma scopeAfter_back (hback : p.graph.Back a b) : p.scopeAfter (pre ++ [a] ++ [b]) = p.scopeAfter (pre ++ [a]) := by
  obtain ⟨e, he, hw, rfl, rfl⟩ := hback
  rw [scopeAfter_snoc, h.sound.simple.arc? he]
  simp [h.label_of_back ⟨e, he, hw, rfl, rfl⟩ he rfl rfl]

lemma back_inScope (heq : order = pre ++ a :: b :: post) (hin : p.InScope (pre ++ [a]) a)
    (hback : p.graph.Back a b) : p.InScope (pre ++ [a] ++ [b]) b := by
  have ha : a ∈ order := by simp [heq]
  have habove := hin.above b (.inl hback)
  refine ⟨fun x hx k v hk hv => ?_, fun m k v hc hlast hv => ?_⟩ <;> rw [h.scopeAfter_back hback]
  · rcases hx with hx | ⟨rfl, _⟩
    · exact absurd hx (h.course.not_back_of_steps ha (h.up a b hback))
    · exact habove k v hk hv
  · rcases lasts_snoc hlast with rfl | ⟨hlast, _⟩
    · exact habove k v .refl hv
    · exact hin.lasting m k v hc hlast hv

variable (hf : p.Fresh order)

include hf

section Step

variable (heq : order = pre ++ a :: b :: post) (hstep : p.graph.Step a b)

include heq hstep

/-- After an aggregation, all that can be used at its target is in scope. -/
lemma step_aggregate {input : Slot} {w : Nat} {template name out : String}
    (hmade : p.MadeBy b e (.aggregate input w template name out)) (hsrc : e.src = a) : p.InScope (pre ++ [a] ++ [b]) b := by
  have hb : b ∈ order := by simp [heq]
  have hdone : order = (pre ++ [a]) ++ b :: post := by simp [heq]
  obtain ⟨hback, hwa⟩ := h.aggregate_back hb hstep hmade
  obtain ⟨names, hnames, hheld⟩ := h.kept_ok hdone hb hback out
  have hbrings := (h.orderly.bound e hmade.mem (hmade.dst ▸ hb) _ hmade.label out rfl).1
  have hwritten : (Statement.aggregate input w template name out).isWritten = true := by
    by_contra hno
    simp [Statement.brings, hno] at hbrings
  have hscope : p.scopeAfter (pre ++ [a] ++ [b]) = names ++ [out] := by
    rw [h.scopeAfter_step hmade hsrc]
    simp [bring, hnames, hwritten]
  refine ⟨fun x hx k v hk hv => ?_, fun m k v hc hlast hv => ?_⟩
  · obtain rfl : x = w := by
      rcases hx with hx | ⟨_, hno⟩
      · exact h.sound.oneBack b x w hx hback
      · exact absurd hback (hno w)
    have hkmem := h.course.mem_of_steps hdone (by simp) (hk.trans hwa)
    exact hscope ▸ hheld v ((h.drawn_held hf hdone hv hkmem).1 (.inl hk))
  · rcases lasts_snoc hlast with rfl | ⟨hlast, hpast⟩
    · -- the text of an aggregation is the variable that it makes
      obtain ⟨hold, _⟩ := h.holds_of_bound hmade hb rfl
      have hhead := h.head_of_draws hv hb hold
      rw [hmade.slots h.sound] at hhead
      simp_all [Statement.outputs]
    · have hmw := hpast w ⟨e, hmade.mem, hsrc, hmade.dst, _, _, _, _, hmade.label⟩
      exact hscope ▸ hheld v ((h.drawn_held hf hdone hv hlast.mem).1 (.inr ⟨m, hmw, hc⟩))

variable (hin : p.InScope (pre ++ [a]) a) (hno : ∀ t, ¬ p.graph.Back a t)

include hin hno

lemma reads_inScope (hmade : p.MadeBy b e s) (hsrc : e.src = a) {t : String} (ht : .text t ∈ s.inputs)
    (hv : p.Reads e t v) : v ∈ p.scopeAfter (pre ++ [a]) := by
  have hb : b ∈ order := by simp [heq]
  have hrest : p.RestsAt a a := .inr ⟨rfl, hno⟩
  rcases hv with ⟨k, hk, hdraws⟩ | ⟨_, hbare⟩
  · rcases hk.1 with rfl | hneeds
    · exact hin.above a hrest _ v (hsrc ▸ .refl) hdraws
    · rw [hmade.dst] at hneeds
      exact hin.available hrest (hf.depends pre a b post heq hstep k hneeds) hdraws
  · exact absurd hbare (h.not_bare hmade.mem hmade.label (hmade.dst ▸ hb) ht)

/-- After a step that does not aggregate, the variables in its text are in scope. -/
lemma draws_step (hmade : p.MadeBy b e s) (hsrc : e.src = a) (hs : ∀ i w t n o, s ≠ .aggregate i w t n o)
    (hv : p.Draws b v) : v ∈ p.scopeAfter (pre ++ [a] ++ [b]) := by
  have hb : b ∈ order := by simp [heq]
  rw [h.scopeAfter_step hmade hsrc, mem_bring hs]
  obtain ⟨b', hb', hv'⟩ : ∃ b', b' = b ∧ p.Draws b' v := ⟨b, rfl, hv⟩
  cases hv' with
  | «variable» he hl hbound =>
    subst hb'
    obtain ⟨rfl, rfl⟩ := hmade.unique h.sound (h.madeBy he hl hb)
    exact .inr (h.orderly.bound _ he hb _ hl v hbound).1
  | through he hl ht hk hdraws =>
    subst hb'
    obtain ⟨rfl, rfl⟩ := hmade.unique h.sound (h.madeBy he hl hb)
    exact .inl (h.reads_inScope hf heq hstep hin hno hmade hsrc (Statement.passesOn_subset _ ht) (.inl ⟨_, hk, hdraws⟩))
  | bare he hl ht hbare =>
    subst hb'
    exact absurd hbare (h.not_bare he hl hb (Statement.passesOn_subset _ ht))

lemma step_inScope : p.InScope (pre ++ [a] ++ [b]) b := by
  obtain ⟨e, s, hmade, hsrc⟩ := h.sound.madeBy hstep
  by_cases hs : ∃ i w t n o, s = .aggregate i w t n o
  · obtain ⟨i, w, t, n, o, rfl⟩ := hs
    exact h.step_aggregate hf heq hstep hmade hsrc
  · have hs : ∀ i w t n o, s ≠ .aggregate i w t n o := fun i w t n o hs' => hs ⟨i, w, t, n, o, hs'⟩
    have hkeep : ∀ {v}, v ∈ p.scopeAfter (pre ++ [a]) → v ∈ p.scopeAfter (pre ++ [a] ++ [b]) := fun hv => by
      rw [h.scopeAfter_step hmade hsrc, mem_bring hs]
      exact .inl hv
    have habove : ∀ k v, ReflTransGen p.graph.Step k a → p.Draws k v → v ∈ p.scopeAfter (pre ++ [a] ++ [b]) :=
      fun k v hk hv => hkeep (hin.above a (.inr ⟨rfl, hno⟩) k v hk hv)
    refine ⟨fun x hx k v hk hv => ?_, fun m k v hc hlast hv => ?_⟩
    · rcases hx with hx | ⟨rfl, _⟩
      · obtain ⟨y, hxy, hyb⟩ := TransGen.tail'_iff.mp (h.up b x hx)
        rw [← h.sound.parent hstep hyb] at hxy
        exact habove k v (hk.trans hxy) hv
      · rcases ReflTransGen.cases_tail hk with rfl | ⟨y, hky, hyb⟩
        · exact h.draws_step hf heq hstep hin hno hmade hsrc hs hv
        · rw [← h.sound.parent hstep hyb] at hky
          exact habove k v hky hv
    · rcases lasts_snoc hlast with rfl | ⟨hlast, _⟩
      · exact h.draws_step hf heq hstep hin hno hmade hsrc hs hv
      · exact hkeep (hin.lasting m k v hc hlast hv)

end Step

/-- After every node of the walk, the variables that can be used are in scope. -/
lemma inScope {done rest : List Nat} {c : Nat} (heq : order = done ++ c :: rest) : p.InScope (done ++ [c]) c := by
  induction done using List.reverseRecOn generalizing c rest with
  | nil =>
    -- nothing leads to where the walk begins, so there is no text
    have hstart := h.course.start c (by simp [heq])
    have hnone : ∀ k v, p.Draws k v → k ≠ c := by
      rintro k v hv rfl
      cases hv with
      | «variable» he hl | through he hl | bare he hl => exact hstart _ (h.sound.forward_of_label he hl)
    have htop : ∀ k, ReflTransGen p.graph.Step k c → k = c := by
      intro k hk
      rcases ReflTransGen.cases_tail hk with rfl | ⟨y, _, hyc⟩
      · rfl
      · exact absurd hyc.forward (hstart y)
    refine ⟨fun x hx k v hk hv => ?_, fun m k v _ hlast hv => ?_⟩
    · rcases hx with hx | ⟨rfl, _⟩
      · obtain ⟨y, _, hyc⟩ := TransGen.tail'_iff.mp (h.up c x hx)
        exact absurd hyc.forward (hstart y)
      · exact absurd (htop k hk) (hnone k v hv)
    · exact absurd (by simpa using hlast.mem) (hnone k v hv)
  | append_singleton pre a ih =>
    have heq' : order = pre ++ a :: c :: rest := by simpa using heq
    have hin := ih heq'
    rcases h.course.moves pre a c rest heq' with ⟨hstep, hno⟩ | hback
    · exact h.step_inScope hf heq' hstep hin hno
    · exact h.back_inScope heq' hin hback

lemma mentioned (heq : order = pre ++ a :: b :: post) (hv : p.Mentions (pre ++ [a]) a b v) :
    v ∈ p.scopeAfter (pre ++ [a]) := by
  have hin := h.inScope hf heq
  obtain ⟨e, he, hsrc, hdst, s, hl, hv⟩ := hv
  rcases h.course.moves pre a b post heq with ⟨hstep, hno⟩ | hback
  · have hmade : p.MadeBy b e s := hdst ▸ h.madeBy he hl (by simp [hdst, heq])
    rcases hv with ⟨t, ht, hv⟩ | hkeeps
    · exact h.reads_inScope hf heq hstep hin hno hmade hsrc ht hv
    · cases s with
      | aggregate input w template name out =>
        obtain ⟨ks, hks, k, hk, hhead, hdraws⟩ := hkeeps
        obtain ⟨_, hwa⟩ := h.aggregate_back (by simp [heq]) hstep hmade
        have havail := hf.keeps pre a b post heq e he hsrc hdst input w template name out hl ks hks k hk hhead
        exact hin.available (.inr ⟨rfl, hno⟩) (havail.below hwa) hdraws
      | _ => exact hkeeps.elim
  · rw [h.label_of_back hback he hsrc hdst] at hl
    cases hl

end Passage

/-- The runs of every observation are counted, and the largest count is found. Then its exposures are counted
too, and what some nodes have is added up. -/
def countCalls (template : String) (nodes : List Nat) : List Call :=
  [.start "OB" none, .traversal 1 ["(\x7bin_var\x7d)-[\x7bname\x7d]->(\x7bout_var\x7d:Run)"] "Run" false none none,
    .aggregate 2 1 "count(\x7b0\x7d)" "count" false none none, .aggregate 3 0 "max(\x7b0\x7d)" "max" false none none,
    .traversal 1 ["(\x7bin_var\x7d)-[\x7bname\x7d]->(\x7bout_var\x7d:Exposure)"] "Exposure" false none none,
    .aggregate 5 1 "count(\x7b0\x7d)" "count" false none none, .combination template "+" nodes (some 1) []]

def countArc (src dst : Nat) (node count : String) : Arc Statement :=
  { src, dst, type := .aggregate, single := some false
    label := some (.aggregate (.text node) 1 "count(\x7b0\x7d)" "count" count) }

lemma mentions_count (h : countArc 2 3 "run0" "count0" ∈ p.graph.arcs ∧ countArc 5 6 "exposure0" "count1" ∈ p.graph.arcs ∧
    p.slots 3 = [.text "count0"] ∧ gives (p.keptNodes 1 order) (·.contains 3) = true) : p.Mentions order 5 6 "count0" := by
  obtain ⟨hruns, hexposures, hslots, hkept⟩ := h
  obtain ⟨ks, hks, hmem⟩ := ok_of_gives hkept
  refine ⟨_, hexposures, rfl, rfl, _, rfl, .inr ⟨ks, hks, 3, by simpa using hmem, by simp [hslots], ?_⟩⟩
  exact .«variable» hruns rfl rfl

lemma walked_of_checks (calls : List Call) (r : Nat) (order : List Nat) (h : accepts {} calls ∧ (grow {} calls).graph.climbs ∧
      gives (((grow {} calls).needed r).walk none none) (· == order) ∧
      gives (((grow {} calls).needed r).checkWalk order) (fun _ => true) ∧ (grow {} calls).isOrderly order) :
    Built (grow {} calls) ∧ (grow {} calls).GoesUp ∧ ((grow {} calls).needed r).walk none none = .ok order ∧
      ((grow {} calls).needed r).checkWalk order = .ok () ∧ (grow {} calls).Orderly order := by
  obtain ⟨hcalls, hclimbs, hwalk, hcheck, horderly⟩ := h
  have hb : Built (grow {} calls) := Built.empty.grow hcalls
  obtain ⟨o, ho, heq⟩ := ok_of_gives hwalk
  obtain ⟨⟨⟩, hc, _⟩ := ok_of_gives hcheck
  exact ⟨hb, (Digraph.climbs_iff.mp hclimbs).up, eq_of_beq heq ▸ ho, hc, hb.sound.orderly_of_isOrderly horderly⟩

/-- The plan in which the number of runs is used once more, so that the walk counts them again. -/
def recounted : Plan := grow {} (countCalls "\x7b0\x7d + \x7b1\x7d + \x7b2\x7d" [3, 4, 6])

/-- On the walk for a result, the statement from one node to another mentions a variable that is not in scope, although
all aggregations go up, all statements are orderly, no two variables share a name and the lines are written. -/
structure Misses (p : Plan) (r a b : Nat) (v : String) : Prop where
  built : Built p
  up : p.GoesUp
  apart : (p.graph.arcs.filterMap (·.label.bind (·.bound?))).Nodup
  written : (after (lines r) p).1.isOk = true
  walk : ∃ pre post, (p.needed r).walk none none = .ok (pre ++ a :: b :: post) ∧
    (p.needed r).checkWalk (pre ++ a :: b :: post) = .ok () ∧ p.Orderly (pre ++ a :: b :: post) ∧
    p.Mentions (pre ++ [a]) a b v ∧ v ∉ p.scopeAfter (pre ++ [a])

/-- The numbers of runs of observations are looked at with their exposures, and what is made of them is aggregated to the
exposures, from there in two ways to the observations, then over all, and used with the exposures. -/
def passedCalls : List Call :=
  (countCalls "" []).take 3 ++ [.traversal 1 ["(\x7bin_var\x7d)-[\x7bname\x7d]->(\x7bout_var\x7d:Exposure)"] "Exposure" false none none,
    .combination "\x7b0\x7d + 1" "+" [3] (some 4) [], .aggregate 5 4 "max(\x7b0\x7d)" "max" false none none,
    .operation 6 "\x7b0\x7d + 1" "+" [], .aggregate 7 1 "max(\x7b0\x7d)" "max" false none none,
    .aggregate 6 1 "max(\x7b0\x7d)" "max" false none none, .combination "\x7b0\x7d + \x7b1\x7d" "+" [8, 9] (some 1) [],
    .aggregate 10 0 "max(\x7b0\x7d)" "max" false none none, .combination "\x7b0\x7d + 1" "+" [11] (some 4) []]

end SurveyGraph.Plan
