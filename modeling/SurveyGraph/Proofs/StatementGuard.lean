import SurveyGraph.Proofs.WriteGrowth
/-!
# The guard of a statement

Before a statement is added, all that it uses is looked up among the variables in reach, a formula by the first variable in
it alone, so that another one may be out of reach (`exists_statement_unguarded`). Where every formula is over one variable, a
statement is added if all variables in what it uses are in reach, and otherwise refused without a change
(`statement_guarded`).
-/
namespace SurveyGraph.Write

variable {p : Program} {s : Statement} {t : Thing} {v w : VarId}

/-- A variable occurs in the text of a thing. A formula stands for its parts, a collection for its members,
and an instance for the identifier it is shown with. -/
inductive Program.Occurs (p : Program) (w : VarId) : Thing → Prop
  | self (h : (p.get w).kind.parent? = none) : Occurs p w (.var w)
  | formula {v u : VarId} {f : Formula} {t : Thing} (hk : (p.get v).kind = .derived f u) (ht : t ∈ f.parts)
    (h : Occurs p w t) : Occurs p w (.var v)
  | list {xs : List Thing} {t : Thing} (ht : t ∈ xs) (h : Occurs p w t) : Occurs p w (.list xs)
  | tuple {xs : List Thing} {t : Thing} (ht : t ∈ xs) (h : Occurs p w t) : Occurs p w (.tuple xs)
  | key {es : List (Thing × Thing)} {e : Thing × Thing} (he : e ∈ es) (h : Occurs p w e.1) : Occurs p w (.dict es)
  | value {es : List (Thing × Thing)} {e : Thing × Thing} (he : e ∈ es) (h : Occurs p w e.2) : Occurs p w (.dict es)
  | identifier {o : InstanceId} (hid : (p.reg.get (p.getInstance o).cls).idname.isSome)
    (h : Occurs p w (p.getInstance o).identifier) : Occurs p w (.object o)

/-- Every formula is reached by one earlier variable, in which all that occurs in it occurs. No formula is in
reach by itself. -/
structure Program.Single (p : Program) : Prop where
  parent : ∀ v f u, (p.get v).kind = .derived f u → f.parent? = some u ∧ u < v
  only : ∀ v f u, (p.get v).kind = .derived f u → ∀ t ∈ f.parts, ∀ w, p.Occurs w t → p.Occurs w (.var u)
  reach : ∀ v, p.inReach v → (p.get v).kind.parent? = none

lemma Formula.mem_parts_of_parent? {f : Formula} (h : f.parent? = some v) : .var v ∈ f.parts := by
  obtain ⟨t, ht, htv⟩ := List.exists_of_findSome?_eq_some h
  cases t with
  | var u =>
    cases htv
    exact ht
  | _ => cases htv

lemma Program.Single.occurs_iff (h : p.Single) : p.Occurs w (.var v) ↔ match (p.get v).kind.parent? with
    | none => w = v
    | some u => p.Occurs w (.var u) := by
  cases hk : (p.get v).kind with
  | derived f u =>
    have hpart := Formula.mem_parts_of_parent? (h.parent v f u hk).1
    refine ⟨fun hw => ?_, fun hw => .formula hk hpart hw⟩
    cases hw with
    | self hnone => rw [hk] at hnone; cases hnone
    | formula hk' ht hw =>
      rw [hk] at hk'
      cases hk'
      exact h.only v f u hk _ ht w hw
  | _ =>
    have hnone : (p.get v).kind.parent? = none := by rw [hk]; rfl
    refine ⟨fun hw => ?_, ?_⟩
    · cases hw with
      | self => rfl
      | formula hk' => rw [hk] at hk'; cases hk'
    · rintro rfl
      exact .self hnone

lemma Program.Single.isAccessible_iff (h : p.Single) : p.isAccessible (.var v) ↔ ∀ w, p.Occurs w (.var v) → p.inReach w := by
  constructor
  · intro ha
    refine Program.isAccessible_induction (P := fun v => ∀ w, p.Occurs w (.var v) → p.inReach w) ?_ ?_ ha
    · intro v hv w hw
      rw [h.occurs_iff, h.reach v hv] at hw
      exact hw ▸ hv
    · intro v u hu ih w hw
      rw [h.occurs_iff, hu] at hw
      exact ih w hw
  · -- a formula is reached by an earlier variable, so the number of the variable bounds the search
    have hgen : ∀ (v : VarId) (fuel : Nat), (v < p.vars.size → v < fuel) → 0 < fuel →
        (∀ w, p.Occurs w (.var v) → p.inReach w) → p.isAccessibleWithin fuel v := by
      intro v
      induction v using Nat.strongRecOn with
      | ind v ih =>
        intro fuel hlt hpos hall
        obtain ⟨fuel, rfl⟩ := Nat.exists_eq_add_one.mpr hpos
        unfold Program.isAccessibleWithin
        simp only [h.occurs_iff (v := v)] at hall
        cases hk : (p.get v).kind.parent? with
        | none =>
          rw [hk] at hall
          rw [hall v rfl, Bool.true_or]
        | some u =>
          rw [hk] at hall
          obtain ⟨f, hf⟩ := VarKind.eq_derived hk
          have huv := (h.parent v f u hf).2
          have hufuel : u < fuel := huv.trans_le (Nat.le_of_lt_succ (hlt (Program.lt_of_parent hk)))
          exact Bool.or_eq_true_iff.mpr (.inr (ih u huv fuel (fun _ => hufuel) (Nat.zero_lt_of_lt hufuel) hall))
    have hdepth : p.vars.size < p.depth := by unfold Program.depth; omega
    exact hgen v p.depth (fun hv => hv.trans hdepth) (Nat.zero_lt_of_lt hdepth)

/-- A refused statement changes nothing. Where every formula is over one variable, a statement is added if all
that occurs in its inputs is in reach, and else refused. -/
theorem statement_guarded (p : Program) (s : Statement) : (∀ e q, after (addStatement s) p = (.error e, q) → q = p) ∧
    (p.Single → (∀ t ∈ s.inputs, ∃ v, t = .var v) →
      (∀ t ∈ s.inputs, ∀ w, p.Occurs w t → p.inReach w) ∧ after (addStatement s) p = (.ok (), p.withStatement s) ∨
      ∃ t ∈ s.inputs, (∃ w, p.Occurs w t ∧ ¬ p.inReach w) ∧
        after (addStatement s) p = (refuse (WriteCause.notAccessible (p.text t)), p)) := by
  rcases addStatement_cases p s with ⟨e, he, t, ht, hnot, hrefused⟩ | ⟨hall, hok⟩
  · refine ⟨fun _ _ h => (Prod.mk.inj (h.symm.trans he)).2, fun hsingle hvars => .inr ⟨t, ht, ?_, ?_⟩⟩
    all_goals obtain ⟨v, rfl⟩ := hvars t ht
    · rw [hsingle.isAccessible_iff] at hnot
      push Not at hnot
      exact hnot
    · unfold Program.require at hrefused
      rw [if_neg hnot] at hrefused
      rw [he, ← hrefused]
  · refine ⟨fun _ _ h => (nomatch h.symm.trans hok), fun hsingle hvars => .inl ⟨fun t ht => ?_, hok⟩⟩
    obtain ⟨v, rfl⟩ := hvars t ht
    exact hsingle.isAccessible_iff.mp (hall _ ht)

/-- A list is sent and unwound in a block, which is closed. -/
def unwound : Program := (after (do
  let d ← newData (.list [.plain (.int 1), .plain (.int 2)])
  closeBlock (← openBlock [.var d] false true)) (.start default (.text "ignore"))).2

def withFormula (f : Formula) : Program := (after (newDerived f) unwound).2

def formulaNamed : Statement := { inputs := [.var 4], outputs := [], form := .rename }

lemma size_unwound : unwound.vars.size = 4 := by decide +kernel

lemma withFormula_eq {f : Formula} {u : VarId} (h : f.parent? = some u) : withFormula f =
    { unwound with vars := unwound.vars.push { kind := .derived f u, hint := .text "variable" } } := by
  unfold withFormula newDerived
  rw [h]
  rfl

lemma kind_withFormula {f g : Formula} {u w : VarId} (h : f.parent? = some u) :
    ((withFormula f).get v).kind = .derived g w ↔ v = 4 ∧ g = f ∧ w = u := by
  have hplain : ∀ v < 4, (unwound.get v).kind.parent? = none := by decide +kernel
  have hlast : ((withFormula f).get 4).kind = .derived f u := by
    rw [withFormula_eq h, ← size_unwound, Program.get_push_size]
  constructor
  · intro hk
    have hparent : ((withFormula f).get v).kind.parent? = some w := congrArg VarKind.parent? hk
    have hlt := Program.lt_of_parent hparent
    rw [withFormula_eq h, Array.size_push, size_unwound] at hlt
    rcases Nat.lt_or_ge v 4 with hv | hv
    · rw [withFormula_eq h, Program.get_push _ (size_unwound ▸ hv), hplain v hv] at hparent
      cases hparent
    · obtain rfl : v = 4 := Nat.le_antisymm (Nat.le_of_lt_succ hlt) hv
      rw [hlast] at hk
      cases hk
      exact ⟨rfl, rfl, rfl⟩
  · rintro ⟨rfl, rfl, rfl⟩
    exact hlast

lemma member_withFormula {f : Formula} {u : VarId} (h : f.parent? = some u) :
    ((withFormula f).get 3).kind.parent? = none ∧ (withFormula f).inReach 3 = false := by
  rw [withFormula_eq h, Program.get_push _ (by rw [size_unwound]; decide)]
  have hout : unwound.inReach 3 = false := by decide +kernel
  exact ⟨by decide +kernel, hout⟩

theorem statement_guarded_closed : (withFormula (.asText (.var 3))).Single ∧
    after (addStatement formulaNamed) (withFormula (.asText (.var 3))) =
      (refuse (WriteCause.notAccessible "toStringOrNull(<object>)"), withFormula (.asText (.var 3))) := by
  have hparent : (Formula.asText (.var 3)).parent? = some 3 := rfl
  have hsingle : (withFormula (.asText (.var 3))).Single := by
    refine ⟨fun v f u hk => ?_, fun v f u hk t ht w hw => ?_, fun v hv => ?_⟩
    · obtain ⟨rfl, rfl, rfl⟩ := (kind_withFormula hparent).mp hk
      exact ⟨rfl, by decide⟩
    · obtain ⟨rfl, rfl, rfl⟩ := (kind_withFormula hparent).mp hk
      exact List.mem_singleton.mp ht ▸ hw
    · by_contra hne
      obtain ⟨u, hu⟩ := Option.ne_none_iff_exists'.mp hne
      obtain ⟨f, hf⟩ := VarKind.eq_derived hu
      obtain ⟨rfl, -⟩ := (kind_withFormula hparent).mp hf
      exact absurd hv (by decide +kernel)
  refine ⟨hsingle, ?_⟩
  have hvars : ∀ t ∈ formulaNamed.inputs, ∃ v, t = .var v := fun t ht => ⟨4, List.mem_singleton.mp ht⟩
  rcases (statement_guarded _ formulaNamed).2 hsingle hvars with ⟨hall, -⟩ | ⟨t, ht, -, hrun⟩
  · obtain ⟨hplain, hout⟩ := member_withFormula hparent
    have hkind := (kind_withFormula hparent).mpr ⟨rfl, rfl, rfl⟩
    have hin := hall (.var 4) List.mem_cons_self 3 (.formula hkind List.mem_cons_self (.self hplain))
    exact absurd hin (by rw [hout]; decide)
  · cases List.mem_singleton.mp ht
    rw [hrun, show (withFormula (.asText (.var 3))).text (.var 4) = "toStringOrNull(<object>)" by decide +kernel]

/-- The time can be added to a variable of a closed block, though that is out of reach. -/
theorem exists_statement_unguarded : ∃ p : Program, p = withFormula (.arithmetic "+" (.var Program.time) (.var 3)) ∧
    p.Occurs 3 (.var 4) ∧ p.inReach 3 = false ∧
    after (addStatement formulaNamed) p = (.ok (), p.withStatement formulaNamed) := by
  have hparent : (Formula.arithmetic "+" (.var Program.time) (.var 3)).parent? = some Program.time := rfl
  obtain ⟨hplain, hout⟩ := member_withFormula hparent
  have hkind := (kind_withFormula hparent).mpr ⟨rfl, rfl, rfl⟩
  have hused : (withFormula (.arithmetic "+" (.var Program.time) (.var 3))).isAccessible (.var 4) = true := by decide +kernel
  refine ⟨_, rfl, .formula hkind (List.mem_cons_of_mem _ List.mem_cons_self) (.self hplain), hout, ?_⟩
  rcases addStatement_cases _ formulaNamed with ⟨_, _, t, ht, hnot, -⟩ | ⟨-, hok⟩
  · exact absurd hused (List.mem_singleton.mp ht ▸ hnot)
  · exact hok

end SurveyGraph.Write
