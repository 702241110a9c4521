import SurveyGraph.Proofs.NamedLists
import SurveyGraph.Proofs.Reach
import SurveyGraph.Proofs.WriteCourse
/-!
# What an instance is given

An instance is created from named values, one name of its class after another. What it has been given follows from the values
alone (`Filling.filled`): a relative stands among the parents or the children under the name it was given under, unless that
is also the name of a factor.
-/
open Relation List

namespace SurveyGraph.Write

variable {α β : Type} {o p q : Program} {spec : Specification} {f f' : Filling} {name k : String} {i : Instance}
  (isParent : Bool) {relative : Option Member} {isMany isGiven : Bool}

lemma kept_of_ok {m : WriteM α} {a : α} (hm : Keeps Grows m) (h : after m p = (.ok a, q)) : Kept p q :=
  kept_of_grows ((hm p).of_ok h).1

lemma after_refuseIf_ok {ε : Type} [Cause ε] {c : Prop} [Decidable c] {e : ε} {m : PUnit → WriteM α} {a : α}
    (h : after (if c then refuse e >>= m else m ⟨⟩) p = (.ok a, q)) : ¬c ∧ after (m ⟨⟩) p = (.ok a, q) := by
  split at h
  · cases h
  · exact ⟨‹_›, h⟩

/-! ## One name after another -/

/-- Whether a member stands for a list of instances. -/
def isMultiple : Member → Bool
  | .rel r => r.kind == .multiple
  | _ => false

/-- The value under a name as a list of relatives. -/
def asList (m : Member) (value : Thing) : Thing := if isMultiple m then value else .list [value]

/-- The relatives given under a name, with their relation; a factor is none. -/
def relativesGiven (spec : Specification) (named : List (String × Thing)) (k : String) : Option (Thing × Relation) :=
  if (spec.factors.lookup k).isSome then none
  else (relativeUnder spec k).bind fun m => (relationOf m).bind fun r => (named.lookup k).map fun value => (asList m value, r)

/-- What an instance has been given, with one more name. -/
def Filling.filled (spec : Specification) (f : Filling) (name : String) : Filling :=
  match f.rest.lookup name with
  | none => f
  | some value =>
    match relativesGiven spec f.rest name with
    | none => f.use name value
    | some (many, r) => (f.use name value).relate spec name many r

lemma expected_skipped (h : p.expected i name relative isGiven = .ok (true, isMany)) : isGiven = false := by
  unfold Program.expected at h
  split at h
  · rename_i r
    split at h
    · cases h
    · rename_i hnot
      cases isGiven with
      | false => rfl
      | true => simp_all
  · cases h

lemma expected_multiple {isSkipped : Bool}
    (h : p.expected i name relative isGiven = .ok (isSkipped, isMany)) : isMany = (relative.map isMultiple).getD false := by
  unfold Program.expected at h
  split at h
  · split at h
    · cases h
    · cases h
      rfl
  · rename_i hnot
    cases h
    cases relative with
    | none => rfl
    | some m =>
      cases m with
      | rel r => exact absurd rfl (hnot r)
      | cls c | name s => rfl

lemma fillValue_ok {c : Class} {value : Thing} (hgiven : f.rest.lookup name = some value)
    (hmany : isMany = ((relativeUnder spec name).map isMultiple).getD false)
    (h : after (fillValue c spec true f name value isMany) p = (.ok f', q)) : f' = f.filled spec name := by
  unfold fillValue at h
  simp only [Filling.filled, relativesGiven, hgiven]
  cases hm : relativeUnder spec name with
  | none =>
    rw [hm] at h
    cases h
    simp
  | some m =>
    rw [hm] at h hmany
    dsimp only [Option.bind_some] at h ⊢
    cases hr : relationOf m with
    | none =>
      rw [hr] at h
      cases h
      simp
    | some r =>
      rw [hr] at h
      obtain ⟨_, q', -, h⟩ := after_bind_ok h
      cases h
      cases (spec.factors.lookup name).isSome with
      | true => rfl
      | false => simp [hmany, asList]

lemma fillName_ok (h : after (fillName i spec true f name) p = (.ok f', q)) : f' = f.filled spec name := by
  unfold fillName at h
  rw [after_get_bind] at h
  obtain ⟨⟨isSkipped, isMany⟩, hexp, h⟩ := after_lift_ok h
  cases isSkipped with
  | true =>
    have hnone : f.rest.lookup name = none := by simpa using expected_skipped hexp
    cases h
    simp [Filling.filled, hnone]
  | false =>
    obtain ⟨value, hvalue, h⟩ := after_lift_ok h
    have hgiven : f.rest.lookup name = some value := by
      unfold givenOr at hvalue
      split at hvalue
      · cases hvalue
        assumption
      · cases hvalue
    split at h
    · obtain ⟨_, -, h⟩ := after_lift_ok h
      exact fillValue_ok hgiven (expected_multiple hexp) h
    · exact fillValue_ok hgiven (expected_multiple hexp) h

lemma fillNames_ok : ∀ {names : List String} {f : Filling} {p : Program},
    after (names.foldlM (fillName i spec true) f) p = (.ok f', q) → f' = names.foldl (Filling.filled spec) f
  | [], f, p, h => by
    cases h
    rfl
  | name :: names, f, p, h => by
    obtain ⟨f₁, p₁, h₁, h⟩ := after_bind_ok h
    rw [foldl_cons, ← fillName_ok h₁]
    exact fillNames_ok h

/-! ## What is there under a name -/

/-- The relatives on one side of an instance. -/
def Filling.side (f : Filling) (isParent : Bool) : List (String × Thing × Relation) := if isParent then f.parents else f.children

/-- Whether a class asks for relatives under a name on one side. -/
def asksFor (spec : Specification) (isParent : Bool) (k : String) : Bool :=
  ((if isParent then spec.parents else spec.children).lookup k).isSome

lemma filled_rest (name : String) : (f.filled spec name).rest = f.rest.filter (·.1 != name) := by
  unfold Filling.filled
  split
  · rename_i h
    exact (filter_of_lookup_none h).symm
  · split <;> rfl

lemma filled_fields (name : String) : (f.filled spec name).fields = match f.rest.lookup name with
    | some value => setNamed name value f.fields
    | none => f.fields := by
  unfold Filling.filled
  cases f.rest.lookup name with
  | none => rfl
  | some value =>
    dsimp only
    split <;> rfl

lemma relate_side (value : Thing) (r : Relation) : (f.relate spec name value r).side isParent =
    if asksFor spec isParent name then setNamed name (value, r) (f.side isParent) else f.side isParent := by
  cases isParent <;> rfl

lemma filled_side (name : String) (isParent : Bool) : (f.filled spec name).side isParent =
    match relativesGiven spec f.rest name with
    | some x => if asksFor spec isParent name then setNamed name x (f.side isParent) else f.side isParent
    | none => f.side isParent := by
  have huse (value : Thing) : (f.use name value).side isParent = f.side isParent := rfl
  unfold Filling.filled
  cases hl : f.rest.lookup name with
  | none =>
    have hnone : relativesGiven spec f.rest name = none := by
      unfold relativesGiven
      rw [hl]
      cases relativeUnder spec name with
      | none => simp
      | some m => cases h : relationOf m <;> simp
    rw [hnone]
  | some value =>
    cases relativesGiven spec f.rest name with
    | none => exact huse value
    | some x => exact relate_side isParent x.1 x.2

lemma relativesGiven_congr {named named' : List (String × Thing)} (h : named'.lookup k = named.lookup k) :
    relativesGiven spec named' k = relativesGiven spec named k := by
  unfold relativesGiven
  rw [h]

lemma foldl_filled_rest : ∀ {names : List String} {f : Filling},
    (names.foldl (Filling.filled spec) f).rest = f.rest.filter (fun e => !names.contains e.1)
  | [], f => by simp
  | name :: names, f => by
    rw [foldl_cons, foldl_filled_rest, filled_rest, filter_filter]
    congr 1
    funext e
    by_cases h : e.1 = name <;> simp [h]

lemma foldl_filled_fields : ∀ {names : List String} {f : Filling}, names.Nodup → ∀ k,
    (names.foldl (Filling.filled spec) f).fields.lookup k =
      if k ∈ names then (f.rest.lookup k).or (f.fields.lookup k) else f.fields.lookup k
  | [], f, _, k => by simp
  | name :: names, f, hnd, k => by
    obtain ⟨hn, hnames⟩ := nodup_cons.mp hnd
    rw [foldl_cons, foldl_filled_fields hnames, filled_rest, filled_fields]
    by_cases hk : k = name
    · subst hk
      rw [if_neg hn]
      cases hl : f.rest.lookup k with
      | none => simp
      | some value => simp [lookup_setNamed]
    · rw [lookup_filter_ne hk]
      cases hl : f.rest.lookup name with
      | none => simp [hk]
      | some value => simp [lookup_setNamed, hk]

lemma foldl_filled_side (isParent : Bool) : ∀ {names : List String} {f : Filling}, names.Nodup → ∀ k,
    ((names.foldl (Filling.filled spec) f).side isParent).lookup k =
      if k ∈ names ∧ asksFor spec isParent k then (relativesGiven spec f.rest k).or ((f.side isParent).lookup k)
      else (f.side isParent).lookup k
  | [], f, _, k => by simp
  | name :: names, f, hnd, k => by
    obtain ⟨hn, hnames⟩ := nodup_cons.mp hnd
    rw [foldl_cons, foldl_filled_side isParent hnames, filled_rest, filled_side]
    by_cases hk : k = name
    · subst hk
      rw [if_neg (by simp [hn])]
      cases relativesGiven spec f.rest k with
      | none => simp
      | some x => cases h : asksFor spec isParent k <;> simp [lookup_setNamed]
    · rw [relativesGiven_congr (lookup_filter_ne hk _)]
      cases relativesGiven spec f.rest name with
      | none => simp [hk]
      | some x => cases h : asksFor spec isParent name <;> simp [lookup_setNamed, hk]

lemma nodup_foldl_filled (isParent : Bool) : ∀ {names : List String} {f : Filling}, ((f.side isParent).map (·.1)).Nodup →
    (((names.foldl (Filling.filled spec) f).side isParent).map (·.1)).Nodup
  | [], f, h => h
  | name :: names, f, h => by
    rw [foldl_cons]
    refine nodup_foldl_filled isParent ?_
    rw [filled_side]
    split
    · split
      · exact nodup_setNamed h
      · exact h
    · exact h

lemma names_nodup (spec : Specification) : spec.names.Nodup := by
  exact Shortest.nodup_eraseDups _

lemma mem_names_of_asksFor {isParent : Bool} (h : asksFor spec isParent k) : k ∈ spec.names := by
  unfold asksFor at h
  unfold Specification.names
  cases isParent <;> simp_all

lemma given_side {named : List (String × Thing)} (k : String) :
    ((spec.names.foldl (Filling.filled spec) { rest := named }).side isParent).lookup k =
      if asksFor spec isParent k then relativesGiven spec named k else none := by
  rw [foldl_filled_side isParent (names_nodup spec)]
  have hnil : (Filling.side { rest := named } isParent) = [] := by cases isParent <;> rfl
  rw [hnil]
  by_cases h : asksFor spec isParent k
  · simp [h, mem_names_of_asksFor h]
  · simp [h]

lemma nodup_given_side {named : List (String × Thing)} :
    (((spec.names.foldl (Filling.filled spec) { rest := named }).side isParent).map (·.1)).Nodup := by
  refine nodup_foldl_filled isParent ?_
  cases isParent <;> simp [Filling.side]

end SurveyGraph.Write
