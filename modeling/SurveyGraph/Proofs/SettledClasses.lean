import SurveyGraph.Proofs.WriteCourse
/-!
# Classes whose relations are resolved

Resolving the relations that wait for a class changes nothing but the members of classes. A class none of whose members
can be resolved any further looks the same before and after, so it does not matter when the others are resolved.
-/
open List

namespace SurveyGraph.Registry
open Registry

variable {reg reg' : Registry} {c : ClassId}

/-- The same classes, whose members may be others. -/
structure Alike (reg reg' : Registry) : Prop where
  size : reg'.classes.size = reg.classes.size
  get : ∀ c, reg'.get c = { reg.get c with
    parents := (reg'.get c).parents, children := (reg'.get c).children, relativeNames := (reg'.get c).relativeNames }

lemma Alike.refl (reg : Registry) : Alike reg reg := ⟨rfl, fun _ => rfl⟩

lemma Alike.trans {reg'' : Registry} (h : Alike reg reg') (h' : Alike reg' reg'') : Alike reg reg'' where
  size := h'.size.trans h.size
  get c := by rw [h'.get c, h.get c]

section Names

variable (h : Alike reg reg')

include h

lemma Alike.memberName? (m : Member) : reg'.memberName? m = reg.memberName? m := by
  unfold Registry.memberName? relationName?
  cases m with
  | cls c =>
    dsimp only
    rw [h.get c]
  | rel r =>
    cases hi : r.idname with
    | some s => simp [hi]
    | none =>
      cases ht : r.target with
      | cls c =>
        simp only [hi, ht]
        rw [h.get c]
      | awaiting s => simp [hi, ht]
  | name s => rfl

lemma Alike.givenName (m : Member) : reg'.givenName m = reg.givenName m := by
  unfold Registry.givenName
  split
  · split
    · split
      · rw [h.get]
      · rfl
    · rfl
  · rw [h.memberName?]

lemma Alike.underNames (ms : List Member) : reg'.underNames ms = reg.underNames ms := by
  unfold Registry.underNames
  simp only [h.givenName]

lemma Alike.specification (hparents : (reg'.get c).parents = (reg.get c).parents)
    (hchildren : (reg'.get c).children = (reg.get c).children) : reg'.specification c = reg.specification c := by
  have hfactors : (reg'.get c).factors = (reg.get c).factors := by rw [h.get c]
  unfold Registry.specification
  simp only [hparents, hchildren, hfactors, h.underNames]

end Names

/-! ## Resolving -/

lemma get_resolved (reg : Registry) (orphans : List String) (c : ClassId) :
    ({ reg with orphans, classes := reg.classes.map reg.resolveClass } : Registry).get c = reg.resolveClass (reg.get c) := by
  have hroot : rootClass = reg.resolveClass rootClass := rfl
  unfold get
  simp only [Array.getD_eq_getD_getElem?, Array.getElem?_map]
  cases reg.classes[c]? with
  | none => exact hroot
  | some k => rfl

lemma settle_ok (h : reg.settle = .ok reg') : reg.pending = [] ∧ reg' = reg ∨ (∀ s ∈ reg.pending, (reg.find? s).isSome) ∧
      reg' = { reg with orphans := [], classes := reg.classes.map reg.resolveClass } := by
  unfold settle at h
  split at h
  · rename_i hempty
    exact .inl ⟨List.isEmpty_iff.mp hempty, (Except.ok.inj h).symm⟩
  · split at h
    · rename_i hall
      exact .inr ⟨all_eq_true.mp hall, (Except.ok.inj h).symm⟩
    · cases h

lemma settle_alike (h : reg.settle = .ok reg') : Alike reg reg' := by
  rcases settle_ok h with ⟨-, rfl⟩ | ⟨-, rfl⟩
  · exact .refl _
  · exact ⟨by simp, fun c => by rw [get_resolved]; rfl⟩

def waiting (reg : Registry) (c : ClassId) : List String := awaited (reg.get c).parents ++ awaited (reg.get c).children

lemma waiting_subset_pending (c : ClassId) : ∀ s ∈ reg.waiting c, s ∈ reg.pending := by
  intro s hs
  unfold waiting get at hs
  rw [Array.getD_eq_getD_getElem?] at hs
  cases hc : reg.classes[c]? with
  | none => rw [hc] at hs; cases hs
  | some k =>
    rw [hc] at hs
    have hk : k ∈ reg.classes.toList := Array.mem_toList_iff.mpr (Array.mem_of_getElem? hc)
    refine mem_append_right _ (mem_flatMap.mpr ⟨k, hk, ?_⟩)
    exact mem_append.mpr (mem_append.mp hs).symm

lemma map_resolveMember {ms : List Member} (h : ∀ s ∈ awaited ms, reg.find? s = none) : ms.map reg.resolveMember = ms := by
  refine (map_congr_left fun m hm => ?_).trans (map_id ms)
  cases m with
  | cls c | name s => rfl
  | rel r =>
    unfold resolveMember resolveRelation
    cases ht : r.target with
    | cls d => simp [ht]
    | awaiting s =>
      obtain ⟨_, target⟩ := r
      cases ht
      have hs : s ∈ awaited ms := mem_filterMap.mpr ⟨_, hm, rfl⟩
      simp [h s hs]

lemma awaited_map_resolveMember {ms : List Member} (h : ∀ s ∈ awaited ms, (reg.find? s).isSome) :
    awaited (ms.map reg.resolveMember) = [] := by
  refine filterMap_eq_nil_iff.mpr fun m hm => ?_
  obtain ⟨m', hm', rfl⟩ := mem_map.mp hm
  cases m' with
  | cls c | name s => rfl
  | rel r =>
    obtain ⟨_, target⟩ := r
    cases target with
    | cls d => rfl
    | awaiting s =>
      obtain ⟨d, hd⟩ := Option.isSome_iff_exists.mp (h s (mem_filterMap.mpr ⟨_, hm', rfl⟩))
      simp [resolveMember, resolveRelation, hd]

lemma members_of_settle (hwaiting : ∀ s ∈ reg.waiting c, reg.find? s = none) (h : reg.settle = .ok reg') :
    (reg'.get c).parents = (reg.get c).parents ∧ (reg'.get c).children = (reg.get c).children := by
  rcases settle_ok h with ⟨-, rfl⟩ | ⟨-, rfl⟩
  · exact ⟨rfl, rfl⟩
  · rw [get_resolved]
    exact ⟨map_resolveMember fun s hs => hwaiting s (mem_append_left _ hs),
      map_resolveMember fun s hs => hwaiting s (mem_append_right _ hs)⟩

lemma waiting_of_settle (h : reg.settle = .ok reg') (c : ClassId) : reg'.waiting c = [] := by
  rcases settle_ok h with ⟨hnone, rfl⟩ | ⟨hall, rfl⟩
  · refine eq_nil_iff_forall_not_mem.mpr fun s hs => ?_
    have hpending := waiting_subset_pending c s hs
    rw [hnone] at hpending
    cases hpending
  · have hfound (s : String) (hs : s ∈ reg.waiting c) : (reg.find? s).isSome := hall s (waiting_subset_pending c s hs)
    unfold waiting
    rw [get_resolved]
    refine append_eq_nil_iff.mpr ⟨?_, ?_⟩
    · exact awaited_map_resolveMember fun s hs => hfound s (mem_append_left _ hs)
    · exact awaited_map_resolveMember fun s hs => hfound s (mem_append_right _ hs)

end SurveyGraph.Registry

namespace SurveyGraph.Write

open Registry (Alike)

variable {α : Type} {p q : Program} {cls : ClassId}

lemma run_settleRegistry (reg : Registry) : settleRegistry.run.run reg = match reg.settle with
    | .ok reg' => (.ok (), reg')
    | .error e => (.error e, reg) := by
  have hrun : settleRegistry.run.run reg = after (get >>= fun r : Registry => match r.settle with
      | .ok reg' => set reg'
      | .error e => throw e : SchemaM Unit) reg := rfl
  rw [hrun, after_get_bind]
  cases reg.settle <;> rfl

/-- Before an instance is made, its class is resolved as far as possible. -/
lemma settleClass_ok {u : Unit} (h : after (settleClass cls) p = (.ok u, q)) : q = { p with reg := q.reg } ∧
    Alike p.reg q.reg ∧ ∀ s ∈ q.reg.waiting cls, q.reg.find? s = none := by
  unfold settleClass at h
  rw [after_get_bind] at h
  dsimp only at h
  split at h
  · rw [after_onRegistry, run_settleRegistry] at h
    cases hs : p.reg.settle with
    | error e =>
      rw [hs] at h
      cases h
    | ok reg =>
      rw [hs] at h
      cases h
      refine ⟨rfl, Registry.settle_alike hs, fun s hmem => ?_⟩
      rw [Registry.waiting_of_settle hs] at hmem
      cases hmem
  · rename_i hnone
    cases h
    refine ⟨rfl, .refl _, fun s hmem => ?_⟩
    simpa using fun hsome => hnone (any_eq_true.mpr ⟨s, hmem, hsome⟩)

lemma after_askIdentity (looked : Bool) (question : Registry → ClassId → Except Fault α) (reg : Registry) :
    after (askIdentity cls looked question) reg =
      if looked && reg.asksRelations cls then
        match reg.settle with
        | .ok reg' => (question reg' cls, reg')
        | .error e => (.error e, reg)
      else (question reg cls, reg) := by
  -- Without a look at the relations only the question is asked.
  have hanswer (reg : Registry) : after (askIdentity cls false question) reg = (question reg cls, reg) := by
    unfold askIdentity
    simp only [after_get_bind, Bool.false_and, Bool.false_eq_true, if_false]
    cases question reg cls <;> rfl
  unfold askIdentity
  rw [after_get_bind]
  split
  · rw [after_bind, show after settleRegistry reg = _ from run_settleRegistry reg]
    cases reg.settle with
    | error e => rfl
    | ok reg' => exact hanswer reg'
  · exact hanswer reg

lemma askIdentity_ok {looked : Bool} {question : Registry → ClassId → Except Fault α} {a : α}
    (hwaiting : ∀ s ∈ p.reg.waiting cls, p.reg.find? s = none)
    (h : after (onRegistry (askIdentity cls looked question)) p = (.ok a, q)) : q = { p with reg := q.reg } ∧
    Alike p.reg q.reg ∧ (q.reg.get cls).parents = (p.reg.get cls).parents ∧
    (q.reg.get cls).children = (p.reg.get cls).children ∧ question q.reg cls = .ok a := by
  rw [after_onRegistry] at h
  change ((after (askIdentity cls looked question) p.reg).1, { p with reg := (after (askIdentity cls looked question) p.reg).2 })
    = (.ok a, q) at h
  rw [after_askIdentity] at h
  split at h
  · cases hs : p.reg.settle with
    | error e =>
      rw [hs] at h
      cases h
    | ok reg =>
      rw [hs] at h
      obtain ⟨hq, rfl⟩ := Prod.mk.inj h
      obtain ⟨hparents, hchildren⟩ := Registry.members_of_settle hwaiting hs
      exact ⟨rfl, Registry.settle_alike hs, hparents, hchildren, hq⟩
  · obtain ⟨hq, rfl⟩ := Prod.mk.inj h
    exact ⟨rfl, .refl _, rfl, rfl, hq⟩

end SurveyGraph.Write
