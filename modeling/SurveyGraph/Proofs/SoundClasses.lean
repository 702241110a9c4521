import SurveyGraph.Proofs.ClassLinks
import SurveyGraph.Proofs.SettledClasses
/-!
# Classes that are declared

A declaration is accepted only if all members of the class have names, and every name that is to identify is that of a member
or of a factor. Resolving members and declaring further classes never changes these names. So every class of every session is
`Sound`.
-/
open Relation List

namespace SurveyGraph
open Registry

/-! ## Members -/

/-- The classes that a member takes its name or constraints from are among the first `n`. -/
def Member.Within (n : Nat) : Member → Prop
  | .cls c => c < n
  | .rel r => (∀ c, r.target = .cls c → r.idname = none → c < n) ∧ ∀ c, Constraint.cls c ∈ r.constrain → c < n
  | .name _ => True

/-- The class that a member leads to is among the first `n`. -/
def Member.Aims (n : Nat) (m : Member) : Prop := ∀ c, memberClass? m = some c → c < n

/-- A member has a name that does not depend on a class it waits for. -/
def Member.Named : Member → Prop
  | .cls _ => True
  | .rel r => ∀ s, r.target = .awaiting s → r.idname.isSome
  | .name _ => False

lemma Member.Within.mono {m : Member} {n n' : Nat} (h : m.Within n) (hn : n ≤ n') : m.Within n' := by
  cases m with
  | cls c => exact h.trans_le hn
  | rel r => exact ⟨fun c ht hi => (h.1 c ht hi).trans_le hn, fun c hc => (h.2 c hc).trans_le hn⟩
  | name s => trivial

namespace Registry

variable {reg reg' : Registry} {c : ClassId} {m : Member} {n : Nat} {k : Class}

lemma lt_of_find? {name : String} (h : reg.find? name = some c) : c < reg.classes.size := by
  have hmem := mem_of_find?_eq_some h
  exact mem_range.mp (mem_of_mem_drop (mem_reverse.mp hmem))

lemma lt_of_lookup? {name : String} (hpos : 0 < reg.classes.size) (h : reg.lookup? name = some c) :
    c < reg.classes.size := by
  unfold lookup? at h
  split at h
  · rename_i d hd
    cases h
    exact lt_of_find? hd
  · split at h
    · cases h
      exact hpos
    · cases h

lemma memberName?_idname {r : Relation} {s : String} (h : r.idname = some s) : reg.memberName? (.rel r) = some s := by
  unfold memberName? relationName?
  simp [h]

lemma memberName?_congr (hm : m.Within n)
    (hnames : ∀ c < n, (reg'.get c).singularName = (reg.get c).singularName ∧ (reg'.get c).pluralName = (reg.get c).pluralName) :
    reg'.memberName? m = reg.memberName? m := by
  cases m with
  | cls c => exact congrArg some (hnames c hm).1
  | name s => rfl
  | rel r =>
    cases hi : r.idname with
    | some s => rw [memberName?_idname hi, memberName?_idname hi]
    | none =>
      unfold memberName? relationName?
      cases ht : r.target with
      | awaiting s => simp [hi, ht]
      | cls c =>
        obtain ⟨hs, hp⟩ := hnames c (hm.1 c ht hi)
        simp [hi, ht, hs, hp]

/-! ## Resolving members -/

lemma resolveRelation_cases (reg : Registry) (r : Relation) : reg.resolveRelation r = r ∨
    ∃ s c, r.target = .awaiting s ∧ c < reg.classes.size ∧ reg.resolveRelation r = { r with target := .cls c } := by
  unfold resolveRelation
  split
  · rename_i s ht
    split
    · rename_i c hc
      exact .inr ⟨s, c, ht, lt_of_find? hc, rfl⟩
    · exact .inl rfl
  · exact .inl rfl

lemma resolveMember_named (h : m.Named) : (reg.resolveMember m).Named ∧ (m.Within n → (reg.resolveMember m).Within n) ∧
    ∀ reg' : Registry, reg'.memberName? (reg.resolveMember m) = reg'.memberName? m := by
  cases m with
  | cls c => exact ⟨trivial, id, fun _ => rfl⟩
  | name s => exact h.elim
  | rel r =>
    unfold resolveMember
    dsimp only
    rcases reg.resolveRelation_cases r with heq | ⟨s, c, ht, -, heq⟩
    · rw [heq]
      exact ⟨h, id, fun _ => rfl⟩
    · obtain ⟨i, hi⟩ := Option.isSome_iff_exists.mp (h s ht)
      have hi' : ({ r with target := .cls c } : Relation).idname = some i := hi
      rw [heq]
      refine ⟨fun _ hs => (nomatch hs), fun hw => ⟨fun d _ hnone => ?_, hw.2⟩, fun reg' => ?_⟩
      · rw [hi'] at hnone
        cases hnone
      · rw [memberName?_idname hi', memberName?_idname hi]

/-- While members are gone through, names are waited for and members resolved. -/
inductive Settles : Registry → Registry → Prop
  | waits (reg : Registry) (orphans : List String) : Settles reg { reg with orphans }
  | resolves (reg : Registry) (orphans : List String) :
    Settles reg { reg with orphans, classes := reg.classes.map reg.resolveClass }

lemma Settles.alike (h : Settles reg reg') : Alike reg reg' := by
  cases h with
  | waits orphans => exact ⟨rfl, fun _ => rfl⟩
  | resolves orphans => exact ⟨by simp, fun c => by rw [get_resolved]; rfl⟩

lemma alike_of_settles (h : ReflTransGen Settles reg reg') : Alike reg reg' := by
  induction h with
  | refl => exact .refl _
  | tail _ h ih => exact ih.trans h.alike

/-! ## Classes that are declared -/

def namesOf (reg : Registry) (k : Class) : List String := (k.parents ++ k.children).filterMap reg.memberName?

/-- What an accepted declaration says: its members have names, which the first `n` classes decide, and what
identifies an instance is known, as is what is indexed. -/
structure Sound (reg : Registry) (n : Nat) (k : Class) : Prop where
  members : ∀ m ∈ k.parents ++ k.children, m.Within n ∧ m.Named
  identity : ∀ name ∈ k.identity.getD [], name ∈ reg.namesOf k ∨ name ∈ k.factors
  alone : k.idname = none ∨ k.identity = none
  indexes : ∀ s, some s ∈ k.indexes → s ∈ k.factors

lemma sound_remains (reg : Registry) (n : Nat) (k : Class) : Sound reg n k.remains :=
  ⟨fun _ hm => (nomatch hm), fun _ hname => (nomatch hname), .inl rfl, fun _ hs => (nomatch hs)⟩

lemma sound_root (reg : Registry) (n : Nat) : Sound reg n rootClass := sound_remains reg n rootClass

lemma Sound.mono (h : Sound reg n k) {n' : Nat} (hn : n ≤ n') : Sound reg n' k :=
  ⟨fun m hm => ⟨(h.members m hm).1.mono hn, (h.members m hm).2⟩, h.identity, h.alone, h.indexes⟩

lemma namesOf_resolveClass (h : Sound reg n k) (reg' : Registry) : reg'.namesOf (reg.resolveClass k) = reg'.namesOf k := by
  unfold namesOf resolveClass
  rw [← map_append, filterMap_map]
  exact filterMap_congr fun m hm => (resolveMember_named (n := n) (h.members m hm).2).2.2 reg'

lemma Sound.resolveClass (h : Sound reg n k) : Sound reg n (reg.resolveClass k) where
  members m hm := by
    have hmem : m ∈ (k.parents ++ k.children).map reg.resolveMember := by
      rw [map_append]
      exact hm
    obtain ⟨m', hm', rfl⟩ := mem_map.mp hmem
    obtain ⟨hwithin, hnamed⟩ := h.members m' hm'
    obtain ⟨hnamed', hwithin', -⟩ := resolveMember_named hnamed
    exact ⟨hwithin' hwithin, hnamed'⟩
  identity name hname := by
    rw [namesOf_resolveClass h reg]
    exact h.identity name hname
  alone := h.alone
  indexes := h.indexes

lemma Sound.congr (h : Sound reg n k) (hnames : ∀ c < n, (reg'.get c).singularName = (reg.get c).singularName ∧
    (reg'.get c).pluralName = (reg.get c).pluralName) : reg'.namesOf k = reg.namesOf k ∧ Sound reg' n k := by
  have hnamesOf : reg'.namesOf k = reg.namesOf k :=
    filterMap_congr fun m hm => memberName?_congr (h.members m hm).1 hnames
  refine ⟨hnamesOf, h.members, fun name hname => ?_, h.alone, h.indexes⟩
  rw [hnamesOf]
  exact h.identity name hname

/-- While members are resolved, classes stay sound, and members keep their names. -/
lemma Settles.sound (h : Settles reg reg') (hc : Sound reg n (reg.get c)) :
    reg'.namesOf (reg'.get c) = reg.namesOf (reg.get c) ∧ Sound reg' n (reg'.get c) := by
  have hcongr {k : Class} (hk : Sound reg n k) : reg'.namesOf k = reg.namesOf k ∧ Sound reg' n k := by
    refine hk.congr fun c _ => ?_
    rw [h.alike.get c]
    exact ⟨rfl, rfl⟩
  cases h with
  | waits orphans => exact hcongr hc
  | resolves orphans =>
    rw [get_resolved]
    obtain ⟨hnames, hsound⟩ := hcongr hc.resolveClass
    rw [hnames, namesOf_resolveClass hc]
    exact ⟨rfl, hsound⟩

lemma sound_of_settles (h : ReflTransGen Settles reg reg') (hc : Sound reg n (reg.get c)) :
    reg'.namesOf (reg'.get c) = reg.namesOf (reg.get c) ∧ Sound reg' n (reg'.get c) := by
  induction h with
  | refl => exact ⟨rfl, hc⟩
  | tail _ h ih =>
    obtain ⟨hnames, hsound⟩ := h.sound ih.2
    exact ⟨hnames.trans ih.1, hsound⟩

end Registry

/-! ## Going through members -/

namespace Declaration

open Registry (Settles)

variable {reg : Registry} {n : Nat} {self : ClassId}

lemma leads_settleRegistry : Leads Settles reg settleRegistry (fun _ _ => True) := by
  unfold Leads
  rw [show after settleRegistry reg = _ from Write.run_settleRegistry reg]
  cases hs : reg.settle with
  | error e => exact ⟨.refl, fun _ _ => trivial⟩
  | ok reg' =>
    refine ⟨?_, fun _ _ => trivial⟩
    rcases settle_ok hs with ⟨-, rfl⟩ | ⟨-, rfl⟩
    · exact .refl
    · exact .single (.resolves reg [])

section Members

variable (hpos : 0 < reg.classes.size)

include hpos

lemma targetOf_ok {v : Value} {c : ClassId} (h : targetOf reg v = .ok (.cls c)) : c < reg.classes.size := by
  unfold targetOf at h
  split at h
  · split at h
    · cases h
    · split at h
      · rename_i hc
        cases h
        exact lt_of_lookup? hpos hc
      · cases h
  · cases h

lemma relationOf_ok {d : RelationDecl} {r : Relation} (h : relationOf reg d = .ok r) :
    (Member.rel r).Within reg.classes.size ∧ (Member.rel r).Aims reg.classes.size := by
  obtain ⟨target, htarget, h⟩ := bind_ok h
  obtain ⟨⟨min, max⟩, -, h⟩ := bind_ok h
  cases h
  refine ⟨⟨fun c hc _ => ?_, fun c hc => ?_⟩, fun c hc => ?_⟩
  · cases hc
    exact targetOf_ok hpos htarget
  rotate_left
  · cases target with
    | cls d =>
      cases hc
      exact targetOf_ok hpos htarget
    | awaiting s => cases hc
  · obtain ⟨s, -, hs⟩ := mem_map.mp hc
    unfold constraintOf at hs
    split at hs
    · rename_i hs'
      cases hs
      exact lt_of_lookup? hpos hs'
    · cases hs

lemma leads_makeRelation (d : RelationDecl) : Leads Settles reg (makeRelation d)
      (fun r _ => (Member.rel r).Within reg.classes.size ∧ (Member.rel r).Aims reg.classes.size) := by
  refine .get_bind (Leads.lift_bind fun r hr => ?_)
  split
  · exact leads_settleRegistry.bind fun _ _ _ _ => .pure (relationOf_ok hpos hr)
  · exact .pure (relationOf_ok hpos hr)

lemma leads_makeMember (d : MemberDecl) :
    Leads Settles reg (makeMember d) (fun m _ => m.Within reg.classes.size ∧ m.Aims reg.classes.size) := by
  cases d with
  | name s =>
    refine .get_bind ?_
    split
    · rename_i c hc
      have hlt := lt_of_lookup? hpos hc
      exact .pure ⟨hlt, fun d hd => Option.some.inj hd ▸ hlt⟩
    · exact .pure ⟨trivial, nofun⟩
  | rel d => exact (leads_makeRelation hpos d).bind fun r _ _ hr => .pure hr

lemma leads_makeMembers (ds : Option (List MemberDecl)) : Leads Settles reg (ds.mapM (·.mapM makeMember))
      (fun ms _ => ∀ m ∈ ms.getD [], m.Within reg.classes.size ∧ m.Aims reg.classes.size) := by
  cases ds with
  | none => exact .pure nofun
  | some ds =>
    refine .bind ?_
      fun ms _ _ hms => .pure hms
    refine Leads.mapM (fun _ _ _ _ h => h) fun d _ t ht => ?_
    have hsize := (alike_of_settles ht).size
    rw [← hsize]
    exact leads_makeMember (hsize ▸ hpos) d

end Members

/-- The members gone through have names, which the first `n` classes decide; the names entered are theirs or
were there before. -/
structure Progress.Fine (reg : Registry) (n : Nat) (before : List String) (p : Progress) : Prop where
  members : ∀ m ∈ p.passed, m.Within n ∧ m.Named
  names : ∀ s ∈ p.names, s ∈ before ∨ s ∈ p.passed.filterMap reg.memberName?

namespace Progress.Fine

variable {reg' : Registry} {before : List String} {p : Progress}

lemma settle (h : p.Fine reg n before) (hsettles : ReflTransGen Settles reg reg') : p.Fine reg' n before where
  members := h.members
  names := by
    rw [show reg'.memberName? = reg.memberName? from funext (alike_of_settles hsettles).memberName?]
    exact h.names

lemma enter {m : Member} {s : String} (h : p.Fine reg n before) (hm : m.Within n) (hnamed : m.Named)
    (hs : reg.memberName? m = some s) : ({ p with passed := p.passed ++ [m] }.enter s).Fine reg n before := by
  have hpassed : ({ p with passed := p.passed ++ [m] }.enter s).passed = p.passed ++ [m] := by
    unfold Progress.enter
    split <;> rfl
  have hnames : ∀ t ∈ ({ p with passed := p.passed ++ [m] }.enter s).names, t ∈ p.names ∨ t = s := by
    unfold Progress.enter
    intro t ht
    split at ht
    · exact .inl ht
    · exact (mem_append.mp ht).imp_right mem_singleton.mp
  constructor
  · rw [hpassed]
    intro m' hm'
    rcases mem_append.mp hm' with hm' | hm'
    · exact h.members m' hm'
    · obtain rfl := mem_singleton.mp hm'
      exact ⟨hm, hnamed⟩
  · rw [hpassed]
    intro t ht
    simp only [filterMap_append, mem_append]
    rcases hnames t ht with ht | rfl
    · exact (h.names t ht).imp_right .inl
    · exact .inr (.inr (mem_filterMap.mpr ⟨m, mem_singleton_self m, hs⟩))

end Progress.Fine

lemma within_bound {r : Relation} (hsize : reg.classes.size ≤ n) (hself : self < n) (h : (Member.rel r).Within n) :
    (Member.rel (bound self reg r)).Within n := by
  unfold bound
  split
  · refine ⟨fun c hc _ => ?_, h.2⟩
    cases hc
    exact hself
  · rcases reg.resolveRelation_cases r with heq | ⟨s, c, -, hc, heq⟩
    · rw [heq]
      exact h
    · rw [heq]
      refine ⟨fun d hd _ => ?_, h.2⟩
      cases hd
      exact hc.trans_le hsize

lemma mem_constraintMembers {r : Relation} {there : List Member} :
    ∀ m ∈ constraintMembers reg there r, ∃ k ∈ r.constrain, m = constraintMember k := by
  refine foldlRecOn (motive := fun acc : List Member => ∀ m ∈ acc, ∃ k ∈ r.constrain, m = constraintMember k) _ _
    (fun m hm => by cases hm) ?_
  intro acc hacc k hk
  split
  · exact hacc
  · intro m hm
    rcases mem_append.mp hm with hm | hm
    · exact hacc m hm
    · exact ⟨k, hk, mem_singleton.mp hm⟩

lemma within_constraintMembers {r : Relation} (h : ∀ c, .cls c ∈ r.constrain → c < n) (there : List Member) :
    ∀ m ∈ constraintMembers reg there r, m.Within n ∧ m.Aims n := by
  intro m hm
  obtain ⟨k, hk, rfl⟩ := mem_constraintMembers m hm
  cases k with
  | cls c => exact ⟨h c hk, fun d hd => Option.some.inj hd ▸ h c hk⟩
  | name s => exact ⟨trivial, nofun⟩

lemma leads_note (t : Target) : Leads Settles reg (note t) (fun _ _ => True) := by
  cases t with
  | cls c => exact leads_settleRegistry
  | awaiting s => exact ⟨.single (.waits reg _), fun _ _ => trivial⟩

lemma leads_passMembers {before : List String} (hself : self < n) : ∀ (fuel : Nat) (ms : List Member) (p : Progress)
    (reg : Registry), reg.classes.size ≤ n → (∀ m ∈ ms, m.Within n) → p.Fine reg n before →
    Leads Settles reg (passMembers self fuel ms p) (fun p' reg' => p'.Fine reg' n before)
  | 0, ms, p, reg, _, _, hp => .pure hp
  | fuel + 1, [], p, reg, _, _, hp => .pure hp
  | fuel + 1, m :: rest, p, reg, hsize, hms, hp => by
    have hm := hms m (.head _)
    have hrest : ∀ m ∈ rest, m.Within n := fun m hm => hms m (.tail _ hm)
    cases m with
    | name s => exact .refuse _
    | cls c =>
      exact leads_passMembers hself fuel rest _ reg hsize hrest (hp.enter hm trivial rfl)
    | rel r =>
      refine .get_bind ?_
      refine (leads_note _).bind fun _ reg' hreg' _ => .get_bind ?_
      have hbound := within_bound hsize hself hm
      have hsize' : reg'.classes.size ≤ n := by
        rw [(alike_of_settles hreg').size]
        exact hsize
      split
      · exact .refuse _
      · rename_i s hs
        have hnamed : (Member.rel (bound self reg r)).Named := by
          intro t ht
          unfold relationName? at hs
          rw [ht] at hs
          cases hi : (bound self reg r).idname with
          | some i => rfl
          | none =>
            rw [hi] at hs
            cases hs
        refine leads_passMembers hself fuel _ _ reg' hsize' (fun m hm => ?_) ((hp.settle hreg').enter hbound hnamed hs)
        rcases mem_append.mp hm with hm | hm
        · exact hrest m hm
        · exact (within_constraintMembers hbound.2 _ m hm).1

lemma requireKnown_ok {k : Class} {names : List String} {name : String} (h : requireKnown k names name = .ok ()) :
    name ∈ names ∨ name ∈ k.factors := by
  unfold requireKnown at h
  split at h
  · cases h
  · rename_i hknown
    simpa [Decidable.or_iff_not_imp_left] using hknown

lemma checkIdentity_ok {k : Class} {names : List String} (h : checkIdentity reg k names = .ok ()) :
    ∀ name ∈ k.identity.getD [], name ∈ names ∨ name ∈ k.factors := by
  obtain ⟨_, hknown, -⟩ := bind_ok h
  exact fun name hname => requireKnown_ok (forM_ok hknown name hname)

lemma checkIdentity_indexes {k : Class} {names : List String} (h : checkIdentity reg k names = .ok ()) {s : String}
    (hs : some s ∈ k.indexes) : s ∈ k.factors := by
  obtain ⟨_, -, h⟩ := bind_ok h
  obtain ⟨_, -, h⟩ := bind_ok h
  obtain ⟨_, h, -⟩ := bind_ok (unless_both_ok (unless_ok h).2)
  refine forIn_ok (P := fun i => ∀ s, i = some s → s ∈ k.factors) (fun i _ hi => ?_) h (some s) hs s rfl
  cases i with
  | none =>
    cases hi
    exact ⟨rfl, fun s hs => by cases hs⟩
  | some t =>
    obtain ⟨ht, hi⟩ := unless_ok hi
    cases hi
    refine ⟨rfl, fun s hs => ?_⟩
    cases hs
    simpa using ht

lemma leads_complete {draft : Class} {children parents : List Member} (hself : self < n) (hsize : reg.classes.size ≤ n)
    (hchildren : ∀ m ∈ children, m.Within n) (hparents : ∀ m ∈ parents, m.Within n)
    (halone : draft.idname = none ∨ draft.identity = none) :
    Leads Settles reg (complete self draft children parents) (fun k reg' => Registry.Sound reg' n k ∧
      k.singularName = draft.singularName ∧ k.pluralName = draft.pluralName) := by
  have hstart (reg : Registry) (names : List String) : Progress.Fine reg n names { names } :=
    ⟨fun _ hm => (nomatch hm), fun _ hs => .inl hs⟩
  refine (leads_passMembers hself _ _ _ _ hsize hchildren (hstart reg [])).bind fun below reg' hreg' hbelow => ?_
  have hsize' : reg'.classes.size ≤ n := by
    rw [(alike_of_settles hreg').size]
    exact hsize
  refine (leads_passMembers hself _ _ _ _ hsize' hparents (hstart reg' below.names)).bind fun above reg'' hreg'' habove => ?_
  have hbelow := hbelow.settle hreg''
  have hfactors {name : String} (h : name ∈ draft.factors) : name ∈ if draft.constants.isEmpty then draft.factors
      else draft.factors ++ draft.constants ++ ["concatenation_constants"] := by
    split
    · exact h
    · exact mem_append_left _ (mem_append_left _ h)
  refine .get_bind (Leads.lift_bind fun _ hcheck =>
    Leads.pure ⟨⟨fun m hm => ?_, fun name hname => ?_, halone, fun s hs => ?_⟩, rfl, rfl⟩)
  · rcases mem_append.mp hm with hm | hm
    · exact habove.members m hm
    · exact hbelow.members m hm
  · rcases checkIdentity_ok hcheck name hname with hknown | hfactor
    · refine .inl ?_
      unfold namesOf
      rw [filterMap_append, mem_append]
      rcases habove.names name hknown with hname | hname
      · rcases hbelow.names name hname with hname | hname
        · cases hname
        · exact .inr hname
      · exact .inl hname
    · exact .inr (hfactors hfactor)
  · exact hfactors (checkIdentity_indexes hcheck hs)

lemma mem_dedupMembers {ms : List Member} : ∀ m ∈ reg.dedupMembers ms, m ∈ ms := by
  intro m hm
  refine foldlRecOn (motive := fun acc : List Member => ∀ m ∈ acc, m ∈ ms) _ _ (fun m hm => by cases hm) ?_ m
    (mem_reverse.mp hm)
  intro acc hacc m hm
  split
  · exact hacc
  · intro m' hm'
    rcases mem_cons.mp hm' with rfl | hm'
    · exact hm
    · exact hacc m' hm'

lemma mem_declared_or {given : Option (List Member)} {rest : List Member} :
    ∀ m ∈ (given.map reg.dedupMembers).getD rest, m ∈ given.getD [] ∨ m ∈ rest := by
  intro m hm
  cases given with
  | none => exact .inr hm
  | some ms => exact .inl (mem_dedupMembers m hm)

lemma draft_ok {d : Declaration} {bases : List ClassId} {parents children produces : Option (List Member)} {draft : Draft}
    (h : d.draft reg bases parents children produces = .ok draft) : draft.cls.bases = bases ∧
    checkNames d draft.cls.singularName draft.cls.pluralName = .ok () ∧ (draft.cls.idname = none ∨ draft.cls.identity = none) ∧
    (draft.cls.parents = [] ∧ draft.cls.children = []) ∧
    ∃ b, draft.parents = (parents.map reg.dedupMembers).getD (reg.get b).parents ∧
      draft.children = (children.map reg.dedupMembers).getD (reg.get b).children := by
  obtain ⟨plural, -, h⟩ := bind_ok h
  obtain ⟨_, hnames, h⟩ := bind_ok h
  split at h
  · dsimp only at h
    obtain ⟨lineage, -, h⟩ := bind_ok h
    obtain ⟨-, h⟩ := unless_ok h
    obtain ⟨hone, h⟩ := unless_ok h
    cases h
    refine ⟨rfl, hnames, ?_, ⟨rfl, rfl⟩, _, rfl, rfl⟩
    simpa [Decidable.or_iff_not_imp_left, Option.isSome_iff_ne_none] using hone
  · cases h

end Declaration

/-! ## Declaring classes -/

namespace Registry

open Declaration

variable {reg reg' : Registry} {c : Nat}

/-- All classes of a registry are sound. -/
structure Sane (reg : Registry) : Prop where
  root : 0 < reg.classes.size
  sound : ∀ c, Sound reg reg.classes.size (reg.get c)

lemma sane_empty : Sane empty where
  root := by decide
  sound c := by
    have hget : empty.get c = rootClass := by
      cases c <;> rfl
    rw [hget]
    exact sound_root _ _

lemma Sane.settles (h : Sane reg) (hsettles : ReflTransGen Settles reg reg') : Sane reg' where
  root := by
    rw [(alike_of_settles hsettles).size]
    exact h.root
  sound c := by
    rw [(alike_of_settles hsettles).size]
    exact (sound_of_settles hsettles (h.sound c)).2

def pushed (reg : Registry) (k : Class) : Registry := { reg with classes := reg.classes.push k }

def popped (reg : Registry) : Registry := { reg with classes := reg.classes.pop }

lemma get_pushed (reg : Registry) (k : Class) (hc : c < reg.classes.size) : (reg.pushed k).get c = reg.get c := by
  unfold get pushed
  simp [Array.getD_eq_getD_getElem?, Array.getElem?_push, Nat.ne_of_lt hc]

lemma get_pushed_self (reg : Registry) (k : Class) : (reg.pushed k).get reg.classes.size = k := by
  unfold get pushed
  simp

lemma get_popped (hc : c < reg.classes.size - 1) : reg.popped.get c = reg.get c := by
  unfold get popped
  have hc' : c < reg.classes.size := by omega
  simp [Array.getD_eq_getD_getElem?, hc, hc']

lemma withoutLast_same (hlast : c + 1 = reg.classes.size) : (reg.withoutLast c).orphans = reg.orphans ∧
    c ≤ (reg.withoutLast c).classes.size ∧ (∀ d < c, (reg.withoutLast c).get d = reg.get d) ∧
    (∀ d, c ≤ d → ((reg.withoutLast c).get d).parents = [] ∧ ((reg.withoutLast c).get d).children = []) ∧
    ∀ d < (reg.withoutLast c).classes.size, d < reg.classes.size ∧ ((reg.withoutLast c).get d).name = (reg.get d).name := by
  have hsize : reg.popped.classes.size = c := by
    change reg.classes.pop.size = c
    rw [Array.size_pop, ← hlast, Nat.add_sub_cancel]
  have hold : ∀ d < c, reg.popped.get d = reg.get d := fun d hd => get_popped (by omega)
  unfold withoutLast
  split
  · have hfinal : reg.withFinal (reg.get c).remains = reg.popped.pushed (reg.get c).remains :=
      congrArg (mk _ · _) take_length
    have hnew : (reg.popped.pushed (reg.get c).remains).classes.size = c + 1 := by
      rw [← hsize]
      exact Array.size_push _
    have hself : (reg.popped.pushed (reg.get c).remains).get c = (reg.get c).remains := by
      rw [← hsize]
      exact get_pushed_self _ _
    have hold' : ∀ d < c, (reg.popped.pushed (reg.get c).remains).get d = reg.get d := fun d hd =>
      (get_pushed _ _ (hsize ▸ hd)).trans (hold d hd)
    rw [hfinal, hnew]
    refine ⟨rfl, Nat.le_succ c, hold', fun d hd => ?_, fun d hd => ⟨by omega, ?_⟩⟩
    · rcases Nat.eq_or_lt_of_le hd with rfl | hd
      · rw [hself]
        exact ⟨rfl, rfl⟩
      · rw [get_of_size_le (by omega)]
        exact ⟨rfl, rfl⟩
    · rcases Nat.lt_succ_iff_lt_or_eq.mp hd with hd | rfl
      · rw [hold' d hd]
      · rw [hself]
        rfl
  · refine ⟨rfl, Nat.le_of_eq hsize.symm, hold, fun d hd => ?_, fun d hd => ?_⟩
    · change (reg.popped.get d).parents = [] ∧ (reg.popped.get d).children = []
      rw [get_of_size_le (by omega)]
      exact ⟨rfl, rfl⟩
    · replace hd : d < c := hsize ▸ hd
      exact ⟨by omega, congrArg Class.name (hold d hd)⟩

section Completed

variable {k final : Class} (hsettles : ReflTransGen Settles (reg.pushed k) reg')

include hsettles

lemma size_of_pushed : reg'.classes.size = reg.classes.size + 1 := by
  rw [(alike_of_settles hsettles).size]
  exact Array.size_push k

lemma size_popped : reg'.popped.classes.size = reg.classes.size := by
  unfold popped
  simp [size_of_pushed hsettles]

lemma get_withFinal (hc : c < reg.classes.size) : (reg'.withFinal final).get c = reg'.get c := by
  have hsize := size_of_pushed hsettles
  have hpopped := size_popped hsettles
  exact (get_pushed reg'.popped final (by omega)).trans (get_popped (by omega))

lemma get_withFinal_self : (reg'.withFinal final).get reg.classes.size = final := by
  rw [← size_popped hsettles]
  exact get_pushed_self reg'.popped final

variable (h : Sane reg)

include h

/-- While a class is under way, the others stay sound and take no name from it. -/
lemma sound_of_pushed (hc : c < reg.classes.size) : Sound reg' reg.classes.size (reg'.get c) := by
  refine (sound_of_settles hsettles ?_).2
  rw [get_pushed reg k hc]
  refine ((h.sound c).congr fun d hd => ?_).2
  rw [get_pushed reg k hd]
  exact ⟨rfl, rfl⟩

lemma sane_popped : Sane reg'.popped := by
  have hsize := size_of_pushed hsettles
  have hsize' := size_popped hsettles
  have hget (d : Nat) (hd : d < reg.classes.size) : reg'.popped.get d = reg'.get d := get_popped (by omega)
  refine ⟨by rw [hsize']; exact h.root, fun (c : Nat) => ?_⟩
  rw [hsize']
  by_cases hc : c < reg.classes.size
  · rw [hget c hc]
    refine ((sound_of_pushed hsettles h hc).congr fun d hd => ?_).2
    rw [hget d hd]
    exact ⟨rfl, rfl⟩
  · rw [get_of_size_le (by omega)]
    exact sound_root _ _

lemma sane_withFinal (hfinal : Sound reg' (reg.classes.size + 1) final) (hsingular : final.singularName = k.singularName)
    (hplural : final.pluralName = k.pluralName) : Sane (reg'.withFinal final) := by
  have hsize' : (reg'.withFinal final).classes.size = reg.classes.size + 1 := by
    unfold withFinal
    simp [size_of_pushed hsettles]
  have hself : (reg'.withFinal final).get reg.classes.size = final := get_withFinal_self hsettles
  have hnames (d : Nat) (hd : d < reg.classes.size + 1) :
      ((reg'.withFinal final).get d).singularName = (reg'.get d).singularName ∧
      ((reg'.withFinal final).get d).pluralName = (reg'.get d).pluralName := by
    rcases Nat.lt_succ_iff_lt_or_eq.mp hd with hd | rfl
    · rw [get_withFinal hsettles hd]
      exact ⟨rfl, rfl⟩
    · rw [hself, (alike_of_settles hsettles).get, get_pushed_self]
      exact ⟨hsingular, hplural⟩
  refine ⟨by omega, fun c => ?_⟩
  rw [hsize']
  rcases Nat.lt_trichotomy c reg.classes.size with hc | rfl | hc
  · rw [get_withFinal hsettles hc]
    exact (((sound_of_pushed hsettles h hc).mono (Nat.le_succ _)).congr hnames).2
  · rw [hself]
    exact (hfinal.congr hnames).2
  · rw [get_of_size_le (by omega)]
    exact sound_root _ _

end Completed

/-- A step that keeps registries sane. -/
def Safe (reg reg' : Registry) : Prop := Sane reg → Sane reg'

lemma sane_of_safe (h : ReflTransGen Safe reg reg') : Sane reg → Sane reg' := by
  induction h with
  | refl => exact id
  | tail _ hstep ih => exact fun hsane => hstep (ih hsane)

lemma finish_cases (reg : Registry) (draft : Draft) :
    (∃ final t, after (complete reg.classes.size draft.cls draft.children draft.parents) (reg.pushed draft.cls) = (.ok final, t) ∧
      after (finish reg.classes.size draft) reg = (.ok (), t.withFinal final)) ∨
    ∃ e t, after (complete reg.classes.size draft.cls draft.children draft.parents) (reg.pushed draft.cls) = (.error e, t) ∧
      after (finish reg.classes.size draft) reg = (.error e, t.withoutLast reg.classes.size) := by
  unfold finish
  rw [after_bind]
  change (∃ final t, _ ∧ after (tryCatch _ _) (reg.pushed draft.cls) = _) ∨
    ∃ e t, _ ∧ after (tryCatch _ _) (reg.pushed draft.cls) = _
  rw [after_tryCatch, after_bind]
  cases after (complete reg.classes.size draft.cls draft.children draft.parents) (reg.pushed draft.cls) with
  | mk x t =>
    cases x with
    | ok final => exact .inl ⟨final, t, rfl, rfl⟩
    | error e => exact .inr ⟨e, t, rfl, rfl⟩

/-- A class under way without members; these come from its declaration or a class that it extends. -/
structure Fits (reg : Registry) (draft : Draft) : Prop where
  alone : draft.cls.idname = none ∨ draft.cls.identity = none
  bare : draft.cls.parents = [] ∧ draft.cls.children = []
  parents : ∀ m ∈ draft.parents,
    (m.Within reg.classes.size ∧ m.Aims reg.classes.size) ∨ ∃ b, m ∈ (reg.get b).parents
  children : ∀ m ∈ draft.children,
    (m.Within reg.classes.size ∧ m.Aims reg.classes.size) ∨ ∃ b, m ∈ (reg.get b).children

lemma leads_basesNamed (hpos : 0 < reg.classes.size) (names : List String) :
    Leads Settles reg (names.mapM baseNamed) (fun bs _ => ∀ b ∈ bs, b < reg.classes.size) := by
  refine Leads.mapM (fun _ _ _ _ h => h) fun name _ t ht => Leads.get_bind ?_
  have hsize := (alike_of_settles ht).size
  split
  · rename_i b hb
    exact Leads.pure (hsize ▸ lt_of_lookup? (hsize ▸ hpos) hb)
  · exact Leads.refuse _

/-- A declaration, accepted or not, resolves relations, and then completes a class or gives it up. -/
lemma leads_declare {R : Registry → Registry → Prop} (hpos : 0 < reg.classes.size) (hsettles : ∀ {t u}, Settles t u → R t u)
    (hfinish : ∀ {t draft}, ReflTransGen Settles reg t → Fits t draft → R t (after (finish t.classes.size draft) t).2)
    (d : Declaration) : Leads R reg (SurveyGraph.declare d) (fun _ _ => True) := by
  have hparts : ∀ {t : Registry} (ds : Option (List MemberDecl)), ReflTransGen Settles reg t →
      Leads R t (ds.mapM (·.mapM makeMember)) (fun ms u => ReflTransGen Settles reg u ∧
        ∀ m ∈ ms.getD [], m.Within reg.classes.size ∧ m.Aims reg.classes.size) := by
    intro t ds ht
    have hsize := (alike_of_settles ht).size
    obtain ⟨hu, hms⟩ := leads_makeMembers (hsize ▸ hpos) ds
    exact ⟨ReflTransGen.mono (fun _ _ => hsettles) _ _ hu, fun ms hok => ⟨ht.trans hu, hsize ▸ hms ms hok⟩⟩
  have hbases : Leads R reg (d.bases.mapM baseNamed) (fun _ u => ReflTransGen Settles reg u) := by
    obtain ⟨hu, -⟩ := leads_basesNamed hpos d.bases
    exact ⟨ReflTransGen.mono (fun _ _ => hsettles) _ _ hu, fun _ _ => hu⟩
  refine hbases.bind fun bases reg₀ _ h₀ => ?_
  refine (hparts d.parents h₀).bind fun parents reg₁ _ ⟨h₁, hparents⟩ => ?_
  refine (hparts d.children h₁).bind fun children reg₂ _ ⟨h₂, hchildren⟩ => ?_
  refine (hparts d.produces h₂).bind fun produces reg₃ _ ⟨h₃, _⟩ => ?_
  refine .get_bind (Leads.lift_bind fun draft hdraft => ?_)
  obtain ⟨-, -, halone, hbare, b, hp, hc⟩ := draft_ok hdraft
  have hsize := (alike_of_settles h₃).size
  rw [← hsize] at hparents hchildren
  have hfits : Fits reg₃ draft := ⟨halone, hbare,
    fun m hm => (mem_declared_or m (hp ▸ hm)).imp (hparents m) fun hm => ⟨b, hm⟩,
    fun m hm => (mem_declared_or m (hc ▸ hm)).imp (hchildren m) fun hm => ⟨b, hm⟩⟩
  exact .bind (Q := fun _ _ => True) ⟨.single (hfinish h₃ hfits), fun _ _ => trivial⟩ fun _ _ _ _ => .pure trivial

lemma safe_finish {draft : Draft} (hfits : Fits reg draft) : Safe reg (after (finish reg.classes.size draft) reg).2 := by
  intro hsane
  have hsize : (reg.pushed draft.cls).classes.size = reg.classes.size + 1 := Array.size_push _
  have hwithin := fun b m hm => ((hsane.sound b).members m hm).1
  obtain ⟨hsettles, hfinal⟩ := leads_complete (Nat.lt_succ_self reg.classes.size) (Nat.le_of_eq hsize)
    (fun m hm => ((hfits.children m hm).elim And.left fun ⟨b, hb⟩ => hwithin b m (mem_append_right _ hb)).mono (Nat.le_succ _))
    (fun m hm => ((hfits.parents m hm).elim And.left fun ⟨b, hb⟩ => hwithin b m (mem_append_left _ hb)).mono (Nat.le_succ _))
    hfits.alone
  rcases finish_cases reg draft with ⟨final, t, hm, hfinish⟩ | ⟨e, t, hm, hfinish⟩
  all_goals
    rw [hm] at hsettles hfinal
    rw [hfinish]
  · obtain ⟨hsound, hsingular, hplural⟩ := hfinal final rfl
    exact sane_withFinal hsettles hsane hsound hsingular hplural
  · change Sane (t.withoutLast _)
    unfold withoutLast
    split
    · have hself : t.get reg.classes.size = { draft.cls with
          parents := (t.get reg.classes.size).parents, children := (t.get reg.classes.size).children
          relativeNames := (t.get reg.classes.size).relativeNames } := by
        rw [(alike_of_settles hsettles).get, get_pushed_self]
      refine sane_withFinal hsettles hsane (sound_remains t _ _) ?_ ?_
      all_goals
        rw [hself]
        rfl
    · exact sane_popped hsettles hsane

lemma Sane.declare (h : Sane reg) (d : Declaration) : Sane (after (declare d) reg).2 :=
  sane_of_safe (leads_declare h.root (fun hstep hsane => hsane.settles (.single hstep)) (fun _ hfits => safe_finish hfits) d).1 h

/-- In a session classes are declared, successfully or not, and relations are resolved. Classes made on demand
are remembered. -/
inductive Goes : Registry → Registry → Prop
  | declares (reg : Registry) (d : Declaration) : Goes reg (after (SurveyGraph.declare d) reg).2
  | settles (reg : Registry) : Goes reg (after settleRegistry reg).2
  | derives (reg : Registry) (derived : List (String × ClassId)) : Goes reg { reg with derived }

lemma Goes.sane (h : Goes reg reg') (hsane : Sane reg) : Sane reg' := by
  cases h with
  | declares d => exact hsane.declare d
  | settles => exact hsane.settles leads_settleRegistry.1
  | derives derived =>
    refine ⟨hsane.root, fun c => ((hsane.sound c).congr fun d _ => ?_).2⟩
    exact ⟨rfl, rfl⟩

lemma sane_of_goes (h : ReflTransGen Goes empty reg) : Sane reg := by
  induction h with
  | refl => exact sane_empty
  | tail _ h ih => exact h.sane ih

end Registry

end SurveyGraph
