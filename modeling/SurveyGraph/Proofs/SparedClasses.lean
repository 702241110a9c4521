import SurveyGraph.Proofs.IndexedProperties
import SurveyGraph.Proofs.RelationEquality
/-!
# What a declaration leaves alone

The classes that constrain a relation are made members next to it. A declaration, accepted or not, changes nothing in the
classes that are there, except that members which wait for a class may find it (`declare_spares`). No class leads to one that
has been given up, so the number of a class always stands for the same one.
-/
open Relation List

namespace SurveyGraph

variable {k : Class}

/-- The constraints of relations among some members are classes and members. -/
def Constrained (ms : List Member) : Prop := ∀ r, .rel r ∈ ms → ∀ k ∈ r.constrain, ∃ c, k = .cls c ∧ .cls c ∈ ms

/-- Members lead to the first `n` classes, plain ones to the first `c`, and constraints stand next to their
relations. -/
structure Class.Held (c n : Nat) (k : Class) : Prop where
  aims : ∀ m ∈ k.parents ++ k.children, m.Aims n
  older : ∀ d, .cls d ∈ k.parents ++ k.children → d < c
  parents : Constrained k.parents
  children : Constrained k.children

lemma Class.Held.mono {c n n' : Nat} (h : k.Held c n) (hn : n ≤ n') : k.Held c n' :=
  ⟨fun m hm d hd => (h.aims m hm d hd).trans_le hn, h.older, h.parents, h.children⟩

lemma Class.held_bare {c n : Nat} (hparents : k.parents = []) (hchildren : k.children = []) : k.Held c n := by
  constructor <;> simp [hparents, hchildren, Constrained]

namespace Registry

open Declaration

variable {reg reg' reg'' t u : Registry} {c n : Nat} {m m' m'' : Member} {ms passed rest : List Member} {self : ClassId}
  {r : Relation}

/-- A member is what it was, or has found the class it waited for. -/
def Becomes (reg : Registry) (m m' : Member) : Prop :=
  m' = m ∨ ∃ r s c, m = .rel r ∧ r.target = .awaiting s ∧ m' = .rel { r with target := .cls c } ∧
    c < reg.classes.size ∧ (reg.get c).name = s

/-- All classes are still there with the same members, some of which may have found their class. -/
structure Spared (reg reg' : Registry) : Prop where
  size : reg.classes.size ≤ reg'.classes.size
  same : ∀ c < reg.classes.size, reg'.get c = { reg.get c with
    parents := (reg'.get c).parents, children := (reg'.get c).children, relativeNames := (reg'.get c).relativeNames }
  parents : ∀ c < reg.classes.size, Forall₂ (Becomes reg') (reg.get c).parents (reg'.get c).parents
  children : ∀ c < reg.classes.size, Forall₂ (Becomes reg') (reg.get c).children (reg'.get c).children

def Held (reg : Registry) : Prop := ∀ c, (reg.get c).Held c reg.classes.size

/-! ## Members that find their class -/

lemma Becomes.mono (h : Becomes reg m m')
    (hnames : ∀ c, memberClass? m' = some c → c < reg.classes.size → c < reg'.classes.size ∧ (reg'.get c).name = (reg.get c).name) :
    Becomes reg' m m' := by
  rcases h with rfl | ⟨r, s, c, rfl, hs, rfl, hc, hname⟩
  · exact .inl rfl
  · obtain ⟨hc', hname'⟩ := hnames c rfl hc
    exact .inr ⟨r, s, c, rfl, hs, rfl, hc', hname'.trans hname⟩

lemma Spared.name (h : Spared reg reg') (hc : c < reg.classes.size) :
    c < reg'.classes.size ∧ (reg'.get c).name = (reg.get c).name := by
  refine ⟨hc.trans_le h.size, ?_⟩
  rw [h.same c hc]

lemma Becomes.trans (h : Becomes reg' m m') (h' : Becomes reg'' m' m'') (hspared : Spared reg' reg'') : Becomes reg'' m m'' := by
  rcases h' with rfl | ⟨r, s, c, rfl, hs, rfl, hc, hname⟩
  · exact h.mono fun c _ hc => hspared.name hc
  · rcases h with rfl | ⟨q, s', d, -, -, heq, -⟩
    · exact .inr ⟨r, s, c, rfl, hs, rfl, hc, hname⟩
    · -- a member that has found its class does not wait
      cases heq
      cases hs

lemma forall₂_trans {R S T : Member → Member → Prop} (h : ∀ {a b c}, R a b → S b c → T a c) {l l' l'' : List Member}
    (hl : Forall₂ R l l') (hl' : Forall₂ S l' l'') : Forall₂ T l l'' := by
  induction hl generalizing l'' with
  | nil =>
    cases hl'
    exact .nil
  | cons hab _ ih =>
    cases hl' with
    | cons hbc hl' => exact .cons (h hab hbc) (ih hl')

lemma Spared.refl (reg : Registry) : Spared reg reg :=
  ⟨le_rfl, fun _ _ => rfl, fun _ _ => forall₂_same.mpr fun _ _ => .inl rfl,
    fun _ _ => forall₂_same.mpr fun _ _ => .inl rfl⟩

lemma Spared.trans (h : Spared reg reg') (h' : Spared reg' reg'') : Spared reg reg'' where
  size := h.size.trans h'.size
  same c hc := by rw [h'.same c (h.name hc).1, h.same c hc]
  parents c hc := forall₂_trans (fun hab hbc => hab.trans hbc h') (h.parents c hc) (h'.parents c (h.name hc).1)
  children c hc := forall₂_trans (fun hab hbc => hab.trans hbc h') (h.children c hc) (h'.children c (h.name hc).1)

/-! ## Resolving relations -/

lemma resolveMember_cases (reg : Registry) (m : Member) : reg.resolveMember m = m ∨
    ∃ r s c, m = .rel r ∧ r.target = .awaiting s ∧ reg.resolveMember m = .rel { r with target := .cls c } ∧
      c < reg.classes.size ∧ (reg.get c).name = s := by
  cases m with
  | cls c | name s => exact .inl rfl
  | rel r =>
    unfold resolveMember resolveRelation
    dsimp only
    split
    · rename_i s hs
      split
      · rename_i c hc
        exact .inr ⟨r, s, c, rfl, hs, rfl, lt_of_find? hc, eq_of_beq (find?_some (p := fun d => (reg.get d).name == s) hc)⟩
      · exact .inl rfl
    · exact .inl rfl

lemma constrained_resolved (h : Constrained ms) : Constrained (ms.map reg.resolveMember) := by
  intro r hr k hk
  obtain ⟨m, hm, heq⟩ := mem_map.mp hr
  have hconstrain : ∃ q, m = .rel q ∧ q.constrain = r.constrain := by
    rcases resolveMember_cases reg m with hsame | ⟨q, _, _, rfl, -, hq, -⟩
    · exact ⟨r, hsame.symm.trans heq, rfl⟩
    · cases hq.symm.trans heq
      exact ⟨q, rfl, rfl⟩
  obtain ⟨q, rfl, hq⟩ := hconstrain
  obtain ⟨c, rfl, hc⟩ := h q hm k (hq ▸ hk)
  exact ⟨c, rfl, mem_map.mpr ⟨.cls c, hc, rfl⟩⟩

lemma aims_resolveMember (h : m.Aims reg.classes.size) : (reg.resolveMember m).Aims reg.classes.size := by
  rcases resolveMember_cases reg m with heq | ⟨r, s, c, -, -, heq, hc, -⟩
  · rw [heq]
    exact h
  · rw [heq]
    intro d hd
    cases hd
    exact hc

lemma Settles.spared (h : Settles reg reg') : Spared reg reg' ∧ (Held reg → Held reg') := by
  cases h with
  | waits orphans => exact ⟨⟨le_rfl, (Spared.refl reg).same, (Spared.refl reg).parents, (Spared.refl reg).children⟩,
      fun hheld => hheld⟩
  | resolves orphans =>
    have hsize : ({ reg with orphans, classes := reg.classes.map reg.resolveClass } : Registry).classes.size = reg.classes.size :=
      Array.size_map
    have hbecomes : ∀ ms : List Member, Forall₂
        (Becomes { reg with orphans, classes := reg.classes.map reg.resolveClass }) ms (ms.map reg.resolveMember) := by
      intro ms
      refine forall₂_map_right_iff.mpr (forall₂_same.mpr fun m _ => ?_)
      rcases resolveMember_cases reg m with heq | ⟨r, s, c, rfl, hs, heq, hc, hname⟩
      · exact .inl heq
      · refine .inr ⟨r, s, c, rfl, hs, heq, hsize ▸ hc, ?_⟩
        rw [get_resolved]
        exact hname
    refine ⟨⟨Nat.le_of_eq hsize.symm, fun c _ => ?_, fun c _ => ?_, fun c _ => ?_⟩, fun hheld c => ?_⟩
    all_goals rw [get_resolved]
    · rfl
    · exact hbecomes _
    · exact hbecomes _
    · rw [hsize]
      refine ⟨fun m hm => ?_, fun d hd => ?_, constrained_resolved (hheld c).parents, constrained_resolved (hheld c).children⟩
      · obtain ⟨m, hm', rfl⟩ := mem_map.mp (map_append ▸ hm)
        exact aims_resolveMember ((hheld c).aims m hm')
      · obtain ⟨m, hm', heq⟩ := mem_map.mp (map_append ▸ hd)
        cases m <;> cases heq
        exact (hheld c).older d hm'

lemma spared_of_settles (h : ReflTransGen Settles reg reg') : Spared reg reg' ∧ (Held reg → Held reg') := by
  induction h with
  | refl => exact ⟨.refl _, id⟩
  | tail _ hstep ih => exact ⟨ih.1.trans hstep.spared.1, fun h => hstep.spared.2 (ih.2 h)⟩

/-! ## Going through members -/

lemma constraintMember_mem (reg : Registry) (there : List Member) (r : Relation) {k : Constraint} (hk : k ∈ r.constrain) :
    constraintMember k ∈ there ++ constraintMembers reg there r := by
  have hsame : ∀ {m}, reg.sameMember m (constraintMember k) = true → m = constraintMember k := by
    intro m h
    cases k <;> cases m <;> first | cases h | exact congrArg _ (eq_of_beq h)
  have hfold (l : List Constraint) : ∀ acc : List Member,
      (∀ m ∈ acc, m ∈ l.foldl (fun acc c => if (there ++ acc).any (reg.sameMember · (constraintMember c)) then acc
        else acc ++ [constraintMember c]) acc) ∧
      (k ∈ l → constraintMember k ∈ there ++ l.foldl (fun acc c =>
        if (there ++ acc).any (reg.sameMember · (constraintMember c)) then acc else acc ++ [constraintMember c]) acc) := by
    induction l with
    | nil => exact fun acc => ⟨fun m hm => hm, nofun⟩
    | cons c l ih =>
      intro acc
      rw [foldl_cons]
      split
      · rename_i hthere
        refine ⟨(ih acc).1, fun hk => ?_⟩
        rcases mem_cons.mp hk with rfl | hk
        · obtain ⟨m, hm, hk⟩ := any_eq_true.mp hthere
          obtain rfl := hsame hk
          exact mem_append.mpr ((mem_append.mp hm).imp_right ((ih acc).1 _))
        · exact (ih acc).2 hk
      · obtain ⟨hold, hnew⟩ := ih (acc ++ [constraintMember c])
        refine ⟨fun m hm => hold m (mem_append_left _ hm), fun hk => ?_⟩
        rcases mem_cons.mp hk with rfl | hk
        · exact mem_append_right _ (hold _ (mem_append_right _ (mem_singleton_self _)))
        · exact hnew hk
  exact (hfold r.constrain []).2 hk

lemma aims_bound (hsize : reg.classes.size = self + 1) (h : (Member.rel r).Aims (self + 1)) :
    (Member.rel (bound self reg r)).Aims (self + 1) := by
  unfold bound
  split
  · intro c hc
    cases hc
    exact Nat.lt_succ_self self
  · rw [← hsize] at h ⊢
    exact aims_resolveMember h

/-- Members lead to the class under way or classes before it, plain ones to these only, and constraints are among
the members gone through or to go through. -/
structure Going (c : ClassId) (ms passed : List Member) : Prop where
  within : ∀ m ∈ ms, m.Within c ∧ m.Aims (c + 1)
  aims : ∀ m ∈ passed, m.Aims (c + 1)
  older : ∀ d, .cls d ∈ passed → d < c
  named : ∀ s, .name s ∉ passed
  found : ∀ r, .rel r ∈ passed → ∀ k ∈ r.constrain, constraintMember k ∈ passed ++ ms

lemma Going.cls (h : Going self (.cls c :: rest) passed) : Going self rest (passed ++ [.cls c]) where
  within m hm := h.within m (.tail _ hm)
  aims := forall_mem_append.mpr ⟨h.aims, forall_mem_singleton.mpr (h.within _ (.head _)).2⟩
  older d hd := by
    rcases mem_append.mp hd with hd | hd
    · exact h.older d hd
    · cases mem_singleton.mp hd
      exact (h.within _ (.head _)).1
  named s hs := (mem_append.mp hs).elim (h.named s) (by simp)
  found r hr k hk := by
    rw [append_assoc]
    exact h.found r ((mem_append.mp hr).resolve_right (by simp)) k hk

lemma Going.rel (hsize : t.classes.size = self + 1) (u : Registry) (h : Going self (.rel r :: rest) passed) :
    Going self (rest ++ constraintMembers u (passed ++ .rel (bound self t r) :: rest) (bound self t r))
      (passed ++ [.rel (bound self t r)]) := by
  obtain ⟨hwithin, haims⟩ := h.within _ (.head _)
  refine ⟨forall_mem_append.mpr ⟨fun m hm => h.within m (.tail _ hm), fun m hm => ?_⟩,
    forall_mem_append.mpr ⟨h.aims, forall_mem_singleton.mpr (aims_bound hsize haims)⟩,
    fun d hd => h.older d ((mem_append.mp hd).resolve_right (by simp)),
    fun s hs => (mem_append.mp hs).elim (h.named s) (by simp), fun q hq k hk => ?_⟩
  · obtain ⟨hm, haims⟩ := within_constraintMembers (n := self) (by rw [constrain_bound]; exact hwithin.2) _ m hm
    exact ⟨hm, fun d hd => Nat.lt_succ_of_lt (haims d hd)⟩
  · rcases mem_append.mp hq with hq | hq
    · have hne : constraintMember k ≠ .rel r := by cases k <;> nofun
      rcases mem_append.mp (h.found q hq k hk) with hmem | hmem
      · exact mem_append_left _ (mem_append_left _ hmem)
      · exact mem_append_right _ (mem_append_left _ ((mem_cons.mp hmem).resolve_left hne))
    · cases mem_singleton.mp hq
      have hmem := constraintMember_mem u (passed ++ .rel (bound self t r) :: rest) (bound self t r) hk
      simpa only [append_assoc, cons_append, nil_append] using hmem

lemma passMembers_held {p p' : Progress} (hsize : t.classes.size = self + 1)
    (hms : ∀ m ∈ ms, m.Within self ∧ m.Aims (self + 1)) (hp : p.passed = [])
    (h : after (passMembers self (memberBound ms) ms p) t = (.ok p', u)) : Going self [] p'.passed ∧ Constrained p'.passed := by
  have hgoing : Going self [] p'.passed := by
    refine passMembers_run (fun hP => hP.cls) (fun {r rest passed v} w hv hP => ?_) _ le_rfl .refl h ⟨hms, ?_, ?_, ?_, ?_⟩
    · exact hP.rel ((alike_of_settles hv).size.trans hsize) w
    all_goals simp [hp]
  refine ⟨hgoing, fun r hr k hk => ?_⟩
  have hmem := hgoing.found r hr k hk
  rw [append_nil] at hmem
  cases k with
  | cls c => exact ⟨c, rfl, hmem⟩
  | name s => exact absurd hmem (hgoing.named s)

lemma complete_held {draft : Class} {children parents : List Member}
    (hsize : t.classes.size = self + 1) (hchildren : ∀ m ∈ children, m.Within self ∧ m.Aims (self + 1))
    (hparents : ∀ m ∈ parents, m.Within self ∧ m.Aims (self + 1))
    (h : after (complete self draft children parents) t = (.ok k, u)) : k.name = draft.name ∧ k.Held self (self + 1) := by
  obtain ⟨below, t₁, hbelow, h⟩ := after_bind_ok h
  obtain ⟨above, t₂, habove, h⟩ := after_bind_ok h
  obtain ⟨hgoing, hheld⟩ := passMembers_held hsize hchildren rfl hbelow
  have hsize₁ : t₁.classes.size = self + 1 :=
    (alike_of_settles ((keeps_passMembers _ _ _ t).of_ok hbelow).1).size.trans hsize
  obtain ⟨hgoing', hheld'⟩ := passMembers_held hsize₁ hparents rfl habove
  rw [after_get_bind] at h
  obtain ⟨_, _, h⟩ := after_lift_ok h
  cases h
  exact ⟨rfl, forall_mem_append.mpr ⟨hgoing'.aims, hgoing.aims⟩,
    fun d hd => (mem_append.mp hd).elim (hgoing'.older d) (hgoing.older d), hheld', hheld⟩

/-! ## Declaring classes -/

/-- A class that takes its final form or is given up keeps its name, if a member leads to it. -/
lemma Spared.last (h : Spared reg t) (hsize : reg.classes.size ≤ reg'.classes.size)
    (hold : ∀ c < reg.classes.size, reg'.get c = t.get c)
    (hnames : ∀ c < reg.classes.size, ∀ m ∈ (t.get c).parents ++ (t.get c).children, ∀ d, memberClass? m = some d →
      d < t.classes.size → d < reg'.classes.size ∧ (reg'.get d).name = (t.get d).name) :
    Spared reg reg' := by
  have hside : ∀ {c ms ms'}, c < reg.classes.size → (∀ m ∈ ms', m ∈ (t.get c).parents ++ (t.get c).children) →
      Forall₂ (Becomes t) ms ms' → Forall₂ (Becomes reg') ms ms' := by
    intro c ms ms' hc hmem hms
    refine forall₂_iff_zip.mpr ⟨hms.length_eq, fun hzip => ?_⟩
    exact (forall₂_zip hms hzip).mono (hnames c hc _ (hmem _ (of_mem_zip hzip).2))
  refine ⟨hsize, fun c hc => ?_, fun c hc => ?_, fun c hc => ?_⟩
  all_goals rw [hold c hc]
  · exact h.same c hc
  · exact hside hc (fun m hm => mem_append_left _ hm) (h.parents c hc)
  · exact hside hc (fun m hm => mem_append_right _ hm) (h.children c hc)

lemma Held.pushed (h : Held reg) (hk : k.parents = [] ∧ k.children = []) :
    Held (reg.pushed k) ∧ Spared reg (reg.pushed k) := by
  have hsize : (reg.pushed k).classes.size = reg.classes.size + 1 := Array.size_push k
  refine ⟨fun c => ?_, (Spared.refl reg).last (by omega) (fun c hc => get_pushed reg k hc) fun c _ m _ d _ hd => ?_⟩
  · rw [hsize]
    rcases Nat.lt_trichotomy c reg.classes.size with hc | rfl | hc
    · rw [get_pushed reg k hc]
      exact (h c).mono (Nat.le_succ _)
    · rw [get_pushed_self]
      exact Class.held_bare hk.1 hk.2
    · rw [get_of_size_le (by omega)]
      exact Class.held_bare rfl rfl
  · rw [get_pushed reg k hd, hsize]
    exact ⟨Nat.lt_succ_of_lt hd, rfl⟩

lemma lt_withoutLast (hlast : c + 1 = reg.classes.size) {b d : Nat} (hb : b < reg.classes.size)
    (hm : m ∈ (reg.get b).parents ++ (reg.get b).children) (hd : memberClass? m = some d) (hlt : d < reg.classes.size) :
    d < (reg.withoutLast c).classes.size := by
  unfold withoutLast
  split
  · have hsize : (reg.withFinal (reg.get c).remains).classes.size = reg.classes.size := by
      unfold withFinal
      simp [← hlast]
    rw [hsize]
    exact hlt
  · rename_i hrefers
    have hne : d ≠ c := by
      rintro rfl
      refine hrefers (Array.any_eq_true.mpr ⟨b, hb, any_eq_true.mpr ⟨m, ?_, by rw [hd]; exact beq_self_eq_true _⟩⟩)
      unfold Registry.get at hm
      simpa [Array.getD_eq_getD_getElem?, hb] using hm
    rw [← hlast] at hlt
    rw [Array.size_pop, ← hlast]
    exact Nat.lt_of_le_of_ne (Nat.le_of_lt_succ hlt) hne

lemma Held.withoutLast (h : Held reg) (hlast : c + 1 = reg.classes.size) : Held (reg.withoutLast c) := by
  obtain ⟨-, hsize, hold, hbare, -⟩ := withoutLast_same hlast
  intro b
  rcases Nat.lt_or_ge b c with hb | hb
  · rw [hold b hb]
    refine ⟨fun m hm d hd => ?_, (h b).older, (h b).parents, (h b).children⟩
    exact lt_withoutLast hlast (by omega) hm hd ((h b).aims m hm d hd)
  · exact Class.held_bare (hbare b hb).1 (hbare b hb).2

lemma finish_held {draft : Draft} (hsane : Sane reg) (hheld : Held reg) (hfits : Fits reg draft) :
    Held (after (finish reg.classes.size draft) reg).2 ∧ Spared reg (after (finish reg.classes.size draft) reg).2 := by
  obtain ⟨hpushed, hspared⟩ := hheld.pushed hfits.bare
  have hsize : (reg.pushed draft.cls).classes.size = reg.classes.size + 1 := Array.size_push _
  rcases finish_cases reg draft with ⟨final, t, hm, hfinish⟩ | ⟨e, t, hm, hfinish⟩
  all_goals
    rw [hfinish]
    obtain ⟨hsettles, -⟩ := leads_complete_same (reg.pushed draft.cls) reg.classes.size draft.cls draft.children draft.parents
    rw [hm] at hsettles
    obtain ⟨hspared', hheld'⟩ := spared_of_settles hsettles
    have hsize' := size_of_pushed hsettles
  · have hwithin : ∀ {m : Member}, ((m.Within reg.classes.size ∧ m.Aims reg.classes.size) ∨
        ∃ b, m ∈ (reg.get b).parents ++ (reg.get b).children) → m.Within reg.classes.size ∧ m.Aims (reg.classes.size + 1) := by
      intro m hm
      have hold : m.Within reg.classes.size ∧ m.Aims reg.classes.size :=
        hm.elim id fun ⟨b, hb⟩ => ⟨((hsane.sound b).members m hb).1, (hheld b).aims m hb⟩
      exact ⟨hold.1, fun d hd => Nat.lt_succ_of_lt (hold.2 d hd)⟩
    obtain ⟨hname, hfinal⟩ := complete_held hsize
      (fun m hm => hwithin ((hfits.children m hm).imp_right fun ⟨b, hb⟩ => ⟨b, mem_append_right _ hb⟩))
      (fun m hm => hwithin ((hfits.parents m hm).imp_right fun ⟨b, hb⟩ => ⟨b, mem_append_left _ hb⟩)) hm
    have hsize'' : (t.withFinal final).classes.size = reg.classes.size + 1 := by
      unfold withFinal
      simp [hsize']
    change Held (t.withFinal final) ∧ Spared reg (t.withFinal final)
    refine ⟨fun c => ?_, (hspared.trans hspared').last (by omega) (fun c hc => get_withFinal hsettles hc) fun c _ m _ d _ hd => ?_⟩
    · rw [hsize'']
      rcases Nat.lt_trichotomy c reg.classes.size with hc | rfl | hc
      · rw [get_withFinal hsettles hc, ← hsize']
        exact hheld' hpushed c
      · rw [get_withFinal_self hsettles]
        exact hfinal
      · rw [get_of_size_le (by omega)]
        exact Class.held_bare rfl rfl
    · rw [hsize'] at hd
      refine ⟨hsize'' ▸ hd, ?_⟩
      rcases Nat.lt_succ_iff_lt_or_eq.mp hd with hd | rfl
      · rw [get_withFinal hsettles hd]
      · rw [get_withFinal_self hsettles, (alike_of_settles hsettles).get, get_pushed_self]
        exact hname
  · refine ⟨(hheld' hpushed).withoutLast hsize'.symm, ?_⟩
    obtain ⟨-, hle, hold, -, hnames⟩ := withoutLast_same hsize'.symm
    refine (hspared.trans hspared').last hle hold fun c hc m hm d hd hlt => ?_
    have hlt' := lt_withoutLast hsize'.symm (by omega) hm hd hlt
    exact ⟨hlt', (hnames d hlt').2⟩

/-- A step that keeps what is known of registries, and spares classes. -/
def Sparing (reg reg' : Registry) : Prop := Sane reg ∧ Held reg → (Sane reg' ∧ Held reg') ∧ Spared reg reg'

lemma spared_of_sparing (h : ReflTransGen Sparing reg reg') : Sparing reg reg' := by
  intro hreg
  induction h with
  | refl => exact ⟨hreg, .refl _⟩
  | tail _ hstep ih =>
    obtain ⟨hheld, hspared⟩ := hstep ih.1
    exact ⟨hheld, ih.2.trans hspared⟩

lemma sparing_declare (hsane : Sane reg) (d : Declaration) : Sparing reg (after (declare d) reg).2 := by
  refine spared_of_sparing (leads_declare hsane.root (fun hstep h => ?_) (fun hsettles hfits h => ?_) d).1
  · obtain ⟨hspared, hheld⟩ := hstep.spared
    exact ⟨⟨h.1.settles (.single hstep), hheld h.2⟩, hspared⟩
  · obtain ⟨hheld, hspared⟩ := finish_held h.1 h.2 hfits
    exact ⟨⟨safe_finish hfits h.1, hheld⟩, hspared⟩

lemma held_of_goes (h : ReflTransGen Goes Registry.empty reg) : Sane reg ∧ Held reg := by
  induction h with
  | refl =>
    refine ⟨sane_empty, fun c => ?_⟩
    rcases Nat.eq_zero_or_pos c with rfl | hc
    · exact Class.held_bare rfl rfl
    · rw [get_of_size_le (show Registry.empty.classes.size ≤ c from hc)]
      exact Class.held_bare rfl rfl
  | tail _ hstep ih =>
    cases hstep with
    | declares d => exact (sparing_declare ih.1 d ih).1
    | settles => exact ⟨ih.1.settles leads_settleRegistry.1, (spared_of_settles leads_settleRegistry.1).2 ih.2⟩
    | derives derived => exact ⟨(Goes.derives _ derived).sane ih.1, ih.2⟩

/-- In every session constraints are members next to their relations, and members lead to classes that are
there. A further declaration, accepted or not, spares all classes. -/
theorem declare_spares (h : ReflTransGen Goes Registry.empty reg) :
    (∀ c, Constrained (reg.get c).parents ∧ Constrained (reg.get c).children ∧
      ∀ m ∈ (reg.get c).parents ++ (reg.get c).children, m.Aims reg.classes.size) ∧
    ∀ d, Spared reg (after (declare d) reg).2 := by
  have hheld := held_of_goes h
  exact ⟨fun c => ⟨(hheld.2 c).parents, (hheld.2 c).children, (hheld.2 c).aims⟩, fun d => (sparing_declare hheld.1 d hheld).2⟩

/-- Exposures, which inherit stars constrained by a field, and images, which wait for plates. -/
def exposureRegistry : Registry :=
  let node (name plural : String) : Declaration := { name, pluralName := some plural, idname := some (.text "number") }
  let stars : RelationDecl := { kind := .multiple, node := .text "Star", constrain := ["Field"] }
  let plate : RelationDecl := { kind := .oneOf, node := .text "Plate", idname := some "plate" }
  Survey.registryOf [node "Star" "stars", node "Field" "fields",
    { name := "Shot", pluralName := some "shots", isTemplate := true, parents := some [.rel stars] },
    { node "Exposure" "exposures" with bases := ["Shot"] }, { node "Image" "images" with parents := some [.rel plate] },
    node "Plate" "plates"]

/-- The field is a parent of exposures; runs, by which images find plates, spare all classes. -/
theorem declare_spares_exposures : (exposureRegistry.get 4).name = "Exposure" ∧ .cls 2 ∈ (exposureRegistry.get 4).parents ∧
    Spared exposureRegistry (after (declare { name := "Run", pluralName := some "runs", idname := some (.text "number")
                                              parents := some [.rel { kind := .oneOf, node := .text "Star" }] })
      exposureRegistry).2 := by
  have hgoes : ReflTransGen Goes Registry.empty exposureRegistry := goes_registryOf _
  obtain ⟨hheld, hspared⟩ := declare_spares hgoes
  have hrel : .rel { Relation.one 1 with kind := .multiple, max := none, constrain := [.cls 2] } ∈ (exposureRegistry.get 4).parents :=
    List.mem_of_elem_eq_true (by decide +kernel)
  obtain ⟨c, hc, hmem⟩ := (hheld 4).1 _ hrel (.cls 2) (List.mem_singleton.mpr rfl)
  cases hc
  exact ⟨by decide +kernel, hmem, hspared _⟩

end Registry

end SurveyGraph
