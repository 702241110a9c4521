import SurveyGraph.Proofs.Schemas
/-!
# Relations that count as equal

Relations count as equal when their fingerprints agree, and a declaration keeps the first of equal ones. Numbers are added
bit by bit and marks by parity, so that parts cancel: relations to exactly two and exactly three instances count as equal
(`exists_relation_dropped`). Relations in which nothing can cancel, and which differ in at most one of the two bounds and the
order, are told apart (`relations_told_apart`).
-/
open Relation List

namespace SurveyGraph

deriving instance ReflBEq, LawfulBEq for RelationKind, Target, Constraint, Mark, Relation, Member

namespace Fingerprint

/-! ## Marks -/

lemma nodup_toggle {m : Mark} {ms : List Mark} (h : ms.Nodup) : (toggle m ms).Nodup := by
  unfold toggle
  split
  · exact h.erase m
  · rename_i hm
    exact nodup_cons.mpr ⟨by simpa using hm, h⟩

lemma mem_toggle {m a : Mark} {ms : List Mark} (h : ms.Nodup) : a ∈ toggle m ms ↔ (a ∈ ms ↔ a ≠ m) := by
  unfold toggle
  split
  · rename_i hm
    rw [h.mem_erase_iff]
    by_cases ha : a = m
    · simpa [ha] using hm
    · simp [ha]
  · rename_i hm
    by_cases ha : a = m
    · simpa [ha] using hm
    · simp [ha]

lemma mem_toggles (l : List Mark) (a : Mark) : ∀ {acc : List Mark}, acc.Nodup →
    (a ∈ l.foldl (fun acc m => toggle m acc) acc ↔ (a ∈ acc ↔ l.count a % 2 = 0)) := by
  induction l with
  | nil => simp
  | cons m l ih =>
    intro acc hacc
    rw [foldl_cons, ih (nodup_toggle hacc), mem_toggle hacc, count_cons]
    by_cases ha : a = m
    · subst ha
      rcases Nat.mod_two_eq_zero_or_one (l.count a) with h | h <;> simp [h, Nat.add_mod]
    · have hne : (m == a) = false := by simpa using Ne.symm ha
      simp [ha, hne]

lemma agrees_iff {f g : Fingerprint} : f.agrees g = true ↔ f.bits = g.bits ∧ ∀ m, m ∈ f.marks ↔ m ∈ g.marks := by
  unfold agrees
  simp only [Bool.and_eq_true, beq_iff_eq, all_eq_true, contains_iff_mem, and_assoc]
  exact and_congr_right fun _ => ⟨fun h m => ⟨h.1 m, h.2 m⟩, fun h => ⟨fun m => (h m).mp, fun m => (h m).mpr⟩⟩

end Fingerprint

open Fingerprint

/-! ## Parts of a relation -/

namespace Relation

variable (r : Relation)

/-- The bits of the upper bound. -/
def maxBits : UInt64 := match r.max with | some m => ofInt m | none => 0

def orderBits : UInt64 := if r.ordered then 1 else 0

def numberBits : UInt64 := ofInt r.min ^^^ r.maxBits ^^^ r.orderBits

def constraintMarks : Constraint → List Mark
  | .cls c => [.cls c]
  | .name s => textMarks s

/-- The marks of a relation to a class of the given name. -/
def marks (name : String) : List Mark :=
  [Mark.kind r.kind] ++ (if r.max.isNone then [.nothing] else [])
    ++ (match r.idname with | some s => textMarks s | none => [.nothing])
    ++ r.constrain.flatMap constraintMarks ++ textMarks name

lemma fingerprint_agrees {r s : Relation} {n n' : String} (h : (r.fingerprint n).agrees (s.fingerprint n') = true) :
    r.numberBits = s.numberBits ∧ ∀ m, (r.marks n).count m % 2 = (s.marks n').count m % 2 := by
  obtain ⟨hbits, hmarks⟩ := agrees_iff.mp h
  refine ⟨hbits, fun m => ?_⟩
  have hm := hmarks m
  change m ∈ (r.marks n).foldl (fun acc m => toggle m acc) [] ↔ m ∈ (s.marks n').foldl (fun acc m => toggle m acc) [] at hm
  rw [mem_toggles _ m nodup_nil, mem_toggles _ m nodup_nil] at hm
  simp only [not_mem_nil, false_iff] at hm
  omega

/-- No two parts of a relation to a class of this name cancel: its constraints are different classes, and its
own name is not that of the class. Empty names leave no mark. -/
structure Clear (r : Relation) (name : String) : Prop where
  target : name ≠ ""
  idname : ∀ i, r.idname = some i → i ≠ "" ∧ i ≠ name
  constrain : ∀ k ∈ r.constrain, ∃ c, k = .cls c
  once : r.constrain.Nodup

lemma count_constraintMarks {l : List Constraint} (h : ∀ k ∈ l, ∃ c, k = .cls c) (m : Mark) :
    (l.flatMap constraintMarks).count m = match m with
      | .cls c => l.count (.cls c)
      | _ => 0 := by
  induction l with
  | nil => cases m <;> rfl
  | cons k l ih =>
    obtain ⟨⟨c, rfl⟩, hl⟩ := forall_mem_cons.mp h
    rw [flatMap_cons, count_append, ih hl]
    cases m <;> simp [constraintMarks, count_cons, Nat.add_comm]

lemma count_textMarks {s : String} (h : s ≠ "") (m : Mark) : (textMarks s).count m = if .text s = m then 1 else 0 := by
  unfold textMarks
  simp [h, count_singleton]

lemma Clear.count {r : Relation} {n : String} (h : r.Clear n) (m : Mark) : (r.marks n).count m = match m with
    | .kind k => if r.kind = k then 1 else 0
    | .nothing => (if r.max = none then 1 else 0) + if r.idname = none then 1 else 0
    | .text t => (if r.idname = some t then 1 else 0) + if n = t then 1 else 0
    | .cls c => r.constrain.count (.cls c) := by
  unfold marks
  simp only [count_append, count_constraintMarks h.constrain, count_textMarks h.target]
  cases hi : r.idname with
  | none => cases hm : r.max <;> cases m <;> simp [count_singleton]
  | some i =>
    simp only [count_textMarks (h.idname i hi).1]
    cases hm : r.max <;> cases m <;> simp [count_singleton]

end Relation

/-- Nothing cancels between two relations: each is clear, neither goes by the name of the other's class, and
numbers that differ have other bits. If they are of one kind, their numbers add up to other bits, or two of
lower bound, upper bound and order agree. -/
structure Registry.Distinct (reg : Registry) (r s : Relation) : Prop where
  left : r.Clear (reg.targetName r.target)
  right : s.Clear (reg.targetName s.target)
  names : ∀ i, (r.idname = some i → i ≠ reg.targetName s.target) ∧ (s.idname = some i → i ≠ reg.targetName r.target)
  min : ofInt r.min = ofInt s.min → r.min = s.min
  max : ∀ a b, r.max = some a → s.max = some b → ofInt a = ofInt b → a = b
  numbers : r.kind = s.kind → r.numberBits ≠ s.numberBits ∨
    r.min = s.min ∧ r.max = s.max ∨ r.min = s.min ∧ r.ordered = s.ordered ∨ r.max = s.max ∧ r.ordered = s.ordered

/-- Relations that agree in all but the class that they go to. -/
structure Relation.Alike (r s : Relation) : Prop where
  kind : r.kind = s.kind
  min : r.min = s.min
  max : r.max = s.max
  ordered : r.ordered = s.ordered
  idname : r.idname = s.idname
  constrain : ∀ k, k ∈ r.constrain ↔ k ∈ s.constrain

lemma Relation.Alike.symm {r s : Relation} (h : r.Alike s) : s.Alike r :=
  ⟨h.kind.symm, h.min.symm, h.max.symm, h.ordered.symm, h.idname.symm, fun k => (h.constrain k).symm⟩

namespace Registry.Distinct

variable {reg : Registry} {r s : Relation} (h : reg.Distinct r s)

include h

/-- Marks that occur equally often, up to pairs, are those of the same kind, names and constraints. -/
lemma marks (hmarks : ∀ m, (r.marks (reg.targetName r.target)).count m % 2 = (s.marks (reg.targetName s.target)).count m % 2) :
    r.kind = s.kind ∧ reg.targetName r.target = reg.targetName s.target ∧ r.idname = s.idname ∧
      (r.max = none ↔ s.max = none) ∧ ∀ k, k ∈ r.constrain ↔ k ∈ s.constrain := by
  simp only [h.left.count, h.right.count] at hmarks
  have hkind : s.kind = r.kind := by
    have hk := hmarks (.kind r.kind)
    simp only [if_true] at hk
    by_contra hne
    rw [if_neg hne] at hk
    cases hk
  have hname : reg.targetName s.target = reg.targetName r.target := by
    have ht := hmarks (.text (reg.targetName r.target))
    simp only [if_true, if_neg fun hi => (h.left.idname _ hi).2 rfl, if_neg fun hi => ((h.names _).2 hi) rfl] at ht
    by_contra hne
    rw [if_neg hne] at ht
    cases ht
  have hidname (i : String) : r.idname = some i ↔ s.idname = some i := by
    have hi := hmarks (.text i)
    rw [hname] at hi
    by_cases hr : r.idname = some i <;> by_cases hs : s.idname = some i <;> by_cases hn : reg.targetName r.target = i <;>
      simp only [hr, hs, hn, if_true, if_false] at hi ⊢ <;> omega
  have hidname : r.idname = s.idname := Option.ext hidname
  refine ⟨hkind.symm, hname.symm, hidname, ?_, fun k => ?_⟩
  · have hn := hmarks .nothing
    by_cases hr : r.max = none <;> by_cases hs : s.max = none <;> by_cases hi : s.idname = none <;> simp_all
  · have hclass (c : ClassId) : .cls c ∈ r.constrain ↔ .cls c ∈ s.constrain := by
      have hc := hmarks (.cls c)
      dsimp only at hc
      have hl := nodup_iff_count_le_one.mp h.left.once (.cls c)
      have hr := nodup_iff_count_le_one.mp h.right.once (.cls c)
      rw [← count_pos_iff, ← count_pos_iff]
      omega
    constructor
    · intro hk
      obtain ⟨c, rfl⟩ := h.left.constrain k hk
      exact (hclass c).mp hk
    · intro hk
      obtain ⟨c, rfl⟩ := h.right.constrain k hk
      exact (hclass c).mpr hk

lemma bits (hbits : r.numberBits = s.numberBits) (hkind : r.kind = s.kind) (hnone : r.max = none ↔ s.max = none) :
    r.min = s.min ∧ r.max = s.max ∧ r.ordered = s.ordered := by
  have hmax (hb : r.maxBits = s.maxBits) : r.max = s.max := by
    unfold Relation.maxBits at hb
    cases hr : r.max with
    | none => rw [hnone.mp hr]
    | some a =>
      cases hs : s.max with
      | none => rw [hnone.mpr hs] at hr; cases hr
      | some b =>
        rw [hr, hs] at hb
        rw [h.max a b hr hs hb]
  have hordered (hb : r.orderBits = s.orderBits) : r.ordered = s.ordered := by
    unfold Relation.orderBits at hb
    cases hr : r.ordered <;> cases hs : s.ordered <;> simp [hr, hs] at hb ⊢
  rcases h.numbers hkind with hne | hagree
  · exact absurd hbits hne
  unfold Relation.numberBits at hbits
  rcases hagree with ⟨h₁, h₂⟩ | ⟨h₁, h₂⟩ | ⟨h₁, h₂⟩
  · refine ⟨h₁, h₂, hordered ?_⟩
    rw [h₁, Relation.maxBits, h₂] at hbits
    exact (UInt64.xor_right_inj _).mp hbits
  · refine ⟨h₁, hmax ?_, h₂⟩
    rw [h₁, Relation.orderBits, h₂] at hbits
    exact (UInt64.xor_right_inj _).mp ((UInt64.xor_left_inj _).mp hbits)
  · refine ⟨h.min ?_, h₁, h₂⟩
    rw [Relation.maxBits, h₁, Relation.orderBits, h₂] at hbits
    exact (UInt64.xor_left_inj _).mp ((UInt64.xor_left_inj _).mp hbits)

lemma alike (hsame : reg.sameRelation r s = true) : r.Alike s ∧ reg.targetName r.target = reg.targetName s.target := by
  obtain ⟨hbits, hmarks⟩ := Relation.fingerprint_agrees hsame
  obtain ⟨hkind, hname, hidname, hnone, hconstrain⟩ := h.marks hmarks
  obtain ⟨hmin, hmax, hordered⟩ := h.bits hbits hkind hnone
  exact ⟨⟨hkind, hmin, hmax, hordered, hidname, hconstrain⟩, hname⟩

end Registry.Distinct

/-! ## Members of a class that is declared -/

namespace Registry

open Declaration

variable {reg reg' : Registry} {self : ClassId} {r : Relation}

section Alike

variable (h : Alike reg reg')

include h

lemma Alike.lookup? (s : String) : reg'.lookup? s = reg.lookup? s := by
  have hfind : reg'.find? s = reg.find? s := by
    unfold find? declared
    rw [h.size]
    refine congrArg (List.find? · _) (funext fun c => ?_)
    rw [h.get c]
  unfold Registry.lookup?
  rw [hfind]

lemma Alike.relationOf (d : RelationDecl) : Declaration.relationOf reg' d = Declaration.relationOf reg d := by
  have htarget : targetOf reg' d.node = targetOf reg d.node := by
    unfold targetOf
    split
    · rw [h.lookup?]
    · rfl
  have hconstraint : constraintOf reg' = constraintOf reg := by
    funext s
    unfold constraintOf
    rw [h.lookup?]
  unfold Declaration.relationOf
  rw [htarget, hconstraint]

lemma Alike.sameRelation (r s : Relation) : reg'.sameRelation r s = reg.sameRelation r s := by
  have hname (t : Target) : reg'.targetName t = reg.targetName t := by
    cases t with
    | cls c =>
      change (reg'.get c).name = (reg.get c).name
      rw [h.get c]
    | awaiting s => rfl
  unfold Registry.sameRelation
  rw [hname, hname]

end Alike

/-- The member that a declared member is made to. -/
def Made (reg : Registry) : MemberDecl → Member → Prop
  | .rel d, .rel r => relationOf reg d = .ok r
  | .name _, .cls _ | .name _, .name _ => True
  | _, _ => False

variable {t : Registry} {ds : List MemberDecl} {ms : List Member} {u : Registry}

lemma makeMember_made {md : MemberDecl} {m : Member} (h : after (makeMember md) reg = (.ok m, t)) : Made reg md m := by
  cases md with
  | name s =>
    unfold makeMember at h
    rw [after_get_bind] at h
    split at h <;> cases h <;> trivial
  | rel d =>
    obtain ⟨r, t', hr, h⟩ := after_bind_ok h
    cases h
    unfold makeRelation at hr
    rw [after_get_bind] at hr
    obtain ⟨r', hr', hr⟩ := after_lift_ok hr
    split at hr
    · obtain ⟨_, _, _, hr⟩ := after_bind_ok hr
      cases hr
      exact hr'
    · cases hr
      exact hr'

lemma makeMembers_made (hpos : 0 < reg.classes.size)
    (ht : Alike reg t) (h : after (ds.mapM makeMember) t = (.ok ms, u)) : Forall₂ (Made reg) ds ms := by
  induction ds generalizing ms t with
  | nil =>
    cases h
    exact .nil
  | cons d ds ih =>
    rw [mapM_cons] at h
    obtain ⟨m, t', hm, h⟩ := after_bind_ok h
    obtain ⟨rest, u', hrest, h⟩ := after_bind_ok h
    cases h
    have hmade : Made reg d m := by
      have hmade := makeMember_made hm
      cases d <;> cases m <;> first | exact hmade | exact (ht.relationOf _).symm.trans hmade
    have hsettles := ((leads_makeMember (ht.size ▸ hpos) d).of_ok hm).1
    exact .cons hmade (ih (ht.trans (alike_of_settles hsettles)) hrest)

lemma exists_kept (reg : Registry) (hr : .rel r ∈ ms) : ∃ s, .rel s ∈ reg.dedupMembers ms ∧ reg.sameRelation s r = true := by
  have hfold (l : List Member) : ∀ acc : List Member,
      (∀ m ∈ acc, m ∈ l.foldl (fun acc m => if acc.any (reg.sameMember · m) then acc else m :: acc) acc) ∧
      ∀ r, .rel r ∈ l → ∃ m ∈ l.foldl (fun acc m => if acc.any (reg.sameMember · m) then acc else m :: acc) acc,
        reg.sameMember m (.rel r) = true := by
    induction l with
    | nil => exact fun acc => ⟨fun m hm => hm, fun r hr => by cases hr⟩
    | cons m l ih =>
      intro acc
      rw [foldl_cons]
      obtain ⟨hold, hnew⟩ := ih (if acc.any (reg.sameMember · m) then acc else m :: acc)
      refine ⟨fun m' hm' => hold m' ?_, fun r hr => ?_⟩
      · split
        · exact hm'
        · exact mem_cons_of_mem m hm'
      rcases mem_cons.mp hr with rfl | hr
      · split at hold
        · rename_i hany
          obtain ⟨m', hm', hsame⟩ := any_eq_true.mp hany
          exact ⟨m', by simpa [hany] using hold m' hm', hsame⟩
        · rename_i hany
          refine ⟨.rel r, by simpa [hany] using hold _ (.head _), ?_⟩
          exact agrees_iff.mpr ⟨rfl, fun _ => Iff.rfl⟩
      · exact hnew r hr
  obtain ⟨m, hm, hsame⟩ := (hfold ms []).2 r hr
  cases m with
  | rel s => exact ⟨s, mem_reverse.mpr hm, hsame⟩
  | cls c | name s => cases hsame

/-- How many members a relation may add by its constraints. -/
def constraintCount : Member → Nat
  | .rel r => r.constrain.length
  | _ => 0

lemma memberBound_pos (ms : List Member) : 0 < memberBound ms := by
  unfold memberBound
  omega

lemma memberBound_cons (m : Member) (ms : List Member) : memberBound (m :: ms) = memberBound ms + 1 + constraintCount m := by
  simp only [memberBound, ← sum_eq_foldl, map_cons, sum_cons, length_cons]
  cases m <;> simp only [constraintCount] <;> omega

lemma memberBound_append (ms extra : List Member) : memberBound (ms ++ extra) + 1 = memberBound ms + memberBound extra := by
  induction ms with
  | nil => exact Nat.add_comm _ _
  | cons m ms ih =>
    rw [cons_append, memberBound_cons, memberBound_cons]
    omega

/-- Constraints add no relations, and no more members than there are constraints. -/
lemma memberBound_constraintMembers (reg : Registry) (there : List Member) (r : Relation) :
    memberBound (constraintMembers reg there r) ≤ r.constrain.length + 1 := by
  have hfold (l : List Constraint) : ∀ acc : List Member,
      memberBound (l.foldl (fun acc c => if (there ++ acc).any (reg.sameMember · (constraintMember c)) then acc
        else acc ++ [constraintMember c]) acc) ≤ l.length + memberBound acc := by
    induction l with
    | nil => exact fun acc => Nat.le_add_left _ _
    | cons c l ih =>
      intro acc
      rw [foldl_cons, length_cons]
      split
      · exact (ih acc).trans (by omega)
      · have hone : memberBound [constraintMember c] = 2 := by cases c <;> rfl
        have happend := memberBound_append acc [constraintMember c]
        exact (ih _).trans (by omega)
  exact hfold r.constrain []

lemma bound_eq (reg : Registry) (self : ClassId) (r : Relation) (hself : r.toSelf = true → r.target = .awaiting "self") :
    ∃ target, bound self reg r = { r with target } ∧ (target = r.target ∨ ∃ s, r.target = .awaiting s) := by
  unfold bound
  split
  · rename_i hto
    exact ⟨_, rfl, .inr ⟨_, hself hto⟩⟩
  · rcases reg.resolveRelation_cases r with heq | ⟨s, c, hs, -, heq⟩
    · exact ⟨r.target, heq, .inl rfl⟩
    · exact ⟨.cls c, heq, .inr ⟨s, hs⟩⟩

lemma constrain_bound (self : ClassId) (reg : Registry) (r : Relation) : (bound self reg r).constrain = r.constrain := by
  unfold bound
  split
  · rfl
  · rcases reg.resolveRelation_cases r with heq | ⟨_, _, _, _, heq⟩ <;> rw [heq]

/-- What holds of the members to go through and those gone through, and is kept with every member, holds at
the end. -/
lemma passMembers_run {start : Registry} {P : List Member → List Member → Prop}
    (hcls : ∀ {c rest passed}, P (.cls c :: rest) passed → P rest (passed ++ [.cls c]))
    (hrel : ∀ {r rest passed t} (u : Registry), ReflTransGen Settles start t → P (.rel r :: rest) passed →
      P (rest ++ constraintMembers u (passed ++ .rel (bound self t r) :: rest) (bound self t r)) (passed ++ [.rel (bound self t r)])) :
    ∀ (fuel : Nat) {ms : List Member} {p p' : Progress} {t u : Registry}, memberBound ms ≤ fuel →
      ReflTransGen Settles start t → after (passMembers self fuel ms p) t = (.ok p', u) → P ms p.passed → P [] p'.passed
  | 0, ms, _, _, _, _, hfuel, _, _, _ => absurd (memberBound_pos ms) (by omega)
  | fuel + 1, [], _, _, _, _, _, _, h, hP => by
    cases h
    exact hP
  | fuel + 1, m :: rest, p, p', t, u, hfuel, ht, h, hP => by
    rw [memberBound_cons] at hfuel
    have henter {q : Progress} {s : String} : (q.enter s).passed = q.passed := by
      unfold Progress.enter
      split <;> rfl
    unfold passMembers at h
    cases m with
    | name s => cases h
    | cls c =>
      exact passMembers_run hcls hrel fuel (by omega) ht h (by rw [henter]; exact hcls hP)
    | rel r =>
      rw [after_get_bind] at h
      obtain ⟨_, t', hnote, h⟩ := after_bind_ok h
      obtain ⟨ht', -⟩ := (leads_note _).of_ok hnote
      rw [after_get_bind] at h
      split at h
      · cases h
      have hextra := memberBound_constraintMembers t' (p.passed ++ Member.rel (bound self t r) :: rest) (bound self t r)
      rw [constrain_bound] at hextra
      have hconstrain : r.constrain.length = constraintCount (.rel r) := rfl
      have happend := memberBound_append rest (constraintMembers t' (p.passed ++ .rel (bound self t r) :: rest) (bound self t r))
      exact passMembers_run hcls hrel fuel (by omega) (ht.trans ht') h (by rw [henter]; exact hrel t' ht hP)

lemma passMembers_keeps {p p' : Progress} (h : after (passMembers self (memberBound ms) ms p) t = (.ok p', u)) (r : Relation)
    (hr : .rel r ∈ ms) : ∃ t', .rel (bound self t' r) ∈ p'.passed := by
  have hrun := passMembers_run (P := fun ms passed => .rel r ∈ ms ∨ ∃ t', .rel (bound self t' r) ∈ passed) ?_ ?_ _
    le_rfl .refl h (.inl hr)
  · exact hrun.resolve_left not_mem_nil
  · rintro c rest passed (hr | ⟨t', ht'⟩)
    · exact .inl ((mem_cons.mp hr).resolve_left nofun)
    · exact .inr ⟨t', mem_append_left _ ht'⟩
  · rintro s rest passed t v - (hr | ⟨t', ht'⟩)
    · rcases mem_cons.mp hr with hr | hr
      · cases hr
        exact .inr ⟨t, mem_append_right _ (mem_singleton_self _)⟩
      · exact .inl (mem_append_left _ hr)
    · exact .inr ⟨t', mem_append_left _ ht'⟩

lemma complete_members {draft k : Class} {children parents : List Member}
    (h : after (complete self draft children parents) t = (.ok k, u)) (r : Relation) :
    (.rel r ∈ parents → ∃ t', .rel (bound self t' r) ∈ k.parents) ∧
    (.rel r ∈ children → ∃ t', .rel (bound self t' r) ∈ k.children) := by
  obtain ⟨below, t₁, hbelow, h⟩ := after_bind_ok h
  obtain ⟨above, t₂, habove, h⟩ := after_bind_ok h
  rw [after_get_bind] at h
  obtain ⟨_, _, h⟩ := after_lift_ok h
  cases h
  exact ⟨passMembers_keeps habove r, passMembers_keeps hbelow r⟩

/-- Nothing cancels between the relations of declared members. -/
def Apart (reg : Registry) (ds : List MemberDecl) : Prop :=
  ∀ d d' r s, .rel d ∈ ds → .rel d' ∈ ds → relationOf reg d = .ok r → relationOf reg d' = .ok s → reg.Distinct r s

/-- Every declared relation is found among the members, to a class of the same name. A class that it waits for
may have been found since. -/
def Holds (reg : Registry) (ds : List MemberDecl) (ms : List Member) : Prop :=
  ∀ d, .rel d ∈ ds → ∃ r s target, relationOf reg d = .ok r ∧ .rel { s with target } ∈ ms ∧ r.Alike s ∧
    reg.targetName r.target = reg.targetName s.target ∧ (target = s.target ∨ ∃ n, s.target = .awaiting n)

lemma relationOf_toSelf {d : RelationDecl} (h : relationOf reg d = .ok r) (hself : r.toSelf = true) :
    r.target = .awaiting "self" := by
  obtain ⟨target, -, h⟩ := bind_ok h
  obtain ⟨⟨min, max⟩, -, h⟩ := bind_ok h
  cases h
  simpa using hself

/-- A class whose members are the declared ones, without those equal to an earlier one, holds all relations
between which nothing cancels. -/
lemma Apart.holds {made : List Member} (hapart : reg.Apart ds) (halike : Alike reg t) (hmade : Forall₂ (Made reg) ds made)
    (hms : ∀ s, .rel s ∈ t.dedupMembers made → ∃ t', .rel (bound self t' s) ∈ ms) : reg.Holds ds ms := by
  intro d hd
  obtain ⟨m, hm, hmd⟩ := exists_of_forall₂ hmade hd
  cases m with
  | name s | cls c => cases hmd
  | rel r =>
    obtain ⟨s, hs, hsame⟩ := exists_kept t hm
    rw [halike.sameRelation] at hsame
    obtain ⟨d', hd', hs'⟩ := exists_of_forall₂ hmade.flip (mem_dedupMembers _ hs)
    cases d' with
    | name n => cases hs'
    | rel d' =>
      obtain ⟨hagree, hname⟩ := (hapart d' d s r hd' hd hs' hmd).alike hsame
      obtain ⟨t', hbound⟩ := hms s hs
      obtain ⟨target, heq, htarget⟩ := bound_eq t' self s (relationOf_toSelf hs')
      exact ⟨r, s, target, hmd, heq ▸ hbound, hagree.symm, hname.symm, htarget⟩

lemma made_parts {side : Option (List MemberDecl)} {made : Option (List Member)}
    (hpos : 0 < reg.classes.size) (halike : Alike reg t) (hside : side = some ds)
    (h : after (side.mapM (·.mapM makeMember)) t = (.ok made, u)) : ∃ ms, made = some ms ∧ Forall₂ (Made reg) ds ms := by
  subst hside
  obtain ⟨ms, _, hms, h⟩ := after_bind_ok h
  cases h
  exact ⟨ms, rfl, makeMembers_made hpos halike hms⟩

/-- Relations between which nothing cancels are equal only if they agree, and a declaration keeps them all. -/
theorem relations_told_apart (hpos : 0 < reg.classes.size) :
    (∀ r s, reg.Distinct r s → reg.sameRelation r s = true → r.Alike s ∧ reg.targetName r.target = reg.targetName s.target) ∧
    ∀ d c reg', after (SurveyGraph.declare d) reg = (.ok c, reg') →
      (∀ ds, d.parents = some ds → reg.Apart ds → reg.Holds ds (reg'.get c).parents) ∧
      ∀ ds, d.children = some ds → reg.Apart ds → reg.Holds ds (reg'.get c).children := by
  refine ⟨fun r s hdistinct => hdistinct.alike, fun d c reg' h => ?_⟩
  obtain ⟨bases, parents, children, produces, draft, st, rfl⟩ := declare_steps hpos h
  obtain ⟨-, -, -, -, b, hparents, hchildren⟩ := draft_ok st.draft_eq
  obtain ⟨final, u, hcomplete, rfl⟩ := finish_final st.finish_eq
  obtain ⟨hsettles, -⟩ := (leads_complete_same _ _ _ _ _).of_ok hcomplete
  rw [get_withFinal_self hsettles]
  refine ⟨fun ds hds hapart => ?_, fun ds hds hapart => ?_⟩
  · obtain ⟨ms, rfl, hmade⟩ := made_parts hpos st.alike₀ hds st.parents_eq
    exact hapart.holds st.alike hmade fun s hs => (complete_members hcomplete s).1 (hparents ▸ hs)
  · obtain ⟨ms, rfl, hmade⟩ := made_parts hpos st.alike₁ hds st.children_eq
    exact hapart.holds st.alike hmade fun s hs => (complete_members hcomplete s).2 (hchildren ▸ hs)

/-- Stars, which relations go to. -/
def starRegistry : Registry :=
  (after (SurveyGraph.declare { name := "Star", pluralName := some "stars", idname := some (.text "number") }) Registry.empty).2

def someStars (min max : Int) : RelationDecl :=
  { kind := .multiple, node := .text "Star", min := some (.int min), max := some (.int max) }

def starsOf (min max : Int) : Relation := { Relation.one 1 with kind := .multiple, min, max := some max }

lemma relationOf_someStars (min max : Int) : relationOf starRegistry (someStars min max) = .ok (starsOf min max) := by
  have hlookup : starRegistry.lookup? "Star" = some 1 := by decide +kernel
  have htarget : targetOf starRegistry (.text "Star") = .ok (.cls 1) := by simp [targetOf, hlookup]
  exact bind_of_ok htarget _

lemma clear_starsOf (min max : Int) : (starsOf min max).Clear (starRegistry.targetName (starsOf min max).target) := by
  have hname : starRegistry.targetName (.cls 1) = "Star" := by decide +kernel
  exact ⟨by rw [starsOf, Relation.one, hname]; decide, fun _ hi => (nomatch hi), fun _ hk => (nomatch hk), nodup_nil⟩

def runOf (a b : RelationDecl) : Declaration :=
  { name := "Run", pluralName := some "runs", idname := some (.text "number"), parents := some [.rel a, .rel b] }

theorem relations_told_apart_runs : starRegistry.Holds [.rel (someStars 1 2), .rel (someStars 1 3)]
    ((after (SurveyGraph.declare (runOf (someStars 1 2) (someStars 1 3))) starRegistry).2.get 2).parents := by
  have hok : (after (SurveyGraph.declare (runOf (someStars 1 2) (someStars 1 3))) starRegistry).1 = .ok 2 :=
    eq_ok_of_gives (by decide +kernel)
  have hmember (d : RelationDecl) (hd : .rel d ∈ [MemberDecl.rel (someStars 1 2), .rel (someStars 1 3)]) :
      ∃ max, (max = 2 ∨ max = 3) ∧ d = someStars 1 max := by
    rcases List.mem_cons.mp hd with hd | hd
    · exact ⟨2, .inl rfl, MemberDecl.rel.inj hd⟩
    · exact ⟨3, .inr rfl, MemberDecl.rel.inj (List.mem_singleton.mp hd)⟩
  have hapart : starRegistry.Apart [.rel (someStars 1 2), .rel (someStars 1 3)] := by
    intro d d' r s hd hd' hr hs
    obtain ⟨m, hm, rfl⟩ := hmember d hd
    obtain ⟨m', hm', rfl⟩ := hmember d' hd'
    cases (relationOf_someStars 1 m).symm.trans hr
    cases (relationOf_someStars 1 m').symm.trans hs
    refine ⟨clear_starsOf 1 m, clear_starsOf 1 m', fun _ => ⟨fun hi => (nomatch hi), fun hi => (nomatch hi)⟩, fun _ => rfl, ?_,
      fun _ => .inr (.inr (.inl ⟨rfl, rfl⟩))⟩
    intro a b ha hb
    cases ha
    cases hb
    rcases hm with rfl | rfl <;> rcases hm' with rfl | rfl <;> decide
  exact ((relations_told_apart (by decide +kernel)).2 _ 2 _ (Prod.ext hok rfl)).1 _ rfl hapart

/-- Exactly two and exactly three stars count as the same, and a class that declares both keeps the first. -/
theorem exists_relation_dropped : starRegistry.sameRelation (starsOf 2 2) (starsOf 3 3) = true ∧
    (after (SurveyGraph.declare (runOf (someStars 2 2) (someStars 3 3))) starRegistry).1 = .ok 2 ∧
    ((after (SurveyGraph.declare (runOf (someStars 2 2) (someStars 3 3))) starRegistry).2.get 2).parents =
      [.rel (starsOf 2 2)] :=
  ⟨by decide +kernel, eq_ok_of_gives (by decide +kernel), eq_of_beq (by decide +kernel)⟩

end Registry

end SurveyGraph
