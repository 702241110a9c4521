import SurveyGraph.Proofs.SoundClasses
/-!
# What identifies the instances of a class

How instances are written and which constraints the database keeps are decided by the names of members and factors. Both are
known for every declared class, unless it has relations of which no name is that of a factor or identifies, or is asked about
while a relation waits for a class that is not declared.
-/
open Relation List

namespace SurveyGraph.Registry

variable {reg reg' : Registry} {c : Nat} (identity : List String)

/-! ## Questions about identity -/

/-- Relations wait for an undeclared class, and a question about the class looks at relations. -/
def Blocked (reg : Registry) (c : ClassId) : Prop := reg.asksRelations c = true ∧ ∃ s ∈ reg.pending, reg.find? s = none

/-- The class has relations, but none has the name of a factor or identifies. -/
def Astray (reg : Registry) (c : ClassId) : Prop :=
  reg.relativeList c ≠ [] ∧ ∀ s ∈ reg.relativeList c, s ∉ (reg.get c).factors ∧ s ∉ (reg.get c).identity.getD []

instance (reg : Registry) (c : ClassId) : Decidable (Astray reg c) := inferInstanceAs (Decidable (_ ∧ _))

lemma settle_cases (reg : Registry) : (∃ s ∈ reg.pending, reg.find? s = none) ∧ reg.settle = refuse .tooDeep ∨
    (∀ s ∈ reg.pending, reg.find? s ≠ none) ∧ ∃ reg', reg.settle = .ok reg' ∧ ReflTransGen Settles reg reg' := by
  unfold settle
  split
  · rename_i hnone
    rw [List.isEmpty_iff.mp hnone]
    exact .inr ⟨fun s hs => (nomatch hs), reg, rfl, .refl⟩
  · split
    · rename_i hall
      refine .inr ⟨fun s hs => ?_, _, rfl, .single (.resolves reg [])⟩
      exact Option.isSome_iff_ne_none.mp (all_eq_true.mp hall s hs)
    · rename_i hsome
      simpa using hsome

/-- A question about a class is answered from settled relations, unless the class is blocked. -/
lemma askIdentity_answer (reg : Registry) (c : ClassId) :
    Blocked reg c ∧ (∀ {α : Type} (question : Registry → ClassId → Except Fault α),
      (after (askIdentity c true question) reg).1 = refuse .tooDeep) ∨
    ¬Blocked reg c ∧ ∃ reg', ReflTransGen Settles reg reg' ∧ ∀ {α : Type} (question : Registry → ClassId → Except Fault α),
      (after (askIdentity c true question) reg).1 = question reg' c := by
  simp only [Write.after_askIdentity, Bool.true_and]
  unfold Blocked
  by_cases hasks : reg.asksRelations c = true
  · simp only [hasks, if_true, true_and]
    rcases settle_cases reg with ⟨hnone, hs⟩ | ⟨hall, reg', hs, hsettles⟩
    · exact .inl ⟨hnone, fun question => by rw [hs]; rfl⟩
    · refine .inr ⟨fun ⟨s, hs, hnone⟩ => hall s hs hnone, reg', hsettles, fun question => by rw [hs]⟩
  · simp only [hasks, false_and, not_false_eq_true, true_and, Bool.false_eq_true, if_false]
    exact .inr ⟨reg, .refl, fun question => rfl⟩

lemma relativeList_of_settles (hsound : Sound reg reg.classes.size (reg.get c)) (h : ReflTransGen Settles reg reg') :
    reg'.relativeList c = reg.relativeList c ∧ (Astray reg' c ↔ Astray reg c) := by
  have hnames : reg'.relativeList c = reg.relativeList c := (sound_of_settles h hsound).1
  refine ⟨hnames, ?_⟩
  unfold Astray
  rw [hnames, (alike_of_settles h).get c]

section Answers

variable {identity : List String} (hidentity : (reg.get c).identity = some identity) (hnames : identity ≠ [])

include hidentity hnames

lemma hasRelationIdentity_iff : reg.hasRelationIdentity c = true ↔ ∃ s ∈ identity, s ∈ reg.relativeList c := by
  unfold hasRelationIdentity
  simp only [hidentity]
  rw [any_eq_true]
  simp only [contains_iff_mem]
  exact exists_congr fun s => and_comm

lemma hasFactorIdentity_eq : reg.hasFactorIdentity c =
    if Astray reg c then refuse (SchemaCause.strayIdentity (reg.get c).shown) else .ok (!reg.hasRelationIdentity c) := by
  obtain ⟨a, l, rfl⟩ := exists_cons_of_ne_nil hnames
  have hastray : Astray reg c ↔ (!(reg.relativeList c).any (fun r => (reg.get c).factors.contains r || (a :: l).contains r)
      && !(reg.relativeList c).isEmpty) = true := by
    unfold Astray
    rw [hidentity]
    simp only [Bool.and_eq_true, Bool.not_eq_true', any_eq_false, Bool.or_eq_true, contains_iff_mem, not_or,
      isEmpty_eq_false_iff]
    exact and_comm
  unfold hasFactorIdentity hasRelationIdentity
  simp only [hidentity]
  by_cases h : Astray reg c
  · rw [if_pos h, if_pos (hastray.mp h)]
  · rw [if_neg h, if_neg (mt hastray.mpr h)]

/-- How instances are written is decided by the names of relations. -/
lemma mergeStrategy_eq (hidname : (reg.get c).idname = none) : reg.mergeStrategy c =
    if Astray reg c then refuse (SchemaCause.strayIdentity (reg.get c).shown)
    else .ok (if reg.hasRelationIdentity c then .nodeWithRelations else .nodeFirst) := by
  have hfactors := hasFactorIdentity_eq hidentity hnames
  obtain ⟨a, l, rfl⟩ := exists_cons_of_ne_nil hnames
  unfold mergeStrategy
  simp only [hidname, hidentity, hfactors, Option.isSome_none, Option.getD_some, isEmpty_cons, Bool.or_self,
    Bool.false_eq_true, if_false]
  by_cases h : Astray reg c
  · simp only [h, if_true]
    rfl
  · simp only [h, if_false]
    cases reg.hasRelationIdentity c <;> rfl

lemma identityStatements_eq (hidname : (reg.get c).idname = none) : reg.identityStatements c =
    if Astray reg c then refuse (SchemaCause.strayIdentity (reg.get c).shown) else if reg.hasRelationIdentity c then
      let fs := identity.filter (reg.get c).factors.contains
      .ok ((if fs.isEmpty then [] else [indexOn (reg.get c).name "rel" fs]) ++ fs.map (fun f => indexOn (reg.get c).name f [f]))
    else .ok [nodeKey (reg.get c).name identity] := by
  have hfactors := hasFactorIdentity_eq hidentity hnames
  obtain ⟨a, l, rfl⟩ := exists_cons_of_ne_nil hnames
  unfold identityStatements
  simp only [hidname, hidentity, hfactors, Option.getD_some, isEmpty_cons, Bool.false_eq_true, if_false]
  by_cases h : Astray reg c
  · simp only [h, if_true]
    rfl
  · simp only [h, if_false]
    cases reg.hasRelationIdentity c <;> rfl

lemma constraints_eq (htemplate : (reg.get c).isTemplate = false) :
    reg.constraints c = (reg.identityStatements c).map (· ++ indexStatements (reg.get c)) := by
  obtain ⟨a, l, rfl⟩ := exists_cons_of_ne_nil hnames
  unfold constraints
  simp only [htemplate, hidentity, Option.getD_some, isEmpty_cons, Bool.and_false, Bool.false_eq_true, if_false]
  cases reg.identityStatements c <;> rfl

end Answers

lemma indexOn_ne_nodeKey (name suffix other : String) (names names' : List String) :
    indexOn name suffix names ≠ nodeKey other names' := by
  intro h
  have hlist := congrArg String.toList h
  unfold indexOn nodeKey at hlist
  simp [toString, String.toList_append] at hlist

/-- The statements of a class hold a key exactly if no relation identifies an instance. -/
lemma nodeKey_mem_iff {identity : List String} (hidentity : (reg.get c).identity = some identity) (hnames : identity ≠ [])
    (hidname : (reg.get c).idname = none) {statements : List String} (h : reg.identityStatements c = .ok statements) :
    (∃ names, nodeKey (reg.get c).name names ∈ statements ++ indexStatements (reg.get c)) ↔
      reg.hasRelationIdentity c = false := by
  have hindex : ∀ names, nodeKey (reg.get c).name names ∉ indexStatements (reg.get c) := by
    intro names hmem
    obtain ⟨i, -, hi⟩ := mem_map.mp hmem
    exact indexOn_ne_nodeKey _ _ _ _ _ hi
  rw [identityStatements_eq hidentity hnames hidname] at h
  split at h
  · cases h
  · split at h
    · rename_i hrelations
      cases h
      refine ⟨fun ⟨names, hmem⟩ => ?_, fun hnot => by rw [hrelations] at hnot; cases hnot⟩
      rcases mem_append.mp hmem with hmem | hmem
      · rcases mem_append.mp hmem with hmem | hmem
        · split at hmem
          · cases hmem
          · exact (indexOn_ne_nodeKey _ _ _ _ _ (mem_singleton.mp hmem).symm).elim
        · obtain ⟨f, -, hf⟩ := mem_map.mp hmem
          exact (indexOn_ne_nodeKey _ _ _ _ _ hf).elim
      · exact (hindex names hmem).elim
    · rename_i hrelations
      cases h
      exact ⟨fun _ => Bool.not_eq_true _ ▸ hrelations, fun _ => ⟨identity, mem_append_left _ (mem_singleton_self _)⟩⟩

/-- How instances of a class are written, as answered on demand. -/
def askedStrategy (reg : Registry) (c : ClassId) : Except Fault MergeStrategy :=
  (after (askIdentity c true mergeStrategy) reg).1

/-- The statements for a class, as they are answered on demand. -/
def askedConstraints (reg : Registry) (c : ClassId) : Except Fault (List String) :=
  (after (askIdentity c true constraints) reg).1

/-- Stars, and spectra of one star each, identified by the given names. -/
def spectrumRegistry : Registry :=
  let star : Declaration := { name := "Star", pluralName := some "stars", idname := some (.text "number") }
  let spectrum : Declaration :=
    { name := "Spectrum", pluralName := some "spectra", factors := some ["exposure"], parents := some [.name "Star"]
      identity := some (some identity) }
  (after (SurveyGraph.declare spectrum) (after (SurveyGraph.declare star) Registry.empty).2).2

lemma goes_spectrumRegistry : ReflTransGen Goes Registry.empty (spectrumRegistry identity) :=
  (ReflTransGen.single (.declares _ _)).tail (.declares _ _)

end SurveyGraph.Registry
