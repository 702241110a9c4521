import SurveyGraph.Proofs.ClassIdentity
/-!
# Properties that the database keeps keys and indexes of

The statements for a class name its id, what identifies its instances, and what it asks to be indexed. In every session these
are properties that the nodes have (`constraints_known`), unless the class lists nothing in place of an index, as one does
that takes back inherited indexes.
-/
open Relation List

namespace SurveyGraph.Registry

variable {reg reg' : Registry} {c : ClassId} {n : Nat} {lines : List String}

/-- The statement is a key or an index over these properties. -/
def Names (name line : String) (ps : List String) : Prop := line = nodeKey name ps ∨ ∃ suffix, line = indexOn name suffix ps

/-- All properties that the statements name are the id or factors of the class. -/
def Known (k : Class) (lines : List String) : Prop :=
  ∀ line ∈ lines, ∃ ps, Names k.name line ps ∧ ∀ p ∈ ps, k.idname = some p ∨ p ∈ k.factors

lemma Sound.identity_factors (h : Sound reg n (reg.get c)) {identity : List String}
    (hidentity : (reg.get c).identity = some identity) (hnames : identity ≠ []) (hrel : reg.hasRelationIdentity c ≠ true) :
    ∀ p ∈ identity, p ∈ (reg.get c).factors := by
  intro p hp
  refine (h.identity p (by rw [hidentity]; exact hp)).resolve_left fun hmem => hrel ?_
  exact (hasRelationIdentity_iff hidentity hnames).mpr ⟨p, hp, hmem⟩

lemma Sound.identityStatements_known (h : Sound reg n (reg.get c)) (hlines : reg.identityStatements c = .ok lines) :
    Known (reg.get c) lines := by
  intro line hline
  cases hidname : (reg.get c).idname with
  | some idname =>
    unfold identityStatements at hlines
    simp only [hidname, Except.ok.injEq] at hlines
    subst hlines
    refine ⟨[idname], .inl (mem_singleton.mp hline), fun p hp => .inl ?_⟩
    rw [mem_singleton.mp hp]
  | none =>
    by_cases hnone : (reg.get c).identity.getD [] = []
    · unfold identityStatements at hlines
      simp only [hidname, hnone, isEmpty_nil, if_true, Except.ok.injEq] at hlines
      subst hlines
      cases hline
    · obtain ⟨identity, hidentity⟩ : ∃ identity, (reg.get c).identity = some identity := by
        cases hi : (reg.get c).identity with
        | none => exact absurd (by rw [hi]; rfl) hnone
        | some identity => exact ⟨identity, rfl⟩
      have hnames : identity ≠ [] := fun hnil => hnone (by rw [hidentity, hnil]; rfl)
      rw [identityStatements_eq hidentity hnames hidname] at hlines
      split at hlines
      · cases hlines
      split at hlines
      · -- the relations are written with the node: there is an index over all its factors, and one over each of them
        have hfs {p : String} (hp : p ∈ identity.filter (reg.get c).factors.contains) : p ∈ (reg.get c).factors :=
          contains_iff_mem.mp (mem_filter.mp hp).2
        cases hlines
        rcases mem_append.mp hline with hline | hline
        · split at hline
          · cases hline
          · exact ⟨_, .inr ⟨_, mem_singleton.mp hline⟩, fun p hp => .inr (hfs hp)⟩
        · obtain ⟨f, hf, rfl⟩ := mem_map.mp hline
          refine ⟨_, .inr ⟨_, rfl⟩, fun p hp => .inr ?_⟩
          rw [mem_singleton.mp hp]
          exact hfs hf
      · rename_i hrel
        cases hlines
        exact ⟨identity, .inl (mem_singleton.mp hline), fun p hp => .inr (h.identity_factors hidentity hnames hrel p hp)⟩

lemma Sound.indexStatements_known {k : Class} (h : Sound reg n k) (hnone : none ∉ k.indexes) : Known k (indexStatements k) := by
  intro line hline
  obtain ⟨i, hi, rfl⟩ := mem_map.mp hline
  have hmem := (mem_filter.mp hi).1
  cases i with
  | none => exact absurd hmem hnone
  | some s =>
    refine ⟨_, .inr ⟨_, rfl⟩, fun p hp => .inr ?_⟩
    rw [mem_singleton.mp hp]
    exact h.indexes s hmem

lemma constraints_ok (h : reg.constraints c = .ok lines) :
    lines = [] ∨ ∃ statements, reg.identityStatements c = .ok statements ∧ lines = statements ++ indexStatements (reg.get c) := by
  unfold constraints at h
  dsimp only at h
  split at h
  · cases h
    exact .inl rfl
  · obtain ⟨statements, hs, h⟩ := bind_ok h
    obtain ⟨-, h⟩ := unless_ok h
    cases h
    exact .inr ⟨statements, hs, rfl⟩

lemma Sound.constraints_all_known (h : Sound reg n (reg.get c)) (hnone : none ∉ (reg.get c).indexes)
    (hlines : reg.constraints c = .ok lines) : Known (reg.get c) lines := by
  rcases constraints_ok hlines with rfl | ⟨statements, hs, rfl⟩
  · exact fun line hline => by cases hline
  · intro line hline
    rcases mem_append.mp hline with hline | hline
    · exact h.identityStatements_known hs line hline
    · exact h.indexStatements_known hnone line hline

lemma goes_registryOf (ds : List Declaration) : ReflTransGen Goes Registry.empty (Survey.registryOf ds) :=
  (Keeps.mapM (fun d reg => ⟨.single (.declares reg d), fun _ _ => trivial⟩) Registry.empty).1

/-- In every session, and so for the survey, the statements for a class without nothing among its indexes name
properties that its nodes have. -/
theorem constraints_known (hreg : ReflTransGen Goes Registry.empty reg ∨ reg = Survey.registry)
    (hnone : none ∉ (reg.get c).indexes) (hlines : askedConstraints reg c = .ok lines) : Known (reg.get c) lines := by
  have hgoes : ReflTransGen Goes Registry.empty reg := by
    rcases hreg with hreg | rfl
    · exact hreg
    · exact goes_registryOf (Survey.declarations ++ [Survey.schemaNode])
  have hsound := (sane_of_goes hgoes).sound c
  unfold askedConstraints at hlines
  rcases askIdentity_answer reg c with ⟨-, hanswer⟩ | ⟨-, reg', hsettles, hanswer⟩
  · rw [hanswer] at hlines
    cases hlines
  · rw [hanswer] at hlines
    have hget := (alike_of_settles hsettles).get c
    have hknown := (sound_of_settles hsettles hsound).2.constraints_all_known (by rw [hget]; exact hnone) hlines
    rw [hget] at hknown
    exact hknown

/-- Stars, and spectra that one star each identifies, with indexes. -/
def indexedRegistry (indexes : List (Option String)) : Registry :=
  let star : Declaration := { name := "Star", pluralName := some "stars", idname := some (.text "number") }
  let spectrum : Declaration :=
    { name := "Spectrum", pluralName := some "spectra", factors := some ["exposure"], parents := some [.name "Star"]
      identity := some (some ["star"]), indexes := some indexes }
  (after (SurveyGraph.declare spectrum) (after (SurveyGraph.declare star) Registry.empty).2).2

lemma goes_indexedRegistry (indexes : List (Option String)) : ReflTransGen Goes Registry.empty (indexedRegistry indexes) :=
  (ReflTransGen.single (.declares _ _)).tail (.declares _ _)

theorem constraints_known_exposure : askedConstraints (indexedRegistry [some "exposure"]) 2 =
      .ok ["CREATE INDEX Spectrum_exposure FOR (n:Spectrum) ON (n.exposure)"] ∧
    Known ((indexedRegistry [some "exposure"]).get 2) ["CREATE INDEX Spectrum_exposure FOR (n:Spectrum) ON (n.exposure)"] := by
  have hlines : askedConstraints (indexedRegistry [some "exposure"]) 2 =
      .ok ["CREATE INDEX Spectrum_exposure FOR (n:Spectrum) ON (n.exposure)"] := eq_ok_of_gives (by decide +kernel)
  exact ⟨hlines, constraints_known (.inl (goes_indexedRegistry _)) (by decide +kernel) hlines⟩

/-- Spectra with nothing among their indexes are indexed by a property that they do not have. -/
theorem exists_property_unknown : ((indexedRegistry [none]).get 2).isTemplate = false ∧
    askedConstraints (indexedRegistry [none]) 2 = .ok [indexOn "Spectrum" "None" ["None"]] ∧
    ((indexedRegistry [none]).get 2).idname = none ∧ "None" ∉ ((indexedRegistry [none]).get 2).factors :=
  ⟨by decide +kernel, eq_ok_of_gives (by decide +kernel), by decide +kernel, by decide +kernel⟩

end SurveyGraph.Registry
