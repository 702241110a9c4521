import SurveyGraph.Catalogue.Names
import SurveyGraph.Proofs.NamedLists
import SurveyGraph.Proofs.Schemas
/-!
# Names for one and for many

A catalogue keeps the names of classes, factors and relations, each for one and for many. The name for many is looked up
among the names for one, where a factor stands for itself and a relation for its declarations; the name for one among the
names for many. So the two undo each other for names of classes only, where no other table has the name for many
(`roundTrip_iff`, `exists_factor_not_plural`).
-/
open List

namespace SurveyGraph.Catalogue
open Text.Letter

variable {reg : Registry} {given : List ClassId} {d : Catalogue} {n p : String} {c : ClassId}

/-- What the tables of a catalogue hold. -/
structure Tabled (reg : Registry) (d : Catalogue) : Prop where
  source : d.reg = reg
  byClass : d.byClass = d.classes.foldl (fun acc c => setNamed (reg.get c).name c acc) []
  singular : d.singular = d.classes.foldl (fun acc c => setNamed (reg.get c).singularName c acc) []
  plural : d.plural = (d.classes.foldl (fun acc c => setNamed (reg.get c).pluralName c acc) []).filter (·.1 != "graphables")
  pluralFactors : ∀ e ∈ d.pluralFactors, e.2 ∈ d.factors
  pluralRelatives : ∀ e ∈ d.pluralRelatives, (d.relatives.lookup e.2).isSome

lemma ofClasses_tabled (h : ofClasses reg given = .ok d) : Tabled reg d := by
  obtain ⟨pluralFactors, hfactors, h⟩ := bind_ok h
  obtain ⟨pluralIdnames, _, h⟩ := bind_ok h
  obtain ⟨pluralRelatives, hrelatives, h⟩ := bind_ok h
  cases h
  refine ⟨rfl, rfl, rfl, rfl, fun e he => ?_, fun e he => ?_⟩
  · obtain ⟨s, hs, hpair⟩ := mem_of_mapM_ok hfactors (mem_reverse.mp he)
    obtain ⟨_, _, hpair⟩ := bind_ok hpair
    cases hpair
    exact hs
  · obtain ⟨s, hs, hpair⟩ := mem_of_mapM_ok hrelatives he
    obtain ⟨_, _, hpair⟩ := bind_ok hpair
    cases hpair
    exact isSome_lookup_iff.mpr (mem_map_of_mem hs)

/-- Classes differ in their names for one and for many, and no class name is in small letters. -/
structure Distinct (reg : Registry) (d : Catalogue) : Prop where
  singular : ∀ c ∈ d.classes, ∀ k ∈ d.classes, (reg.get c).singularName = (reg.get k).singularName → c = k
  plural : ∀ c ∈ d.classes, ∀ k ∈ d.classes, (reg.get c).pluralName = (reg.get k).pluralName → c = k
  capital : ∀ c ∈ d.classes, lower (reg.get c).name ≠ (reg.get c).name

lemma Tabled.byClass_eq_none (h : Tabled reg d) (hdistinct : Distinct reg d) (hlow : lower n = n) :
    d.byClass.lookup n = none := by
  refine Option.eq_none_iff_forall_ne_some.mpr fun c hc => ?_
  rw [h.byClass] at hc
  rcases lookup_foldl_setNamed hc with ⟨c, hmem, rfl, rfl⟩ | hc
  · exact hdistinct.capital c hmem hlow
  · cases hc

lemma Tabled.singular_lookup (h : Tabled reg d) (hdistinct : Distinct reg d) (hc : c ∈ d.classes) :
    d.singular.lookup (reg.get c).singularName = some c := by
  rw [h.singular]
  exact lookup_foldl_of_injOn hdistinct.singular hc

lemma Tabled.plural_lookup (h : Tabled reg d) (hdistinct : Distinct reg d) (hc : c ∈ d.classes)
    (hp : (reg.get c).pluralName ≠ "graphables") : d.plural.lookup (reg.get c).pluralName = some c := by
  rw [h.plural, lookup_filter_ne hp]
  exact lookup_foldl_of_injOn hdistinct.plural hc

lemma Tabled.plural_graphables (h : Tabled reg d) : d.plural.lookup "graphables" = none := by
  rw [h.plural, lookup_eq_none_iff]
  intro hmem
  obtain ⟨e, he, heq⟩ := mem_map.mp hmem
  have hne := (mem_filter.mp he).2
  simp [heq] at hne

/-! ## Questions about one name -/

lemma isSingularPart_name (h : d.isSingularPart n = true) (hlow : lower n = n) : d.isSingularName n = true := by
  unfold isSingularName
  rw [hlow]
  dsimp only
  rw [h]
  rfl

lemma isPluralPart_name (h : d.isPluralPart n = true) (hlow : lower n = n) : d.isPluralName n = true := by
  unfold isPluralName
  rw [hlow]
  dsimp only
  rw [h]
  rfl

lemma pluralName_of_singular (hclass : d.byClass.lookup n = none) (hlow : lower n = n)
    (hplural : d.isPluralName n = false) (hsingular : d.isSingularName n = true) : d.pluralName n =
      if d.factors.contains n then .ok (.text n)
      else match d.relatives.lookup n, d.singular.lookup n with
        | some rs, _ => .ok (.relations rs)
        | none, some c => .ok (.text (d.reg.get c).pluralName)
        | none, none => refuse (Fault.plain .missingKey n) := by
  unfold pluralName knownPlural
  rw [hclass, hlow]
  dsimp only
  rw [hplural, hsingular]
  by_cases hfactor : d.factors.contains n = true
  · rw [if_pos hfactor, if_pos hfactor]
    rfl
  · rw [if_neg hfactor, if_neg hfactor]
    cases d.relatives.lookup n with
    | some rs => rfl
    | none =>
      cases d.singular.lookup n with
      | some c | none => rfl

lemma pluralName_of_factor (hclass : d.byClass.lookup n = none) (hlow : lower n = n)
    (hplural : d.isPluralName n = false) (hfactor : n ∈ d.factors) : d.pluralName n = .ok (.text n) := by
  rw [pluralName_of_singular hclass hlow hplural (isSingularPart_name (by simp [isSingularPart, hfactor]) hlow)]
  simp [hfactor]

lemma singularName_of_plural (hclass : d.byClass.lookup p = none) (hlow : lower p = p)
    (hplural : d.isPluralName p = true) : d.singularName p =
      if d.isSingularName p then .ok p
      else match d.pluralFactors.lookup p, d.pluralRelatives.lookup p, d.plural.lookup p with
        | some s, _, _ => .ok s
        | none, some s, _ => .ok s
        | none, none, some c => .ok (d.reg.get c).singularName
        | none, none, none => refuse (Fault.plain .missingKey p) := by
  unfold singularName knownSingular
  rw [hclass, hlow]
  dsimp only
  rw [hplural]
  by_cases hsingular : d.isSingularName p = true
  · rw [if_pos hsingular, if_pos hsingular]
    rfl
  · rw [if_neg hsingular, if_neg hsingular]
    cases d.pluralFactors.lookup p with
    | some s => rfl
    | none =>
      cases d.pluralRelatives.lookup p with
      | some s => rfl
      | none =>
        cases d.plural.lookup p with
        | some c | none => rfl

/-- A name leads to a name for many, and that one leads back. -/
def RoundTrip (d : Catalogue) (n : String) : Prop :=
  ∃ p, d.pluralName n = .ok (.text p) ∧ d.isPluralName p = true ∧ d.singularName p = .ok n

/-- A name for many of a class alone: it is no name for one, and no factor or relation has it. -/
structure Owned (d : Catalogue) (p : String) : Prop where
  shown : p ≠ "graphables"
  notSingular : d.isSingularName p = false
  notFactor : d.pluralFactors.lookup p = none
  notRelation : d.pluralRelatives.lookup p = none

/-- The name of a class that is no factor or relation leads to its name for many, and back if that belongs to
the class alone. -/
lemma Tabled.roundTrip_class (h : Tabled reg d) (hdistinct : Distinct reg d) (horderly : reg.Orderly) (hc : c ∈ d.classes)
    (hname : (reg.get c).singularName = n) (hplural : d.isPluralName n = false) (hfactor : n ∉ d.factors)
    (hrelation : d.relatives.lookup n = none) : d.RoundTrip n ↔ Owned d (reg.get c).pluralName := by
  have hlow : lower n = n := hname ▸ horderly.singular c
  have hlowp := horderly.plural c
  have hfound : d.singular.lookup n = some c := hname ▸ h.singular_lookup hdistinct hc
  have hsingular : d.isSingularName n = true := isSingularPart_name (by simp [isSingularPart, hfound]) hlow
  have hmany : d.pluralName n = .ok (.text (reg.get c).pluralName) := by
    rw [pluralName_of_singular (h.byClass_eq_none hdistinct hlow) hlow hplural hsingular]
    simp [hfactor, hrelation, hfound, h.source]
  have hclassp := h.byClass_eq_none hdistinct hlowp
  constructor
  · rintro ⟨p, hp, hisPlural, hback⟩
    obtain rfl : (reg.get c).pluralName = p := by
      rw [hmany] at hp
      injection hp with hp
      injection hp
    rw [singularName_of_plural hclassp hlowp hisPlural] at hback
    -- whatever another table has under the name for many is a factor or a relation, and no other class is found there
    have hnot : d.isSingularName (reg.get c).pluralName = false := by
      by_contra hsing
      rw [if_pos (by simpa using hsing)] at hback
      have hsame : (reg.get c).pluralName = n := Except.ok.inj hback
      rw [hsame, hplural] at hisPlural
      cases hisPlural
    rw [hnot] at hback
    cases hpf : d.pluralFactors.lookup (reg.get c).pluralName with
    | some s =>
      rw [hpf] at hback
      obtain rfl : s = n := Except.ok.inj hback
      exact absurd (h.pluralFactors _ (mem_of_lookup hpf)) hfactor
    | none =>
      rw [hpf] at hback
      cases hpr : d.pluralRelatives.lookup (reg.get c).pluralName with
      | some s =>
        rw [hpr] at hback
        obtain rfl : s = n := Except.ok.inj hback
        have hsome := h.pluralRelatives _ (mem_of_lookup hpr)
        rw [hrelation] at hsome
        cases hsome
      | none =>
        rw [hpr] at hback
        refine ⟨fun hgraph => ?_, hnot, hpf, hpr⟩
        rw [hgraph, h.plural_graphables] at hback
        cases hback
  · intro howned
    have hfoundp := h.plural_lookup hdistinct hc howned.shown
    have hisPlural : d.isPluralName (reg.get c).pluralName = true :=
      isPluralPart_name (by simp [isPluralPart, hfoundp]) hlowp
    refine ⟨_, hmany, hisPlural, ?_⟩
    rw [singularName_of_plural hclassp hlowp hisPlural, howned.notSingular, howned.notFactor, howned.notRelation, hfoundp]
    simp [h.source, hname]

/-- The known names for one: of classes, factors and relations. -/
def Names (reg : Registry) (d : Catalogue) (n : String) : Prop :=
  n ∈ d.factors ∨ (d.relatives.lookup n).isSome ∨ ∃ c ∈ d.classes, (reg.get c).singularName = n

/-- Of the names for one that are no names for many, exactly those lead to a name for many and back that are
no factor and no relation but the name of a class with a name for many of its own. -/
theorem roundTrip_iff (hschema : reg.Schema) (hd : ofClasses reg given = .ok d) (hdistinct : Distinct reg d)
    (hlow : Text.Letter.lower n = n) (hn : Names reg d n) (hplural : d.isPluralName n = false) :
    d.RoundTrip n ↔ n ∉ d.factors ∧ d.relatives.lookup n = none ∧
      ∃ c ∈ d.classes, (reg.get c).singularName = n ∧ Owned d (reg.get c).pluralName := by
  have h := ofClasses_tabled hd
  have hclass := h.byClass_eq_none hdistinct hlow
  have hself : ∀ {p}, d.pluralName n = .ok (.text p) → d.isPluralName p = true → p ≠ n := by
    rintro p - hp rfl
    rw [hplural] at hp
    cases hp
  by_cases hfactor : n ∈ d.factors
  · have hmany := pluralName_of_factor hclass hlow hplural hfactor
    refine ⟨fun ⟨p, hp, hisPlural, _⟩ => absurd ?_ (hself hp hisPlural), fun hno => absurd hfactor hno.1⟩
    rw [hmany] at hp
    injection hp with hp
    injection hp with hp
    exact hp.symm
  · cases hrelation : d.relatives.lookup n with
    | some rs =>
      -- a relation has its declarations instead of a name for many
      have hsingular : d.isSingularName n = true := isSingularPart_name (by simp [isSingularPart, hrelation]) hlow
      have hmany : d.pluralName n = .ok (.relations rs) := by
        rw [pluralName_of_singular hclass hlow hplural hsingular]
        simp [hfactor, hrelation]
      refine ⟨fun ⟨p, hp, _⟩ => ?_, fun hno => ?_⟩
      · rw [hmany] at hp
        cases hp
      · cases hno.2.1
    | none =>
      rw [Names, hrelation] at hn
      obtain ⟨c, hc, hname⟩ := (hn.resolve_left hfactor).resolve_left (by simp)
      have hiff := h.roundTrip_class hdistinct hschema.orderly hc hname hplural hfactor hrelation
      refine hiff.trans ⟨fun howned => ⟨hfactor, rfl, c, hc, hname, howned⟩, fun ⟨_, _, k, hk, hsame, howned⟩ => ?_⟩
      rwa [hdistinct.singular c hc k hk (hname.trans hsame.symm)]

/-! ## Runs and their exposure times -/

/-- Runs have a number and an exposure time. -/
def runsDeclared : List Declaration :=
  [{ name := "Run", pluralName := some "runs", idname := some (.text "number"), factors := some ["exptime"] }]

def runsRegistry : Registry := (after (runsDeclared.mapM declare) Registry.empty).2

lemma runsRegistry_schema : runsRegistry.Schema := .ofDeclarations rfl (by decide +kernel)

/-- What a catalogue says of runs and their exposure times. -/
structure RunsNamed (d : Catalogue) : Prop where
  classes : d.classes = [0, 1]
  run : d.isPluralName "run" = false ∧ "run" ∉ d.factors ∧ (d.relatives.lookup "run").isNone
  runs : d.isSingularName "runs" = false ∧ (d.pluralFactors.lookup "runs").isNone ∧ (d.pluralRelatives.lookup "runs").isNone
  exptime : "exptime" ∈ d.factors ∧ d.isPluralName "exptime" = false

lemma ofClasses_runs : ∃ d, ofClasses runsRegistry [0, 1] = .ok d ∧ RunsNamed d := by
  have hclasses : sortClasses runsRegistry ([0, 1] ++ [0, 1].flatMap runsRegistry.allBases) = [0, 1] := by
    have hdups : (([0, 1] : List ClassId) ++ [0, 1].flatMap runsRegistry.allBases).eraseDups = [0, 1] := by decide +kernel
    unfold sortClasses
    rw [hdups]
    exact mergeSort_of_pairwise (by decide +kernel)
  unfold ofClasses
  rw [hclasses]
  -- all lists are in order, so that nothing has to be sorted
  dsimp only
  rw [mergeSort_of_pairwise (by decide +kernel)]
  unfold sortTexts
  rw [mergeSort_of_pairwise (by decide +kernel)]
  refine (ok_of_gives (p := fun d : Catalogue => decide (d.classes = [0, 1] ∧
    (d.isPluralName "run" = false ∧ "run" ∉ d.factors ∧ (d.relatives.lookup "run").isNone) ∧
    (d.isSingularName "runs" = false ∧ (d.pluralFactors.lookup "runs").isNone ∧ (d.pluralRelatives.lookup "runs").isNone) ∧
    "exptime" ∈ d.factors ∧ d.isPluralName "exptime" = false)) ?_).imp fun d hd => ⟨hd.1, ?_⟩
  · decide +kernel
  · obtain ⟨hclasses, hrun, hruns, hexptime⟩ := of_decide_eq_true hd.2
    exact ⟨hclasses, hrun, hruns, hexptime⟩

lemma RunsNamed.distinct {d : Catalogue} (h : RunsNamed d) : Distinct runsRegistry d := by
  refine ⟨?_, ?_, ?_⟩ <;> rw [h.classes] <;> decide +kernel

theorem roundTrip_runs : ∃ d, ofClasses runsRegistry [0, 1] = .ok d ∧ d.RoundTrip "run" := by
  obtain ⟨d, hd, h⟩ := ofClasses_runs
  obtain ⟨hplural, hfactor, hrelation⟩ := h.run
  obtain ⟨hnot, hfactors, hrelations⟩ := h.runs
  have hname : (runsRegistry.get 1).singularName = "run" := by decide +kernel
  have hmany : (runsRegistry.get 1).pluralName = "runs" := by decide +kernel
  have hone : 1 ∈ d.classes := by simp [h.classes]
  have howned : Owned d (runsRegistry.get 1).pluralName :=
    hmany ▸ ⟨by decide, hnot, Option.isNone_iff_eq_none.mp hfactors, Option.isNone_iff_eq_none.mp hrelations⟩
  refine ⟨d, hd, (roundTrip_iff runsRegistry_schema hd h.distinct (by decide +kernel) (.inr (.inr ⟨1, hone, hname⟩))
    hplural).mpr ⟨hfactor, Option.isNone_iff_eq_none.mp hrelation, 1, hone, hname, howned⟩⟩

/-- The exposure time of runs is a factor that is its own name for many, and that is no name for many. -/
theorem exists_factor_not_plural : ∃ reg given d n, reg.Schema ∧ ofClasses reg given = .ok d ∧ Distinct reg d ∧
    n ∈ d.factors ∧ d.isPluralName n = false ∧ d.pluralName n = .ok (.text n) ∧ ¬d.RoundTrip n := by
  obtain ⟨d, hd, h⟩ := ofClasses_runs
  obtain ⟨hfactor, hplural⟩ := h.exptime
  have hlow : Text.Letter.lower "exptime" = "exptime" := by decide +kernel
  have hself := pluralName_of_factor ((ofClasses_tabled hd).byClass_eq_none h.distinct hlow) hlow hplural hfactor
  refine ⟨runsRegistry, [0, 1], d, "exptime", runsRegistry_schema, hd, h.distinct, hfactor, hplural, hself, ?_⟩
  rintro ⟨p, hp, hisPlural, _⟩
  rw [hself] at hp
  cases hp
  rw [hplural] at hisPlural
  cases hisPlural

end SurveyGraph.Catalogue
