import SurveyGraph.Proofs.PathPatterns
/-!
# Paths to one instance

A path to a single instance is searched among the links that lead to one instance at most, whatever their direction: links
from the target to the source serve as well, and the path is turned round (`exists_path_not_singular`). Where no such links
lead back, links between the same classes agree, and the path can be put in the right order, it is one to a single instance
(`pathsBetween_singular`).
-/
open List

namespace SurveyGraph

open ClassGraph Layer

variable {reg : Registry} {a b : ClassId} {P : Link → Prop}

/-! ## The steps of a route -/

lemma ClassGraph.Trace.mem {path : List ClassId} {links : List Link} {l : Link} (ht : Trace P path links)
    (hl : l ∈ links) : P l ∧ l.src ∈ path ∧ l.dst ∈ path := by
  induction ht with
  | stop => cases hl
  | step hsrc hdst hP _ ih =>
    rcases mem_cons.mp hl with rfl | hl
    · exact ⟨hP, by simp [hsrc], by simp [hdst]⟩
    · obtain ⟨hP, h1, h2⟩ := ih hl
      exact ⟨hP, .tail _ h1, .tail _ h2⟩

namespace Layer

variable {v : Layer} {g : ClassGraph} {r : Route} {path : List ClassId}

/-- The steps of a route searched upward are links turned round; those of one searched downward are links of
the layer. -/
lemma routeAlong_steps (hv : v.graph.Out P) (hg : g.Out (fun l => P l.turned)) {upward : Bool} (hpath : path ≠ [])
    (h : v.routeAlong reg g upward path = .ok r) : ∀ s ∈ r.steps, ∃ l : Link, P l ∧ l.src ∈ path ∧ l.dst ∈ path ∧
      if upward then s.1 = l.dst ∧ s.2.1 = l.src else s.1 = l.src ∧ s.2.1 = l.dst := by
  obtain ⟨links, hlinks, h⟩ := bind_ok h
  have htrace : Trace (fun l => P l.turned) path links := by
    cases path with
    | nil => exact absurd rfl hpath
    | cons c rest => exact hg.linksAlong hlinks
  intro s hs
  split at h
  · rename_i hup
    cases h
    obtain ⟨l, hl, rfl⟩ := mem_map.mp hs
    obtain ⟨hP, hsrc, hdst⟩ := htrace.mem hl
    refine ⟨l.turned, hP, hdst, hsrc, ?_⟩
    rw [if_pos hup]
    exact ⟨rfl, rfl⟩
  · rename_i hup
    obtain ⟨back, hback, h⟩ := bind_ok h
    cases h
    obtain ⟨k, hk, rfl⟩ := mem_map.mp hs
    obtain ⟨l, hl, hkl⟩ := mem_of_mapM_ok hback hk
    obtain ⟨hsrc, hdst, hP⟩ := hv.linkBetween hkl
    obtain ⟨_, hlsrc, hldst⟩ := htrace.mem (mem_reverse.mp hl)
    refine ⟨k, hP, hsrc ▸ hldst, hdst ▸ hlsrc, ?_⟩
    rw [if_neg hup]
    exact ⟨rfl, rfl⟩

end Layer

/-! ## Light steps -/

namespace Atlas

/-- A link from one class to another leads to one instance at most. -/
def Light (reg : Registry) (a b : ClassId) : Prop :=
  ∃ l ∈ (ClassGraph.ofRegistry reg).linksFrom a, l.dst = b ∧ l.weight = some (.finite 0)

/-- Of the links between two classes all lead to one instance, or none. -/
def Agreeing (reg : Registry) : Prop :=
  ∀ c, ∀ l ∈ (ClassGraph.ofRegistry reg).linksFrom c, ∀ k ∈ (ClassGraph.ofRegistry reg).linksFrom c,
    l.dst = k.dst → l.weight = some (.finite 0) → k.weight = some (.finite 0)

lemma KnownSingular.light {l : Link} (h : KnownSingular reg l) : Light reg l.src l.dst := ⟨l, h.1.2, rfl, h.2⟩

lemma Agreeing.weight (hagree : Agreeing reg) (hlight : Light reg a b) {k : Link}
    (hk : k ∈ (ClassGraph.ofRegistry reg).between a b) : k.weight = some (.finite 0) := by
  obtain ⟨l, hl, hdst, hweight⟩ := hlight
  obtain ⟨_, hkdst, _, hk⟩ := (ofRegistry_known reg).between hk
  exact hagree a l hl k hk (hdst.trans hkdst.symm) hweight

lemma stepsSingular_of_light (hagree : Agreeing reg) : ∀ {steps : List (ClassId × ClassId × Nat)} {single : Bool},
    (∀ s ∈ steps, Light reg s.1 s.2.1) → (ofRegistry reg).stepsSingular steps = .ok single → single = true
  | [], _, _, h => (Except.ok.inj h).symm
  | (a, b, k) :: steps, single, hlight, h => by
    unfold stepsSingular at h
    split at h
    · cases h
    · rename_i l hfind
      have hweight := hagree.weight (hlight (a, b, k) (by simp)) (mem_of_find?_eq_some hfind)
      have hheavy : l.isHeavy = .ok false := by
        rw [Link.isHeavy, hweight]
        rfl
      rw [hheavy] at h
      exact stepsSingular_of_light hagree (fun s hs => hlight s (.tail _ hs)) h

/-- A route has light steps if its links are light in its direction, or against it if turned round. -/
lemma turn_light (hagree : Agreeing reg) {r : Route} {classes : List ClassId} {steps : List (ClassId × ClassId × Nat)}
    {reversed : Bool} (hlight : ∀ s ∈ r.steps, if r.classes.head? = some b then Light reg s.2.1 s.1 else Light reg s.1 s.2.1)
    (h : (ofRegistry reg).turn b r = .ok (classes, steps, reversed)) : ∀ s ∈ steps, Light reg s.1 s.2.1 := by
  unfold turn at h
  intro s hs
  split at h
  · rename_i hhead
    obtain ⟨back, hback, h⟩ := bind_ok h
    cases h
    obtain ⟨k, hk, rfl⟩ := mem_map.mp hs
    obtain ⟨t, ht, htk⟩ := mem_of_mapM_ok hback hk
    have hlight := hlight t (mem_reverse.mp ht)
    rw [if_pos (beq_iff_eq.mp hhead)] at hlight
    have hmem := linkBetween_ok htk
    obtain ⟨hsrc, hdst, _, hfrom⟩ := (ofRegistry_known reg).between hmem
    refine ⟨k, ?_, rfl, hagree.weight hlight hmem⟩
    rw [Link.place, hsrc]
    exact hfrom
  · rename_i hhead
    cases h
    have hlight := hlight s hs
    rwa [if_neg fun heq => hhead (beq_iff_eq.mpr heq)] at hlight

/-- A link to one instance, from parent to child or to a base. -/
def LightDown (l : Link) : Prop := l.type ∈ [.parentOf, .isA] ∧ l.weight = some (.finite 0)

/-- A link to one instance, from child to parent or to a base. -/
def LightUp (l : Link) : Prop := l.type ∈ [.childOf, .isA] ∧ l.weight = some (.finite 0)

/-- A route searched among links to one instance leads to one. -/
lemma directed_singular (hagree : Agreeing reg)
    (hback : a ≠ b → ¬(ClassGraph.ofRegistry reg).Chain LightDown b a ∧ ¬(ClassGraph.ofRegistry reg).Chain LightUp b a)
    (hbelow : (∀ c, reg.Extends c b → c = b) ∨ ¬(ClassGraph.ofRegistry reg).Chain LightUp a b) {ds : List Directed}
    {x : Directed} (h : (ofRegistry reg).directed a b true = .ok ds) (hx : x ∈ ds) : x.singular = true := by
  obtain ⟨rs, r, steps, hrs, hr, hturn, hsingle⟩ := mem_directed h hx
  obtain ⟨v, _, hv, hroutes⟩ := routes_layer hrs
  have hv := hv rfl
  refine stepsSingular_of_light hagree (turn_light hagree (fun s hs => ?_) hturn) hsingle
  obtain ⟨d, -, hsorted, hpaths⟩ := routes_along hv hroutes
  obtain ⟨path, hends, hself, hroute⟩ := hpaths r hr
  have hgraph := (hv.graph_out hsorted).reversed
  have hfalls : d.graph.reversed.Out (Falls reg) :=
    hgraph.mono fun l hl => ⟨fun htype => hl.1.1.1.base htype, hl.2⟩
  have hpath : path ≠ [] := by
    rintro rfl
    cases hends.head
  obtain ⟨l, hknown, hsrc, hdst, hl⟩ := routeAlong_steps hv.graph (hgraph.mono fun l hl => hl.1) hpath hroute s hs
  obtain ⟨first, hfirst, hclasses, _⟩ := routeAlong_ends hfalls hends hroute
  have hdown : ∀ {c e : ClassId}, c ∈ v.down.ancestors e → (ClassGraph.ofRegistry reg).Chain LightDown c e :=
    (hv.intoDown.mono fun l hl => ⟨⟨hl.2, hl.1.2⟩, hl.1.1.2⟩).ancestors
  have hup : ∀ {c e : ClassId}, c ∈ v.up.ancestors e → (ClassGraph.ofRegistry reg).Chain LightUp c e :=
    (hv.intoUp.mono fun l hl => ⟨⟨hl.2, hl.1.2⟩, hl.1.1.2⟩).ancestors
  cases hsorted with
  | same heq =>
    -- the one link leads from the class to itself, in whatever direction it is taken
    subst heq
    rw [hself rfl] at hsrc hdst
    obtain ⟨h1, h2⟩ : s.1 = l.src ∧ s.2.1 = l.dst := by simpa using hl
    have hlight := hknown.light
    have hsrc : l.src = a := by simpa using hsrc
    have hdst : l.dst = a := by simpa using hdst
    rw [h1, h2, hsrc, hdst, ite_self]
    rwa [hsrc, hdst] at hlight
  | targetAbove hne habove => exact absurd (hdown habove) (hback hne).1
  | sourceAbove hne _ =>
    obtain ⟨h1, h2⟩ : s.1 = l.src ∧ s.2.1 = l.dst := by simpa using hl
    rw [if_neg (by rw [hclasses.head]; simpa using hne), h1, h2]
    exact hknown.light
  | sourceBelow hne habove =>
    obtain ⟨h1, h2⟩ : s.1 = l.dst ∧ s.2.1 = l.src := by simpa using hl
    obtain rfl := (hbelow.resolve_right fun hchain => hchain (hup habove)) first hfirst
    rw [if_pos hclasses.head, h1, h2]
    exact hknown.light
  | targetBelow hne habove => exact absurd (hup habove) (hback hne).2

end Atlas

/-! ## Paths between named classes -/

namespace Catalogue

open Atlas

variable {source target : String} {descriptor : Value} {ps : List PathPattern}

/-- A path asked for as one to a single instance is one, if no chain of such links leads from the target back
to the source, and links between two classes agree. -/
theorem pathsBetween_singular (d : Catalogue) (hatlas : d.atlas = Atlas.ofRegistry d.reg)
    (hsource : d.classOf source = .ok a) (htarget : d.classOf target = .ok b) (hagree : Agreeing d.reg)
    (hback : a ≠ b → ¬(ClassGraph.ofRegistry d.reg).Chain LightDown b a ∧
      ¬(ClassGraph.ofRegistry d.reg).Chain LightUp b a)
    (hbelow : (∀ c, d.reg.Extends c b → c = b) ∨ ¬(ClassGraph.ofRegistry d.reg).Chain LightUp a b)
    (h : d.pathsBetween source target true descriptor = .ok ps) : ∀ p ∈ ps, p.singular = true := by
  intro p hp
  obtain ⟨ds, x, hx, hds, _, hsingular, _⟩ := mem_patterns (pathsBetween_patterns hsource htarget h) hp
  rw [hatlas] at hds
  exact hsingular.trans (directed_singular hagree hback hbelow hds hx)

/-- Nights and exposures; an exposure belongs to one night. -/
def nightsAndExposures : Registry :=
  plainRegistry [plainClass "Night", { plainClass "Exposure" with parents := some [.name "Night"] }]

lemma nightsAndExposures_checks : (ClassGraph.ofRegistry nightsAndExposures).out.size = 3 ∧
    (∀ c < 3, ∀ l ∈ (ClassGraph.ofRegistry nightsAndExposures).linksFrom c,
      ∀ k ∈ (ClassGraph.ofRegistry nightsAndExposures).linksFrom c, l.dst = k.dst →
        l.weight = some (.finite 0) → k.weight = some (.finite 0)) ∧
    (∀ l ∈ (ClassGraph.ofRegistry nightsAndExposures).linksFrom 1, l.weight ≠ some (.finite 0)) ∧
    (∀ c < nightsAndExposures.classes.size, 1 ∉ (nightsAndExposures.get c).bases) ∧
    gives ((plainCatalogue nightsAndExposures).classOf "Exposure") (fun c => decide (c = 2)) = true ∧
    gives ((plainCatalogue nightsAndExposures).classOf "Night") (fun c => decide (c = 1)) = true ∧
    gives ((plainCatalogue nightsAndExposures).pathsBetween "Exposure" "Night" true .none) (!·.isEmpty) = true ∧
    gives ((plainCatalogue nightsAndExposures).pathsBetween "Night" "Exposure" true .none)
      (· == [⟨"(\x7bin_var\x7d)-[\x7bname\x7d]->(\x7bout_var\x7d:Exposure)", false, [1, 2]⟩]) = true := by
  decide +kernel

lemma nightsAndExposures_agreeing : Agreeing nightsAndExposures := by
  intro c
  obtain ⟨hsize, hsmall, -⟩ := nightsAndExposures_checks
  by_cases hc : c < 3
  · exact hsmall c hc
  · rw [linksFrom_eq_nil (hsize ▸ Nat.le_of_not_lt hc)]
    exact fun l hl => (by cases hl)

theorem pathsBetween_singular_night : ∃ ps, (plainCatalogue nightsAndExposures).pathsBetween "Exposure" "Night" true .none =
    .ok ps ∧ ps ≠ [] ∧ ∀ p ∈ ps, p.singular = true := by
  obtain ⟨-, -, hheavy, hleaf, hsource, htarget, hfound, -⟩ := nightsAndExposures_checks
  obtain ⟨ps, hps, hne⟩ := ok_of_gives hfound
  refine ⟨ps, hps, by simpa using hne, ?_⟩
  refine pathsBetween_singular (plainCatalogue nightsAndExposures) rfl (eq_ok_of_gives hsource) (eq_ok_of_gives htarget)
    nightsAndExposures_agreeing (fun _ => ⟨fun h => ?_, fun h => ?_⟩)
    (.inl fun c hc => hc.eq_of_leaf (leaf_of_small hleaf)) hps
  all_goals exact absurd (h.eq_of_stuck fun l hl hlight => hheavy l hl hlight.2) (by decide)

/-- A night has many exposures, yet a path to one is found, through the link from an exposure to its night. -/
theorem exists_path_not_singular : ∃ p,
    (plainCatalogue nightsAndExposures).pathsBetween "Night" "Exposure" true .none = .ok [p] ∧ p.classes = [1, 2] ∧
      p.singular = false := by
  obtain ⟨-, -, -, -, -, -, -, hmany⟩ := nightsAndExposures_checks
  obtain ⟨ps, hps, hp⟩ := ok_of_gives hmany
  rw [beq_iff_eq] at hp
  subst hp
  exact ⟨_, hps, rfl, rfl⟩

end Catalogue

end SurveyGraph
