import Mathlib.Data.List.Chain
import SurveyGraph.Proofs.PathPatterns
/-!
# The steps of routes

A route keeps of a path only the classes from which a relation is taken. So from one class of a route to the next a relation
leads to the next one or to a class that it extends (`reduced_steps`), and one is declared between any two neighbours
(`routes_related`).
-/
open List

namespace SurveyGraph

open ClassGraph Layer

variable {reg : Registry} {a b bottom top : ClassId} {path : List ClassId} {links : List Link} {P Q : Link → Prop}

lemma ClassGraph.Trace.mono (h : Trace P path links) (hPQ : ∀ l, P l → Q l) : Trace Q path links := by
  induction h with
  | stop c => exact .stop c
  | step hsrc hdst hP _ ih => exact .step hsrc hdst (hPQ _ hP) ih

/-- The type of the relations that a search goes along. -/
def ClassGraph.Descent.relation (d : Descent) : LinkType := if d.upward then .childOf else .parentOf

/-- The classes of a route from the lower to the upper class. -/
def ClassGraph.Descent.walked (d : Descent) (r : Route) : List ClassId := if d.upward then r.classes else r.classes.reverse

/-! ## What is left of a path -/

namespace Layer

variable {v : Layer} {d : Descent} {r : Route} {rs : List Route}

/-- A link, not of inheritance, leads from one class to another or to a base of that. -/
def LeadsBelow (reg : Registry) (P : Link → Prop) (x y : ClassId) : Prop :=
  ∃ l, P l ∧ l.type ≠ .isA ∧ l.src = x ∧ reg.Extends y l.dst

lemma reduced_steps (ht : Trace (fun l => Falls reg l ∧ P l) path links) :
    (reduced path links).IsChain (LeadsBelow reg P) := by
  induction ht with
  | stop c => exact .singleton c
  | @step c d l path ls hsrc hdst hl hrest ih =>
    by_cases htype : l.type = .isA
    · have hreduced : reduced (c :: d :: path) (l :: ls) = reduced (d :: path) ls := by
        simp [reduced, htype, getLast?_cons_cons]
      rw [hreduced]
      exact ih
    · have hreduced : reduced (c :: d :: path) (l :: ls) = c :: reduced (d :: path) ls := by
        simp [reduced, htype, hl.1.2, getLast?_cons_cons, hsrc]
      -- the relation leads to `d`, and what is left of the rest begins with `d` or a class that extends it
      obtain ⟨last, hlast⟩ : ∃ last, (d :: path).getLast? = some last := ⟨_, getLast?_cons⟩
      obtain ⟨first, hfirst, hextends, _⟩ := reduced_ends (hrest.mono fun _ h => h.1) ⟨rfl, hlast⟩
      rw [hreduced, isChain_cons]
      refine ⟨fun y hy => ?_, ih⟩
      obtain rfl : first = y := Option.some.inj (hfirst.head.symm.trans hy)
      exact ⟨l, hl.2, htype, hsrc, hdst ▸ hextends⟩

/-! ## Routes in the order of the search -/

/-- Classes lead from the lower of two classes, or one below it, to the upper. From each to the next a
declared relation of the layer leads to that or to a class that it extends. -/
structure Related (reg : Registry) (v : Layer) (d : Descent) (classes : List ClassId) : Prop where
  first : ∃ c, classes.head? = some c ∧ reg.Extends c d.bottom
  last : classes.getLast? = some d.top
  steps : classes.IsChain fun x y => ∃ w, reg.Extends y w ∧
    ∃ l ∈ v.graph.linksFrom w, l.dst = x ∧ l.type = d.relation ∧ Declared reg l

lemma Sound.graph_types (hv : v.Sound P) (hd : Sorted v a b d) :
    d.graph.Out (fun l => P l ∧ (l.type = d.relation ∨ l.type = .isA)) := by
  have hdown : v.down.Out (fun l => P l ∧ (l.type = .parentOf ∨ l.type = .isA)) := hv.down.mono fun l hl => by simpa using hl
  have hup : v.up.Out (fun l => P l ∧ (l.type = .childOf ∨ l.type = .isA)) := hv.up.mono fun l hl => by simpa using hl
  cases hd with
  | same | targetAbove | sourceAbove => exact hdown
  | sourceBelow | targetBelow => exact hup

/-- A link of the layer that some class declares. -/
def Present (reg : Registry) (v : Layer) (l : Link) : Prop := Declared reg l ∧ l ∈ v.graph.linksFrom l.src

lemma routeAlong_related (hv : v.Sound (Present reg v)) (hd : Sorted v a b d) (hends : Ends path d.bottom d.top)
    (h : v.routeAlong reg d.graph.reversed d.upward path = .ok r) : Related reg v d (d.walked r) := by
  obtain ⟨links, hlinks, hclasses⟩ := routeAlong_classes h
  have hwalked : d.walked r = reduced path links := by
    unfold Descent.walked
    rw [hclasses]
    split
    · rfl
    · rw [reverse_reverse]
  have hout : d.graph.reversed.Out (fun l => Falls reg l ∧ Present reg v l.turned ∧ (l.type = d.relation ∨ l.type = .isA)) := by
    refine (hv.graph_types hd).reversed.mono fun l hl => ⟨⟨fun htype => hl.1.1.base htype, ?_⟩, hl⟩
    rcases hl.2 with htype | htype
    · rw [show l.type = d.relation from htype]
      unfold Descent.relation
      split <;> simp
    · rw [show l.type = .isA from htype]
      simp
  have htrace : Trace (fun l => Falls reg l ∧ Present reg v l.turned ∧ (l.type = d.relation ∨ l.type = .isA)) path links := by
    cases path with
    | nil => cases hends.head
    | cons c rest => exact hout.linksAlong hlinks
  obtain ⟨first, hfirst, hextends, _⟩ := reduced_ends (htrace.mono fun _ hl => hl.1) hends
  rw [hwalked]
  refine ⟨⟨first, hfirst.head, hextends⟩, hfirst.last, (reduced_steps htrace).imp fun x y hxy => ?_⟩
  obtain ⟨l, ⟨⟨hdeclared, hmem⟩, htype⟩, hrelation, hsrc, hy⟩ := hxy
  exact ⟨l.dst, hy, l.turned, hmem, hsrc, htype.resolve_right hrelation, hdeclared⟩

lemma walked_related (hv : v.Sound (Present reg v)) (h : v.routes reg a b = .ok rs) :
    ∃ d, v.sortByDepth reg a b = .ok d ∧ ∀ r ∈ rs, Related reg v d (d.walked r) := by
  obtain ⟨d, hd, hsorted, hpaths⟩ := routes_along hv h
  refine ⟨d, hd, fun r hr => ?_⟩
  obtain ⟨path, hends, -, hroute⟩ := hpaths r hr
  exact routeAlong_related hv hsorted hends hroute

end Layer

/-! ## Routes of the atlas -/

namespace Atlas

variable {singular : Bool} {rs : List Route}

/-- The layers in which routes are looked for, in this order. -/
def layers (m : Atlas) : List Layer := [m.singularRequired, m.singular, m.required, m.full]

lemma layers_sound (reg : Registry) : ∀ v ∈ (ofRegistry reg).layers, v.Sound (Present reg v) := by
  have hdeclared := ofRegistry_out reg
  have hsingular : (ClassGraph.ofRegistry reg).singular.Out (Declared reg) := hdeclared.singular.mono fun _ hl => hl.1
  have hsound : ∀ {g : ClassGraph}, g.Out (Declared reg) → (Layer.ofGraph g).Sound (Present reg (.ofGraph g)) :=
    fun hg => ofGraph_sound hg.present
  intro v hv
  simp only [layers, mem_cons, not_mem_nil, or_false] at hv
  rcases hv with rfl | rfl | rfl | rfl
  · exact hsound hsingular.nonOptional
  · exact hsound hsingular
  · exact hsound hdeclared.nonOptional
  · exact hsound hdeclared

lemma routes_of_layer {m : Atlas} (h : m.routes a b singular = .ok rs) : ∃ v ∈ m.layers, v.routes m.reg a b = .ok rs := by
  rcases orElse_ok h with h | h
  · exact ⟨m.singularRequired, by simp [layers], h⟩
  · split at h
    · exact ⟨m.singular, by simp [layers], h⟩
    · rcases orElse_ok h with h | h
      · exact ⟨m.singular, by simp [layers], h⟩
      · rcases orElse_ok h with h | h
        · exact ⟨m.required, by simp [layers], h⟩
        · exact ⟨m.full, by simp [layers], h⟩

/-- The routes between two classes, walked from the lower to the upper: they begin with the lower or a class
below it, end with the upper, and take a declared relation from each class to the next or to a class that the
next extends. -/
theorem routes_related (h : (ofRegistry reg).routes a b singular = .ok rs) :
    ∃ v ∈ (ofRegistry reg).layers, v.routes reg a b = .ok rs ∧
      ∃ d, v.sortByDepth reg a b = .ok d ∧ ∀ r ∈ rs, Related reg v d (d.walked r) := by
  obtain ⟨v, hv, h⟩ := routes_of_layer h
  exact ⟨v, hv, h, Layer.walked_related (layers_sound reg v hv) h⟩

/-- A redshift is measured on a spectrum; both kinds of spectra have nights. -/
def spectraOfNights : Registry :=
  let ofNight (name : String) : Declaration :=
    { Catalogue.plainClass name with bases := ["Spectrum"], parents := some [.name "Night"] }
  Catalogue.plainRegistry [Catalogue.plainClass "Night", { Catalogue.plainClass "Spectrum" with isTemplate := true },
    ofNight "Single", ofNight "Stack", { Catalogue.plainClass "Redshift" with parents := some [.name "Spectrum"] }]

theorem routes_related_spectra : ∃ rs, (ofRegistry spectraOfNights).routes 5 1 false = .ok rs ∧
    rs.map (·.classes) = [[1, 3, 5], [1, 4, 5]] ∧
    ∃ v ∈ (ofRegistry spectraOfNights).layers, v.routes spectraOfNights 5 1 = .ok rs ∧
      ∃ d, v.sortByDepth spectraOfNights 5 1 = .ok d ∧ ∀ r ∈ rs, Related spectraOfNights v d (d.walked r) := by
  obtain ⟨rs, hrs, hclasses⟩ := ok_of_gives (x := (ofRegistry spectraOfNights).routes 5 1 false)
    (p := fun rs => rs.map (·.classes) == [[1, 3, 5], [1, 4, 5]]) (by decide +kernel)
  exact ⟨rs, hrs, beq_iff_eq.mp hclasses, routes_related hrs⟩

end Atlas

end SurveyGraph
