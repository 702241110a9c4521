import Mathlib.Data.List.Induction
import SurveyGraph.Proofs.InstanceGiven
import SurveyGraph.Proofs.SettledClasses
/-!
# The relations that identify an instance

An instance that is identified by its relations is merged together with them, one for each node: a node that is given twice
keeps one of its relations (`eachOnce`). A node that is given once has its relation in the merge, with its name and, where
the order counts, its place.
-/
open Relation List

namespace SurveyGraph.Write

variable {α β : Type} {o p q : Program} {g x : GivenRelation} {l gs : List GivenRelation} {v : VarId} (s : Statement)
  {others : List InstanceId} {spec : Specification} {centre : InstanceId} {e : IdRelation} {f : Filling} {k : String}

/-! ## One relation for each node -/

/-- Whether a thing is known by its number. -/
def Thing.isKnown : Thing → Bool
  | .var _ | .object _ => true
  | _ => false

lemma same_eq {a b : Thing} (h : a.same b) (hk : a.isKnown ∨ b.isKnown) : a = b := by
  cases a <;> cases b <;> simp_all [Thing.same, Thing.isKnown]

lemma mem_setRelation (h : g ∈ setRelation x l) :
    g ∈ l ∨ g = { x with other := g.other } ∧ (g.other = x.other ∨ g.other.same x.other) := by
  induction l with
  | nil =>
    obtain rfl := mem_singleton.mp h
    exact .inr ⟨rfl, .inl rfl⟩
  | cons y l ih =>
    rw [setRelation] at h
    split at h
    · rename_i hsame
      rcases mem_cons.mp h with rfl | h
      · exact .inr ⟨rfl, .inr hsame⟩
      · exact .inl (mem_cons_of_mem y h)
    · rcases mem_cons.mp h with rfl | h
      · exact .inl (.head _)
      · exact (ih h).imp_left (mem_cons_of_mem y)

lemma others_setRelation (x : GivenRelation) (l : List GivenRelation) :
    (∃ s ∈ l, s.other.same x.other) ∧ (setRelation x l).map (·.other) = l.map (·.other) ∨
      (∀ s ∈ l, s.other.same x.other = false) ∧ setRelation x l = l ++ [x] := by
  induction l with
  | nil => exact .inr ⟨by simp, rfl⟩
  | cons y l ih =>
    rw [setRelation]
    split
    · rename_i hsame
      exact .inl ⟨⟨y, .head _, hsame⟩, rfl⟩
    · rename_i hsame
      rcases ih with ⟨⟨s, hs, hx⟩, hmap⟩ | ⟨hall, heq⟩
      · exact .inl ⟨⟨s, mem_cons_of_mem y hs, hx⟩, by rw [map_cons, hmap, map_cons]⟩
      · refine .inr ⟨fun s hs => ?_, by rw [heq, cons_append]⟩
        rcases mem_cons.mp hs with rfl | hs
        · simpa using hsame
        · exact hall s hs

lemma eachOnce_append (l : List GivenRelation) (x : GivenRelation) : eachOnce (l ++ [x]) = setRelation x (eachOnce l) := by
  simp [eachOnce]

lemma exists_eachOnce (hg : g ∈ l) : ∃ y ∈ (eachOnce l).map (·.other), y = g.other ∨ y.same g.other := by
  induction l using reverseRecOn with
  | nil => cases hg
  | append_singleton l x ih =>
    rw [eachOnce_append]
    rcases mem_append.mp hg with hg | hg
    · obtain ⟨y, hy, h⟩ := ih hg
      refine ⟨y, ?_, h⟩
      rcases others_setRelation x (eachOnce l) with ⟨-, hmap⟩ | ⟨-, heq⟩
      · rwa [hmap]
      · rw [heq, map_append]
        exact mem_append_left _ hy
    · obtain rfl := mem_singleton.mp hg
      rcases others_setRelation g (eachOnce l) with ⟨⟨s, hs, hsame⟩, hmap⟩ | ⟨-, heq⟩
      · exact ⟨s.other, hmap ▸ mem_map_of_mem hs, .inr hsame⟩
      · exact ⟨g.other, by simp [heq], .inl rfl⟩

lemma mem_others_eachOnce (hknown : ∀ g ∈ eachOnce l, g.other.isKnown) (hg : g ∈ l) : g.other ∈ (eachOnce l).map (·.other) := by
  obtain ⟨y, hy, h⟩ := exists_eachOnce hg
  obtain ⟨g', hg', rfl⟩ := mem_map.mp hy
  rcases h with h | h
  · rwa [← h]
  · rwa [← same_eq h (.inl (hknown g' hg'))]

lemma isKnown_of_eachOnce (hknown : ∀ g ∈ eachOnce l, g.other.isKnown) (hg : g ∈ l) : g.other.isKnown := by
  obtain ⟨g', hg', h⟩ := mem_map.mp (mem_others_eachOnce hknown hg)
  rw [← h]
  exact hknown g' hg'

lemma mem_of_eachOnce (hknown : ∀ g ∈ l, g.other.isKnown) (hg : g ∈ eachOnce l) : g ∈ l := by
  induction l using reverseRecOn generalizing g with
  | nil => cases hg
  | append_singleton l x ih =>
    rw [eachOnce_append] at hg
    rcases mem_setRelation hg with hg | ⟨hg, he⟩
    · exact mem_append_left _ (ih (fun g hg => hknown g (mem_append_left _ hg)) hg)
    · have hx : g.other = x.other := he.elim id fun he => same_eq he (.inr (hknown x (by simp)))
      rw [hg, hx]
      simp

lemma nodup_others_eachOnce (hknown : ∀ g ∈ l, g.other.isKnown) : ((eachOnce l).map (·.other)).Nodup := by
  induction l using reverseRecOn with
  | nil => exact .nil
  | append_singleton l x ih =>
    have hl := ih fun g hg => hknown g (mem_append_left _ hg)
    rw [eachOnce_append]
    rcases others_setRelation x (eachOnce l) with ⟨-, hmap⟩ | ⟨hall, heq⟩
    · rwa [hmap]
    · rw [heq, map_append]
      refine nodup_append.mpr ⟨hl, by simp, fun y hy z hz => ?_⟩
      obtain ⟨s, hs, rfl⟩ := mem_map.mp hy
      rintro heq
      have hx := hknown x (by simp)
      have hsame := hall s hs
      cases hother : x.other <;> simp_all [Thing.same, Thing.isKnown]

/-! ## The nodes that things stand for -/

/-- The node that a thing stands for. -/
def Program.standsFor (p : Program) : Thing → Option VarId
  | .var v => some v
  | .object o => (p.getInstance o).node
  | _ => none

lemma nodesOf_known {t u : Thing} (h : p.nodesOf t = .ok u) (hu : u.isKnown) : ∃ v, u = .var v ∧ p.standsFor t = some v := by
  cases t with
  | var v =>
    cases h
    exact ⟨v, rfl, rfl⟩
  | object o =>
    unfold Program.nodesOf at h
    split at h
    · rename_i v hv
      cases h
      exact ⟨v, rfl, hv⟩
    · cases h
  | plain a | cls c =>
    cases h
    cases hu
  | list xs | tuple xs | dict es =>
    obtain ⟨ys, -, h⟩ := bind_ok h
    cases h
    cases hu

lemma eachOnce_nodes (h : ((eachOnce l).mapM fun r => do return { r with other := ← p.nodesOf r.other }) = .ok gs)
    (hvar : ∀ g ∈ eachOnce gs, ∃ v, g.other = .var v) :
    (∀ g ∈ l, ∃ v, p.standsFor g.other = some v ∧ .var v ∈ (eachOnce gs).map (·.other)) ∧
    (∀ e ∈ eachOnce gs, ∃ g ∈ l, ∃ v, p.standsFor g.other = some v ∧ e = { g with other := .var v }) ∧
    ((eachOnce gs).map (·.other)).Nodup := by
  have hknown (g : GivenRelation) (hg : g ∈ eachOnce gs) : g.other.isKnown := by
    obtain ⟨v, hv⟩ := hvar g hg
    rw [hv]
    rfl
  have hgs (g : GivenRelation) (hg : g ∈ gs) : g.other.isKnown := isKnown_of_eachOnce hknown hg
  have hnode {r e : GivenRelation} (he : e ∈ gs) (h : (do return { r with other := ← p.nodesOf r.other }) = Except.ok (ε := Fault) e) :
      ∃ v, p.standsFor r.other = some v ∧ e = { r with other := .var v } := by
    obtain ⟨t, ht, h⟩ := bind_ok h
    cases h
    obtain ⟨v, rfl, hv⟩ := nodesOf_known ht (hgs _ he)
    exact ⟨v, hv, rfl⟩
  have hleft (r : GivenRelation) (hr : r ∈ eachOnce l) : r.other.isKnown := by
    obtain ⟨e, he, hok⟩ := ok_of_mapM_ok h hr
    obtain ⟨v, hv, -⟩ := hnode he hok
    cases hother : r.other <;> simp_all [Program.standsFor, Thing.isKnown]
  have hall (g : GivenRelation) (hg : g ∈ l) : g.other.isKnown := isKnown_of_eachOnce hleft hg
  refine ⟨fun g hg => ?_, fun e he => ?_, nodup_others_eachOnce hgs⟩
  · obtain ⟨r, hr, hother⟩ := mem_map.mp (mem_others_eachOnce hleft hg)
    obtain ⟨e, he, hok⟩ := ok_of_mapM_ok h hr
    obtain ⟨v, hv, rfl⟩ := hnode he hok
    exact ⟨v, hother ▸ hv, mem_others_eachOnce hknown he⟩
  · have he' := mem_of_eachOnce hgs he
    obtain ⟨r, hr, hok⟩ := mem_of_mapM_ok h he'
    obtain ⟨v, hv, rfl⟩ := hnode he' hok
    exact ⟨r, mem_of_eachOnce hall hr, v, hv, rfl⟩

/-! ## The relatives that identify an instance -/

/-- A relative that identifies an instance: its side, name and place. -/
structure Link where
  isParent : Bool
  name : String
  relation : Relation
  place : Nat
  thing : Thing

/-- The names on one side of a class that identify an instance. -/
def identifyingNames (reg : Registry) (cls : ClassId) (isParent : Bool) : List String :=
  let c := reg.get cls
  (c.identity.getD []).filter fun k =>
    ((if isParent then c.parents else c.children).filterMap reg.memberName?).contains k &&
      asksFor (reg.specification cls) isParent k

/-- The relatives that are given under a name. -/
def linksUnder (reg : Registry) (cls : ClassId) (named : List (String × Thing)) (isParent : Bool) (k : String) : List Link :=
  match relativesGiven (reg.specification cls) named k with
  | none => []
  | some (value, r) =>
    match relatives value with
    | .ok xs => (withPlaces xs).map fun (n, x) => ⟨isParent, k, r, n, x⟩
    | .error _ => []

/-- All relatives that named values give to identify an instance. -/
def givenLinks (reg : Registry) (cls : ClassId) (named : List (String × Thing)) : List Link :=
  [true, false].flatMap fun isParent => (identifyingNames reg cls isParent).flatMap (linksUnder reg cls named isParent)

variable {n : Nat} {reg : Registry} {cls : ClassId} {named : List (String × Thing)} {isParent : Bool} {y : Link}
  {c : Class} {names : List String} {held : List (String × Thing × Relation)} {parts : List Relative × List Relative}
  {i : Instance} {es : List (String × VarId)} {args : Arguments}

lemma mem_withPlaces {xs : List Thing} {x : Thing} : (n, x) ∈ withPlaces xs ↔ xs[n]? = some x := by
  unfold withPlaces
  simp only [mem_iff_getElem?, getElem?_zip_eq_some]
  constructor
  · rintro ⟨i, hn, hx⟩
    obtain ⟨hi, rfl⟩ := List.getElem?_eq_some_iff.mp hn
    simpa using hx
  · intro hx
    obtain ⟨hn, -⟩ := List.getElem?_eq_some_iff.mp hx
    exact ⟨n, by simp [hn], hx⟩

lemma mem_linksUnder : y ∈ linksUnder reg cls named isParent k ↔ y.isParent = isParent ∧ y.name = k ∧
      ∃ value xs, relativesGiven (reg.specification cls) named k = some (value, y.relation) ∧ relatives value = .ok xs ∧
        xs[y.place]? = some y.thing := by
  unfold linksUnder
  cases relativesGiven (reg.specification cls) named k with
  | none => simp
  | some e =>
    obtain ⟨value, r⟩ := e
    dsimp only
    cases hxs : relatives value with
    | error e =>
      constructor
      · intro hy
        cases hy
      · rintro ⟨-, -, value', xs, hgiven, hxs', -⟩
        cases hgiven
        rw [hxs] at hxs'
        cases hxs'
    | ok xs =>
      simp only [mem_map, Prod.exists, mem_withPlaces]
      constructor
      · rintro ⟨n, x, hx, rfl⟩
        exact ⟨rfl, rfl, value, xs, rfl, hxs, hx⟩
      · rintro ⟨rfl, rfl, value', xs', hgiven, hxs', hx⟩
        cases hgiven
        rw [hxs] at hxs'
        cases hxs'
        exact ⟨y.place, y.thing, hx, rfl⟩

lemma mem_givenLinks : y ∈ givenLinks reg cls named ↔ y.name ∈ (reg.get cls).identity.getD [] ∧
      y.name ∈ (if y.isParent then (reg.get cls).parents else (reg.get cls).children).filterMap reg.memberName? ∧
      asksFor (reg.specification cls) y.isParent y.name ∧
      ∃ value xs, relativesGiven (reg.specification cls) named y.name = some (value, y.relation) ∧ relatives value = .ok xs ∧
        xs[y.place]? = some y.thing := by
  have hside : y.isParent ∈ [true, false] := by cases y.isParent <;> simp
  simp only [givenLinks, mem_flatMap, identifyingNames, mem_filter, Bool.and_eq_true, contains_eq_mem,
    decide_eq_true_eq]
  constructor
  · rintro ⟨isParent, -, k, ⟨hid, hname, hasked⟩, hy⟩
    obtain ⟨rfl, rfl, hgiven⟩ := mem_linksUnder.mp hy
    exact ⟨hid, hname, hasked, hgiven⟩
  · rintro ⟨hid, hname, hasked, hgiven⟩
    exact ⟨y.isParent, hside, y.name, ⟨hid, hname, hasked⟩, mem_linksUnder.mpr ⟨rfl, rfl, hgiven⟩⟩

lemma mem_partUnder {name : String} {value : Thing} {r : Relation}
    {part : List Relative × List Relative} (h : p.partUnder c names name value r = .ok part) (y : Relative) :
    y ∈ part.1 ↔ name ∈ c.identity.getD [] ∧ name ∈ names ∧ ∃ xs n x, relatives value = .ok xs ∧ xs[n]? = some x ∧
      y = ⟨name, some n, r.ordered, x⟩ := by
  unfold Program.partUnder at h
  obtain ⟨hsingle, h⟩ := unless_ok h
  obtain ⟨rs, hrs, h⟩ := bind_ok h
  obtain ⟨-, h⟩ := unless_ok h
  have hpart := Except.ok.inj h
  by_cases hid : name ∈ c.identity.getD [] ∧ name ∈ names
  · have hbool : ((c.identity.getD []).contains name && names.contains name) = true := by simpa using hid
    rw [hbool] at hsingle hpart
    rw [← hpart, if_pos rfl]
    have hplain : p.isCollection value = false := by simpa using hsingle
    unfold Program.relativesUnder at hrs
    rw [hplain] at hrs
    obtain ⟨xs, hxs, hrs⟩ := bind_ok hrs
    cases hrs
    simp only [mem_map, Prod.exists, mem_withPlaces, hid, hxs, true_and, Except.ok.injEq]
    constructor
    · rintro ⟨n, x, hx, rfl⟩
      exact ⟨xs, n, x, rfl, hx, rfl⟩
    · rintro ⟨_, n, x, rfl, hx, rfl⟩
      exact ⟨n, x, hx, rfl⟩
  · have hbool : ((c.identity.getD []).contains name && names.contains name) = false := by simpa using hid
    rw [hbool] at hpart
    rw [← hpart]
    constructor
    · intro hy
      cases hy
    · rintro ⟨hi, hn, -⟩
      exact absurd ⟨hi, hn⟩ hid

lemma mem_partRelatives (h : p.partRelatives c names held = .ok parts) (y : Relative) :
    y ∈ parts.1 ↔ ∃ e ∈ held, e.1 ∈ c.identity.getD [] ∧ e.1 ∈ names ∧ ∃ xs n x, relatives e.2.1 = .ok xs ∧ xs[n]? = some x ∧
      y = ⟨e.1, some n, e.2.2.ordered, x⟩ := by
  obtain ⟨each, heach, h⟩ := bind_ok h
  cases h
  rw [mem_flatMap]
  constructor
  · rintro ⟨part, hpart, hy⟩
    obtain ⟨e, he, hok⟩ := mem_of_mapM_ok heach hpart
    exact ⟨e, he, (mem_partUnder hok y).mp hy⟩
  · rintro ⟨e, he, hy⟩
    obtain ⟨part, hpart, hok⟩ := ok_of_mapM_ok heach he
    exact ⟨part, hpart, (mem_partUnder hok y).mpr hy⟩

/-- The relation to a relative that identifies an instance. -/
def Link.given (y : Link) : GivenRelation where
  other := y.thing
  type := .plain relationType
  inward := y.isParent
  ident := Relative.ident ⟨y.name, some y.place, y.relation.ordered, y.thing⟩ (placeOf y.place)
  properties := .dict []

lemma identifying_ok {y : Relative} (h : identifying isParent y = .ok g) : g =
    { other := y.thing, type := .plain relationType, inward := isParent, ident := y.ident (placeOf (y.place.getD 0)),
      properties := .dict [] } := by
  unfold identifying at h
  split at h
  · cases h
  · cases h
  · cases h
  · cases h
  · exact (Except.ok.inj h).symm

lemma mem_identifying (h : p.partRelatives c names held = .ok parts) (hgs : parts.1.mapM (identifying isParent ·) = .ok gs) :
    g ∈ gs ↔ ∃ e ∈ held, e.1 ∈ c.identity.getD [] ∧ e.1 ∈ names ∧ ∃ xs n x, relatives e.2.1 = .ok xs ∧ xs[n]? = some x ∧
      g = Link.given ⟨isParent, e.1, e.2.2, n, x⟩ := by
  constructor
  · intro hg
    obtain ⟨y, hy, hok⟩ := mem_of_mapM_ok hgs hg
    obtain ⟨e, he, hid, hname, xs, n, x, hxs, hx, rfl⟩ := (mem_partRelatives h y).mp hy
    exact ⟨e, he, hid, hname, xs, n, x, hxs, hx, identifying_ok hok⟩
  · rintro ⟨e, he, hid, hname, xs, n, x, hxs, hx, rfl⟩
    obtain ⟨g, hg, hok⟩ := ok_of_mapM_ok hgs ((mem_partRelatives h _).mpr ⟨e, he, hid, hname, xs, n, x, hxs, hx, rfl⟩)
    rwa [identifying_ok hok] at hg

lemma mem_given_side {e : String × Thing × Relation} :
    e ∈ (spec.names.foldl (Filling.filled spec) { rest := named }).side isParent ↔
      asksFor spec isParent e.1 ∧ relativesGiven spec named e.1 = some e.2 := by
  rw [mem_iff_lookup (nodup_given_side isParent), given_side]
  split <;> rename_i hasked <;> simp [hasked]

/-- What is merged with an instance: one relation to each node that identifies it. -/
lemma dependent_ok {d : Dependent}
    (h : p.dependent i ((p.reg.specification i.cls).names.foldl (Filling.filled (p.reg.specification i.cls)) { rest := named }) = .ok d) :
    ∃ l gs, (∀ g, g ∈ l ↔ ∃ y ∈ givenLinks p.reg i.cls named, g = y.given) ∧
      ((eachOnce l).mapM fun r => do return { r with other := ← p.nodesOf r.other }) = .ok gs ∧ d.relations = eachOnce gs := by
  obtain ⟨above, habove, h⟩ := bind_ok h
  obtain ⟨below, hbelow, h⟩ := bind_ok h
  obtain ⟨aboveRelations, haboveRelations, h⟩ := bind_ok h
  obtain ⟨belowRelations, hbelowRelations, h⟩ := bind_ok h
  obtain ⟨absent, -, h⟩ := bind_ok h
  obtain ⟨ident, -, h⟩ := bind_ok h
  obtain ⟨other, -, h⟩ := bind_ok h
  obtain ⟨identNodes, -, h⟩ := bind_ok h
  obtain ⟨otherNodes, -, h⟩ := bind_ok h
  obtain ⟨gs, hgs, h⟩ := bind_ok h
  cases h
  refine ⟨_, gs, fun g => ?_, hgs, rfl⟩
  rw [mem_append, mem_identifying habove haboveRelations, mem_identifying hbelow hbelowRelations]
  constructor
  · rintro (⟨e, he, hid, hname, xs, n, x, hxs, hx, rfl⟩ | ⟨e, he, hid, hname, xs, n, x, hxs, hx, rfl⟩)
    · obtain ⟨hasked, hgiven⟩ : asksFor _ true e.1 ∧ _ := mem_given_side.mp he
      exact ⟨⟨true, e.1, e.2.2, n, x⟩, mem_givenLinks.mpr ⟨hid, hname, hasked, e.2.1, xs, hgiven, hxs, hx⟩, rfl⟩
    · obtain ⟨hasked, hgiven⟩ : asksFor _ false e.1 ∧ _ := mem_given_side.mp he
      exact ⟨⟨false, e.1, e.2.2, n, x⟩, mem_givenLinks.mpr ⟨hid, hname, hasked, e.2.1, xs, hgiven, hxs, hx⟩, rfl⟩
  · rintro ⟨⟨isParent, k, r, n, x⟩, hy, rfl⟩
    obtain ⟨hid, hname, hasked, value, xs, hgiven, hxs, hx⟩ := mem_givenLinks.mp hy
    have hmem := mem_given_side (e := (k, value, r)).mpr ⟨hasked, hgiven⟩
    cases isParent with
    | true => exact .inl ⟨_, hmem, hid, hname, xs, n, x, hxs, hx, rfl⟩
    | false => exact .inr ⟨_, hmem, hid, hname, xs, n, x, hxs, hx, rfl⟩

/-! ## The merge -/

def Statement.merged? : Option VarId :=
  match s.form with
  | .mergeNode _ m => some m.out
  | .mergeDependent m _ => some m.out
  | _ => none

/-- The relations with which a statement merges a node. -/
def Statement.identifying : List IdRelation :=
  match s.form with
  | .mergeDependent _ d => d.relations
  | _ => []

/-- The relations that a merged node must not have. -/
def Statement.ruledOut : List AntiRelation :=
  match s.form with
  | .mergeDependent _ d => d.absent
  | _ => []

/-- The names of properties, with what they hold. -/
def Program.contents (p : Program) (es : List (String × VarId)) : List (String × VarKind) :=
  es.map fun e => (e.1, (p.get e.2).kind)

/-- The relation says under which name a node was given, and at which place if order counts. -/
def IdRelation.Records (q : Program) (y : Link) (e : IdRelation) : Prop :=
  e.type = "is_required_by" ∧ e.inward = y.isParent ∧ q.contents e.ident =
    (if y.relation.ordered then [("order", .data (.plain (.int y.place)))] else []) ++ [("relation_id", .data (.text y.name))]

lemma contents_of_readFrom {xs : List (String × Value)}
    (h : (Properties.entries es).ReadFrom p (.dict (xs.map fun x => (.text x.1, .plain x.2)))) :
    (∀ e ∈ es, e.2 < p.vars.size) ∧ p.contents es = xs.map fun x => (x.1, .data (.plain x.2)) := by
  obtain ⟨ys, hys, hall⟩ := h
  cases hys
  rw [forall₂_map_left_iff] at hall
  induction hall with
  | nil => exact ⟨by simp, rfl⟩
  | @cons x e xs es hxe hall ih =>
    obtain ⟨hname, hvar | ⟨hlt, hkind⟩⟩ := hxe
    · cases hvar
    · obtain ⟨hsize, hcontents⟩ := ih
      refine ⟨?_, ?_⟩
      · intro e' he'
        rcases mem_cons.mp he' with rfl | he'
        · exact hlt
        · exact hsize e' he'
      · have hname : x.1 = e.1 := Option.some.inj hname
        simp only [Program.contents, map_cons, hkind, hname] at hcontents ⊢
        rw [hcontents]

lemma contents_extends (hes : ∀ e ∈ es, e.2 < p.vars.size) (h : Extends p q) : q.contents es = p.contents es := by
  refine map_congr_left fun e he => ?_
  rw [h.get e.2 (hes e he)]

/-- The values that identify a relation. -/
def relationValues (ordered : Bool) (k : String) (n : Nat) : List (String × Value) :=
  (if ordered then [("order", .int n)] else []) ++ [("relation_id", .text k)]

lemma ident_eq (y : Relative) (n : Nat) :
    y.ident (placeOf n) = .dict ((relationValues y.ordered y.name n).map fun x => (.text x.1, .plain x.2)) := by
  unfold Relative.ident relationValues
  cases y.ordered <;> rfl

lemma records_of_madeOf (h : e.MadeOf p { y.given with other := .var v }) (hq : Extends p q) : e.Records q y := by
  have hident := h.ident
  simp only [Link.given, ident_eq] at hident
  obtain ⟨hsize, hcontents⟩ := contents_of_readFrom hident
  refine ⟨(Option.some.inj h.type).symm, h.inward, ?_⟩
  rw [contents_extends hsize hq, hcontents]
  cases y.relation.ordered <;> rfl

/-- A merge is made of relations that the node has and of those that it must not have. -/
structure Statement.MergesWith (o : Program) (v : VarId) (relations : List GivenRelation) (absent : List Thing) (s : Statement) :
    Prop where
  merged : s.merged? = some v
  identifying : Forall₂ (IdRelation.MadeOf o) relations s.identifying
  ruledOut : Forall₂ (AntiRelation.MadeOf o) absent s.ruledOut
  inReach : ∀ r ∈ relations, o.isAccessible r.other

lemma mergeIdentified_ok {labels ident properties : Thing} {relations : List GivenRelation} {absent : List Thing} {rule : Value}
    (h : after (mergeIdentified labels ident properties relations absent rule) p = (.ok v, q)) :
    ∃ s ∈ q.statements.toList, s.goesOn ∧ ∃ o, Extends o q ∧ s.MergesWith o v relations absent := by
  have hlast (o : Program) (s : Statement) : s ∈ (o.withStatement s).statements.toList := by simp [Program.withStatement]
  unfold mergeIdentified at h
  split at h
  · rename_i hempty
    obtain ⟨rfl, rfl⟩ : relations = [] ∧ absent = [] := by simpa using hempty
    obtain ⟨-, o, s, labels, m, rfl, hform, rfl⟩ := (leads_mergeSingle (K := Any)).of_ok h
    refine ⟨s, hlast o s, by simp [Statement.goesOn, hform], o, extends_withStatement s, ?_, ?_, ?_, by simp⟩
    · simp [Statement.merged?, hform]
    · simp [Statement.identifying, hform]
    · simp [Statement.ruledOut, hform]
  · obtain ⟨-, o, s, m, d, -, rfl, hform, rfl, -, hmade, hin⟩ := (leads_mergeDependent (K := Any)).of_ok h
    refine ⟨s, hlast o s, by simp [Statement.goesOn, hform], o, extends_withStatement s, ?_, ?_, ?_, hin⟩
    · simp [Statement.merged?, hform]
    · simpa [Statement.identifying, hform] using hmade.relations
    · simpa [Statement.ruledOut, hform] using hmade.absent

lemma mergeWithRelations_ok (h : after (mergeWithRelations i f) p = (.ok v, q)) :
    ∃ d, p.dependent i f = .ok d ∧ ∃ s ∈ q.statements.toList, ∃ o, Extends o q ∧ s.MergesWith o v d.relations d.absent := by
  unfold mergeWithRelations at h
  rw [after_get_bind] at h
  obtain ⟨d, hd, h⟩ := after_lift_ok h
  obtain ⟨node, p₁, hmerge, h⟩ := after_bind_ok h
  obtain ⟨node', p₂, hmerge, hnode⟩ := after_bind_ok hmerge
  cases hnode
  obtain ⟨_, p₃, hothers, h⟩ := after_bind_ok h
  cases h
  obtain ⟨s, hs, hgoes, o, hext, hmerges⟩ := mergeIdentified_ok hmerge
  have hkept : Kept p₁ q := kept_of_ok (Keeps.forM fun _ => keeps_relateOther) hothers
  exact ⟨d, hd, s, hkept.statements s hs hgoes, o, hext.trans hkept.old, hmerges⟩

/-! ## The course of a creation -/

/-- What is taken from a table stands under the names of factors. -/
lemma fromTable_lookup {named' : List (String × Thing)} (hk : spec.factors.lookup k = none)
    (h : after (fromTable spec args named) p = (.ok named', q)) : named'.lookup k = named.lookup k := by
  unfold fromTable at h
  split at h
  · cases h
    rfl
  · rename_i table _
    rw [lookup_eq_none_iff] at hk
    generalize spec.factors = fs at h hk
    induction fs generalizing named p with
    | nil =>
      cases h
      rfl
    | cons x fs ih =>
      obtain ⟨named₁, p₁, h₁, h⟩ := after_bind_ok h
      have hne : k ≠ x.1 := fun he => hk (by simp [he])
      rw [ih h (fun hmem => hk (.tail _ hmem))]
      dsimp only at h₁
      split at h₁
      · cases h₁
        rfl
      · obtain ⟨column, -, h₁⟩ := after_lift_ok h₁
        obtain ⟨value, p₂, -, h₁⟩ := after_bind_ok h₁
        cases h₁
        rw [lookup_setNamed, if_neg hne]

/-- The named values of an instance, without its identifier. -/
def givenValues (c : Class) (prepared : List (String × Thing)) : List (String × Thing) :=
  (prepared.filter (!·.2.isNothing)).filter fun e => some e.1 != c.idname

/-- An instance is filled: values are prepared, its class resolved, factors taken from a table. -/
lemma fillInstance_ok {x : Instance × Filling} (h : after (fillInstance cls args true) p = (.ok x, q)) :
    ∃ prepared named p₁ p₂ p₃, after (prepare (p.reg.get cls) true args.named) p = (.ok prepared, p₁) ∧
      after (settleClass cls) p₁ = (.ok (), p₂) ∧
      after (fromTable (p₂.reg.specification cls) args (givenValues (p₂.reg.get cls) prepared)) p₂ = (.ok named, p₃) ∧
      Kept p₂ q ∧ x.1.cls = cls ∧
      x.2 = (p₂.reg.specification cls).names.foldl (Filling.filled (p₂.reg.specification cls)) { rest := named } := by
  unfold fillInstance at h
  rw [after_get_bind] at h
  obtain ⟨-, h⟩ := after_refuseIf_ok h
  obtain ⟨prepared, p₁, hprepared, h⟩ := after_bind_ok h
  obtain ⟨_, p₂, hsettled, h⟩ := after_bind_ok h
  rw [after_get_bind] at h
  obtain ⟨-, h⟩ := after_refuseIf_ok h
  obtain ⟨named, p₃, htable, h⟩ := after_bind_ok h
  obtain ⟨f, p₄, hfilled, h⟩ := after_bind_ok h
  rw [after_get_bind] at h
  obtain ⟨_, -, h⟩ := after_lift_ok h
  cases h
  have hkept : Kept p₃ q := kept_of_ok (Keeps.foldlM (fun _ _ => keeps_fillName) _) hfilled
  exact ⟨prepared, named, p₁, p₂, p₃, hprepared, hsettled, htable, (kept_of_ok keeps_fromTable htable).trans hkept, rfl,
    fillNames_ok hfilled⟩

lemma mergeStrategy_idname (h : reg.mergeStrategy cls = .ok .nodeWithRelations) : (reg.get cls).idname = none := by
  unfold Registry.mergeStrategy at h
  dsimp only at h
  cases hid : (reg.get cls).idname with
  | none => rfl
  | some n =>
    rw [hid] at h
    cases h

lemma writeInstance_ok {node : Option VarId} (hopen : p.isOpen) (hwaiting : ∀ s ∈ p.reg.waiting i.cls, p.reg.find? s = none)
    (h : after (writeInstance i f) p = (.ok node, q)) (hstrategy : q.reg.mergeStrategy i.cls = .ok .nodeWithRelations) :
    ∃ o v, node = some v ∧ o = { p with reg := o.reg } ∧ Registry.Alike p.reg o.reg ∧
      (o.reg.get i.cls).parents = (p.reg.get i.cls).parents ∧ (o.reg.get i.cls).children = (p.reg.get i.cls).children ∧
      after (mergeWithRelations i f) o = (.ok v, q) := by
  unfold writeInstance at h
  rw [after_get_bind, hopen, if_neg (by simp), after_get_bind] at h
  obtain ⟨strategy, o, hasked, h⟩ := after_bind_ok h
  obtain ⟨ho, halike, hparents, hchildren, hanswer⟩ := askIdentity_ok hwaiting hasked
  cases strategy with
  | nodeFirst =>
    have hkeeps : Keeps Grows (mergeNodeFirst i f >>= fun x => do
        if !x.2.isEmpty then refuse (WriteCause.versioning ((← get).text (.list x.2)))
        return some x.1) :=
      keeps_mergeNodeFirst.bind fun x => .ite (Keeps.get.bind fun _ => .refuse_bind) (.pure _)
    have hreg := (kept_of_ok hkeeps h).reg
    rw [hreg, hanswer] at hstrategy
    cases hstrategy
  | nodeWithRelations =>
    obtain ⟨v, q', hmerge, h⟩ := after_bind_ok h
    cases h
    exact ⟨o, v, rfl, ho, halike, hparents, hchildren, hmerge⟩

/-- The course of creating an instance that its relations identify. -/
lemma create_ok {i : InstanceId} {prepared : List (String × Thing)} (hopen : p.isOpen)
    (hprepared : (after (prepare (p.reg.get cls) true args.named) p).1 = .ok prepared)
    (h : after (create cls args) p = (.ok i, q)) (hstrategy : q.reg.mergeStrategy cls = .ok .nodeWithRelations) :
    ∃ named x o o' v, (∀ k, (q.reg.specification cls).factors.lookup k = none →
        named.lookup k = (prepared.filter (!·.2.isNothing)).lookup k) ∧
      x.cls = cls ∧ o.reg = q.reg ∧ o.instances = p.instances ∧
      after (mergeWithRelations x ((q.reg.specification cls).names.foldl (Filling.filled (q.reg.specification cls))
        { rest := named })) o = (.ok v, o') ∧
      o'.statements = q.statements ∧ Extends o' q ∧ (q.getInstance i).node = some v := by
  obtain ⟨made, o', hmade, h⟩ := after_bind_ok h
  obtain ⟨⟨x, f⟩, p₄, hfilled, hmade⟩ := after_bind_ok hmade
  obtain ⟨prepared', named, p₁, p₂, p₃, hprepared', hsettled, htable, hkept, hcls, hf⟩ := fillInstance_ok hfilled
  dsimp only at hmade hcls hf
  rw [if_neg (by simp), after_get_bind] at hmade
  obtain ⟨-, hmade⟩ := after_refuseIf_ok hmade
  obtain ⟨node, o'', hwritten, hmade⟩ := after_bind_ok hmade
  cases hmade
  cases h
  obtain rfl : prepared' = prepared := by
    rw [hprepared'] at hprepared
    exact Except.ok.inj hprepared
  obtain ⟨hp₂, -, hwaiting⟩ := settleClass_ok hsettled
  have hp₁ : Kept p p₁ := kept_of_ok keeps_prepare hprepared'
  have hopen₄ : p₄.isOpen := by rw [hkept.isOpen, hp₂, hp₁.isOpen, hopen]
  have hinstances : p₄.instances = p.instances := by rw [hkept.instances, hp₂, hp₁.instances]
  obtain ⟨o, v, rfl, ho, halike, hparents, hchildren, hmerge⟩ := writeInstance_ok hopen₄ (by rw [hkept.reg, hcls]; exact hwaiting)
    hwritten (by rw [hcls]; exact hstrategy)
  have hkept' : Kept o o' := kept_of_ok keeps_mergeWithRelations hmerge
  rw [hkept.reg, hcls] at hparents hchildren
  rw [hkept.reg] at halike
  have hspec : o'.reg.specification cls = p₂.reg.specification cls := by
    rw [hkept'.reg, halike.specification hparents hchildren]
  have hidname : (p₂.reg.get cls).idname = none := by
    have hidname := mergeStrategy_idname hstrategy
    rw [hkept'.reg, halike.get] at hidname
    exact hidname
  refine ⟨named, x, o, o', v, fun k hk => ?_, hcls, hkept'.reg.symm, ?_, ?_, rfl, ?_, ?_⟩
  · rw [fromTable_lookup (hspec ▸ hk) htable, givenValues, hidname]
    exact congrArg _ (filter_eq_self.mpr fun _ _ => rfl)
  · rw [ho, hinstances]
  · rw [hspec, ← hf]
    exact hmerge
  · exact .same rfl rfl
  · simp [Program.getInstance]

/-! ## Every node that is given once -/

section Given

variable {reg : Registry} {cls : ClassId} {named named' : List (String × Thing)} {y z : Link}

lemma mem_givenLinks_congr (hsame : ∀ k, (reg.specification cls).factors.lookup k = none → named'.lookup k = named.lookup k)
    (hy : y ∈ givenLinks reg cls named) : y ∈ givenLinks reg cls named' := by
  obtain ⟨hid, hname, hasked, value, xs, hgiven, hxs, hx⟩ := mem_givenLinks.mp hy
  refine mem_givenLinks.mpr ⟨hid, hname, hasked, value, xs, ?_, hxs, hx⟩
  rw [← hgiven]
  unfold relativesGiven
  split
  · rfl
  · rename_i hfactor
    rw [hsame y.name (Option.not_isSome_iff_eq_none.mp hfactor)]

lemma relation_of_givenLinks (hy : y ∈ givenLinks reg cls named) (hz : z ∈ givenLinks reg cls named) (hname : z.name = y.name) :
    z.relation = y.relation := by
  obtain ⟨-, -, -, value, xs, hgiven, -⟩ := mem_givenLinks.mp hy
  obtain ⟨-, -, -, value', xs', hgiven', -⟩ := mem_givenLinks.mp hz
  rw [hname, hgiven] at hgiven'
  exact (congrArg Prod.snd (Option.some.inj hgiven')).symm

/-- A relation depends on the place only if the order counts. -/
lemma IdRelation.Records.congr (h : e.Records q z) (hside : z.isParent = y.isParent) (hname : z.name = y.name)
    (hrelation : z.relation = y.relation) (hplace : y.relation.ordered → z.place = y.place) : e.Records q y := by
  unfold IdRelation.Records at h ⊢
  rw [hside, hname, hrelation] at h
  cases hr : y.relation.ordered with
  | true =>
    rw [hplace hr] at h
    exact hr ▸ h
  | false =>
    rw [hr] at h
    exact h

end Given

/-- An instance that its relations identify is merged with one relation at most to a node. There is one to
every node given under an identifying name, and it says where, if the node is given there only. -/
theorem create_relates_given {cls : ClassId} {args : Arguments} {i : InstanceId} {prepared : List (String × Thing)}
    (hopen : p.isOpen) (hprepared : (after (prepare (p.reg.get cls) true args.named) p).1 = .ok prepared)
    (h : after (create cls args) p = (.ok i, q)) (hstrategy : q.reg.mergeStrategy cls = .ok .nodeWithRelations) :
    ∃ node, (q.getInstance i).node = some node ∧ ∃ s ∈ q.statements.toList, s.merged? = some node ∧
      (s.identifying.map (·.other)).Nodup ∧
      ∀ y ∈ givenLinks q.reg cls (prepared.filter (!·.2.isNothing)), ∃ v, p.standsFor y.thing = some v ∧
        ∃ e ∈ s.identifying, e.other = .var v ∧
          ((∀ z ∈ givenLinks q.reg cls (prepared.filter (!·.2.isNothing)), p.standsFor z.thing = some v →
              z.isParent = y.isParent ∧ z.name = y.name ∧ (y.relation.ordered → z.place = y.place)) →
            e.Records q y) := by
  obtain ⟨named, x, o, o', node, hnamed, rfl, hreg, hinstances, hmerge, hstatements, hext, hnode⟩ :=
    create_ok hopen hprepared h hstrategy
  obtain ⟨d, hd, s, hs, a, ha, hmerges⟩ := mergeWithRelations_ok hmerge
  rw [← hreg] at hd
  obtain ⟨l, gs, hl, hgs, hrelations⟩ := dependent_ok hd
  rw [hrelations] at hmerges
  obtain ⟨hgiven, hleft, hnodup⟩ := eachOnce_nodes hgs fun g hg => var_of_isAccessible (hmerges.inReach g hg)
  refine ⟨node, hnode, s, hstatements ▸ hs, hmerges.merged, ?_, ?_⟩
  · have hothers : (eachOnce gs).map (·.other) = s.identifying.map (·.other) := by
      rw [← List.forall₂_eq_eq_eq, List.forall₂_map_left_iff, List.forall₂_map_right_iff]
      exact hmerges.identifying.imp fun _ _ he => he.other.symm
    exact hothers ▸ hnodup
  intro y hy
  have hstands (t : Thing) : o.standsFor t = p.standsFor t := by
    unfold Program.standsFor Program.getInstance
    rw [hinstances]
  rw [hreg] at hl
  obtain ⟨v, hv, hmem⟩ := hgiven _ ((hl _).mpr ⟨y, mem_givenLinks_congr hnamed hy, rfl⟩)
  obtain ⟨g, hg, hother⟩ := List.mem_map.mp hmem
  obtain ⟨e, he, hmade⟩ := exists_of_forall₂ hmerges.identifying hg
  refine ⟨v, hstands y.thing ▸ hv, e, he, hmade.other.trans hother, fun halone => ?_⟩
  -- the relation to the node is that of some place at which it is given, and there is only one
  obtain ⟨g', hg', v', hv', rfl⟩ := hleft g hg
  obtain ⟨z, hz, rfl⟩ := (hl g').mp hg'
  obtain rfl : v' = v := Thing.var.inj hother
  have hz := mem_givenLinks_congr (fun k hk => (hnamed k hk).symm) hz
  obtain ⟨hside, hname, hplace⟩ := halone z hz (hstands z.thing ▸ hv')
  exact (records_of_madeOf hmade (ha.trans hext)).congr hside hname (relation_of_givenLinks hy hz hname) hplace

/-- Stars, and clusters identified by an epoch, the star at the centre and the other stars in order. -/
def clusterRegistry : Registry :=
  let star : Declaration := { name := "Star", pluralName := some "stars", idname := some (.text "number") }
  let cluster : Declaration :=
    { name := "Cluster", pluralName := some "clusters", factors := some ["epoch"]
      parents := some [.rel { kind := .oneOf, node := .text "Star", idname := some "centre" },
        .rel { kind := .multiple, node := .text "Star", max := some (.int 3), idname := some "others", ordered := true }]
      identity := some (some ["epoch", "centre", "others"]) }
  (after (do let _ ← declare star; let _ ← declare cluster) Registry.empty).2

def withStars (n : Nat) : Program :=
  (after ((range n).forM fun k => do let _ ← create 1 { named := [("number", .plain (.int k))] })
    (Program.start clusterRegistry (.text "ignore"))).2

def clusterOf (centre : InstanceId) (others : List InstanceId) : List (String × Thing) :=
  [("epoch", .plain (.int 2000)), ("centre", .object centre), ("others", .list (others.map .object))]

/-- The program that merges stars and then a cluster of them. -/
def withCluster (n : Nat) (centre : InstanceId) (others : List InstanceId) : Program :=
  (after (create 2 { named := clusterOf centre others }) (withStars n)).2

lemma after_create_cluster {i : Nat}
    (h : gives (after (create 2 { named := clusterOf centre others }) (withStars n)).1 (fun j => decide (j = i))) :
    after (create 2 { named := clusterOf centre others }) (withStars n) = (.ok i, withCluster n centre others) := by
  unfold withCluster
  rw [← eq_ok_of_gives h]

lemma prepare_clusterOf (h : ((withStars n).reg.get 2).preparation = .plain) :
    (after (prepare ((withStars n).reg.get 2) true (clusterOf centre others)) (withStars n)).1 = .ok (clusterOf centre others) := by
  unfold prepare
  rw [h]
  rfl

/-- A cluster of three different stars is merged with a relation to each. -/
theorem create_relates_given_cluster :
    after (create 2 { named := clusterOf 0 [1, 2] }) (withStars 3) = (.ok 3, withCluster 3 0 [1, 2]) ∧
    (givenLinks (withCluster 3 0 [1, 2]).reg 2 (clusterOf 0 [1, 2])).map (fun y => (y.name, y.place)) =
      [("centre", 0), ("others", 0), ("others", 1)] ∧
    ∃ node, ((withCluster 3 0 [1, 2]).getInstance 3).node = some node ∧
      ∃ s ∈ (withCluster 3 0 [1, 2]).statements.toList, s.merged? = some node ∧
        ∀ y ∈ givenLinks (withCluster 3 0 [1, 2]).reg 2 (clusterOf 0 [1, 2]), ∃ v,
          (withStars 3).standsFor y.thing = some v ∧ ∃ e ∈ s.identifying, e.other = .var v ∧
            e.Records (withCluster 3 0 [1, 2]) y := by
  have hcreated : after (create 2 { named := clusterOf 0 [1, 2] }) (withStars 3) = (.ok 3, withCluster 3 0 [1, 2]) :=
    after_create_cluster (by decide +kernel)
  have hstrategy : (withCluster 3 0 [1, 2]).reg.mergeStrategy 2 = .ok .nodeWithRelations := eq_ok_of_gives (by decide +kernel)
  have halone : ∀ y ∈ givenLinks (withCluster 3 0 [1, 2]).reg 2 (clusterOf 0 [1, 2]),
      ∀ z ∈ givenLinks (withCluster 3 0 [1, 2]).reg 2 (clusterOf 0 [1, 2]),
        (withStars 3).standsFor z.thing = (withStars 3).standsFor y.thing →
          z.isParent = y.isParent ∧ z.name = y.name ∧ (y.relation.ordered → z.place = y.place) := by
    decide +kernel
  obtain ⟨node, hnode, s, hs, hmerged, -, hgiven⟩ :=
    create_relates_given (by decide +kernel) (prepare_clusterOf (by decide +kernel)) hcreated hstrategy
  refine ⟨hcreated, by decide +kernel, node, hnode, s, hs, hmerged, fun y hy => ?_⟩
  obtain ⟨v, hv, e, he, hother, hrecords⟩ := hgiven y hy
  exact ⟨v, hv, e, he, hother, hrecords fun z hz hzv => halone y hy z hz (hzv.trans hv.symm)⟩

/-- If the centre also stands twice among the others, no relation says that it is the centre. -/
theorem exists_given_unrelated :
    ∃ (p q : Program) (cls : ClassId) (named : List (String × Thing)) (i : InstanceId), p.isOpen ∧
      (after (prepare (p.reg.get cls) true named) p).1 = .ok named ∧ after (create cls { named }) p = (.ok i, q) ∧
      q.reg.mergeStrategy cls = .ok .nodeWithRelations ∧
      ∃ y ∈ givenLinks q.reg cls named, ∀ s ∈ q.statements.toList, s.merged? = (q.getInstance i).node →
        ∀ e ∈ s.identifying, ¬ e.Records q y := by
  refine ⟨withStars 1, withCluster 1 0 [0, 0], 2, clusterOf 0 [0, 0], 1, by decide +kernel,
    prepare_clusterOf (by decide +kernel), after_create_cluster (by decide +kernel), eq_ok_of_gives (by decide +kernel), ?_⟩
  have hplaces : ∀ s ∈ (withCluster 1 0 [0, 0]).statements.toList,
      s.merged? = ((withCluster 1 0 [0, 0]).getInstance 1).node →
        ∀ e ∈ s.identifying, e.ident.map (·.1) = ["order", "relation_id"] := by
    decide +kernel
  have hcentre : ∃ y ∈ givenLinks (withCluster 1 0 [0, 0]).reg 2 (clusterOf 0 [0, 0]), y.relation.ordered = false := by
    decide +kernel
  obtain ⟨y, hy, hunordered⟩ := hcentre
  refine ⟨y, hy, fun s hs hmerged e he hrecords => ?_⟩
  have hcontents := congrArg (List.map Prod.fst) hrecords.2.2
  rw [Program.contents] at hcontents
  have hnames := hplaces s hs hmerged e he
  simp_all [Function.comp_def]

end SurveyGraph.Write
