import SurveyGraph.Proofs.ClassHeads
import SurveyGraph.Proofs.SparedClasses
/-!
# Links both ways

A member of a class gives a link from the parent to the child and one back, and a base gives one to the class that extends it
and one back. A class is never a plain member of itself, so no link stands alone (`linksOf_partner`), and links that say the
same are left out together. So every link of the graph of a schema has one the other way (`Paired`).
-/
open List Relation

namespace SurveyGraph

variable {reg : Registry}

open Registry in
lemma Registry.Schema.goes (h : reg.Schema) : ReflTransGen Goes Registry.empty reg := by
  induction h with
  | empty => exact .refl
  | @declares reg _ d _ _ _ haccepted ih =>
    have hstep := Goes.declares reg d
    rw [haccepted] at hstep
    exact ih.tail hstep
  | @settles reg _ _ hsettled ih =>
    have hstep := Goes.settles reg
    rw [show after settleRegistry reg = _ from Write.run_settleRegistry reg, hsettled] at hstep
    exact ih.tail hstep

/-- The type of the link the other way. -/
def LinkType.opposite : LinkType → LinkType
  | .parentOf => .childOf
  | .childOf => .parentOf
  | .subclassedBy => .isA
  | .isA => .subclassedBy

namespace ClassGraph

variable {g : ClassGraph} {a b c : ClassId} {k l : Link} {t : LinkType} {o : Bool}

/-- One link leads back from where the other leads to, and is optional if that is. -/
def Partner (l k : Link) : Prop :=
  k.src = l.dst ∧ k.dst = l.src ∧ k.type = l.type.opposite ∧ k.isOptional = l.isOptional

/-- Every link of a class has a partner among them, which starts at a class of the registry. -/
lemma linksOf_partner (hheld : reg.Held) (horderly : reg.Orderly) (hc : c ∈ reg.declared) (hl : l ∈ linksOf reg c) :
    ∃ k ∈ linksOf reg c, Partner l k ∧ k.src < reg.classes.size := by
  obtain ⟨hpos, hlt⟩ := Registry.mem_declared.mp hc
  -- a member gives all links of a relation to its class, and the class is not `c` itself where the member is plain
  have hmember : ∀ (make : ClassId → Relation → List Link), ∀ m ∈ (reg.get c).parents ++ (reg.get c).children,
      ∀ l ∈ memberLinks make c m, ∃ d < reg.classes.size, ∃ r, l ∈ make d r ∧ ∀ k ∈ make d r, k ∈ memberLinks make c m := by
    intro make m hm l hl
    cases m with
    | name s => cases hl
    | cls d =>
      have hne : ¬(d == c) = true := by
        simpa using Nat.ne_of_lt ((hheld c).older d hm)
      simp only [memberLinks, if_neg hne] at hl ⊢
      exact ⟨d, (hheld c).aims _ hm d rfl, _, hl, fun k hk => hk⟩
    | rel r =>
      cases ht : r.target with
      | awaiting s =>
        simp only [memberLinks, ht] at hl
        cases hl
      | cls d =>
        simp only [memberLinks, ht] at hl ⊢
        exact ⟨d, (hheld c).aims _ hm d (by cases r; cases ht; rfl), r, hl, fun k hk => hk⟩
  simp only [linksOf, mem_append, mem_flatMap] at hl ⊢
  rcases hl with (⟨m, hm, hl⟩ | ⟨m, hm, hl⟩) | ⟨d, hd, hl⟩
  · obtain ⟨d, hd, r, hl, hall⟩ := hmember _ m (mem_append_left _ hm) l hl
    simp only [parentLinks, mem_cons, not_mem_nil, or_false] at hl
    rcases hl with rfl | rfl
    · exact ⟨_, .inl (.inl ⟨m, hm, hall _ (.tail _ (.head _))⟩), ⟨rfl, rfl, rfl, rfl⟩, hd⟩
    · exact ⟨_, .inl (.inl ⟨m, hm, hall _ (.head _)⟩), ⟨rfl, rfl, rfl, rfl⟩, hlt⟩
  · obtain ⟨d, hd, r, hl, hall⟩ := hmember _ m (mem_append_right _ hm) l hl
    simp only [childLinks, mem_cons, not_mem_nil, or_false] at hl
    rcases hl with rfl | rfl
    · exact ⟨_, .inl (.inr ⟨m, hm, hall _ (.tail _ (.head _))⟩), ⟨rfl, rfl, rfl, rfl⟩, hd⟩
    · exact ⟨_, .inl (.inr ⟨m, hm, hall _ (.head _)⟩), ⟨rfl, rfl, rfl, rfl⟩, hlt⟩
  · have hbase := ((horderly.bases c hpos hlt).2 d hd).trans hlt
    simp only [inheritanceLinks, mem_cons, not_mem_nil, or_false] at hl
    rcases hl with rfl | rfl
    · exact ⟨_, .inr ⟨d, hd, .tail _ (.head _)⟩, ⟨rfl, rfl, rfl, rfl⟩, hlt⟩
    · exact ⟨_, .inr ⟨d, hd, .head _⟩, ⟨rfl, rfl, rfl, rfl⟩, hbase⟩

lemma links_opposite (h : reg.Schema) (hl : (ofRegistry reg).Links a b t o) : (ofRegistry reg).Links b a t.opposite o := by
  obtain ⟨l, ⟨n, hn, rfl, hmem⟩, rfl, rfl⟩ := links_iff.mp hl
  obtain ⟨rfl, hdst, c, hc, k, hk, hlk⟩ := (ofRegistry_out reg a n hn).2 l hmem
  obtain ⟨-, hb, ha⟩ := mem_removed.mp hn
  obtain ⟨m, hm, ⟨hsrc, hdst', htype, hopt⟩, hlt⟩ := linksOf_partner (Registry.held_of_goes h.goes).2 h.orderly hc hk
  obtain ⟨n', hn', hto, hlinks⟩ := shows_classes h.orderly hc hm hlt
  rw [hsrc, ← congrArg Link.dst hlk, hdst] at hn'
  rw [hdst', ← congrArg Link.src hlk] at hto
  rw [htype, hopt, ← congrArg Link.type hlk, ← congrArg Link.isOptional hlk] at hlinks
  exact ⟨n', mem_removed.mpr ⟨hn', hto ▸ ha, hb⟩, hto, hlinks⟩

/-! ## The part that is not optional -/

lemma listed_foldl_insert (ls : List Link) (g : ClassGraph) : Listed ((ls.foldl insert g).out.getD a []) b k ↔
    (k ∈ ls ∧ k.src = a ∧ k.dst = b ∧ a < g.out.size) ∨ Listed (g.out.getD a []) b k := by
  induction ls generalizing g with
  | nil => simp
  | cons l ls ih =>
    rw [foldl_cons, ih, ClassGraph.insert, listed_modify]
    simp only [Array.size_modify, mem_cons]
    grind

/-- In the graph of a registry exactly the links that are not optional are kept. -/
lemma links_nonOptional : (ofRegistry reg).nonOptional.Links a b t o ↔ o = false ∧ (ofRegistry reg).Links a b t o := by
  have hout := ofRegistry_joins reg
  have hbare : ∀ k, ¬Listed (((ofRegistry reg).filter (!·.isOptional)).bare.out.getD a []) b k := by
    rintro k ⟨n, hn, -⟩
    rw [bare, getD_map_nil] at hn
    cases hn
  have hsize : ∀ {n}, n ∈ (ofRegistry reg).out.getD a [] → a < (ofRegistry reg).out.size := by
    intro n hn
    refine Nat.lt_of_not_le fun hle => ?_
    simp [Array.getElem?_eq_none hle] at hn
  rw [links_iff, links_iff]
  unfold nonOptional reordered
  simp only [listed_foldl_insert, hbare, or_false]
  constructor
  · rintro ⟨k, ⟨hk, rfl, rfl, -⟩, rfl, rfl⟩
    obtain ⟨c, hk⟩ := mem_links hk
    obtain ⟨n, hn, hk⟩ := mem_linksFrom.mp hk
    obtain ⟨hsrc, hdst, hjoins, hopt⟩ := (hout.filter (!·.isOptional) c n hn).2 k hk
    rw [ClassGraph.filter, getD_map _ _ _ rfl] at hn
    obtain ⟨n, hn', rfl⟩ := mem_map.mp (mem_filter.mp hn).1
    exact ⟨by simpa using hopt, k, ⟨n, hsrc ▸ hn', hdst.symm, (mem_filter.mp hk).1⟩, rfl, rfl⟩
  · rintro ⟨hopt, k, ⟨n, hn, rfl, hk⟩, rfl, rfl⟩
    obtain ⟨rfl, hdst, hjoins⟩ := (hout a n hn).2 k hk
    refine ⟨k, ⟨?_, rfl, hdst, by simpa [bare, ClassGraph.filter] using hsize hn⟩, rfl, rfl⟩
    refine mem_flatMap.mpr ⟨k.src, hjoins.1, ?_⟩
    rw [ClassGraph.filter, getD_map _ _ _ rfl]
    have hkept : k ∈ n.2.filter (!·.isOptional) := mem_filter.mpr ⟨hk, by simpa using hopt⟩
    exact mem_flatMap.mpr ⟨_, mem_filter.mpr ⟨mem_map.mpr ⟨n, hn, rfl⟩, by simpa using ne_nil_of_mem hkept⟩, hkept⟩

/-- Children are linked to parents as these are to them, optionally or not, and classes to those they extend as
these are to them. -/
def Paired (g : ClassGraph) : Prop := ∀ a b o, (g.Links a b .childOf o ↔ g.Links b a .parentOf o) ∧
  (g.Links a b .isA o ↔ g.Links b a .subclassedBy o)

/-- In every schema links are paired, and so are those that are not optional, which are all that is kept. -/
theorem links_paired (h : reg.Schema) : (ofRegistry reg).Paired ∧ (ofRegistry reg).nonOptional.Paired ∧
    ∀ a b t o, (ofRegistry reg).nonOptional.Links a b t o ↔ o = false ∧ (ofRegistry reg).Links a b t o := by
  have hpaired : (ofRegistry reg).Paired := fun a b o =>
    ⟨⟨links_opposite h, links_opposite h⟩, ⟨links_opposite h, links_opposite h⟩⟩
  refine ⟨hpaired, fun a b o => ?_, fun a b t o => links_nonOptional⟩
  simp only [links_nonOptional, hpaired a b o, and_self]

/-- Plates, and exposures each of which may have one. -/
def platesDeclared : List Declaration :=
  [{ name := "Plate", pluralName := some "plates", idname := some (.text "number") },
    { name := "Exposure", pluralName := some "exposures", idname := some (.text "number")
      parents := some [.rel { kind := .optional, node := .text "Plate" }] }]

def platesRegistry : Registry := (after (platesDeclared.mapM declare) Registry.empty).2

/-- Exposures are optional children of plates, which are left out on both sides where nothing is optional. -/
theorem links_paired_plates : platesRegistry.Schema ∧ (ofRegistry platesRegistry).Links 2 1 .childOf true ∧
    (ofRegistry platesRegistry).Links 1 2 .parentOf true ∧ ¬(ofRegistry platesRegistry).nonOptional.Links 2 1 .childOf true ∧
    ¬(ofRegistry platesRegistry).nonOptional.Links 1 2 .parentOf true := by
  have h : platesRegistry.Schema := .ofDeclarations rfl (by decide +kernel)
  have hlink : (ofRegistry platesRegistry).Links 2 1 .childOf true := by decide +kernel
  obtain ⟨hall, hnon, hkept⟩ := links_paired h
  have hnone : ¬(ofRegistry platesRegistry).nonOptional.Links 2 1 .childOf true := fun hl =>
    Bool.false_ne_true ((hkept 2 1 _ _).mp hl).1.symm
  exact ⟨h, hlink, (hall 2 1 true).1.mp hlink, hnone, fun hl => hnone ((hnon 2 1 true).1.mpr hl)⟩

end ClassGraph

end SurveyGraph
