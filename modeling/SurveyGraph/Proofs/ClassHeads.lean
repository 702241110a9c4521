import SurveyGraph.Proofs.GraphSearches
import SurveyGraph.Proofs.Schemas
/-!
# The heads of some classes

Some classes are put in place of all that extend them. A class is kept if it extends none of the others directly
(`mem_collapse`). Two classes that are kept may still extend each other through a class that is not given
(`exists_head_below`).

The graph of a registry lists each link twice (`Mirrored`), and each base of a class is linked to it (`linked_bases`).
-/
open List

namespace SurveyGraph.ClassGraph

variable {reg : Registry} {g : ClassGraph} {a b c d : ClassId} {k l : Link} {ns : Neighbours} {n : Nat}

/-! ## Links in both lists -/

/-- A link is listed under a class. -/
def Listed (ns : Neighbours) (d : ClassId) (l : Link) : Prop := ∃ n ∈ ns, n.1 = d ∧ l ∈ n.2

lemma listed_addTo : Listed (addTo c l ns) d k ↔ (d = c ∧ k = l) ∨ Listed ns d k := by
  induction ns with
  | nil => simp [Listed, addTo, eq_comm]
  | cons n ns ih =>
    obtain ⟨e, ls⟩ := n
    have hcons : ∀ ms ns, Listed ((e, ms) :: ns) d k ↔ (e = d ∧ k ∈ ms) ∨ Listed ns d k := fun ms ns => by simp [Listed]
    unfold addTo
    split
    · rename_i hec
      obtain rfl := beq_iff_eq.mp hec
      rw [hcons, hcons, mem_append, mem_singleton]
      tauto
    · rw [hcons, hcons]
      tauto

lemma listed_modify {xs : Array Neighbours} {i : ClassId} : Listed ((xs.modify i (addTo b l)).getD c []) d k ↔
      (i = c ∧ c < xs.size ∧ d = b ∧ k = l) ∨ Listed (xs.getD c []) d k := by
  rw [getD_modify]
  split
  · rename_i hc
    rw [listed_addTo]
    simp [hc.1, hc.2]
  · rename_i hc
    exact ⟨.inr, fun h => h.resolve_left fun h => hc ⟨h.1, h.2.1⟩⟩

/-- A graph lists every link to a class below a bound at both ends. -/
structure Mirrored (n : Nat) (g : ClassGraph) : Prop where
  sizes : g.out.size = n ∧ g.into.size = n
  into : ∀ {a b l}, b < n → Listed (g.out.getD a []) b l → Listed (g.into.getD b []) a l

lemma Mirrored.insert (h : Mirrored n g) (l : Link) : Mirrored n (g.insert l) where
  sizes := by simp [ClassGraph.insert, h.sizes]
  into hb hl := by
    rw [ClassGraph.insert, listed_modify] at hl ⊢
    rcases hl with ⟨rfl, -, rfl, rfl⟩ | hl
    · exact .inl ⟨rfl, by rw [h.sizes.2]; exact hb, rfl, rfl⟩
    · exact .inr (h.into hb hl)

lemma Mirrored.addNode (h : Mirrored n g) (c : ClassId) : Mirrored n (g.addNode c) := by
  obtain ⟨hout, hinto⟩ := addNode_links g c
  refine ⟨by rw [hout, hinto]; exact h.sizes, fun hb hl => ?_⟩
  rw [hout] at hl
  rw [hinto]
  exact h.into hb hl

lemma grows_mirrored (reg : Registry) (n : Nat) : Grows reg (Mirrored n) where
  addNode _ c h := h.addNode c
  add g _ _ l _ h := by
    unfold add
    dsimp only
    split
    · exact (h.addNode _).addNode _
    · exact ((h.addNode _).addNode _).insert _

lemma mirrored_blank (n : Nat) : Mirrored n (blank n) where
  sizes := by simp [blank]
  into _ h := by
    obtain ⟨e, he, -⟩ := h
    rw [blank, getD_replicate_nil] at he
    cases he

/-! ## The links of a registry -/

/-- Among the neighbours of a class another is linked in some way. -/
def Links (g : ClassGraph) (a b : ClassId) (t : LinkType) (isOptional : Bool) : Prop :=
  ∃ n ∈ g.out.getD a [], n.1 = b ∧ ∃ l ∈ n.2, l.type = t ∧ l.isOptional = isOptional

instance {t : LinkType} {o : Bool} : Decidable (g.Links a b t o) :=
  inferInstanceAs (Decidable (∃ n ∈ g.out.getD a [], n.1 = b ∧ ∃ l ∈ n.2, l.type = t ∧ l.isOptional = o))

lemma links_iff {t : LinkType} {o : Bool} :
    g.Links a b t o ↔ ∃ l, Listed (g.out.getD a []) b l ∧ l.type = t ∧ l.isOptional = o := by
  constructor
  · rintro ⟨n, hn, hb, l, hl, hsame⟩
    exact ⟨l, ⟨n, hn, hb, hl⟩, hsame⟩
  · rintro ⟨l, ⟨n, hn, hb, hl⟩, hsame⟩
    exact ⟨n, hn, hb, l, hl, hsame⟩

/-- A graph has a link like this one. -/
def Shows (g : ClassGraph) (l : Link) : Prop := g.Links l.src l.dst l.type l.isOptional

lemma grows_shows (reg : Registry) (l : Link) : Grows reg (Shows · l) where
  addNode g e h := by
    unfold Shows Links
    rw [(addNode_links g e).1]
    exact h
  add g _ _ k _ h := by
    obtain ⟨k', hk, hsame⟩ := links_iff.mp h
    refine links_iff.mpr ⟨k', ?_, hsame⟩
    have hout : ((g.addNode k.src).addNode k.dst).out = g.out := by rw [(addNode_links _ _).1, (addNode_links _ _).1]
    unfold add
    dsimp only
    split
    · rw [hout]
      exact hk
    · rw [ClassGraph.insert, listed_modify, hout]
      exact .inr hk

lemma Mirrored.shows_add (h : Mirrored n g) (hl : l.src < n) : Shows (add reg g l) l := by
  have hnodes := (h.addNode l.src).addNode l.dst
  refine links_iff.mpr ?_
  unfold add
  dsimp only
  split
  · rename_i hsame
    obtain ⟨k, hk, hsame⟩ := any_eq_true.mp hsame
    obtain ⟨ls, hls, hk⟩ := mem_between hk
    simp only [Link.same, Bool.and_eq_true, beq_iff_eq] at hsame
    exact ⟨k, ⟨_, hls, rfl, hk⟩, hsame.1.1.1.1.1.1, hsame.1.1.1.2⟩
  · exact ⟨_, listed_modify.mpr (.inl ⟨rfl, by rw [hnodes.sizes.1]; exact hl, rfl, rfl⟩), rfl, rfl⟩

lemma Mirrored.shows_links (h : Mirrored n g) (hc : c ∈ reg.declared) {ls : List Link} (hls : ∀ l ∈ ls, l ∈ linksOf reg c)
    (hmem : l ∈ ls) (hl : l.src < n) : Shows (ls.foldl (add reg) g) l := by
  induction ls generalizing g with
  | nil => cases hmem
  | cons k ls ih =>
    have hrest : ∀ k ∈ ls, k ∈ linksOf reg c := fun k hk => hls k (.tail _ hk)
    rw [foldl_cons]
    rcases mem_cons.mp hmem with rfl | hmem
    · exact (grows_shows reg l).foldl_add hc hrest (h.shows_add hl)
    · exact ih ((grows_mirrored reg n).add g c hc k (hls k (.head _)) h) hrest hmem

/-- The links of every class among those that are added are there. -/
lemma Mirrored.shows_foldl (h : Mirrored n g) {cs : List ClassId} (hcs : ∀ c ∈ cs, c ∈ reg.declared) (hc : c ∈ cs)
    (hmem : l ∈ linksOf reg c) (hl : l.src < n) : Shows (cs.foldl (addClass reg) g) l := by
  induction cs generalizing g with
  | nil => cases hc
  | cons e cs ih =>
    have hrest : ∀ c ∈ cs, c ∈ reg.declared := fun c hc => hcs c (.tail _ hc)
    rw [foldl_cons]
    rcases mem_cons.mp hc with rfl | hc
    · have hdeclared := hcs c (.head _)
      exact (grows_shows reg l).foldl_addClass hrest ((h.addNode c).shows_links hdeclared (fun _ hl => hl) hmem hl)
    · exact ih ((grows_mirrored reg n).addClass (hcs e (.head _)) h) hrest hc

lemma mirrored_classes (reg : Registry) :
    Mirrored reg.classes.size ((reg.subclasses Registry.root).foldl (addClass reg) (blank reg.classes.size)) :=
  (grows_mirrored reg _).foldl_addClass (fun _ => Registry.mem_declared_of_subclass) (mirrored_blank _)

lemma shows_classes (h : reg.Orderly) (hc : c ∈ reg.declared) (hmem : l ∈ linksOf reg c) (hl : l.src < reg.classes.size) :
    Shows ((reg.subclasses Registry.root).foldl (addClass reg) (blank reg.classes.size)) l :=
  (mirrored_blank _).shows_foldl (fun _ => Registry.mem_declared_of_subclass) (h.mem_subclasses_root hc) hmem hl

/-- A class is linked to another as one that is extended by it. -/
def LinkedBase (g : ClassGraph) (b c : ClassId) : Prop := ∃ l, Listed (g.into.getD c []) b l ∧ l.type = .subclassedBy

/-- Exactly the bases of a class, but the root, are linked to it. -/
lemma linked_bases (h : reg.Orderly) (hc : c ∈ reg.declared) :
    LinkedBase (ofRegistry reg) b c ↔ b ∈ (reg.get c).bases ∧ b ≠ Registry.root := by
  obtain ⟨hpos, hlt⟩ := Registry.mem_declared.mp hc
  constructor
  · rintro ⟨l, ⟨e, he, rfl, hl⟩, htype⟩
    obtain ⟨hsrc, hdst, hdeclared⟩ := (ofRegistry_into reg c e he).2 l hl
    refine ⟨?_, (mem_removed.mp he).2.1⟩
    rcases hdeclared.inherits (by simp [htype]) with ⟨hother, -⟩ | ⟨-, hbase⟩
    · rw [htype] at hother
      cases hother
    · rw [← hsrc, ← hdst]
      exact hbase
  · rintro ⟨hb, hroot⟩
    have hmem : (inheritanceLinks c b).head (cons_ne_nil _ _) ∈ linksOf reg c :=
      mem_append_right _ (mem_flatMap.mpr ⟨b, hb, .head _⟩)
    have hlink := shows_classes h hc hmem (((h.bases c hpos hlt).2 b hb).trans hlt)
    obtain ⟨l, hlisted, htype, -⟩ := links_iff.mp hlink
    obtain ⟨e, he, rfl, hl⟩ := (mirrored_classes reg).into hlt hlisted
    exact ⟨l, ⟨e, mem_removed.mpr ⟨he, hroot, Nat.ne_of_gt hpos⟩, rfl, hl⟩, htype⟩

/-! ## What is kept -/

variable {cs : List ClassId}

/-- A class is kept if it extends none of the others directly. -/
lemma mem_collapse (h : reg.Orderly) (hcs : ∀ c ∈ cs, c ∈ reg.declared) :
    c ∈ (ofRegistry reg).collapse cs ↔ c ∈ cs ∧ ∀ b ∈ (reg.get c).bases, b ∉ cs := by
  have hroot : ∀ e ∈ cs, e ≠ Registry.root := fun e he => Nat.ne_of_gt (Registry.mem_declared.mp (hcs e he)).1
  have hinside : ∀ e, (e != Registry.root && cs.contains e) = true ↔ e ∈ cs := fun e => by
    simpa using hroot e
  have hnode : c ∈ cs → c ∈ (ofRegistry reg).nodes := fun hc =>
    mem_ofRegistry (h.mem_subclasses_root (hcs c hc)) (hroot c hc)
  unfold collapse
  simp only [mem_filter, hinside, Bool.not_eq_true', any_eq_false, Bool.and_eq_true, any_eq_true, beq_iff_eq]
  constructor
  · rintro ⟨⟨-, hc⟩, hnone⟩
    refine ⟨hc, fun b hb hbc => ?_⟩
    obtain ⟨l, ⟨e, he, rfl, hl⟩, htype⟩ := (linked_bases h (hcs c hc)).mpr ⟨hb, hroot b hbc⟩
    exact hnone e he ⟨hbc, l, hl, htype⟩
  · rintro ⟨hc, hbases⟩
    refine ⟨⟨hnode hc, hc⟩, ?_⟩
    rintro e he ⟨hin, l, hl, htype⟩
    exact hbases e.1 ((linked_bases h (hcs c hc)).mp ⟨l, ⟨e, he, rfl, hl⟩, htype⟩).1 hin

lemma exists_head (h : reg.Orderly) (hcs : ∀ c ∈ cs, c ∈ reg.declared) (hc : c ∈ cs) :
    ∃ y ∈ (ofRegistry reg).collapse cs, reg.Extends c y := by
  induction c using Nat.strongRecOn with
  | ind c ih =>
    by_cases hhead : ∃ b ∈ (reg.get c).bases, b ∈ cs
    · obtain ⟨b, hb, hbc⟩ := hhead
      obtain ⟨hpos, hlt⟩ := Registry.mem_declared.mp (hcs c hc)
      obtain ⟨y, hy, hextends⟩ := ih b ((h.bases c hpos hlt).2 b hb) hbc
      exact ⟨y, hy, .head hb hextends⟩
    · exact ⟨c, (mem_collapse h hcs).mpr ⟨hc, fun b hb hbc => hhead ⟨b, hb, hbc⟩⟩, .refl⟩

/-- In every schema, each of some classes extends one that is kept; if one that is kept extends another, a
class between them is not given. -/
theorem collapse_heads (h : reg.Schema) (hcs : ∀ c ∈ cs, c ∈ reg.declared) : (∀ y ∈ (ofRegistry reg).collapse cs, y ∈ cs) ∧
    (∀ c ∈ cs, ∃ y ∈ (ofRegistry reg).collapse cs, reg.Extends c y) ∧
    ∀ y ∈ (ofRegistry reg).collapse cs, ∀ z ∈ (ofRegistry reg).collapse cs, reg.Extends y z →
      y = z ∨ ∃ b ∉ cs, reg.Extends y b ∧ reg.Extends b z := by
  have hmem := fun {c} => mem_collapse (c := c) h.orderly hcs
  refine ⟨fun y hy => (hmem.mp hy).1, fun c hc => exists_head h.orderly hcs hc, fun y hy z hz hyz => ?_⟩
  rcases Relation.ReflTransGen.cases_head hyz with heq | ⟨b, hb, hbz⟩
  · exact .inl heq
  · exact .inr ⟨b, (hmem.mp hy).2 b hb, .single hb, hbz⟩

/-- Spectra, of which some are stacked, of which some are stacks. -/
def stacksDeclared : List Declaration :=
  [{ name := "Spectrum", pluralName := some "spectra", isTemplate := true },
    { name := "Stacked", bases := ["Spectrum"], pluralName := some "stackeds", isTemplate := true },
    { name := "Stack", bases := ["Stacked"], pluralName := some "stacks", idname := some (.text "number") }]

def stacksRegistry : Registry := (after (stacksDeclared.mapM declare) Registry.empty).2

lemma stacksRegistry_schema : stacksRegistry.Schema := .ofDeclarations rfl (by decide +kernel)

theorem collapse_heads_stacks : (ofRegistry stacksRegistry).collapse [1, 2, 3] = [1] ∧
    (∀ c ∈ [1, 2, 3], stacksRegistry.Extends c 1) := by
  have heads : (ofRegistry stacksRegistry).collapse [1, 2, 3] = [1] := by decide +kernel
  have hcs : ∀ c ∈ [1, 2, 3], c ∈ stacksRegistry.declared := by decide +kernel
  obtain ⟨-, hcover, -⟩ := collapse_heads stacksRegistry_schema hcs
  rw [heads] at hcover
  exact ⟨heads, fun c hc => by simpa using hcover c hc⟩

/-- Without stacked spectra, spectra and stacks are both kept, though stacks are spectra. -/
theorem exists_head_below : stacksRegistry.Schema ∧ (∀ c ∈ [1, 3], c ∈ stacksRegistry.declared) ∧
    (ofRegistry stacksRegistry).collapse [1, 3] = [1, 3] ∧ stacksRegistry.Extends 3 1 := by
  refine ⟨stacksRegistry_schema, by decide +kernel, by decide +kernel, ?_⟩
  have hstack : 2 ∈ (stacksRegistry.get 3).bases := by decide +kernel
  have hstacked : 1 ∈ (stacksRegistry.get 2).bases := by decide +kernel
  exact .head hstack (.single hstacked)

end SurveyGraph.ClassGraph
