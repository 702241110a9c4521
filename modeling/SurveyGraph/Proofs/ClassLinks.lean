import Mathlib.Logic.Relation
import SurveyGraph.Paths.Route
import SurveyGraph.Proofs.Outcome
import SurveyGraph.Proofs.Reach
/-!
# Links between classes

The graph of classes keeps each link twice: at its source and at its destination. `Out` and `Into` say that links stand at
their own classes, together with something that holds of all of them; both are kept when links are added, filtered, reordered
or turned round. In the graph of a registry a link between a class and one that it extends comes from a declaration
(`ofRegistry_out`).
-/
open Relation List

namespace SurveyGraph

variable {reg : Registry}

lemma Registry.get_of_size_le {c : ClassId} (hc : reg.classes.size ≤ c) : reg.get c = rootClass := by
  unfold get
  simp [Array.getD_eq_getD_getElem?, Array.getElem?_eq_none hc]

/-- The first class is the second, or extends it. -/
def Registry.Extends (reg : Registry) : ClassId → ClassId → Prop := ReflTransGen (fun c b => b ∈ (reg.get c).bases)

lemma Registry.Extends.mem {c b : ClassId} (cs : List ClassId)
    (hcs : ∀ c ∈ cs, ∀ b ∈ (reg.get c).bases, b ∈ cs) (hc : c ∈ cs) (h : reg.Extends c b) : b ∈ cs := by
  induction h with
  | refl => exact hc
  | tail _ hb ih => exact hcs _ ih _ hb

lemma Registry.Extends.eq_of_leaf {c b : ClassId} (hb : ∀ e, b ∉ (reg.get e).bases) (h : reg.Extends c b) : c = b := by
  cases h with
  | refl => rfl
  | tail _ hstep => exact absurd hstep (hb _)

lemma Registry.mem_subclassesWithin {c : ClassId} : ∀ {fuel : Nat} {b : ClassId},
    c ∈ reg.subclassesWithin fuel b → c ∈ reg.declared ∧ ∃ s, b ∈ (reg.get s).bases ∧ reg.Extends c s
  | 0, _, h => by cases h
  | fuel + 1, b, h => by
    obtain ⟨s, hs, h⟩ := mem_flatMap.mp h
    obtain ⟨hdeclared, hbase⟩ := mem_filter.mp hs
    rw [contains_iff_mem] at hbase
    rcases mem_cons.mp h with rfl | h
    · exact ⟨hdeclared, c, hbase, .refl⟩
    · obtain ⟨hc, t, ht, hextends⟩ := mem_subclassesWithin h
      exact ⟨hc, s, hbase, hextends.tail ht⟩

lemma Registry.mem_declared_of_subclass {b c : ClassId} (h : c ∈ reg.subclasses b) : c ∈ reg.declared :=
  (mem_subclassesWithin h).1

namespace ClassGraph

variable {g : ClassGraph} {P Q : Link → Prop} {l : Link} {a b c d : ClassId} {α : Type} (xs : Array (List α)) {ls : List Link}
  (n : Nat)

/-! ## Neighbours -/

/-- Each neighbour has links, and something holds of each. -/
def Holds (R : ClassId → Link → Prop) (ns : Neighbours) : Prop := ∀ n ∈ ns, n.2 ≠ [] ∧ ∀ l ∈ n.2, R n.1 l

variable {R S : ClassId → Link → Prop} {ns : Neighbours}

lemma Holds.nil : Holds R [] := nofun

lemma Holds.mono (h : Holds R ns) (hRS : ∀ d l, R d l → S d l) : Holds S ns :=
  fun n hn => ⟨(h n hn).1, fun l hl => hRS _ _ ((h n hn).2 l hl)⟩

lemma Holds.filter (h : Holds R ns) (p : Link → Bool) :
    Holds (fun d l => R d l ∧ p l = true) ((ns.map (fun n => (n.1, n.2.filter p))).filter (fun n => !n.2.isEmpty)) := by
  intro n hn
  obtain ⟨hn, hne⟩ := mem_filter.mp hn
  obtain ⟨n, hmem, rfl⟩ := mem_map.mp hn
  refine ⟨by simpa using hne, fun l hl => ?_⟩
  obtain ⟨hl, hp⟩ := mem_filter.mp hl
  exact ⟨(h n hmem).2 l hl, hp⟩

lemma Holds.addTo (h : Holds R ns) (hl : R c l) : Holds R (addTo c l ns) := by
  induction ns with
  | nil =>
    intro n hn
    obtain rfl := mem_singleton.mp hn
    simp [hl]
  | cons n ns ih =>
    obtain ⟨e, ls⟩ := n
    have hhead := h (e, ls) (by simp)
    have htail : Holds R ns := fun n hn => h n (.tail _ hn)
    unfold ClassGraph.addTo
    split
    · rename_i hec
      obtain rfl := beq_iff_eq.mp hec
      intro n hn
      rcases mem_cons.mp hn with rfl | hn
      · refine ⟨by simp, fun k hk => ?_⟩
        rcases mem_append.mp hk with hk | hk
        · exact hhead.2 k hk
        · exact mem_singleton.mp hk ▸ hl
      · exact htail n hn
    · intro n hn
      rcases mem_cons.mp hn with rfl | hn
      · exact hhead
      · exact ih htail n hn

lemma getD_modify (i c : Nat) (f : List α → List α) :
    (xs.modify i f).getD c [] = if i = c ∧ c < xs.size then f (xs.getD c []) else xs.getD c [] := by
  simp only [Array.getD_eq_getD_getElem?, Array.getElem?_modify]
  by_cases hi : i = c
  · by_cases hc : c < xs.size
    · simp [hi, hc]
    · simp [hi, hc]
  · simp [hi]

/-! ## Links at their classes -/

/-- Links away from a class start there, lead to the class they are listed under, and have a property. -/
def Out (g : ClassGraph) (P : Link → Prop) : Prop := ∀ c, Holds (fun d l => l.src = c ∧ l.dst = d ∧ P l) (g.out.getD c [])

/-- Links to a class end there, start at the class they are listed under, and have a property. -/
def Into (g : ClassGraph) (P : Link → Prop) : Prop := ∀ c, Holds (fun d l => l.src = d ∧ l.dst = c ∧ P l) (g.into.getD c [])

lemma mem_linksFrom : l ∈ g.linksFrom c ↔ ∃ n ∈ g.out.getD c [], l ∈ n.2 := by
  simp only [linksFrom, mem_flatMap]

lemma Out.linksFrom (h : g.Out P) (hl : l ∈ g.linksFrom c) : l.src = c ∧ P l := by
  obtain ⟨n, hn, hl⟩ := mem_linksFrom.mp hl
  obtain ⟨hsrc, _, hP⟩ := (h c n hn).2 l hl
  exact ⟨hsrc, hP⟩

lemma mem_links (hl : l ∈ g.links) : ∃ c, l ∈ g.linksFrom c := by
  obtain ⟨c, _, hl⟩ := mem_flatMap.mp hl
  exact ⟨c, hl⟩

lemma Out.links (h : g.Out P) (hl : l ∈ g.links) : P l := by
  obtain ⟨c, hl⟩ := mem_links hl
  exact (h.linksFrom hl).2

lemma mem_lookup {β : Type} {y : β} : ∀ {ns : List (ClassId × β)}, ns.lookup b = some y → (b, y) ∈ ns
  | (e, z) :: ns, h => by
    rw [lookup_cons] at h
    split at h
    · rename_i heq
      cases h
      simp [beq_iff_eq.mp heq]
    · exact .tail _ (mem_lookup h)

lemma mem_between (hl : l ∈ g.between a b) : ∃ ls, (b, ls) ∈ g.out.getD a [] ∧ l ∈ ls := by
  unfold between at hl
  cases hlook : (g.out.getD a []).lookup b with
  | none =>
    rw [hlook] at hl
    cases hl
  | some ls =>
    rw [hlook] at hl
    exact ⟨ls, mem_lookup hlook, hl⟩

lemma Out.between (h : g.Out P) (hl : l ∈ g.between a b) : l.src = a ∧ l.dst = b ∧ P l ∧ l ∈ g.linksFrom a := by
  obtain ⟨ls, hls, hl⟩ := mem_between hl
  obtain ⟨hsrc, hdst, hP⟩ := (h a (b, ls) hls).2 l hl
  exact ⟨hsrc, hdst, hP, mem_linksFrom.mpr ⟨_, hls, hl⟩⟩

lemma Into.predecessors (h : g.Into P) (hd : d ∈ g.predecessors c) : ∃ l, l.src = d ∧ l.dst = c ∧ P l := by
  obtain ⟨n, hn, rfl⟩ := mem_map.mp hd
  obtain ⟨hne, hall⟩ := h c n hn
  obtain ⟨l, hl⟩ := exists_mem_of_ne_nil _ hne
  exact ⟨l, hall l hl⟩

lemma Out.present (h : g.Out P) : g.Out (fun l => P l ∧ l ∈ g.linksFrom l.src) := by
  refine fun c n hn => ⟨(h c n hn).1, fun l hl => ?_⟩
  obtain ⟨hsrc, hdst, hP⟩ := (h c n hn).2 l hl
  exact ⟨hsrc, hdst, hP, hsrc ▸ mem_linksFrom.mpr ⟨n, hn, hl⟩⟩

/-- Links with a property lead from one class to another. -/
def Chain (g : ClassGraph) (P : Link → Prop) : ClassId → ClassId → Prop :=
  ReflTransGen (fun a b => ∃ l ∈ g.linksFrom a, l.dst = b ∧ P l)

lemma Chain.eq_of_stuck (h : g.Chain P a b) (ha : ∀ l ∈ g.linksFrom a, ¬P l) : a = b := by
  rcases ReflTransGen.cases_head h with rfl | ⟨c, ⟨l, hl, _, hP⟩, _⟩
  · rfl
  · exact absurd hP (ha l hl)

lemma linksFrom_eq_nil (h : g.out.size ≤ c) : g.linksFrom c = [] := by
  simp [linksFrom, Array.getElem?_eq_none h]

lemma Into.ancestors {h : ClassGraph} (hi : g.Into (fun l => P l ∧ l ∈ h.linksFrom l.src)) (ha : a ∈ g.ancestors b) :
    h.Chain P a b := by
  obtain ⟨c, hc, hreach⟩ := Shortest.closure_sound _ [b] [b] (fun _ hx => hx) a (mem_of_mem_tail ha)
  obtain rfl := mem_singleton.mp hc
  clear ha
  induction hreach with
  | refl => exact .refl
  | tail _ hstep ih =>
    obtain ⟨l, rfl, hdst, hP, hl⟩ := hi.predecessors hstep
    exact .head ⟨l, hl, hdst, hP⟩ ih

/-! ## Graphs made of links -/

lemma Out.insert (h : g.Out P) (hl : P l) : (g.insert l).Out P := by
  intro c
  rw [ClassGraph.insert, getD_modify]
  split
  · rename_i hc
    exact (h c).addTo ⟨hc.1, rfl, hl⟩
  · exact h c

lemma Into.insert (h : g.Into P) (hl : P l) : (g.insert l).Into P := by
  intro c
  rw [ClassGraph.insert, getD_modify]
  split
  · rename_i hc
    exact (h c).addTo ⟨rfl, hc.1, hl⟩
  · exact h c

lemma getD_map_nil (c : Nat) : (xs.map (fun _ => ([] : List α))).getD c [] = [] := by
  simp only [Array.getD_eq_getD_getElem?, Array.getElem?_map]
  cases xs[c]? <;> rfl

lemma bare_out : g.bare.Out P := by
  intro c
  rw [bare, getD_map_nil]
  exact .nil

lemma bare_into : g.bare.Into P := by
  intro c
  rw [bare, getD_map_nil]
  exact .nil

lemma foldl_insert (hls : ∀ l ∈ ls, P l) (ho : g.Out P) (hi : g.Into P) :
    (ls.foldl insert g).Out P ∧ (ls.foldl insert g).Into P := by
  induction ls generalizing g with
  | nil => exact ⟨ho, hi⟩
  | cons l ls ih =>
    have hl := hls l (by simp)
    exact ih (fun k hk => hls k (.tail _ hk)) (ho.insert hl) (hi.insert hl)

lemma reordered_placed (h : ∀ l ∈ g.links, P l) : g.reordered.Out P ∧ g.reordered.Into P :=
  foldl_insert h bare_out bare_into

lemma Out.reversed (h : g.Out P) : g.reversed.Out (fun l => P l.turned) := by
  refine (foldl_insert (fun l hl => ?_) bare_out bare_into).1
  obtain ⟨k, hk, rfl⟩ := mem_map.mp hl
  exact h.links hk

/-! ## Parts of a graph -/

lemma getD_map (c : Nat) (f : List α → List α) (hf : f [] = []) : (xs.map f).getD c [] = f (xs.getD c []) := by
  simp only [Array.getD_eq_getD_getElem?, Array.getElem?_map]
  cases xs[c]? with
  | none => exact hf.symm
  | some _ => rfl

lemma Out.filter (h : g.Out P) (p : Link → Bool) : (g.filter p).Out (fun l => P l ∧ p l = true) := by
  intro c
  rw [ClassGraph.filter, getD_map _ _ _ rfl]
  exact ((h c).filter p).mono fun _ _ ⟨⟨hsrc, hdst, hP⟩, hp⟩ => ⟨hsrc, hdst, hP, hp⟩

lemma Out.mono (h : g.Out P) (hPQ : ∀ l, P l → Q l) : g.Out Q :=
  fun c => (h c).mono fun _ l ⟨hsrc, hdst, hP⟩ => ⟨hsrc, hdst, hPQ l hP⟩

lemma Into.mono (h : g.Into P) (hPQ : ∀ l, P l → Q l) : g.Into Q :=
  fun c => (h c).mono fun _ l ⟨hsrc, hdst, hP⟩ => ⟨hsrc, hdst, hPQ l hP⟩

lemma Out.ofTypes (h : g.Out P) (types : List LinkType) :
    (g.ofTypes types).Out (fun l => P l ∧ l.type ∈ types) ∧ (g.ofTypes types).Into (fun l => P l ∧ l.type ∈ types) := by
  refine reordered_placed fun l hl => ?_
  obtain ⟨hP, htype⟩ := (h.filter _).links hl
  exact ⟨hP, contains_iff_mem.mp htype⟩

lemma Out.nonOptional (h : g.Out P) : g.nonOptional.Out P := (reordered_placed fun _ hl => ((h.filter _).links hl).1).1

lemma Out.singular (h : g.Out P) : g.singular.Out (fun l => P l ∧ l.weight = some (.finite 0)) :=
  (h.filter _).mono fun _ hl => ⟨hl.1, beq_iff_eq.mp hl.2⟩

lemma mem_removed {xs : Array Neighbours} {r : ClassId} {n : ClassId × List Link} :
    n ∈ ((xs.map (·.filter (·.1 != r))).setIfInBounds r []).getD c [] ↔ n ∈ xs.getD c [] ∧ n.1 ≠ r ∧ c ≠ r := by
  have hfilter := getD_map xs c (·.filter (·.1 != r)) rfl
  simp only [Array.getD_eq_getD_getElem?, Array.getElem?_setIfInBounds] at hfilter ⊢
  split
  · rename_i hrc
    split <;> simp [hrc]
  · rename_i hrc
    rw [hfilter]
    simp [eq_comm.not.mp hrc]

lemma Out.remove (h : g.Out P) (r : ClassId) : (g.remove r).Out P := fun c n hn => h c n (mem_removed.mp hn).1

lemma Into.remove (h : g.Into P) (r : ClassId) : (g.remove r).Into P := fun c n hn => h c n (mem_removed.mp hn).1

/-! ## The graph of a registry -/

/-- A link of some declaration, under any number. -/
def Declared (reg : Registry) (l : Link) : Prop := ∃ c ∈ reg.declared, ∃ k ∈ linksOf reg c, l = { k with key := l.key }

lemma addNode_links (g : ClassGraph) (c : ClassId) : (g.addNode c).out = g.out ∧ (g.addNode c).into = g.into := by
  unfold addNode
  split <;> exact ⟨rfl, rfl⟩

lemma Out.addNode (h : g.Out P) (c : ClassId) : (g.addNode c).Out P := by
  intro e
  rw [(addNode_links g c).1]
  exact h e

lemma Into.addNode (h : g.Into P) (c : ClassId) : (g.addNode c).Into P := by
  intro e
  rw [(addNode_links g c).2]
  exact h e

lemma Out.add (h : g.Out P) (hl : ∀ k, P { l with key := k }) : (add reg g l).Out P := by
  have hnodes := (h.addNode l.src).addNode l.dst
  unfold ClassGraph.add
  dsimp only
  split
  · exact hnodes
  · exact hnodes.insert (hl _)

lemma Into.add (h : g.Into P) (hl : ∀ k, P { l with key := k }) : (add reg g l).Into P := by
  have hnodes := (h.addNode l.src).addNode l.dst
  unfold ClassGraph.add
  dsimp only
  split
  · exact hnodes
  · exact hnodes.insert (hl _)

/-- What holds of a graph, also after a class or a declared link is added. -/
structure Grows (reg : Registry) (I : ClassGraph → Prop) : Prop where
  addNode : ∀ g c, I g → I (g.addNode c)
  add : ∀ g, ∀ c ∈ reg.declared, ∀ l ∈ linksOf reg c, I g → I (add reg g l)

namespace Grows

variable {reg : Registry} {I : ClassGraph → Prop}

lemma foldl_add (h : Grows reg I) (hc : c ∈ reg.declared) (hls : ∀ l ∈ ls, l ∈ linksOf reg c) (hg : I g) :
    I (ls.foldl (ClassGraph.add reg) g) := by
  induction ls generalizing g with
  | nil => exact hg
  | cons l ls ih => exact ih (fun k hk => hls k (.tail _ hk)) (h.add g c hc l (hls l (by simp)) hg)

lemma addClass (h : Grows reg I) (hc : c ∈ reg.declared) (hg : I g) : I (addClass reg g c) :=
  h.foldl_add hc (fun _ hl => hl) (h.addNode g c hg)

lemma foldl_addClass (h : Grows reg I) {cs : List ClassId} (hcs : ∀ c ∈ cs, c ∈ reg.declared) (hg : I g) :
    I (cs.foldl (ClassGraph.addClass reg) g) := by
  induction cs generalizing g with
  | nil => exact hg
  | cons c cs ih => exact ih (fun d hd => hcs d (.tail _ hd)) (h.addClass (hcs c (.head _)) hg)

end Grows

lemma getD_replicate_nil (c : Nat) : (Array.replicate n ([] : List α)).getD c [] = [] := by
  simp only [Array.getD_eq_getD_getElem?, Array.getElem?_replicate]
  split <;> rfl

lemma blank_out : (blank n).Out P := by
  intro c
  rw [blank, getD_replicate_nil]
  exact .nil

lemma blank_into : (blank n).Into P := by
  intro c
  rw [blank, getD_replicate_nil]
  exact .nil

lemma ofRegistry_out (reg : Registry) : (ofRegistry reg).Out (Declared reg) := by
  have hgrows : Grows reg (·.Out (Declared reg)) := ⟨fun _ c h => h.addNode c, fun _ c hc l hl h => h.add fun _ => ⟨c, hc, l, hl, rfl⟩⟩
  exact (hgrows.foldl_addClass (fun _ => Registry.mem_declared_of_subclass) (blank_out _)).remove _

lemma ofRegistry_into (reg : Registry) : (ofRegistry reg).Into (Declared reg) := by
  have hgrows : Grows reg (·.Into (Declared reg)) := ⟨fun _ c h => h.addNode c, fun _ c hc l hl h => h.add fun _ => ⟨c, hc, l, hl, rfl⟩⟩
  exact (hgrows.foldl_addClass (fun _ => Registry.mem_declared_of_subclass) (blank_into _)).remove _

lemma Declared.inherits (h : Declared reg l) (htype : l.type ∈ [.isA, .subclassedBy]) :
    (l.type = .isA ∧ l.dst ∈ (reg.get l.src).bases) ∨ (l.type = .subclassedBy ∧ l.src ∈ (reg.get l.dst).bases) := by
  obtain ⟨c, -, k, hk, hl⟩ := h
  have hmember : ∀ (make : ClassId → Relation → List Link) (m : Member),
      (∀ d r, ∀ k ∈ make d r, k.type ∉ [.isA, .subclassedBy]) → ∀ k ∈ memberLinks make c m, k.type ∉ [.isA, .subclassedBy] := by
    intro make m hmake k hk
    unfold memberLinks at hk
    split at hk
    · split at hk
      · rw [mem_singleton.mp hk]
        simp [selfLink]
      · exact hmake _ _ k hk
    · split at hk
      · exact hmake _ _ k hk
      · cases hk
    · cases hk
  rw [hl] at htype ⊢
  simp only [linksOf, mem_append, mem_flatMap] at hk
  rcases hk with (⟨m, _, hk⟩ | ⟨m, _, hk⟩) | ⟨base, hbase, hk⟩
  · exact absurd htype (hmember _ m (by simp [parentLinks]) k hk)
  · exact absurd htype (hmember _ m (by simp [childLinks]) k hk)
  · simp only [inheritanceLinks, mem_cons, not_mem_nil, or_false] at hk
    rcases hk with rfl | rfl
    · exact .inr ⟨rfl, hbase⟩
    · exact .inl ⟨rfl, hbase⟩

lemma Declared.base (h : Declared reg l) (htype : l.type = .isA) : l.dst ∈ (reg.get l.src).bases := by
  rcases h.inherits (by simp [htype]) with ⟨-, hbase⟩ | ⟨hother, -⟩
  · exact hbase
  · rw [htype] at hother
    cases hother

end ClassGraph

end SurveyGraph
