import Mathlib.Data.Fintype.Order
import Mathlib.Data.Set.Finite.List
import SurveyGraph.Proofs.GraphSearches
import SurveyGraph.Proofs.RouteSteps
import SurveyGraph.Proofs.Schemas
/-!
# Searches that come to an end

A search for routes starts again from classes below the one where its path forks, and keeps no record. If no class is reached
from one that it extends, the search never comes back (`NoReturn.acc`). If besides it is known how many relatives there may
be, it finds routes or there is no path (`routes_halt`). A class with the class it extends as a parent makes a search without
end (`exists_search_endless`).
-/
open Relation List

namespace SurveyGraph
open ClassGraph

/-! ## Actions that end -/

lemma Shortest.relax_halts (v : Nat) (s : State) (u : Nat) (d : Quantity) : Halts (relax v s u d) := by
  unfold relax
  cases s.settled.getD u none with
  | some du =>
    dsimp only
    split
    · exact nofun
    · split <;> trivial
  | none =>
    cases s.seen.getD u none with
    | none => trivial
    | some old =>
      dsimp only
      split
      · trivial
      · split <;> trivial

lemma Shortest.visit_halts {succ : Nat → Except Fault (List (Nat × Quantity))} (hsucc : ∀ v, Halts (succ v)) :
    ∀ (fuel : Nat) (s : State), Halts (visit succ fuel s)
  | 0, _ => trivial
  | fuel + 1, s => by
    unfold visit
    split
    · trivial
    · rename_i d v rest _
      dsimp only
      split
      · exact visit_halts hsucc fuel _
      · refine (hsucc v).bind fun next _ _ => ?_
        refine (Finds.foldlM (fun s x _ => relax_halts v s x.1 (d.add x.2)) _).bind fun s _ _ => visit_halts hsucc fuel s

namespace ClassGraph

variable {reg : Registry} {g : ClassGraph} {a b c top d fork : ClassId} {path : List ClassId}

lemma foldlM_lighter_halts (ls : List Link) (l : Link) : Halts (ls.foldlM lighter l) := by
  refine Finds.foldlM (fun a b _ => ?_) l
  unfold lighter
  split
  · trivial
  · exact nofun

lemma shortestPath?_halts (g : ClassGraph) (a b : ClassId) : Halts (g.shortestPath? a b) := by
  have hsucc : ∀ v, Halts (g.weightedSuccessors v) := by
    intro v
    refine Finds.filterMapM (fun n => ?_) _
    obtain ⟨d, ls⟩ := n
    cases ls with
    | nil => trivial
    | cons l ls => exact (foldlM_lighter_halts ls l).bind fun _ _ _ => trivial
  unfold shortestPath?
  split
  · exact nofun
  · refine Finds.bind (Q := fun _ => True) ?_ fun _ _ _ => trivial
    exact (Shortest.visit_halts hsucc _ _).bind fun _ _ _ => trivial

lemma linkBetween_halts (g : ClassGraph) (weighted : Bool) (a b : ClassId) : Halts (g.linkBetween reg weighted a b) := by
  unfold linkBetween
  cases !g.contains a || !g.contains b with
  | true => exact nofun
  | false =>
    cases g.between a b with
    | nil => exact nofun
    | cons l ls =>
      cases weighted with
      | true => exact foldlM_lighter_halts _ _
      | false => trivial

lemma linksAlong_halts (g : ClassGraph) (path : List ClassId) : Halts (g.linksAlong reg path) :=
  (Finds.mapM fun e _ => g.linkBetween_halts true e.1 e.2).mono (fun _ h => h) fun _ _ => trivial

lemma fewestLinks_halts (g : ClassGraph) (a b : ClassId) : Halts (g.fewestLinks a b) := by
  unfold fewestLinks
  cases !g.contains a || !g.contains b with
  | true => exact nofun
  | false =>
    cases Shortest.unweightedPath g.successors g.predecessors g.out.size a b with
    | some p => trivial
    | none => exact nofun

/-! ## Searches that end -/

/-- One level of a search ends, if what its path forks into does. -/
lemma forkingPaths_succ_halts {n : Nat}
    (hbranch : ∀ path fork, Forks reg top g c path fork → Halts (branch reg top (forkingPaths reg top n) g path fork)) :
    Halts (forkingPaths reg top (n + 1) g c) := by
  refine (shortestPath?_halts g c top).bind fun found hfound _ => ?_
  cases found with
  | none => trivial
  | some found =>
    refine (linksAlong_halts g found).bind fun links hlinks _ => ?_
    rcases hsplit : splitAtFork top links [c] with ⟨path, _ | fork⟩
    · trivial
    · exact hbranch path fork ⟨found, links, hfound, hlinks, hsplit⟩

lemma direct_halts (ho : g.Out (fun _ => True)) (n : Nat) :
    Halts (forkingPaths reg top (n + 1) (g.filter (·.type != .isA)) c) := by
  refine forkingPaths_succ_halts fun path fork hforks => ?_
  obtain ⟨_, l, ⟨_, hl⟩, hisA, _⟩ := hforks.linked (ho.filter (·.type != .isA))
  simp [hisA] at hl

lemma branch_halts {deeper : Deeper} (hdirect : Halts (deeper (g.filter (·.type != .isA)) fork))
    (hbelow : ∀ d ∈ below reg fork, Halts (deeper g d)) : Halts (branch reg top deeper g path fork) := by
  refine hdirect.bind fun direct _ _ => ?_
  split
  · trivial
  · split
    · exact (fewestLinks_halts _ fork top).bind fun _ _ _ => trivial
    · refine (Finds.mapM (Q := fun _ => True) fun d hd => ?_).bind fun _ _ _ => trivial
      exact (fewestLinks_halts _ fork d).bind fun _ _ _ => (hbelow d hd).bind fun _ _ _ => trivial

/-- A search from one class starts again from another one. -/
def Starts (reg : Registry) (top : ClassId) (g : ClassGraph) (c d : ClassId) : Prop :=
  ∃ path fork, Forks reg top g c path fork ∧ d ∈ below reg fork

lemma Forks.unique {path' : List ClassId} {fork' : ClassId} (h : Forks reg top g c path fork)
    (h' : Forks reg top g c path' fork') : path' = path ∧ fork' = fork := by
  obtain ⟨found, links, hfound, hlinks, hsplit⟩ := h
  obtain ⟨found', links', hfound', hlinks', hsplit'⟩ := h'
  rw [hfound] at hfound'
  cases hfound'
  rw [hlinks] at hlinks'
  cases hlinks'
  rw [hsplit] at hsplit'
  cases hsplit'
  exact ⟨rfl, rfl⟩

lemma halts_mono {n m : Nat} (h : Halts (forkingPaths reg top n g c)) (hnm : n ≤ m) : Halts (forkingPaths reg top m g c) := by
  rw [forkingPaths_of_ends h.ne_endless hnm]
  exact h

lemma exists_halts (ho : g.Out (fun _ => True)) (hacc : Acc (fun d c => Starts reg top g c d) c) :
    ∃ n, Halts (forkingPaths reg top n g c) := by
  induction hacc with
  | intro c _ ih =>
    by_cases hforks : ∃ path fork, Forks reg top g c path fork
    · obtain ⟨path, fork, hforks⟩ := hforks
      -- as many levels as the deepest search below the fork needs
      have hlevels : ∀ ds : List ClassId, (∀ d ∈ ds, d ∈ below reg fork) → ∃ n, ∀ d ∈ ds, Halts (forkingPaths reg top n g d) := by
        intro ds
        induction ds with
        | nil => exact fun _ => ⟨0, fun d hd => by cases hd⟩
        | cons d ds ihds =>
          intro hds
          obtain ⟨n, hn⟩ := ih d ⟨path, fork, hforks, hds d (by simp)⟩
          obtain ⟨m, hm⟩ := ihds fun e he => hds e (by simp [he])
          refine ⟨max n m, fun e he => ?_⟩
          rcases mem_cons.mp he with rfl | he
          · exact halts_mono hn (Nat.le_max_left n m)
          · exact halts_mono (hm e he) (Nat.le_max_right n m)
      obtain ⟨n, hn⟩ := hlevels (below reg fork) fun _ hd => hd
      refine ⟨n + 2, forkingPaths_succ_halts fun path' fork' hforks' => ?_⟩
      obtain ⟨rfl, rfl⟩ := hforks.unique hforks'
      exact branch_halts (direct_halts ho n) fun d hd => halts_mono (hn d hd) (Nat.le_succ n)
    · exact ⟨1, forkingPaths_succ_halts fun path fork hf => absurd ⟨path, fork, hf⟩ hforks⟩

lemma halts_of_size (ho : g.Out (fun _ => True)) (hroot : 0 < reg.classes.size)
    (hsome : ∃ n, Halts (forkingPaths reg top n g c)) : Halts (forkingPaths reg top (reg.classes.size + 1) g c) := by
  obtain ⟨n, hn⟩ := hsome
  have hends : forkingPaths reg top (reg.classes.size + 1) g c ≠ endless :=
    fun hdeep => hn.ne_endless (endless_of_deep ho hroot hdeep n)
  rcases Nat.le_total n (reg.classes.size + 1) with hle | hle
  · exact halts_mono hn hle
  · rw [← forkingPaths_of_ends hends hle]
    exact hn

/-! ## No way back -/

/-- One class comes before another: by a relation of the given type, or as one that extends it. -/
def Precedes (reg : Registry) (type : LinkType) (x y : ClassId) : Prop :=
  (∃ l ∈ (ofRegistry reg).linksFrom x, l.type = type ∧ l.dst = y) ∨ y ∈ (reg.get x).bases

/-- No class comes after one that it extends, among children and their bases or among parents. -/
def NoReturn (reg : Registry) : Prop :=
  ∀ type ∈ [LinkType.parentOf, .childOf], ∀ s, ∀ b ∈ (reg.get s).bases, ¬ReflTransGen (Precedes reg type) b s

variable {type : LinkType}

lemma Extends.precedes (h : reg.Extends a b) : ReflTransGen (Precedes reg type) a b :=
  ReflTransGen.mono (fun _ _ hb => .inr hb) _ _ h

/-- A search starts again from a class below one that comes before its start. -/
lemma Starts.precedes (ho : g.Out (fun l => Precedes reg type l.dst l.src)) (h : Starts reg top g c d) :
    ∃ s fork, reg.Extends d s ∧ fork ∈ (reg.get s).bases ∧ ReflTransGen (Precedes reg type) fork c := by
  obtain ⟨path, fork, hforks, hd⟩ := h
  obtain ⟨hreach, _⟩ := hforks.linked ho
  obtain ⟨_, s, hbase, hextends⟩ := Registry.mem_subclassesWithin (mem_of_mem_filter hd)
  refine ⟨s, fork, hextends, hbase, Relation.reflTransGen_swap.mp (ReflTransGen.mono (fun x y hxy => ?_) _ _ hreach)⟩
  obtain ⟨l, hl, rfl, rfl⟩ := hxy
  exact hl

lemma precedes_of_starts (ho : g.Out (fun l => Precedes reg type l.dst l.src))
    (h : ReflTransGen (Starts reg top g) c d) : ReflTransGen (Precedes reg type) d c := by
  induction h with
  | refl => exact .refl
  | tail _ hstep ih =>
    obtain ⟨s, fork, hextends, hbase, hfork⟩ := hstep.precedes ho
    exact ((Extends.precedes hextends).tail (.inr hbase)).trans (hfork.trans ih)

/-- Without a way back, a search never starts again where it has been. -/
lemma NoReturn.acc (h : NoReturn reg) (htype : type ∈ [LinkType.parentOf, .childOf])
    (ho : g.Out (fun l => Precedes reg type l.dst l.src)) (c : ClassId) : Acc (fun d c => Starts reg top g c d) c := by
  have hirrefl : ∀ c, ¬TransGen (Starts reg top g) c c := by
    intro c hcycle
    obtain ⟨d, hreach, hlast⟩ := TransGen.tail'_iff.mp hcycle
    obtain ⟨s, fork, hextends, hbase, hfork⟩ := hlast.precedes ho
    exact h type htype s fork hbase ((hfork.trans (precedes_of_starts ho hreach)).trans (Extends.precedes hextends))
  have hdeclared : ∀ {c d}, Starts reg top g c d → d ∈ reg.declared :=
    fun ⟨_, _, _, hd⟩ => Registry.mem_declared_of_subclass (mem_of_mem_filter hd)
  -- the classes that are declared are finitely many, so no chain of starts among them goes on for ever
  let later : {c // c ∈ reg.declared} → {c // c ∈ reg.declared} → Prop := fun d c => TransGen (Starts reg top g) c.1 d.1
  have hirr : Std.Irrefl later := ⟨fun c hc => hirrefl c.1 hc⟩
  have hwf := Finite.wellFounded_of_trans_of_irrefl later
  have hacc : ∀ c : {c // c ∈ reg.declared}, Acc (fun d c => Starts reg top g c d) c.1 := by
    intro c
    induction c using hwf.induction with
    | _ c ih => exact ⟨_, fun d hd => ih ⟨d, hdeclared hd⟩ (.single hd)⟩
  exact ⟨_, fun d hd => hacc ⟨d, hdeclared hd⟩⟩


/-- It is enough to rank classes, with no relation to a higher rank and every class above its bases. -/
lemma NoReturn.of_rank (rank : ClassId → Nat)
    (hlinks : ∀ c < (ofRegistry reg).out.size, ∀ l ∈ (ofRegistry reg).linksFrom c, l.type ∈ [LinkType.parentOf, .childOf] →
      rank l.dst ≤ rank c)
    (hbases : ∀ c < reg.classes.size, ∀ b ∈ (reg.get c).bases, rank b < rank c) : NoReturn reg := by
  have hextends : ∀ c, ∀ b ∈ (reg.get c).bases, rank b < rank c := by
    intro c b hb
    by_cases hc : c < reg.classes.size
    · exact hbases c hc b hb
    · rw [Registry.get_of_size_le (Nat.le_of_not_lt hc)] at hb
      cases hb
  have hstep : ∀ type ∈ [LinkType.parentOf, .childOf], ∀ {x y}, Precedes reg type x y → rank y ≤ rank x := by
    rintro type htype x y (⟨l, hl, rfl, rfl⟩ | hbase)
    · by_cases hx : x < (ofRegistry reg).out.size
      · exact hlinks x hx l hl htype
      · rw [linksFrom_eq_nil (Nat.le_of_not_lt hx)] at hl
        cases hl
    · exact Nat.le_of_lt (hextends x y hbase)
  intro type htype s b hb hreach
  have hrank : ∀ {y}, ReflTransGen (Precedes reg type) b y → rank y ≤ rank b := by
    intro y hy
    induction hy with
    | refl => exact le_rfl
    | tail _ hxy ih => exact (hstep type htype hxy).trans ih
  exact absurd (hextends s b hb) (Nat.not_lt.mpr (hrank hreach))

end ClassGraph

/-! ## Routes of a layer -/

namespace Layer

open ClassGraph

variable {reg : Registry} {v : Layer} {a b : ClassId} {d : Descent} {nodes : List ClassId} {E : FaultKind → Prop}

/-- All links of a layer are links of the graph of all classes. -/
def Within (reg : Registry) (v : Layer) : Prop := v.Sound (Present reg (Atlas.ofRegistry reg).full)

lemma Within.precedes (hv : v.Within reg) (hd : Sorted v a b d) :
    d.graph.reversed.Out (fun l => Precedes reg d.relation l.dst l.src) := by
  refine (hv.graph_types hd).reversed.mono fun l hl => ?_
  obtain ⟨⟨hdeclared, hmem⟩, htype⟩ := hl
  rcases htype with htype | htype
  · exact .inl ⟨l.turned, hmem, htype, rfl⟩
  · exact .inr (hdeclared.base htype)

lemma relation_mem (d : Descent) : d.relation ∈ [LinkType.parentOf, .childOf] := by
  unfold Descent.relation
  split <;> simp

lemma sortByDepth_halts (v : Layer) (a b : ClassId) : Halts (v.sortByDepth reg a b) := by
  unfold sortByDepth
  split
  · trivial
  · split
    · exact nofun
    · iterate 4
        split
        · trivial
      exact nofun

lemma routeAlong_halts (g : ClassGraph) (upward : Bool) (path : List ClassId) : Halts (v.routeAlong reg g upward path) := by
  refine (linksAlong_halts g path).bind fun links _ _ => ?_
  split
  · trivial
  · refine (Finds.mapM (Q := fun _ => True) fun l _ => ?_).bind fun _ _ _ => trivial
    exact linkBetween_halts v.graph true l.dst l.src

lemma Within.search_halts (hv : v.Within reg) (hroot : 0 < reg.classes.size) (hreturn : NoReturn reg)
    (hd : Sorted v a b d) : Halts (d.graph.reversed.forkingPaths reg d.top (reg.classes.size + 1) d.bottom) := by
  have hprecedes := hv.precedes hd
  have hout := hprecedes.mono fun _ _ => trivial
  exact halts_of_size hout hroot (exists_halts hout (hreturn.acc (relation_mem d) hprecedes d.bottom))

lemma Within.routes_halts (hv : v.Within reg) (hroot : 0 < reg.classes.size) (hreturn : NoReturn reg) (a b : ClassId) :
    Halts (v.routes reg a b) := by
  refine (sortByDepth_halts v a b).bind fun d hd _ => ?_
  refine (hv.search_halts hroot hreturn (sortByDepth_sorted hd)).bind fun paths _ _ => ?_
  exact (Finds.mapM fun path _ => routeAlong_halts _ _ path).bind fun _ _ _ => trivial

/-- All links of a layer join its classes and have weights. -/
structure Steady (nodes : List ClassId) (v : Layer) : Prop where
  sound : v.Sound (fun l => Joins nodes l ∧ Weighed l)
  graph : v.graph.nodes = nodes
  down : v.down.nodes = nodes
  up : v.up.nodes = nodes

lemma Steady.sortByDepth (hv : v.Steady nodes) (ha : a ∈ nodes) (hb : b ∈ nodes) (hE : E .noPath) :
    Finds E (fun d => d.bottom ∈ nodes ∧ d.top ∈ nodes) (v.sortByDepth reg a b) := by
  have hfind : [a, b].find? (!v.graph.contains ·) = none := by
    refine find?_eq_none.mpr fun c hc => ?_
    have hmem : c ∈ v.graph.nodes := by
      rw [hv.graph]
      rcases mem_cons.mp hc with rfl | hc
      · exact ha
      · exact mem_singleton.mp hc ▸ hb
    simp [contains_of_mem hmem]
  unfold Layer.sortByDepth
  split
  · exact ⟨hb, ha⟩
  · rw [hfind]
    dsimp only
    split
    · exact ⟨ha, hb⟩
    · split
      · exact ⟨hb, ha⟩
      · split
        · exact ⟨hb, ha⟩
        · split
          · exact ⟨ha, hb⟩
          · exact hE

lemma Steady.graph_out (hv : v.Steady nodes) (hd : Sorted v a b d) :
    d.graph.nodes = nodes ∧ d.graph.Out (fun l => Joins d.graph.nodes l ∧ Weighed l) := by
  have hnodes : d.graph.nodes = nodes := by
    cases hd with
    | same | targetAbove | sourceAbove => exact hv.down
    | sourceBelow | targetBelow => exact hv.up
  rw [hnodes]
  exact ⟨rfl, (hv.sound.graph_out hd).mono fun l hl => hl.1⟩

lemma Steady.routeAlong (hv : v.Steady nodes) {g : ClassGraph} (hg : Firm g) (hsame : g.nodes = nodes) (hE : E .noPath)
    (upward : Bool) {path : List ClassId} (hpath : ∀ c ∈ path, c ∈ nodes) :
    Finds E (fun _ => True) (v.routeAlong reg g upward path) := by
  refine (hg.linksAlong hE (hsame ▸ hpath)).bind fun links hlinks _ => ?_
  split
  · trivial
  · refine (Finds.mapM (Q := fun _ => True) fun l hl => ?_).bind fun _ _ _ => trivial
    have hjoins := hg.trace_joins hlinks l (mem_reverse.mp hl)
    rw [hsame, ← hv.graph] at hjoins
    exact linkBetween_finds (hv.graph ▸ hv.sound.graph) hE true hjoins.2 hjoins.1

lemma Steady.routes (hv : v.Steady nodes) (hdeclared : ∀ c ∈ reg.declared, c ∈ nodes) (ha : a ∈ nodes) (hb : b ∈ nodes) :
    Finds (fun k => k = .noPath ∨ k = .tooDeep) (fun _ => True) (v.routes reg a b) := by
  refine (hv.sortByDepth ha hb (.inl rfl)).bind fun d hd hends => ?_
  obtain ⟨hsame, hout⟩ := hv.graph_out (sortByDepth_sorted hd)
  have hfirm := firm_reversed hout
  have hnodes : d.graph.reversed.nodes = nodes := (reversed_nodes _).trans hsame
  have hsearch : Finds (fun k => k = .noPath ∨ k = .tooDeep) (PathsIn d.graph.reversed)
      (d.graph.reversed.forkingPaths reg d.top (reg.classes.size + 1) d.bottom) :=
    Firm.forkingPaths (hnodes ▸ hends.2) (hnodes ▸ hdeclared) _ hfirm rfl (hnodes ▸ hends.1)
  refine hsearch.bind fun paths _ hpaths => ?_
  refine (Finds.mapM (Q := fun _ => True) fun path hpath => ?_).bind fun _ _ _ => trivial
  obtain ⟨p, hp, rfl⟩ := mem_map.mp (mem_eraseDups.mp hpath)
  refine hv.routeAlong hfirm hnodes (.inl rfl) _ fun c hc => ?_
  have hpassed : c ∈ p := by
    unfold doubled at hc
    split at hc
    · simpa using hc
    · exact hc
  exact hnodes ▸ hpaths p hp c hpassed

end Layer

/-! ## Routes of the atlas -/

/-- Of every relation it is known how many relatives there may be. -/
def Registry.Counted (reg : Registry) : Prop :=
  ∀ c, ∀ m ∈ (reg.get c).parents ++ (reg.get c).children, ∀ r, m = .rel r → ∃ n : Nat, r.max = some (n : Int)

namespace ClassGraph

variable {reg : Registry} {l : Link}

lemma weighed_of_number {n : Nat} (hnumber : l.number = some (.finite n)) : Weighed l := by
  have hcount : (Quantity.finite n).lt (.finite 0) = false := by
    simp [Quantity.lt]
  unfold Weighed Link.weight
  split
  · exact ⟨_, rfl, rfl⟩
  · exact ⟨_, rfl, rfl⟩
  · exact ⟨_, rfl, rfl⟩
  · exact ⟨_, hnumber, hcount⟩

lemma memberLinks_weighed {make : ClassId → Relation → List Link} {c : ClassId} {m : Member}
    (hmake : ∀ d r, ∀ l ∈ make d r, l.number = numberOf r)
    (hm : ∀ r, m = .rel r → ∃ n : Nat, r.max = some (n : Int)) (hl : l ∈ memberLinks make c m) : Weighed l := by
  have hmade {d : ClassId} {r : Relation} {n : Nat} (hn : r.max = some (n : Int)) (hl : l ∈ make d r) : Weighed l := by
    refine weighed_of_number (n := n) ?_
    rw [hmake d r l hl, numberOf, hn]
    rfl
  cases m with
  | name s => cases hl
  | cls d =>
    change l ∈ (if d == c then [selfLink c] else make d (.one d)) at hl
    split at hl
    · exact mem_singleton.mp hl ▸ ⟨.finite 0, rfl, rfl⟩
    · exact hmade (n := 1) rfl hl
  | rel r =>
    obtain ⟨n, hn⟩ := hm r rfl
    unfold memberLinks at hl
    dsimp only at hl
    cases htarget : r.target with
    | cls d =>
      rw [htarget] at hl
      exact hmade hn hl
    | awaiting s =>
      rw [htarget] at hl
      cases hl

lemma linksOf_weighed (hcounted : reg.Counted) (c : ClassId) : ∀ l ∈ linksOf reg c, Weighed l := by
  intro l hl
  have hparent : ∀ d r, ∀ l ∈ parentLinks c d r, l.number = numberOf r := by simp [parentLinks]
  have hchild : ∀ d r, ∀ l ∈ childLinks c d r, l.number = numberOf r := by simp [childLinks]
  rcases mem_append.mp hl with hl | hl
  · rcases mem_append.mp hl with hl | hl
    · obtain ⟨m, hm, hl⟩ := mem_flatMap.mp hl
      exact memberLinks_weighed hparent (hcounted c m (mem_append_left _ hm)) hl
    · obtain ⟨m, hm, hl⟩ := mem_flatMap.mp hl
      exact memberLinks_weighed hchild (hcounted c m (mem_append_right _ hm)) hl
  · obtain ⟨base, _, hl⟩ := mem_flatMap.mp hl
    simp only [inheritanceLinks, mem_cons, not_mem_nil, or_false] at hl
    rcases hl with rfl | rfl
    · exact ⟨.infinite, rfl, rfl⟩
    · exact ⟨.finite 0, rfl, rfl⟩

end ClassGraph

namespace Atlas

open ClassGraph Layer

variable {reg : Registry} {a b : ClassId} {E : FaultKind → Prop} (parent : String)

lemma layers_part (reg : Registry) : ∀ v ∈ (ofRegistry reg).layers, ∃ g, v = .ofGraph g ∧
    g.nodes = (ClassGraph.ofRegistry reg).nodes ∧ ∀ P : Link → Prop, (ClassGraph.ofRegistry reg).Out P → g.Out P := by
  intro v hv
  simp only [layers, mem_cons, not_mem_nil, or_false] at hv
  rcases hv with rfl | rfl | rfl | rfl
  · exact ⟨_, rfl, reordered_nodes _, fun P h => (h.singular.mono fun _ hl => hl.1).nonOptional⟩
  · exact ⟨_, rfl, rfl, fun P h => h.singular.mono fun _ hl => hl.1⟩
  · exact ⟨_, rfl, reordered_nodes _, fun P h => h.nonOptional⟩
  · exact ⟨_, rfl, rfl, fun P h => h⟩

lemma layers_within (reg : Registry) : ∀ v ∈ (ofRegistry reg).layers, v.Within reg := by
  intro v hv
  obtain ⟨g, rfl, _, hout⟩ := layers_part reg v hv
  exact ofGraph_sound (hout _ (ofRegistry_out reg).present)

lemma layers_steady (hcounted : reg.Counted) : ∀ v ∈ (ofRegistry reg).layers, v.Steady (ClassGraph.ofRegistry reg).nodes := by
  intro v hv
  obtain ⟨g, rfl, hnodes, hout⟩ := layers_part reg v hv
  have hweighed : (ClassGraph.ofRegistry reg).Out Weighed := by
    refine (ofRegistry_out reg).mono fun l hl => ?_
    obtain ⟨c, -, k, hk, hl⟩ := hl
    rw [hl]
    exact linksOf_weighed hcounted c k hk
  refine ⟨ofGraph_sound ((hout _ (ofRegistry_joins reg)).and (hout _ hweighed)), hnodes, ?_, ?_⟩
  · exact (reordered_nodes _).trans hnodes
  · exact (reordered_nodes _).trans hnodes

lemma orElse_finds {α : Type} {Q : α → Prop} {x y : Except Fault α} (hx : Finds E Q x)
    (hy : Finds E Q y) : Finds E Q (orElse x y) := by
  unfold orElse
  split
  · split
    · exact hy
    · exact hx
  · exact hx

lemma routes_finds {m : Atlas} {Q : List Route → Prop}
    (h : ∀ v ∈ m.layers, Finds E Q (v.routes m.reg a b)) (singular : Bool) : Finds E Q (m.routes a b singular) := by
  have hsingular := h m.singular (by simp [layers])
  have hrequired := h m.required (by simp [layers])
  have hfull := h m.full (by simp [layers])
  refine orElse_finds (h m.singularRequired (by simp [layers])) ?_
  split
  · exact hsingular
  · exact orElse_finds hsingular (orElse_finds hrequired hfull)

/-- Where no class is reached from one that it extends, every search for routes between declared classes ends;
if numbers of relatives are known, it finds routes or there is no path. -/
theorem routes_halt (hschema : reg.Schema) (hreturn : NoReturn reg) (ha : a ∈ reg.declared) (hb : b ∈ reg.declared)
    (singular : Bool) : (ofRegistry reg).routes a b singular ≠ endless ∧
      (reg.Counted → (∃ rs, (ofRegistry reg).routes a b singular = .ok rs) ∨
        ∃ e, (ofRegistry reg).routes a b singular = .error e ∧ e.kind = .noPath) := by
  have horderly := hschema.orderly
  have hhalts : Halts ((ofRegistry reg).routes a b singular) :=
    routes_finds (fun v hv => (layers_within reg v hv).routes_halts horderly.root hreturn a b) singular
  refine ⟨hhalts.ne_endless, fun hcounted => ?_⟩
  have hnodes : ∀ c ∈ reg.declared, c ∈ (ClassGraph.ofRegistry reg).nodes := fun c hc =>
    mem_ofRegistry (horderly.mem_subclasses_root hc) (Nat.ne_of_gt (Registry.mem_declared.mp hc).1)
  have hfinds : Finds (fun k => k = .noPath ∨ k = .tooDeep) (fun _ => True) ((ofRegistry reg).routes a b singular) :=
    routes_finds (fun v hv => (layers_steady hcounted v hv).routes hnodes (hnodes a ha) (hnodes b hb)) singular
  rcases (hfinds.and hhalts).ok_or_error with hok | ⟨e, he, hkind, hends⟩
  · exact .inl hok
  · exact .inr ⟨e, he, hkind.resolve_right hends⟩

/-- Two kinds of spectra: single ones, with nights, and sums, with the given parent. -/
def spectraWith : List Declaration :=
  [{ name := "Night", pluralName := some "nights", idname := some (.text "number") },
    { name := "Spectrum", pluralName := some "spectra", isTemplate := true },
    { name := "Single", bases := ["Spectrum"], pluralName := some "singles", idname := some (.text "number")
      parents := some [.name "Night"] },
    { name := "Sum", bases := ["Spectrum"], pluralName := some "sums", idname := some (.text "number")
      parents := some [.name parent] }]

def spectraRegistry : Registry := (after ((spectraWith parent).mapM declare) Registry.empty).2

lemma spectraRegistry_schema {parent : String}
    (h : gives (after ((spectraWith parent).mapM declare) Registry.empty).1 (fun _ => true) = true) :
    (spectraRegistry parent).Schema := .ofDeclarations rfl h

/-- Whether a member is more than the name of a class. -/
def isRelation : Member → Bool
  | .rel _ => true
  | _ => false

theorem routes_halt_sums : (ofRegistry (spectraRegistry "Single")).routes 4 1 false ≠ endless ∧
    ((∃ rs, (ofRegistry (spectraRegistry "Single")).routes 4 1 false = .ok rs) ∨
      ∃ e, (ofRegistry (spectraRegistry "Single")).routes 4 1 false = .error e ∧ e.kind = .noPath) := by
  let reg := spectraRegistry "Single"
  have hreturn : NoReturn reg := by
    refine NoReturn.of_rank (fun c => [0, 2, 1, 2, 2].getD c 0) ?_ ?_
    · decide +kernel
    · decide +kernel
  have hplain : ∀ c < 5, ((reg.get c).parents ++ (reg.get c).children).all
      (!isRelation ·) = true := by decide +kernel
  have hcounted : reg.Counted := by
    intro c m hm r hr
    by_cases hc : c < 5
    · have hall := List.all_eq_true.mp (hplain c hc) m hm
      rw [hr] at hall
      cases hall
    · have hsize : reg.classes.size = 5 := by decide +kernel
      rw [Registry.get_of_size_le (hsize ▸ Nat.le_of_not_lt hc)] at hm
      cases hm
  obtain ⟨hends, hfinds⟩ := routes_halt (spectraRegistry_schema (by decide +kernel)) hreturn (a := 4) (b := 1)
    (by decide +kernel) (by decide +kernel) false
  exact ⟨hends, hfinds hcounted⟩

/-- Sums of any spectra are spectra: the search for the nights of a sum starts again from sums. -/
theorem exists_search_endless : ∃ reg a b, reg.Schema ∧ a ∈ reg.declared ∧ b ∈ reg.declared ∧
    (ofRegistry reg).routes a b false = endless ∧ ∃ d, (ofRegistry reg).required.sortByDepth reg a b = .ok d ∧
      ∀ fuel, d.graph.reversed.forkingPaths reg d.top fuel d.bottom = endless := by
  let reg := spectraRegistry "Spectrum"
  obtain ⟨d, hd, hdeep⟩ := ok_of_gives
    (x := (ofRegistry reg).required.sortByDepth reg 4 1)
    (p := fun d => isEndless (d.graph.reversed.forkingPaths reg d.top
      (reg.classes.size + 1) d.bottom)) (by decide +kernel)
  have hroutes : isEndless ((ofRegistry reg).routes 4 1 false) = true := by decide +kernel
  have hsound := layers_sound reg (ofRegistry reg).required (by simp [layers])
  have hout := (hsound.graph_out (sortByDepth_sorted hd)).reversed.mono fun _ _ => trivial
  refine ⟨reg, 4, 1, spectraRegistry_schema (by decide +kernel), by decide +kernel, by decide +kernel,
    endless_of_isEndless hroutes, d, hd, fun fuel => ?_⟩
  exact endless_of_deep hout (by decide +kernel) (endless_of_isEndless hdeep) fuel

end Atlas

end SurveyGraph
