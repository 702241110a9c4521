import SurveyGraph.Proofs.PathSingular
import SurveyGraph.Proofs.SearchDepth
/-!
# Searches in a graph of classes

The links of the graph of a registry join its classes, and every class below the root is in it. If all weights are known and
not negative (`Firm`), a search never leaves the graph, and fails only where there is no path or it starts again and again
(`Firm.forkingPaths`).
-/
open List

namespace SurveyGraph.ClassGraph

variable {reg : Registry} {g : ClassGraph} {a b c top : ClassId} {l : Link} {P Q : Link → Prop} {path : List ClassId}
  {E : FaultKind → Prop}

/-! ## The classes of a graph -/

lemma nodes_foldl_insert (ls : List Link) (g : ClassGraph) : (ls.foldl insert g).nodes = g.nodes := by
  induction ls generalizing g with
  | nil => rfl
  | cons l ls ih => exact ih _

@[simp] lemma reordered_nodes (g : ClassGraph) : g.reordered.nodes = g.nodes := nodes_foldl_insert _ _

@[simp] lemma reversed_nodes (g : ClassGraph) : g.reversed.nodes = g.nodes := nodes_foldl_insert _ _

lemma mem_addNode (g : ClassGraph) (c : ClassId) : c ∈ (g.addNode c).nodes := by
  unfold addNode
  split
  · rename_i h
    exact contains_iff_mem.mp h
  · simp

lemma subset_addNode (g : ClassGraph) (c : ClassId) : ∀ b ∈ g.nodes, b ∈ (g.addNode c).nodes := by
  intro b hb
  unfold addNode
  split
  · exact hb
  · exact mem_append_left _ hb

lemma add_nodes (reg : Registry) (g : ClassGraph) (l : Link) :
    (add reg g l).nodes = ((g.addNode l.src).addNode l.dst).nodes := by
  unfold add
  dsimp only
  split
  · rfl
  · rfl

lemma grows_mem (reg : Registry) (b : ClassId) : Grows reg (b ∈ ·.nodes) where
  addNode g c hb := subset_addNode g c b hb
  add g _ _ l _ hb := by
    rw [add_nodes]
    exact subset_addNode _ _ b (subset_addNode _ _ b hb)

lemma mem_foldl_addClass {cs : List ClassId} (hcs : ∀ c ∈ cs, c ∈ reg.declared) (hc : c ∈ cs) (g : ClassGraph) :
    c ∈ (cs.foldl (addClass reg) g).nodes := by
  induction cs generalizing g with
  | nil => cases hc
  | cons d cs ih =>
    have hrest : ∀ e ∈ cs, e ∈ reg.declared := fun e he => hcs e (.tail _ he)
    rw [foldl_cons]
    rcases mem_cons.mp hc with rfl | hc
    · refine (grows_mem reg c).foldl_addClass hrest ?_
      exact (grows_mem reg c).foldl_add (hcs c (.head _)) (fun _ hl => hl) (mem_addNode _ _)
    · exact ih hrest hc _

lemma mem_ofRegistry (hc : c ∈ reg.subclasses Registry.root) (hroot : c ≠ Registry.root) : c ∈ (ofRegistry reg).nodes :=
  mem_filter.mpr ⟨mem_foldl_addClass (fun _ => Registry.mem_declared_of_subclass) hc _, by simpa using hroot⟩

/-- A link joins classes that are listed. -/
def Joins (nodes : List ClassId) (l : Link) : Prop := l.src ∈ nodes ∧ l.dst ∈ nodes

lemma add_joins (h : g.Out (Joins g.nodes)) (l : Link) : (add reg g l).Out (Joins (add reg g l).nodes) := by
  rw [add_nodes]
  refine (h.mono fun k hk => ?_).add fun k => ?_
  · exact ⟨subset_addNode _ _ _ (subset_addNode _ _ _ hk.1), subset_addNode _ _ _ (subset_addNode _ _ _ hk.2)⟩
  · exact ⟨subset_addNode _ _ _ (mem_addNode _ _), mem_addNode _ _⟩

lemma ofRegistry_joins (reg : Registry) : (ofRegistry reg).Out (Joins (ofRegistry reg).nodes) := by
  have hgrows : Grows reg (fun g => g.Out (Joins g.nodes)) :=
    ⟨fun g c h => (h.addNode c).mono fun k hk => ⟨subset_addNode _ _ _ hk.1, subset_addNode _ _ _ hk.2⟩,
      fun g c _ l _ h => add_joins h l⟩
  have hall := hgrows.foldl_addClass (fun _ => Registry.mem_declared_of_subclass (b := Registry.root)) (blank_out reg.classes.size)
  intro c n hn
  obtain ⟨hmem, hne, hc⟩ := mem_removed.mp hn
  obtain ⟨hnil, hlinks⟩ := hall c n hmem
  refine ⟨hnil, fun l hl => ?_⟩
  obtain ⟨hsrc, hdst, hjoins⟩ := hlinks l hl
  refine ⟨hsrc, hdst, mem_filter.mpr ⟨hjoins.1, ?_⟩, mem_filter.mpr ⟨hjoins.2, ?_⟩⟩
  · simpa [hsrc] using hc
  · simpa [hdst] using hne

lemma Out.and (h : g.Out P) (h' : g.Out Q) : g.Out (fun l => P l ∧ Q l) := by
  intro c n hn
  refine ⟨(h c n hn).1, fun l hl => ?_⟩
  obtain ⟨hsrc, hdst, hP⟩ := (h c n hn).2 l hl
  exact ⟨hsrc, hdst, hP, ((h' c n hn).2 l hl).2.2⟩

/-! ## Searches in one graph -/

/-- The weight of a link is known and not negative. -/
def Weighed (l : Link) : Prop := ∃ w, l.weight = some w ∧ w.lt (.finite 0) = false

/-- All links join classes of the graph and have weights. -/
structure Firm (g : ClassGraph) : Prop where
  out : g.Out (fun l => Joins g.nodes l ∧ Weighed l)
  into : g.Into (fun l => Joins g.nodes l ∧ Weighed l)

lemma Into.filter (h : g.Into P) (p : Link → Bool) : (g.filter p).Into P := by
  intro c
  rw [ClassGraph.filter, getD_map _ _ _ rfl]
  exact ((h c).filter p).mono fun _ _ hl => hl.1

lemma Firm.filter (h : Firm g) (p : Link → Bool) : Firm (g.filter p) :=
  ⟨(h.out.filter p).mono fun _ hl => hl.1, h.into.filter p⟩

lemma firm_reversed (h : g.Out (fun l => Joins g.nodes l ∧ Weighed l)) : Firm g.reversed := by
  have hturned : ∀ l ∈ g.links.map Link.turned, Joins g.reversed.nodes l ∧ Weighed l := by
    intro l hl
    obtain ⟨k, hk, rfl⟩ := mem_map.mp hl
    obtain ⟨hjoins, hweighed⟩ := h.links hk
    rw [reversed_nodes]
    exact ⟨⟨hjoins.2, hjoins.1⟩, hweighed⟩
  obtain ⟨hout, hinto⟩ := foldl_insert hturned bare_out bare_into
  exact ⟨hout, hinto⟩

lemma foldlM_lighter_ok : ∀ {ls : List Link} {l : Link}, (∀ k ∈ l :: ls, Weighed k) → ∃ k, ls.foldlM lighter l = .ok k
  | [], l, _ => ⟨l, rfl⟩
  | m :: ls, l, h => by
    obtain ⟨x, hx, _⟩ := h l (by simp)
    obtain ⟨y, hy, _⟩ := h m (by simp)
    have hlighter : lighter l m = .ok (if y.lt x then m else l) := by
      unfold lighter
      rw [hx, hy]
    rw [foldlM_cons, hlighter]
    refine foldlM_lighter_ok fun k hk => ?_
    rcases mem_cons.mp hk with rfl | hk
    · split
      · exact h m (by simp)
      · exact h l (by simp)
    · exact h k (by simp [hk])

lemma Firm.stays (h : Firm g) : Shortest.Stays (· ∈ g.nodes) g.weightedSuccessors := by
  intro c _
  refine Finds.filterMapM_some fun n hn => ?_
  obtain ⟨d, ls⟩ := n
  obtain ⟨hne, hlinks⟩ := h.out c _ hn
  cases ls with
  | nil => exact absurd rfl hne
  | cons l ls =>
    obtain ⟨k, hk⟩ := foldlM_lighter_ok fun m hm => (hlinks m hm).2.2.2
    obtain ⟨_, hdst, hjoins, w, hw, hsign⟩ := hlinks k (foldlM_lighter hk)
    refine ⟨(d, w), ?_, hdst ▸ hjoins.2, hsign⟩
    dsimp only
    have hmap : k.weight.map (d, ·) = some (d, w) := by rw [hw]; rfl
    rw [hk]
    simp only [bind, Except.bind, pure, Except.pure, hmap]

lemma contains_of_mem (h : c ∈ g.nodes) : g.contains c = true := contains_iff_mem.mpr h

lemma Firm.shortestPath? (h : Firm g) (E : FaultKind → Prop) (ha : a ∈ g.nodes) (hb : b ∈ g.nodes) :
    Finds E (fun o => ∀ p, o = some p → ∀ c ∈ p, c ∈ g.nodes) (g.shortestPath? a b) := by
  unfold ClassGraph.shortestPath?
  rw [contains_of_mem ha]
  obtain ⟨before, hbefore, hmem⟩ := Shortest.predecessors_finds h.stays g.out.size g.links.length ha
  rw [hbefore]
  exact fun p hp => (Shortest.firstPath_endsIn hmem hb hp).mem

lemma linkBetween_finds (h : g.Out (fun l => Joins g.nodes l ∧ Weighed l)) (hE : E .noPath) (weighted : Bool)
    (ha : a ∈ g.nodes) (hb : b ∈ g.nodes) : Finds E (fun _ => True) (g.linkBetween reg weighted a b) := by
  unfold ClassGraph.linkBetween
  rw [contains_of_mem ha, contains_of_mem hb]
  cases hbetween : g.between a b with
  | nil => exact hE
  | cons l ls =>
    cases weighted with
    | true =>
      have hweighed : ∀ m ∈ l :: ls, Weighed m := fun m hm => (h.between (hbetween ▸ hm)).2.2.1.2
      obtain ⟨k, hk⟩ := foldlM_lighter_ok hweighed
      change Finds _ _ (ls.foldlM lighter l)
      rw [hk]
      trivial
    | false => trivial

lemma Firm.linksAlong (h : Firm g) (hE : E .noPath) (hpath : ∀ c ∈ path, c ∈ g.nodes) :
    Finds E (fun _ => True) (g.linksAlong reg path) := by
  refine (Finds.mapM (Q := fun _ => True) fun e he => ?_).mono (fun _ h => h) fun _ _ => trivial
  obtain ⟨hfirst, hsecond⟩ := of_mem_zip he
  exact linkBetween_finds h.out hE true (hpath _ hfirst) (hpath _ (mem_of_mem_tail hsecond))

lemma Firm.fewestLinks (h : Firm g) (hE : E .noPath) (ha : a ∈ g.nodes) (hb : b ∈ g.nodes) :
    Finds E (fun p => ∀ c ∈ p, c ∈ g.nodes) (g.fewestLinks a b) := by
  have hsucc : ∀ v, v ∈ g.nodes → ∀ w ∈ g.successors v, w ∈ g.nodes := by
    intro v _ w hw
    obtain ⟨n, hn, rfl⟩ := mem_map.mp hw
    obtain ⟨hne, hlinks⟩ := h.out v n hn
    obtain ⟨l, hl⟩ := exists_mem_of_ne_nil _ hne
    obtain ⟨_, hdst, hjoins, _⟩ := hlinks l hl
    exact hdst ▸ hjoins.2
  have hpred : ∀ v, v ∈ g.nodes → ∀ w ∈ g.predecessors v, w ∈ g.nodes := by
    intro v _ w hw
    obtain ⟨l, hsrc, _, hjoins, _⟩ := h.into.predecessors hw
    exact hsrc ▸ hjoins.1
  unfold ClassGraph.fewestLinks
  rw [contains_of_mem ha, contains_of_mem hb]
  cases hp : Shortest.unweightedPath g.successors g.predecessors g.out.size a b with
  | some p => exact (Shortest.unweightedPath_endsIn hsucc hpred ha hb hp).mem
  | none => exact hE

/-! ## Searches that start again -/

/-- All paths stay in a graph. -/
def PathsIn (g : ClassGraph) (paths : List (List ClassId)) : Prop := ∀ p ∈ paths, ∀ c ∈ p, c ∈ g.nodes

lemma splitAtFork_mem (top : ClassId) {links : List Link} (hlinks : ∀ l ∈ links, Joins g.nodes l) {done : List ClassId}
    (hdone : ∀ c ∈ done, c ∈ g.nodes) : (∀ c ∈ (splitAtFork top links done).1, c ∈ g.nodes) ∧
      ∀ fork, (splitAtFork top links done).2 = some fork → fork ∈ g.nodes := by
  induction links generalizing done with
  | nil => exact ⟨hdone, fun fork h => by cases h⟩
  | cons l links ih =>
    have hl := hlinks l (by simp)
    unfold splitAtFork
    split
    · exact ⟨hdone, fun fork h => Option.some.inj h ▸ hl.1⟩
    · refine ih (fun k hk => hlinks k (by simp [hk])) fun c hc => ?_
      rcases mem_append.mp hc with hc | hc
      · exact hdone c hc
      · exact mem_singleton.mp hc ▸ hl.2

lemma Firm.trace_joins (h : Firm g) {found : List ClassId} {links : List Link} (hlinks : g.linksAlong reg found = .ok links) :
    ∀ l ∈ links, Joins g.nodes l := by
  intro l hl
  cases found with
  | nil =>
    cases hlinks
    cases hl
  | cons c rest => exact ((h.out.linksAlong hlinks).mem hl).1.1

lemma Firm.forkingPaths_succ (h : Firm g) (hE : E .noPath) {n : Nat} (hc : c ∈ g.nodes) (htop : top ∈ g.nodes)
    (hbranch : ∀ path fork, Forks reg top g c path fork → (∀ e ∈ path, e ∈ g.nodes) → fork ∈ g.nodes →
      Finds E (PathsIn g) (branch reg top (forkingPaths reg top n) g path fork)) :
    Finds E (PathsIn g) (forkingPaths reg top (n + 1) g c) := by
  refine (h.shortestPath? E hc htop).bind fun found hfound hmem => ?_
  cases found with
  | none => exact fun p hp => by cases hp
  | some found =>
    refine (h.linksAlong hE (hmem found rfl)).bind fun links hlinks _ => ?_
    have hstart : ∀ e ∈ [c], e ∈ g.nodes := fun e he => mem_singleton.mp he ▸ hc
    obtain ⟨hpath, hfork⟩ := splitAtFork_mem top (h.trace_joins hlinks) hstart
    rcases hsplit : splitAtFork top links [c] with ⟨path, _ | fork⟩
    · rw [hsplit] at hpath
      intro p hp
      exact mem_singleton.mp hp ▸ hpath
    · rw [hsplit] at hpath hfork
      exact hbranch path fork ⟨found, links, hfound, hlinks, hsplit⟩ hpath (hfork fork rfl)

lemma Firm.branch (h : Firm g) (hE : E .noPath) {n : Nat} {fork : ClassId} (hpath : ∀ e ∈ path, e ∈ g.nodes)
    (hfork : fork ∈ g.nodes) (htop : top ∈ g.nodes) (hnodes : ∀ d ∈ below reg fork, d ∈ g.nodes)
    (hdirect : Finds E (PathsIn g) (ClassGraph.forkingPaths reg top n (g.filter (·.type != .isA)) fork))
    (hbelow : ∀ d ∈ below reg fork, Finds E (PathsIn g) (ClassGraph.forkingPaths reg top n g d)) :
    Finds E (PathsIn g) (branch reg top (ClassGraph.forkingPaths reg top n) g path fork) := by
  refine hdirect.bind fun direct _ hdirect => ?_
  split
  · intro p hp e he
    obtain ⟨q, hq, rfl⟩ := mem_map.mp hp
    rcases mem_append.mp he with he | he
    · exact hpath e (mem_of_mem_dropLast he)
    · exact hdirect q hq e he
  · split
    · refine ((h.filter _).fewestLinks hE hfork htop).bind fun down _ hdown => ?_
      intro p hp e he
      obtain rfl := mem_singleton.mp hp
      rcases mem_append.mp he with he | he
      · exact hpath e he
      · exact hdown e (mem_of_mem_tail he)
    · refine (Finds.mapM (Q := PathsIn g) fun d hd => ?_).bind fun parts _ hparts => ?_
      · refine ((h.filter _).fewestLinks hE hfork (hnodes d hd)).bind fun down _ hdown => ?_
        refine (hbelow d hd).bind fun rest _ hrest => ?_
        intro p hp e he
        obtain ⟨q, hq, rfl⟩ := mem_map.mp hp
        rcases mem_append.mp he with he | he
        · rcases mem_append.mp he with he | he
          · exact hpath e he
          · exact hdown e (mem_of_mem_tail (mem_of_mem_dropLast he))
        · exact hrest q hq e he
      · intro p hp
        obtain ⟨part, hpart, hp⟩ := mem_flatten.mp (mem_eraseDups.mp hp)
        exact hparts part hpart p hp

/-- A search finds paths, or there is none, or it has not come to an end. -/
lemma Firm.forkingPaths (htop : top ∈ g.nodes) (hdeclared : ∀ d ∈ reg.declared, d ∈ g.nodes) : ∀ (n : Nat) {f : ClassGraph}
    {c : ClassId}, Firm f → f.nodes = g.nodes → c ∈ g.nodes →
      Finds (fun k => k = .noPath ∨ k = .tooDeep) (PathsIn f) (forkingPaths reg top n f c)
  | 0, _, _, _, _, _ => .inr rfl
  | n + 1, f, c, hf, hsame, hc => by
    have hnodes : ∀ fork, ∀ d ∈ below reg fork, d ∈ g.nodes :=
      fun fork d hd => hdeclared d (Registry.mem_declared_of_subclass (mem_of_mem_filter hd))
    rw [← hsame] at htop hc hnodes
    refine hf.forkingPaths_succ (.inl rfl) hc htop fun path fork _ hpath hfork => ?_
    exact hf.branch (.inl rfl) hpath hfork htop (hnodes fork)
      (Firm.forkingPaths (hsame ▸ htop) hdeclared n (hf.filter _) hsame (hsame ▸ hfork))
      fun d hd => Firm.forkingPaths (hsame ▸ htop) hdeclared n hf hsame (hsame ▸ hnodes fork d hd)

end SurveyGraph.ClassGraph
