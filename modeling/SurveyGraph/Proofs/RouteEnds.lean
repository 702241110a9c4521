import SurveyGraph.Proofs.ClassLinks
import SurveyGraph.Proofs.SearchEnds
/-!
# The ends of routes

A route is searched from the deeper class to the other one, through links turned round, and classes that it only passes on
the way to a class below them are dropped. It begins and ends with the two classes, or with one that extends the deeper
(`routeAlong_ends`). So between classes of which none extends the other it can be put in the order asked for, unless the
target has classes below it and the source is found upward (`Sound.routes_leadsTo`).
-/
open Relation List

namespace SurveyGraph

/-! ## Paths with the links that they take -/

namespace ClassGraph

variable {g : ClassGraph} {reg : Registry} {P : Link → Prop} {a b c top bottom : ClassId} {l : Link} {path : List ClassId}
  {links : List Link} {weighted : Bool}

/-- The links of a path, and something that holds of each. -/
inductive Trace (P : Link → Prop) : List ClassId → List Link → Prop
  | stop (c : ClassId) : Trace P [c] []
  | step {c d : ClassId} {l : Link} {path : List ClassId} {ls : List Link} (src : l.src = c) (dst : l.dst = d)
      (holds : P l) : Trace P (d :: path) ls → Trace P (c :: d :: path) (l :: ls)

lemma foldlM_lighter : ∀ {ls : List Link} {l k : Link}, ls.foldlM lighter l = .ok k → k ∈ l :: ls
  | [], l, k, h => by
    cases h
    exact mem_singleton_self _
  | m :: ls, l, k, h => by
    obtain ⟨n, hn, h⟩ := bind_ok h
    have hkeep : n = l ∨ n = m := by
      unfold lighter at hn
      split at hn
      · cases hn
        split
        · exact .inr rfl
        · exact .inl rfl
      · cases hn
    have hk := foldlM_lighter h
    rcases hkeep with rfl | rfl
    · exact (mem_cons.mp hk).elim (fun h => by simp [h]) fun h => by simp [h]
    · exact .tail _ hk

lemma linkBetween_ok (h : g.linkBetween reg weighted a b = .ok l) : l ∈ g.between a b := by
  unfold linkBetween at h
  obtain ⟨_, h⟩ := unless_ok h
  split at h
  · cases h
  · rename_i heq
    rw [heq]
    split at h
    · exact foldlM_lighter h
    · cases h
      exact .head _

lemma Out.linkBetween (ho : g.Out P) (h : g.linkBetween reg weighted a b = .ok l) : l.src = a ∧ l.dst = b ∧ P l := by
  obtain ⟨hsrc, hdst, hP, _⟩ := ho.between (linkBetween_ok h)
  exact ⟨hsrc, hdst, hP⟩

lemma Out.linksAlong (ho : g.Out P) : ∀ {path : List ClassId} {c : ClassId} {links : List Link},
    g.linksAlong reg (c :: path) = .ok links → Trace P (c :: path) links
  | [], c, links, h => by
    cases h
    exact .stop c
  | d :: path, c, links, h => by
    rw [ClassGraph.linksAlong, tail_cons, zip_cons_cons, mapM_cons] at h
    obtain ⟨l, hl, h⟩ := bind_ok h
    obtain ⟨ls, hls, h⟩ := bind_ok h
    cases h
    obtain ⟨hsrc, hdst, hP⟩ := ho.linkBetween hl
    exact .step hsrc hdst hP (ho.linksAlong hls)

/-- A path up to a fork begins as the whole path, and ends at the fork or, without one, as the whole
path. -/
lemma splitAtFork_ends (top : ClassId) (ht : Trace P path links) : ∀ {done : List ClassId} {c : ClassId}, path.head? = some c →
    Ends done bottom c → (∀ p, splitAtFork top links done = (p, none) → ∀ e, path.getLast? = some e → Ends p bottom e) ∧
      ∀ p fork, splitAtFork top links done = (p, some fork) → Ends p bottom fork := by
  induction ht with
  | stop c =>
    intro done e he hdone
    obtain rfl : c = e := Option.some.inj he
    refine ⟨fun p hp e he => ?_, fun p fork hp => by cases hp⟩
    cases hp
    obtain rfl : c = e := Option.some.inj he
    exact hdone
  | @step c d l path ls hsrc hdst _ _ ih =>
    intro done e he hdone
    obtain rfl : c = e := Option.some.inj he
    unfold splitAtFork
    split
    · refine ⟨fun p hp => (by cases hp), fun p fork hp => ?_⟩
      cases hp
      exact hsrc ▸ hdone
    · rw [getLast?_cons_cons]
      exact ih rfl (hdst ▸ hdone.append (.single l.dst))

lemma shortestPath?_ends (h : g.shortestPath? bottom top = .ok (some path)) : Ends path bottom top := by
  unfold shortestPath? at h
  obtain ⟨_, h⟩ := unless_ok h
  obtain ⟨before, _, h⟩ := bind_ok h
  exact (Shortest.firstPath_endsIn (S := fun _ => True) (fun _ _ _ _ _ => trivial) trivial (Except.ok.inj h)).toEnds

lemma fewestLinks_ends (h : g.fewestLinks a b = .ok path) : Ends path a b := by
  unfold fewestLinks at h
  obtain ⟨_, h⟩ := unless_ok h
  split at h
  · rename_i heq
    cases h
    exact (Shortest.unweightedPath_endsIn (S := fun _ => True) (fun _ _ _ _ => trivial) (fun _ _ _ _ => trivial)
      trivial trivial heq).toEnds
  · cases h

lemma forkingPaths_ends : ∀ {fuel : Nat} {g : ClassGraph} {bottom : ClassId} {paths : List (List ClassId)},
    g.Out (fun _ => True) → forkingPaths reg top fuel g bottom = .ok paths → ∀ p ∈ paths, Ends p bottom top
  | 0, _, _, _, _, h => by cases h
  | fuel + 1, g, bottom, paths, ho, h => by
    obtain ⟨found, hfound, h⟩ := bind_ok h
    split at h
    · cases h
      intro p hp
      cases hp
    · rename_i found
      have hends := shortestPath?_ends hfound
      obtain ⟨links, hlinks, h⟩ := bind_ok h
      have htrace : Trace (fun _ => True) found links := by
        cases found with
        | nil => cases hends.head
        | cons c rest => exact ho.linksAlong hlinks
      obtain ⟨hwhole, hfork⟩ := splitAtFork_ends top htrace hends.head (.single bottom)
      split at h
      · rename_i path heq
        cases h
        intro p hp
        obtain rfl := mem_singleton.mp hp
        exact hwhole _ heq top hends.last
      · rename_i path fork heq
        have hpath := hfork _ _ heq
        obtain ⟨direct, hdirect, h⟩ := bind_ok h
        have hdirect := forkingPaths_ends ((ho.filter _).mono fun _ _ => trivial) hdirect
        split at h
        · cases h
          intro p hp
          obtain ⟨q, hq, rfl⟩ := mem_map.mp hp
          exact hpath.dropLast_append (hdirect q hq)
        · dsimp only at h
          split at h
          · obtain ⟨down, hdown, h⟩ := bind_ok h
            cases h
            intro p hp
            obtain rfl := mem_singleton.mp hp
            exact hpath.append_tail (fewestLinks_ends hdown)
          · obtain ⟨parts, hparts, h⟩ := bind_ok h
            cases h
            intro p hp
            obtain ⟨part, hpart, hp⟩ := mem_flatten.mp (mem_eraseDups.mp hp)
            obtain ⟨c, _, hc⟩ := mem_of_mapM_ok hparts hpart
            obtain ⟨down, _, hc⟩ := bind_ok hc
            obtain ⟨rest, hrest, hc⟩ := bind_ok hc
            cases hc
            obtain ⟨q, hq, rfl⟩ := mem_map.mp hp
            have hq := forkingPaths_ends ho hrest q hq
            rw [append_assoc]
            exact hpath.append_of_last (by rw [getLast?_append, hq.last]; rfl)

lemma forkingPaths_self {fuel : Nat} {paths : List (List ClassId)} (h : forkingPaths reg c fuel g c = .ok paths) :
    ∀ p ∈ paths, p = [c] := by
  cases fuel with
  | zero => cases h
  | succ fuel =>
    obtain ⟨found, hfound, h⟩ := bind_ok h
    unfold shortestPath? at hfound
    obtain ⟨_, hfound⟩ := unless_ok hfound
    obtain ⟨before, _, hfound⟩ := bind_ok hfound
    have hself : found = some [c] := by
      rw [← Except.ok.inj hfound, Shortest.firstPath, if_pos (beq_self_eq_true c)]
    subst hself
    cases h
    exact fun p hp => mem_singleton.mp hp

/-! ## Classes of a route -/

/-- Among links turned round inheritance leads to a class from one it extends. -/
def Falls (reg : Registry) (l : Link) : Prop := (l.type = .isA → l.src ∈ (reg.get l.dst).bases) ∧ l.type ≠ .subclassedBy

end ClassGraph

open ClassGraph

variable {reg : Registry} {path : List ClassId} {links : List Link} {a b top bottom : ClassId}

/-- The classes left of a path: the last is that of the path, and the first is its first or extends it. There
are two, unless the path leads from a class to one that extends it. -/
lemma Layer.reduced_ends (ht : Trace (Falls reg) path links) (hends : Ends path bottom top) :
    ∃ first, Ends (Layer.reduced path links) first top ∧ reg.Extends first bottom ∧
      (2 ≤ (Layer.reduced path links).length ∨ reg.Extends top bottom) := by
  induction ht generalizing bottom with
  | stop c =>
    obtain rfl : c = bottom := Option.some.inj hends.head
    obtain rfl : c = top := Option.some.inj hends.last
    exact ⟨c, .single c, .refl, .inr .refl⟩
  | @step c d l path ls hsrc hdst hfalls _ ih =>
    obtain rfl : c = bottom := Option.some.inj hends.head
    have hlast : (d :: path).getLast? = some top := by
      exact hends.last
    obtain ⟨first, hfirst, hextends, hlength⟩ := ih ⟨rfl, hlast⟩
    by_cases htype : l.type = .isA
    · -- the class is passed: what is left is that of the rest
      have hreduced : Layer.reduced (c :: d :: path) (l :: ls) = Layer.reduced (d :: path) ls := by
        simp [Layer.reduced, htype, getLast?_cons_cons]
      have hbase : c ∈ (reg.get d).bases := hsrc ▸ hdst ▸ hfalls.1 htype
      rw [hreduced]
      exact ⟨first, hfirst, hextends.tail hbase, hlength.imp_right (·.tail hbase)⟩
    · have hreduced : Layer.reduced (c :: d :: path) (l :: ls) = c :: Layer.reduced (d :: path) ls := by
        simp [Layer.reduced, htype, hfalls.2, getLast?_cons_cons, hsrc]
      rw [hreduced]
      refine ⟨c, (Ends.single c).append hfirst, .refl, .inl ?_⟩
      have hne : Layer.reduced (d :: path) ls ≠ [] := by
        intro hnil
        rw [hnil] at hfirst
        cases hfirst.head
      exact Nat.succ_le_succ (length_pos_iff.mpr hne)

/-! ## Routes of a layer -/

namespace Layer

variable {v : Layer} {g : ClassGraph} {P : Link → Prop} {d : Descent} {r : Route} {rs : List Route} {upward : Bool}

/-- All links of a layer stand at their classes, its views hold links of their types, and something holds of
all. -/
structure Sound (v : Layer) (P : Link → Prop) : Prop where
  graph : v.graph.Out P
  down : v.down.Out (fun l => P l ∧ l.type ∈ [.parentOf, .isA])
  up : v.up.Out (fun l => P l ∧ l.type ∈ [.childOf, .isA])
  intoDown : v.down.Into (fun l => P l ∧ l.type ∈ [.parentOf, .isA])
  intoUp : v.up.Into (fun l => P l ∧ l.type ∈ [.childOf, .isA])

lemma ofGraph_sound (h : g.Out P) : (ofGraph g).Sound P where
  graph := h
  down := (h.ofTypes _).1
  up := (h.ofTypes _).1
  intoDown := (h.ofTypes _).2
  intoUp := (h.ofTypes _).2

lemma Sound.mono {Q : Link → Prop} (h : v.Sound P) (hPQ : ∀ l, P l → Q l) : v.Sound Q where
  graph := h.graph.mono hPQ
  down := h.down.mono fun l hl => ⟨hPQ l hl.1, hl.2⟩
  up := h.up.mono fun l hl => ⟨hPQ l hl.1, hl.2⟩
  intoDown := h.intoDown.mono fun l hl => ⟨hPQ l hl.1, hl.2⟩
  intoUp := h.intoUp.mono fun l hl => ⟨hPQ l hl.1, hl.2⟩

/-- What the order by depth has found out about two classes. -/
inductive Sorted (v : Layer) (a b : ClassId) : Descent → Prop
  | same : a = b → Sorted v a b ⟨a, b, v.down, false⟩
  | targetAbove : a ≠ b → b ∈ v.down.ancestors a → Sorted v a b ⟨b, a, v.down, false⟩
  | sourceAbove : a ≠ b → a ∈ v.down.ancestors b → Sorted v a b ⟨a, b, v.down, false⟩
  | sourceBelow : a ≠ b → a ∈ v.up.ancestors b → Sorted v a b ⟨a, b, v.up, true⟩
  | targetBelow : a ≠ b → b ∈ v.up.ancestors a → Sorted v a b ⟨b, a, v.up, true⟩

lemma sortByDepth_sorted (h : v.sortByDepth reg a b = .ok d) : Sorted v a b d := by
  unfold sortByDepth at h
  split at h
  · rename_i heq
    cases h
    exact .same (beq_iff_eq.mp heq)
  · rename_i hne
    have hne : a ≠ b := fun hab => hne (beq_iff_eq.mpr hab)
    split at h
    · cases h
    · split at h
      · rename_i hmem
        cases h
        exact .targetAbove hne (contains_iff_mem.mp hmem)
      · split at h
        · rename_i hmem
          cases h
          exact .sourceAbove hne (contains_iff_mem.mp hmem)
        · split at h
          · rename_i hmem
            cases h
            exact .sourceBelow hne (contains_iff_mem.mp hmem)
          · split at h
            · rename_i hmem
              cases h
              exact .targetBelow hne (contains_iff_mem.mp hmem)
            · cases h

lemma Sound.graph_out (hv : v.Sound P) (hd : Sorted v a b d) : d.graph.Out (fun l => P l ∧ l.type ≠ .subclassedBy) := by
  have hdown := hv.down.mono (Q := fun l => P l ∧ l.type ≠ .subclassedBy) fun l hl => ⟨hl.1, fun htype => by simp [htype] at hl⟩
  have hup := hv.up.mono (Q := fun l => P l ∧ l.type ≠ .subclassedBy) fun l hl => ⟨hl.1, fun htype => by simp [htype] at hl⟩
  cases hd with
  | same | targetAbove | sourceAbove => exact hdown
  | sourceBelow | targetBelow => exact hup

lemma doubled_ends {p : List ClassId} (h : Ends p a b) : Ends (doubled p) a b := by
  unfold doubled
  split
  · rename_i c
    obtain rfl : c = a := Option.some.inj h.head
    obtain rfl : c = b := Option.some.inj h.last
    exact ⟨rfl, rfl⟩
  · exact h

/-- A route of a layer goes along a path between the two classes, in order of depth. A class is its own goal on a path
that passes it twice. -/
lemma routes_along (hv : v.Sound P) (h : v.routes reg a b = .ok rs) : ∃ d, v.sortByDepth reg a b = .ok d ∧ Sorted v a b d ∧
    ∀ r ∈ rs, ∃ path, Ends path d.bottom d.top ∧ (d.bottom = d.top → path = [d.top, d.top]) ∧
      v.routeAlong reg d.graph.reversed d.upward path = .ok r := by
  obtain ⟨d, hd, h⟩ := bind_ok h
  obtain ⟨paths, hpaths, h⟩ := bind_ok h
  obtain ⟨found, hfound, h⟩ := bind_ok h
  have hsorted := sortByDepth_sorted hd
  cases h
  have hout := (hv.graph_out hsorted).reversed.mono fun _ _ => trivial
  refine ⟨d, hd, hsorted, fun r hr => ?_⟩
  obtain ⟨path, hpath, hroute⟩ := mem_of_mapM_ok hfound (mem_eraseDups.mp hr)
  obtain ⟨p, hp, rfl⟩ := mem_map.mp (mem_eraseDups.mp hpath)
  refine ⟨_, doubled_ends (forkingPaths_ends hout hpaths p hp), fun heq => ?_, hroute⟩
  rw [heq] at hpaths
  rw [forkingPaths_self hpaths p hp]
  rfl

/-- Classes lead from one class, or one below it, to another or one below that. -/
structure LeadsTo (reg : Registry) (a b : ClassId) (classes : List ClassId) : Prop where
  two : 2 ≤ classes.length
  ends : ∃ first last, Ends classes first last ∧ reg.Extends first a ∧ reg.Extends last b

lemma LeadsTo.reverse {classes : List ClassId} (h : LeadsTo reg a b classes) : LeadsTo reg b a classes.reverse := by
  obtain ⟨first, last, hends, hfirst, hlast⟩ := h.ends
  exact ⟨by rw [length_reverse]; exact h.two, last, first, hends.reverse, hlast, hfirst⟩

lemma routeAlong_classes (h : v.routeAlong reg g upward path = .ok r) : ∃ links, g.linksAlong reg path = .ok links ∧
      r.classes = if upward then reduced path links else (reduced path links).reverse := by
  obtain ⟨links, hlinks, h⟩ := bind_ok h
  refine ⟨links, hlinks, ?_⟩
  split at h
  · rename_i hup
    cases h
    rw [if_pos hup]
  · rename_i hup
    obtain ⟨back, _, h⟩ := bind_ok h
    cases h
    rw [if_neg hup]

/-- A route searched downward begins with the upper of two classes and ends with the lower or one below it;
one searched upward, the other way round. -/
lemma routeAlong_ends (hg : g.Out (Falls reg)) (hends : Ends path bottom top)
    (h : v.routeAlong reg g upward path = .ok r) : ∃ first, reg.Extends first bottom ∧
      (if upward then Ends r.classes first top else Ends r.classes top first) ∧
      (2 ≤ r.classes.length ∨ reg.Extends top bottom) := by
  obtain ⟨links, hlinks, hclasses⟩ := routeAlong_classes h
  have htrace : Trace (Falls reg) path links := by
    cases path with
    | nil => cases hends.head
    | cons c rest => exact hg.linksAlong hlinks
  obtain ⟨first, hreduced, hextends, hlength⟩ := reduced_ends htrace hends
  refine ⟨first, hextends, ?_, ?_⟩
  · rw [hclasses]
    split
    · exact hreduced
    · exact hreduced.reverse
  · refine hlength.imp_left fun hlength => ?_
    rw [hclasses]
    split
    · exact hlength
    · rw [length_reverse]
      exact hlength

/-- The routes of a layer between classes of which none extends the other. If the target has classes below it
and the source is found upward of it, nothing is said. -/
lemma Sound.routes_leadsTo (hv : v.Sound P) (hP : ∀ l, P l → Declared reg l) (hab : ¬reg.Extends a b)
    (hba : ¬reg.Extends b a) (hbelow : (∀ c, reg.Extends c b → c = b) ∨ a ∉ v.up.ancestors b) (h : v.routes reg a b = .ok rs)
    (hr : r ∈ rs) : if r.classes.head? = some b then LeadsTo reg b a r.classes else LeadsTo reg a b r.classes := by
  obtain ⟨d, -, hsorted, hpaths⟩ := routes_along hv h
  obtain ⟨path, hends, -, hroute⟩ := hpaths r hr
  have hfalls : d.graph.reversed.Out (Falls reg) :=
    (hv.graph_out hsorted).reversed.mono fun l hl => ⟨fun htype => (hP _ hl.1).base htype, hl.2⟩
  obtain ⟨first, hfirst, hclasses, hlength⟩ := routeAlong_ends hfalls hends hroute
  cases hsorted with
  | same heq => exact absurd (heq ▸ .refl) hab
  | targetAbove hne _ =>
    have htwo := hlength.resolve_right hba
    rw [if_pos hclasses.head]
    exact ⟨htwo, b, first, hclasses, .refl, hfirst⟩
  | sourceAbove hne _ =>
    have htwo := hlength.resolve_right hab
    rw [if_neg (by rw [hclasses.head]; simpa using hne)]
    exact ⟨htwo, a, first, hclasses, .refl, hfirst⟩
  | sourceBelow hne habove =>
    have htwo := hlength.resolve_right hab
    obtain hbelow | hbelow := hbelow
    · obtain rfl := hbelow first hfirst
      rw [if_pos hclasses.head]
      exact ⟨htwo, first, a, hclasses, .refl, .refl⟩
    · exact absurd habove hbelow
  | targetBelow hne _ =>
    have htwo := hlength.resolve_right hba
    have hfirstne : first ≠ b := fun heq => hba (heq ▸ hfirst)
    rw [if_neg (by rw [hclasses.head]; simpa using hfirstne)]
    exact ⟨htwo, first, b, hclasses, hfirst, .refl⟩

end Layer

end SurveyGraph
