import Mathlib.Data.Finset.Card
import Mathlib.Order.Interval.Finset.Nat
import SurveyGraph.Proofs.RouteEnds
import SurveyGraph.Proofs.SearchFinds
/-!
# How deep a search goes

Where a path forks, the search starts again from each class below that has instances, possibly where it has been. A search
that has not ended after as many levels as there are classes never ends (`endless_of_deep`): one that ends needs one level
less at some class it starts again from (`exists_shallower`).
-/
open Relation List

namespace SurveyGraph

/-! ## Actions that do not end -/

/-- The first action has not come to an end, or the second ends like it. -/
def Sooner {α : Type} (x y : Except Fault α) : Prop := x = endless ∨ y = x

namespace Sooner

variable {α β : Type} {x y : Except Fault α} {f g : α → Except Fault β}

lemma bind (h : Sooner x y) (hf : ∀ a, Sooner (f a) (g a)) : Sooner (x >>= f) (y >>= g) := by
  rcases h with rfl | rfl
  · exact .inl rfl
  · cases y with
    | ok a => exact hf a
    | error e => exact .inr rfl

lemma mapM : ∀ {l : List α}, (∀ a ∈ l, Sooner (f a) (g a)) → Sooner (l.mapM f) (l.mapM g)
  | [], _ => .inr rfl
  | a :: l, h => by
    rw [mapM_cons, mapM_cons]
    exact (h a (by simp)).bind fun b => (mapM fun c hc => h c (by simp [hc])).bind fun bs => .inr rfl

end Sooner

lemma mapM_congr {α β : Type} {f g : α → Except Fault β} : ∀ {l : List α}, (∀ a ∈ l, f a = g a) → l.mapM f = l.mapM g
  | [], _ => rfl
  | a :: l, h => by
    rw [mapM_cons, mapM_cons, h a (by simp), mapM_congr fun c hc => h c (by simp [hc])]

namespace ClassGraph

variable {reg : Registry} {top bottom c fork : ClassId} {g : ClassGraph} {P : Link → Prop} {path : List ClassId}
  {links : List Link} {n m : Nat}

/-! ## One level of a search -/

/-- What searches below a level answer. -/
abbrev Deeper := ClassGraph → ClassId → Except Fault (List (List ClassId))

def below (reg : Registry) (fork : ClassId) : List ClassId :=
  (reg.subclasses fork).filter (fun c => !(reg.get c).isTemplate)

/-- The paths by way of one of the classes below a fork. -/
def part (deeper : Deeper) (g : ClassGraph) (path : List ClassId) (fork c : ClassId) : Except Fault (List (List ClassId)) := do
  let down ← (g.filter (·.type == .isA)).fewestLinks fork c
  let rest ← deeper g c
  return rest.map (path ++ down.tail.dropLast ++ ·)

/-- How a search goes on where its path forks. -/
def branch (reg : Registry) (top : ClassId) (deeper : Deeper) (g : ClassGraph) (path : List ClassId) (fork : ClassId) :
    Except Fault (List (List ClassId)) := do
  let direct ← deeper (g.filter (·.type != .isA)) fork
  if !direct.isEmpty then return direct.map (path.dropLast ++ ·)
  else if (below reg fork).contains top then
    return [path ++ (← (g.filter (·.type == .isA)).fewestLinks fork top).tail]
  else
    let parts ← (below reg fork).mapM (part deeper g path fork)
    return parts.flatten.eraseDups

/-- The path of a search forks at a class. -/
def Forks (reg : Registry) (top : ClassId) (g : ClassGraph) (bottom : ClassId) (path : List ClassId) (fork : ClassId) : Prop :=
  ∃ found links, g.shortestPath? bottom top = .ok (some found) ∧ g.linksAlong reg found = .ok links ∧
    splitAtFork top links [bottom] = (path, some fork)

/-- A search ends the same way whatever is below, or its path forks. -/
lemma forkingPaths_cases (reg : Registry) (top : ClassId) (g : ClassGraph) (bottom : ClassId) :
    (∃ r, ∀ n, forkingPaths reg top (n + 1) g bottom = r) ∨ ∃ path fork, Forks reg top g bottom path fork ∧
      ∀ n, forkingPaths reg top (n + 1) g bottom = branch reg top (forkingPaths reg top n) g path fork := by
  cases hfound : g.shortestPath? bottom top with
  | error e =>
    refine .inl ⟨.error e, fun n => ?_⟩
    rw [forkingPaths, hfound]
    rfl
  | ok found =>
    cases found with
    | none =>
      refine .inl ⟨.ok [], fun n => ?_⟩
      rw [forkingPaths, hfound]
      rfl
    | some found =>
      cases hlinks : g.linksAlong reg found with
      | error e =>
        refine .inl ⟨.error e, fun n => ?_⟩
        rw [forkingPaths, hfound]
        change (g.linksAlong reg found >>= _) = _
        rw [hlinks]
        rfl
      | ok links =>
        rcases hsplit : splitAtFork top links [bottom] with ⟨path, _ | fork⟩
        · refine .inl ⟨.ok [path], fun n => ?_⟩
          simp only [forkingPaths, hfound, hlinks, hsplit, bind, Except.bind]
          rfl
        · refine .inr ⟨path, fork, ⟨found, links, hfound, hlinks, hsplit⟩, fun n => ?_⟩
          simp only [forkingPaths, hfound, hlinks, hsplit, bind, Except.bind]
          rfl

lemma branch_sooner {deeper deeper' : Deeper} (h : ∀ g c, Sooner (deeper g c) (deeper' g c)) (fork : ClassId) :
    Sooner (branch reg top deeper g path fork) (branch reg top deeper' g path fork) := by
  refine (h _ _).bind fun direct => ?_
  split
  · exact .inr rfl
  · split
    · exact .inr rfl
    · refine Sooner.bind (Sooner.mapM fun c _ => ?_) fun parts => .inr rfl
      exact Sooner.bind (.inr rfl) fun down => (h _ _).bind fun rest => .inr rfl

lemma branch_congr {deeper deeper' : Deeper}
    (hdirect : deeper (g.filter (·.type != .isA)) fork = deeper' (g.filter (·.type != .isA)) fork)
    (hbelow : ∀ c ∈ below reg fork, deeper g c = deeper' g c) :
    branch reg top deeper g path fork = branch reg top deeper' g path fork := by
  have hparts : (below reg fork).mapM (part deeper g path fork) = (below reg fork).mapM (part deeper' g path fork) :=
    mapM_congr fun c hc => by unfold part; rw [hbelow c hc]
  unfold branch
  rw [hdirect, hparts]

/-! ## Where paths fork -/

/-- A link with a property leads from one class to another. -/
def Linked (P : Link → Prop) (a b : ClassId) : Prop := ∃ l, P l ∧ l.src = a ∧ l.dst = b

lemma splitAtFork_linked (ht : Trace P path links) {done p : List ClassId} (hc : path.head? = some c)
    (h : splitAtFork top links done = (p, some fork)) :
    ReflTransGen (Linked P) c fork ∧ ∃ l, P l ∧ l.type = .isA ∧ l.src = fork := by
  induction ht generalizing done c with
  | stop e => cases h
  | @step e d l path ls hsrc hdst hP _ ih =>
    obtain rfl : e = c := Option.some.inj hc
    unfold splitAtFork at h
    split at h
    · rename_i hfork
      cases h
      simp only [Bool.and_eq_true, beq_iff_eq] at hfork
      exact ⟨hsrc ▸ .refl, l, hP, hfork.1, rfl⟩
    · obtain ⟨hreach, hisA⟩ := ih rfl h
      exact ⟨.head ⟨l, hP, hsrc, hdst⟩ hreach, hisA⟩

lemma Forks.linked (h : Forks reg top g bottom path fork) (ho : g.Out P) :
    ReflTransGen (Linked P) bottom fork ∧ ∃ l, P l ∧ l.type = .isA ∧ l.src = fork := by
  obtain ⟨found, links, hfound, hlinks, hsplit⟩ := h
  have hends := shortestPath?_ends hfound
  have htrace : Trace P found links := by
    cases found with
    | nil => cases hends.head
    | cons c rest => exact ho.linksAlong hlinks
  exact splitAtFork_linked htrace hends.head hsplit

lemma forkingPaths_direct (ho : g.Out (fun _ => True)) (fork : ClassId) (n : Nat) :
    forkingPaths reg top (n + 1) (g.filter (·.type != .isA)) fork =
      forkingPaths reg top 1 (g.filter (·.type != .isA)) fork := by
  rcases forkingPaths_cases reg top (g.filter (·.type != .isA)) fork with ⟨r, hr⟩ | ⟨path, f, hforks, _⟩
  · rw [hr, hr 0]
  · obtain ⟨_, l, ⟨_, hl⟩, hisA, _⟩ := hforks.linked (ho.filter _)
    simp [hisA] at hl

/-! ## Levels that are needed -/

/-- A search with more levels ends in the same way, if it ends. -/
lemma forkingPaths_sooner (reg : Registry) (top : ClassId) : ∀ (n : Nat) (g : ClassGraph) (c : ClassId),
    Sooner (forkingPaths reg top n g c) (forkingPaths reg top (n + 1) g c)
  | 0, _, _ => .inl rfl
  | n + 1, g, c => by
    rcases forkingPaths_cases reg top g c with ⟨r, hr⟩ | ⟨path, fork, _, hbranch⟩
    · rw [hr, hr]
      exact .inr rfl
    · rw [hbranch, hbranch]
      exact branch_sooner (forkingPaths_sooner reg top n) fork

lemma forkingPaths_of_ends (h : forkingPaths reg top n g c ≠ endless) (hnm : n ≤ m) :
    forkingPaths reg top m g c = forkingPaths reg top n g c := by
  induction hnm with
  | refl => rfl
  | @step m _ ih =>
    rcases forkingPaths_sooner reg top m g c with hm | hm
    · exact absurd (ih.symm.trans hm) h
    · rw [hm, ih]

/-- A search that needs some levels starts again from a class that needs one less. -/
lemma exists_shallower (ho : g.Out (fun _ => True)) (h : forkingPaths reg top (n + 2) g c = endless)
    (h' : forkingPaths reg top (n + 3) g c ≠ endless) : ∃ d ∈ reg.declared,
      forkingPaths reg top (n + 1) g d = endless ∧ forkingPaths reg top (n + 2) g d ≠ endless := by
  rcases forkingPaths_cases reg top g c with ⟨r, hr⟩ | ⟨path, fork, _, hbranch⟩
  · rw [hr] at h h'
    exact absurd h h'
  · by_contra hnone
    refine h' (Eq.trans ?_ h)
    rw [hbranch, hbranch]
    refine branch_congr (by rw [forkingPaths_direct ho, forkingPaths_direct ho fork n]) fun d hd => ?_
    have hdeclared : d ∈ reg.declared := Registry.mem_declared_of_subclass (mem_of_mem_filter hd)
    rcases forkingPaths_sooner reg top (n + 1) g d with hn | hn
    · by_contra hne
      exact hnone ⟨d, hdeclared, hn, fun heq => hne (heq.trans hn.symm)⟩
    · exact hn

lemma exists_last {p : Nat → Prop} (hm : p m) (hn : ¬p n) (hmn : m ≤ n) : ∃ k, m ≤ k ∧ p k ∧ ¬p (k + 1) := by
  induction hmn with
  | refl => exact absurd hm hn
  | @step k hmk ih =>
    by_cases hk : p k
    · exact ⟨k, hmk, hk, hn⟩
    · exact ih hk

/-- A search that has not ended after as many levels as classes never ends. -/
lemma endless_of_deep (ho : g.Out (fun _ => True)) (hroot : 0 < reg.classes.size)
    (h : forkingPaths reg top (reg.classes.size + 1) g c = endless) (n : Nat) : forkingPaths reg top n g c = endless := by
  by_contra hends
  have hle : reg.classes.size + 1 ≤ n := by
    by_contra hlt
    exact hends ((forkingPaths_of_ends hends (by omega)).symm.trans h)
  obtain ⟨k, hk, hdeep, hlast⟩ := exists_last (p := fun n => forkingPaths reg top n g c = endless) h hends hle
  -- for each smaller number of levels there is a class that needs one more
  have hall : ∀ i, i + 1 < k → ∃ d ∈ reg.declared, forkingPaths reg top (k - 1 - i) g d = endless ∧
      forkingPaths reg top (k - i) g d ≠ endless := by
    intro i
    induction i with
    | zero =>
      intro hi
      obtain ⟨m, rfl⟩ : ∃ m, k = m + 2 := ⟨k - 2, by omega⟩
      exact exists_shallower ho hdeep hlast
    | succ i ih =>
      intro hi
      obtain ⟨d, _, hd, hd'⟩ := ih (by omega)
      obtain ⟨m, rfl⟩ : ∃ m, k = m + 3 + i := ⟨k - 3 - i, by omega⟩
      rw [show m + 3 + i - 1 - i = m + 2 by omega] at hd
      rw [show m + 3 + i - i = m + 3 by omega] at hd'
      obtain ⟨e, he, hshallow⟩ := exists_shallower ho hd hd'
      refine ⟨e, he, ?_⟩
      rw [show m + 3 + i - 1 - (i + 1) = m + 1 by omega, show m + 3 + i - (i + 1) = m + 2 by omega]
      exact hshallow
  choose! f hf using hall
  -- these classes differ, and there are more of them than classes have been declared
  have hinj : Set.InjOn f (Finset.range (k - 1)) := by
    intro i hi j hj hij
    simp only [Finset.coe_range, Set.mem_Iio] at hi hj
    have hdeepest : ∀ i j, i + 1 < k → j + 1 < k → f i = f j → i ≤ j := by
      intro i j hi hj hij
      by_contra hlt
      have hshallow := (hf i (by omega)).2.2
      rw [hij] at hshallow
      have hdeep := (hf j (by omega)).2.1
      exact hshallow ((forkingPaths_of_ends hshallow (by omega)).symm.trans hdeep)
    exact Nat.le_antisymm (hdeepest i j (by omega) (by omega) hij) (hdeepest j i (by omega) (by omega) hij.symm)
  have hmaps : ∀ i ∈ Finset.range (k - 1), f i ∈ reg.declared.toFinset := by
    intro i hi
    rw [Finset.mem_range] at hi
    exact mem_toFinset.mpr (hf i (by omega)).1
  have hcard := Finset.card_le_card_of_injOn f hmaps hinj
  have hdeclared : reg.declared.toFinset.card ≤ reg.classes.size - 1 := by
    refine (toFinset_card_le _).trans ?_
    simp [Registry.declared]
  rw [Finset.card_range] at hcard
  omega

end ClassGraph

end SurveyGraph
