import Mathlib.Tactic.Lemma
import SurveyGraph.Paths.Shortest
/-!
# The ends of paths

The list of nodes that a search answers leads from the one node to the other, and stays in a set that no step leaves: the
first path along predecessors (`firstPath_endsIn`), and the path of two searches that meet half way
(`unweightedPath_endsIn`).
-/
open List

namespace SurveyGraph

/-! ## Paths from one end to the other -/

/-- A list with a first and a last member. -/
structure Ends {α : Type} (xs : List α) (a b : α) : Prop where
  head : xs.head? = some a
  last : xs.getLast? = some b

namespace Ends

variable {α : Type} {xs ys : List α} {a b c d : α}

lemma single (a : α) : Ends [a] a a := ⟨rfl, rfl⟩

lemma reverse (h : Ends xs a b) : Ends xs.reverse b a := ⟨by rw [head?_reverse, h.last], by rw [getLast?_reverse, h.head]⟩

lemma append_of_last (hx : Ends xs a b) (hy : ys.getLast? = some d) : Ends (xs ++ ys) a d :=
  ⟨by rw [head?_append, hx.head]; rfl, by rw [getLast?_append, hy]; rfl⟩

lemma append (hx : Ends xs a b) (hy : Ends ys c d) : Ends (xs ++ ys) a d := hx.append_of_last hy.last

lemma append_tail (hx : Ends xs a b) (hy : Ends ys b c) : Ends (xs ++ ys.tail) a c := by
  obtain ⟨hhead, hlast⟩ := hy
  cases ys with
  | nil => cases hhead
  | cons y ys =>
    refine ⟨by rw [head?_append, hx.head]; rfl, ?_⟩
    cases ys with
    | nil =>
      obtain rfl : y = b := Option.some.inj hhead
      obtain rfl : y = c := Option.some.inj hlast
      simpa using hx.last
    | cons z ys =>
      rw [tail_cons, getLast?_append, ← getLast?_cons_cons, hlast]
      rfl

lemma dropLast_append (hx : Ends xs a b) (hy : Ends ys b c) : Ends (xs.dropLast ++ ys) a c := by
  refine ⟨?_, by rw [getLast?_append, hy.last]; rfl⟩
  obtain ⟨hhead, hlast⟩ := hx
  cases xs with
  | nil => cases hhead
  | cons x xs =>
    cases xs with
    | nil =>
      obtain rfl : x = a := Option.some.inj hhead
      obtain rfl : x = b := Option.some.inj hlast
      simpa using hy.head
    | cons y xs => exact hhead

end Ends

/-- A list with a first and a last member, all of it in a set. -/
structure EndsIn {α : Type} (S : α → Prop) (xs : List α) (a b : α) : Prop extends Ends xs a b where
  mem : ∀ x ∈ xs, S x

namespace EndsIn

variable {α : Type} {S : α → Prop} {xs ys : List α} {a b c d : α}

lemma single (ha : S a) : EndsIn S [a] a a := ⟨.single a, by simpa using ha⟩

lemma append (hx : EndsIn S xs a b) (hy : EndsIn S ys c d) : EndsIn S (xs ++ ys) a d :=
  ⟨hx.toEnds.append hy.toEnds, forall_mem_append.mpr ⟨hx.mem, hy.mem⟩⟩

lemma join (hx : EndsIn S xs b a) (hy : EndsIn S ys b c) : EndsIn S (xs.reverse ++ ys.tail) a c :=
  ⟨hx.reverse.append_tail hy.toEnds, forall_mem_append.mpr
    ⟨fun x h => hx.mem x (mem_reverse.mp h), fun x h => hy.mem x (mem_of_mem_tail h)⟩⟩

end EndsIn

namespace Shortest

variable {S : Nat → Prop} {root v w source target : Nat} {met other : List (Nat × Option Nat)} {fringe : List Nat}

lemma firstPath_endsIn {before : Array (Option (List Nat))} (hbefore : ∀ u ps, before.getD u none = some ps → ∀ p ∈ ps, S p) :
    ∀ {fuel : Nat} {seen : List Nat} {node : Nat} {p : List Nat}, S node →
      firstPath before source fuel seen node = some p → EndsIn S p source node
  | 0, _, _, _, _, h => by cases h
  | fuel + 1, seen, node, p, hnode, h => by
    unfold firstPath at h
    split at h
    · rename_i heq
      obtain rfl := beq_iff_eq.mp heq
      cases h
      exact .single hnode
    · obtain ⟨u, hu, hpath⟩ := exists_of_findSome?_eq_some h
      split at hpath
      · cases hpath
      · obtain ⟨q, hq, rfl⟩ := Option.map_eq_some_iff.mp hpath
        have hSu : S u := by
          cases hps : before.getD node none with
          | none =>
            rw [hps] at hu
            cases hu
          | some ps =>
            rw [hps] at hu
            exact hbefore node ps hps u hu
        exact (firstPath_endsIn hbefore hSu hq).append (.single hnode)

/-! ## Search from both ends -/

/-- From every node that was met the way leads back to the root, within a set. -/
def Rooted (S : Nat → Prop) (root : Nat) (met : List (Nat × Option Nat)) : Prop :=
  ∀ w, (met.lookup w).isSome → EndsIn S (follow met w) w root

lemma Rooted.mem (h : Rooted S root met) (hv : (met.lookup v).isSome) : S v :=
  (h v hv).mem v (mem_of_mem_head? (h v hv).head)

lemma Rooted.start (hroot : S root) : Rooted S root [(root, none)] := by
  intro w hw
  by_cases h : root = w
  · subst h
    simpa [follow] using EndsIn.single hroot
  · simp [lookup_cons, beq_false_of_ne (Ne.symm h)] at hw

lemma Rooted.meet (h : Rooted S root met) (hv : (met.lookup v).isSome) (hw : S w) : Rooted S root ((w, some v) :: met) := by
  intro u hu
  rw [follow]
  split
  · rename_i heq
    obtain rfl := beq_iff_eq.mp heq
    exact (EndsIn.single hw).append (h v hv)
  · rename_i hne
    rw [lookup_cons, beq_false_of_ne fun h => hne (beq_iff_eq.mpr h.symm)] at hu
    exact h u hu

lemma lookup_cons_isSome {e : Nat × Option Nat} (h : (met.lookup v).isSome) : ((e :: met).lookup v).isSome := by
  rw [lookup_cons]
  split
  · rfl
  · exact h

/-- One side of the search: nodes met from a root, some of them last. -/
structure Side (S : Nat → Prop) (root : Nat) (met : List (Nat × Option Nat)) (fringe : List Nat) : Prop where
  rooted : Rooted S root met
  fringe : ∀ u ∈ fringe, (met.lookup u).isSome

/-- What a round leaves: a larger side, and a node of both sides if they meet. -/
structure Round (S : Nat → Prop) (root : Nat) (other met : List (Nat × Option Nat))
    (r : List (Nat × Option Nat) × List Nat × Option Nat) : Prop where
  side : Side S root r.1 r.2.1
  grows : ∀ u, (met.lookup u).isSome → (r.1.lookup u).isSome
  hit : ∀ w, r.2.2 = some w → (r.1.lookup w).isSome ∧ (other.lookup w).isSome

lemma Side.scan (h : Side S root met fringe) (hv : (met.lookup v).isSome) {ws : List Nat} (hws : ∀ w ∈ ws, S w) :
    Round S root other met (scan other v ws met fringe) := by
  induction ws generalizing met fringe with
  | nil => exact ⟨h, fun _ hu => hu, fun w hw => by cases hw⟩
  | cons w ws ih =>
    -- the side after `w` has been noted
    obtain ⟨met', fringe', hmet, hfringe⟩ : ∃ m f, (if (met.lookup w).isNone then (w, some v) :: met else met) = m ∧
      (if (met.lookup w).isNone then fringe ++ [w] else fringe) = f := ⟨_, _, rfl, rfl⟩
    have hgrows : ∀ u, (met.lookup u).isSome → (met'.lookup u).isSome := by
      intro u hu
      rw [← hmet]
      split
      · exact lookup_cons_isSome hu
      · exact hu
    have hself : (met'.lookup w).isSome := by
      rw [← hmet]
      split
      · rw [lookup_cons, beq_self_eq_true]
        rfl
      · rename_i hold
        simpa [Option.isSome_iff_ne_none] using hold
    have hside : Side S root met' fringe' := by
      by_cases hnew : (met.lookup w).isNone
      · rw [if_pos hnew] at hmet hfringe
        subst hmet hfringe
        refine ⟨h.rooted.meet hv (hws w (by simp)), fun u hu => ?_⟩
        rcases mem_append.mp hu with hu | hu
        · exact lookup_cons_isSome (h.fringe u hu)
        · exact mem_singleton.mp hu ▸ hself
      · rw [if_neg hnew] at hmet hfringe
        subst hmet hfringe
        exact h
    simp only [Shortest.scan, hmet, hfringe]
    split
    · rename_i hother
      refine ⟨hside, hgrows, fun u hu => ?_⟩
      cases hu
      exact ⟨hself, hother⟩
    · have hrest := ih hside (hgrows v hv) fun u hu => hws u (by simp [hu])
      exact ⟨hrest.side, fun u hu => hrest.grows u (hgrows u hu), hrest.hit⟩

lemma Side.expand {step : Nat → List Nat} (hstep : ∀ v, S v → ∀ w ∈ step v, S w) {level : List Nat}
    (h : Side S root met fringe) (hlevel : ∀ v ∈ level, (met.lookup v).isSome) :
    Round S root other met (expand step other level met fringe) := by
  induction level generalizing met fringe with
  | nil => exact ⟨h, fun _ hu => hu, fun w hw => by cases hw⟩
  | cons v level ih =>
    have hv := hlevel v (by simp)
    have hscan : Round S root other met (Shortest.scan other v (step v) met fringe) := h.scan hv (hstep v (h.rooted.mem hv))
    rw [Shortest.expand]
    split
    · rename_i heq
      rw [heq] at hscan
      exact hscan
    · rename_i heq
      rw [heq] at hscan
      have hrest := ih hscan.side fun u hu => hscan.grows u (hlevel u (.tail _ hu))
      exact ⟨hrest.side, fun u hu => hrest.grows u (hscan.grows u hu), hrest.hit⟩

variable {next prev : Nat → List Nat}

lemma searchTwoEnds_endsIn (hnext : ∀ v, S v → ∀ w ∈ next v, S w) (hprev : ∀ v, S v → ∀ w ∈ prev v, S w) :
    ∀ {fuel : Nat} {s : TwoEnds} {p : List Nat}, Side S source s.before s.front → Side S target s.after s.back →
      searchTwoEnds next prev fuel s = some p → EndsIn S p source target
  | 0, _, _, _, _, h => by cases h
  | fuel + 1, s, p, hfront, hback, h => by
    unfold searchTwoEnds at h
    split at h
    · cases h
    · split at h
      · have hround : Round S source s.after s.before (Shortest.expand next s.after s.front s.before []) :=
          Side.expand hnext ⟨hfront.rooted, by simp⟩ hfront.fringe
        split at h
        · rename_i heq
          rw [heq] at hround
          cases h
          obtain ⟨hwb, hwa⟩ := hround.hit _ rfl
          exact (hround.side.rooted _ hwb).join (hback.rooted _ hwa)
        · rename_i before front heq
          rw [heq] at hround
          exact searchTwoEnds_endsIn hnext hprev (s := { s with before, front }) hround.side hback h
      · have hround : Round S target s.before s.after (Shortest.expand prev s.before s.back s.after []) :=
          Side.expand hprev ⟨hback.rooted, by simp⟩ hback.fringe
        split at h
        · rename_i heq
          rw [heq] at hround
          cases h
          obtain ⟨hwa, hwb⟩ := hround.hit _ rfl
          exact (hfront.rooted _ hwb).join (hround.side.rooted _ hwa)
        · rename_i after back heq
          rw [heq] at hround
          exact searchTwoEnds_endsIn hnext hprev (s := { s with after, back }) hfront hround.side h

lemma unweightedPath_endsIn (hnext : ∀ v, S v → ∀ w ∈ next v, S w) (hprev : ∀ v, S v → ∀ w ∈ prev v, S w)
    {size : Nat} {p : List Nat} (hsource : S source) (htarget : S target)
    (h : unweightedPath next prev size source target = some p) : EndsIn S p source target := by
  unfold unweightedPath at h
  split at h
  · rename_i heq
    obtain rfl := beq_iff_eq.mp heq
    cases h
    exact .single hsource
  · have hside : ∀ root, S root → Side S root [(root, none)] [root] :=
      fun root hroot => ⟨.start hroot, fun u hu => by simp [mem_singleton.mp hu]⟩
    exact searchTwoEnds_endsIn hnext hprev (hside source hsource) (hside target htarget) h

end Shortest

end SurveyGraph
