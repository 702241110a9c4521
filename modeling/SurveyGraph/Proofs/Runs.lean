import Mathlib.Data.Set.Defs
import Mathlib.Data.List.Pairwise
import SurveyGraph.Store.Eval
/-!
# Runs of numbers

An increasing list of numbers is kept as its runs: the first and the last number of each longest piece without a gap. `runs`
finds them from the end of the list. They are the runs of the set of numbers, in order (`mem_runs`, `runs_increasing`), and
the numbers can be read back from them (`flatMap_runs`).

The database looks for the places where a run begins, and takes each run up to the next such place (`spans`), with a mark
after the last run. The two ways come to the same (`spans_cuts`).
-/
open List

namespace SurveyGraph

variable (v : List Int) {r : Int × Int}

/-- A piece of a set of numbers without a gap that cannot be longer. -/
structure IsRun (s : Set Int) (r : Int × Int) : Prop where
  le : r.1 ≤ r.2
  mem : ∀ n, r.1 ≤ n → n ≤ r.2 → n ∈ s
  left : r.1 - 1 ∉ s
  right : r.2 + 1 ∉ s

def runs : List Int → List (Int × Int)
  | [] => []
  | x :: xs =>
    match runs xs with
    | [] => [(x, x)]
    | (a, b) :: rest => if x + 1 = a then (x, b) :: rest else (x, x) :: (a, b) :: rest

variable {xs : List Int} {x : Int}

lemma runs_cons (x : Int) (xs : List Int) : ∃ b rest, runs (x :: xs) = (x, b) :: rest := by
  unfold runs
  split
  · exact ⟨x, [], rfl⟩
  · split
    · exact ⟨_, _, rfl⟩
    · exact ⟨_, _, rfl⟩

lemma runs_cons_next (y : Int) (xs : List Int) {b : Int} {rest : List (Int × Int)} (h : runs (y :: xs) = (y, b) :: rest)
    (x : Int) : runs (x :: y :: xs) = if x + 1 = y then (x, b) :: rest else (x, x) :: (y, b) :: rest := by
  rw [runs, h]

lemma runs_le (xs : List Int) : ∀ r ∈ runs xs, r.1 ≤ r.2 := by
  induction xs with
  | nil => simp [runs]
  | cons x xs ih =>
    unfold runs
    split
    · simp
    · rename_i a b rest heq
      have hab : a ≤ b := ih (a, b) (by simp [heq])
      have hrest : ∀ r ∈ rest, r.1 ≤ r.2 := fun r hr => ih r (by simp [heq, hr])
      split
      · rename_i hx
        simpa [← hx] using ⟨by omega, fun a b h => hrest (a, b) h⟩
      · simpa using ⟨hab, fun a b h => hrest (a, b) h⟩

/-! ## Reading back -/

lemma Store.mem_upTo {a b n : Int} : n ∈ Store.upTo a b ↔ a ≤ n ∧ n ≤ b := by
  simp only [Store.upTo, mem_map, mem_range]
  constructor
  · rintro ⟨k, hk, rfl⟩
    omega
  · rintro ⟨h1, h2⟩
    exact ⟨(n - a).toNat, by omega, by omega⟩

lemma Store.upTo_cons {a b : Int} (h : a ≤ b) : Store.upTo a b = a :: Store.upTo (a + 1) b := by
  have hn : (b + 1 - a).toNat = (b + 1 - (a + 1)).toNat + 1 := by omega
  rw [Store.upTo, hn, range_succ_eq_map]
  simp only [map_cons, map_map, Store.upTo, cons.injEq]
  simp
  omega

lemma flatMap_runs (xs : List Int) : (runs xs).flatMap (fun r => Store.upTo r.1 r.2) = xs := by
  induction xs with
  | nil => rfl
  | cons x xs ih =>
    have hself : Store.upTo x x = [x] := by
      rw [Store.upTo, show (x + 1 - x).toNat = 1 by omega]
      simp
    unfold runs
    split
    · rename_i heq
      simpa [heq, hself] using ih
    · rename_i a b rest heq
      have hab : a ≤ b := runs_le xs (a, b) (by simp [heq])
      rw [heq] at ih
      split
      · rename_i hx
        rw [flatMap_cons, Store.upTo_cons (by omega), hx]
        exact congrArg (x :: ·) ih
      · simpa [hself] using ih

lemma mem_iff_runs {n : Int} : n ∈ xs ↔ ∃ r ∈ runs xs, r.1 ≤ n ∧ n ≤ r.2 := by
  have h := mem_flatMap (b := n) (l := runs xs) (f := fun r => Store.upTo r.1 r.2)
  rw [flatMap_runs xs] at h
  simpa only [Store.mem_upTo] using h

/-! ## The runs of a set -/

lemma runs_apart (h : xs.Pairwise (· < ·)) : (runs xs).Pairwise (fun r s => r.2 + 1 < s.1) := by
  induction xs with
  | nil => exact .nil
  | cons x xs ih =>
    obtain ⟨hx, hxs⟩ := pairwise_cons.mp h
    have hlater : ∀ r ∈ runs xs, x < r.1 := fun r hr => hx r.1 (mem_iff_runs.mpr ⟨r, hr, Int.le_refl _, runs_le xs r hr⟩)
    have hapart := ih hxs
    unfold runs
    split
    · simp
    · rename_i a b rest heq
      rw [heq] at hapart hlater
      obtain ⟨hfirst, hrest⟩ := pairwise_cons.mp hapart
      split
      · exact pairwise_cons.mpr ⟨hfirst, hrest⟩
      · rename_i hgap
        have hab : a ≤ b := runs_le xs (a, b) (by simp [heq])
        have hxa : x < a := hlater (a, b) (by simp)
        refine pairwise_cons.mpr ⟨fun r hr => ?_, hapart⟩
        rcases mem_cons.mp hr with rfl | hr
        · show x + 1 < a
          omega
        · have := hfirst r hr
          omega

lemma runs_increasing (h : xs.Pairwise (· < ·)) : (runs xs).Pairwise (fun r s => r.2 < s.1) :=
  (runs_apart h).imp fun hrs => by omega

lemma runs_eq_or_apart (h : xs.Pairwise (· < ·)) : ∀ r ∈ runs xs, ∀ s ∈ runs xs, r = s ∨ r.2 + 1 < s.1 ∨ s.2 + 1 < r.1 := by
  have hsymm : Std.Symm (fun r s : Int × Int => r.2 + 1 < s.1 ∨ s.2 + 1 < r.1) := ⟨fun _ _ => Or.symm⟩
  have hapart : (runs xs).Pairwise (fun r s => r.2 + 1 < s.1 ∨ s.2 + 1 < r.1) := (runs_apart h).imp .inl
  intro r hr s hs
  by_cases hrs : r = s
  · exact .inl hrs
  · exact .inr (hapart.forall hr hs hrs)

lemma isRun_of_mem_runs (h : xs.Pairwise (· < ·)) (hr : r ∈ runs xs) : IsRun {n | n ∈ xs} r := by
  have hle := runs_le xs r hr
  refine ⟨hle, fun n h1 h2 => mem_iff_runs.mpr ⟨r, hr, h1, h2⟩, fun hmem => ?_, fun hmem => ?_⟩
  all_goals
    obtain ⟨s, hs, h1, h2⟩ := mem_iff_runs.mp hmem
    rcases runs_eq_or_apart h r hr s hs with rfl | hrs | hrs <;> omega

lemma IsRun.eq {s : Set Int} {t : Int × Int} (hr : IsRun s r) (ht : IsRun s t) (h1 : t.1 ≤ r.1) (h2 : r.1 ≤ t.2) : r = t := by
  have hfirst : t.1 = r.1 := by
    by_contra hne
    exact hr.left (ht.mem _ (by omega) (by omega))
  have hlast : r.2 = t.2 := by
    rcases Int.lt_trichotomy r.2 t.2 with hlt | heq | hlt
    · exact absurd (ht.mem _ (by have := hr.le; omega) (by omega)) hr.right
    · exact heq
    · exact absurd (hr.mem _ (by have := ht.le; omega) (by omega)) ht.right
  exact Prod.ext hfirst.symm hlast

/-- The runs that are found are all runs of the set of numbers. -/
lemma mem_runs (h : xs.Pairwise (· < ·)) : r ∈ runs xs ↔ IsRun {n | n ∈ xs} r := by
  refine ⟨isRun_of_mem_runs h, fun hr => ?_⟩
  obtain ⟨t, ht, h1, h2⟩ := mem_iff_runs.mp (hr.mem r.1 (Int.le_refl _) hr.le)
  exact hr.eq (isRun_of_mem_runs h ht) h1 h2 ▸ ht

/-- There is one run exactly if the numbers lie between two ends without a gap. -/
lemma runs_eq_singleton (h : xs.Pairwise (· < ·)) {a b : Int} (hab : a ≤ b) :
    runs xs = [(a, b)] ↔ ∀ n, n ∈ xs ↔ a ≤ n ∧ n ≤ b := by
  constructor
  · intro hruns n
    rw [mem_iff_runs, hruns]
    simp
  · intro hmem
    have hall : ∀ r ∈ runs xs, r = (a, b) := by
      intro r hr
      have hrun := (mem_runs h).mp hr
      obtain ⟨h1, h2⟩ := (hmem _).mp (hrun.mem r.1 (Int.le_refl _) hrun.le)
      refine hrun.eq ⟨hab, fun n h1 h2 => (hmem n).mpr ⟨h1, h2⟩, fun hx => ?_, fun hx => ?_⟩ h1 h2
      all_goals
        have := (hmem _).mp hx
        simp only at this
        omega
    obtain ⟨r, hr, _⟩ := mem_iff_runs.mp ((hmem a).mpr ⟨Int.le_refl a, hab⟩)
    match hruns : runs xs with
    | [] => simp [hruns] at hr
    | [s] => rw [hall s (by simp [hruns])]
    | s :: t :: rest =>
      have hgap := runs_increasing h
      rw [hruns] at hgap
      have hst : s.2 < t.1 := rel_of_pairwise_cons hgap (by simp)
      rw [hall s (by simp [hruns]), hall t (by simp [hruns])] at hst
      omega

/-! ## From one beginning to the next -/

/-- The places at which a run begins, but for the first. -/
def cuts : List Int → List Nat
  | [] => []
  | [_] => []
  | x :: y :: xs => (if x = y - 1 then [] else [1]) ++ (cuts (y :: xs)).map (· + 1)

def nexts : List Nat → List (Nat × Option Nat)
  | [] => []
  | [c] => [(c, none)]
  | c :: d :: rest => (c, some d) :: nexts (d :: rest)

/-- The first and last number from one place up to another, or to the end. -/
def span : Nat × Option Nat → Int × Int
  | (c, none) => (v.getD c 0, v.getLastD 0)
  | (c, some d) => (v.getD c 0, v.getD (d - 1) 0)

/-- What lies between each place and the next. -/
def spans (places : List Nat) : List (Int × Int) := (nexts places).map (span v)

lemma spans_cons (c d : Nat) (rest : List Nat) :
    spans v (c :: d :: rest) = (v.getD c 0, v.getD (d - 1) 0) :: spans v (d :: rest) := rfl

lemma mem_nexts {c : Nat} {d : Option Nat} : ∀ {ps : List Nat}, (c, d) ∈ nexts ps → c ∈ ps ∧ ∀ e, d = some e → e ∈ ps.tail
  | [], h => by simp [nexts] at h
  | [_], h => by simp_all [nexts]
  | x :: y :: ps, h => by
    rcases mem_cons.mp h with heq | h
    · cases heq
      simp
    · obtain ⟨hc, hd⟩ := mem_nexts h
      exact ⟨mem_cons_of_mem x hc, fun e he => mem_of_mem_tail (hd e he)⟩

lemma cuts_eq : ∀ (v : List Int), ((range (v.length - 1)).filter (fun k =>
    v.getD k 0 != v.getD (k + 1) 0 - 1)).map (· + 1) = cuts v
  | [] => rfl
  | [_] => rfl
  | x :: y :: xs => by
    have ih := cuts_eq (y :: xs)
    simp only [length_cons, Nat.add_sub_cancel] at ih ⊢
    rw [range_succ_eq_map, filter_cons, filter_map, cuts, ← ih]
    by_cases hxy : x = y - 1 <;> simp [hxy, Function.comp_def]

lemma cuts_pos : ∀ (v : List Int), ∀ c ∈ cuts v, 0 < c
  | [] => by simp [cuts]
  | [_] => by simp [cuts]
  | x :: y :: xs => by
    intro c hc
    rw [cuts, mem_append] at hc
    rcases hc with hc | hc
    · split at hc <;> simp_all
    · obtain ⟨d, _, rfl⟩ := mem_map.mp hc
      omega

lemma cuts_lt : ∀ (v : List Int), ∀ c ∈ cuts v, c < v.length
  | [] => by simp [cuts]
  | [_] => by simp [cuts]
  | x :: y :: xs => by
    intro c hc
    rw [cuts, mem_append] at hc
    rcases hc with hc | hc
    · split at hc <;> simp_all
    · obtain ⟨d, hd, rfl⟩ := mem_map.mp hc
      simpa using cuts_lt (y :: xs) d hd

lemma spans_shift (x : Int) {v : List Int} (hv : v ≠ []) : ∀ (ps : List Nat), (∀ d ∈ ps.tail, 0 < d) →
    spans (x :: v) (ps.map (· + 1)) = spans v ps
  | [], _ => rfl
  | [c], _ => by
    obtain ⟨y, v, rfl⟩ := exists_cons_of_ne_nil hv
    simp [spans, nexts, span]
  | c :: d :: rest, h => by
    have hd : 0 < d := h d (by simp)
    have hrest : ∀ e ∈ (d :: rest).tail, 0 < e := fun e he => h e (by simp at he ⊢; exact .inr he)
    obtain ⟨d, rfl⟩ : ∃ e, d = e + 1 := ⟨d - 1, by omega⟩
    have ih := spans_shift x hv ((d + 1) :: rest) hrest
    simp only [map_cons] at ih ⊢
    simp only [spans_cons, getD_cons_succ, Nat.add_sub_cancel, ih]

/-- With a mark at its end, a list has its runs from one beginning to the next, and then the mark. -/
lemma spans_cuts : ∀ (xs : List Int), (∀ n ∈ xs, 0 ≤ n) → spans (xs ++ [-1]) (0 :: cuts (xs ++ [-1])) = runs xs ++ [(-1, -1)]
  | [], _ => rfl
  | [x], h => by
    have hx : x ≠ -2 := by
      have := h x (by simp)
      omega
    simp [cuts, spans, nexts, span, runs, hx]
  | x :: y :: xs, h => by
    have ih := spans_cuts (y :: xs) (fun n hn => h n (mem_cons_of_mem x hn))
    obtain ⟨b, rest, hruns⟩ := runs_cons y xs
    have hpos := cuts_pos (y :: xs ++ [-1])
    have hshift : ∀ ps : List Nat, (∀ d ∈ ps.tail, 0 < d) →
        spans (x :: y :: xs ++ [-1]) (ps.map (· + 1)) = spans (y :: xs ++ [-1]) ps :=
      spans_shift x (by simp)
    rw [runs_cons_next y xs hruns]
    rw [hruns] at ih
    by_cases hxy : x + 1 = y
    · -- the list before `x` begins with a run that `x` makes longer
      have hcuts : cuts (x :: y :: xs ++ [-1]) = (cuts (y :: xs ++ [-1])).map (· + 1) := by
        simp only [cons_append, cuts]
        rw [if_pos (by omega), nil_append]
      rw [if_pos hxy, hcuts]
      cases hc : cuts (y :: xs ++ [-1]) with
      | nil =>
        rw [hc] at ih
        simp [spans, nexts, span] at ih
      | cons d ds =>
        rw [hc] at ih hpos
        have hd := hpos d (by simp)
        obtain ⟨d, rfl⟩ : ∃ e, d = e + 1 := ⟨d - 1, by omega⟩
        have htail := hshift ((d + 1) :: ds) (fun e he => hpos e (.tail _ he))
        simp only [spans_cons, map_cons, cons_append, cons.injEq, Prod.mk.injEq, Nat.add_sub_cancel,
          getD_cons_succ, getD_cons_zero, true_and] at ih htail ⊢
        exact ⟨ih.1, htail.trans ih.2⟩
    · have hcuts : 0 :: cuts (x :: y :: xs ++ [-1]) = 0 :: (0 :: cuts (y :: xs ++ [-1])).map (· + 1) := by
        simp only [cons_append, cuts]
        rw [if_neg (by omega)]
        rfl
      have htail := hshift (0 :: cuts (y :: xs ++ [-1])) hpos
      rw [if_neg hxy, hcuts, map_cons, spans_cons, ← map_cons (f := (· + 1)), htail, ih]
      rfl

end SurveyGraph
