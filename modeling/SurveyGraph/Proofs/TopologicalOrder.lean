import SurveyGraph.Proofs.Reach
/-!
# Topological order

`topologicalOrder` takes nodes off the graph generation by generation, counting the arcs that are left into each. The order
begins at a node without arcs into it, holds every node, and puts a node before all that its arcs lead to
(`topologicalOrder_spec`).

The invariant of a generation (`Generation`): among the nodes still on the graph, the count of a node that waits is no less
than the number of arcs into it, and no arc enters a node that is ready.
-/
open List

namespace SurveyGraph.Digraph

variable {σ : Type} {g : Digraph σ} {ready : List Nat} {waiting : List (Nat × Nat)} (w : List (Nat × Nat))

def arcsInto (g : Digraph σ) (sources : List Nat) (n : Nat) : Nat :=
  g.arcs.countP (fun e => e.dst == n && sources.contains e.src)

/-! ## Counting off -/

lemma keys_filter_perm {w : List (Nat × Nat)} {n k : Nat} (hnd : (w.map (·.1)).Nodup) (hn : (n, k) ∈ w) :
    (n :: (w.filter (·.1 != n)).map (·.1)).Perm (w.map (·.1)) := by
  induction w with
  | nil => simp at hn
  | cons p w ih =>
    simp only [map_cons, nodup_cons] at hnd
    by_cases hp : p.1 = n
    · have hrest : w.filter (·.1 != n) = w := by
        refine filter_eq_self.mpr fun q hq => ?_
        have : q.1 ≠ n := fun h => hnd.1 (hp ▸ h ▸ mem_map_of_mem hq)
        simpa using this
      simp [hp, hrest]
    · have hn' : (n, k) ∈ w := by
        rcases mem_cons.mp hn with h | h
        · exact absurd (by rw [← h]) hp
        · exact h
      have := ih hnd.2 hn'
      simp only [bne_iff_ne, ne_eq, hp, not_false_eq_true, filter_cons_of_pos, map_cons]
      exact (Perm.swap _ _ _).trans (this.cons _)

lemma keys_decrease (n k : Nat) : (w.map (fun p => if p.1 == n then (n, k) else p)).map (·.1) = w.map (·.1) := by
  rw [map_map]
  refine map_congr_left fun p _ => ?_
  by_cases hp : p.1 = n <;> simp [hp]

lemma countOff_cases (next : List Nat) (n : Nat) : countOff (w, next) n = (w, next) ∨
    ((n, 1) ∈ w ∧ countOff (w, next) n = (w.filter (·.1 != n), next ++ [n])) ∨ ∃ k, (n, k + 2) ∈ w ∧
      countOff (w, next) n = (w.map (fun p => if p.1 == n then (n, k + 1) else p), next) := by
  have hmem : ∀ k, w.lookup n = some k → (n, k) ∈ w := by
    intro k hk
    obtain ⟨l₁, l₂, rfl, _⟩ := lookup_eq_some_iff.mp hk
    simp
  rcases hl : w.lookup n with _ | _ | _ | k
  · exact .inl (by simp [countOff, hl])
  · exact .inl (by simp [countOff, hl])
  · exact .inr (.inl ⟨hmem 1 hl, by simp [countOff, hl]⟩)
  · exact .inr (.inr ⟨k, hmem _ hl, by simp [countOff, hl]⟩)

/-- Counting off arcs: the nodes that came off and those that wait are those that waited; the former
had no more arcs than were counted, and the others lost no more. -/
lemma countOff_foldl (arcs : List Nat) : ∀ (w : List (Nat × Nat)) (next : List Nat), (w.map (·.1)).Nodup →
    ∃ off, (arcs.foldl countOff (w, next)).2 = next ++ off ∧
      (off ++ (arcs.foldl countOff (w, next)).1.map (·.1)).Perm (w.map (·.1)) ∧
      (∀ y k', (y, k') ∈ (arcs.foldl countOff (w, next)).1 → ∃ k, (y, k) ∈ w ∧ k ≤ k' + arcs.count y) ∧
      ∀ y ∈ off, ∃ k, (y, k) ∈ w ∧ k ≤ arcs.count y := by
  induction arcs with
  | nil =>
    intro w next _
    exact ⟨[], by simp, by simp, fun y k h => ⟨k, h, by simp⟩, by simp⟩
  | cons n arcs ih =>
    intro w next hnd
    simp only [foldl_cons]
    have hcount : ∀ y, arcs.count y ≤ (n :: arcs).count y := fun y => count_le_count_cons
    rcases countOff_cases w next n with hs | ⟨hmem, hs⟩ | ⟨k, hmem, hs⟩
    · obtain ⟨off, h1, h2, h3, h4⟩ := ih w next hnd
      rw [hs]
      refine ⟨off, h1, h2, fun y k' hy => ?_, fun y hy => ?_⟩
      · obtain ⟨k, hk, hle⟩ := h3 y k' hy
        exact ⟨k, hk, by have := hcount y; omega⟩
      · obtain ⟨k, hk, hle⟩ := h4 y hy
        exact ⟨k, hk, by have := hcount y; omega⟩
    · have hperm := keys_filter_perm hnd hmem
      have hnd' : ((w.filter (·.1 != n)).map (·.1)).Nodup := (hperm.nodup_iff.mpr hnd).of_cons
      obtain ⟨off, h1, h2, h3, h4⟩ := ih (w.filter (·.1 != n)) (next ++ [n]) hnd'
      rw [hs]
      refine ⟨n :: off, by simp [h1], (Perm.cons n h2).trans hperm, fun y k' hy => ?_, fun y hy => ?_⟩
      · obtain ⟨k, hk, hle⟩ := h3 y k' hy
        exact ⟨k, mem_of_mem_filter hk, by have := hcount y; omega⟩
      · rcases mem_cons.mp hy with rfl | hy
        · exact ⟨1, hmem, by simp⟩
        · obtain ⟨k, hk, hle⟩ := h4 y hy
          exact ⟨k, mem_of_mem_filter hk, by have := hcount y; omega⟩
    · have hkeys := keys_decrease w n (k + 1)
      obtain ⟨off, h1, h2, h3, h4⟩ := ih (w.map (fun p => if p.1 == n then (n, k + 1) else p)) next (hkeys ▸ hnd)
      -- a count in the new table is one in the old table, less one for `n`
      have hold : ∀ y j, (y, j) ∈ w.map (fun p => if p.1 == n then (n, k + 1) else p) →
          ∃ i, (y, i) ∈ w ∧ i + arcs.count y ≤ j + (n :: arcs).count y := by
        intro y j hy
        obtain ⟨p, hp, he⟩ := mem_map.mp hy
        by_cases hpn : p.1 = n
        · simp only [hpn, beq_self_eq_true, if_true, Prod.mk.injEq] at he
          obtain ⟨rfl, rfl⟩ := he
          exact ⟨k + 2, hmem, by simp; omega⟩
        · simp only [beq_iff_eq, hpn, if_false] at he
          subst he
          exact ⟨j, hp, by have := hcount y; omega⟩
      rw [hs]
      refine ⟨off, h1, hkeys ▸ h2, fun y k' hy => ?_, fun y hy => ?_⟩
      · obtain ⟨j, hj, hle⟩ := h3 y k' hy
        obtain ⟨i, hi, hle'⟩ := hold y j hj
        exact ⟨i, hi, by omega⟩
      · obtain ⟨j, hj, hle⟩ := h4 y hy
        obtain ⟨i, hi, hle'⟩ := hold y j hj
        exact ⟨i, hi, by omega⟩

/-! ## Generations -/

lemma arcsInto_append {l₁ l₂ : List Nat} (hd : ∀ x ∈ l₁, x ∉ l₂) (y : Nat) :
    g.arcsInto (l₁ ++ l₂) y = g.arcsInto l₁ y + g.arcsInto l₂ y := by
  unfold arcsInto
  induction g.arcs with
  | nil => rfl
  | cons e es ih =>
    simp only [countP_cons, ih]
    by_cases hy : e.dst = y
    · by_cases h1 : e.src ∈ l₁
      · simp [hy, h1, hd _ h1]
        omega
      · by_cases h2 : e.src ∈ l₂ <;> simp [hy, h1, h2]
        omega
    · simp [hy]

lemma arcsInto_pos {sources : List Nat} {x y : Nat} (hx : x ∈ sources) (h : g.Arrow x y) : 0 < g.arcsInto sources y := by
  obtain ⟨e, he, rfl, rfl⟩ := h
  exact countP_pos_iff.mpr ⟨e, he, by simpa using hx⟩

lemma count_flatMap_successors (hnd : ready.Nodup) (y : Nat) : (ready.flatMap g.successors).count y = g.arcsInto ready y := by
  induction ready with
  | nil => simp [arcsInto]
  | cons r ready ih =>
    rw [nodup_cons] at hnd
    have hone : (g.successors r).count y = g.arcsInto [r] y := by
      unfold arcsInto successors outArcs
      induction g.arcs with
      | nil => rfl
      | cons e es ih =>
        by_cases hr : e.src = r
        · by_cases hy : e.dst = y <;> simp [hr, hy, ih]
        · simp [hr, ih]
    rw [flatMap_cons, count_append, hone, ih hnd.2, ← arcsInto_append (by simpa using hnd.1)]
    rfl

/-- Between two generations. Nodes that are ready or wait are still on the graph. -/
structure Generation (g : Digraph σ) (waiting : List (Nat × Nat)) (ready : List Nat) : Prop where
  nodup : (ready ++ waiting.map (·.1)).Nodup
  counted : ∀ y k, (y, k) ∈ waiting → g.arcsInto (ready ++ waiting.map (·.1)) y ≤ k
  free : ∀ y ∈ ready, g.arcsInto (ready ++ waiting.map (·.1)) y = 0
  inside : ∀ x ∈ ready ++ waiting.map (·.1), ∀ y, g.Arrow x y → y ∈ ready ++ waiting.map (·.1)

lemma Generation.waits (h : g.Generation waiting ready) {x y : Nat}
    (hx : x ∈ ready ++ waiting.map (·.1)) (hxy : g.Arrow x y) : y ∈ waiting.map (·.1) := by
  rcases mem_append.mp (h.inside x hx y hxy) with hy | hy
  · have := arcsInto_pos hx hxy
    rw [h.free y hy] at this
    omega
  · exact hy

lemma Generation.next (h : g.Generation waiting ready) : let s := (ready.flatMap g.successors).foldl countOff (waiting, [])
    g.Generation s.1 s.2 ∧ (s.2 ++ s.1.map (·.1)).Perm (waiting.map (·.1)) := by
  intro s
  obtain ⟨hr, hw, hdisj⟩ := nodup_append.mp h.nodup
  obtain ⟨off, h1, h2, h3, h4⟩ := countOff_foldl (ready.flatMap g.successors) waiting [] hw
  have hoff : s.2 = off := by simpa using h1
  have hperm : (s.2 ++ s.1.map (·.1)).Perm (waiting.map (·.1)) := hoff ▸ h2
  have hsplit : ∀ y, g.arcsInto (ready ++ waiting.map (·.1)) y =
      (ready.flatMap g.successors).count y + g.arcsInto (s.2 ++ s.1.map (·.1)) y := by
    intro y
    rw [arcsInto_append (fun x hx hx' => hdisj x hx x hx' rfl), count_flatMap_successors hr]
    congr 1
    refine countP_congr fun e _ => ?_
    simp only [Bool.and_eq_true, beq_iff_eq, contains_iff_mem, hperm.mem_iff]
  refine ⟨⟨hperm.nodup_iff.mpr hw, fun y k' hy => ?_, fun y hy => ?_, fun x hx y hxy => ?_⟩, hperm⟩
  · obtain ⟨k, hk, hle⟩ := h3 y k' hy
    have := h.counted y k hk
    have := hsplit y
    omega
  · obtain ⟨k, hk, hle⟩ := h4 y (hoff ▸ hy)
    have := h.counted y k hk
    have := hsplit y
    omega
  · rw [hperm.mem_iff] at hx ⊢
    exact h.waits (mem_append_right _ hx) hxy

/-- If nothing is left waiting, everything came off, each node before all that its arcs lead to. -/
lemma generations_spec : ∀ (fuel : Nat) (waiting : List (Nat × Nat)) (ready : List Nat),
    g.Generation waiting ready → (ready = [] ∨ waiting.length < fuel) → (g.generations fuel waiting ready).2 = [] →
    (∀ x, x ∈ (g.generations fuel waiting ready).1 ↔ x ∈ ready ++ waiting.map (·.1)) ∧
    ∀ pre x post, (g.generations fuel waiting ready).1 = pre ++ x :: post → ∀ y, g.Arrow x y → y ∈ post := by
  intro fuel
  induction fuel with
  | zero =>
    intro waiting ready h hf hleft
    simp only [generations] at hleft ⊢
    obtain rfl : ready = [] := hf.resolve_right (by omega)
    simp [hleft]
  | succ fuel ih =>
    intro waiting ready h hf hleft
    cases ready with
    | nil =>
      simp only [generations] at hleft ⊢
      simp [hleft]
    | cons r rs =>
      have hf : waiting.length < fuel + 1 := hf.resolve_left (by simp)
      obtain ⟨hnext, hperm⟩ := h.next
      simp only [generations] at hleft ⊢
      generalize (((r :: rs).flatMap g.successors).foldl countOff (waiting, [])) = s at hleft hnext hperm ⊢
      have hlen := hperm.length_eq
      simp only [length_append, length_map] at hlen
      have hfuel : s.2 = [] ∨ s.1.length < fuel := by
        by_cases hs : s.2 = []
        · exact .inl hs
        · have := length_pos_iff.mpr hs
          exact .inr (by omega)
      obtain ⟨hall, hord⟩ := ih s.1 s.2 hnext hfuel hleft
      -- what the nodes of this generation lead to comes off in a later one
      have hlater : ∀ y, y ∈ (g.generations fuel s.1 s.2).1 ↔ y ∈ waiting.map (·.1) :=
        fun y => (hall y).trans hperm.mem_iff
      refine ⟨fun x => ?_, fun pre x post heq y hxy => ?_⟩
      · rw [mem_append, mem_append, hlater]
      · rcases append_eq_append_iff.mp heq with ⟨l, rfl, hl⟩ | ⟨l, hl, hr⟩
        · exact hord l x post hl y hxy
        · cases l with
          | nil =>
            exact hord [] x post hr.symm y hxy
          | cons z l =>
            obtain ⟨rfl, rfl⟩ := cons_eq_cons.mp hr
            have hx : x ∈ r :: rs := hl ▸ by simp
            exact mem_append_right _ ((hlater y).mpr (h.waits (mem_append_left _ hx) hxy))

lemma arcsInto_le (sources : List Nat) (y : Nat) : g.arcsInto sources y ≤ (g.inArcs y).length := by
  rw [inArcs, ← countP_eq_length_filter]
  exact countP_mono_left fun e _ h => by simp_all

/-- At first the nodes without arcs into them are ready and the others wait. -/
lemma generation_init (hc : g.Closed) (hnd : g.nodes.Nodup) : let degrees := g.nodes.map (fun n => (n, (g.inArcs n).length))
    g.Generation (degrees.filter (·.2 != 0)) ((degrees.filter (·.2 == 0)).map (·.1)) ∧
    (∀ y ∈ (degrees.filter (·.2 == 0)).map (·.1), g.inArcs y = []) ∧
    ∀ x, x ∈ (degrees.filter (·.2 == 0)).map (·.1) ++ (degrees.filter (·.2 != 0)).map (·.1) ↔ x ∈ g.nodes := by
  intro degrees
  have hready : (degrees.filter (·.2 == 0)).map (·.1) = g.nodes.filter (fun n => (g.inArcs n).length == 0) := by
    simp [degrees, filter_map, Function.comp_def]
  have hwait : (degrees.filter (·.2 != 0)).map (·.1) = g.nodes.filter (fun n => (g.inArcs n).length != 0) := by
    simp [degrees, filter_map, Function.comp_def]
  have hfree : ∀ y ∈ (degrees.filter (·.2 == 0)).map (·.1), g.inArcs y = [] := by
    intro y hy
    rw [hready, mem_filter] at hy
    simpa using hy.2
  have hall : ∀ x, x ∈ (degrees.filter (·.2 == 0)).map (·.1) ++ (degrees.filter (·.2 != 0)).map (·.1) ↔ x ∈ g.nodes := by
    intro x
    rw [hready, hwait, mem_append, mem_filter]
    by_cases h0 : (g.inArcs x).length = 0 <;> simp [h0]
  refine ⟨⟨?_, fun y k hy => ?_, fun y hy => ?_, fun x _ y hxy => (hall y).mpr (hc.arrow hxy).2⟩, hfree, hall⟩
  · rw [hready, hwait]
    refine nodup_append.mpr ⟨hnd.filter _, hnd.filter _, ?_⟩
    rintro a ha b hb rfl
    simp_all
  · obtain ⟨n, _, hn⟩ := mem_map.mp (mem_of_mem_filter hy)
    cases hn
    exact arcsInto_le _ _
  · have := arcsInto_le (g := g) ((degrees.filter (·.2 == 0)).map (·.1) ++ (degrees.filter (·.2 != 0)).map (·.1)) y
    rw [hfree y hy] at this
    simpa using this

/-- The order begins where no arc ends, holds exactly the nodes, and follows the arcs. -/
lemma topologicalOrder_spec (hc : g.Closed) (hnd : g.nodes.Nodup) {order : List Nat} (h : g.topologicalOrder = .ok order) :
    (∀ a, order.head? = some a → ∀ x, ¬ g.Arrow x a) ∧ (∀ x, x ∈ order ↔ x ∈ g.nodes) ∧
    ∀ pre x post, order = pre ++ x :: post → ∀ y, g.Arrow x y → y ∈ post := by
  obtain ⟨hgen, hfree, hall⟩ := generation_init hc hnd
  simp only [topologicalOrder] at h
  generalize hd : g.nodes.map (fun n => (n, (g.inArcs n).length)) = degrees at h hgen hfree hall
  split at h
  · rename_i hleft
    cases h
    have hlen : (degrees.filter (·.2 != 0)).length < g.nodes.length + 1 := by
      have := length_filter_le (·.2 != 0) degrees
      have : degrees.length = g.nodes.length := by rw [← hd, length_map]
      omega
    obtain ⟨h1, h2⟩ := generations_spec _ _ _ hgen (.inr hlen) (by simpa using hleft)
    refine ⟨fun a ha x hxa => ?_, fun x => (h1 x).trans (hall x), h2⟩
    have ha' : a ∈ (degrees.filter (·.2 == 0)).map (·.1) := by
      generalize (degrees.filter (·.2 == 0)).map (·.1) = ready at ha
      cases ready with
      | nil => simp [generations] at ha
      | cons r rs =>
        simp only [generations, cons_append, head?_cons, Option.some.injEq] at ha
        simp [ha]
    obtain ⟨e, he, _, hea⟩ := hxa
    have hmem : e ∈ g.inArcs a := mem_filter.mpr ⟨he, by simpa using hea⟩
    rw [hfree a ha'] at hmem
    simp at hmem
  · cases h

end SurveyGraph.Digraph
