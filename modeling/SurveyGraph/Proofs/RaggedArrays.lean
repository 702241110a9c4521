import SurveyGraph.Proofs.ExactNumbers
import SurveyGraph.Proofs.Outcome
import SurveyGraph.Read.Result
/-!
# Ragged arrays

Nested lists of whole numbers that are even throughout have a shape. Lists of different shapes but as many axes are put
together in one array, each in the corner of its row: a cell is hidden exactly where the list does not reach, and holds its
number elsewhere (`ragged_cells`), whether cells are whole or floating point numbers.
-/
open List

namespace SurveyGraph

/-- Nested lists that are even throughout and hold whole numbers within floating point numbers. -/
inductive Value.Rectangular : List Nat → Value → Prop
  | leaf {n : Int} (hsmall : n.natAbs < 2 ^ 53) : Rectangular [] (.int n)
  | node {shape : List Nat} {xs : List Value} (hempty : xs = [] → shape = []) (hxs : ∀ x ∈ xs, Rectangular shape x) :
    Rectangular (xs.length :: shape) (.list xs)

/-- What stands at a place of nested lists. -/
def Value.under? : List Nat → Value → Option Value
  | [], v => some v
  | i :: place, .list xs => xs[i]?.bind (under? place)
  | _ :: _, _ => none

namespace Result

open Value (Rectangular)

variable {α β : Type} {s shape whole place t : List Nat} {shapes : List (List Nat)} {v row : Value} {rows : List Value}
  {r k : Nat} {type : Cell} {f : α → List β} {xs : List α} (c : Cell)

/-- A place that an array of some shape has. -/
def Inside (place shape : List Nat) : Prop := Forall₂ (· < ·) place shape

def size : List Nat → Nat
  | [] => 1
  | n :: shape => n * size shape

lemma foldl_size (shape : List Nat) (k : Nat) : shape.foldl (· * ·) k = k * size shape := by
  induction shape generalizing k with
  | nil => simp [size]
  | cons n shape ih => rw [foldl_cons, ih, size, Nat.mul_assoc]

lemma length_flatMap (h : ∀ x ∈ xs, (f x).length = k) : (xs.flatMap f).length = xs.length * k := by
  induction xs with
  | nil => simp
  | cons x xs ih =>
    rw [flatMap_cons, length_append, h x (.head _), ih fun y hy => h y (mem_cons_of_mem x hy),
      length_cons, Nat.succ_mul, Nat.add_comm]

lemma getElem?_flatMap {i j : Nat} {x : α} (h : ∀ x ∈ xs, (f x).length = k)
    (hx : xs[i]? = some x) (hj : j < k) : (xs.flatMap f)[i * k + j]? = (f x)[j]? := by
  induction xs generalizing i with
  | nil => cases hx
  | cons y xs ih =>
    have hy := h y (.head _)
    rw [flatMap_cons]
    cases i with
    | zero =>
      cases hx
      rw [Nat.zero_mul, Nat.zero_add, getElem?_append_left (by omega)]
    | succ i =>
      rw [getElem?_append_right (by rw [Nat.succ_mul]; omega), ← ih (fun z hz => h z (mem_cons_of_mem y hz)) hx]
      congr 1
      rw [Nat.succ_mul]
      omega

lemma pieces_flatten {L : List (List α)} (h : ∀ l ∈ L, l.length = k) : Grid.pieces k L.length L.flatten = L := by
  induction L with
  | nil => rfl
  | cons l L ih =>
    have hl := h l (.head _)
    rw [flatten_cons, length_cons, Grid.pieces, take_left' hl, drop_left' hl,
      ih fun m hm => h m (mem_cons_of_mem l hm)]

/-! ## Nested lists -/

lemma sharedStart_eq {L : List (List Nat)} (h : ∀ t ∈ L, t = s) : Grid.sharedStart (s :: L) = s := by
  have hself : ∀ s : List Nat, ((s.zip s).takeWhile (fun p => p.1 == p.2)).map (·.1) = s := by
    intro s
    induction s with
    | nil => rfl
    | cons n s ih => simp [ih]
  induction L with
  | nil => rfl
  | cons t L ih =>
    obtain rfl := h t (.head _)
    rw [Grid.sharedStart, foldl_cons, hself]
    exact ih fun u hu => h u (.tail _ hu)

lemma shapesOf_eq (xs : List Value) : Grid.shapesOf xs = xs.map Grid.shapeOf := by
  induction xs with
  | nil => rfl
  | cons x xs ih => rw [Grid.shapesOf, ih, map_cons]

lemma shapeOf_rectangular (h : Rectangular s v) : Grid.shapeOf v = s := by
  induction h with
  | leaf => rfl
  | @node shape xs hempty hxs ih =>
    rw [Grid.shapeOf, shapesOf_eq]
    congr 1
    cases xs with
    | nil => exact (hempty rfl).symm
    | cons x xs =>
      rw [map_cons, ih x (.head _)]
      apply sharedStart_eq
      intro t ht
      obtain ⟨y, hy, rfl⟩ := mem_map.mp ht
      exact ih y (mem_cons_of_mem x hy)

lemma leaves_rectangular (h : Rectangular s v) : (Grid.leaves s.length v).length = size s ∧
    ∀ x ∈ Grid.leaves s.length v, ∃ n : Int, x = .int n ∧ n.natAbs < 2 ^ 53 := by
  induction h with
  | @leaf n hsmall => exact ⟨rfl, by simpa [Grid.leaves] using hsmall⟩
  | @node shape xs hempty hxs ih =>
    refine ⟨length_flatMap fun x hx => (ih x hx).1, ?_⟩
    intro y hy
    obtain ⟨x, hx, hy⟩ := mem_flatMap.mp hy
    exact (ih x hx).2 y hy

lemma getElem?_leaves (h : Rectangular s v) (hplace : Inside place s) : ∃ i < size s,
    (∀ k, (s.zip place).foldl along k = k * size s + i) ∧ (Grid.leaves s.length v)[i]? = v.under? place := by
  induction h generalizing place with
  | leaf =>
    cases hplace
    exact ⟨0, by decide, fun k => by simp [size], rfl⟩
  | @node shape xs hempty hxs ih =>
    cases hplace with
    | @cons a _ place _ ha hplace =>
    obtain ⟨x, hx⟩ : ∃ x, xs[a]? = some x := ⟨_, getElem?_eq_getElem ha⟩
    obtain ⟨i, hi, hfold, hleaf⟩ := ih x (mem_of_getElem? hx) hplace
    refine ⟨a * size shape + i, ?_, ?_, ?_⟩
    · calc a * size shape + i < (a + 1) * size shape := by rw [Nat.succ_mul]; omega
        _ ≤ xs.length * size shape := Nat.mul_le_mul_right _ ha
    · intro k
      have haxis : along k (xs.length, a) = k * xs.length + a := by
        by_cases hone : xs.length = 1
        · obtain rfl : a = 0 := by omega
          simp [along, hone]
        · simp [along, hone]
      rw [zip_cons_cons, foldl_cons, haxis, hfold, size]
      ring
    · change (xs.flatMap (Grid.leaves shape.length))[a * size shape + i]? = xs[a]?.bind (Value.under? place)
      rw [getElem?_flatMap (fun y hy => (leaves_rectangular (hxs y hy)).1) hx hi, hleaf, hx]
      rfl

/-- The types of cells that whole numbers have in arrays. -/
def Numeric : Prop := c = .int 64 ∨ c = .float 64

lemma numeric_widest {cs : List Cell} (h : ∀ c ∈ cs, Numeric c) : Numeric (Grid.widest cs) := by
  have hfold : ∀ {cs : List Cell} {c}, Numeric c → (∀ d ∈ cs, Numeric d) → Numeric (cs.foldl Grid.wider c) := by
    intro cs c hc hcs
    induction cs generalizing c with
    | nil => exact hc
    | cons d cs ih =>
      refine ih ?_ fun e he => hcs e (mem_cons_of_mem d he)
      rcases hc with rfl | rfl <;> rcases hcs d (.head _) with rfl | rfl
      · exact .inl rfl
      all_goals exact .inr rfl
  cases cs with
  | nil => exact .inr rfl
  | cons c cs => exact hfold (h c (.head _)) fun d hd => h d (mem_cons_of_mem c hd)

lemma widest_replicate (n : Nat) : Grid.widest (replicate (n + 1) c) = c := by
  have hself : Grid.wider c c = c := by
    cases c <;> simp [Grid.wider]
  change (replicate n c).foldl Grid.wider c = c
  induction n with
  | zero => rfl
  | succ n ih => rw [replicate_succ, foldl_cons, hself, ih]

/-- Lists of numbers as an array. Without any number the cells are floating point numbers. -/
lemma rowArray_rectangular (h : Rectangular s v) : ∃ c, Numeric c ∧ rowArray v = ⟨c, s, Grid.leaves s.length v⟩ := by
  have hleaf : ∀ x ∈ Grid.leaves s.length v,
      Grid.cellOf x = .int 64 ∧ (Grid.members? x).isSome = false ∧ Grid.castCell (.int 64) x = x := by
    intro x hx
    obtain ⟨n, rfl, hsmall⟩ := (leaves_rectangular h).2 x hx
    refine ⟨?_, rfl, rfl⟩
    have hlow : -9223372036854775808 ≤ n := by omega
    have hhigh : n < 9223372036854775808 := by omega
    simp [Grid.cellOf, hlow, hhigh]
  have hmembers : (Grid.leaves s.length v).any (fun l => (Grid.members? l).isSome) = false := by
    rw [any_eq_false]
    intro x hx
    simp [(hleaf x hx).2.1]
  have htypes : (Grid.leaves s.length v).map Grid.cellOf = replicate (Grid.leaves s.length v).length (.int 64) := by
    rw [← map_const']
    exact map_congr_left fun x hx => (hleaf x hx).1
  have hcast : (Grid.leaves s.length v).map (Grid.castCell (.int 64)) = Grid.leaves s.length v :=
    (map_congr_left fun x hx => (hleaf x hx).2.2).trans (map_id _)
  have hofNested : rowArray v = Grid.ofNested v := by
    cases h <;> rfl
  rw [hofNested, Grid.ofNested, shapeOf_rectangular h, hmembers, htypes]
  · cases hlength : (Grid.leaves s.length v).length with
    | zero =>
      rw [length_eq_zero_iff.mp hlength]
      exact ⟨.float 64, .inr rfl, rfl⟩
    | succ n =>
      rw [widest_replicate]
      exact ⟨.int 64, .inl rfl, congrArg (Grid.mk _ _) hcast⟩
  · rintro c shape cells rfl
    cases h

/-! ## The larger array -/

/-- The least shape that has room for all others. -/
structure Largest (shapes : List (List Nat)) (whole : List Nat) : Prop where
  room : ∀ s ∈ shapes, Forall₂ (· ≤ ·) s whole
  reached : ∀ k n : Nat, whole[k]? = some n → ∃ s ∈ shapes, s[k]? = some n

lemma zipWith_max (h : s.length = t.length) : (∀ u, Forall₂ (· ≤ ·) u s → Forall₂ (· ≤ ·) u (zipWith max s t)) ∧
    Forall₂ (· ≤ ·) t (zipWith max s t) ∧
    ∀ k n : Nat, (zipWith max s t)[k]? = some n → s[k]? = some n ∨ t[k]? = some n := by
  induction s generalizing t with
  | nil =>
    obtain rfl := length_eq_zero_iff.mp h.symm
    exact ⟨fun u hu => hu, .nil, fun k n hn => .inl hn⟩
  | cons a s ih =>
    obtain ⟨b, t, rfl⟩ := exists_cons_of_length_eq_add_one h.symm
    obtain ⟨hleft, hright, hreached⟩ := ih (Nat.succ.inj h)
    refine ⟨?_, .cons (Nat.le_max_right a b) hright, ?_⟩
    · rintro _ (_ | ⟨hc, hu⟩)
      exact .cons (hc.trans (Nat.le_max_left a b)) (hleft _ hu)
    · intro k n hn
      cases k with
      | zero =>
        cases hn
        exact (Nat.le_total b a).imp (fun hba => congrArg some (Nat.max_eq_left hba).symm)
          fun hab => congrArg some (Nat.max_eq_right hab).symm
      | succ k => exact hreached k n hn

lemma Largest.largerShape (h : Largest shapes whole) (ht : whole.length = t.length) :
    Largest (shapes ++ [t]) (largerShape whole t) := by
  obtain ⟨hwhole, hroom, hreached⟩ := zipWith_max ht
  have hlarger : Result.largerShape whole t = zipWith max whole t := by
    simp [Result.largerShape, ht]
  rw [hlarger]
  constructor
  · intro s hs
    rcases mem_append.mp hs with hs | hs
    · exact hwhole s (h.room s hs)
    · obtain rfl := mem_singleton.mp hs
      exact hroom
  · intro k n hn
    rcases hreached k n hn with hn | hn
    · obtain ⟨s, hs, hk⟩ := h.reached k n hn
      exact ⟨s, mem_append_left _ hs, hk⟩
    · exact ⟨t, by simp, hn⟩

lemma Largest.foldl {rest : List (List Nat)} (h : Largest shapes whole) (hrest : ∀ t ∈ rest, t.length = whole.length) :
    Largest (shapes ++ rest) (rest.foldl Result.largerShape whole) := by
  induction rest generalizing shapes whole with
  | nil => simpa using h
  | cons t rest ih =>
    have ht := hrest t (.head _)
    have hlength : (Result.largerShape whole t).length = whole.length := by
      simp [Result.largerShape, ht]
    rw [append_cons]
    exact ih (h.largerShape ht.symm) fun u hu => (hrest u (mem_cons_of_mem t hu)).trans hlength.symm

lemma spreads_self (s : List Nat) : spreads s s = true := by
  have hself : ∀ s : List Nat, (s.zip s).all (fun p => p.1 == p.2 || p.1 == 1) = true := by
    intro s
    induction s with
    | nil => rfl
    | cons n s ih => simpa using ih
  simpa [spreads] using hself s

lemma within_iff (h : place.length = s.length) : within place s = true ↔ Inside place s := by
  rw [Inside, forall₂_iff_zip, within, all_eq_true]
  constructor
  · intro hall
    exact ⟨h, fun hmem => of_decide_eq_true (hall _ hmem)⟩
  · rintro ⟨-, hall⟩ ⟨i, n⟩ hmem
    exact decide_eq_true (hall hmem)

lemma length_places (s : List Nat) : (places s).length = size s := by
  induction s with
  | nil => rfl
  | cons n s ih =>
    rw [places, length_flatMap fun i _ => by rw [length_map, ih], length_range, size]

lemma length_of_mem_places (h : place ∈ places s) : place.length = s.length := by
  induction s generalizing place with
  | nil => simpa [places] using h
  | cons n s ih =>
    obtain ⟨i, -, h⟩ := mem_flatMap.mp h
    obtain ⟨rest, hrest, rfl⟩ := mem_map.mp h
    rw [length_cons, ih hrest, length_cons]

lemma zipWith_min (h : Forall₂ (· ≤ ·) s whole) : zipWith min s whole ++ whole.drop s.length = s := by
  induction h with
  | nil => rfl
  | cons ha _ ih =>
    rw [zipWith_cons_cons, length_cons, drop_succ_cons, cons_append, ih, Nat.min_eq_left ha]

lemma spreadCell_rectangular {c : Cell} (h : Rectangular s v) (hplace : Inside place s) :
    ∃ n : Int, n.natAbs < 2 ^ 53 ∧ v.under? place = some (.int n) ∧
      spreadCell ⟨c, s, Grid.leaves s.length v⟩ place = some (.int n) := by
  obtain ⟨hlength, hints⟩ := leaves_rectangular h
  obtain ⟨i, hi, hfold, hleaf⟩ := getElem?_leaves h hplace
  obtain ⟨x, hx⟩ : ∃ x, (Grid.leaves s.length v)[i]? = some x := ⟨_, getElem?_eq_getElem (hlength ▸ hi)⟩
  obtain ⟨n, rfl, hsmall⟩ := hints x (mem_of_getElem? hx)
  refine ⟨n, hsmall, hleaf.symm.trans hx, ?_⟩
  have hown : place.drop (place.length - s.length) = place := by
    rw [hplace.length_eq, Nat.sub_self, drop_zero]
  have hat : (s.zip place).foldl along 0 = i := by
    rw [hfold, Nat.zero_mul, Nat.zero_add]
  simp only [spreadCell, hown, hat, hx]

/-- What stands at a place of a larger array with nested lists in its corner. -/
def cornerCell (type : Cell) (s : List Nat) (v : Value) (place : List Nat) : Value :=
  if within place s then ((v.under? place).map (Grid.castCell type)).getD .masked else .masked

lemma corner_ok (h : Rectangular s v) (hs : Forall₂ (· ≤ ·) s whole) :
    corner type whole (rowArray v) = .ok ((places whole).map (cornerCell type s v)) := by
  obtain ⟨c, -, hrow⟩ := rowArray_rectangular h
  have hlength : ¬ s.length > whole.length := by
    rw [hs.length_eq]
    exact Nat.lt_irrefl _
  unfold corner
  simp only [hrow, hlength, if_false, zipWith_min hs, spreads_self, Bool.not_true, Bool.false_eq_true]
  refine congrArg Except.ok (map_congr_left fun place hplace => ?_)
  unfold cornerCell
  split
  · have hinside := (within_iff ((length_of_mem_places hplace).trans hs.length_eq.symm)).mp ‹_›
    obtain ⟨n, -, hunder, hspread⟩ := spreadCell_rectangular h hinside
    rw [hspread, hunder]
    rfl
  · rfl

/-- The cells of the rows of a larger array. -/
def corners (type : Cell) (whole : List Nat) (shapes : List (List Nat)) (rows : List Value) : List (List Value) :=
  zipWith (fun s v => (places whole).map (cornerCell type s v)) shapes rows

lemma corners_ok (h : Forall₂ Rectangular shapes rows) (hroom : ∀ s ∈ shapes, Forall₂ (· ≤ ·) s whole) :
    (rows.map rowArray).mapM (corner type whole) = .ok (corners type whole shapes rows) := by
  induction h with
  | nil => rfl
  | @cons s v shapes rows hv _ ih =>
    rw [map_cons, mapM_cons, bind_of_ok (corner_ok hv (hroom s (.head _))),
      bind_of_ok (ih fun t ht => hroom t (mem_cons_of_mem s ht))]
    rfl

lemma under?_nest {f : List Nat → Value} (h : Inside place s) :
    (Grid.nest s ((places s).map f)).under? place = some (f place) := by
  induction s generalizing place f with
  | nil =>
    cases h
    rfl
  | cons n s ih =>
    cases h with
    | @cons i _ place _ hi hplace =>
    have hcells : (places (n :: s)).map f = ((range n).map fun i => (places s).map fun p => f (i :: p)).flatten := by
      simp [places, flatMap_def, Function.comp_def]
    have hpieces : Grid.pieces (s.foldl (· * ·) 1) n ((places (n :: s)).map f) =
        (range n).map fun i => (places s).map fun p => f (i :: p) := by
      have hflat := pieces_flatten (L := (range n).map fun i => (places s).map fun p => f (i :: p)) (by
        intro l hl
        obtain ⟨i, -, rfl⟩ := mem_map.mp hl
        rw [length_map, length_places])
      rwa [length_map, length_range, ← hcells, ← Nat.one_mul (size s), ← foldl_size] at hflat
    change (((Grid.pieces (s.foldl (· * ·) 1) n ((places (n :: s)).map f)).map (Grid.nest s))[i]?).bind (Value.under? place) = _
    rw [hpieces]
    simp [hi, ih hplace]

lemma exact_castCell (htype : Numeric type) {n : Int} (hsmall : n.natAbs < 2 ^ 53) :
    (Grid.castCell type (.int n)).rat? = some (n : ℚ) ∧ Grid.castCell type (.int n) ≠ .masked := by
  rcases htype with rfl | rfl
  · exact ⟨rfl, nofun⟩
  · exact ⟨Decimal.exact_ofInt hsmall, nofun⟩

lemma arrays_rectangular (h : Forall₂ Rectangular shapes rows) : (rows.map rowArray).map (·.shape) = shapes ∧
    ∀ g ∈ rows.map rowArray, Numeric g.cell := by
  induction h with
  | nil => exact ⟨rfl, nofun⟩
  | cons hv _ ih =>
    obtain ⟨c, hc, hrow⟩ := rowArray_rectangular hv
    rw [map_cons, map_cons, ih.1, hrow]
    exact ⟨rfl, forall_mem_cons.mpr ⟨hc, ih.2⟩⟩

lemma numeric_commonType (h : Forall₂ Rectangular shapes rows) : Numeric (commonType (rows.map rowArray)) := by
  apply numeric_widest
  intro c hc
  obtain ⟨g, hg, rfl⟩ := mem_map.mp hc
  exact (arrays_rectangular h).2 g (mem_of_mem_filter hg)

/-- The array that nested lists of different shapes become, row by row. -/
lemma ragged_ok (h : Forall₂ Rectangular shapes rows) (hrank : ∀ s ∈ shapes, s.length = r)
    (hdiffer : ∃ s ∈ shapes, ∃ t ∈ shapes, s ≠ t) : ∃ type whole, Numeric type ∧ Largest shapes whole ∧
      ragged rows = .ok (some ⟨type, rows.length :: whole, (corners type whole shapes rows).flatten⟩) := by
  obtain ⟨s, hs, t, ht, hne⟩ := hdiffer
  cases shapes with
  | nil => cases hs
  | cons first rest =>
  have hsome : rest.all (· == first) = false := by
    apply Bool.eq_false_of_not_eq_true
    intro hall
    have heq : ∀ u ∈ first :: rest, u = first := by
      intro u hu
      rcases mem_cons.mp hu with rfl | hu
      · rfl
      · exact eq_of_beq (all_eq_true.mp hall u hu)
    exact hne ((heq s hs).trans (heq t ht).symm)
  have hlength : ∀ u ∈ rest, u.length = first.length := fun u hu =>
    (hrank u (mem_cons_of_mem first hu)).trans (hrank first (.head _)).symm
  have heven : rest.all (·.length == first.length) = true :=
    all_eq_true.mpr fun u hu => beq_iff_eq.mpr (hlength u hu)
  have hlargest : Largest (first :: rest) (rest.foldl largerShape first) := by
    have hself : Largest [first] first := by
      refine ⟨?_, fun k n hn => ⟨first, mem_singleton_self first, hn⟩⟩
      intro u hu
      obtain rfl := mem_singleton.mp hu
      exact forall₂_refl u
    exact hself.foldl hlength
  refine ⟨commonType (rows.map rowArray), rest.foldl largerShape first, numeric_commonType h, hlargest, ?_⟩
  unfold ragged
  simp only [(arrays_rectangular h).1, hsome, heven, Bool.false_eq_true, if_false, if_true]
  rw [bind_of_ok (corners_ok h hlargest.room), length_map]
  rfl

/-- Nested lists of whole numbers with as many axes but not all one shape become one array, of the least shape
with room for all. What stands in a row is hidden outside its lists, and is their number inside. -/
theorem ragged_cells (h : List.Forall₂ Rectangular shapes rows) (hrank : ∀ s ∈ shapes, s.length = r)
    (hdiffer : ∃ s ∈ shapes, ∃ t ∈ shapes, s ≠ t) :
    ∃ g whole, ragged rows = .ok (some g) ∧ g.shape = rows.length :: whole ∧ g.cells.length = size g.shape ∧
      Largest shapes whole ∧ ∀ i s row place, shapes[i]? = some s → rows[i]? = some row → Inside place whole →
        ∃ c, g.toNested.under? (i :: place) = some c ∧ (c ≠ .masked ↔ Inside place s) ∧
          (Inside place s → ∃ n : Int, row.under? place = some (.int n) ∧ c.rat? = some (n : ℚ)) := by
  obtain ⟨type, whole, htype, hlargest, hragged⟩ := ragged_ok h hrank hdiffer
  have hrows : ∀ l ∈ corners type whole shapes rows, l.length = size whole := by
    intro l hl
    obtain ⟨i, hi⟩ := List.mem_iff_getElem?.mp hl
    obtain ⟨s, v, -, -, rfl⟩ := List.getElem?_zipWith_eq_some.mp hi
    rw [List.length_map, length_places]
  have hlength : (corners type whole shapes rows).length = rows.length := by
    rw [corners, List.length_zipWith, h.length_eq, Nat.min_self]
  refine ⟨_, whole, hragged, rfl, ?_, hlargest, ?_⟩
  · change (corners type whole shapes rows).flatten.length = rows.length * size whole
    rw [← List.flatMap_id, length_flatMap (f := id) hrows, hlength]
  intro i s row place hs hrow hplace
  have hunder : (Grid.toNested ⟨type, rows.length :: whole, (corners type whole shapes rows).flatten⟩).under? (i :: place) =
      some (cornerCell type s row place) := by
    have hat : (corners type whole shapes rows)[i]? = some ((places whole).map (cornerCell type s row)) := by
      exact List.getElem?_zipWith_eq_some.mpr ⟨s, row, hs, hrow, rfl⟩
    change (((Grid.pieces (whole.foldl (· * ·) 1) rows.length (corners type whole shapes rows).flatten).map
      (Grid.nest whole))[i]?).bind (Value.under? place) = _
    rw [foldl_size, Nat.one_mul, ← hlength, pieces_flatten hrows, List.getElem?_map, hat]
    exact under?_nest hplace
  have hwithin : within place s = true ↔ Inside place s :=
    within_iff (hplace.length_eq.trans (hlargest.room s (List.mem_of_getElem? hs)).length_eq.symm)
  have hrect : Rectangular s row := by
    obtain ⟨hi, rfl⟩ := List.getElem?_eq_some_iff.mp hs
    obtain ⟨hi', rfl⟩ := List.getElem?_eq_some_iff.mp hrow
    exact h.get hi hi'
  by_cases hinside : Inside place s
  · obtain ⟨n, hsmall, hrow, -⟩ := spreadCell_rectangular hrect hinside (c := type)
    have hcell : cornerCell type s row place = Grid.castCell type (.int n) := by
      simp [cornerCell, hwithin.mpr hinside, hrow]
    obtain ⟨hexact, hmasked⟩ := exact_castCell htype hsmall
    exact ⟨_, hunder, by simp [hcell, hmasked, hinside], fun _ => ⟨n, hrow, by rw [hcell, hexact]⟩⟩
  · have hcell : cornerCell type s row place = .masked := if_neg fun h => hinside (hwithin.mp h)
    exact ⟨_, hunder, by simp [hcell, hinside], fun h => absurd h hinside⟩

/-- The first two lists are each the longest along one axis, and the third has no numbers. -/
theorem ragged_cells_empty :
    ∃ g, ragged [.list [.list [.int 1, .int (-2)]], .list [.list [.int 3], .list [.int 4]], .list [.list []]] = .ok (some g) ∧
      g.toNested.under? [2, 0, 1] = some .masked ∧ ∃ c, g.toNested.under? [0, 0, 1] = some c ∧ c.rat? = some (-2) := by
  have hflat : ∀ ns : List Int, (∀ n ∈ ns, n.natAbs < 2 ^ 53) → Rectangular [ns.length] (.list (ns.map .int)) := by
    intro ns hns
    rw [← List.length_map]
    refine .node (fun _ => rfl) fun x hx => ?_
    obtain ⟨n, hn, rfl⟩ := List.mem_map.mp hx
    exact .leaf (hns n hn)
  have hrows : List.Forall₂ Rectangular [[1, 2], [2, 1], [1, 0]]
      [.list [.list [.int 1, .int (-2)]], .list [.list [.int 3], .list [.int 4]], .list [.list []]] := by
    refine .cons (@Rectangular.node _ [_] nofun ?_) (.cons (@Rectangular.node _ [_, _] nofun ?_)
      (.cons (@Rectangular.node _ [_] nofun ?_) .nil))
    · exact List.forall_mem_singleton.mpr (hflat [1, -2] (by decide))
    · exact List.forall_mem_cons.mpr ⟨hflat [3] (by decide), List.forall_mem_singleton.mpr (hflat [4] (by decide))⟩
    · exact List.forall_mem_singleton.mpr (hflat [] nofun)
  obtain ⟨g, whole, hg, -, -, hlargest, hcells⟩ := ragged_cells hrows (r := 2) (by decide) (by decide)
  have hplace : Inside [0, 1] whole := by
    obtain ⟨a, rest, ha, hrest, rfl⟩ := List.forall₂_cons_left_iff.mp (hlargest.room [1, 2] (by decide))
    obtain ⟨b, last, hb, hlast, rfl⟩ := List.forall₂_cons_left_iff.mp hrest
    obtain rfl := List.forall₂_nil_left_iff.mp hlast
    exact .cons ha (.cons hb .nil)
  obtain ⟨c, hc, -, hexact⟩ := hcells 0 _ _ [0, 1] rfl rfl hplace
  obtain ⟨d, hd, hmasked, -⟩ := hcells 2 _ _ [0, 1] rfl rfl hplace
  obtain ⟨n, hn, hexact⟩ := hexact (.cons (by decide) (.cons (by decide) .nil))
  have hhidden : d = .masked := by
    by_contra hne
    rcases hmasked.mp hne with _ | ⟨_, _ | ⟨h, _⟩⟩
    exact absurd h (by decide)
  cases hn
  exact ⟨g, hg, hhidden ▸ hd, c, hc, by simpa using hexact⟩

end Result

end SurveyGraph
