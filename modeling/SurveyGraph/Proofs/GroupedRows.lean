import SurveyGraph.Value.Frame
import SurveyGraph.Proofs.Outcome
import Mathlib.Data.List.Nodup
import Mathlib.Data.String.Basic
import Mathlib.Tactic.Choose
/-!
# Groups of rows and their members

A frame with texts in its key columns and lists of texts in another column is read as rows. Grouping gives one row for each
key, with the sorted members of all its lists; taking these apart gives each pair of a key and a member once.
-/
open List

namespace SurveyGraph.Frame

variable {β : Type} {cs : List Column} {keys : List String} {name : String}

/-- A frame has the given rows: texts in the key columns, and an entry in the column `name`. -/
structure Rows (entry : β → Value) (cs : List Column) (keys : List String) (name : String)
    (rows : List (List String × β)) : Prop where
  size : height cs = rows.length
  width : ∀ r ∈ rows, r.1.length = keys.length
  keys : ∀ j k, keys[j]? = some k → cells cs k = .ok (rows.map fun r => .text (r.1.getD j ""))
  entries : cells cs name = .ok (rows.map fun r => entry r.2)

def listing (xs : List String) : Value := .tuple (xs.map .text)

def cellsOf (entry : β → Value) (r : List String × β) : List Value × Value := (r.1.map .text, entry r.2)

/-! ## Texts as values -/

lemma same_text (s t : String) : Value.same (.text s) (.text t) = true ↔ s = t := by
  rw [Value.same, beq_iff_eq]

lemma sameAll_texts : ∀ xs ys : List String, Value.sameAll (xs.map .text) (ys.map .text) = true ↔ xs = ys
  | [], [] => by simp [Value.sameAll]
  | [], y :: ys => by simp [Value.sameAll]
  | x :: xs, [] => by simp [Value.sameAll]
  | x :: xs, y :: ys => by simp [Value.sameAll, same_text, sameAll_texts xs ys]

lemma same_listing (xs ys : List String) : Value.same (listing xs) (listing ys) = true ↔ xs = ys := by
  rw [listing, listing, Value.same, sameAll_texts]

lemma columnCell_texts (xs : List String) : columnCell (xs.map .text) = .object := by
  cases xs with
  | nil => rfl
  | cons x xs => simp [columnCell, Grid.cellOf, show (Cell.text == Cell.bool) = false from rfl]

lemma column_texts (name : String) (xs : List String) : column name (xs.map .text) = (name, .object, xs.map .text) := by
  simp [column, columnCell_texts, columnValue]

/-! ## The members of a group -/

/-- Values that stand for different things are kept once each. -/
lemma foldl_addNew [DecidableEq β] {value : β → Value} (hvalue : ∀ a b, Value.same (value a) (value b) = true ↔ a = b) :
    ∀ xs ys : List β, ys.Nodup → ∃ zs : List β, (xs.map value).foldl addNew (ys.map value) = zs.map value ∧ zs.Nodup ∧
      ∀ z, z ∈ zs ↔ z ∈ ys ∨ z ∈ xs
  | [], ys, h => ⟨ys, rfl, h, by simp⟩
  | x :: xs, ys, h => by
    have hany : (ys.map value).any (Value.same (value x)) = true ↔ x ∈ ys := by simp [hvalue]
    rw [map_cons, foldl_cons, addNew]
    by_cases hx : x ∈ ys
    · obtain ⟨zs, hzs, hnodup, hmem⟩ := foldl_addNew hvalue xs ys h
      grind
    · have hnew : (ys ++ [x]).Nodup := by simpa [nodup_append] using ⟨h, fun y hy hyx => hx (hyx ▸ hy)⟩
      obtain ⟨zs, hzs, hnodup, hmem⟩ := foldl_addNew hvalue xs (ys ++ [x]) hnew
      refine ⟨zs, by rwa [if_neg (mt hany.mp hx), ← map_singleton, ← map_append], hnodup, fun z => ?_⟩
      rw [hmem, mem_append, mem_singleton, mem_cons, or_assoc]

lemma sortValues_texts {xs : List String} (h : xs.Nodup) : ∃ ys : List String,
    sortValues (xs.map .text) = .ok (ys.map .text) ∧ ys.Pairwise (· < ·) ∧ ∀ x, x ∈ ys ↔ x ∈ xs := by
  let le : String → String → Bool := fun s t => !(decide (t < s))
  have hsort : (xs.map Value.text).mergeSort (fun a b => (valueLe a b).getD true) = (xs.mergeSort le).map .text := by
    symm
    apply map_mergeSort
    intro a _ b _
    rfl
  have hperm : (xs.mergeSort le).Perm xs := mergeSort_perm xs le
  refine ⟨xs.mergeSort le, ?_, ?_, fun x => hperm.mem_iff⟩
  · rw [sortValues, hsort]
    simp [valueLe]
  · have hle : (xs.mergeSort le).Pairwise (fun s t => le s t = true) := by
      refine pairwise_mergeSort ?_ ?_ xs
      · intro a b c hab hbc
        simp only [le, Bool.not_eq_true', decide_eq_false_iff_not, not_lt] at hab hbc ⊢
        exact hab.trans hbc
      · intro a b
        simp only [le, Bool.or_eq_true, Bool.not_eq_true', decide_eq_false_iff_not, not_lt]
        exact le_total a b
    refine (hle.and (hperm.nodup_iff.mpr h)).imp fun {s t} hst => ?_
    simp only [le, Bool.not_eq_true', decide_eq_false_iff_not, not_lt] at hst
    exact lt_of_le_of_ne hst.1 hst.2

/-- The members of all rows with a key are put together. -/
lemma groupCell_rows (rows : List (List String × List String)) (k : List String) : ∃ items : List String,
    groupCell (rows.map (cellsOf listing)) (k.map .text) = .ok (listing items) ∧ items.Pairwise (· < ·) ∧
      ∀ x, x ∈ items ↔ ∃ r ∈ rows, r.1 = k ∧ x ∈ r.2 := by
  let lists := (rows.filter (k = ·.1)).map (·.2)
  have hrows : ((rows.map (cellsOf listing)).filter (Value.sameAll (k.map .text) ·.1)).map (·.2) = lists.map listing := by
    have hkey (r : List String × List String) : Value.sameAll (k.map .text) (r.1.map .text) = decide (k = r.1) := by
      rw [Bool.eq_iff_iff, sameAll_texts, decide_eq_true_iff]
    simp [lists, cellsOf, filter_map, Function.comp_def, hkey]
  have hparts : (lists.map listing).mapM elements = .ok (lists.map (List.map .text)) := by
    rw [mapM_map]
    exact mapM_of_forall_ok fun _ _ => rfl
  obtain ⟨ys, hys, hnodup, hmem⟩ := foldl_addNew same_text lists.flatten [] nodup_nil
  obtain ⟨zs, hzs, hsorted, hmem'⟩ := sortValues_texts hnodup
  rw [map_flatten] at hys
  refine ⟨zs, ?_, hsorted, fun x => ?_⟩
  · rw [groupCell, hrows, bind_of_ok hparts, show ([] : List Value) = [].map Value.text from rfl, hys, bind_of_ok hzs]
    rfl
  · simp only [hmem', hmem, lists, not_mem_nil, false_or, mem_flatten, mem_map, mem_filter]
    grind

lemma groupKeys_rows (entry : β → Value) (rows : List (List String × β)) : ∃ ks : List (List String),
    groupKeys (rows.map (cellsOf entry)) = ks.map (List.map .text) ∧ ks.Nodup ∧ ∀ k, k ∈ ks ↔ k ∈ rows.map (·.1) := by
  obtain ⟨ks, hks, hnodup, hmem⟩ := foldl_addNew same_listing (rows.map (·.1)) [] nodup_nil
  have hkeys : (rows.map (cellsOf entry)).map (Value.tuple ·.1) = (rows.map (·.1)).map listing := by
    simp [cellsOf, listing]
  have hmembers : (ks.map listing).map membersOf = ks.map (List.map .text) := by
    rw [map_map]
    rfl
  have hperm := mergeSort_perm ks fun a b => valuesLe (a.map .text) (b.map .text)
  refine ⟨_, ?_, hperm.nodup_iff.mpr hnodup, fun k => hperm.mem_iff.trans (by simpa using hmem k)⟩
  rw [groupKeys, hkeys, show ([] : List Value) = [].map listing from rfl, hks, hmembers]
  symm
  apply map_mergeSort
  intro a _ b _
  rfl

/-! ## Columns of rows -/

lemma cells_mapIdx {f : Nat → Cell × List Value} {rest : List Column} (hkeys : keys.Nodup) {j : Nat} {k : String}
    (hj : keys[j]? = some k) : cells (keys.mapIdx (fun j k => (k, f j)) ++ rest) k = .ok (f j).2 := by
  suffices h : (keys.mapIdx (fun j k => (k, f j))).find? (·.1 == k) = some (k, f j) by
    simp [cells, h]
  induction keys generalizing f j with
  | nil => simp at hj
  | cons k' keys ih =>
    cases j with
    | zero =>
      obtain rfl : k' = k := by simpa using hj
      simp
    | succ j =>
      have hj' : keys[j]? = some k := by simpa using hj
      have hne : k' ≠ k := fun h => (nodup_cons.mp hkeys).1 (h ▸ mem_of_getElem? hj')
      simpa [hne] using ih (nodup_cons.mp hkeys).2 hj'

lemma cells_last {f : Nat → Cell × List Value} (hname : name ∉ keys) (xs : List Value) :
    cells (keys.mapIdx (fun j k => (k, f j)) ++ [(name, .object, xs)]) name = .ok xs := by
  have hnone : (keys.mapIdx (fun j k => (k, f j))).find? (·.1 == name) = none := by
    rw [find?_eq_none]
    intro c hc hcname
    obtain ⟨j, hj, rfl⟩ := mem_mapIdx.mp hc
    exact hname (beq_iff_eq.mp hcname ▸ getElem_mem hj)
  simp [cells, hnone]

section Entries

variable {entry : β → Value} {rows : List (List String × β)}

lemma Rows.mapM_cells (h : Rows entry cs keys name rows) :
    keys.mapM (cells cs) = .ok (keys.mapIdx fun j _ => rows.map fun r => .text (r.1.getD j "")) := by
  refine mapM_of_forall₂ (forall₂_iff_get.mpr ⟨by simp, fun j hj _ => ?_⟩)
  simpa using h.keys j keys[j] (getElem?_eq_getElem hj)

lemma Rows.keyedRows_eq (h : Rows entry cs keys name rows) :
    keyedRows (keys.mapIdx fun j _ => rows.map fun r => .text (r.1.getD j "")) (rows.map fun r => entry r.2) (height cs) =
      rows.map (cellsOf entry) := by
  have hkey : ∀ i (hi : i < rows.length), (keys.mapIdx fun j _ => rows.map fun r => Value.text (r.1.getD j "")).map
      (fun xs => (xs[i]?).getD .none) = rows[i].1.map .text := by
    intro i hi
    have hwidth := h.width rows[i] (getElem_mem hi)
    refine ext_getElem (by simp [hwidth]) fun j hj hj' => ?_
    rw [length_map] at hj'
    simp [hi, hj']
  rw [keyedRows, h.size, filter_eq_self.mpr]
  · refine ext_getElem (by simp) fun i hi _ => ?_
    rw [length_map, length_range] at hi
    simpa [hi, cellsOf] using hkey i hi
  · refine forall_mem_map.mpr fun i hi => ?_
    rw [hkey i (mem_range.mp hi)]
    simp [isMissing, Value.isNan]

def ofRows (entry : β → Value) (keys : List String) (name : String) (rows : List (List String × β)) : List Column :=
  keys.mapIdx (fun j k => (k, .object, rows.map fun r => .text (r.1.getD j ""))) ++
    [(name, .object, rows.map fun r => entry r.2)]

lemma rows_ofRows (hkeys : keys ≠ []) (hnodup : (keys ++ [name]).Nodup) (hwidth : ∀ r ∈ rows, r.1.length = keys.length) :
    Rows entry (ofRows entry keys name rows) keys name rows := by
  obtain ⟨hdistinct, -, hname⟩ := nodup_append.mp hnodup
  refine ⟨?_, hwidth, fun j k hj => ?_, ?_⟩
  · obtain ⟨k, rest, rfl⟩ := exists_cons_of_ne_nil hkeys
    simp [ofRows, height, mapIdx_cons]
  · exact cells_mapIdx hdistinct hj
  · exact cells_last (fun hmem => hname name hmem name (by simp) rfl) _

end Entries

variable {rows groups : List (List String × List String)}

lemma Rows.name_notMem (h : Rows listing cs keys name rows) (hrows : rows ≠ []) : name ∉ keys := by
  intro hname
  obtain ⟨j, hj⟩ := mem_iff_getElem?.mp hname
  have hcells := (h.keys j name hj).symm.trans h.entries
  obtain ⟨r, rest, rfl⟩ := exists_cons_of_ne_nil hrows
  simp [listing] at hcells

/-! ## Grouping -/

/-- A row for each key, with the sorted members of all rows of that key. -/
structure Grouped (rows groups : List (List String × List String)) : Prop where
  nodup : (groups.map (·.1)).Nodup
  keys : ∀ k, k ∈ groups.map (·.1) ↔ k ∈ rows.map (·.1)
  sorted : ∀ g ∈ groups, g.2.Pairwise (· < ·)
  items : ∀ g ∈ groups, ∀ x, x ∈ g.2 ↔ ∃ r ∈ rows, r.1 = g.1 ∧ x ∈ r.2

lemma keyColumns_eq {ks : List (List String)} (hwidth : ∀ k ∈ ks, k.length = keys.length) :
    keys.mapIdx (fun j k => column k ((ks.map (List.map .text)).map fun g => (g[j]?).getD .none)) =
      keys.mapIdx fun j k => (k, .object, ks.map fun g => .text (g.getD j "")) := by
  refine ext_getElem (by simp) fun j hj _ => ?_
  rw [length_mapIdx] at hj
  have hcells : (ks.map (List.map Value.text)).map (fun g => (g[j]?).getD .none) = (ks.map (·.getD j "")).map .text := by
    rw [map_map, map_map]
    refine map_congr_left fun k hk => ?_
    simp [hwidth k hk, hj]
  rw [getElem_mapIdx, getElem_mapIdx, hcells, column_texts, map_map]
  rfl

lemma Rows.groupUnion_rows (h : Rows listing cs keys name rows) (hkeys : keys ≠ []) (hnodup : (keys ++ [name]).Nodup) :
    ∃ G groups, groupUnion cs keys name = .ok G ∧ Rows listing G keys name groups ∧ Grouped rows groups := by
  obtain ⟨ks, hks, hdistinct, hmem⟩ := groupKeys_rows listing rows
  choose items hcell hsorted hitems using groupCell_rows rows
  have hwidth : ∀ k ∈ ks, k.length = keys.length := by
    intro k hk
    obtain ⟨r, hr, rfl⟩ := mem_map.mp ((hmem k).mp hk)
    exact h.width r hr
  have hunions : (ks.map (List.map Value.text)).mapM (groupCell (rows.map (cellsOf listing))) =
      .ok (ks.map fun k => listing (items k)) := by
    rw [mapM_map]
    exact mapM_of_forall_ok fun k _ => hcell k
  have hfst : (ks.map fun k => (k, items k)).map (·.1) = ks := by simp [Function.comp_def]
  refine ⟨_, ks.map fun k => (k, items k), ?_, rows_ofRows hkeys hnodup (forall_mem_map.mpr hwidth),
    hfst.symm ▸ hdistinct, fun k => by rw [hfst, hmem], forall_mem_map.mpr fun k _ => hsorted k,
    forall_mem_map.mpr fun k _ => hitems k⟩
  rw [groupUnion, if_neg (by simp [hkeys]), bind_of_ok h.mapM_cells, bind_of_ok h.entries, h.keyedRows_eq]
  simp only [hks, hunions, keyColumns_eq hwidth, hnodup]
  simp [ofRows, Function.comp_def]

/-! ## Taking the lists apart -/

lemma cells_takeRows (cs : List Column) (places : List Nat) (k : String) :
    cells (takeRows cs places) k = (cells cs k).map fun xs => places.filterMap (xs[·]?) := by
  simp only [cells, takeRows, find?_map, Function.comp_def]
  cases cs.find? (·.1 == k) <;> rfl

lemma cells_filter {k : String} (hk : k ≠ name) : cells (cs.filter (·.1 != name)) k = cells cs k := by
  have hfind : (cs.filter (·.1 != name)).find? (·.1 == k) = cs.find? (·.1 == k) := by
    rw [find?_filter]
    congr 1
    funext c
    by_cases hc : c.1 = k <;> simp [hc, hk]
  rw [cells, hfind, cells]

/-- The members of rows, each with its row and the place of that. -/
def marked (rows : List (List String × List String)) : List ((Nat × List String × List String) × String) :=
  ((range rows.length).zip rows).flatMap fun p => p.2.2.map fun x => (p, x)

lemma getElem?_of_mem_marked {m : (Nat × List String × List String) × String} (hm : m ∈ marked rows) :
    rows[m.1.1]? = some m.1.2 := by
  obtain ⟨p, hp, hm⟩ := mem_flatMap.mp hm
  obtain ⟨x, -, rfl⟩ := mem_map.mp hm
  obtain ⟨n, hn⟩ := mem_iff_getElem?.mp hp
  obtain ⟨hi, hr⟩ := getElem?_zip_eq_some.mp hn
  obtain ⟨hlt, heq⟩ := List.getElem?_eq_some_iff.mp hi
  rw [getElem_range] at heq
  exact heq ▸ hr

lemma map_marked (rows : List (List String × List String)) :
    (marked rows).map (fun m => (m.1.2.1, m.2)) = rows.flatMap fun r => r.2.map (r.1, ·) := by
  have hrows : ((range rows.length).zip rows).map Prod.snd = rows := map_snd_zip (by simp)
  conv_rhs => rw [← hrows]
  simp only [marked, map_flatMap, flatMap_map, map_map, Function.comp_def]

lemma stacked_widened (rows : List (List Value)) : stacked (widened rows) = stacked rows := by
  have hmissing (n : Nat) : (replicate n Value.none).filter (!isMissing ·) = [] := by simp [isMissing]
  simp only [stacked, widened, length_map, zip_map_right, flatMap_map, Prod.map_fst, Prod.map_snd, id, filter_append,
    hmissing, append_nil]

lemma explode_eq (h : cells cs name = .ok (rows.map fun r => listing r.2)) : explode cs name =
    .ok ((name, .object, (marked rows).map fun m => .text m.2) ::
      takeRows (cs.filter (·.1 != name)) ((marked rows).map (·.1.1))) := by
  have hlists : (rows.map fun r => listing r.2).map membersOf = rows.map fun r => r.2.map .text := by
    rw [map_map]
    rfl
  have hpresent (xs : List String) : (xs.map Value.text).filter (!isMissing ·) = xs.map .text := by
    simp [filter_eq_self, isMissing, Value.isNan]
  have hrows : stacked (rows.map fun r => r.2.map .text) = (marked rows).map fun m => (m.1.1, .text m.2) := by
    simp only [stacked, length_map, marked, zip_map_right, flatMap_map, map_flatMap, hpresent, map_map, Function.comp_def,
      Prod.map_fst, Prod.map_snd, id]
  have hcell : columnCell ((marked rows).map fun m => Value.text m.2) = .object := by
    simpa [Function.comp_def] using columnCell_texts ((marked rows).map (·.2))
  rw [explode, bind_of_ok h]
  simp only [hlists, stacked_widened, hrows, map_map, Function.comp_def, hcell]
  rfl

lemma Rows.explode_rows (h : Rows listing cs keys name rows) (hname : name ∉ keys) :
    ∃ E, explode cs name = .ok E ∧ Rows .text E keys name (rows.flatMap fun r => r.2.map (r.1, ·)) := by
  refine ⟨_, explode_eq h.entries, ?_⟩
  rw [← map_marked]
  refine ⟨?_, ?_, fun j k hj => ?_, ?_⟩
  · simp [height]
  · refine forall_mem_map.mpr fun m hm => ?_
    exact h.width _ (mem_of_getElem? (getElem?_of_mem_marked hm))
  · have hk : k ≠ name := fun hk => hname (hk ▸ mem_of_getElem? hj)
    have hrest (c : Column) (hc : c.1 = name) (cs : List Column) : cells (c :: cs) k = cells cs k := by
      simp [cells, hc, hk.symm]
    have htexts : (marked rows).filterMap (fun m => (rows.map fun r => Value.text (r.1.getD j ""))[m.1.1]?) =
        (marked rows).filterMap fun m => some (.text (m.1.2.1.getD j "")) := by
      refine filterMap_congr fun m hm => ?_
      rw [getElem?_map, getElem?_of_mem_marked hm, Option.map_some]
    rw [hrest _ rfl, cells_takeRows, cells_filter hk, h.keys j k hj, Except.map, filterMap_map, map_map]
    exact congrArg Except.ok (htexts.trans (by rw [filterMap_eq_map']; rfl))
  · simp [cells]

lemma Grouped.nodup_pairs (h : Grouped rows groups) : (groups.flatMap fun g => g.2.map (g.1, ·)).Nodup := by
  rw [nodup_flatMap]
  constructor
  · intro g hg
    have hitems : g.2.Nodup := (h.sorted g hg).imp fun hlt => ne_of_lt hlt
    exact hitems.map fun _ _ heq => (Prod.mk.inj heq).2
  · refine (pairwise_map.mp h.nodup).imp fun {g g'} hne => ?_
    intro p hp hp'
    obtain ⟨x, -, rfl⟩ := mem_map.mp hp
    obtain ⟨x', -, heq⟩ := mem_map.mp hp'
    exact hne (Prod.mk.inj heq).1.symm

lemma Grouped.mem_pairs (h : Grouped rows groups) {k : List String} {x : String} :
    (k, x) ∈ groups.flatMap (fun g => g.2.map (g.1, ·)) ↔ ∃ r ∈ rows, r.1 = k ∧ x ∈ r.2 := by
  rw [mem_flatMap]
  constructor
  · rintro ⟨g, hg, hp⟩
    obtain ⟨y, hy, heq⟩ := mem_map.mp hp
    obtain ⟨rfl, rfl⟩ := Prod.mk.inj heq
    exact (h.items g hg y).mp hy
  · rintro ⟨r, hr, rfl, hx⟩
    obtain ⟨g, hg, hgr⟩ := mem_map.mp ((h.keys r.1).mpr (mem_map_of_mem hr))
    exact ⟨g, hg, mem_map.mpr ⟨x, (h.items g hg x).mpr ⟨r, hr, hgr.symm, hx⟩, by rw [hgr]⟩⟩

/-- Grouping a frame of lists gives one row for each key, with the sorted members of its rows; taking these
apart gives every key with every member of its rows, each pair once. -/
theorem explode_groupUnion (h : Rows listing cs keys name rows) (hrows : rows ≠ []) (hkeys : keys ≠ [])
    (hdistinct : keys.Nodup) : ∃ G groups E pairs, groupUnion cs keys name = .ok G ∧ Rows listing G keys name groups ∧
      Grouped rows groups ∧ explode G name = .ok E ∧ Rows .text E keys name pairs ∧ pairs.Nodup ∧
      ∀ k x, (k, x) ∈ pairs ↔ ∃ r ∈ rows, r.1 = k ∧ x ∈ r.2 := by
  have hname := h.name_notMem hrows
  have hnodup : (keys ++ [name]).Nodup := by
    rw [List.nodup_append]
    exact ⟨hdistinct, by simp, fun k hk n hn heq => hname (List.mem_singleton.mp hn ▸ heq ▸ hk)⟩
  obtain ⟨G, groups, hG, hGrows, hunion⟩ := h.groupUnion_rows hkeys hnodup
  obtain ⟨E, hE, hErows⟩ := hGrows.explode_rows hname
  exact ⟨G, groups, E, _, hG, hGrows, hunion, hE, hErows, hunion.nodup_pairs, fun k x => hunion.mem_pairs⟩

/-- Programmes of two surveys; the first has two catalogues, one of them twice. -/
def surveyRows : List (List String × List String) :=
  [(["GA", "north.fits"], ["GA-LRHIGHLAT", "GA-OC"]), (["WQ", "qso.fits"], ["WQ"]), (["GA", "south.fits"], ["GA-OC"]),
    (["GA", "north.fits"], ["GA-CALIB", "GA-OC"])]

theorem explode_groupUnion_surveys :
    ∃ G groups E pairs, groupUnion (ofRows listing ["targsrvy", "targcat"] "targprog" surveyRows) ["targsrvy", "targcat"]
        "targprog" = .ok G ∧ Rows listing G ["targsrvy", "targcat"] "targprog" groups ∧ Grouped surveyRows groups ∧
      explode G "targprog" = .ok E ∧ Rows .text E ["targsrvy", "targcat"] "targprog" pairs ∧ pairs.Nodup ∧
      ∀ k x, (k, x) ∈ pairs ↔ ∃ r ∈ surveyRows, r.1 = k ∧ x ∈ r.2 :=
  explode_groupUnion (rows_ofRows (by decide) (by decide) (by decide)) (by decide) (by decide) (by decide)

end SurveyGraph.Frame
