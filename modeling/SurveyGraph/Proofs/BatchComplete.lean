import Mathlib.Data.List.Sort
import SurveyGraph.Proofs.BatchRun
/-!
# Complete files

What a file keeps after its batches have been marked. For one part with rows it is the list of the runs of the rows that the
slices pick, in any order; the part is complete after its last batch and not before (`markAll_slices`). A file is complete
after all its batches if each part has a row (`complete_iff_rows`); a part without rows never is (`exists_incomplete`).
-/
open List

namespace SurveyGraph.Batch.Job

open Store

variable {j : Job} {n m file : Node} {b : Batch} {bs cs : List Batch} {p : Part} {x i size : Int}
  {total : String → Int} {done : String → Option (List Int)}

/-! ## The state is a function of the rows -/

lemma Written.ext (hn : Written file total n done) (hm : Written file total m done)
    (hflag : n.properties "_dbcompleted_complete" = m.properties "_dbcompleted_complete") : n = m := by
  have hcolumn : ∀ p w, w = "start" ∨ w = "end" ∨ w = "complete" →
      n.properties (column p w) = m.properties (column p w) := by
    rintro p w (rfl | rfl | rfl)
    · rw [(hn.keeps p).start, (hm.keeps p).start]
    · rw [(hn.keeps p).stop, (hm.keeps p).stop]
    · rw [hn.complete p, hm.complete p]
  have hproperties : n.properties = m.properties := by
    funext k
    by_cases hk : k = "_dbcompleted_complete"
    · rw [hk, hflag]
    · by_cases hcol : ∃ p w, (w = "start" ∨ w = "end" ∨ w = "complete") ∧ k = column p w
      · obtain ⟨p, w, hw, rfl⟩ := hcol
        exact hcolumn p w hw
      · have hapart : Apart k := ⟨hk, fun p w hw heq => hcol ⟨p, w, hw, heq⟩⟩
        rw [hn.rest k hapart, hm.rest k hapart]
  cases n
  cases m
  simp only [Node.mk.injEq]
  exact ⟨hn.labels.trans hm.labels.symm, hproperties⟩

lemma Flagged.eq (hn : Written file total n done) (hm : Written file total m done) (hfn : j.Flagged n)
    (hfm : j.Flagged m) : n.properties "_dbcompleted_complete" = m.properties "_dbcompleted_complete" := by
  have hflags : flags n (j.parts.map partName) = flags m (j.parts.map partName) :=
    map_congr_left fun p _ => (hn.complete p).trans (hm.complete p).symm
  rw [Flagged, hflags, hfm] at hfn
  exact (Option.some.inj hfn).symm

lemma Covers.eq {done' : String → Option (List Int)} (h : j.Covers bs done) (h' : j.Covers cs done')
    (hparts : ∀ p, (∃ b ∈ bs, partName b.part = p) ↔ ∃ b ∈ cs, partName b.part = p)
    (hrows : ∀ p, j.picked bs p = j.picked cs p) : done = done' := by
  funext p
  have hnone : done p = none ↔ done' p = none := by
    rw [h.untouched p, h'.untouched p]
    have hpart := hparts p
    constructor
    · intro hbs c hc hcp
      obtain ⟨b, hb, hbp⟩ := hpart.mpr ⟨c, hc, hcp⟩
      exact hbs b hb hbp
    · intro hcs b hb hbp
      obtain ⟨c, hc, hcp⟩ := hpart.mp ⟨b, hb, hbp⟩
      exact hcs c hc hcp
  cases hp : done p with
  | none => rw [hnone.mp hp]
  | some xs =>
    cases hp' : done' p with
    | none => exact absurd (hp.symm.trans (hnone.mpr hp')) (by simp)
    | some ys =>
      have hmem : ∀ x, x ∈ xs ↔ x ∈ ys := fun x => by
        rw [h.rows p xs hp, h'.rows p ys hp', hrows p]
      rw [Pairwise.eq_of_mem_iff (h.increasing p xs hp) (h'.increasing p ys hp') hmem]

/-- A part of some length is complete when all its rows are picked. -/
lemma complete_iff {part : String} (hwritten : Written file total n done) (hcovers : j.Covers bs done)
    (htotal : 1 ≤ total part) :
    n.properties (column part "complete") = .bool true ↔ ∀ x, x ∈ j.picked bs part ↔ 0 ≤ x ∧ x < total part := by
  rw [hwritten.complete part]
  cases hpart : done part with
  | none =>
    refine ⟨fun h => (by cases h), fun h => ?_⟩
    obtain ⟨b, hb, hname, _⟩ := (h 0).mpr ⟨Int.le_refl 0, by omega⟩
    exact absurd hname ((hcovers.untouched part).mp hpart b hb)
  | some xs =>
    rw [Option.elim_some, Value.bool.injEq, decide_eq_true_eq,
      runs_eq_singleton (hcovers.increasing part xs hpart) (by omega)]
    refine forall_congr' fun x => ?_
    rw [hcovers.rows part xs hpart, Int.le_sub_one_iff]

lemma not_complete_of_empty {part : String} (hwritten : Written file total n done) (htotal : total part ≤ 0) :
    n.properties (column part "complete") ≠ .bool true := by
  rw [hwritten.complete part]
  cases hpart : done part with
  | none => exact fun h => (by cases h)
  | some xs =>
    rw [Option.elim_some, Ne, Value.bool.injEq, decide_eq_true_eq]
    intro hruns
    have := runs_le xs (0, total part - 1) (by rw [hruns]; exact mem_singleton_self _)
    omega

lemma Flagged.iff (h : j.Flagged n) : n.properties "_dbcompleted_complete" = .bool true ↔
    ∀ p ∈ j.parts, n.properties (column (partName p) "complete") = .bool true := by
  have hall : n.properties "_dbcompleted_complete" = .bool true ↔
      ∀ v ∈ flags n (j.parts.map partName), v = .bool true := by
    rw [← conjunction_true, h, Option.some.injEq]
  rw [hall, flags, map_map, forall_mem_map]
  rfl

/-! ## The batches of a part -/

/-- The batches of a size of a part. -/
def pieces (length size : Int) (p : Part) : List Batch :=
  (Value.steps 0 length size).map (fun i => ⟨.slice (.int i) (.int (i + size)) .none, p⟩)

section Pieces

variable (hsize : 1 ≤ size)

include hsize

lemma ofPart_eq : ofPart (fun p => .ok (.int (j.length p))) (.int size) .none p =
    .ok (pieces (j.length p) size p) := by
  have hne : (size == 0) = false := by simp; omega
  simp [ofPart, Value.index?, starts, hne, pieces, bind, Except.bind, pure, Except.pure]

lemma picks_piece (hi : 0 ≤ i) :
    j.Picks ⟨.slice (.int i) (.int (i + size)) .none, p⟩ x ↔ i ≤ x ∧ x < i + size ∧ x < j.length p := by
  have hrows : rows (.slice (.int i) (.int (i + size)) .none) (.int (j.length p)) =
      .ok ((Value.steps (min (j.length p).toNat i) (min (j.length p).toNat (i + size)) 1).map .int) := by
    simp only [rows, Value.index?, Value.slicePlaces_between hi (show 0 ≤ i + size by omega)]
    rfl
  simp only [Picks, hrows, Except.ok.injEq, exists_eq_left', mem_map, Value.int.injEq, exists_eq_right,
    Value.mem_steps_one]
  omega

lemma mem_pieces {length : Int} : b ∈ pieces length size p ↔
    ∃ k : Nat, size * k < length ∧ b = ⟨.slice (.int (size * k)) (.int (size * k + size)) .none, p⟩ := by
  simp only [pieces, Value.steps, if_pos (show size > 0 by omega), mem_map,
    Value.mem_stepsUp (show 0 < size by omega), Int.zero_add]
  constructor
  · rintro ⟨_, ⟨k, rfl, hk⟩, rfl⟩
    exact ⟨k, hk, rfl⟩
  · rintro ⟨k, hk, rfl⟩
    exact ⟨_, ⟨k, rfl, hk⟩, rfl⟩

lemma pieces_valid (hb : b ∈ pieces (j.length p) size p) : j.Valid b := by
  obtain ⟨k, hk, rfl⟩ := (mem_pieces hsize).mp hb
  have hpos : 0 ≤ size * k := Int.mul_nonneg (by omega) (Int.natCast_nonneg k)
  -- the batch picks its own first row, so its slice can be taken
  obtain ⟨places, hplaces, _⟩ := (picks_piece hsize hpos).mpr ⟨Int.le_refl _, by omega, hk⟩
  exact ⟨places, hplaces⟩

lemma picked_pieces : x ∈ j.picked (pieces (j.length p) size p) (partName p) ↔ 0 ≤ x ∧ x < j.length p := by
  constructor
  · rintro ⟨b, hb, _, hpick⟩
    obtain ⟨k, _, rfl⟩ := (mem_pieces hsize).mp hb
    exact hpick.bounds
  · rintro ⟨h0, hlt⟩
    have hk : ((x / size).toNat : Int) = x / size := Int.toNat_of_nonneg (Int.ediv_nonneg h0 (by omega))
    have hle : size * (x / size) ≤ x := Int.mul_ediv_self_le (by omega)
    have hnext : x < size * (x / size) + size := Int.lt_mul_ediv_self_add (by omega)
    have hpos : 0 ≤ size * (x / size) := Int.mul_nonneg (by omega) (Int.ediv_nonneg h0 (by omega))
    refine ⟨_, (mem_pieces hsize).mpr ⟨(x / size).toNat, ?_, rfl⟩, rfl, ?_⟩
    · rw [hk]
      omega
    · rw [hk, picks_piece hsize hpos]
      exact ⟨hle, hnext, hlt⟩

lemma pieces_nodup (length : Int) : (pieces length size p).Nodup := by
  have hinj : ∀ i k : Int, (⟨.slice (.int i) (.int (i + size)) .none, p⟩ : Batch) =
      ⟨.slice (.int k) (.int (k + size)) .none, p⟩ → i = k := by
    intro i k h
    injection h with hslice
    injection hslice with hi
    exact Value.int.inj hi
  refine Nodup.map hinj ?_
  rw [Value.steps, if_pos (by omega), Value.stepsUp, if_neg (by omega)]
  refine Nodup.map (fun k l h => ?_) nodup_range
  exact Int.ofNat_inj.mp (Int.eq_of_mul_eq_mul_left (by omega) (Int.add_left_cancel h))

/-- The first row of a batch is in no other batch of its part. -/
lemma exists_not_picked {before after : List Batch} (h : pieces (j.length p) size p = before ++ b :: after) :
    ∃ x, (0 ≤ x ∧ x < j.length p) ∧ x ∉ j.picked (before ++ after) (partName p) := by
  obtain ⟨k, hk, rfl⟩ := (mem_pieces hsize).mp (show b ∈ pieces (j.length p) size p by simp [h])
  have hpos : ∀ l : Nat, 0 ≤ size * l := fun l => Int.mul_nonneg (by omega) (Int.natCast_nonneg l)
  refine ⟨size * k, ⟨hpos k, hk⟩, ?_⟩
  rintro ⟨c, hc, _, hpick⟩
  have hcin : c ∈ pieces (j.length p) size p := by
    rw [h]
    exact (mem_append.mp hc).elim (fun hc => by simp [hc]) (fun hc => by simp [hc])
  obtain ⟨l, _, rfl⟩ := (mem_pieces hsize).mp hcin
  obtain ⟨hle, hlt, _⟩ := (picks_piece hsize (hpos l)).mp hpick
  have hlk : (l : Int) ≤ k := Int.le_of_mul_le_mul_left hle (by omega)
  have hkl : (k : Int) < l + 1 := Int.lt_of_mul_lt_mul_left (a := size) (by rw [Int.mul_add]; omega) (by omega)
  obtain rfl : l = k := by omega
  have hnodup := pieces_nodup (p := p) hsize (j.length p)
  rw [h] at hnodup
  exact (nodup_middle.mp hnodup).notMem hc

end Pieces

/-! ## One part -/

/-- A slice with whole numbers, whose step is not 0. -/
structure Slice where
  start : Option Int
  stop : Option Int
  step : Option Int
  step_ne : step ≠ some 0

def Slice.value (s : Slice) : Value := .slice (s.start.elim .none .int) (s.stop.elim .none .int) (s.step.elim .none .int)

/-- The batches of a part with some slices. -/
def cut (p : Part) (slices : List Slice) : List Batch := slices.map (fun s => ⟨s.value, p⟩)

/-- The rows of a part that some slices pick. -/
def union (j : Job) (p : Part) (slices : List Slice) : Set Int := {x | ∃ s ∈ slices, j.Picks ⟨s.value, p⟩ x}

variable {slices : List Slice}

lemma Slice.valid (s : Slice) : j.Valid ⟨s.value, p⟩ := by
  have hend : ∀ (v : Option Int) (n low high default : Int),
      ∃ k, Value.sliceEnd (v.elim .none .int) n low high default = .ok k := by
    intro v n low high default
    cases v with
    | none | some k => exact ⟨_, rfl⟩
  have hstep : ∃ k, Value.sliceStep (s.step.elim .none .int) = .ok k := by
    obtain ⟨_, _, step, hne⟩ := s
    cases step with
    | none => exact ⟨_, rfl⟩
    | some k =>
      have hk : k ≠ 0 := fun h => hne (h ▸ rfl)
      exact ⟨k, by simp [Value.sliceStep, Value.index?, hk]⟩
  obtain ⟨places, hplaces⟩ : ∃ places, Value.slicePlaces (s.start.elim .none .int) (s.stop.elim .none .int)
      (s.step.elim .none .int) (j.length p).toNat = .ok places :=
    ok_bind hstep fun _ => ok_bind (hend _ _ _ _ _) fun _ => ok_bind (hend _ _ _ _ _) fun _ => ⟨_, rfl⟩
  refine ⟨places.map .int, ?_⟩
  simp only [rows, Slice.value, Value.index?, hplaces]
  rfl

lemma picked_cut : j.picked (cut p slices) (partName p) = j.union p slices := by
  simp [picked, union, cut]

lemma Fresh.markAll_part (h : j.Fresh file) (bs : List Batch) (hpart : ∀ b ∈ bs, b.part = p) (hvalid : ∀ b ∈ bs, j.Valid b) :
    ∃ n done, j.markAll file bs = some n ∧ Written file (fun _ => j.length p) n done ∧ j.Covers bs done ∧
      (bs ≠ [] → j.Flagged n) :=
  h.markAll _ (fun b hb => by rw [hpart b hb]) hvalid

lemma Fresh.markAll_cut (h : j.Fresh file) (slices : List Slice) :
    ∃ n done, j.markAll file (cut p slices) = some n ∧ Written file (fun _ => j.length p) n done ∧
      j.Covers (cut p slices) done ∧ (slices ≠ [] → j.Flagged n) := by
  obtain ⟨n, done, hrun, hwritten, hcovers, hflag⟩ := h.markAll_part (p := p) (cut p slices) (by simp [cut])
    fun b hb => by
      obtain ⟨s, _, rfl⟩ := mem_map.mp hb
      exact s.valid
  exact ⟨n, done, hrun, hwritten, hcovers, fun hne => hflag (by simpa [cut] using hne)⟩

/-- The runs of the rows that slices pick are kept. -/
lemma Covers.exists_runs (hwritten : Written file total n done) (hcovers : j.Covers (cut p slices) done)
    (hne : slices ≠ []) : ∃ rs : List (Int × Int),
      (∀ r, r ∈ rs ↔ IsRun (j.union p slices) r) ∧ rs.Pairwise (fun r s => r.2 < s.1) ∧
      n.properties (column (partName p) "start") = .list (rs.map (.int ∘ (·.1))) ∧
      n.properties (column (partName p) "end") = .list (rs.map (.int ∘ (·.2))) := by
  cases hdone : done (partName p) with
  | none =>
    obtain ⟨s, hs⟩ := exists_mem_of_ne_nil slices hne
    exact absurd rfl ((hcovers.untouched _).mp hdone ⟨s.value, p⟩ (mem_map.mpr ⟨s, hs, rfl⟩))
  | some xs =>
    have hincreasing := hcovers.increasing _ xs hdone
    have hset : {x | x ∈ xs} = j.union p slices := by
      rw [← picked_cut]
      exact Set.ext (hcovers.rows _ xs hdone)
    refine ⟨runs xs, fun r => ?_, runs_increasing hincreasing, ?_, ?_⟩
    · rw [mem_runs hincreasing, hset]
    · rw [(hwritten.keeps _).start, hdone, ends]
    · rw [(hwritten.keeps _).stop, hdone, ends]

lemma Fresh.markAll_eq (h : j.Fresh file) {others : List Slice} (hempty : others = [] ↔ slices = [])
    (hunion : j.union p others = j.union p slices) : j.markAll file (cut p others) = j.markAll file (cut p slices) := by
  obtain ⟨n, done, hrun, hwritten, hcovers, hflag⟩ := h.markAll_cut slices
  obtain ⟨m, done', hrun', hwritten', hcovers', hflag'⟩ := h.markAll_cut others
  by_cases hnil : slices = []
  · rw [hnil, hempty.mpr hnil]
  · have hparts : ∀ {ss : List Slice}, ss ≠ [] → ∀ name, (∃ b ∈ cut p ss, partName b.part = name) ↔ partName p = name := by
      intro ss hss name
      obtain ⟨s, hs⟩ := exists_mem_of_ne_nil ss hss
      simp only [cut, mem_map, exists_exists_and_eq_and]
      exact ⟨fun ⟨_, _, hname⟩ => hname, fun hname => ⟨s, hs, hname⟩⟩
    have hrows : ∀ name, j.picked (cut p others) name = j.picked (cut p slices) name := by
      intro name
      by_cases hname : partName p = name
      · rw [← hname, picked_cut, picked_cut, hunion]
      · ext x
        simp [picked, cut, hname]
    have hother : others ≠ [] := fun he => hnil (hempty.mp he)
    obtain rfl := hcovers'.eq hcovers (fun name => (hparts hother name).trans (hparts hnil name).symm) hrows
    have heq : m = n := hwritten'.ext hwritten (Flagged.eq hwritten' hwritten (hflag' hother) (hflag hnil))
    rw [hrun, hrun', heq]

lemma chosenParts_one (h : p ∈ j.parts) : chosenParts j.parts [p] = .ok [p] := by
  have hkept : [p].filter j.parts.contains = [p] := by simp [h]
  simp [chosenParts, hkept, eraseDups_cons]

lemma list_one (h : p ∈ j.parts) (hsize : 1 ≤ size) :
    list j.parts (fun p => .ok (.int (j.length p))) (.int size) [p] .none = .ok (pieces (j.length p) size p) := by
  simp [list, chosenParts_one h, ofPart_eq hsize, bind, Except.bind, pure, Except.pure]

lemma Fresh.pieces_complete (h : j.Fresh file) (hlength : 1 ≤ j.length p) (hsize : 1 ≤ size) :
    ∃ n, j.markAll file (pieces (j.length p) size p) = some n ∧
      n.properties (column (partName p) "complete") = .bool true := by
  obtain ⟨n, done, hrun, hwritten, hcovers, _⟩ := h.markAll_part (p := p) (pieces (j.length p) size p)
    (by simp [pieces]) fun b => pieces_valid hsize
  exact ⟨n, hrun, (complete_iff hwritten hcovers hlength).mpr fun x => picked_pieces hsize⟩

lemma Fresh.pieces_incomplete (h : j.Fresh file) (hlength : 1 ≤ j.length p) (hsize : 1 ≤ size)
    {before after : List Batch} (hsplit : pieces (j.length p) size p = before ++ b :: after) :
    ∃ n, j.markAll file (before ++ after) = some n ∧ n.properties (column (partName p) "complete") ≠ .bool true := by
  have hsub : ∀ c ∈ before ++ after, c ∈ pieces (j.length p) size p := by
    intro c hc
    rw [hsplit]
    exact (mem_append.mp hc).elim (fun hc => by simp [hc]) (fun hc => by simp [hc])
  obtain ⟨n, done, hrun, hwritten, hcovers, _⟩ := h.markAll_part (before ++ after)
    (fun c hc => by
      obtain ⟨i, _, rfl⟩ := mem_map.mp (hsub c hc)
      rfl)
    fun c hc => pieces_valid hsize (hsub c hc)
  obtain ⟨x, hx, hnot⟩ := exists_not_picked hsize hsplit
  refine ⟨n, hrun, fun hcomplete => hnot ?_⟩
  exact ((complete_iff hwritten hcovers hlength).mp hcomplete x).mpr hx

/-- After marks of one part a file keeps the runs of the rows picked. The part is complete when these are all
its rows: after batches of any size, and not if one is left out. -/
theorem markAll_slices (j : Job) (p : Part) (hlength : 1 ≤ j.length p) (file : Node) (hfresh : j.Fresh file) :
    (∀ slices, ∃ n, j.markAll file (cut p slices) = some n ∧
      (slices = [] → n = file) ∧
      (slices ≠ [] → ∃ rs : List (Int × Int),
        (∀ r, r ∈ rs ↔ IsRun (j.union p slices) r) ∧ rs.Pairwise (fun r s => r.2 < s.1) ∧
        n.properties (column (partName p) "start") = .list (rs.map (.int ∘ (·.1))) ∧
        n.properties (column (partName p) "end") = .list (rs.map (.int ∘ (·.2)))) ∧
      (n.properties (column (partName p) "complete") = .bool true ↔
        ∀ x, x ∈ j.union p slices ↔ 0 ≤ x ∧ x < j.length p) ∧
      (∀ others, (others = [] ↔ slices = []) → j.union p others = j.union p slices →
        j.markAll file (cut p others) = some n)) ∧
    (∀ size, 1 ≤ size → p ∈ j.parts → ∃ batches,
      list j.parts (fun p => .ok (.int (j.length p))) (.int size) [p] .none = .ok batches ∧
      (∃ n, j.markAll file batches = some n ∧ n.properties (column (partName p) "complete") = .bool true) ∧
      ∀ before b after, batches = before ++ b :: after → ∃ n, j.markAll file (before ++ after) = some n ∧
        n.properties (column (partName p) "complete") ≠ .bool true) := by
  refine ⟨fun slices => ?_, fun size hsize hp => ?_⟩
  · obtain ⟨n, done, hrun, hwritten, hcovers, _⟩ := hfresh.markAll_cut slices
    refine ⟨n, hrun, ?_, hcovers.exists_runs hwritten, ?_, fun others hempty hunion => ?_⟩
    · rintro rfl
      exact (Option.some.inj hrun).symm
    · rw [complete_iff hwritten hcovers hlength, picked_cut]
    · exact (hfresh.markAll_eq hempty hunion).trans hrun
  · exact ⟨_, list_one hp hsize, hfresh.pieces_complete hlength hsize,
      fun _ _ _ hsplit => hfresh.pieces_incomplete hlength hsize hsplit⟩

/-- A node of which only the name of its file is known. -/
def bare (fname : String) : Node where
  labels := ["File"]
  properties k := if k = "fname" then .text fname else .none

lemma bare_fresh (j : Job) : j.Fresh (bare j.fname) where
  label := mem_singleton_self _
  fname := by simp [bare]
  null p w := by simp [bare, column_ne_fname]
  flag := by simp [bare]

/-- A file with two parts, the second of which may have no rows. -/
def twoParts (rows : Int) : Job where
  fname := "a.fit"
  parts := [some "a", some "b"]
  length p := if p = some "b" then rows else 3

theorem markAll_slices_twoParts : ∃ batches n,
    list (twoParts 1).parts (fun p => .ok (.int ((twoParts 1).length p))) (.int 2) [some "a"] .none = .ok batches ∧
    (twoParts 1).markAll (bare "a.fit") batches = some n ∧
      n.properties (column (partName (some "a")) "complete") = .bool true := by
  obtain ⟨batches, hlist, ⟨n, hrun, hcomplete⟩, _⟩ := (markAll_slices (twoParts 1) (some "a") (by decide) _
    (bare_fresh _)).2 2 (by decide) (by decide)
  exact ⟨batches, n, hlist, hrun, hcomplete⟩

/-! ## All parts -/

/-- The batches of a part: all rows if there is no size. -/
def batchesOf (j : Job) (size : Option Int) (p : Part) : List Batch :=
  match size with
  | none => [⟨.slice .none .none .none, p⟩]
  | some k => pieces (j.length p) k p

/-- The number of rows of the part with a name. -/
def named (j : Job) (name : String) : Int := ((j.parts.find? (partName · == name)).map j.length).getD 0

lemma rows_all (length : Int) :
    rows (.slice .none .none .none) (.int length) = .ok ((Value.steps 0 length.toNat 1).map .int) := rfl

section AllParts

variable (hmix : none ∈ j.parts → j.parts = [none])

include hmix

lemma chosenParts_all : ∃ ps, chosenParts j.parts j.parts = .ok ps ∧ ∀ p, p ∈ ps ↔ p ∈ j.parts := by
  have hkept : j.parts.filter j.parts.contains = j.parts := filter_eq_self.mpr fun p hp => by simpa using hp
  simp only [chosenParts, hkept]
  by_cases hnone : none ∈ j.parts
  · rw [hmix hnone]
    exact ⟨[none], by simp [eraseDups_cons], by simp⟩
  · have hcontains : j.parts.eraseDups.contains none = false := by simpa using hnone
    refine ⟨_, by rw [hcontains, Bool.and_false]; rfl, fun p => ?_⟩
    simp

lemma partName_inj {q : Part} (hp : p ∈ j.parts) (hq : q ∈ j.parts) (h : partName p = partName q) : p = q := by
  by_cases hnone : none ∈ j.parts
  · rw [hmix hnone, mem_singleton] at hp hq
    rw [hp, hq]
  · cases p with
    | none => exact absurd hp hnone
    | some s =>
      cases q with
      | none => exact absurd hq hnone
      | some t => exact congrArg some h

lemma named_partName (hp : p ∈ j.parts) : j.named (partName p) = j.length p := by
  obtain ⟨q, hq⟩ : ∃ q, j.parts.find? (partName · == partName p) = some q :=
    Option.isSome_iff_exists.mp (find?_isSome.mpr ⟨p, hp, beq_self_eq_true _⟩)
  have hname : partName q = partName p := by simpa using find?_some hq
  rw [named, hq, partName_inj hmix (mem_of_find?_eq_some hq) hp hname]
  rfl

variable {size : Option Int} (hsize : ∀ k, size = some k → 1 ≤ k)

include hsize

lemma list_all : ∃ ps : List Part, list j.parts (fun p => .ok (.int (j.length p))) (size.elim .none .int) j.parts .none =
      .ok (ps.flatMap (j.batchesOf size)) ∧ ∀ p, p ∈ ps ↔ p ∈ j.parts := by
  obtain ⟨ps, hps, hmem⟩ := chosenParts_all hmix
  refine ⟨ps, ?_, hmem⟩
  cases size with
  | none =>
    simp only [list, hps, Option.elim_none, bind, Except.bind, pure, Except.pure]
    rw [map_eq_flatMap]
    rfl
  | some k =>
    have hparts : ofPart (fun p => .ok (.int (j.length p))) (.int k) .none =
        fun p => (pure (pieces (j.length p) k p) : Except Fault (List Batch)) := funext fun p => ofPart_eq (hsize k rfl)
    simp only [list, hps, Option.elim_some, bind, Except.bind, hparts, mapM_pure]
    rfl

omit hmix in
lemma mem_batchesOf (hb : b ∈ j.batchesOf size p) : b.part = p ∧ j.Valid b := by
  cases size with
  | none =>
    obtain rfl := mem_singleton.mp hb
    exact ⟨rfl, _, rows_all _⟩
  | some k =>
    refine ⟨?_, pieces_valid (hsize k rfl) hb⟩
    obtain ⟨i, _, rfl⟩ := mem_map.mp hb
    rfl

omit hmix in
lemma picked_batchesOf : x ∈ j.picked (j.batchesOf size p) (partName p) ↔ 0 ≤ x ∧ x < j.length p := by
  cases size with
  | some k => exact picked_pieces (hsize k rfl)
  | none =>
    simp only [picked, batchesOf, mem_singleton, Set.mem_ofPred_eq, exists_eq_left, true_and, Picks, rows_all,
      Except.ok.injEq, exists_eq_left', mem_map, Value.int.injEq, exists_eq_right, Value.mem_steps_one]
    omega

lemma picked_flatMap {ps : List Part} (hps : ∀ p, p ∈ ps ↔ p ∈ j.parts) (hp : p ∈ j.parts) :
    x ∈ j.picked (ps.flatMap (j.batchesOf size)) (partName p) ↔ 0 ≤ x ∧ x < j.length p := by
  constructor
  · rintro ⟨b, hb, hname, hpick⟩
    obtain ⟨q, hq, hb⟩ := mem_flatMap.mp hb
    have hpart := (mem_batchesOf hsize hb).1
    obtain rfl := partName_inj hmix (hpart ▸ (hps q).mp hq) hp hname
    exact hpick.bounds
  · intro hx
    obtain ⟨b, hb, hname, hpick⟩ := (picked_batchesOf hsize).mpr hx
    exact ⟨b, mem_flatMap.mpr ⟨p, (hps p).mpr hp, hb⟩, hname, hpick⟩

lemma Fresh.markAll_batches (h : j.Fresh file) : ∃ batches n done,
      list j.parts (fun p => .ok (.int (j.length p))) (size.elim .none .int) j.parts .none = .ok batches ∧
      j.markAll file batches = some n ∧ Written file j.named n done ∧ j.Covers batches done ∧
      (∀ p ∈ j.parts, ∀ x, x ∈ j.picked batches (partName p) ↔ 0 ≤ x ∧ x < j.length p) ∧
      (batches = [] → n = file) ∧ (batches ≠ [] → j.parts ≠ [] ∧ j.Flagged n) := by
  obtain ⟨ps, hlist, hps⟩ := list_all hmix hsize
  have hpart : ∀ b ∈ ps.flatMap (j.batchesOf size), b.part ∈ j.parts ∧ j.Valid b := by
    intro b hb
    obtain ⟨p, hp, hb⟩ := mem_flatMap.mp hb
    obtain ⟨hbp, hvalid⟩ := mem_batchesOf hsize hb
    exact ⟨hbp ▸ (hps p).mp hp, hvalid⟩
  obtain ⟨n, done, hrun, hwritten, hcovers, hflag⟩ := h.markAll j.named
    (fun b hb => (named_partName hmix (hpart b hb).1).symm) fun b hb => (hpart b hb).2
  refine ⟨_, n, done, hlist, hrun, hwritten, hcovers, fun p hp x => picked_flatMap hmix hsize hps hp, ?_, fun hne => ?_⟩
  · intro hnil
    rw [hnil] at hrun
    exact (Option.some.inj hrun).symm
  · obtain ⟨b, hb⟩ := exists_mem_of_ne_nil _ hne
    exact ⟨ne_nil_of_mem (hpart b hb).1, hflag hne⟩

end AllParts

/-- After all batches of a file, its parts with rows are complete, and so is the file if it has parts and all
have rows. -/
theorem complete_iff_rows (j : Job) (hmix : none ∈ j.parts → j.parts = [none]) (size : Option Int)
    (hsize : ∀ k, size = some k → 1 ≤ k) (file : Node) (hfresh : j.Fresh file) : ∃ batches n,
      list j.parts (fun p => .ok (.int (j.length p))) (size.elim .none .int) j.parts .none = .ok batches ∧
      j.markAll file batches = some n ∧
      (∀ p ∈ j.parts, n.properties (column (partName p) "complete") = .bool true ↔ 1 ≤ j.length p) ∧
      (n.properties "_dbcompleted_complete" = .bool true ↔ j.parts ≠ [] ∧ ∀ p ∈ j.parts, 1 ≤ j.length p) := by
  obtain ⟨batches, n, done, hlist, hrun, hwritten, hcovers, hpicked, hnil, hflag⟩ := hfresh.markAll_batches hmix hsize
  have hcomplete : ∀ p ∈ j.parts, n.properties (column (partName p) "complete") = .bool true ↔ 1 ≤ j.length p := by
    intro p hp
    have hnamed := named_partName hmix hp
    by_cases hlength : 1 ≤ j.length p
    · refine iff_of_true ((complete_iff hwritten hcovers (hnamed ▸ hlength)).mpr ?_) hlength
      rw [hnamed]
      exact hpicked p hp
    · exact iff_of_false (not_complete_of_empty hwritten (by omega)) hlength
  refine ⟨batches, n, hlist, hrun, hcomplete, ?_⟩
  by_cases hempty : batches = []
  · -- nothing has been marked: there is no part, or no part has rows
    rw [hnil hempty, hfresh.flag]
    refine iff_of_false (fun h => (by cases h)) ?_
    rintro ⟨hne, hlength⟩
    obtain ⟨p, hp⟩ := List.exists_mem_of_ne_nil _ hne
    obtain ⟨b, hb, _⟩ := (hpicked p hp 0).mpr ⟨Int.le_refl 0, by have := hlength p hp; omega⟩
    rw [hempty] at hb
    cases hb
  · obtain ⟨hne, hflagged⟩ := hflag hempty
    rw [hflagged.iff]
    exact (forall₂_congr hcomplete).trans (and_iff_right hne).symm

theorem complete_iff_rows_twoParts : ∃ batches n,
    list (twoParts 1).parts (fun p => .ok (.int ((twoParts 1).length p))) (.int 2) (twoParts 1).parts .none =
      .ok batches ∧
    (twoParts 1).markAll (bare "a.fit") batches = some n ∧ n.properties "_dbcompleted_complete" = .bool true := by
  obtain ⟨batches, n, hlist, hrun, _, hflag⟩ := complete_iff_rows (twoParts 1) (by decide) (some 2)
    (fun k hk => by cases hk; decide) _ (bare_fresh _)
  exact ⟨batches, n, hlist, hrun, hflag.mpr (by decide)⟩

lemma Fresh.incomplete (hfresh : j.Fresh file) (hmix : none ∈ j.parts → j.parts = [none]) (size : Option Int)
    (hsize : ∀ k, size = some k → 1 ≤ k) (hp : p ∈ j.parts) (hlength : j.length p ≤ 0) : ∃ batches n,
      list j.parts (fun p => .ok (.int (j.length p))) (size.elim .none .int) j.parts .none = .ok batches ∧
      j.markAll file batches = some n ∧ n.properties "_dbcompleted_complete" ≠ .bool true := by
  obtain ⟨batches, n, done, hlist, hrun, hwritten, _, _, hnil, hflag⟩ := hfresh.markAll_batches hmix hsize
  refine ⟨batches, n, hlist, hrun, fun hcomplete => ?_⟩
  by_cases hempty : batches = []
  · rw [hnil hempty, hfresh.flag] at hcomplete
    cases hcomplete
  · have hpart := (hflag hempty).2.iff.mp hcomplete p hp
    have hnamed : j.named (partName p) ≤ 0 := by rwa [named_partName hmix hp]
    exact not_complete_of_empty hwritten hnamed hpart

/-- A file with an empty part stays incomplete, with or without a batch size. -/
theorem exists_incomplete : (∃ batches n,
      list (twoParts 0).parts (fun p => .ok (.int ((twoParts 0).length p))) (.int 2) (twoParts 0).parts .none =
        .ok batches ∧
      (twoParts 0).markAll (bare "a.fit") batches = some n ∧ n.properties "_dbcompleted_complete" ≠ .bool true) ∧
    ∃ batches n,
      list (twoParts 0).parts (fun p => .ok (.int ((twoParts 0).length p))) .none (twoParts 0).parts .none =
        .ok batches ∧
      (twoParts 0).markAll (bare "a.fit") batches = some n ∧ n.properties "_dbcompleted_complete" ≠ .bool true := by
  have hp : some "b" ∈ (twoParts 0).parts := by decide
  have hlength : (twoParts 0).length (some "b") ≤ 0 := by decide
  constructor
  · exact (bare_fresh _).incomplete (by decide) (some 2) (fun k hk => by cases hk; decide) hp hlength
  · exact (bare_fresh _).incomplete (by decide) none (fun k hk => by cases hk) hp hlength

end SurveyGraph.Batch.Job
