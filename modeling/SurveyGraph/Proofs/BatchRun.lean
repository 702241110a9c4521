import Mathlib.Data.List.Induction
import Mathlib.Data.Set.Basic
import SurveyGraph.Proofs.BatchMark
import SurveyGraph.Proofs.Outcome
/-!
# Marks of batches

A mark adds the rows that the slice of its batch picks to those that the file keeps for the part (`Written.mark`). After any
sequence of marks the file keeps for each part the rows that some batch has picked, if there is one about it
(`Fresh.markAll`).
-/
open List

namespace SurveyGraph
open Function

/-! ## Rows that a slice picks -/

namespace Value

lemma mem_stepsUp {a b c x : Int} (hc : 0 < c) : x ∈ stepsUp a b c ↔ ∃ i : Nat, x = a + c * i ∧ x < b := by
  have hcount : ∀ i : Nat, i < ((b - a + c - 1).fdiv c).toNat ↔ a + c * i < b := by
    intro i
    rw [Int.lt_toNat, Int.fdiv_eq_ediv_of_nonneg _ (Int.le_of_lt hc), Int.lt_iff_add_one_le,
      Int.le_ediv_iff_mul_le hc, Int.add_mul, Int.mul_comm]
    omega
  rw [stepsUp, if_neg (by omega)]
  simp only [mem_map, mem_range, hcount]
  constructor
  · rintro ⟨i, hi, rfl⟩
    exact ⟨i, rfl, hi⟩
  · rintro ⟨i, rfl, hi⟩
    exact ⟨i, hi, rfl⟩

lemma mem_steps_one {a b x : Int} : x ∈ steps a b 1 ↔ a ≤ x ∧ x < b := by
  rw [steps, if_pos (by omega), mem_stepsUp (by omega)]
  constructor
  · rintro ⟨i, rfl, hlt⟩
    omega
  · rintro ⟨h1, h2⟩
    exact ⟨(x - a).toNat, by omega, h2⟩

lemma steps_bounds {a b c x : Int} (hc : c ≠ 0) (h : x ∈ steps a b c) : 0 < c ∧ a ≤ x ∧ x < b ∨ c < 0 ∧ x ≤ a ∧ b < x := by
  have hup : ∀ {a b c x : Int}, 0 < c → x ∈ stepsUp a b c → a ≤ x ∧ x < b := by
    intro a b c x hc h
    obtain ⟨i, rfl, hlt⟩ := (mem_stepsUp hc).mp h
    have := Int.mul_nonneg (Int.le_of_lt hc) (Int.natCast_nonneg i)
    omega
  unfold steps at h
  split at h
  · rename_i hpos
    exact .inl ⟨hpos, hup hpos h⟩
  · obtain ⟨y, hy, rfl⟩ := mem_map.mp h
    have := hup (by omega) hy
    exact .inr ⟨by omega, by omega, by omega⟩

lemma sliceStep_ne_zero {v : Value} {k : Int} (h : sliceStep v = .ok k) : k ≠ 0 := by
  unfold sliceStep at h
  split at h
  · cases h
    omega
  · split at h
    · split at h
      · cases h
      · rename_i hne
        cases h
        simpa using hne
    · cases h

lemma sliceEnd_bounds {v : Value} {n low high default k : Int} (hlow : low ≤ default) (hhigh : default ≤ high)
    (h : sliceEnd v n low high default = .ok k) : low ≤ k ∧ k ≤ high := by
  unfold sliceEnd at h
  split at h
  · cases h
    exact ⟨hlow, hhigh⟩
  · split at h
    · cases h
      omega
    · cases h

lemma slicePlaces_bounds {a b c : Value} {n : Nat} {places : List Int} (h : slicePlaces a b c n = .ok places) :
    ∀ x ∈ places, 0 ≤ x ∧ x < n := by
  intro x hx
  obtain ⟨k, hk, h⟩ := bind_ok h
  obtain ⟨i, hi, h⟩ := bind_ok h
  obtain ⟨j, hj, h⟩ := bind_ok h
  obtain rfl : steps i j k = places := Except.ok.inj h
  have hbounds := steps_bounds (sliceStep_ne_zero hk) hx
  by_cases hpos : k > 0
  · simp only [hpos, if_true] at hi hj
    have := sliceEnd_bounds (by omega) (by omega) hi
    have := sliceEnd_bounds (by omega) (by omega) hj
    omega
  · simp only [hpos, if_false] at hi hj
    have := sliceEnd_bounds (by omega) (by omega) hi
    have := sliceEnd_bounds (by omega) (by omega) hj
    omega

lemma slicePlaces_between {i k : Int} {n : Nat} (hi : 0 ≤ i) (hk : 0 ≤ k) :
    slicePlaces (.int i) (.int k) .none n = .ok (steps (min n i) (min n k) 1) := by
  have hend : ∀ {m : Int} (d : Int), 0 ≤ m → sliceEnd (.int m) n 0 n d = .ok (min n m) := by
    intro m d hm
    simp only [sliceEnd, index?, if_neg (Int.not_lt.mpr hm)]
    congr 1
    omega
  simp [slicePlaces, sliceStep, hend _ hi, hend _ hk, bind, Except.bind]
  rfl

end Value

namespace Batch

open Store

/-! ## Files that are written in batches -/

def partValue : Part → Value
  | none => .none
  | some s => .text s

def partName (p : Part) : String := (partValue p).display

/-- A file written in batches: its name, its parts, and their rows. -/
structure Job where
  fname : String
  parts : List Part
  length : Part → Int

namespace Job

variable {j : Job} {n file : Node} {b : Batch} {bs : List Batch} {x : Int} {p w : String} {xs : List Int}

/-- The node of the file after a batch has been marked. -/
def mark (j : Job) (n : Node) (b : Batch) : Option Node :=
  match markComplete (.text j.fname) b.slice (partValue b.part) (.int (j.length b.part)) (j.parts.map partValue) with
  | .ok (_, params) => (marking (partName b.part)).run params n
  | .error _ => none

/-- The node of the file after some batches have been marked. -/
def markAll (j : Job) (n : Node) (bs : List Batch) : Option Node := bs.foldlM j.mark n

/-- The node of the file before the first mark. -/
structure Fresh (j : Job) (n : Node) : Prop where
  label : "File" ∈ n.labels
  fname : n.properties "fname" = .text j.fname
  null : ∀ part what, n.properties (column part what) = .none
  flag : n.properties "_dbcompleted_complete" = .none

/-- The slice of a batch can be taken of the rows of its part. -/
def Valid (j : Job) (b : Batch) : Prop := ∃ places, rows b.slice (.int (j.length b.part)) = .ok places

/-- A batch picks a row of its part. -/
def Picks (j : Job) (b : Batch) (x : Int) : Prop :=
  ∃ places, rows b.slice (.int (j.length b.part)) = .ok places ∧ .int x ∈ places

/-- The rows of a part that some batches pick. -/
def picked (j : Job) (bs : List Batch) (part : String) : Set Int := {x | ∃ b ∈ bs, partName b.part = part ∧ j.Picks b x}

lemma rows_ok {slice : Value} {total : Int} {places : List Value} (h : rows slice (.int total) = .ok places) :
    ∃ xs : List Int, places = xs.map .int ∧ ∀ x ∈ xs, 0 ≤ x ∧ x < total := by
  simp only [rows, Value.index?] at h
  split at h
  · obtain ⟨xs, hxs, h⟩ := bind_ok h
    refine ⟨xs, (Except.ok.inj h).symm, fun x hx => ?_⟩
    have := Value.slicePlaces_bounds hxs x hx
    omega
  · split at h
    · split at h <;> cases h
    · cases h

lemma Valid.list (h : j.Valid b) : ∃ xs : List Int, rows b.slice (.int (j.length b.part)) = .ok (xs.map .int) ∧
    ∀ x, j.Picks b x ↔ x ∈ xs := by
  obtain ⟨places, hplaces⟩ := h
  obtain ⟨xs, rfl, _⟩ := rows_ok hplaces
  refine ⟨xs, hplaces, fun x => ?_⟩
  simp [Picks, hplaces]

lemma Picks.bounds (h : j.Picks b x) : 0 ≤ x ∧ x < j.length b.part := by
  obtain ⟨places, hplaces, hx⟩ := h
  obtain ⟨xs, rfl, hxs⟩ := rows_ok hplaces
  exact hxs x (by simpa using hx)

/-! ## What is kept after some marks -/

/-- A property that says nothing about the completion of a file. -/
def Apart (k : String) : Prop :=
  k ≠ "_dbcompleted_complete" ∧ ∀ p w, w = "start" ∨ w = "end" ∨ w = "complete" → k ≠ column p w

/-- A node keeps the done rows of every part that has been marked; all else is as it was. -/
structure Written (file : Node) (total : String → Int) (n : Node) (done : String → Option (List Int)) : Prop where
  labels : n.labels = file.labels
  rest : ∀ k, Apart k → n.properties k = file.properties k
  keeps : ∀ p, Keeps n p (done p)
  complete : ∀ p, n.properties (column p "complete") =
    (done p).elim .none (fun xs => .bool (decide (runs xs = [(0, total p - 1)])))
  pos : ∀ p, ∀ x ∈ (done p).getD [], 0 ≤ x

/-- The file is said to be complete if all its parts are. -/
def Flagged (j : Job) (n : Node) : Prop :=
  conjunction (flags n (j.parts.map partName)) = some (n.properties "_dbcompleted_complete")

variable {total : String → Int} {done : String → Option (List Int)}

lemma column_ne_fname : column p w ≠ "fname" := by
  intro h
  have hhead := congrArg (fun s => s.toList.head?) h
  simp [toList_column] at hhead

lemma apart_fname : Apart "fname" := ⟨by decide, fun _ _ _ => column_ne_fname.symm⟩

lemma Written.isAbout (hfresh : j.Fresh file) (h : Written file total n done) {part : String}
    {params : List (String × Value)} (hparams : params.lookup "_check_fname" = some (.text j.fname)) :
    (marking part).isAbout params n = some true := by
  have hlabel : n.labels.contains "File" = true := by
    rw [h.labels]
    exact contains_iff_mem.mpr hfresh.label
  have hsame : same (n.properties "fname") (.text j.fname) = some (.bool true) := by
    rw [h.rest "fname" apart_fname, hfresh.fname, same, beq_self_eq_true]
  simp only [Update.isAbout, marking, hlabel, hparams, Option.bind_eq_bind, Option.bind_some, hsame]
  rfl

lemma Fresh.written (h : j.Fresh file) : Written file total file (fun _ => none) where
  labels := rfl
  rest _ _ := rfl
  keeps p := ⟨h.null p _, h.null p _⟩
  complete p := h.null p _
  pos p x hx := by cases hx

def params (j : Job) (b : Batch) (xs : List Int) : List (String × Value) :=
  [("_check_fname", .text j.fname), ("_check_completed", .list (xs.map .int)),
    ("_check_parts", .list ((j.parts.map partValue).map (fun p => .text p.display))),
    ("_check_total_length", .int (j.length b.part))]

lemma asks (xs : List Int) : Asks (j.params b xs) xs (j.parts.map partName) (j.length b.part) where
  rows := rfl
  parts := by
    simp only [params, map_map]
    rfl
  total := rfl

lemma mark_eq (h : rows b.slice (.int (j.length b.part)) = .ok (xs.map .int)) :
    j.mark n b = (marking (partName b.part)).run (j.params b xs) n := by
  simp only [mark, markComplete, h]
  rfl

section Keeping

variable {part : String} {xs : List Int} {isAll : Bool} {flag : Value}

lemma keeping_column (h : p ≠ part) (hw : w = "start" ∨ w = "end" ∨ w = "complete") :
    (keeping n part xs isAll).properties (column p w) = n.properties (column p w) := by
  have hne : ∀ v, v = "start" ∨ v = "end" ∨ v = "complete" → column p w ≠ column part v := by
    rintro v hv heq
    by_cases hvw : v = w
    · exact h (column_inj (hvw ▸ heq))
    · rcases hw with rfl | rfl | rfl <;> rcases hv with rfl | rfl | rfl <;>
        first
          | exact hvw rfl
          | exact column_ne rfl rfl (by decide) heq
  simp only [keeping]
  rw [Node.set_ne (hne _ (by simp)), Node.set_ne (hne _ (by simp)), Node.set_ne (hne _ (by simp))]

lemma keeping_start : (keeping n part xs isAll).properties (column part "start") = ends (·.1) (some xs) := by
  simp only [keeping]
  rw [Node.set_ne (column_ne rfl rfl (by decide)), Node.set_ne (column_ne rfl rfl (by decide)), Node.set_self]

lemma keeping_stop : (keeping n part xs isAll).properties (column part "end") = ends (·.2) (some xs) := by
  simp only [keeping]
  rw [Node.set_ne (column_ne rfl rfl (by decide)), Node.set_self]

lemma keeping_complete : (keeping n part xs isAll).properties (column part "complete") = .bool isAll := Node.set_self

lemma keeping_rest {k : String} (h : Apart k) : (keeping n part xs isAll).properties k = n.properties k := by
  simp only [keeping]
  rw [Node.set_ne (h.2 _ _ (by simp)), Node.set_ne (h.2 _ _ (by simp)), Node.set_ne (h.2 _ _ (by simp))]

lemma Written.keeping (h : Written file total n done) (part : String) (hpos : ∀ x ∈ xs, 0 ≤ x) :
    Written file total (keeping n part xs (decide (runs xs = [(0, total part - 1)])))
      (update done part (some xs)) where
  labels := h.labels
  rest k hk := (keeping_rest hk).trans (h.rest k hk)
  keeps p := by
    by_cases hp : p = part
    · subst hp
      rw [update_self]
      exact ⟨keeping_start, keeping_stop⟩
    · rw [update_of_ne hp]
      exact ⟨(keeping_column hp (by simp)).trans (h.keeps p).start, (keeping_column hp (by simp)).trans (h.keeps p).stop⟩
  complete p := by
    by_cases hp : p = part
    · subst hp
      rw [update_self]
      exact keeping_complete
    · rw [update_of_ne hp]
      exact (keeping_column hp (by simp)).trans (h.complete p)
  pos p := by
    by_cases hp : p = part
    · subst hp
      rw [update_self]
      exact hpos
    · rw [update_of_ne hp]
      exact h.pos p

lemma set_flag_column (p : String) (hw : w = "start" ∨ w = "end" ∨ w = "complete") :
    (n.set "_dbcompleted_complete" flag).properties (column p w) = n.properties (column p w) :=
  Node.set_ne (column_ne_flag hw)

lemma Written.set_flag (h : Written file total n done) : Written file total (n.set "_dbcompleted_complete" flag) done where
  labels := h.labels
  rest k hk := (Node.set_ne hk.1).trans (h.rest k hk)
  keeps p := ⟨(set_flag_column p (by simp)).trans (h.keeps p).start, (set_flag_column p (by simp)).trans (h.keeps p).stop⟩
  complete p := (set_flag_column p (by simp)).trans (h.complete p)
  pos := h.pos

end Keeping

/-- The flag of a file can be computed from those of its parts. -/
lemma Written.conjunction_flags (h : Written file total n done) (parts : List String) :
    ∃ flag, conjunction (flags n parts) = some flag := by
  have htype : ∀ v ∈ flags n parts, v = .none ∨ ∃ b, v = .bool b := by
    intro v hv
    obtain ⟨p, _, rfl⟩ := mem_map.mp hv
    rw [h.complete p]
    cases done p with
    | none => exact .inl rfl
    | some xs => exact .inr ⟨_, rfl⟩
  obtain ⟨flag, hflag, _⟩ := conjunction_isSome htype
  exact ⟨flag, hflag⟩

lemma Written.mark (hfresh : j.Fresh file) (h : Written file total n done) (htotal : j.length b.part = total (partName b.part))
    (hrows : rows b.slice (.int (j.length b.part)) = .ok (xs.map .int)) (hpos : ∀ x ∈ xs, 0 ≤ x) :
    ∃ m, j.mark n b = some m ∧ j.Flagged m ∧ Written file total m
      (update done (partName b.part) (some (inOrder ((done (partName b.part)).getD [] ++ xs)))) := by
  have hall : ∀ x ∈ (done (partName b.part)).getD [] ++ xs, 0 ≤ x := fun x hx =>
    (mem_append.mp hx).elim (h.pos _ x) (hpos x)
  have hnew : ∀ x ∈ inOrder ((done (partName b.part)).getD [] ++ xs), 0 ≤ x := fun x hx => hall x (mem_inOrder.mp hx)
  have hkept := h.keeping (partName b.part) hnew
  obtain ⟨flag, hflag⟩ := hkept.conjunction_flags (j.parts.map partName)
  have hrun := marking_run (h.isAbout hfresh rfl) (asks xs) (h.keeps (partName b.part)) hall (htotal ▸ hflag)
  rw [← mark_eq hrows, htotal] at hrun
  refine ⟨_, hrun, ?_, hkept.set_flag⟩
  rw [Flagged, Node.set_self, ← hflag]
  congr 1
  exact map_congr_left fun p _ => set_flag_column p (by simp)

/-! ## What is kept after a sequence of marks -/

/-- The rows kept as done are those that batches pick. -/
structure Covers (j : Job) (bs : List Batch) (done : String → Option (List Int)) : Prop where
  untouched : ∀ p, done p = none ↔ ∀ b ∈ bs, partName b.part ≠ p
  increasing : ∀ p xs, done p = some xs → xs.Pairwise (· < ·)
  rows : ∀ p xs, done p = some xs → ∀ x, x ∈ xs ↔ x ∈ j.picked bs p

lemma mem_picked_snoc : x ∈ j.picked (bs ++ [b]) p ↔ x ∈ j.picked bs p ∨ partName b.part = p ∧ j.Picks b x := by
  simp only [picked, Set.mem_ofPred_eq, mem_append, mem_singleton, or_and_right, exists_or, exists_eq_left]

lemma Covers.mem_getD (h : j.Covers bs done) : x ∈ (done p).getD [] ↔ x ∈ j.picked bs p := by
  cases hp : done p with
  | none =>
    have hnone := (h.untouched p).mp hp
    refine ⟨fun hx => (by cases hx), ?_⟩
    rintro ⟨a, ha, hpart, _⟩
    exact absurd hpart (hnone a ha)
  | some xs => exact h.rows p xs hp x

lemma Covers.snoc (h : j.Covers bs done) {ys : List Int} (hpicks : ∀ x, j.Picks b x ↔ x ∈ ys) : j.Covers (bs ++ [b])
      (update done (partName b.part) (some (inOrder ((done (partName b.part)).getD [] ++ ys)))) := by
  refine ⟨fun p => ?_, fun p xs hp => ?_, fun p xs hp x => ?_⟩
  · by_cases hpart : p = partName b.part
    · subst hpart
      simp
    · rw [update_of_ne hpart, h.untouched p]
      simp only [forall_mem_append, forall_mem_singleton]
      exact ⟨fun hbs => ⟨hbs, Ne.symm hpart⟩, And.left⟩
  · by_cases hpart : p = partName b.part
    · subst hpart
      rw [update_self] at hp
      exact Option.some.inj hp ▸ inOrder_increasing _
    · rw [update_of_ne hpart] at hp
      exact h.increasing p xs hp
  · rw [mem_picked_snoc]
    by_cases hpart : p = partName b.part
    · subst hpart
      rw [update_self] at hp
      rw [← Option.some.inj hp, mem_inOrder, mem_append, h.mem_getD, hpicks]
      simp
    · rw [update_of_ne hpart] at hp
      rw [h.rows p xs hp x]
      simp [Ne.symm hpart]

/-- The marks of batches succeed, and the file keeps the rows that they pick. -/
lemma Fresh.markAll (h : j.Fresh file) (total : String → Int) (htotal : ∀ b ∈ bs, j.length b.part = total (partName b.part))
    (hvalid : ∀ b ∈ bs, j.Valid b) : ∃ n done, j.markAll file bs = some n ∧ Written file total n done ∧
      j.Covers bs done ∧ (bs ≠ [] → j.Flagged n) := by
  -- the marks are made one after the other, so the induction takes the last one off
  induction bs using reverseRecOn with
  | nil =>
    refine ⟨file, fun _ => none, rfl, h.written, ⟨by simp, ?_, ?_⟩, fun hne => absurd rfl hne⟩
    · intro p xs hp
      cases hp
    · intro p xs hp
      cases hp
  | append_singleton bs b ih =>
    obtain ⟨n, done, hrun, hwritten, hcovers, _⟩ := ih (fun a ha => htotal a (by simp [ha])) fun a ha => hvalid a (by simp [ha])
    obtain ⟨ys, hys, hpicks⟩ := (hvalid b (by simp)).list
    obtain ⟨m, hmark, hflag, hnext⟩ := hwritten.mark h (htotal b (by simp)) hys fun x hx => ((hpicks x).mpr hx).bounds.1
    refine ⟨m, _, ?_, hnext, ?_, fun _ => hflag⟩
    · rw [Job.markAll, foldlM_append, ← Job.markAll, hrun]
      simp [hmark]
    · exact hcovers.snoc hpicks
end Job
end Batch
end SurveyGraph
