import SurveyGraph.Proofs.Reach
import SurveyGraph.Proofs.Runs
import SurveyGraph.Proofs.StoreEval
import SurveyGraph.Survey.Batch
/-!
# The mark of a batch

What the statement `marking` does to the node of a file. It reads the intervals kept for a part back into rows, adds the rows
of the batch and a stop mark, and cuts the whole into intervals again, the runs of all rows (`eval_intervals`,
`eval_shortened`). Then it says whether the part, and whether all parts, are complete (`marking_run`).
-/
open List hiding sum

namespace SurveyGraph.Batch

open Store

def pair (r : Int × Int) : Value := .list [.int r.1, .int r.2]

/-! ## Intervals -/

section Intervals

variable {s : Scope} {v : List Int}

lemma eval_nextPlace (k : Nat) : nextPlace.eval (s.bind "x" (.int k)) = some (.int (k + 1 : Nat)) :=
  eval_binary (by rw [eval_var, lookup_bind_self]) rfl rfl

variable (h : s.vars.lookup "done" = some (.list (v.map .int)))
include h

lemma eval_isCut {k : Nat} (hk : k + 1 < v.length) :
    (isCut (.var "done")).eval (s.bind "x" (.int k)) = some (.bool (v.getD k 0 != v.getD (k + 1) 0 - 1)) := by
  have hdone : (Expr.var "done").eval (s.bind "x" (.int k)) = some (.list (v.map .int)) := by
    rw [eval_var, lookup_bind_ne (by decide), h]
  have hx : (Expr.var "x").eval (s.bind "x" (.int k)) = some (.int k) := by rw [eval_var, lookup_bind_self]
  have hhere := eval_index hdone hx (member_int (by omega))
  have hnext := eval_index hdone (eval_nextPlace k) (member_int hk)
  exact eval_binary hhere (eval_binary hnext rfl rfl) rfl

lemma eval_beginnings :
    (beginnings (.var "done")).eval s = some (.list ((0 :: cuts v).map (fun (c : Nat) => .int c))) := by
  have hsize : (Expr.call .size [.var "done"] .around).eval s = some (.int v.length) :=
    eval_call (evalAll_one h) (by simp [Fn.apply])
  have hplaces : (Expr.call .range [.int 0, .binary .minus .none (.call .size [.var "done"] .around) (.int 2)]
      .around).eval s = some (.list ((range (v.length - 1)).map (fun (k : Nat) => .int k))) := by
    refine eval_call (evalAll_two rfl (eval_binary hsize rfl rfl)) ?_
    simp [Fn.apply, upTo, show ((v.length : Int) - 2 + 1).toNat = v.length - 1 by omega]
  have hcuts := eval_eachWhere hplaces (fun k hk => eval_isCut h (by
    have := mem_range.mp hk
    omega)) (fun k _ => eval_nextPlace k)
  refine eval_binary rfl hcuts ?_
  simp [Op.apply, sum, ← cuts_eq v]

lemma eval_interval {p : Nat × Option Nat} (hc : p.1 < v.length) (hd : ∀ d, p.2 = some d → 0 < d ∧ d < v.length) :
    (interval (.var "done")).eval (s.bind "c" (.list [.int p.1, p.2.elim .none (fun (d : Nat) => .int d)])) =
      some (pair (span v p)) := by
  obtain ⟨c, d⟩ := p
  have hdone : ∀ x, (Expr.var "done").eval (s.bind "c" x) = some (.list (v.map .int)) := fun x => by
    rw [eval_var, lookup_bind_ne (by decide), h]
  have hpair : ∀ x, (Expr.var "c").eval (s.bind "c" x) = some x := fun x => by rw [eval_var, lookup_bind_self]
  have hfirst := eval_index (hdone _) (eval_index (i := .int 0)
    (hpair (.list [.int c, d.elim .none (fun (d : Nat) => .int d)])) rfl rfl) (member_int hc)
  have hsecond : (Expr.index (.var "c") (.int 1)).eval (s.bind "c" (.list [.int c, d.elim .none fun (d : Nat) => .int d])) =
      some (d.elim .none fun (d : Nat) => .int d) := eval_index (hpair _) rfl rfl
  cases d with
  | none =>
    have hlast := eval_index (i := .int (-1)) (hdone (.list [.int c, .none])) rfl
      (member_last (ne_nil_of_length_pos (Nat.zero_lt_of_lt hc)))
    rw [interval, eval_choose_true (eval_isNull_true hsecond)]
    exact eval_list (evalAll_two hfirst hlast)
  | some d =>
    obtain ⟨hpos, hlt⟩ := hd d rfl
    have hbelow : (oneBelow (.index (.var "c") (.int 1))).eval (s.bind "c" (.list [.int c, .int d])) =
        some (.int (d - 1 : Nat)) := by
      refine eval_binary hsecond rfl ?_
      simp [Op.apply, difference]
      omega
    have hlast := eval_index (hdone _) hbelow (member_int (by omega))
    rw [interval, eval_choose_false (eval_isNull_false hsecond)]
    exact eval_list (evalAll_two hfirst hlast)

lemma eval_intervals (hv : v ≠ []) : (intervals (.var "done")).eval s = some (.list ((spans v (0 :: cuts v)).map pair)) := by
  have hnexts : ∀ ps : List Nat, withNext (ps.map (fun (c : Nat) => .int c)) =
      (nexts ps).map (fun p => .list [.int p.1, p.2.elim .none (fun (d : Nat) => .int d)]) := by
    intro ps
    induction ps with
    | nil => rfl
    | cons c ps ih =>
      cases ps with
      | nil => rfl
      | cons d ps => exact congrArg _ ih
  rw [spans, map_map]
  refine eval_each (eval_call (evalAll_one (eval_beginnings h)) (by rw [Fn.apply, hnexts])) fun p hp => ?_
  obtain ⟨hc, hd⟩ := mem_nexts hp
  refine eval_interval h ?_ fun d hsome => ⟨cuts_pos v d (hd d hsome), cuts_lt v d (hd d hsome)⟩
  rcases mem_cons.mp hc with hc | hc
  · exact hc ▸ length_pos_iff.mpr hv
  · exact cuts_lt v _ hc

end Intervals

/-! ## One mark -/

/-- Numbers in increasing order, each once. -/
def inOrder (xs : List Int) : List Int := xs.eraseDups.mergeSort (· ≤ ·)

lemma mem_inOrder {xs : List Int} {n : Int} : n ∈ inOrder xs ↔ n ∈ xs := by simp [inOrder]

lemma inOrder_increasing (xs : List Int) : (inOrder xs).Pairwise (· < ·) := by
  have hle : (inOrder xs).Pairwise (fun a b => decide (a ≤ b) = true) :=
    pairwise_mergeSort (fun a b c => by simp only [decide_eq_true_eq]; omega)
      (fun a b => by simp only [Bool.or_eq_true, decide_eq_true_eq]; omega) _
  have hne : (inOrder xs).Nodup := (mergeSort_perm _ _).nodup_iff.mpr (Shortest.nodup_eraseDups xs)
  exact (hle.and hne).imp fun ⟨h1, h2⟩ => by
    simp only [decide_eq_true_eq] at h1
    omega

/-- The first or last numbers of the runs of a list, as they are kept. -/
def ends (f : Int × Int → Int) : Option (List Int) → Value
  | none => .none
  | some xs => .list ((runs xs).map (.int ∘ f))

section Numbers

variable {s : Scope} {old : Option (List Int)}

lemma eval_already {start stop : Expr} (hstart : start.eval s = some (ends (·.1) old)) (hstop : stop.eval s = some (ends (·.2) old)) :
    (Expr.call .zip [start, stop] .around).eval s = some (old.elim .none fun xs => .list ((runs xs).map pair)) := by
  refine eval_call (evalAll_two hstart hstop) ?_
  cases old with
  | none => rfl
  | some xs =>
    have hpaired : ∀ rs : List (Int × Int), paired (rs.map (.int ∘ (·.1))) (rs.map (.int ∘ (·.2))) = rs.map pair := by
      intro rs
      induction rs with
      | nil => rfl
      | cons r rs ih => exact congrArg _ ih
    simp only [ends, Fn.apply, hpaired, Option.elim_some]

lemma eval_numbers (old : Option (List Int)) (h : s.vars.lookup "already_intervals" =
    some (old.elim .none fun xs => .list ((runs xs).map pair))) :
    (numbers (.var "already_intervals")).eval s = some (old.elim .none fun xs => .list (xs.map .int)) := by
  cases old with
  | none => exact eval_call (evalAll_one (eval_each_null h)) rfl
  | some xs =>
    have hjoined : ∀ rs : List (Int × Int), joined (rs.map (fun r => .list ((upTo r.1 r.2).map .int))) =
        (rs.flatMap (fun r => upTo r.1 r.2)).map .int := by
      intro rs
      induction rs with
      | nil => rfl
      | cons r rs ih => simp [joined, ih]
    refine eval_call (evalAll_one (eval_each h fun r _ => ?_)) (by rw [Fn.apply, hjoined, flatMap_runs]; rfl)
    have hi : (Expr.var "i").eval (s.bind "i" (pair r)) = some (pair r) := by rw [eval_var, lookup_bind_self]
    exact eval_call (evalAll_two (eval_index hi rfl rfl) (eval_index hi rfl rfl)) rfl

lemma eval_together {rows : List Int} (h : s.vars.lookup "already_done" = some (old.elim .none fun xs => .list (xs.map .int)))
    (hrows : s.params.lookup "_check_completed" = some (.list (rows.map .int))) :
    together.eval s = some (.list ((inOrder (old.getD [] ++ rows) ++ [-1]).map .int)) := by
  have hold : (Expr.call .coalesce [.var "already_done", .list [] .around] .around).eval s =
      some (.list ((old.getD []).map .int)) := by
    refine eval_call (evalAll_two h (eval_list evalAll_nil)) ?_
    cases old <;> rfl
  have hall : (Expr.binary .plus .around (.call .coalesce [.var "already_done", .list [] .around] .around)
      (.param "_check_completed")).eval s = some (.list ((old.getD [] ++ rows).map .int)) :=
    eval_binary hold hrows (by rw [map_append]; rfl)
  have hset := eval_call (f := .toSet) (g := .around) (evalAll_one hall) (by rw [Fn.apply, ints_map]; rfl)
  have hsorted := eval_call (f := .sort) (g := .around) (evalAll_one hset) (by rw [Fn.apply, ints_map]; rfl)
  exact eval_binary hsorted rfl (by simp [Op.apply, sum, inOrder])

end Numbers

/-! ## Names of properties -/

lemma toList_column (p w : String) : (column p w).toList = "_dbcompleted_".toList ++ (p.toList ++ '_' :: w.toList) := by
  simp [column, String.toList_append]

lemma column_inj {p q w : String} (h : column p w = column q w) : p = q := by
  have hlist := congrArg String.toList h
  rw [toList_column, toList_column, append_cancel_left_eq, append_cancel_right_eq] at hlist
  exact String.toList_inj.mp hlist

lemma column_ne {p q v w : String} {a b : Char} (hv : v.toList.getLast? = some a) (hw : w.toList.getLast? = some b)
    (hab : a ≠ b) : column p v ≠ column q w := by
  intro h
  have hlast := congrArg (fun s => s.toList.getLast?) h
  simp [toList_column, getLast?_append, getLast?_cons, hv, hw] at hlast
  exact hab hlast

lemma column_ne_flag {p w : String} (h : w = "start" ∨ w = "end" ∨ w = "complete") : column p w ≠ "_dbcompleted_complete" := by
  intro heq
  have hlist := congrArg String.toList heq
  rw [toList_column, show "_dbcompleted_complete".toList = "_dbcompleted_".toList ++ "complete".toList by decide] at hlist
  rcases h with rfl | rfl | rfl
  · have := congrArg List.getLast? hlist
    simp [getLast?_append, getLast?_cons] at this
  · have := congrArg List.getLast? hlist
    simp [getLast?_append, getLast?_cons] at this
  · have := congrArg List.length hlist
    simp at this

/-! ## The statement -/

lemma sameAll_pairs : ∀ rs qs : List (Int × Int), sameAll (rs.map pair) (qs.map pair) = some (.bool (decide (rs = qs)))
  | [], [] => rfl
  | [], _ :: _ => rfl
  | _ :: _, [] => rfl
  | r :: rs, q :: qs => by
    have hpair : same (pair r) (pair q) = some (.bool ((r.1 == q.1) && ((r.2 == q.2) && true))) :=
      sameAll_cons rfl (sameAll_cons rfl rfl)
    have heq : ((r.1 == q.1) && ((r.2 == q.2) && true)) = decide (r = q) := by
      by_cases h1 : r.1 = q.1 <;> by_cases h2 : r.2 = q.2 <;> simp [Prod.ext_iff, h1, h2]
    rw [map_cons, map_cons, sameAll_cons hpair (sameAll_pairs rs qs), heq]
    simp

/-- Parameters ask to mark rows of a part of some length. -/
structure Asks (params : List (String × Value)) (rows : List Int) (parts : List String) (total : Int) : Prop where
  rows : params.lookup "_check_completed" = some (.list (rows.map .int))
  parts : params.lookup "_check_parts" = some (.list (parts.map .text))
  total : params.lookup "_check_total_length" = some (.int total)

/-- The rows of a part that a node says are done. -/
structure Keeps (n : Node) (part : String) (old : Option (List Int)) : Prop where
  start : n.properties (column part "start") = ends (·.1) old
  stop : n.properties (column part "end") = ends (·.2) old

/-- The node that keeps some rows of a part, which are all or not. -/
def keeping (n : Node) (part : String) (rows : List Int) (isAll : Bool) : Node :=
  ((n.set (column part "start") (ends (·.1) (some rows))).set (column part "end") (ends (·.2) (some rows))).set
    (column part "complete") (.bool isAll)

/-- Whether each part is said to be complete. -/
def flags (n : Node) (parts : List String) : List Value := parts.map (fun p => n.properties (column p "complete"))

variable {n : Node} {part : String} {params : List (String × Value)} {rows : List Int} {parts : List String} {total : Int}
  {old : Option (List Int)}

section Completion

variable {s : Scope} {r : List (Int × Int)}

lemma eval_whole (htotal : s.params.lookup "_check_total_length" = some (.int total)) :
    whole.eval s = some (.list ([(0, total - 1)].map pair)) :=
  eval_list (evalAll_one (eval_list (evalAll_two rfl (eval_binary htotal rfl rfl))))

lemma eval_shortened (h : s.vars.lookup "done_intervals" = some (.list ((r ++ [(-1, -1)]).map pair))) :
    shortened.eval s = some (.list (r.map pair)) := by
  have hsize : (Expr.call .size [.var "done_intervals"] .around).eval s = some (.int (r.length + 1 : Nat)) :=
    eval_call (evalAll_one h) (by simp [Fn.apply])
  rw [shortened, found, eval_choose_false (eval_binary hsize rfl (by simp [Op.apply, same]; omega))]
  rw [map_append] at h
  exact eval_upTo h rfl before_last

lemma eval_starts (h : s.vars.lookup "done_intervals" = some (.list (r.map pair))) :
    (endsOf 0).eval s = some (.list (r.map (.int ∘ (·.1)))) :=
  eval_each h fun _ _ => eval_index lookup_bind_self rfl rfl

lemma eval_stops (h : s.vars.lookup "done_intervals" = some (.list (r.map pair))) :
    (endsOf 1).eval s = some (.list (r.map (.int ∘ (·.2)))) :=
  eval_each h fun _ _ => eval_index lookup_bind_self rfl rfl

lemma eval_isWhole (h : s.vars.lookup "done_intervals" = some (.list (r.map pair)))
    (htotal : s.params.lookup "_check_total_length" = some (.int total)) :
    (Expr.binary .equal .around found whole).eval s = some (.bool (decide (r = [(0, total - 1)]))) :=
  eval_binary h (eval_whole htotal) (sameAll_pairs r _)

lemma eval_areComplete (hname : s.name = "f") (hparts : s.params.lookup "_check_parts" = some (.list (parts.map .text)))
    {flag : Value} (h : conjunction (flags s.node parts) = some flag) : areComplete.eval s = some flag := by
  have hsource : (Expr.param "_check_parts").eval s = some (.list (parts.map .text)) := hparts
  rw [areComplete, eval_all (fun p => s.node.properties (column p "complete")) hsource]
  · exact h
  · intro p _
    have hcolumn : "_dbcompleted_" ++ p ++ "_complete" = column p "complete" := by
      simp only [column, String.append_assoc]
      rfl
    have hname : ∀ x, (s.bind "x" x).name = "f" := fun _ => hname
    rw [← hname (.text p), eval_field]
    · rfl
    · rw [← hcolumn]
      exact eval_binary (eval_binary rfl lookup_bind_self rfl) rfl rfl

end Completion

/-- A mark adds its rows to those kept for its part, and says anew what is complete. -/
lemma marking_run (habout : (marking part).isAbout params n = some true) (hask : Asks params rows parts total)
    (hold : Keeps n part old) (hpos : ∀ x ∈ old.getD [] ++ rows, 0 ≤ x) {flag : Value}
    (hflag : conjunction (flags (keeping n part (inOrder (old.getD [] ++ rows))
      (decide (runs (inOrder (old.getD [] ++ rows)) = [(0, total - 1)]))) parts) = some flag) :
    (marking part).run params n = some ((keeping n part (inOrder (old.getD [] ++ rows))
      (decide (runs (inOrder (old.getD [] ++ rows)) = [(0, total - 1)]))).set "_dbcompleted_complete" flag) := by
  generalize hnew : inOrder (old.getD [] ++ rows) = new at hflag ⊢
  have hnewpos : ∀ x ∈ new, 0 ≤ x := fun x hx => hpos x (mem_inOrder.mp (hnew ▸ hx))
  let s₀ : Scope := { name := "f", node := n, params }
  have h₁ : (Expr.call .zip [.property "f" (column part "start"), .property "f" (column part "end")] .around).eval s₀ =
      some (old.elim .none fun xs => .list ((runs xs).map pair)) :=
    eval_already (by rw [← hold.start]; exact eval_property) (by rw [← hold.stop]; exact eval_property)
  let s₁ := s₀.bind "already_intervals" (old.elim .none fun xs => .list ((runs xs).map pair))
  have h₂ := eval_numbers old (s := s₁) lookup_bind_self
  let s₂ := s₁.bind "already_done" (old.elim .none fun xs => .list (xs.map .int))
  have h₃ := eval_together (s := s₂) lookup_bind_self hask.rows
  rw [hnew] at h₃
  let s₃ := s₂.bind "done" (.list ((new ++ [-1]).map .int))
  have h₄ := eval_intervals (s := s₃) lookup_bind_self (by simp)
  rw [spans_cuts new hnewpos] at h₄
  let s₄ := s₃.bind "done_intervals" (.list ((runs new ++ [(-1, -1)]).map pair))
  have h₅ := eval_shortened (s := s₄) lookup_bind_self
  let s₅ := s₄.bind "done_intervals" (.list ((runs new).map pair))
  have h₆ := eval_starts (s := s₅) lookup_bind_self
  let s₆ : Scope := { s₅ with node := n.set (column part "start") (ends (·.1) (some new)) }
  have h₇ := eval_stops (s := s₆) lookup_bind_self
  let s₇ : Scope := { s₆ with node := s₆.node.set (column part "end") (ends (·.2) (some new)) }
  have h₈ := eval_isWhole (s := s₇) lookup_bind_self hask.total
  let s₈ : Scope := { s₇ with node := keeping n part new (decide (runs new = [(0, total - 1)])) }
  have h₉ := eval_areComplete (s := s₈) rfl hask.parts hflag
  have hrun : (marking part).clauses.foldlM Clause.run s₀ = some
      { s₈ with node := s₈.node.set "_dbcompleted_complete" flag } := by
    calc (marking part).clauses.foldlM Clause.run s₀
      _ = _ := run_bind h₁
      _ = _ := run_bind h₂
      _ = _ := run_bind h₃
      _ = _ := run_bind h₄
      _ = _ := run_bind h₅
      _ = _ := run_set h₆
      _ = _ := run_set h₇
      _ = _ := run_set h₈
      _ = _ := run_set h₉
  rw [Update.run, habout]
  show ((marking part).clauses.foldlM Clause.run s₀).bind _ = _
  rw [hrun]
  rfl

end SurveyGraph.Batch
