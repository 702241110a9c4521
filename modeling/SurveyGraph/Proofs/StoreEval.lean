import Mathlib.Tactic.Lemma
import SurveyGraph.Store.Eval
/-!
# Values of expressions

How the value of an expression comes from the values of its parts: one equation for each form of expression, for parts
that have values. A statement that runs over a list says what it does with a list of any kind of things, `ys.map g`.
-/
open List

namespace SurveyGraph.Store
open SurveyGraph.Store.Expr

variable {s : Scope} {e i a b source cond result yes no : Expr} {x y z : Value} {v w p : String} {cs : List Clause} {n : Node}

attribute [local simp] eval evalAll Clause.run

/-! ## Scopes -/

lemma lookup_bind_self : (s.bind v x).vars.lookup v = some x := by
  simp [Scope.bind]

lemma lookup_bind_ne (h : v ≠ w) : (s.bind w x).vars.lookup v = s.vars.lookup v := by
  simp [Scope.bind, lookup_cons, beq_eq_false_iff_ne.mpr h]

/-! ## Expressions -/

lemma eval_var : (var v).eval s = s.vars.lookup v := rfl

lemma eval_property : (property s.name p).eval s = some (s.node.properties p) := by
  simp [Scope.nodeAt]

lemma eval_field (he : e.eval s = some (.text p)) : (field s.name e).eval s = some (s.node.properties p) := by
  simp [Scope.nodeAt, he]

variable {es : List Expr} {g : Gap} {xs : List Value}

lemma eval_list (h : evalAll es s = some xs) : (list es g).eval s = some (.list xs) := by
  simp [h]

lemma eval_call {f : Fn} (h : evalAll es s = some xs) (hf : f.apply xs = some z) : (call f es g).eval s = some z := by
  simp [h, hf]

lemma evalAll_nil : evalAll [] s = some [] := rfl

lemma evalAll_cons (he : e.eval s = some x) (hes : evalAll es s = some xs) : evalAll (e :: es) s = some (x :: xs) := by
  simp [he, hes]

lemma evalAll_one (he : e.eval s = some x) : evalAll [e] s = some [x] := evalAll_cons he evalAll_nil

lemma evalAll_two (ha : a.eval s = some x) (hb : b.eval s = some y) : evalAll [a, b] s = some [x, y] :=
  evalAll_cons ha (evalAll_one hb)

lemma eval_index (he : e.eval s = some x) (hi : i.eval s = some y) (h : member x y = some z) :
    (index e i).eval s = some z := by
  simp [he, hi, h]

lemma eval_upTo (he : e.eval s = some x) (hi : i.eval s = some y) (h : before x y = some z) :
    (Expr.upTo e i).eval s = some z := by
  simp [he, hi, h]

lemma eval_binary {op : Op} (ha : a.eval s = some x) (hb : b.eval s = some y)
    (h : op.apply x y = some z) : (binary op g a b).eval s = some z := by
  simp [ha, hb, h]

lemma eval_isNull_true (he : e.eval s = some .none) : (isNull e).eval s = some (.bool true) := by
  simp [he]

lemma eval_isNull_false {n : Int} (he : e.eval s = some (.int n)) : (isNull e).eval s = some (.bool false) := by
  simp [he]

lemma eval_choose_true (hc : cond.eval s = some (.bool true)) : (choose cond yes no).eval s = yes.eval s := by
  simp [hc, met]

lemma eval_choose_false (hc : cond.eval s = some (.bool false)) : (choose cond yes no).eval s = no.eval s := by
  simp [hc, met]

/-! ## Lists gone through -/

section

variable {α : Type} {g f : α → Value} {p : α → Bool}

lemma collect_map {k : Value → Option (Option Value)} : ∀ (ys : List α),
    (∀ y ∈ ys, k (g y) = some (if p y then some (f y) else none)) → collect k (ys.map g) = some ((ys.filter p).map f)
  | [], _ => rfl
  | y :: ys, h => by
    have ih := collect_map ys (fun z hz => h z (mem_cons_of_mem y hz))
    rw [map_cons, collect, h y (by simp), ih]
    cases hy : p y <;> simp [hy]

variable {ys : List α}

lemma collect_map_all (k : Value → Option Value) (h : ∀ y ∈ ys, k (g y) = some (f y)) :
    collect (fun x => (k x).map some) (ys.map g) = some (ys.map f) := by
  have hall := collect_map (k := fun x => (k x).map some) (g := g) (f := f) (p := fun _ => true) ys
    (fun y hy => by simp [h y hy])
  rwa [filter_eq_self.mpr (fun _ _ => rfl)] at hall

lemma eval_each (hsource : source.eval s = some (.list (ys.map g))) (h : ∀ y ∈ ys, result.eval (s.bind v (g y)) = some (f y)) :
    (each v source result).eval s = some (.list (ys.map f)) := by
  simp [hsource, collect_map_all (fun x => result.eval (s.bind v x)) h]

lemma eval_each_null (hsource : source.eval s = some .none) : (each v source result).eval s = some .none := by
  simp [hsource]

lemma eval_eachWhere (hsource : source.eval s = some (.list (ys.map g)))
    (hcond : ∀ y ∈ ys, cond.eval (s.bind v (g y)) = some (.bool (p y)))
    (hresult : ∀ y ∈ ys, result.eval (s.bind v (g y)) = some (f y)) :
    (eachWhere v source cond result).eval s = some (.list ((ys.filter p).map f)) := by
  simp only [eval, hsource, Option.bind_eq_bind, Option.bind_some]
  rw [collect_map ys]
  · rfl
  · intro y hy
    simp only [hcond y hy, hresult y hy, met, Option.bind_some]
    split <;> rfl

lemma eval_all (f : α → Value) (hsource : source.eval s = some (.list (ys.map g)))
    (hcond : ∀ y ∈ ys, cond.eval (s.bind v (g y)) = some (f y)) : (all v source cond).eval s = conjunction (ys.map f) := by
  simp [hsource, collect_map_all (fun x => cond.eval (s.bind v x)) hcond]

end

/-! ## Statements -/

lemma run_bind (he : e.eval s = some x) :
    (Clause.bind e v :: cs).foldlM Clause.run s = cs.foldlM Clause.run (s.bind v x) := by
  simp [he]

lemma run_set (he : e.eval s = some x) :
    (Clause.set v e :: cs).foldlM Clause.run s = cs.foldlM Clause.run { s with node := s.node.set v x } := by
  simp [he]

lemma Node.set_self : (n.set v x).properties v = x := by simp [Node.set]

lemma Node.set_ne (h : v ≠ w) : (n.set w x).properties v = n.properties v := by simp [Node.set, h]

/-! ## Operations -/

lemma ints_map (xs : List Int) : ints (xs.map .int) = some xs := by
  induction xs with
  | nil => rfl
  | cons x xs ih => simp [ints, ih]

lemma member_int {xs : List Int} {c : Nat} (h : c < xs.length) :
    member (.list (xs.map .int)) (.int c) = some (.int (xs.getD c 0)) := by
  have hc : ¬ (c : Int) < 0 := by omega
  simp [member, place, hc, h]

lemma member_last {xs : List Int} (h : xs ≠ []) : member (.list (xs.map .int)) (.int (-1)) = some (.int (xs.getLastD 0)) := by
  obtain ⟨xs, x, rfl⟩ := (eq_nil_or_concat xs).resolve_left h
  have hplace : -1 + ((xs.length : Int) + 1) = xs.length := by omega
  have hpos : ¬ (xs.length : Int) < 0 := by omega
  simp [member, place, hplace, hpos]

lemma before_last : before (.list (xs ++ [x])) (.int (-1)) = some (.list xs) := by
  have hplace : (place (xs.length + 1) (-1)).toNat = xs.length := by
    rw [place]
    omega
  simp only [before, length_append, length_singleton, hplace, take_left]

lemma sameAll_cons {ys : List Value} {b c : Bool} (h : same x y = some (.bool b))
    (ht : sameAll xs ys = some (.bool c)) : sameAll (x :: xs) (y :: ys) = some (.bool (b && c)) := by
  rw [sameAll, h, ht]
  cases b <;> cases c <;> rfl

lemma conjunction_true : conjunction xs = some (.bool true) ↔ ∀ x ∈ xs, x = .bool true := by
  induction xs with
  | nil => simp [conjunction]
  | cons x xs ih =>
    rw [forall_mem_cons, ← ih, conjunction]
    cases hrest : conjunction xs with
    | none => simp
    | some r =>
      simp only [Option.bind_eq_bind, Option.bind_some, Option.some.injEq]
      split <;> simp_all

lemma conjunction_isSome (h : ∀ x ∈ xs, x = .none ∨ ∃ b, x = .bool b) :
    ∃ r, conjunction xs = some r ∧ (r = .none ∨ ∃ b, r = .bool b) := by
  induction xs with
  | nil => exact ⟨.bool true, rfl, .inr ⟨true, rfl⟩⟩
  | cons x xs ih =>
    obtain ⟨r, hr, htype⟩ := ih fun y hy => h y (mem_cons_of_mem x hy)
    rw [conjunction, hr]
    obtain rfl | ⟨b, rfl⟩ := h x (by simp)
    · obtain rfl | ⟨c, rfl⟩ := htype
      · exact ⟨_, rfl, .inl rfl⟩
      · cases c
        · exact ⟨_, rfl, .inr ⟨_, rfl⟩⟩
        · exact ⟨_, rfl, .inl rfl⟩
    · obtain rfl | ⟨c, rfl⟩ := htype
      · cases b
        · exact ⟨_, rfl, .inr ⟨_, rfl⟩⟩
        · exact ⟨_, rfl, .inl rfl⟩
      · cases b <;> cases c <;> exact ⟨_, rfl, .inr ⟨_, rfl⟩⟩

end SurveyGraph.Store
