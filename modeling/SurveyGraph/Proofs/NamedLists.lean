import Mathlib.Data.List.DropRight
import SurveyGraph.Schema.Identity
/-!
# Lists of named things

What is found under a name when one name has been set or taken away, and what it means that all names are different. Names that
are made of a text and a number are different if neither the texts nor the numbers are the same, unless a text ends in a digit.
-/
open List

namespace SurveyGraph

variable {α : Type} {k n name : String} {a b : α} {xs : List (String × α)}

lemma lookup_cons_if : ((n, a) :: xs).lookup k = if k = n then some a else xs.lookup k := by
  by_cases h : k = n
  · simp [h]
  · have hne : (k == n) = false := beq_false_of_ne h
    rw [lookup_cons, hne, if_neg h]

lemma lookup_setNamed (name k : String) (a : α) (xs : List (String × α)) :
    (setNamed name a xs).lookup k = if k = name then some a else xs.lookup k := by
  induction xs with
  | nil => exact lookup_cons_if
  | cons x xs ih =>
    obtain ⟨n, b⟩ := x
    by_cases hn : n = name
    · subst hn
      simp only [setNamed, BEq.rfl, if_true, lookup_cons_if]
      split <;> rfl
    · simp only [setNamed, beq_iff_eq, hn, if_false, lookup_cons_if, ih]
      by_cases hk : k = n
      · simp [hk, hn]
      · simp [hk]

lemma lookup_filter_ne (h : k ≠ name) : ∀ xs : List (String × α), (xs.filter (·.1 != name)).lookup k = xs.lookup k
  | [] => rfl
  | (n, b) :: xs => by
    have ih := lookup_filter_ne h xs
    by_cases hn : n = name
    · rw [filter_cons_of_neg (by simp [hn]), ih, lookup_cons_if, if_neg (hn ▸ h)]
    · rw [filter_cons_of_pos (by simp [hn]), lookup_cons_if, lookup_cons_if, ih]

lemma map_fst_setNamed (name : String) (a : α) (xs : List (String × α)) :
    (setNamed name a xs).map (·.1) = if name ∈ xs.map (·.1) then xs.map (·.1) else xs.map (·.1) ++ [name] := by
  induction xs with
  | nil => rfl
  | cons x xs ih =>
    obtain ⟨n, b⟩ := x
    by_cases hn : n = name
    · simp [setNamed, hn]
    · have hne : ¬name = n := fun h => hn h.symm
      simp only [setNamed, beq_iff_eq, hn, if_false, map_cons, ih, mem_cons, hne, false_or]
      split <;> rfl

lemma mem_setNamed {e : String × α} (h : e ∈ setNamed name a xs) : e = (name, a) ∨ e ∈ xs := by
  induction xs with
  | nil => exact .inl (mem_singleton.mp h)
  | cons x xs ih =>
    rw [setNamed] at h
    split at h
    · rename_i hx
      rcases mem_cons.mp h with rfl | h
      · exact .inl (by rw [beq_iff_eq.mp hx])
      · exact .inr (.tail _ h)
    · rcases mem_cons.mp h with rfl | h
      · exact .inr (.head _)
      · exact (ih h).imp_right (mem_cons_of_mem _)

lemma nodup_setNamed (h : (xs.map (·.1)).Nodup) : ((setNamed name a xs).map (·.1)).Nodup := by
  rw [map_fst_setNamed]
  split
  · exact h
  · rename_i hn
    refine nodup_append.mpr ⟨h, by simp, fun x hx y hy hxy => ?_⟩
    rw [mem_singleton.mp hy] at hxy
    exact hn (hxy ▸ hx)

lemma mem_of_lookup (h : xs.lookup k = some a) : (k, a) ∈ xs := by
  obtain ⟨ys, zs, rfl, -⟩ := lookup_eq_some_iff.mp h
  simp

lemma isSome_lookup_iff : (xs.lookup k).isSome ↔ k ∈ xs.map (·.1) := by
  simp [lookup_isSome_iff]

lemma lookup_eq_none_iff : xs.lookup k = none ↔ k ∉ xs.map (·.1) := by
  rw [← isSome_lookup_iff, Option.not_isSome_iff_eq_none]

lemma filter_of_lookup_none (h : xs.lookup k = none) : xs.filter (·.1 != k) = xs := by
  refine filter_eq_self.mpr fun x hx => ?_
  have hne : x.1 ≠ k := fun he => lookup_eq_none_iff.mp h (he ▸ mem_map_of_mem hx)
  simpa using hne

lemma mem_iff_lookup : ∀ {xs : List (String × α)}, (xs.map (·.1)).Nodup → ((k, a) ∈ xs ↔ xs.lookup k = some a)
  | [], _ => by simp
  | (n, b) :: xs, h => by
    obtain ⟨hn, hxs⟩ := nodup_cons.mp h
    rw [lookup_cons_if, mem_cons, mem_iff_lookup hxs]
    by_cases hk : k = n
    · subst hk
      have hnot : xs.lookup k ≠ some a := fun hs => hn (isSome_lookup_iff.mp (by simp [hs]))
      simp [hnot, eq_comm]
    · simp [hk]

/-! ## Tables of names -/

section Tables

variable {β : Type} {f : α → String} {g : α → β} {b : β} {as : List α} {acc : List (String × β)}

lemma lookup_foldl_setNamed (h : (as.foldl (fun acc a => setNamed (f a) (g a) acc) acc).lookup k = some b) :
    (∃ a ∈ as, f a = k ∧ g a = b) ∨ acc.lookup k = some b := by
  induction as generalizing acc with
  | nil => exact .inr h
  | cons a as ih =>
    rcases ih h with ⟨c, hmem, hname⟩ | h
    · exact .inl ⟨c, .tail _ hmem, hname⟩
    · rw [lookup_setNamed] at h
      split at h
      · rename_i hk
        exact .inl ⟨a, .head _, hk.symm, Option.some.inj h⟩
      · exact .inr h

lemma isSome_lookup_foldl_setNamed (h : (∃ a ∈ as, f a = k) ∨ (acc.lookup k).isSome) :
    ((as.foldl (fun acc a => setNamed (f a) (g a) acc) acc).lookup k).isSome := by
  induction as generalizing acc with
  | nil => simpa using h
  | cons b as ih =>
    refine ih ?_
    rw [lookup_setNamed]
    by_cases hk : k = f b
    · exact .inr (by simp [hk])
    · rcases h with ⟨a, ha, hname⟩ | h
      · rcases mem_cons.mp ha with rfl | ha
        · exact absurd hname.symm hk
        · exact .inl ⟨a, ha, hname⟩
      · exact .inr (by simpa [hk] using h)

lemma lookup_foldl_of_injOn (hinj : ∀ a ∈ as, ∀ b ∈ as, f a = f b → g a = g b) (ha : a ∈ as) :
    (as.foldl (fun acc a => setNamed (f a) (g a) acc) []).lookup (f a) = some (g a) := by
  obtain ⟨b, hb⟩ := Option.isSome_iff_exists.mp (isSome_lookup_foldl_setNamed (.inl ⟨a, ha, rfl⟩))
  rcases lookup_foldl_setNamed hb with ⟨c, hmem, hname, rfl⟩ | h
  · rw [hb, hinj c hmem a ha hname]
  · cases h

end Tables

/-! ## Names with numbers -/

lemma append_toString_inj {a b : String} {i j : Nat} (ha : ∀ c, a.toList.getLast? = some c → c.isDigit = false)
    (hb : ∀ c, b.toList.getLast? = some c → c.isDigit = false) (heq : a ++ toString i = b ++ toString j) : a = b ∧ i = j := by
  have hdrop {a : String} (i : Nat) (ha : ∀ c, a.toList.getLast? = some c → c.isDigit = false) :
      (a ++ toString i).toList.rdropWhile Char.isDigit = a.toList := by
    have hdigits : ∀ c ∈ (toString i).toList.reverse, c.isDigit = true := by
      intro c hc
      rw [Nat.toString_eq_ofList_toDigits, String.toList_ofList, mem_reverse] at hc
      exact Nat.isDigit_of_mem_toDigits (by decide) (by decide) hc
    rw [String.toList_append, rdropWhile, reverse_append, dropWhile_append_of_pos hdigits]
    refine rdropWhile_eq_self_iff.mpr fun hne => ?_
    rw [ha _ (getLast?_eq_some_getLast hne)]
    exact Bool.false_ne_true
  obtain rfl : a = b := by
    rw [← String.toList_inj, ← hdrop i ha, ← hdrop j hb, heq]
  refine ⟨rfl, ?_⟩
  have hdigits : Nat.toDigits 10 i = Nat.toDigits 10 j := by
    simpa [Nat.toString_eq_ofList_toDigits] using congrArg String.toList heq
  have hij := congrArg (Nat.ofDigitChars 10 · 0) hdigits
  simpa only [Nat.ofDigitChars_ten_toDigits] using hij

end SurveyGraph
