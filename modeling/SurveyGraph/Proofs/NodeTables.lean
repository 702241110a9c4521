import Mathlib.Data.List.Basic
import SurveyGraph.Read.NodeTable
/-!
# Tables of nodes are sets

Looking for a place, a table tries one slot after the other by a fixed rule. The slot that it comes to is free or has the number
already, so nothing is lost: what is in a table is what was put into it.
-/
open List

namespace SurveyGraph.NodeTable

variable {slots : List (Option Nat)} {n m : Nat} {t u : NodeTable}

lemma place_some {j : Nat} : ∀ {fuel i rest : Nat}, place slots n fuel i rest = some j →
    slots[j]? = some none ∨ slots[j]? = some (some n)
  | fuel + 1, i, rest, h => by
    unfold place at h
    dsimp only at h
    split at h
    · rename_i found hfound
      obtain rfl : found = j := Option.some.inj h
      have := find?_some hfound
      revert this
      cases hslot : slots[found]? with
      | none => simp
      | some slot =>
        cases slot with
        | none | some m => simp
    · exact place_some h

lemma mem_put : m ∈ (put slots n).filterMap id ↔ m ∈ slots.filterMap id ∨ m = n := by
  unfold put
  split
  · rename_i j hj
    have hslot := place_some hj
    have hlt : j < slots.length := by rcases hslot with h | h <;> exact (List.getElem?_eq_some_iff.mp h).1
    simp only [mem_filterMap, id, exists_eq_right]
    constructor
    · intro hm
      rcases mem_or_eq_of_mem_set hm with hm | hm
      · exact .inl hm
      · exact .inr (Option.some.inj hm)
    · rintro (hm | rfl)
      · -- the slot that is written was free or has the number already
        obtain ⟨i, hi, hslot_i⟩ := getElem_of_mem hm
        by_cases hij : j = i
        · subst hij
          rw [getElem?_eq_getElem hlt, hslot_i] at hslot
          rcases hslot with h | h
          · cases h
          · rw [Option.some.inj h]
            exact mem_set hlt _
        · exact mem_of_getElem? (by rw [getElem?_set_ne hij, getElem?_eq_getElem hi, hslot_i])
      · exact mem_set hlt _
  · simp

lemma mem_foldl_put {ns : List Nat} : m ∈ (ns.foldl put slots).filterMap id ↔ m ∈ slots.filterMap id ∨ m ∈ ns := by
  induction ns generalizing slots with
  | nil => simp
  | cons n ns ih => rw [foldl_cons, ih, mem_put, mem_cons, or_assoc]

lemma mem_insert : m ∈ (t.insert n).members ↔ m ∈ t.members ∨ m = n := by
  unfold NodeTable.insert
  by_cases hn : n ∈ t.members
  · rw [if_pos (contains_iff_mem.mpr hn), or_iff_left_of_imp]
    rintro rfl
    exact hn
  · rw [if_neg (by simpa using hn)]
    dsimp only
    split
    · exact mem_put
    · have hempty (k : Nat) : (replicate k (none : Option Nat)).filterMap id = [] := by simp
      rw [members, mem_foldl_put, members, mem_put]
      simp [members]

lemma mem_ofList {ns : List Nat} : m ∈ (ofList ns).members ↔ m ∈ ns := by
  have hfold : ∀ (ns : List Nat) (t : NodeTable), m ∈ (ns.foldl insert t).members ↔ m ∈ t.members ∨ m ∈ ns := by
    intro ns
    induction ns with
    | nil => simp
    | cons n ns ih =>
      intro t
      rw [foldl_cons, ih, mem_insert, mem_cons, or_assoc]
  rw [ofList, hfold]
  simp [members]

lemma mem_inter : m ∈ (t.inter u).members ↔ m ∈ t.members ∧ m ∈ u.members := by
  unfold inter
  by_cases hlt : u.members.length > t.members.length
  · simp only [hlt, if_true, mem_ofList, mem_filter, contains_iff_mem]
  · simp only [hlt, if_false, mem_ofList, mem_filter, contains_iff_mem, and_comm]

lemma mem_foldl_inter {us : List NodeTable} : m ∈ (us.foldl inter t).members ↔ m ∈ t.members ∧ ∀ u ∈ us, m ∈ u.members := by
  induction us generalizing t with
  | nil => simp
  | cons u us ih => rw [foldl_cons, ih, mem_inter, forall_mem_cons, and_assoc]

end SurveyGraph.NodeTable
