import Mathlib.Tactic.Ring
import Mathlib.Data.List.Infix
import SurveyGraph.Proofs.ExactNumbers
import SurveyGraph.Proofs.Outcome
import SurveyGraph.Survey.ProductTable
/-!
# Grids of redshifts

A grid of redshifts is known by its first and second redshift and the step between them, compared as numbers. They determine
where an even grid starts and how it goes on, but not where it ends: of two grids known by the same numbers one is the
beginning of the other, and only grids of one length are told apart (`grids_told_apart`).
-/
open List

namespace SurveyGraph.ProductTable

variable {zs zs' : Value} {qs : List ℚ} {a a' d d' : ℚ} {n n' : Nat}

/-- The even grid of some length from a start in steps. -/
def evenly (a d : ℚ) (n : Nat) : List ℚ := (range n).map fun i : Nat => a + (i : ℚ) * d

/-- An array in one dimension whose cells stand for numbers. -/
def Numbers (zs : Value) (qs : List ℚ) : Prop :=
  ∃ c cells, zs = .array c [qs.length] cells ∧ c ≠ .bool ∧ c ≠ .object ∧
    cells.map (fun v => (Value.scalar c v).rat?) = qs.map some

/-- What a grid is known by, as numbers. -/
def RedshiftGrid.key (g : RedshiftGrid) : List (String × Option ℚ) := g.identity.map fun p => (p.1, p.2.rat?)

lemma difference_ok {c : Cell} {x y : Value} (hc : c ≠ .bool) (hx : (Value.scalar c x).rat?.isSome)
    (hy : (Value.scalar c y).rat?.isSome) : ∃ v, difference (.scalar c x) (.scalar c y) = .ok v := by
  have hnumber : ∀ {v : Value}, (Value.scalar c v).rat?.isSome →
      (∃ b, v = .bool b) ∨ (∃ k, v = .int k) ∨ ∃ r, v = .float r := by
    intro v hv
    cases v <;> simp [Value.rat?, Value.number?] at hv ⊢
  have hminus : (c == .bool) = false := by
    cases c <;> first | rfl | exact absurd rfl hc
  unfold difference
  simp only [hminus, Bool.false_eq_true, if_false]
  rcases hnumber hx with ⟨_, rfl⟩ | ⟨_, rfl⟩ | ⟨_, rfl⟩ <;> rcases hnumber hy with ⟨_, rfl⟩ | ⟨_, rfl⟩ | ⟨_, rfl⟩ <;>
    exact ⟨_, rfl⟩

/-- A grid of two redshifts or more is accepted, with the first as its start and the second as its end. -/
lemma ofValues_ok {q₀ q₁ : ℚ} (h : Numbers zs (q₀ :: q₁ :: qs)) :
    ∃ g, RedshiftGrid.ofValues zs = .ok g ∧ g.values = zs ∧ g.start.rat? = some q₀ ∧ g.second.rat? = some q₁ := by
  obtain ⟨c, cells, rfl, hbool, hobject, hcells⟩ := h
  obtain ⟨x, rest, rfl, hx, hrest⟩ := map_eq_cons_iff.mp hcells
  obtain ⟨y, rest, rfl, hy, -⟩ := map_eq_cons_iff.mp hrest
  obtain ⟨v, hv⟩ := difference_ok hbool (by rw [hy]; rfl) (by rw [hx]; rfl)
  have hfirst : Grid.pick (.array c [(q₀ :: q₁ :: qs).length] (x :: y :: rest)) (.int 0) = .ok (.scalar c x) := by
    cases c <;> first | rfl | exact absurd rfl hobject
  have hsecond : Grid.pick (.array c [(q₀ :: q₁ :: qs).length] (x :: y :: rest)) (.int 1) = .ok (.scalar c y) := by
    cases c <;> first | rfl | exact absurd rfl hobject
  refine ⟨{ values := _, start := .scalar c x, second := .scalar c y, step := v }, ?_, rfl, hx, hy⟩
  unfold RedshiftGrid.ofValues
  rw [bind_of_ok hfirst, bind_of_ok hsecond, bind_of_ok hv]
  rfl

lemma evenly_eq_cons (a d : ℚ) (hn : 2 ≤ n) : ∃ qs, evenly a d n = a :: (a + d) :: qs := by
  obtain ⟨n, rfl⟩ := Nat.exists_eq_add_of_le' hn
  simp [evenly, range_succ_eq_map, Function.comp_def, add_assoc]

lemma evenly_beginning (a d : ℚ) (h : n ≤ n') : evenly a d n <+: evenly a d n' := by
  obtain ⟨m, rfl⟩ := Nat.exists_eq_add_of_le h
  rw [evenly, evenly, range_add, map_append]
  exact prefix_append _ _

/-- Even grids known by the same numbers agree as far as both go, so that one is the beginning of the other.
Different grids of one length are known by different numbers. -/
theorem grids_told_apart (h : Numbers zs (evenly a d n)) (h' : Numbers zs' (evenly a' d' n')) (hn : 2 ≤ n) (hn' : 2 ≤ n') :
    ∃ g g', RedshiftGrid.ofValues zs = .ok g ∧ RedshiftGrid.ofValues zs' = .ok g' ∧ g.values = zs ∧ g'.values = zs' ∧
      (g.key = g'.key → evenly a d n <+: evenly a' d' n' ∨ evenly a' d' n' <+: evenly a d n) ∧
      (n = n' → evenly a d n ≠ evenly a' d' n' → g.key ≠ g'.key) := by
  obtain ⟨qs, hqs⟩ := evenly_eq_cons a d hn
  obtain ⟨qs', hqs'⟩ := evenly_eq_cons a' d' hn'
  obtain ⟨g, hg, hvalues, hstart, hsecond⟩ := ofValues_ok (hqs ▸ h)
  obtain ⟨g', hg', hvalues', hstart', hsecond'⟩ := ofValues_ok (hqs' ▸ h')
  -- The step is not needed: the start and the second redshift determine it.
  have hsame : g.key = g'.key → a = a' ∧ d = d' := by
    intro hkey
    obtain ⟨hfirst, hrest⟩ := List.cons.inj hkey
    obtain ⟨hnext, -⟩ := List.cons.inj hrest
    have ha := (Prod.mk.inj hfirst).2
    have hb := (Prod.mk.inj hnext).2
    rw [hstart, hstart', Option.some.injEq] at ha
    rw [hsecond, hsecond', Option.some.injEq] at hb
    exact ⟨ha, add_left_cancel (ha ▸ hb)⟩
  refine ⟨g, g', hg, hg', hvalues, hvalues', ?_, ?_⟩
  · intro hkey
    obtain ⟨rfl, rfl⟩ := hsame hkey
    exact (Nat.le_total n n').imp (evenly_beginning a d) (evenly_beginning a d)
  · rintro rfl hne hkey
    obtain ⟨rfl, rfl⟩ := hsame hkey
    exact hne rfl

def whole (ns : List Int) : Value := .array (.int 64) [ns.length] (ns.map .int)

lemma numbers_whole (ns : List Int) : Numbers (whole ns) (ns.map (↑)) := by
  refine ⟨.int 64, ns.map .int, by simp [whole], nofun, nofun, ?_⟩
  simp [Value.rat?, Value.number?, Function.comp_def]

/-- The grids 0, 2, 4 and 0, 1, 2 are told apart. -/
theorem grids_told_apart_whole :
    ∃ g g', RedshiftGrid.ofValues (whole [0, 2, 4]) = .ok g ∧ RedshiftGrid.ofValues (whole [0, 1, 2]) = .ok g' ∧ g.key ≠ g'.key := by
  have h : Numbers (whole [0, 2, 4]) (evenly 0 2 3) := by
    have heven : evenly 0 2 3 = [0, 2, 4].map (Int.cast : Int → ℚ) := by
      norm_num [evenly, List.range_succ]
    exact heven ▸ numbers_whole _
  have h' : Numbers (whole [0, 1, 2]) (evenly 0 1 3) := by
    have heven : evenly 0 1 3 = [0, 1, 2].map (Int.cast : Int → ℚ) := by
      norm_num [evenly, List.range_succ]
    exact heven ▸ numbers_whole _
  obtain ⟨g, g', hg, hg', -, -, -, hne⟩ := grids_told_apart h h' (by decide) (by decide)
  refine ⟨g, g', hg, hg', hne rfl ?_⟩
  norm_num [evenly, List.range_succ]

/-- The grids 0, 1, 2 and 0, 1, 2, 3 are even and differ, but are known by the same numbers. -/
theorem grid_end_not_told : Numbers (whole [0, 1, 2]) (evenly 0 1 3) ∧ Numbers (whole [0, 1, 2, 3]) (evenly 0 1 4) ∧
    evenly 0 1 3 ≠ evenly 0 1 4 ∧
    ∃ g g', RedshiftGrid.ofValues (whole [0, 1, 2]) = .ok g ∧ RedshiftGrid.ofValues (whole [0, 1, 2, 3]) = .ok g' ∧
      g.identity = g'.identity := by
  have h3 : evenly 0 1 3 = [0, 1, 2].map (Int.cast : Int → ℚ) := by
    norm_num [evenly, List.range_succ]
  have h4 : evenly 0 1 4 = [0, 1, 2, 3].map (Int.cast : Int → ℚ) := by
    norm_num [evenly, List.range_succ]
  refine ⟨h3 ▸ numbers_whole _, h4 ▸ numbers_whole _, ?_, _, _, rfl, rfl, rfl⟩
  intro h
  simpa [evenly] using congrArg List.length h

end SurveyGraph.ProductTable
