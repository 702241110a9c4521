import Mathlib.Logic.Relation
import Mathlib.Data.List.Nodup
import Mathlib.Data.List.Perm.Subperm
import SurveyGraph.Read.Digraph
/-!
# Reachability in query graphs

`Shortest.closure` collects what can be reached from a node with bounded fuel. It is tied to the reflexive transitive closure
of the step relation: `closure_sound` needs nothing, `closure_complete` needs a finite universe that the steps do not leave
and as much fuel as it has members.

The arcs of a query graph then get one relation each for the views that walks use: all arcs (`Arrow`), those without arcs
back (`Forward`), and the steps (`Step`).
-/
open Relation (ReflTransGen)
open List

namespace SurveyGraph

namespace Shortest

variable {step : Nat → List Nat}

lemma subset_closure : ∀ (fuel : Nat) (todo met : List Nat) {x : Nat}, x ∈ met → x ∈ closure step fuel todo met
  | 0, _, _, _, hx => hx
  | _ + 1, [], _, _, hx => hx
  | fuel + 1, _ :: _, _, _, hx => by
    exact subset_closure fuel _ _ (mem_append_left _ hx)

lemma closure_sound : ∀ (fuel : Nat) (todo met : List Nat), (∀ x ∈ todo, x ∈ met) →
    ∀ y ∈ closure step fuel todo met, ∃ x ∈ met, ReflTransGen (fun a b => b ∈ step a) x y
  | 0, _, _, _, y, hy => ⟨y, hy, .refl⟩
  | _ + 1, [], _, _, y, hy => ⟨y, hy, .refl⟩
  | fuel + 1, v :: todo, met, hsub, y, hy => by
    obtain ⟨x, hx, hxy⟩ := closure_sound fuel _ _ (by
      intro x hx
      rcases mem_append.mp hx with hx | hx
      · exact mem_append_left _ (hsub x (.tail _ hx))
      · exact mem_append_right _ hx) y hy
    rcases mem_append.mp hx with hx | hx
    · exact ⟨x, hx, hxy⟩
    · rw [mem_eraseDups, mem_filter] at hx
      exact ⟨v, hsub v (by simp), .head hx.1 hxy⟩

lemma nodup_eraseDups {α : Type} [BEq α] [LawfulBEq α] : (l : List α) → l.eraseDups.Nodup
  | [] => by simp
  | a :: l => by
    rw [eraseDups_cons, nodup_cons]
    refine ⟨?_, nodup_eraseDups _⟩
    rw [mem_eraseDups, mem_filter]
    rintro ⟨_, h⟩
    simp at h
termination_by l => l.length
decreasing_by exact Nat.lt_succ_of_le (length_filter_le _ _)

lemma nodup_append_fresh {met : List Nat} (h : met.Nodup) (ys : List Nat) :
    (met ++ (ys.filter (!met.contains ·)).eraseDups).Nodup := by
  refine nodup_append.mpr ⟨h, nodup_eraseDups _, ?_⟩
  rintro a ha b hb rfl
  simp [mem_eraseDups, ha] at hb

lemma nodup_closure : ∀ (fuel : Nat) (todo met : List Nat), met.Nodup → (closure step fuel todo met).Nodup
  | 0, _, _, h => h
  | _ + 1, [], _, h => h
  | fuel + 1, _ :: _, _, h => nodup_closure fuel _ _ (nodup_append_fresh h _)

/-- With enough fuel nothing is left to do: what the closure holds leads nowhere else. A round takes one
node off the list and adds those it meets, so what has not been met pays for the fuel. -/
lemma closure_closed {all : List Nat} (hall : ∀ x ∈ all, ∀ y ∈ step x, y ∈ all) :
    ∀ (fuel : Nat) (todo met : List Nat), met.Nodup → (∀ x ∈ met, x ∈ all) → (∀ x ∈ todo, x ∈ met) →
      todo.length + (all.length - met.length) ≤ fuel →
      (∀ x ∈ met, x ∉ todo → ∀ y ∈ step x, y ∈ met) →
      ∀ x ∈ closure step fuel todo met, ∀ y ∈ step x, y ∈ closure step fuel todo met
  | 0, todo, met, _, _, _, hfuel, hdone, x, hx, y, hy => by
    have hnil : todo = [] := length_eq_zero_iff.mp (by omega)
    subst hnil
    exact hdone x hx (by simp) y hy
  | _ + 1, [], _, _, _, _, _, hdone, x, hx, y, hy => hdone x hx (by simp) y hy
  | fuel + 1, v :: todo, met, hnd, hsub, htodo, hfuel, hdone, x, hx, y, hy => by
    simp only [closure] at hx ⊢
    generalize hf : ((step v).filter (!met.contains ·)).eraseDups = fresh at hx ⊢
    have hmem : ∀ z, z ∈ fresh ↔ z ∈ step v ∧ z ∉ met := by
      intro z
      rw [← hf, mem_eraseDups]
      simp
    have hnd' : (met ++ fresh).Nodup := hf ▸ nodup_append_fresh hnd _
    have hsub' : ∀ z ∈ met ++ fresh, z ∈ all := by
      intro z hz
      rcases mem_append.mp hz with hz | hz
      · exact hsub z hz
      · exact hall v (hsub v (htodo v (by simp))) z ((hmem z).mp hz).1
    have hlen : (met ++ fresh).length ≤ all.length := (Nodup.subperm hnd' hsub').length_le
    refine closure_closed hall fuel _ _ hnd' hsub' ?_ ?_ ?_ x hx y hy
    · intro z hz
      rcases mem_append.mp hz with hz | hz
      · exact mem_append_left _ (htodo z (.tail _ hz))
      · exact mem_append_right _ hz
    · simp only [length_append, length_cons] at hlen hfuel ⊢
      omega
    · intro z hz hzt w hw
      rw [mem_append] at hz hzt ⊢
      rcases hz with hz | hz
      · by_cases hzv : z = v
        · subst hzv
          by_cases hwm : w ∈ met
          · exact .inl hwm
          · exact .inr ((hmem w).mpr ⟨hw, hwm⟩)
        · exact .inl (hdone z hz (by simp [hzv]; tauto) w hw)
      · exact absurd (.inr hz) hzt

lemma mem_closure_iff {all : List Nat} (hall : ∀ x ∈ all, ∀ y ∈ step x, y ∈ all) {n : Nat} (hn : n ∈ all) {fuel : Nat}
    (hfuel : all.length ≤ fuel) {y : Nat} : y ∈ closure step fuel [n] [n] ↔ ReflTransGen (fun a b => b ∈ step a) n y := by
  constructor
  · intro hy
    obtain ⟨x, hx, hxy⟩ := closure_sound fuel [n] [n] (fun _ h => h) y hy
    rw [mem_singleton] at hx
    exact hx ▸ hxy
  · intro hy
    have hpos : 0 < all.length := length_pos_of_mem hn
    have hclosed := closure_closed hall fuel [n] [n] (by simp) (by simpa using hn) (by simp)
      (by simp; omega) (by simp)
    induction hy with
    | refl => exact subset_closure fuel _ _ (by simp)
    | tail _ hbc ih => exact hclosed _ ih _ hbc

end Shortest

namespace Digraph

variable {σ : Type} {g : Digraph σ}

deriving instance ReflBEq, LawfulBEq for ArcType

def Arrow (g : Digraph σ) (a b : Nat) : Prop := ∃ e ∈ g.arcs, e.src = a ∧ e.dst = b

def Forward (g : Digraph σ) (a b : Nat) : Prop := ∃ e ∈ g.arcs, e.type ≠ .wrt ∧ e.src = a ∧ e.dst = b

def Step (g : Digraph σ) (a b : Nat) : Prop := ∃ e ∈ g.arcs, e.type ≠ .wrt ∧ e.type ≠ .dep ∧ e.src = a ∧ e.dst = b

def Back (g : Digraph σ) (a b : Nat) : Prop := ∃ e ∈ g.arcs, e.type = .wrt ∧ e.src = a ∧ e.dst = b

/-- One node stands above another: an arc back leads to it or, if there is none, a step comes from it. -/
def Up (g : Digraph σ) (a b : Nat) : Prop := g.Back a b ∨ (∀ t, ¬ g.Back a t) ∧ g.Step b a

def Needs (g : Digraph σ) (a b : Nat) : Prop := ∃ e ∈ g.arcs, e.type = .dep ∧ e.src = a ∧ e.dst = b

def Closed (g : Digraph σ) : Prop := ∀ e ∈ g.arcs, e.src ∈ g.nodes ∧ e.dst ∈ g.nodes

variable {a b : Nat}

lemma mem_successors : b ∈ g.successors a ↔ g.Arrow a b := by
  simp only [successors, outArcs, mem_map, mem_filter, beq_iff_eq, Arrow]
  constructor
  · rintro ⟨e, ⟨he, hs⟩, hd⟩; exact ⟨e, he, hs, hd⟩
  · rintro ⟨e, he, hs, hd⟩; exact ⟨e, ⟨he, hs⟩, hd⟩

lemma mem_predecessors : a ∈ g.predecessors b ↔ g.Arrow a b := by
  simp only [predecessors, inArcs, mem_map, mem_filter, beq_iff_eq, Arrow]
  constructor
  · rintro ⟨e, ⟨he, hd⟩, hs⟩; exact ⟨e, he, hs, hd⟩
  · rintro ⟨e, he, hs, hd⟩; exact ⟨e, ⟨he, hd⟩, hs⟩

lemma arrow_filterArcs {p : Arc σ → Bool} :
    (g.filterArcs p).Arrow a b ↔ ∃ e ∈ g.arcs, p e = true ∧ e.src = a ∧ e.dst = b := by
  simp [Arrow, filterArcs, mem_filter, and_assoc]

@[simp] lemma arrow_forward : g.forward.Arrow a b ↔ g.Forward a b := by
  simp [forward, arrow_filterArcs, Forward]

@[simp] lemma arrow_backward : g.backward.Arrow a b ↔ g.Back a b := by
  simp [backward, arrow_filterArcs, Back]

@[simp] lemma arrow_dependencies : g.dependencies.Arrow a b ↔ g.Needs a b := by
  simp [dependencies, arrow_filterArcs, Needs]

lemma arrow_walkable : g.walkable.Arrow a b ↔ g.Step a b ∨ g.Back a b := by
  simp only [walkable, arrow_filterArcs, bne_iff_ne]
  constructor
  · rintro ⟨e, he, hd, hab⟩
    by_cases hw : e.type = .wrt
    · exact .inr ⟨e, he, hw, hab⟩
    · exact .inl ⟨e, he, hw, hd, hab⟩
  · rintro (⟨e, he, _, hd, hab⟩ | ⟨e, he, hw, hab⟩)
    · exact ⟨e, he, hd, hab⟩
    · exact ⟨e, he, by simp [hw], hab⟩

@[simp] lemma arrow_steps : g.steps.Arrow a b ↔ g.Step a b := by
  rw [steps, walkable, arrow_filterArcs]
  simp [forward, filterArcs, Step, and_assoc, and_left_comm]

lemma Step.forward : g.Step a b → g.Forward a b := by
  rintro ⟨e, he, hw, _, hs, hd⟩; exact ⟨e, he, hw, hs, hd⟩

lemma Needs.forward : g.Needs a b → g.Forward a b := by
  rintro ⟨e, he, ht, hs, hd⟩; exact ⟨e, he, by simp [ht], hs, hd⟩

lemma Forward.cases : g.Forward a b → g.Step a b ∨ g.Needs a b := by
  rintro ⟨e, he, hw, hs, hd⟩
  by_cases ht : e.type = .dep
  · exact .inr ⟨e, he, ht, hs, hd⟩
  · exact .inl ⟨e, he, hw, ht, hs, hd⟩

lemma Forward.arrow : g.Forward a b → g.Arrow a b := fun ⟨e, he, _, h⟩ => ⟨e, he, h⟩

lemma Back.arrow : g.Back a b → g.Arrow a b := fun ⟨e, he, _, h⟩ => ⟨e, he, h⟩

lemma Closed.filterArcs (h : g.Closed) (p : Arc σ → Bool) : (g.filterArcs p).Closed :=
  fun e he => h e (mem_of_mem_filter he)

lemma Closed.arrow (h : g.Closed) (hab : g.Arrow a b) : a ∈ g.nodes ∧ b ∈ g.nodes := by
  obtain ⟨e, he, rfl, rfl⟩ := hab
  exact h e he

lemma mem_reaching (h : g.Closed) : a ∈ g.reaching b ↔ ReflTransGen g.Arrow a b := by
  have hall : ∀ x ∈ b :: g.nodes, ∀ y ∈ g.predecessors x, y ∈ b :: g.nodes :=
    fun x _ y hy => .tail _ (h.arrow (mem_predecessors.mp hy)).1
  rw [reaching, Shortest.mem_closure_iff hall (by simp) (by simp)]
  simp only [mem_predecessors]
  exact Relation.reflTransGen_swap

lemma mem_aboveArcs : b ∈ (g.aboveArcs a).map (·.dst) ↔ g.Up a b := by
  simp only [aboveArcs, map_append, map_map, mem_append, mem_map, mem_filter, outArcs, inArcs,
    leadsUp, Up, Back, Step, Function.comp, Bool.and_eq_true, Bool.not_eq_true', any_eq_false, beq_iff_eq, bne_iff_ne]
  constructor
  · rintro (⟨e, ⟨⟨he, hs⟩, hw⟩, hd⟩ | ⟨e, ⟨⟨he, hd⟩, ⟨hw, ht⟩, hnone⟩, hs⟩)
    · exact .inl ⟨e, he, hw, hs, hd⟩
    · refine .inr ⟨?_, e, he, hw, ht, hs, hd⟩
      rintro t ⟨d, hd', hdw, hds, _⟩
      exact hnone d ⟨hd', by rw [hds, hd]⟩ hdw
  · rintro (⟨e, he, hw, hs, hd⟩ | ⟨hnone, e, he, hw, ht, hs, hd⟩)
    · exact .inl ⟨e, ⟨⟨he, hs⟩, hw⟩, hd⟩
    · refine .inr ⟨e, ⟨⟨he, hd⟩, ⟨hw, ht⟩, ?_⟩, hs⟩
      rintro d ⟨hd', hds⟩ hdw
      exact hnone d.dst ⟨d, hd', hdw, by rw [hds, hd], rfl⟩

lemma Closed.up (h : g.Closed) (hab : g.Up a b) : a ∈ g.nodes ∧ b ∈ g.nodes := by
  rcases hab with hab | ⟨_, hab⟩
  · exact h.arrow hab.arrow
  · exact (h.arrow hab.forward.arrow).symm

lemma mem_stateAbove (h : g.Closed) : b ∈ g.stateAbove a ↔ ReflTransGen g.Up a b := by
  have hall : ∀ x ∈ a :: g.nodes, ∀ y ∈ (g.aboveArcs x).map (·.dst), y ∈ a :: g.nodes :=
    fun x _ y hy => .tail _ (h.up (mem_aboveArcs.mp hy)).2
  rw [stateAbove, Shortest.mem_closure_iff hall (by simp) (by simp)]
  simp only [mem_aboveArcs]

lemma mem_needs (h : g.Closed) : a ∈ g.needs b ↔ ReflTransGen g.Forward a b ∧ a ≠ b := by
  have hrel : g.forward.Arrow = g.Forward := by
    funext a b
    exact propext arrow_forward
  rw [needs, ancestors, mem_filter, mem_reaching (g := g.forward) (h.filterArcs _), hrel]
  simp

end Digraph

end SurveyGraph
