import Mathlib.Data.List.Forall2
import SurveyGraph.Fault
/-!
# Outcomes of actions that may fail

An action gives a value or a fault. These lemmas take actions apart that are made of others: one after another, and one
for each member of a list.
-/
open List

namespace SurveyGraph

variable {α β ε : Type} {x : Except Fault α} {f : α → Except Fault β} {a : α} {l : List α} {bs : List β} {e : Fault}

lemma ok_bind (hx : ∃ a, x = .ok a) (hf : ∀ a, ∃ b, f a = .ok b) : ∃ b, x >>= f = .ok b := by
  obtain ⟨a, rfl⟩ := hx
  exact hf a

lemma bind_of_ok (hx : x = .ok a) (f : α → Except Fault β) : (x >>= f) = f a := by
  rw [hx]
  rfl

/-- Whether an action gives a value that passes a test. -/
def gives (x : Except Fault α) (p : α → Bool) : Bool :=
  match x with
  | .ok a => p a
  | .error _ => false

lemma ok_of_gives {p : α → Bool} (h : gives x p = true) : ∃ a, x = .ok a ∧ p a = true := by
  cases x with
  | ok a => exact ⟨a, rfl, h⟩
  | error e => cases h

lemma ok_of_gives_fst {x : Except Fault α × β} {p : α → Bool} (h : gives x.1 p = true) : ∃ a b, x = (.ok a, b) ∧ p a = true := by
  obtain ⟨a, ha, hp⟩ := ok_of_gives h
  exact ⟨a, x.2, Prod.ext ha rfl, hp⟩

lemma eq_ok_of_gives [DecidableEq α] (h : gives x (fun b => decide (b = a)) = true) : x = .ok a := by
  obtain ⟨b, hb, heq⟩ := ok_of_gives h
  rw [hb, of_decide_eq_true heq]

lemma error_of_not_gives (h : gives x (fun _ => true) = false) : ∃ e, x = .error e := by
  cases x with
  | ok a => cases h
  | error e => exact ⟨e, rfl⟩

lemma unless_ok [Cause ε] {c : Prop} [Decidable c] {e : ε} {f : PUnit → Except Fault α} {x : α}
    (h : (if c then refuse e >>= f else f ()) = .ok x) : ¬c ∧ f () = .ok x := by
  split at h
  · cases h
  · exact ⟨‹_›, h⟩

lemma unless_both_ok [Cause ε] {c c' : Prop} [Decidable c] [Decidable c'] {e : ε} {f : PUnit → Except Fault α}
    {x : α} (h : (if c then if c' then refuse e >>= f else f () else f ()) = .ok x) : f () = .ok x := by
  split at h
  · exact (unless_ok h).2
  · exact h

/-- Steps for a list give what each gives, or fail as one does. -/
lemma mapM_cases (f : α → Except Fault β) : ∀ l : List α,
    (∃ bs, l.mapM f = .ok bs ∧ ∀ b, b ∈ bs ↔ ∃ a ∈ l, f a = .ok b) ∨ ∃ a ∈ l, ∃ e, f a = .error e ∧ l.mapM f = .error e
  | [] => .inl ⟨[], rfl, by simp⟩
  | a :: l => by
    rw [mapM_cons]
    cases ha : f a with
    | error e => exact .inr ⟨a, by simp, e, ha, rfl⟩
    | ok b =>
      rcases mapM_cases f l with ⟨bs, hbs, hmem⟩ | ⟨c, hc, e, he, hl⟩
      · refine .inl ⟨b :: bs, by rw [hbs]; rfl, fun c => ?_⟩
        simp only [mem_cons, hmem, or_and_right, exists_or, exists_eq_left, ha, Except.ok.injEq]
        rw [eq_comm]
      · exact .inr ⟨c, mem_cons_of_mem a hc, e, he, by rw [hl]; rfl⟩

lemma ok_mapM_of_forall (h : ∀ a ∈ l, ∃ b, f a = .ok b) : ∃ bs, l.mapM f = .ok bs := by
  rcases mapM_cases f l with ⟨bs, hbs, -⟩ | ⟨a, ha, e, he, -⟩
  · exact ⟨bs, hbs⟩
  · obtain ⟨b, hb⟩ := h a ha
    rw [he] at hb
    cases hb

lemma mapM_of_forall_ok {g : α → β} : ∀ {l : List α}, (∀ a ∈ l, f a = .ok (g a)) → l.mapM f = .ok (l.map g)
  | [], _ => rfl
  | a :: l, h => by
    rw [mapM_cons, bind_of_ok (h a (.head _)),
      bind_of_ok (mapM_of_forall_ok fun b hb => h b (.tail _ hb))]
    rfl

lemma mapM_ok : ∀ {l : List α} {bs : List β}, l.mapM f = .ok bs → Forall₂ (fun a b => f a = .ok b) l bs
  | [], bs, h => by
    cases h
    exact .nil
  | a :: l, bs, h => by
    rw [mapM_cons] at h
    obtain ⟨b, hb, h⟩ := bind_ok h
    obtain ⟨rest, hrest, h⟩ := bind_ok h
    cases h
    exact .cons hb (mapM_ok hrest)

lemma mapM_of_forall₂ (h : Forall₂ (fun a b => f a = .ok b) l bs) : l.mapM f = .ok bs := by
  induction h with
  | nil => rfl
  | cons hb _ ih =>
    rw [mapM_cons, bind_of_ok hb, bind_of_ok ih]
    rfl

lemma mem_iff_of_mapM_ok (h : l.mapM f = .ok bs) {b : β} : b ∈ bs ↔ ∃ a ∈ l, f a = .ok b := by
  rcases mapM_cases f l with ⟨cs, hcs, hmem⟩ | ⟨a, _, e, _, he⟩
  · rw [h] at hcs
    cases hcs
    exact hmem b
  · rw [h] at he
    cases he

lemma mem_of_mapM_ok (h : l.mapM f = .ok bs) {b : β} (hb : b ∈ bs) : ∃ a ∈ l, f a = .ok b := (mem_iff_of_mapM_ok h).mp hb

lemma exists_of_forall₂ {R : α → β → Prop} (h : Forall₂ R l bs) (ha : a ∈ l) : ∃ b ∈ bs, R a b := by
  induction h with
  | nil => cases ha
  | @cons c b l bs hb _ ih =>
    rcases mem_cons.mp ha with rfl | ha
    · exact ⟨b, .head _, hb⟩
    · obtain ⟨b', hb', hR⟩ := ih ha
      exact ⟨b', mem_cons_of_mem b hb', hR⟩

lemma ok_of_mapM_ok (h : l.mapM f = .ok bs) (ha : a ∈ l) : ∃ b ∈ bs, f a = .ok b := exists_of_forall₂ (mapM_ok h) ha

lemma forM_ok {f : α → Except Fault Unit} : ∀ {l : List α}, l.forM f = .ok () → ∀ a ∈ l, f a = .ok ()
  | [], _, _, ha => by cases ha
  | b :: l, h, a, ha => by
    obtain ⟨_, hb, h⟩ := bind_ok (show (f b >>= fun _ => l.forM f) = .ok () from h)
    rcases mem_cons.mp ha with rfl | ha
    · exact hb
    · exact forM_ok h a ha

lemma forIn_ok {f : α → PUnit.{1} → Except Fault (ForInStep PUnit.{1})} {P : α → Prop} {u : PUnit}
    (hf : ∀ a s, f a ⟨⟩ = .ok s → s = .yield ⟨⟩ ∧ P a) (h : forIn l ⟨⟩ f = .ok u) : ∀ a ∈ l, P a := by
  induction l with
  | nil => exact fun a ha => by cases ha
  | cons b l ih =>
    rw [forIn_cons] at h
    obtain ⟨s, hs, h⟩ := bind_ok h
    obtain ⟨rfl, hb⟩ := hf b s hs
    exact forall_mem_cons.mpr ⟨hb, ih h⟩

lemma forM_eq_ok {f : α → Except Fault Unit} : ∀ {l : List α}, (∀ a ∈ l, f a = .ok ()) → l.forM f = .ok ()
  | [], _ => rfl
  | b :: l, h => by
    change (f b >>= fun _ => l.forM f) = .ok ()
    rw [h b (by simp)]
    exact forM_eq_ok fun a ha => h a (mem_cons_of_mem b ha)

lemma forM_error {f : α → Except Fault Unit} : ∀ {l : List α}, l.forM f = .error e → ∃ a ∈ l, f a = .error e
  | b :: l, h => by
    cases hb : f b with
    | error e' =>
      refine ⟨b, .head _, ?_⟩
      rw [← h]
      change _ = (f b >>= fun _ => l.forM f)
      rw [hb]
      rfl
    | ok x =>
      change (f b >>= fun _ => l.forM f) = .error e at h
      rw [hb] at h
      obtain ⟨a, ha, he⟩ := forM_error h
      exact ⟨a, mem_cons_of_mem b ha, he⟩

/-! ## Actions that end alike -/

/-- Two actions give related things, or fail for the same reason. -/
inductive Agree {α β : Type} (R : α → β → Prop) : Except Fault α → Except Fault β → Prop
  | ok {a : α} {b : β} (h : R a b) : Agree R (.ok a) (.ok b)
  | error (e : Fault) : Agree R (.error e) (.error e)

namespace Agree

variable {α β γ δ : Type} {R : α → β → Prop} {S : γ → δ → Prop} {x : Except Fault α} {y : Except Fault β}

lemma refuse [Cause ε] (e : ε) : Agree R (SurveyGraph.refuse e) (SurveyGraph.refuse e) := .error _

lemma of_ok {a : α} (h : Agree R (.ok a) y) : ∃ b, y = .ok b ∧ R a b := by
  generalize hx : (Except.ok a : Except Fault α) = x at h
  cases h with
  | ok h =>
    cases hx
    exact ⟨_, rfl, h⟩
  | error e => cases hx

lemma of_error (h : Agree R (.error e) y) : y = .error e := by
  generalize hx : (Except.error e : Except Fault α) = x at h
  cases h with
  | ok h => cases hx
  | error e =>
    cases hx
    rfl

lemma bind (h : Agree R x y) {f : α → Except Fault γ} {g : β → Except Fault δ}
    (hf : ∀ a b, R a b → Agree S (f a) (g b)) : Agree S (x >>= f) (y >>= g) := by
  cases h with
  | ok h => exact hf _ _ h
  | error e => exact .error e

end Agree

end SurveyGraph
