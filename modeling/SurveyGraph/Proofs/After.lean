import SurveyGraph.Fault
import Mathlib.Logic.Relation
/-!
# What computations make of a state

A computation that can fail and that works on a state gives something and leaves a state behind, also where it fails.
`Leads` says what is proved about it: the state goes through steps of one kind, and what is given has a property.
-/
open Relation

namespace SurveyGraph

variable {α β σ ε : Type} {s u : σ} {r : σ → σ → Prop} (m : ExceptT Fault (StateM σ) α) {f : α → ExceptT Fault (StateM σ) β}
  {x : Except Fault α} {g : α → β}

/-- What a computation gives, and what it makes of a state. -/
def after (s : σ) : Except Fault α × σ := m.run.run s

lemma after_bind (f : α → ExceptT Fault (StateM σ) β) : after (m >>= f) s =
    match after m s with
    | (.ok a, t) => after (f a) t
    | (.error e, t) => (.error e, t) := by
  change (m.run >>= ExceptT.bindCont f).run s = _
  cases h : after m s with
  | mk x t =>
    rw [StateT.run_bind, show m.run.run s = (x, t) from h]
    cases x <;> rfl

lemma after_bind_ok {m : ExceptT Fault (StateM σ) α} {b : β}
    (h : after (m >>= f) s = (.ok b, u)) : ∃ a t, after m s = (.ok a, t) ∧ after (f a) t = (.ok b, u) := by
  rw [after_bind] at h
  split at h
  · rename_i a t hm
    exact ⟨a, t, hm, h⟩
  · cases h

lemma after_lift_ok {b : β} (h : after (liftM x >>= f) s = (.ok b, u)) : ∃ a, x = .ok a ∧ after (f a) s = (.ok b, u) := by
  cases x with
  | ok a => exact ⟨a, rfl, h⟩
  | error e => cases h

lemma after_get_bind (f : σ → ExceptT Fault (StateM σ) α) : after (get >>= f) s = after (f s) s := rfl

lemma after_tryCatch (handle : Fault → ExceptT Fault (StateM σ) α) : after (tryCatch m handle) s = match after m s with
    | (.ok a, t) => (.ok a, t)
    | (.error e, t) => after (handle e) t := by
  cases h : after m s with
  | mk x t =>
    change (ExceptT.tryCatch m handle).run.run s = _
    simp only [ExceptT.tryCatch, ExceptT.run_mk, StateT.run_bind]
    rw [show StateT.run m s = (x, t) from h]
    cases x <;> rfl

/-- Whether a computation succeeds or fails, it takes the state through steps, and what it gives has a property. -/
def Leads (r : σ → σ → Prop) (s : σ) (m : ExceptT Fault (StateM σ) α) (Q : α → σ → Prop) : Prop :=
  ReflTransGen r s (after m s).2 ∧ ∀ a, (after m s).1 = .ok a → Q a (after m s).2

namespace Leads

variable {m : ExceptT Fault (StateM σ) α} {f : α → ExceptT Fault (StateM σ) β} {Q P : α → σ → Prop} {R : β → σ → Prop}

lemma bind (hm : Leads r s m Q) (hf : ∀ a t, ReflTransGen r s t → Q a t → Leads r t (f a) R) : Leads r s (m >>= f) R := by
  obtain ⟨hr, hQ⟩ := hm
  unfold Leads
  rw [after_bind]
  cases hx : after m s with
  | mk x t =>
    rw [hx] at hr hQ
    cases x with
    | ok a =>
      obtain ⟨hr', hR⟩ := hf a t hr (hQ a rfl)
      exact ⟨hr.trans hr', hR⟩
    | error e => exact ⟨hr, nofun⟩

lemma pure {a : α} (h : Q a s) : Leads r s (pure a) Q := ⟨.refl, fun _ ha => by cases ha; exact h⟩

lemma refuse [Cause ε] (e : ε) : Leads r s (SurveyGraph.refuse e) Q := ⟨.refl, nofun⟩

lemma get_bind {f : σ → ExceptT Fault (StateM σ) α} (h : Leads r s (f s) Q) : Leads r s (get >>= f) Q := h

lemma lift_bind (h : ∀ a, x = .ok a → Leads r s (f a) R) : Leads r s (liftM x >>= f) R := by
  cases x with
  | ok a => exact h a rfl
  | error e => exact ⟨.refl, nofun⟩

lemma mono (hm : Leads r s m Q) (h : ∀ a t, ReflTransGen r s t → Q a t → P a t) : Leads r s m P :=
  ⟨hm.1, fun a ha => h a _ hm.1 (hm.2 a ha)⟩

lemma and (hm : Leads r s m Q) (hm' : Leads r s m P) : Leads r s m (fun a t => Q a t ∧ P a t) :=
  ⟨hm.1, fun a ha => ⟨hm.2 a ha, hm'.2 a ha⟩⟩

lemma of_ok (hm : Leads r s m Q) {a : α} {t : σ} (h : after m s = (.ok a, t)) : ReflTransGen r s t ∧ Q a t := by
  unfold Leads at hm
  rw [h] at hm
  exact ⟨hm.1, hm.2 a rfl⟩

lemma map (hm : Leads r s m Q) (h : ∀ a t, Q a t → R (g a) t) : Leads r s (g <$> m) R := by
  exact hm.bind fun a t _ ha => pure (h a t ha)

lemma mapM {P : β → σ → Prop} (hP : ∀ b t u, ReflTransGen r t u → P b t → P b u) :
    ∀ {l : List α} {s : σ}, (∀ a ∈ l, ∀ t, ReflTransGen r s t → Leads r t (f a) P) →
    Leads r s (l.mapM f) (fun bs t => ∀ b ∈ bs, P b t)
  | [], _, _ => by
    exact pure (by simp)
  | a :: l, s, h => by
    rw [List.mapM_cons]
    refine (h a (by simp) s .refl).bind fun b t ht hb => ?_
    refine (mapM hP fun c hc u hu => h c (by simp [hc]) u (ht.trans hu)).bind fun bs u hu hbs => pure fun c hc => ?_
    rcases List.mem_cons.mp hc with rfl | hc
    · exact hP _ _ _ hu hb
    · exact hbs c hc

lemma catching {handle : Fault → ExceptT Fault (StateM σ) α} (hm : Leads r s m fun _ _ => True)
    (hh : ∀ e t, ReflTransGen r s t → Leads r t (handle e) fun _ _ => True) :
    Leads r s (tryCatch m handle) fun _ _ => True := by
  refine ⟨?_, fun _ _ => trivial⟩
  obtain ⟨hr, -⟩ := hm
  rw [after_tryCatch]
  cases hx : after m s with
  | mk x t =>
    rw [hx] at hr
    cases x with
    | ok a => exact hr
    | error e => exact hr.trans (hh e t hr).1

end Leads

/-! ## Steps of one kind -/

/-- From any state a computation takes steps of one kind. -/
def Keeps (r : σ → σ → Prop) (m : ExceptT Fault (StateM σ) α) : Prop := ∀ s, Leads r s m fun _ _ => True

namespace Keeps

variable {m : ExceptT Fault (StateM σ) α} {f : α → ExceptT Fault (StateM σ) β} {l : List α} {c : Prop}

lemma bind (hm : Keeps r m) (hf : ∀ a, Keeps r (f a)) : Keeps r (m >>= f) := fun s => (hm s).bind fun a t _ _ => hf a t

lemma pure (a : α) : Keeps r (pure a) := fun _ => Leads.pure trivial

lemma throw (e : Fault) : Keeps r (throw e : ExceptT Fault (StateM σ) α) := fun _ => ⟨.refl, nofun⟩

lemma refuse [Cause ε] (e : ε) : Keeps r (SurveyGraph.refuse e : ExceptT Fault (StateM σ) α) :=
  fun _ => Leads.refuse e

lemma refuse_bind [Cause ε] {e : ε} : Keeps r (SurveyGraph.refuse e >>= f) :=
  fun _ => ⟨.refl, nofun⟩

lemma get : Keeps r (get : ExceptT Fault (StateM σ) σ) := fun _ => ⟨.refl, fun _ _ => trivial⟩

lemma lift (x : Except Fault α) : Keeps r (liftM x : ExceptT Fault (StateM σ) α) := by
  cases x with
  | ok a => exact pure a
  | error e => exact refuse e

lemma get_bind {f : σ → ExceptT Fault (StateM σ) α} (h : ∀ s, Keeps r (f s)) : Keeps r (MonadState.get >>= f) := get.bind h

lemma lift_bind (h : ∀ a, Keeps r (f a)) : Keeps r (liftM x >>= f) := (lift x).bind h

lemma map (hm : Keeps r m) : Keeps r (g <$> m) := by
  exact hm.bind fun a => pure (g a)

lemma ite [Decidable c] {m' : ExceptT Fault (StateM σ) α} (h : Keeps r m) (h' : Keeps r m') :
    Keeps r (if c then m else m') := by
  split
  · exact h
  · exact h'

lemma refuseIf [Cause ε] [Decidable c] {e : ε} {k : PUnit → ExceptT Fault (StateM σ) α}
    (h : Keeps r (k ⟨⟩)) : Keeps r (if c then SurveyGraph.refuse e >>= k else k ⟨⟩) :=
  ite refuse_bind h

lemma mapM (h : ∀ a, Keeps r (f a)) : Keeps r (l.mapM f) := by
  induction l with
  | nil =>
    exact pure []
  | cons a l ih =>
    rw [List.mapM_cons]
    exact (h a).bind fun b => ih.bind fun bs => pure (b :: bs)

lemma foldlM {g : β → α → ExceptT Fault (StateM σ) β} (h : ∀ b a, Keeps r (g b a)) (b : β) : Keeps r (l.foldlM g b) := by
  induction l generalizing b with
  | nil =>
    exact pure b
  | cons a l ih =>
    exact (h b a).bind fun b => ih b

lemma forM {g : α → ExceptT Fault (StateM σ) Unit} (h : ∀ a, Keeps r (g a)) : Keeps r (l.forM g) := by
  induction l with
  | nil => exact pure ()
  | cons a l ih => exact (h a).bind fun _ => ih

lemma forIn {g : α → β → ExceptT Fault (StateM σ) (ForInStep β)} (h : ∀ a b, Keeps r (g a b)) (b : β) :
    Keeps r (forIn l b g) := by
  induction l generalizing b with
  | nil =>
    exact pure b
  | cons a l ih =>
    rw [List.forIn_cons]
    refine (h a b).bind fun step => ?_
    cases step with
    | done b => exact pure b
    | yield b => exact ih b

lemma catching {handle : Fault → ExceptT Fault (StateM σ) α} (hm : Keeps r m) (hh : ∀ e, Keeps r (handle e)) :
    Keeps r (tryCatch m handle) := fun s => (hm s).catching fun e t _ => hh e t

lemma modify {g : σ → σ} (h : ∀ s, r s (g s)) : Keeps r (modify g : ExceptT Fault (StateM σ) Unit) :=
  fun s => ⟨.single (h s), fun _ _ => trivial⟩

end Keeps

end SurveyGraph
