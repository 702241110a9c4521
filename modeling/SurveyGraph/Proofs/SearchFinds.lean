import SurveyGraph.Proofs.Outcome
import SurveyGraph.Proofs.SearchEnds
/-!
# Searches that find something or no path

If weights are not negative, a search fails only because there is no path. From a set of nodes that no step leaves, a search
by weights meets no other nodes (`predecessors_finds`). `Finds` says how an action may fail, and what holds of what it gives.
-/
open List

namespace SurveyGraph

variable {α : Type} {x : Except Fault α}

/-! ## Kinds of failure that may happen -/

/-- An action gives something with `Q`, or fails in a way with `E`. -/
def Finds (E : FaultKind → Prop) (Q : α → Prop) : Except Fault α → Prop
  | .ok a => Q a
  | .error e => E e.kind

namespace Finds

variable {α β : Type} {E E' : FaultKind → Prop} {Q : α → Prop} {R : β → Prop} {x : Except Fault α}
  {f : β → Except Fault (Option α)}

lemma mono (h : Finds E Q x) {Q' : α → Prop} (hE : ∀ k, E k → E' k) (hQ : ∀ a, Q a → Q' a) : Finds E' Q' x := by
  cases x with
  | ok a => exact hQ a h
  | error e => exact hE _ h

lemma and (h : Finds E Q x) (h' : Finds E' (fun _ => True) x) : Finds (fun k => E k ∧ E' k) Q x := by
  cases x with
  | ok a => exact h
  | error e => exact ⟨h, h'⟩

lemma bind (h : Finds E Q x) {f : α → Except Fault β} (hf : ∀ a, x = .ok a → Q a → Finds E R (f a)) :
    Finds E R (x >>= f) := by
  cases x with
  | ok a => exact hf a rfl h
  | error e => exact h

lemma mapM {f : β → Except Fault α} : ∀ {l : List β}, (∀ b ∈ l, Finds E Q (f b)) →
    Finds E (fun as => ∀ a ∈ as, Q a) (l.mapM f)
  | [], _ => by
    intro a ha
    cases ha
  | b :: l, h => by
    rw [mapM_cons]
    refine (h b (by simp)).bind fun a _ ha => (mapM fun c hc => h c (by simp [hc])).bind fun as _ has => ?_
    intro c hc
    rcases mem_cons.mp hc with rfl | hc
    · exact ha
    · exact has c hc

lemma map {f : α → β} (h : Finds E (fun _ => True) x) : Finds E (fun _ => True) (x.map f) := by
  cases x with
  | ok a => trivial
  | error e => exact h

lemma foldlM {f : α → β → Except Fault α} : ∀ {l : List β}, (∀ a, ∀ b ∈ l, Finds E (fun _ => True) (f a b)) →
    ∀ a : α, Finds E (fun _ => True) (l.foldlM f a)
  | [], _, _ => trivial
  | b :: l, hf, a => by
    exact (hf a b (by simp)).bind fun a' _ _ => foldlM (fun a c hc => hf a c (by simp [hc])) a'

lemma filterMapM (hf : ∀ b, Finds E (fun _ => True) (f b)) : ∀ l : List β, Finds E (fun _ => True) (l.filterMapM f)
  | [] => trivial
  | b :: l => by
    rw [filterMapM_cons]
    refine (hf b).bind fun o _ _ => ?_
    cases o with
    | none => exact filterMapM hf l
    | some a => exact (filterMapM hf l).bind fun _ _ _ => trivial

lemma filterMapM_some :
    ∀ {l : List β}, (∀ b ∈ l, ∃ a, f b = .ok (some a) ∧ Q a) → ∃ as, l.filterMapM f = .ok as ∧ ∀ a ∈ as, Q a
  | [], _ => ⟨[], rfl, by simp⟩
  | b :: l, h => by
    obtain ⟨a, ha, hQ⟩ := h b (by simp)
    obtain ⟨as, has, hall⟩ := filterMapM_some fun c hc => h c (mem_cons_of_mem b hc)
    refine ⟨a :: as, ?_, by simpa using ⟨hQ, hall⟩⟩
    rw [filterMapM_cons, ha]
    simp only [has]
    rfl

lemma ok_or_error (h : Finds E Q x) : (∃ a, x = .ok a) ∨ ∃ e, x = .error e ∧ E e.kind := by
  cases x with
  | ok a => exact .inl ⟨a, rfl⟩
  | error e => exact .inr ⟨e, rfl, h⟩

lemma refuseIf {ε : Type} [Cause ε] {c : Prop} [Decidable c] {e : ε} {k : PUnit → Except Fault α}
    (he : E (Cause.toFault e).kind) (h : Finds E Q (k ⟨⟩)) : Finds E Q (if c then refuse e >>= k else k ⟨⟩) := by
  split
  · exact he
  · exact h

lemma forM {f : β → Except Fault PUnit} (hf : ∀ b, Finds E (fun _ => True) (f b)) :
    ∀ l : List β, Finds E (fun _ => True) (l.forM f)
  | [] => trivial
  | b :: l => by
    exact (hf b).bind fun _ _ _ => forM hf l

lemma forIn {f : β → PUnit → Except Fault (ForInStep PUnit)} (hf : ∀ b, Finds E (fun _ => True) (f b ⟨⟩)) :
    ∀ l : List β, Finds E (fun _ => True) (ForIn.forIn l PUnit.unit f)
  | [] => trivial
  | b :: l => by
    rw [forIn_cons]
    refine (hf b).bind fun step _ _ => ?_
    cases step with
    | done _ => trivial
    | yield _ => exact forIn hf l

end Finds

/-- An action that does not come to an end. -/
def endless : Except Fault α := refuse .tooDeep

def isEndless : Except Fault α → Bool
  | .error (.plain .tooDeep detail) => detail == ""
  | _ => false

lemma endless_of_isEndless (h : isEndless x = true) : x = endless := by
  unfold isEndless at h
  split at h
  · rw [beq_iff_eq.mp h]
    rfl
  · cases h

abbrev Halts (x : Except Fault α) : Prop := Finds (· ≠ .tooDeep) (fun _ => True) x

lemma Halts.ne_endless (h : Halts x) : x ≠ endless := by
  rintro rfl
  exact h rfl

/-! ## Distances -/

namespace Quantity

variable {a b c : Quantity}

lemma not_lt_self (a : Quantity) : a.lt a = false := by
  cases a with
  | finite n => simp [lt]
  | infinite => rfl

lemma not_lt_trans (hab : b.lt a = false) (hbc : c.lt b = false) : c.lt a = false := by
  cases a <;> cases b <;> cases c <;> simp_all [lt]
  omega

lemma not_lt_of_lt (h : a.lt b = true) : b.lt a = false := by
  cases a <;> cases b <;> simp_all [lt]
  omega

lemma not_add_lt (h : c.lt (.finite 0) = false) : (a.add c).lt a = false := by
  cases a with
  | infinite => rfl
  | finite n =>
    cases c with
    | infinite => rfl
    | finite m =>
      have hm : ¬m < 0 := by simpa only [lt, decide_eq_false_iff_not] using h
      simp only [add, lt, decide_eq_false_iff_not]
      omega

end Quantity

namespace Shortest

variable {S : Nat → Prop} {d : Quantity} {s : State} {other : List (Nat × Option Nat)} {source v w u : Nat}

/-! ## Search by weights -/

/-- The node that is taken from the fringe is one of the nearest. -/
lemma popNearest_some {fringe rest : List (Quantity × Nat)} {x : Quantity × Nat} (h : popNearest fringe = some (x, rest)) :
    x ∈ fringe ∧ (∀ y ∈ fringe, y.1.lt x.1 = false) ∧ ∀ y ∈ rest, y ∈ fringe := by
  have hbest : ∀ (ys : List (Quantity × Nat)) (b : Quantity × Nat),
      let r := ys.foldl (fun b y => if y.1.lt b.1 then y else b) b
      r ∈ b :: ys ∧ ∀ y ∈ b :: ys, y.1.lt r.1 = false := by
    intro ys
    induction ys with
    | nil => exact fun b => ⟨by simp, by simp [Quantity.not_lt_self]⟩
    | cons y ys ih =>
      intro b
      obtain ⟨hmem, hmin⟩ := ih (if y.1.lt b.1 then y else b)
      rw [foldl_cons]
      -- the nearer one of the first two is kept
      have hkept : (if y.1.lt b.1 then y else b) = y ∧ b.1.lt y.1 = false ∨
          (if y.1.lt b.1 then y else b) = b ∧ y.1.lt b.1 = false := by
        cases hlt : y.1.lt b.1 with
        | true => exact .inl ⟨by simp, Quantity.not_lt_of_lt hlt⟩
        | false => exact .inr ⟨by simp, rfl⟩
      have hfirst := hmin _ (.head _)
      rcases hkept with ⟨hif, hle⟩ | ⟨hif, hle⟩
      · rw [hif] at hmem hmin hfirst ⊢
        refine ⟨.tail _ hmem, fun z hz => ?_⟩
        rcases mem_cons.mp hz with rfl | hz
        · exact Quantity.not_lt_trans hfirst hle
        · exact hmin z hz
      · rw [hif] at hmem hmin hfirst ⊢
        refine ⟨?_, fun z hz => ?_⟩
        · rcases mem_cons.mp hmem with h | h
          · exact mem_cons.mpr (.inl h)
          · exact .tail _ (.tail _ h)
        · rcases mem_cons.mp hz with rfl | hz
          · exact hfirst
          · rcases mem_cons.mp hz with rfl | hz
            · exact Quantity.not_lt_trans hfirst hle
            · exact hmin z (.tail _ hz)
  cases fringe with
  | nil => cases h
  | cons y ys =>
    obtain ⟨rfl, rfl⟩ := Prod.mk.inj (Option.some.inj h)
    obtain ⟨hmem, hmin⟩ := hbest ys y
    exact ⟨hmem, hmin, fun z hz => mem_of_mem_erase hz⟩

/-- Nodes that are done are not further than `d`, and no node to visit is nearer. All nodes met are in the
set. -/
structure Fair (S : Nat → Prop) (d : Quantity) (s : State) : Prop where
  settled : ∀ u du, s.settled.getD u none = some du → d.lt du = false
  fringe : ∀ x ∈ s.fringe, x.1.lt d = false ∧ S x.2
  before : ∀ u ps, s.before.getD u none = some ps → ∀ p ∈ ps, S p

lemma getD_set (xs : Array (Option α)) (u v : Nat) (a : α) {b : α}
    (h : (xs.setIfInBounds u (some a)).getD v none = some b) : v = u ∧ b = a ∨ xs.getD v none = some b := by
  rw [Array.getD_eq_getD_getElem?, Array.getElem?_setIfInBounds] at h
  split at h
  · rename_i huv
    split at h
    · exact .inl ⟨huv.symm, (Option.some.inj h).symm⟩
    · cases h
  · exact .inr (by rw [Array.getD_eq_getD_getElem?]; exact h)

lemma getD_note {xs : Array (Option (List Nat))} {ps : List Nat} (h : (xs.modify u (·.map (· ++ [v]))).getD w none = some ps) :
    ∃ qs, xs.getD w none = some qs ∧ ∀ p ∈ ps, p ∈ qs ∨ p = v := by
  rw [Array.getD_eq_getD_getElem?, Array.getElem?_modify] at h
  rw [Array.getD_eq_getD_getElem?]
  split at h
  · cases hw : xs[w]? with
    | none => simp [hw] at h
    | some o =>
      cases o with
      | none => simp [hw] at h
      | some qs =>
        rw [hw] at h
        obtain rfl : qs ++ [v] = ps := by simpa using h
        exact ⟨qs, rfl, fun p hp => by simpa using hp⟩
  · exact ⟨ps, h, fun p hp => .inl hp⟩

lemma Fair.relax (h : Fair S d s) {e : Quantity} (hv : S v) (hu : S u) (he : e.lt d = false) :
    ∃ t, relax v s u e = .ok t ∧ Fair S d t := by
  have hnoted : Fair S d { s with before := s.before.modify u (·.map (· ++ [v])) } := by
    refine ⟨h.settled, h.fringe, fun w ps hps p hp => ?_⟩
    obtain ⟨qs, hqs, hmem⟩ := getD_note hps
    rcases hmem p hp with hp | rfl
    · exact h.before w qs hqs p hp
    · exact hv
  have hmet : Fair S d
      { s with
        seen := s.seen.setIfInBounds u (some e)
        before := s.before.setIfInBounds u (some [v])
        fringe := s.fringe ++ [(e, u)] } := by
    refine ⟨h.settled, fun x hx => ?_, fun w ps hps p hp => ?_⟩
    · rcases mem_append.mp hx with hx | hx
      · exact h.fringe x hx
      · obtain rfl := mem_singleton.mp hx
        exact ⟨he, hu⟩
    · rcases getD_set _ _ _ _ hps with ⟨_, rfl⟩ | hps
      · obtain rfl := mem_singleton.mp hp
        exact hv
      · exact h.before w ps hps p hp
  unfold Shortest.relax
  cases hsettled : s.settled.getD u none with
  | some du =>
    have hlt : e.lt du = false := Quantity.not_lt_trans (h.settled u du hsettled) he
    simp only [hlt, Bool.false_eq_true, if_false]
    split
    · exact ⟨_, rfl, hnoted⟩
    · exact ⟨_, rfl, h⟩
  | none =>
    cases s.seen.getD u none with
    | none => exact ⟨_, rfl, hmet⟩
    | some old =>
      dsimp only
      split
      · exact ⟨_, rfl, hmet⟩
      · split
        · exact ⟨_, rfl, hnoted⟩
        · exact ⟨_, rfl, h⟩

lemma Fair.relaxAll (hv : S v) : ∀ {next : List (Nat × Quantity)} {s : State}, Fair S d s →
    (∀ x ∈ next, S x.1 ∧ x.2.lt (.finite 0) = false) →
      ∃ t, next.foldlM (fun s x => Shortest.relax v s x.1 (d.add x.2)) s = .ok t ∧ Fair S d t
  | [], s, h, _ => ⟨s, rfl, h⟩
  | x :: next, s, h, hnext => by
    obtain ⟨hu, hc⟩ := hnext x (by simp)
    obtain ⟨t, ht, hfair⟩ := h.relax hv hu (Quantity.not_add_lt hc)
    obtain ⟨t', ht', hfair'⟩ := hfair.relaxAll hv fun y hy => hnext y (.tail _ hy)
    refine ⟨t', ?_, hfair'⟩
    rw [foldlM_cons, ht]
    exact ht'

variable {succ : Nat → Except Fault (List (Nat × Quantity))}

/-- Steps stay in a set, with weights that are not negative. -/
def Stays (S : Nat → Prop) (succ : Nat → Except Fault (List (Nat × Quantity))) : Prop :=
  ∀ v, S v → ∃ next, succ v = .ok next ∧ ∀ x ∈ next, S x.1 ∧ x.2.lt (.finite 0) = false

lemma Fair.visit (hsucc : Stays S succ) : ∀ (fuel : Nat) {d : Quantity} {s : State}, Fair S d s →
    ∃ t, visit succ fuel s = .ok t ∧ ∃ d', Fair S d' t
  | 0, d, s, h => ⟨s, rfl, d, h⟩
  | fuel + 1, d, s, h => by
    unfold Shortest.visit
    split
    · exact ⟨s, rfl, d, h⟩
    · rename_i e v rest hpop
      obtain ⟨hmem, hmin, hrest⟩ := popNearest_some hpop
      obtain ⟨hde, hv⟩ := h.fringe _ hmem
      have hfringe : ∀ x ∈ rest, x.1.lt e = false ∧ S x.2 := fun x hx => ⟨hmin x (hrest x hx), (h.fringe x (hrest x hx)).2⟩
      have hsettled : ∀ u du, s.settled.getD u none = some du → e.lt du = false :=
        fun u du hu => Quantity.not_lt_trans (h.settled u du hu) hde
      dsimp only
      split
      · exact Fair.visit hsucc fuel ⟨hsettled, hfringe, h.before⟩
      · obtain ⟨next, hnext, hall⟩ := hsucc v hv
        have hdone : Fair S e { s with fringe := rest, settled := s.settled.setIfInBounds v (some e) } := by
          refine ⟨fun u du hu => ?_, hfringe, h.before⟩
          rcases getD_set _ _ _ _ hu with ⟨_, rfl⟩ | hu
          · exact Quantity.not_lt_self _
          · exact hsettled u du hu
        obtain ⟨t, ht, hfair⟩ := hdone.relaxAll hv hall
        obtain ⟨t', ht', hfair'⟩ := Fair.visit hsucc fuel hfair
        refine ⟨t', ?_, hfair'⟩
        rw [hnext]
        change (next.foldlM (fun s x => Shortest.relax v s x.1 (e.add x.2)) _ >>= Shortest.visit succ fuel) = _
        rw [ht]
        exact ht'

lemma predecessors_finds (hsucc : Stays S succ) (size edges : Nat) (hsource : S source) :
    ∃ before, predecessors succ size edges source = .ok before ∧ ∀ u ps, before.getD u none = some ps → ∀ p ∈ ps, S p := by
  have hstart : Fair S (.finite 0)
      { settled := Array.replicate size none
        seen := (Array.replicate size none).setIfInBounds source (some (.finite 0))
        before := (Array.replicate size none).setIfInBounds source (some [])
        fringe := [(.finite 0, source)] } := by
    refine ⟨fun u du hu => ?_, fun x hx => ?_, fun u ps hps p hp => ?_⟩
    · rw [Array.getD_eq_getD_getElem?, Array.getElem?_replicate] at hu
      split at hu <;> cases hu
    · obtain rfl := mem_singleton.mp hx
      exact ⟨Quantity.not_lt_self _, hsource⟩
    · rcases getD_set _ _ _ _ hps with ⟨_, rfl⟩ | hps
      · cases hp
      · rw [Array.getD_eq_getD_getElem?, Array.getElem?_replicate] at hps
        split at hps <;> cases hps
  obtain ⟨t, ht, d, hfair⟩ := hstart.visit hsucc (edges + 2)
  refine ⟨t.before, ?_, hfair.before⟩
  unfold predecessors
  dsimp only
  rw [ht]
  rfl

end Shortest

end SurveyGraph
