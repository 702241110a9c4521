import Mathlib.Data.List.Count
import Mathlib.Data.List.Induction
import SurveyGraph.Proofs.RouteHalts
/-!
# Orders of classes

Classes are listed after the classes they need by going round a queue: a class that is not ready goes to its end, until a
whole round has no success. What was put back since the last success is the tail of the queue (`Going`), so at the end
everything left has been tried in vain. Exactly the classes that can be listed at all are listed: `orders_listable`.
-/
open Relation List

namespace SurveyGraph

variable {c : ClassId} {Needs : ClassId → ClassId → Prop} (reg : Registry) {Wanted : ClassId → Prop} {cs : List ClassId}
  {w : Worklist}

/-- The wanted members of a list that need only such classes. -/
inductive Listable (cs : List ClassId) (Wanted : ClassId → Prop) (Needs : ClassId → ClassId → Prop) : ClassId → Prop
  | intro {c : ClassId} (mem : c ∈ cs) (wanted : Wanted c) (needed : ∀ d, Needs c d → Listable cs Wanted Needs d) :
    Listable cs Wanted Needs c

lemma Listable.mem (h : Listable cs Wanted Needs c) : c ∈ cs := by
  cases h with
  | intro hmem _ _ => exact hmem

/-- Every class in a list comes after all that it needs. -/
def AfterNeeds (Needs : ClassId → ClassId → Prop) (out : List ClassId) : Prop :=
  ∀ before c rest, out = before ++ c :: rest → ∀ d, Needs c d → d ∈ before

namespace Worklist

variable {ready : List ClassId → ClassId → Bool} {skip : ClassId → Bool} {start : List ClassId} {w w' : Worklist}
  {Needs : ClassId → ClassId → Prop} {n : Nat}

/-! ## Turns -/

/-- What a step does with the first class of the queue. -/
inductive Turn (ready : List ClassId → ClassId → Bool) (skip : ClassId → Bool) : Worklist → Worklist → Prop
  | drop {c : ClassId} {queue done : List ClassId} {misses : Nat} (hskip : skip c = true) :
    Turn ready skip ⟨c :: queue, misses, done⟩ ⟨queue, misses, done⟩
  | take {c : ClassId} {queue done : List ClassId} {misses : Nat} (hskip : skip c = false) (hready : ready done c = true) :
    Turn ready skip ⟨c :: queue, misses, done⟩ ⟨queue, 0, done ++ [c]⟩
  | miss {c : ClassId} {queue done : List ClassId} {misses : Nat} (hskip : skip c = false)
    (hready : ready done c = false) : Turn ready skip ⟨c :: queue, misses, done⟩ ⟨queue ++ [c], misses + 1, done⟩

lemma step_cases (ready : List ClassId → ClassId → Bool) (skip : ClassId → Bool) (w : Worklist) :
    w.step ready skip = none ∧ (w.queue = [] ∨ w.misses = w.queue.length) ∨
    ∃ w', w.step ready skip = some w' ∧ w.misses ≠ w.queue.length ∧ Turn ready skip w w' := by
  obtain ⟨queue, misses, done⟩ := w
  cases queue with
  | nil => exact .inl ⟨rfl, .inl rfl⟩
  | cons c queue =>
    by_cases hround : misses = queue.length + 1
    · exact .inl ⟨by simp [step, hround], .inr hround⟩
    · refine .inr ?_
      cases hskip : skip c with
      | true => exact ⟨_, by simp [step, hround, hskip], hround, .drop hskip⟩
      | false =>
        cases hready : ready done c with
        | true => exact ⟨_, by simp [step, hround, hskip, hready], hround, .take hskip hready⟩
        | false => exact ⟨_, by simp [step, hround, hskip, hready], hround, .miss hskip hready⟩

/-- What holds while classes are put in order. `missed` has been put back since a class was last done. -/
structure Going (ready : List ClassId → ClassId → Bool) (skip : ClassId → Bool) (start : List ClassId) (w : Worklist) :
    Prop where
  round : ∃ fresh missed, w.queue = fresh ++ missed ∧ missed.length = w.misses ∧
    ∀ c ∈ missed, skip c = false ∧ ready w.done c = false
  count : ∀ c, skip c = false → w.done.count c + w.queue.count c = start.count c
  wanted : ∀ c ∈ w.done, skip c = false
  ready : ∀ before c rest, w.done = before ++ c :: rest → ready before c = true

lemma going_start (ready : List ClassId → ClassId → Bool) (skip : ClassId → Bool) (start : List ClassId) :
    Going ready skip start { queue := start } where
  round := ⟨start, [], by simp⟩
  count c _ := by simp
  wanted c hc := by cases hc
  ready before c rest h := by simp at h

/-- A turn keeps what holds: the first of the queue has not been tried in this round. -/
lemma Going.turn (h : Going ready skip start w) (hround : w.misses ≠ w.queue.length) (ht : Turn ready skip w w') :
    Going ready skip start w' := by
  obtain ⟨⟨fresh, missed, hqueue, hmisses, hmissed⟩, hcount, hwanted, hready⟩ := h
  cases ht with
  | @drop c queue done misses hskip =>
    cases fresh with
    | nil => exact absurd (hmisses.symm.trans (by rw [hqueue]; rfl)) hround
    | cons d fresh =>
      obtain ⟨rfl, rfl⟩ := cons.inj hqueue
      refine ⟨⟨fresh, missed, rfl, hmisses, hmissed⟩, fun b hb => ?_, hwanted, hready⟩
      have hne : c ≠ b := by
        rintro rfl
        rw [hskip] at hb
        cases hb
      rw [← hcount b hb, count_cons_of_ne hne]
  | @take c queue done misses hskip hready' =>
    refine ⟨⟨queue, [], by simp⟩, fun b hb => ?_, fun b hb => ?_, fun before b rest hsplit => ?_⟩
    · rw [← hcount b hb]
      simp only [count_append, count_cons, count_nil]
      omega
    · rcases mem_append.mp hb with hb | hb
      · exact hwanted b hb
      · exact mem_singleton.mp hb ▸ hskip
    · rcases append_eq_append_iff.mp hsplit with ⟨as, rfl, has⟩ | ⟨bs, hdone, hbs⟩
      · cases as with
        | nil =>
          obtain ⟨rfl, -⟩ := cons.inj has
          simpa using hready'
        | cons a as => simp at has
      · cases bs with
        | nil =>
          obtain ⟨rfl, -⟩ := cons.inj hbs
          simpa [hdone] using hready'
        | cons a bs =>
          obtain ⟨rfl, -⟩ := cons.inj hbs
          exact hready before _ bs hdone
  | @miss c queue done misses hskip hready' =>
    cases fresh with
    | nil => exact absurd (hmisses.symm.trans (by rw [hqueue]; rfl)) hround
    | cons d fresh =>
      obtain ⟨rfl, rfl⟩ := cons.inj hqueue
      refine ⟨⟨fresh, missed ++ [c], by simp, by simp [hmisses], fun b hb => ?_⟩, fun b hb => ?_, hwanted, hready⟩
      · rcases mem_append.mp hb with hb | hb
        · exact hmissed b hb
        · obtain rfl := mem_singleton.mp hb
          exact ⟨hskip, hready'⟩
      · rw [← hcount b hb]
        simp only [count_append, count_cons, count_nil]
        omega

/-! ## The end -/

/-- How much is left to do: classes, and tries in the round. -/
def left (n : Nat) (w : Worklist) : Nat := w.queue.length * (n + 1) + (w.queue.length - w.misses)

lemma Turn.left_lt (ht : Turn ready skip w w') (hn : w.queue.length ≤ n) (hmisses : w.misses < w.queue.length) :
    w'.left n < w.left n ∧ w'.queue.length ≤ n := by
  cases ht with
  | drop | take =>
    simp only [left, length_cons, Nat.succ_mul] at hn hmisses ⊢
    omega
  | miss =>
    simp only [left, length_cons, length_append, length_nil, Nat.succ_mul] at hn hmisses ⊢
    omega

/-- Putting classes in order ends, with nothing left or a round in vain. -/
lemma Going.run : ∀ {fuel : Nat} {w : Worklist}, Going ready skip start w → w.queue.length ≤ n →
    w.left n < fuel → ∃ w', w.run ready skip fuel = some w' ∧ Going ready skip start w' ∧
      (w'.queue = [] ∨ w'.misses = w'.queue.length)
  | 0, _, _, _, hfuel => absurd hfuel (Nat.not_lt_zero _)
  | fuel + 1, w, h, hn, hfuel => by
    rcases step_cases ready skip w with ⟨hnone, hend⟩ | ⟨w', hsome, hround, ht⟩
    · exact ⟨w, by rw [Worklist.run, hnone], h, hend⟩
    · obtain ⟨fresh, missed, hqueue, hmisses, -⟩ := h.round
      have hle : w.misses ≤ w.queue.length := by
        rw [hqueue, length_append]
        omega
      obtain ⟨hlt, hn'⟩ := ht.left_lt hn (Nat.lt_of_le_of_ne hle hround)
      obtain ⟨v, hv, hgoing, hend⟩ := (h.turn hround ht).run hn' (hlt.trans_le (Nat.le_of_lt_succ hfuel))
      exact ⟨v, by rw [Worklist.run, hsome]; exact hv, hgoing, hend⟩

lemma left_start_lt (start : List ClassId) : left start.length { queue := start } < Registry.orderFuel start.length := by
  simp only [left, Registry.orderFuel, Nat.succ_mul]
  omega

lemma Going.not_ready (h : Going ready skip start w) (hend : w.queue = [] ∨ w.misses = w.queue.length)
    (hc : c ∈ w.queue) : skip c = false ∧ ready w.done c = false := by
  obtain ⟨fresh, missed, hqueue, hmisses, hmissed⟩ := h.round
  rcases hend with hnil | hround
  · rw [hnil] at hc
    cases hc
  · have hfresh : fresh = [] := by
      rw [hqueue, length_append] at hround
      exact length_eq_zero_iff.mp (by omega)
    rw [hqueue, hfresh] at hc
    exact hmissed c hc

/-! ## What is listed -/

/-- A class is ready when all that it needs is done. -/
def Tells (ready : List ClassId → ClassId → Bool) (Needs : ClassId → ClassId → Prop) (c : ClassId) : Prop :=
  ∀ done, ready done c = true ↔ ∀ d, Needs c d → d ∈ done

lemma Going.mem_of_count (h : Going ready skip start w) (hc : c ∈ w.done ∨ c ∈ w.queue)
    (hskip : skip c = false) : c ∈ start := by
  rw [← count_pos_iff, ← h.count c hskip]
  rcases hc with hc | hc
  · exact Nat.add_pos_left (count_pos_iff.mpr hc) _
  · exact Nat.add_pos_right _ (count_pos_iff.mpr hc)

lemma Going.count_listable (h : Going ready skip start w) (hend : w.queue = [] ∨ w.misses = w.queue.length)
    (htells : ∀ c ∈ start, Tells ready Needs c) (hc : Listable start (skip · = false) Needs c) :
    w.done.count c = start.count c := by
  induction hc with
  | @intro c hmem hskip hneeded ih =>
    have hleft : c ∉ w.queue := by
      intro hqueue
      obtain ⟨-, hfalse⟩ := h.not_ready hend hqueue
      have htrue : ready w.done c = true := by
        refine (htells c hmem w.done).mpr fun d hd => ?_
        rw [← count_pos_iff, ih d hd]
        exact count_pos_iff.mpr (hneeded d hd).mem
      rw [htrue] at hfalse
      cases hfalse
    rw [← h.count c hskip, count_eq_zero.mpr hleft]
    rfl

lemma Going.afterNeeds (h : Going ready skip start w) (htells : ∀ c ∈ start, Tells ready Needs c) :
    AfterNeeds Needs w.done := by
  intro before c rest hsplit
  have hmem : c ∈ w.done := by
    rw [hsplit]
    simp
  exact (htells c (h.mem_of_count (.inl hmem) (h.wanted c hmem)) before).mp (h.ready before c rest hsplit)

end Worklist

lemma AfterNeeds.listable {out : List ClassId}
    (h : AfterNeeds Needs out) (hmem : ∀ c ∈ out, c ∈ cs ∧ Wanted c) : ∀ c ∈ out, Listable cs Wanted Needs c := by
  induction out using reverseRecOn with
  | nil => simp
  | append_singleton out a ih =>
    have hbefore := ih (fun before c rest hsplit => h before c (rest ++ [a]) (by simp [hsplit]))
      fun c hc => hmem c (mem_append_left _ hc)
    intro c hc
    rcases mem_append.mp hc with hc | hc
    · exact hbefore c hc
    · obtain rfl := mem_singleton.mp hc
      obtain ⟨hcs, hwanted⟩ := hmem c (by simp)
      exact .intro hcs hwanted fun d hd => hbefore d (h out c [] rfl d hd)

/-- Listing classes ends. What it lists are wanted classes, each after all that it needs, and every one that
can be listed as often as it was given. It fails exactly if a wanted class cannot be listed. -/
def ListsInOrder (cs : List ClassId) (Wanted : ClassId → Prop) (Needs : ClassId → ClassId → Prop) (run : Option Worklist)
    (outcome : Except Fault (List ClassId)) : Prop :=
  ∃ w, run = some w ∧ (∀ c ∈ w.done, c ∈ cs ∧ Wanted c) ∧ AfterNeeds Needs w.done ∧
    (∀ c, Listable cs Wanted Needs c → w.done.count c = cs.count c) ∧
    ((∃ c ∈ cs, Wanted c ∧ ¬ Listable cs Wanted Needs c) → ∃ e, outcome = .error e ∧ e.kind = .badType) ∧
    ((∀ c ∈ cs, Wanted c → Listable cs Wanted Needs c) → outcome = .ok w.done)

lemma Registry.ordered_of_nil (cause : List String → SchemaCause) (h : w.queue = []) :
    reg.ordered cause (some w) = .ok w.done := by
  obtain ⟨queue, misses, done⟩ := w
  subst h
  rfl

lemma Registry.ordered_of_ne (cause : List String → SchemaCause) (h : w.queue ≠ []) :
    reg.ordered cause (some w) = refuse (cause (w.queue.map (fun c => (reg.get c).shown))) := by
  obtain ⟨queue, misses, done⟩ := w
  cases queue with
  | nil => exact absurd rfl h
  | cons c queue => rfl

namespace Worklist

variable {ready : List ClassId → ClassId → Bool} {skip : ClassId → Bool} {start : List ClassId} {w : Worklist}
  {Needs : ClassId → ClassId → Prop}

lemma listsInOrder (hperm : start.Perm cs) (htells : ∀ c ∈ cs, Tells ready Needs c) {cause : List String → SchemaCause}
    (hcause : ∀ left, (Cause.toFault (cause left)).kind = .badType) :
    ListsInOrder cs (skip · = false) Needs (Worklist.run ready skip (Registry.orderFuel cs.length) { queue := start })
      (reg.ordered cause (Worklist.run ready skip (Registry.orderFuel cs.length) { queue := start })) := by
  have hmem : ∀ {c}, c ∈ start ↔ c ∈ cs := hperm.mem_iff
  have htells' : ∀ c ∈ start, Tells ready Needs c := fun c hc => htells c (hmem.mp hc)
  obtain ⟨w, hrun, hgoing, hend⟩ := (going_start ready skip start).run le_rfl (left_start_lt start)
  rw [hperm.length_eq] at hrun
  have hlist : ∀ {c}, Listable cs (skip · = false) Needs c → Listable start (skip · = false) Needs c := by
    intro c hc
    induction hc with
    | intro hcs hskip _ ih => exact .intro (hmem.mpr hcs) hskip ih
  have hcount : ∀ c, Listable cs (skip · = false) Needs c → w.done.count c = cs.count c :=
    fun c hc => (hgoing.count_listable hend htells' (hlist hc)).trans (hperm.count_eq c)
  have hdone : ∀ c ∈ w.done, c ∈ cs ∧ skip c = false := fun c hc =>
    ⟨hmem.mp (hgoing.mem_of_count (.inl hc) (hgoing.wanted c hc)), hgoing.wanted c hc⟩
  have hafter := hgoing.afterNeeds htells'
  refine ⟨w, hrun, hdone, hafter, hcount, ?_, fun hall => ?_⟩
  · rintro ⟨c, hc, hskip, hnot⟩
    -- With an empty queue every wanted class would be listed.
    have hne : w.queue ≠ [] := by
      intro hnil
      have hsum := hgoing.count c hskip
      rw [hnil, count_nil, Nat.add_zero, hperm.count_eq c] at hsum
      exact hnot (hafter.listable hdone c (count_pos_iff.mp (hsum ▸ count_pos_iff.mpr hc)))
    rw [hrun, reg.ordered_of_ne cause hne]
    exact ⟨_, rfl, hcause _⟩
  · -- Nothing that can be listed is left in the queue.
    have hnil : w.queue = [] := by
      refine eq_nil_iff_forall_not_mem.mpr fun c hc => ?_
      obtain ⟨hskip, -⟩ := hgoing.not_ready hend hc
      have hcs := hmem.mp (hgoing.mem_of_count (.inr hc) hskip)
      have hsum := hgoing.count c hskip
      rw [hcount c (hall c hcs hskip), hperm.count_eq c] at hsum
      exact count_eq_zero.mp (Nat.add_eq_left.mp hsum) hc
    rw [hrun, reg.ordered_of_nil cause hnil]

end Worklist

namespace Registry

variable {reg : Registry} {b c d : ClassId}

/-! ## Relations -/

def RelatedTo (reg : Registry) (c d : ClassId) : Prop := some d ∈ reg.relatedClasses c ∧ d ≠ c

def IsResolved (reg : Registry) (c : ClassId) : Prop := none ∉ reg.relatedClasses c

lemma IsResolved.tells (h : reg.IsResolved c) : Worklist.Tells reg.relativesDone reg.RelatedTo c := by
  intro done
  rw [relativesDone, all_eq_true]
  constructor
  · rintro hall d ⟨hd, hne⟩
    simpa [hne] using hall (some d) hd
  · intro hall o ho
    cases o with
    | none => exact absurd ho h
    | some d =>
      by_cases hd : d = c
      · simp [hd]
      · simpa [hd] using hall d ⟨ho, hd⟩

/-! ## Bases -/

/-- A class extends another directly, and that is not the root. -/
def ProperBase (reg : Registry) (c b : ClassId) : Prop := b ∈ (reg.get c).bases ∧ b ≠ root

lemma Schema.bases_root (h : Schema reg) : (reg.get root).bases = [] := by
  induction h with
  | empty => rfl
  | declares hbefore _ haccepted ih =>
    have horderly := hbefore.orderly
    rw [(declare_ok horderly.root haccepted).2.old root horderly.root]
    exact ih
  | settles _ hsettled ih =>
    rw [(settle_alike hsettled).get root]
    exact ih

lemma Schema.base_lt (h : Schema reg) (hb : reg.ProperBase c b) : b < c := by
  have horderly := h.orderly
  by_cases hc : c < reg.classes.size
  · by_cases hroot : c = root
    · rw [ProperBase, hroot, h.bases_root] at hb
      cases hb.1
    · exact (horderly.bases c (Nat.pos_of_ne_zero hroot) hc).2 b hb.1
  · rw [ProperBase, get_of_size_le (Nat.le_of_not_lt hc)] at hb
    cases hb.1

lemma mem_basesWithin_succ {fuel : Nat} : d ∈ reg.basesWithin (· == root) (fuel + 1) c ↔
    ∃ b, reg.ProperBase c b ∧ (d = b ∨ d ∈ reg.basesWithin (· == root) fuel b) := by
  simp [basesWithin, ProperBase, mem_flatMap]

lemma transGen_of_mem_basesWithin : ∀ {fuel : Nat} {c : ClassId}, d ∈ reg.basesWithin (· == root) fuel c →
    TransGen reg.ProperBase c d
  | 0, _, h => by cases h
  | fuel + 1, c, h => by
    obtain ⟨b, hb, rfl | hd⟩ := mem_basesWithin_succ.mp h
    · exact .single hb
    · exact .head hb (transGen_of_mem_basesWithin hd)

lemma Schema.mem_basesWithin (h : Schema reg) : ∀ {fuel : Nat} {c : ClassId}, c < fuel → TransGen reg.ProperBase c d →
    d ∈ reg.basesWithin (· == root) fuel c
  | 0, _, hc, _ => absurd hc (Nat.not_lt_zero _)
  | fuel + 1, c, hc, hd => by
    obtain ⟨b, hb, hrest⟩ := TransGen.head'_iff.mp hd
    refine mem_basesWithin_succ.mpr ⟨b, hb, ?_⟩
    rcases Relation.reflTransGen_iff_eq_or_transGen.mp hrest with heq | hrest
    · exact .inl heq
    · exact .inr (h.mem_basesWithin ((h.base_lt hb).trans_le (Nat.le_of_lt_succ hc)) hrest)

/-- The proper bases of a class are all it extends, the root apart. -/
lemma Schema.mem_properBases (h : Schema reg) : d ∈ reg.properBases c ↔ TransGen reg.ProperBase c d := by
  refine ⟨transGen_of_mem_basesWithin, fun hd => ?_⟩
  by_cases hc : c < reg.classes.size
  · exact h.mem_basesWithin hc hd
  · obtain ⟨b, hb, _⟩ := TransGen.head'_iff.mp hd
    rw [ProperBase, get_of_size_le (Nat.le_of_not_lt hc)] at hb
    cases hb.1

lemma Schema.tells_bases (h : Schema reg) (c : ClassId) :
    Worklist.Tells (fun done c => (reg.properBases c).all done.contains) (TransGen reg.ProperBase) c := by
  intro done
  simp only [all_eq_true, contains_iff_mem, h.mem_properBases]

/-- Classes are listed after their relatives, without templates, and after their bases: each order ends, lists
what can be listed, and fails exactly if a class cannot be. -/
theorem orders_listable (h : Schema reg) (cs : List ClassId) : ((∀ c ∈ cs, reg.IsResolved c) →
      ListsInOrder cs (fun c => (reg.get c).isTemplate = false) reg.RelatedTo (reg.dependencyRun cs) (reg.dependencyOrder cs)) ∧
    ListsInOrder cs (fun _ => True) (TransGen reg.ProperBase) (reg.typeRun cs) (reg.typeOrder cs) := by
  refine ⟨fun hresolved => ?_, ?_⟩
  · exact Worklist.listsInOrder reg (List.mergeSort_perm cs _) (fun c hc => (hresolved c hc).tells) fun _ => rfl
  · have hall : (fun _ => True) = fun c : ClassId => (fun _ => false : ClassId → Bool) c = false := by
      simp
    rw [hall]
    exact Worklist.listsInOrder reg (List.Perm.refl cs) (fun c _ => h.tells_bases c) fun _ => rfl

/-- A single spectrum is listed twice after its night; a sum cannot be, as it is related to a template. -/
theorem orders_listable_spectra :
    ListsInOrder [4, 3, 1, 2, 3] (fun c => ((Atlas.spectraRegistry "Spectrum").get c).isTemplate = false)
      (Atlas.spectraRegistry "Spectrum").RelatedTo ((Atlas.spectraRegistry "Spectrum").dependencyRun [4, 3, 1, 2, 3])
      ((Atlas.spectraRegistry "Spectrum").dependencyOrder [4, 3, 1, 2, 3]) ∧
    ListsInOrder [4, 3, 1, 2, 3] (fun _ => True) (TransGen (Atlas.spectraRegistry "Spectrum").ProperBase)
      ((Atlas.spectraRegistry "Spectrum").typeRun [4, 3, 1, 2, 3])
      ((Atlas.spectraRegistry "Spectrum").typeOrder [4, 3, 1, 2, 3]) := by
  have hschema : (Atlas.spectraRegistry "Spectrum").Schema := Atlas.spectraRegistry_schema (by decide +kernel)
  obtain ⟨hrelated, hbases⟩ := orders_listable hschema [4, 3, 1, 2, 3]
  refine ⟨hrelated ?_, hbases⟩
  unfold IsResolved
  decide +kernel

end Registry

end SurveyGraph
