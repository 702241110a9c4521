import SurveyGraph.Proofs.Legible
import SurveyGraph.Proofs.WriteCourse
/-!
# Methods that succeed

A method succeeds if the program is open and can be written down so far (`Ready`), what it is given can be used, and
properties are given under texts, each once. It leaves everything in reach that was (`Onward`). `Works` says both.
-/
open Relation List

namespace SurveyGraph.Write

variable {α β : Type} {o p q : Program} {u v : VarId} {ps : List (Thing × Thing)} {g : GivenRelation} (vs : List VarId)
  {s : Statement}

/-! ## Programs that go on -/

/-- What is added to a program leaves all in reach that was. -/
structure Onward (p q : Program) : Prop where
  kept : Kept p q
  outer : q.blocks.drop 1 = p.blocks.drop 1
  inner : ∀ v ∈ p.blocks.headD [], v ∈ q.blocks.headD []

lemma Onward.refl (p : Program) : Onward p p := ⟨.refl p, rfl, fun _ h => h⟩

lemma Onward.trans (h : Onward p q) (h' : Onward q o) : Onward p o :=
  ⟨h.kept.trans h'.kept, h'.outer.trans h.outer, fun v hv => h'.inner v (h.inner v hv)⟩

lemma Onward.lt (h : Onward p q) (hv : v < p.vars.size) : v < q.vars.size := hv.trans_le h.kept.old.size

lemma mem_blocks : v ∈ p.blocks.flatten ↔ v ∈ p.blocks.headD [] ∨ v ∈ (p.blocks.drop 1).flatten := by
  cases p.blocks with
  | nil | cons b bs => simp

lemma inReach_iff : p.inReach v ↔ v ∈ p.blocks.flatten ∨ v ∈ p.data := by
  simp [Program.inReach, mem_flatten]

lemma Onward.inReach (h : Onward p q) (hv : p.inReach v) : q.inReach v := by
  rw [inReach_iff, mem_blocks] at hv ⊢
  rw [h.outer]
  exact hv.imp (·.imp_left (h.inner v)) (h.kept.old.data v)

lemma Kept.isAccessibleWithin (h : Kept p q) (hreach : ∀ v, p.inReach v → q.inReach v) : ∀ {fuel fuel' : Nat} {v : VarId},
    fuel ≤ fuel' → p.isAccessibleWithin fuel v → q.isAccessibleWithin fuel' v := by
  intro fuel
  induction fuel with
  | zero => intro fuel' v _ h; cases h
  | succ fuel ih =>
    intro fuel' v hle hv
    obtain ⟨fuel', rfl⟩ : ∃ n, fuel' = n + 1 := ⟨fuel' - 1, by omega⟩
    unfold Program.isAccessibleWithin at hv ⊢
    rcases Bool.or_eq_true_iff.mp hv with hv | hv
    · rw [hreach v hv, Bool.true_or]
    · split at hv
      · rename_i w hw
        rw [h.old.get v (Program.lt_of_parent hw), hw]
        simp only [ih (Nat.le_of_succ_le_succ hle) hv, Bool.or_true]
      · cases hv

variable {t : Thing} {es : List (Thing × Thing)}

lemma Kept.reach (h : Kept p q) (hreach : ∀ v, p.inReach v → q.inReach v) (ht : p.isAccessible t) : q.isAccessible t := by
  obtain ⟨v, rfl⟩ := var_of_isAccessible ht
  refine h.isAccessibleWithin hreach (?_ : p.depth ≤ q.depth) ht
  unfold Program.depth
  rw [h.instances]
  exact Nat.succ_le_succ (Nat.add_le_add_right h.old.size _)

lemma Onward.reach (h : Onward p q) (ht : p.isAccessible t) : q.isAccessible t :=
  h.kept.reach (fun _ => h.inReach) ht

lemma Program.Legible.lt_of_isAccessible (hp : p.Legible) (h : p.isAccessible (.var v)) : v < p.vars.size := by
  refine Program.isAccessible_induction (P := fun v => v < p.vars.size) (fun v hv => ?_) (fun v w hw _ => ?_) h
  · rcases Program.mem_of_inReach hv with hv | hv
    · exact hp.blocks v hv
    · exact hp.data v hv
  · exact Program.lt_of_parent hw

/-- A program that is open and can be written down so far. -/
structure Program.Ready (p : Program) : Prop where
  isOpen : p.isOpen
  legible : p.Legible

lemma Program.Ready.pushVariable (hp : p.Ready) {x : Variable} {hint : String} (hx : x.hint = .text hint) :
    ({ p with vars := p.vars.push x } : Program).Ready := by
  obtain ⟨hopen, hp⟩ := hp
  have hlt {v : VarId} (hv : v < p.vars.size) : v < (p.vars.push x).size := by
    rw [Array.size_push]
    exact Nat.lt_succ_of_lt hv
  refine ⟨hopen, hlt hp.time, fun v hv => ?_, fun v hv => hlt (hp.data v hv), fun v hv => hlt (hp.blocks v hv),
    fun s hs t ht => ?_, hp.writable⟩
  · rcases Nat.lt_succ_iff_lt_or_eq.mp (Array.size_push x ▸ hv) with hv | rfl
    · rw [Program.get_push x hv]
      exact hp.hints v hv
    · rw [Program.get_push_size]
      exact ⟨hint, hx⟩
  · obtain ⟨v, hv, rfl⟩ := hp.mentioned s hs t ht
    exact ⟨v, hlt hv, rfl⟩

lemma onward_push (x : Variable) : Onward p { p with vars := p.vars.push x } := by
  have hext : Extends p { p with vars := p.vars.push x } := ⟨by simp, fun v hv => Program.get_push x hv, fun _ h => h⟩
  exact ⟨⟨hext, fun _ h _ => h, rfl, rfl, rfl, rfl⟩, rfl, fun _ h => h⟩

lemma Program.Ready.pushData (hp : p.Ready) (hv : v < p.vars.size) : ({ p with data := p.data.push v } : Program).Ready := by
  obtain ⟨hopen, hp⟩ := hp
  refine ⟨hopen, hp.time, hp.hints, fun u hu => ?_, hp.blocks, hp.mentioned, hp.writable⟩
  rcases Array.mem_push.mp hu with hu | rfl
  · exact hp.data u hu
  · exact hv

lemma onward_data (v : VarId) : Onward p { p with data := p.data.push v } := by
  have hext : Extends p { p with data := p.data.push v } := ⟨le_rfl, fun _ _ => rfl, fun _ h => by simp [h]⟩
  exact ⟨⟨hext, fun _ h _ => h, rfl, rfl, rfl, rfl⟩, rfl, fun _ h => h⟩

lemma Program.extend_outer : (p.extend vs).blocks.drop 1 = p.blocks.drop 1 := by
  unfold Program.extend
  cases p.blocks <;> rfl

lemma Program.extend_inner : (p.extend vs).blocks.headD [] = p.blocks.headD [] ++ vs := by
  unfold Program.extend
  cases p.blocks <;> rfl

lemma Program.Ready.mentioned (hp : p.Ready) (hin : ∀ t ∈ s.inputs, p.isAccessible t)
    (hout : ∀ v ∈ s.outputs ++ s.hidden, v < p.vars.size) : ∀ t ∈ s.mentioned, ∃ v < p.vars.size, t = .var v := by
  intro t ht
  rcases mem_append.mp ht with ht | ht
  · obtain ⟨v, rfl⟩ := var_of_isAccessible (hin t ht)
    exact ⟨v, hp.legible.lt_of_isAccessible (hin _ ht), rfl⟩
  · obtain ⟨v, hv, rfl⟩ := mem_map.mp ht
    exact ⟨v, hout v hv, rfl⟩

lemma Program.Ready.extend (hp : p.Ready) {vs : List VarId} (hvs : ∀ v ∈ vs, v < p.vars.size) : (p.extend vs).Ready := by
  obtain ⟨hopen, hp⟩ := hp
  refine ⟨hopen, hp.time, hp.hints, hp.data, fun v hv => ?_, hp.mentioned, hp.writable⟩
  rcases Program.mem_extend.mp hv with hv | hv
  · exact hp.blocks v hv
  · exact hvs v hv

lemma onward_withStatement (s : Statement) : Onward p (p.withStatement s) := by
  refine ⟨kept_withStatement s, Program.extend_outer s.outputs, fun v hv => ?_⟩
  change v ∈ (p.extend s.outputs).blocks.headD []
  rw [Program.extend_inner]
  exact mem_append_left _ hv

/-! ## Methods that work -/

/-- A method succeeds in a ready program and leaves it ready, and what it gives has a property. -/
def Works (p : Program) (m : WriteM α) (Q : α → Program → Prop) : Prop :=
  p.Ready → ∃ a q, after m p = (.ok a, q) ∧ q.Ready ∧ Onward p q ∧ Q a q

namespace Works

variable {m : WriteM α} {f : α → WriteM β} {Q : α → Program → Prop} {R : β → Program → Prop} {a : α}

lemma pure (h : Q a p) : Works p (pure a) Q := fun hp => ⟨a, p, rfl, hp, .refl p, h⟩

lemma bind (hm : Works p m Q) (hf : ∀ a q, Onward p q → Q a q → Works q (f a) R) : Works p (m >>= f) R := by
  intro hp
  obtain ⟨a, q, hok, hready, hq, hQ⟩ := hm hp
  obtain ⟨b, r, hok', hready', hr, hR⟩ := hf a q hq hQ hready
  refine ⟨b, r, ?_, hready', hq.trans hr, hR⟩
  rw [after_bind, hok]
  exact hok'

lemma pure_bind (h : Works p (f a) R) : Works p (Pure.pure a >>= f) R := h

lemma get_bind {f : Program → WriteM α} (h : Works p (f p) Q) : Works p (get >>= f) Q := h

lemma lift_bind {x : Except Fault α} (hx : x = .ok a) (h : Works p (f a) R) : Works p (liftM x >>= f) R := by
  rw [hx]
  exact h

lemma ready (h : p.Ready → Works p m Q) : Works p m Q := fun hp => h hp hp

variable {P : α → Program → Prop}

lemma mono (hm : Works p m Q) (h : ∀ a q, Onward p q → Q a q → P a q) : Works p m P := by
  intro hp
  obtain ⟨a, q, hok, hready, hq, hQ⟩ := hm hp
  exact ⟨a, q, hok, hready, hq, h a q hq hQ⟩

lemma and_ok (hm : Works p m Q) (h : ∀ a q, after m p = (.ok a, q) → P a q) : Works p m (fun a q => Q a q ∧ P a q) := by
  intro hp
  obtain ⟨a, q, hok, hready, hq, hQ⟩ := hm hp
  exact ⟨a, q, hok, hready, hq, hQ, h a q hok⟩

lemma and_leads {r : Program → Program → Prop} (hm : Works p m Q) (h : Leads r p m P) :
    Works p m (fun a q => Q a q ∧ P a q) := hm.and_ok fun _ _ hok => (h.of_ok hok).2

lemma mapM {P : β → Program → Prop} (hP : ∀ b p q, Onward p q → P b p → P b q) :
    ∀ {l : List α} {p : Program}, (∀ a ∈ l, ∀ q, Onward p q → Works q (f a) P) →
    Works p (l.mapM f) (fun bs q => (∀ b ∈ bs, P b q) ∧ bs.length = l.length)
  | [], p, _ => by
    exact pure (by simp)
  | a :: l, p, h => by
    rw [mapM_cons]
    refine (h a (by simp) p (.refl p)).bind fun b q hq hb => ?_
    refine (mapM hP fun c hc r hr => h c (by simp [hc]) r (hq.trans hr)).bind fun bs r hr hbs => pure ⟨fun c hc => ?_, ?_⟩
    · rcases mem_cons.mp hc with rfl | hc
      · exact hP _ _ _ hr hb
      · exact hbs.1 c hc
    · rw [length_cons, length_cons, hbs.2]

lemma mapM_one {P : List β → Program → Prop} (h : Works p (f a) fun b q => P [b] q) : Works p ([a].mapM f) P := by
  rw [mapM_cons]
  exact h.bind fun b q _ hb => pure_bind (a := []) (pure hb)

lemma forM {f : α → WriteM Unit} : ∀ {l : List α} {p : Program}, (∀ a ∈ l, ∀ q, Onward p q → Works q (f a) fun _ _ => True) →
    Works p (l.forM f) (fun _ _ => True)
  | [], p, _ => pure trivial
  | a :: l, p, h => by
    refine (h a (by simp) p (.refl p)).bind fun _ q hq _ => ?_
    exact forM fun c hc r hr => h c (by simp [hc]) r (hq.trans hr)

end Works

lemma works_requireOpen : Works p requireOpen (fun _ q => q = p) := by
  refine Works.ready fun hp => ?_
  refine .get_bind ?_
  rw [hp.isOpen]
  exact .pure rfl

lemma works_opened {m : WriteM α} {Q : α → Program → Prop} (h : Works p m Q) : Works p (requireOpen >>= fun _ => m) Q :=
  works_requireOpen.bind fun _ _ _ hq => hq ▸ h

/-- A statement is added if all it uses can be used, and so can what it introduces then. -/
lemma works_addStatement (hin : ∀ t ∈ s.inputs, p.isAccessible t)
    (hout : ∀ v ∈ s.outputs ++ s.hidden, v < p.vars.size) (hs : s.Writable) :
    Works p (addStatement s) (fun _ q => q = p.withStatement s ∧ ∀ v ∈ s.outputs, q.isAccessible (.var v)) := by
  intro hp
  refine ⟨(), p.withStatement s, ?_, ?_, onward_withStatement s, rfl, fun v hv => ?_⟩
  · rcases addStatement_cases p s with ⟨_, _, t, ht, hnot, -⟩ | ⟨-, hok⟩
    · exact absurd (hin t ht) hnot
    · exact hok
  · have hextend := hp.extend fun v hv => hout v (mem_append_left _ hv)
    exact ⟨hp.isOpen, hextend.legible.push (hp.mentioned hin hout) hs⟩
  · exact isAccessible_of_inReach (inReach_iff.mpr (.inl (Program.mem_extend.mpr (.inr hv))))

lemma works_newVariable (kind : VarKind) (hint : String) :
    Works p (newVariable kind (.text hint)) (fun v q => v = p.vars.size ∧ v < q.vars.size ∧ (q.get v).kind = kind ∧
      (q.get v).hint = .text hint ∧ q.blocks = p.blocks) := by
  refine fun hp => ⟨_, _, rfl, hp.pushVariable rfl, onward_push _, rfl, by simp, ?_, ?_, rfl⟩ <;>
  simp [Program.get_push_size, hintOr]

lemma works_newPlain (hint : String) : Works p (newPlain (.text hint)) (fun v q => v < q.vars.size) :=
  (works_newVariable .plain hint).mono fun _ _ _ h => h.2.1

lemma works_newPlains (hint : String → String) (ts : List String) :
    Works p (newPlains hint ts) (fun vs q => (∀ v ∈ vs, v < q.vars.size) ∧ vs.length = ts.length) :=
  Works.mapM (P := fun v q => v < q.vars.size) (fun _ _ _ hq h => hq.lt h) fun t _ _ _ => works_newPlain (hint t)

lemma works_newData (value : Thing) : Works p (newData value) (fun v q => q.isAccessible (.var v)) := by
  refine (works_newVariable _ _).bind fun v q hq hv => works_opened ?_
  refine fun hp => ⟨v, { q with data := q.data.push v }, rfl, hp.pushData hv.2.1, onward_data v, ?_⟩
  exact isAccessible_of_inReach (inReach_iff.mpr (.inr (by simp)))

/-- A thing that can be a value: it is something, and can be used if it is a variable. -/
structure Usable (p : Program) (t : Thing) : Prop where
  something : t.isNothing = false
  reach : ∀ v, t = .var v → p.isAccessible t

lemma Usable.onward (h : Usable p t) (hq : Onward p q) : Usable q t := ⟨h.something, fun v hv => hq.reach (h.reach v hv)⟩

lemma works_varOrData (ht : Usable p t) : Works p (varOrData t) (fun v q => q.isAccessible (.var v)) := by
  unfold varOrData
  split
  · exact .pure (ht.reach _ rfl)
  · exact works_newData t

lemma works_readEntry {e : Thing × Thing} (he : Usable p e.2) :
    Works p (readEntry e) (fun r q => q.isAccessible (.var r.2)) := by
  refine .lift_bind (a := ()) (by simp [requireThat, he.something]) ?_
  exact (works_varOrData he).bind fun v q _ hv => .pure hv

/-- Entries that can be read: keys are texts, and values can be used. -/
def Readable (p : Program) (es : List (Thing × Thing)) : Prop := ∀ e ∈ es, e.1.text?.isSome ∧ Usable p e.2

lemma Readable.onward (h : Readable p es) (hq : Onward p q) : Readable q es :=
  fun e he => ⟨(h e he).1, (h e he).2.onward hq⟩

lemma works_readProperties (h : Readable p es) :
    Works p (readProperties (.dict es)) (fun r q => (∀ t ∈ r.2, q.isAccessible t) ∧
      ∃ xs, r.1 = .entries xs ∧ xs.map (·.1) = es.map (·.1.text?.getD "")) := by
  have hread : Works p (readEntries es) (fun r q => ∀ t ∈ r.2, q.isAccessible t) := by
    refine .lift_bind (a := ()) ?_ ?_
    · have hall : es.all (·.1.text?.isSome) = true := all_eq_true.mpr fun e he => (h e he).1
      simp [requireThat, hall]
    · refine .bind (Q := fun rs q => ∀ r ∈ rs, q.isAccessible (.var r.2)) ?_ fun rs q _ hrs => .pure fun t ht => ?_
      · refine (Works.mapM (P := fun (r : String × VarId) q => q.isAccessible (.var r.2)) (fun _ _ _ hq h => hq.reach h)
          fun e he q hq => ?_).mono fun _ _ _ h => h.1
        exact works_readEntry ((h e he).2.onward hq)
      · obtain ⟨r, hr, rfl⟩ := mem_map.mp ht
        exact hrs r hr
  refine (Works.and_leads hread (leads_moves (K := Any) (leads_readEntries (t := .dict es) rfl))).mono fun r q _ hr => ⟨hr.1, ?_⟩
  have hfrom := hr.2
  cases hr₁ : r.1 with
  | given v =>
    rw [hr₁] at hfrom
    cases hfrom
  | entries xs =>
    rw [hr₁] at hfrom
    obtain ⟨ys, hys, hall⟩ := hfrom
    cases hys
    refine ⟨xs, rfl, ?_⟩
    clear hread h hr hr₁
    induction hall with
    | nil => rfl
    | cons hx _ ih => simp [hx.1, ih]

/-! ## Merging -/

/-- No key is among other ones. -/
def Apart (es ps : List (Thing × Thing)) : Prop := ∀ e ∈ es, ∀ e' ∈ ps, e.1.text?.getD "" ≠ e'.1.text?.getD ""

lemma disjoint_apart {is xs : List (String × VarId)} {overlap : WriteCause}
    (his : is.map (·.1) = es.map (·.1.text?.getD "")) (hxs : xs.map (·.1) = ps.map (·.1.text?.getD "")) (h : Apart es ps) :
    disjoint (.entries is) (.entries xs) overlap = .ok (is, xs) := by
  have hnone : xs.any (fun x => is.any (·.1 == x.1)) = false := by
    simp only [any_eq_false, any_eq_true, beq_iff_eq, not_exists, not_and]
    intro x hx i hi heq
    obtain ⟨e, he, hek⟩ := mem_map.mp (his ▸ mem_map_of_mem hi)
    obtain ⟨e', he', hek'⟩ := mem_map.mp (hxs ▸ mem_map_of_mem hx)
    exact h e he e' he' (by rw [hek, hek', heq])
  unfold disjoint
  dsimp only
  rw [hnone]
  rfl

lemma outputs_lt {n : Nat} {m : Merge} (hout : m.out < n) (hprop : m.propVar < n) (hcol : m.colliding < n)
    (hval : m.value < n) : ∀ v ∈ m.outputs, v < n := by
  have hall : ∀ v ∈ [m.out, m.propVar, m.value, m.colliding], v < n := by simp [hout, hprop, hcol, hval]
  unfold Merge.outputs
  intro v hv
  refine hall v ?_
  split at hv
  · exact hv
  · exact mem_of_mem_take (i := 2) hv

/-- A relation for a merge: to a node that can be used, with a type and readable properties. -/
structure GivenRelation.Mergeable (p : Program) (g : GivenRelation) : Prop where
  reach : p.isAccessible g.other
  type : g.type.text?.isSome
  ident : ∃ es, g.ident = .dict es ∧ Readable p es
  properties : g.properties = .dict []

lemma GivenRelation.Mergeable.onward (h : g.Mergeable p) (hq : Onward p q) : g.Mergeable q := by
  obtain ⟨es, hes, hread⟩ := h.ident
  exact ⟨hq.reach h.reach, h.type, ⟨es, hes, hread.onward hq⟩, h.properties⟩

/-- That a relation is absent can be part of a merge. -/
def IsAbsence (p : Program) (t : Thing) : Prop :=
  ∃ label type inward es, t = .tuple [label, type, inward, .dict es] ∧ Readable p es

lemma IsAbsence.onward (h : IsAbsence p t) (hq : Onward p q) : IsAbsence q t := by
  obtain ⟨label, type, inward, es, ht, hread⟩ := h
  exact ⟨label, type, inward, es, ht, hread.onward hq⟩

lemma works_readRelation (hg : g.Mergeable p) :
    Works p (readRelation g) (fun x q => (∀ t ∈ x.2.2.1 ++ x.2.2.2, q.isAccessible t) ∧
      ∃ e, disjoint x.1 x.2.1 .relationOverlap = .ok e) := by
  obtain ⟨es, hes, hread⟩ := hg.ident
  unfold readRelation
  rw [hes, hg.properties]
  refine (works_readProperties hread).bind fun (ident, identInputs) q₁ hq₁ ⟨hiin, is, his, hikeys⟩ => ?_
  refine (works_readProperties fun _ he => by cases he).bind
    fun (props, propInputs) q₂ hq₂ ⟨hpin, xs, hxs, hxkeys⟩ => .pure ⟨fun t ht => ?_, (is, xs), ?_⟩
  · rcases mem_append.mp ht with ht | ht
    · exact hq₂.reach (hiin t ht)
    · exact hpin t ht
  · dsimp only at his hxs ⊢
    rw [his, hxs]
    exact disjoint_apart hikeys hxkeys fun _ _ _ he => by cases he

lemma works_readAbsence (ht : IsAbsence p t) : Works p (readAbsence t) (fun x q => ∀ t ∈ x.2, q.isAccessible t) := by
  obtain ⟨label, type, inward, es, rfl, hread⟩ := ht
  exact (works_readProperties hread).bind fun _ _ _ h => .pure h.1

section Merges

variable {rule : Value} {r : Rule} (hrule : Rule.ofValue rule = .ok r)

include hrule

variable {es ps : List (Thing × Thing)}

lemma works_mergeParts {check : Except Fault Unit} (hes : Readable p es) (hps : Readable p ps)
    (hapart : Apart es ps) (hcheck : check = .ok ()) (out : VarId) :
    Works p (mergeParts out (.dict es) (.dict ps) rule check) (fun parts q => (∀ t ∈ parts.inputs, q.isAccessible t) ∧
      parts.merge.out = out ∧ parts.merge.rule = r ∧ parts.merge.propVar < q.vars.size ∧
      parts.merge.colliding < q.vars.size ∧ parts.merge.value < q.vars.size) := by
  refine (works_readProperties hps).bind fun (props, propInputs) q₁ hq₁ ⟨hpin, xs, hxs, hxkeys⟩ => ?_
  refine (works_readProperties (hes.onward hq₁)).bind fun (ident, identInputs) q₂ hq₂ ⟨hiin, is, his, hikeys⟩ => ?_
  subst hxs his
  refine .lift_bind (disjoint_apart hikeys hxkeys hapart) (Works.lift_bind hcheck ?_)
  refine (works_newPlain _).bind fun propVar q₃ hq₃ hprop => (works_newPlain _).bind fun colliding q₄ hq₄ hcol => ?_
  refine (works_newPlain _).bind fun value q₅ hq₅ hval =>
    Works.lift_bind hrule (Works.pure ⟨fun t ht => ?_, rfl, rfl, ?_, ?_, hval⟩)
  · have h₅ := (hq₃.trans hq₄).trans hq₅
    rcases mem_append.mp ht with ht | ht
    · exact (hq₂.trans h₅).reach (hpin t ht)
    · exact h₅.reach (hiin t ht)
  · exact (hq₄.trans hq₅).lt hprop
  · exact hq₅.lt hcol

lemma works_mergeRelation {parent child : Thing} {type : String} (hes : Readable p es)
    (hps : Readable p ps) (hapart : Apart es ps) :
    Works p (mergeRelation parent child (.text type) (.dict es) (.dict ps) rule) (fun _ _ => True) := by
  refine works_opened ?_
  refine (works_newPlain type).bind fun out q₁ hq₁ hout => ?_
  refine (works_mergeParts hrule (hes.onward hq₁) (hps.onward hq₁) hapart rfl out).bind
    fun parts q₂ hq₂ ⟨hin, hsame, _, hprop, hcol, hval⟩ => ?_
  have hout' : parts.merge.out < q₂.vars.size := by
    rw [hsame]
    exact hq₂.lt hout
  refine (works_addStatement hin (fun v hv => ?_) fun _ => ⟨_, rfl⟩).bind fun _ _ _ _ => .pure trivial
  rcases mem_append.mp (append_nil _ ▸ hv) with hv | hv
  · exact outputs_lt hout' hprop hcol hval v hv
  · rw [mem_singleton.mp hv]
    exact hval

lemma works_mergeDependent {labels : Thing} {ls : List String} {relations : List GivenRelation}
    {absent : List Thing} (hlabels : checkLabels labels = .ok ls) (hls : ls ≠ []) (hes : Readable p es) (hps : Readable p ps)
    (hapart : Apart es ps) (hrelations : ∀ g ∈ relations, g.Mergeable p) (hsome : relations ≠ [])
    (habsent : ∀ t ∈ absent, IsAbsence p t) (hr : r ≠ .trackAndFlag) :
    Works p (mergeDependent labels (.dict es) (.dict ps) relations absent rule) (fun v q => q.isAccessible (.var v)) := by
  refine works_opened ?_
  obtain ⟨l, ls, rfl⟩ := exists_cons_of_ne_nil hls
  have hread : Works p (relations.mapM readRelation) (fun gs q => (∀ g ∈ gs, (∀ t ∈ g.2.2.1 ++ g.2.2.2, q.isAccessible t) ∧
      ∃ e, disjoint g.1 g.2.1 .relationOverlap = .ok e) ∧ gs.length = relations.length) :=
    Works.mapM (fun _ _ _ hq h => ⟨fun t ht => hq.reach (h.1 t ht), h.2⟩) fun g hg o ho =>
      works_readRelation ((hrelations g hg).onward ho)
  refine .lift_bind hlabels (hread.bind fun given q₁ hq₁ ⟨hgiven, hgivenLen⟩ => .lift_bind rfl ?_)
  obtain ⟨types, htypes⟩ : ∃ types, relationTypes relations = .ok types := by
    refine ok_mapM_of_forall fun g hg => ?_
    obtain ⟨t, ht⟩ := Option.isSome_iff_exists.mp (hrelations g hg).type
    exact ⟨t, by unfold GivenRelation.typeText; rw [ht]⟩
  refine (works_newPlain l).bind fun out q₂ hq₂ hout => .lift_bind htypes ?_
  refine (works_newPlains _ types).bind fun relVars q₃ hq₃ ⟨hrel, hrelLen⟩ => ?_
  refine (works_newPlains _ types).bind fun dummyVars q₄ hq₄ ⟨hdum, hdumLen⟩ => ?_
  refine (works_newPlain _).bind fun dummy q₅ hq₅ hdummy => ?_
  refine (works_newPlains _ types).bind fun propVars q₆ hq₆ ⟨hprops, hpropsLen⟩ => ?_
  refine (works_newPlains _ types).bind fun colliding q₇ hq₇ ⟨hcolliding, hcollidingLen⟩ => ?_
  have h₇ := (((((hq₁.trans hq₂).trans hq₃).trans hq₄).trans hq₅).trans hq₆).trans hq₇
  have habsences : Works q₇ (absent.mapM readAbsence)
      (fun as q => (∀ a ∈ as, ∀ t ∈ a.2, q.isAccessible t) ∧ as.length = absent.length) :=
    Works.mapM (fun _ _ _ hq h t ht => hq.reach (h t ht)) fun t ht o ho =>
      works_readAbsence ((habsent t ht).onward (h₇.trans ho))
  refine habsences.bind fun absences q₈ hq₈ ⟨habs, _⟩ => ?_
  have h₈ := h₇.trans hq₈
  obtain ⟨entries, hentries⟩ : ∃ es, given.mapM (fun g => disjoint g.1 g.2.1 .relationOverlap) = .ok es :=
    ok_mapM_of_forall fun g hg => (hgiven g hg).2
  rw [hentries]
  refine (works_mergeParts hrule (hes.onward h₈) (hps.onward h₈) hapart rfl out).bind
    fun parts q₉ hq₉ ⟨hin, hsame, hmrule, hprop, hcol, hval⟩ => .lift_bind rfl ?_
  refine (works_newPlain _).bind fun holder r₁ hr₁ hholder => (works_newPlain _).bind fun unnamed r₂ hr₂ hunnamed => ?_
  refine (works_newPlain _).bind fun hash r₃ hr₃ hhash => ?_
  have hlate := (hr₁.trans hr₂).trans hr₃
  refine .bind (works_addStatement ?_ ?_ ?_) fun _ r₄ hr₄ hr => .pure ?_
  · intro t ht
    simp only [mem_append, mem_map, mem_flatMap] at ht
    have h₁ := ((((((hq₂.trans hq₃).trans hq₄).trans hq₅).trans hq₆).trans hq₇).trans hq₈).trans (hq₉.trans hlate)
    rcases ht with (((ht | ⟨g, hg, rfl⟩) | ⟨x, hx, ht⟩) | ⟨x, hx, ht⟩) | ⟨a, ha, ht⟩
    · exact hlate.reach (hin t ht)
    · exact (hq₁.trans h₁).reach (hrelations g hg).reach
    · exact h₁.reach ((hgiven x hx).1 t (mem_append_left _ ht))
    · exact h₁.reach ((hgiven x hx).1 t (mem_append_right _ ht))
    · exact (hq₉.trans hlate).reach (habs a ha t ht)
  · have h₇ := hq₈.trans (hq₉.trans hlate)
    have h₆ := hq₇.trans h₇
    have h₅ := hq₆.trans h₆
    have h₄ := hq₅.trans h₅
    have h₃ := hq₄.trans h₄
    have hout' : parts.merge.out < r₃.vars.size := by
      rw [hsame]
      exact (hq₃.trans h₃).lt hout
    intro v hv
    simp only [mem_append, mem_cons, not_mem_nil, or_false] at hv
    rcases hv with ((((hv | hv) | hv) | hv) | rfl | rfl | rfl) | hv | rfl
    · exact outputs_lt hout' (hlate.lt hprop) (hlate.lt hcol) (hlate.lt hval) v hv
    · exact h₃.lt (hrel v hv)
    · exact h₄.lt (hdum v hv)
    · exact h₆.lt (hprops v hv)
    · exact h₅.lt hdummy
    · exact (hr₂.trans hr₃).lt hholder
    · exact hr₃.lt hunnamed
    · exact h₇.lt (hcolliding v hv)
    · exact hhash
  · refine writable_mergeDependent ?_ (hmrule ▸ hr)
    have htypesLen := (mapM_ok htypes).length_eq
    have hentriesLen := (mapM_ok hentries).length_eq
    have hpos := length_pos_of_ne_nil hsome
    refine ne_nil_of_length_pos ?_
    simp only [length_map, length_zip]
    omega
  · have hmem : out ∈ parts.merge.outputs := by
      rw [← hsame]
      exact mem_append_left _ (.head _)
    exact hr.2 out (by simp [hmem])

end Merges

/-! ## Blocks -/

lemma works_hintOf (h : p.isAccessible (.var v)) : Works p (hintOf (.var v)) (fun x q => q = p ∧ ∃ hint, x = .text hint) :=
  Works.ready fun hp => .get_bind (Works.pure ⟨rfl, hp.legible.hints v (hp.legible.lt_of_isAccessible h)⟩)

lemma works_copy (h : p.isAccessible (.var v)) :
    Works p (copy [.var v]) (fun vs q => ∃ w, vs = [w] ∧ p.vars.size ≤ w ∧ q.isAccessible (.var w) ∧
      q.blocks = (p.extend [w]).blocks) := by
  refine works_opened ?_
  have hnew : Works p (do newPlain (← hintWith (← hintOf (.var v)) "_copy"))
      (fun w r => w = p.vars.size ∧ w < r.vars.size ∧ r.blocks = p.blocks) := by
    refine (works_hintOf h).bind fun x r _ ⟨hr, hint, hx⟩ => ?_
    subst hr hx
    refine .pure_bind (a := Value.text (hint ++ "_copy")) ?_
    exact (works_newVariable .plain _).mono fun w r _ hw => ⟨hw.1, hw.2.1, hw.2.2.2.2⟩
  refine (Works.mapM_one (P := fun vs r => ∃ w, vs = [w] ∧ w = p.vars.size ∧ w < r.vars.size ∧ r.blocks = p.blocks)
    (hnew.mono fun w r _ hw => ⟨w, rfl, hw⟩)).bind ?_
  rintro vs r hr ⟨w, rfl, hw, hlt, hblocks⟩
  refine (works_addStatement ?_ ?_ fun _ => ⟨_, rfl⟩).bind fun _ r' hr' ⟨hstate, hout⟩ => .pure ⟨w, rfl, ?_, ?_, ?_⟩
  · simpa using hr.reach h
  · simpa using hlt
  · exact Nat.le_of_eq hw.symm
  · exact hout w (by simp)
  · subst hstate
    change (r.extend [w]).blocks = (p.extend [w]).blocks
    unfold Program.extend
    rw [hblocks]

lemma works_newMember (h : p.isAccessible (.var v)) :
    Works p (newMember (.var v)) (fun w q => w < q.vars.size ∧ q.blocks = p.blocks) := by
  refine (works_hintOf h).bind fun x r _ ⟨hr, hint, hx⟩ => ?_
  subst hr hx
  exact (works_newVariable .plain _).mono fun w r _ hw => ⟨hw.2.1, hw.2.2.2.2⟩

lemma Program.Ready.nest (hp : p.Ready) : p.nest.Ready :=
  ⟨hp.isOpen, hp.legible.time, hp.legible.hints, hp.legible.data, hp.legible.blocks, hp.legible.mentioned, hp.legible.writable⟩

lemma openBlock_works (hp : p.Ready) (h : p.isAccessible (.var v)) :
    ∃ copied member place q, after (openBlock [.var v] true true) p =
      (.ok { inputs := [.var copied], members := [member, place] }, q) ∧ q.Ready ∧ Kept p q ∧ p.vars.size ≤ copied ∧
      q.blocks = [member, place] :: (p.extend [copied]).blocks := by
  obtain ⟨vs, q₁, hcopy, hq₁, hon₁, w, rfl, hw, hreach, hblocks⟩ := works_copy h hp
  obtain ⟨m, q₂, hmember, hq₂, hon₂, hm, hblocks₂⟩ := works_newMember hreach hq₁
  obtain ⟨i, q₃, hplace, hq₃, hon₃, -, hi, -, -, hblocks₃⟩ := works_newVariable .plain "i" hq₂
  have hnest : Kept q₃ q₃.nest := (Grows.nest q₃).kept
  have hreach' : q₃.nest.isAccessible (.var w) := hnest.reach (fun v hv => hv) ((hon₂.trans hon₃).reach hreach)
  obtain ⟨u, q₄, hadd, hq₄, hon₄, rfl, -⟩ := works_addStatement
    (s := { inputs := [.var w], outputs := [m, i], form := .unwind (some i) true }) (by simpa using hreach')
    (by simp only [append_nil, mem_cons, not_mem_nil, or_false, forall_eq_or_imp, forall_eq]
        exact ⟨hon₃.lt hm, hi⟩) (fun _ => ⟨_, rfl⟩) hq₃.nest
  refine ⟨w, m, i, _, ?_, hq₄, ((hon₁.trans (hon₂.trans hon₃)).kept.trans hnest).trans hon₄.kept, hw, ?_⟩
  · have hinputs : after (blockInputs [.var v] true) p = (.ok [.var w], q₁) := by
      unfold blockInputs
      rw [if_pos rfl, map_eq_pure_bind, after_bind, hcopy]
      rfl
    have hopen : after requireOpen q₁ = (.ok (), q₁) := by
      obtain ⟨_, _, hok, -, -, rfl⟩ := works_requireOpen hq₁
      exact hok
    have hmembers : after ([Thing.var w].mapM newMember) q₁ = (.ok [m], q₂) := by
      rw [mapM_cons, after_bind, hmember]
      rfl
    have hindexer : after (newIf (true || [Thing.var w].length > 1) "i") q₂ = (.ok (some i), q₃) := by
      change after (some <$> newVariable .plain (.text "i")) q₂ = _
      rw [map_eq_pure_bind, after_bind, hplace]
      rfl
    unfold openBlock
    have hmodify : after (modify fun p => { p with blocks := [] :: p.blocks } : WriteM Unit) q₃ = (.ok (), q₃.nest) := rfl
    simp only [after_bind, hinputs, hopen, hmembers, hindexer, hmodify, Option.toList_some, singleton_append, hadd]
    rfl
  · rw [← hblocks, ← hblocks₂, ← hblocks₃]
    rfl

lemma closeBlock_works {b : Block} {copied : VarId} (hp : p.Ready) (hb : b.inputs = [.var copied]) :
    (p.close b).Ready ∧ (p.close b).blocks = (p.blocks.drop 1).map (·.filter (· != copied)) ∧
      ∃ previous, (p.close b).kept = .ok previous := by
  have hblocks : (p.close b).blocks = (p.blocks.drop 1).map (·.filter (· != copied)) := by
    unfold Program.close
    rw [hb]
    refine map_congr_left fun b _ => filter_congr fun v _ => ?_
    change (!([copied].contains v)) = (v != copied)
    rw [contains_cons, contains_nil, Bool.or_false]
    rfl
  have hall : ({ p with blocks := (p.close b).blocks, closed := (p.close b).closed } : Program).Legible := by
    refine ⟨hp.legible.time, hp.legible.hints, hp.legible.data, fun v hv => ?_, hp.legible.mentioned, hp.legible.writable⟩
    obtain ⟨vs, hvs, hv⟩ := mem_flatten.mp hv
    obtain ⟨ws, hws, rfl⟩ := mem_map.mp hvs
    exact hp.legible.blocks v (mem_flatten.mpr ⟨ws, mem_of_mem_drop hws, mem_of_mem_filter hv⟩)
  have hlegible : (p.close b).Legible := hall.push (fun t ht => by cases ht) fun _ => ⟨_, rfl⟩
  refine ⟨⟨hp.isOpen, hlegible⟩, hblocks, ((p.close b).blocks.reverse).flatten, ?_⟩
  unfold Program.kept Program.close
  simp

lemma works_newCollection (hv : v < p.vars.size) :
    Works p (newCollection v) (fun w q => w < q.vars.size ∧ q.blocks = p.blocks ∧ q.statements = p.statements) := by
  refine Works.ready fun hp => .get_bind ?_
  obtain ⟨hint, hhint⟩ := hp.legible.hints v hv
  rw [hhint]
  refine .pure_bind (a := Value.text (hint ++ "s")) ?_
  refine fun hp => ⟨_, _, rfl, hp.pushVariable rfl, onward_push _, by simp, rfl, rfl⟩

lemma works_collect {previous : List VarId} (hkept : p.kept = .ok previous) (hclosed : v ∈ p.closed) (hv : v < p.vars.size) :
    Works p (collect [.var v] true) (fun _ _ => True) := by
  have hall : p.requireAllClosed true [.var v] = .ok () := by
    change (p.requireClosed true (.var v) >>= fun _ => pure ()) = .ok ()
    unfold Program.requireClosed
    simp [hclosed]
  refine works_opened (.get_bind (Works.lift_bind hkept (Works.lift_bind hall ?_)))
  refine (Works.mapM_one (P := fun ws r => ∃ w, ws = [w] ∧ w < r.vars.size ∧ r.blocks = p.blocks ∧ r.statements = p.statements)
    ((works_newCollection hv).mono fun w r _ hw => ⟨w, rfl, hw⟩)).bind ?_
  rintro ws r hr ⟨w, rfl, hw, hblocks, hstatements⟩ hready
  obtain ⟨last, hlast, hform⟩ := Program.kept_ok hkept
  rw [← hstatements] at hlast
  refine ⟨_, r.withLast { inputs := [.var v], outputs := [w], form := .collect previous }, rfl, ?_, ?_, trivial⟩
  · have hextend : (r.extend [w]).Ready := hready.extend (by simpa using hw)
    refine ⟨hready.isOpen, hextend.legible.pop.push (fun t ht => ?_) fun _ => ⟨_, rfl⟩⟩
    rcases mem_cons.mp ht with rfl | ht
    · exact ⟨v, hr.lt hv, rfl⟩
    · obtain rfl := mem_singleton.mp ht
      exact ⟨w, hw, rfl⟩
  · refine ⟨⟨.same rfl rfl, fun t ht hgoes => ?_, rfl, rfl, rfl, rfl⟩, Program.extend_outer [w],
      fun u hu => ?_⟩
    · exact mem_withLast hlast (by simp [Statement.goesOn, hform]) ht hgoes
    · change u ∈ (r.extend [w]).blocks.headD []
      rw [Program.extend_inner]
      exact mem_append_left _ hu

/-! ## Relations -/

section Relations

variable {r : Rule} (hrule : Rule.ofValue p.rule = .ok r) (isParent : Bool) (node : VarId)

include hrule

lemma works_relate {other : Thing} (hother : p.nodesOf other = .ok t) (hes : Readable p es) (hps : Readable p ps)
    (hapart : Apart es ps) : Works p (relate isParent node other (.dict es) (.dict ps)) (fun _ _ => True) := by
  refine .get_bind ?_
  refine .bind (Q := fun _ q => q = p) (Works.get_bind ?_) fun t q _ hq => ?_
  · rw [hother]
    exact .pure rfl
  · subst hq
    cases isParent <;> exact (works_mergeRelation hrule hes hps hapart).bind fun _ _ _ _ => .pure trivial

lemma works_relateAll {properties : Thing → Thing × Thing} (h : p.isAccessible (.var v))
    (hproperties : ∀ place : VarId, ∃ es ps, properties (.var place) = (.dict es, .dict ps) ∧ Apart es ps ∧
      ∀ q : Program, q.isAccessible (.var place) → Readable q es ∧ Readable q ps) :
    Works p (relateAll isParent node (.var v) properties) (fun _ _ => True) := by
  intro hp
  obtain ⟨copied, member, place, q₁, hopen, hready₁, hkept₁, hcopied, hblocks₁⟩ := openBlock_works hp h
  obtain ⟨es, ps, heq, hapart, hread⟩ := hproperties place
  have hplace : q₁.isAccessible (.var place) := isAccessible_of_inReach (inReach_iff.mpr (.inl (by rw [hblocks₁]; simp)))
  obtain ⟨hes, hps⟩ := hread q₁ hplace
  have hnode : q₁.nodesOf (.var member) = .ok (.var member) := rfl
  obtain ⟨_, q₂, hrelate, hready₂, hon₂, -⟩ := works_relate (hkept₁.rule ▸ hrule) isParent node hnode hes hps hapart hready₁
  obtain ⟨hready₃, hblocks₃, previous, hkept₃⟩ := closeBlock_works (b := { inputs := [.var copied], members := [member, place] })
    hready₂ rfl
  have hmember : member ∈ q₂.blocks.headD [] := hon₂.inner member (by rw [hblocks₁]; simp)
  have hlt : member < q₂.vars.size := hready₂.legible.blocks member (mem_blocks.mpr (.inl hmember))
  obtain ⟨cs, q₄, hcollect, hready₄, hon₄, -⟩ := works_collect hkept₃ hmember hlt hready₃
  -- the copy is new, so that closing the block takes nothing away that was there
  have hold (vs : List VarId) (hvs : ∀ u ∈ vs, u < p.vars.size) : vs.filter (· != copied) = vs := by
    refine filter_eq_self.mpr fun u hu => ?_
    simpa using Nat.ne_of_lt ((hvs u hu).trans_le hcopied)
  have hblocks : q₂.blocks.drop 1 = (p.extend [copied]).blocks := by rw [hon₂.outer, hblocks₁]; rfl
  rw [hblocks] at hblocks₃
  refine ⟨(), q₄, ?_, hready₄, ⟨?_, ?_, fun u hu => hon₄.inner u ?_⟩, trivial⟩
  · unfold relateAll
    rw [after_bind, hopen]
    dsimp only
    rw [heq]
    rw [after_bind, hrelate]
    change after (collect [.var member] true >>= fun _ => pure ()) (q₂.close _) = _
    rw [after_bind, hcollect]
    rfl
  · exact ((hkept₁.trans hon₂.kept).trans (Grows.close q₂ _).kept).trans hon₄.kept
  · rw [hon₄.outer, hblocks₃, ← map_drop, Program.extend_outer]
    refine (map_congr_left fun vs hvs => hold vs fun u hu => ?_).trans (map_id _)
    exact hp.legible.blocks u (mem_flatten.mpr ⟨vs, mem_of_mem_drop hvs, hu⟩)
  · have hne := Nat.ne_of_lt ((hp.legible.blocks u (mem_blocks.mpr (.inl hu))).trans_le hcopied)
    rw [hblocks₃]
    unfold Program.extend
    cases hb : p.blocks with
    | nil =>
      rw [hb] at hu
      cases hu
    | cons b bs =>
      rw [hb] at hu
      exact mem_filter.mpr ⟨mem_append_left _ hu, by simpa using hne⟩

end Relations

/-! ## Checks that are made when the program runs -/

lemma works_validateNumber {min max central joined : Thing} (h : p.isAccessible t) :
    Works p (validateNumber t min max central joined) (fun _ _ => True) := by
  refine works_opened ?_
  refine (works_newPlain _).bind fun check q₁ hq₁ hcheck => ?_
  refine (works_addStatement ?_ ?_ fun _ => ⟨_, rfl⟩).mono fun _ _ _ _ => trivial
  · simpa using hq₁.reach h
  · simpa using hcheck

lemma works_validateType {label : Thing} (h : p.isAccessible t) : Works p (validateType t label) (fun _ _ => True) := by
  refine works_opened ?_
  refine (works_newPlain _).bind fun check q₁ hq₁ hcheck => .get_bind ?_
  have hnew : Works q₁ (newIf (q₁.isCollection t) "i") (fun i q => ∀ v ∈ i.toList, v < q.vars.size) := by
    unfold newIf
    split
    · rw [map_eq_pure_bind]
      exact (works_newPlain _).bind fun i q _ hi => .pure (by simpa using hi)
    · exact .pure (by simp)
  refine hnew.bind fun member q₂ hq₂ hmember => ?_
  refine (works_addStatement ?_ ?_ fun _ => ?_).mono fun _ _ _ _ => trivial
  · simpa using (hq₁.trans hq₂).reach h
  · simpa using ⟨hq₂.lt hcheck, fun v hv => hmember v (by simp [hv])⟩
  · cases member <;> exact ⟨_, rfl⟩

end SurveyGraph.Write
