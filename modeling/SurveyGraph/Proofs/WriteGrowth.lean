import Mathlib.Order.Nat
import Mathlib.Data.List.Perm.Subperm
import SurveyGraph.Proofs.After
import SurveyGraph.Proofs.Outcome
import SurveyGraph.Write.Block
import SurveyGraph.Write.Merge
/-!
# How programs grow

Whatever a method adds to a program, and also where it fails, it names variables and sends data along (`Quiet`), and then may
add a statement that uses what is in reach and introduces the variables named for it (`Moves`). `Adds` is the same without
the order: what statements introduce has come since there were `n` variables.
-/
open Relation List

namespace SurveyGraph.Write

variable {α β : Type} {n : Nat} {o p q : Program} {u v w : VarId} {K : VarKind → Prop} {optional useCopy : Bool}
  {parent : Thing} (x : Variable)

/-! ## Variables of their own -/

lemma Program.get_of_le (h : p.vars.size ≤ v) : p.get v = default := by
  rw [Program.get, Array.getD_eq_getD_getElem?, Array.getElem?_eq_none h, Option.getD_none]

lemma Program.lt_of_hint {hint : String} (h : (p.get v).hint = .text hint) : v < p.vars.size := by
  refine Nat.lt_of_not_le fun hle => ?_
  rw [Program.get_of_le hle] at h
  cases h

lemma Program.lt_of_parent (h : (p.get v).kind.parent? = some w) : v < p.vars.size := by
  refine Nat.lt_of_not_le fun hle => ?_
  rw [Program.get_of_le hle] at h
  cases h

variable {k : VarKind} {s : Statement} {t : Thing} {r : Program → Program → Prop} {hint : Value} {key : Thing}
  {ts : List Thing} {labels properties child ident : Thing} {rule : Value} {relations : List GivenRelation}
  {absent : List Thing} {skipNothing : Bool}

lemma VarKind.eq_derived (h : k.parent? = some w) : ∃ f, k = .derived f w := by
  cases k <;> simp [VarKind.parent?] at h
  exact ⟨_, by rw [h]⟩

/-- Whether statements introduce variables of this kind: no data and no formula. -/
def VarKind.isOwn : VarKind → Bool
  | .data _ | .derived .. => false
  | _ => true

lemma VarKind.parent?_of_isOwn (h : k.isOwn) : k.parent? = none := by
  cases k <;> first | rfl | cases h

lemma VarKind.isData_of_isOwn (h : k.isOwn) : k.isData = false := by
  cases k <;> first | rfl | cases h

/-- A variable that came after the first `n` and that a statement can introduce. -/
structure Fresh (n : Nat) (p : Program) (v : VarId) : Prop where
  le : n ≤ v
  lt : v < p.vars.size
  own : (p.get v).kind.isOwn

/-- Variables are only added, and they stay what they are. -/
structure Extends (p q : Program) : Prop where
  size : p.vars.size ≤ q.vars.size
  get : ∀ v < p.vars.size, q.get v = p.get v
  data : ∀ v ∈ p.data, v ∈ q.data

lemma Extends.same (hvars : q.vars = p.vars) (hdata : q.data = p.data) : Extends p q :=
  ⟨hvars ▸ le_rfl, fun v _ => by rw [Program.get, Program.get, hvars], fun _ => hdata ▸ id⟩

lemma Extends.refl (p : Program) : Extends p p := .same rfl rfl

lemma Extends.trans (h : Extends p q) (h' : Extends q o) : Extends p o where
  size := h.size.trans h'.size
  get v hv := (h'.get v (hv.trans_le h.size)).trans (h.get v hv)
  data v hv := h'.data v (h.data v hv)

lemma Fresh.extends (h : Fresh n p v) (hq : Extends p q) : Fresh n q v :=
  ⟨h.le, h.lt.trans_le hq.size, by rw [hq.get v h.lt]; exact h.own⟩

lemma Fresh.of_le {m : Nat} (h : Fresh n p v) (hm : m ≤ n) : Fresh m p v := ⟨hm.trans h.le, h.lt, h.own⟩

/-- Different variables that have come between two programs. -/
structure News (p q : Program) (vs : List VarId) : Prop where
  old : Extends p q
  nodup : vs.Nodup
  fresh : ∀ v ∈ vs, Fresh p.vars.size q v

variable {vs ws : List VarId}

lemma News.nil (h : Extends p q) : News p q [] := ⟨h, .nil, by simp⟩

lemma News.extends (h : News p o vs) (hq : Extends o q) : News p q vs :=
  ⟨h.old.trans hq, h.nodup, fun v hv => (h.fresh v hv).extends hq⟩

lemma News.since (h : News o q vs) (ho : Extends p o) : News p q vs :=
  ⟨ho.trans h.old, h.nodup, fun v hv => (h.fresh v hv).of_le ho.size⟩

lemma News.append (h : News p o vs) (h' : News o q ws) : News p q (vs ++ ws) where
  old := h.old.trans h'.old
  nodup := by
    refine nodup_append.mpr ⟨h.nodup, h'.nodup, fun v hv w hw => ?_⟩
    exact Nat.ne_of_lt (Nat.lt_of_lt_of_le (h.fresh v hv).lt (h'.fresh w hw).le)
  fresh v hv := by
    rcases mem_append.mp hv with hv | hv
    · exact (h.extends h'.old).fresh v hv
    · exact (h'.since h.old).fresh v hv

lemma nodup_of_subperm (h : vs.Nodup) (hs : ws.Subperm vs) : ws.Nodup := by
  obtain ⟨us, hperm, hsub⟩ := hs
  exact hperm.nodup_iff.mp (h.sublist hsub)

lemma News.subperm (h : News p q vs) (hs : ws.Subperm vs) : News p q ws where
  old := h.old
  nodup := nodup_of_subperm h.nodup hs
  fresh v hv := h.fresh v (hs.subset hv)

lemma Program.get_push (hv : v < p.vars.size) : ({ p with vars := p.vars.push x } : Program).get v = p.get v := by
  simp [Program.get, Array.getD_eq_getD_getElem?, Array.getElem?_push_lt hv, hv]

lemma Program.get_push_size : ({ p with vars := p.vars.push x } : Program).get p.vars.size = x := by
  simp [Program.get, Array.getD_eq_getD_getElem?]

lemma Program.mem_extend : v ∈ (p.extend vs).blocks.flatten ↔ v ∈ p.blocks.flatten ∨ v ∈ vs := by
  cases h : p.blocks with
  | nil => simp [Program.extend, h]
  | cons b bs =>
    simp only [Program.extend, h, flatten_cons, mem_append, or_right_comm]

lemma extends_withStatement (s : Statement) : Extends p (p.withStatement s) := .same rfl rfl

/-! ## Names and data -/

/-- Before a statement is added, a variable is named or data is sent along. Formulas among the variables are
of a kind. -/
inductive Quiet (K : VarKind → Prop) : Program → Program → Prop
  | name {p : Program} (x : Variable) (hx : x.kind.parent?.isSome → K x.kind) : Quiet K p { p with vars := p.vars.push x }
  | data {p : Program} {v : VarId} (hv : v < p.vars.size) (hk : (p.get v).kind.isData) :
    Quiet K p { p with data := p.data.push v }

lemma Quiet.extends (h : Quiet K p q) : Extends p q := by
  cases h with
  | name x => exact ⟨by simp, fun v hv => Program.get_push x hv, fun _ h => h⟩
  | data => exact ⟨le_rfl, fun _ _ => rfl, fun _ h => by simp [h]⟩

section Quiet

variable (h : ReflTransGen (Quiet K) p q)

include h

lemma extends_of_quiet : Extends p q := by
  induction h with
  | refl => exact .refl _
  | tail _ h ih => exact ih.trans h.extends

lemma quiet_eq : q = { p with vars := q.vars, data := q.data } := by
  induction h with
  | refl => rfl
  | tail _ h ih =>
    cases h <;>
    · rw [ih]

lemma quiet_blocks : q.blocks = p.blocks := (congrArg (·.blocks) (quiet_eq h) :)

lemma quiet_statements : q.statements = p.statements :=
  (congrArg (·.statements) (quiet_eq h) :)

lemma quiet_closed : q.closed = p.closed := (congrArg (·.closed) (quiet_eq h) :)

end Quiet

/-! ## Statements -/

/-- Whether a statement may introduce what is in reach already, or a variable twice: it follows a path, is in
words of its own, or records collisions with a relation. -/
def Statement.repeats (s : Statement) : Bool :=
  match s.form with
  | .matchBranch _ | .custom _ => true
  | .mergeRelation _ _ _ m => m.rule == .trackAndFlag
  | _ => false

/-- Whether a statement neither closes a block nor ends the program. -/
def Statement.goesOn (s : Statement) : Bool :=
  match s.form with
  | .collect _ | .returns .. => false
  | _ => true

lemma Statement.ne_collect (h : s.goesOn) (previous : List VarId) : s.form ≠ .collect previous := by
  intro hform
  simp [Statement.goesOn, hform] at h

/-- A method names variables and sends data along, and may add a statement that uses what is in reach. -/
inductive Moves (K : VarKind → Prop) : Program → Program → Prop
  | quiet {p q : Program} (h : Quiet K p q) : Moves K p q
  | statement {p o : Program} (s : Statement) (h : ReflTransGen (Quiet K) p o) (hin : ∀ t ∈ s.inputs, o.isAccessible t)
    (hout : News p o s.outputs ∨ s.repeats ∧ ∀ v ∈ s.outputs, Fresh p.vars.size o v ∨ o.isAccessible (.var v))
    (hform : s.goesOn) : Moves K p (o.withStatement s)

lemma Moves.extends (h : Moves K p q) : Extends p q := by
  cases h with
  | quiet h => exact h.extends
  | statement s h => exact (extends_of_quiet h).trans (extends_withStatement s)

lemma extends_of_moves (h : ReflTransGen (Moves K) p q) : Extends p q := by
  induction h with
  | refl => exact .refl _
  | tail _ h ih => exact ih.trans h.extends

lemma moves_of_quiet (h : ReflTransGen (Quiet K) p q) : ReflTransGen (Moves K) p q :=
  ReflTransGen.mono (fun _ _ => .quiet) _ _ h

lemma leads_moves {m : WriteM α} {Q : α → Program → Prop} (h : Leads (Quiet K) p m Q) : Leads (Moves K) p m Q :=
  ⟨moves_of_quiet h.1, h.2⟩

/-- What is proved of the rest of a method that began with `p` and has only named variables and sent data
along since. -/
def Ends (K : VarKind → Prop) (p o : Program) (m : WriteM α) (Q : α → Program → Prop) : Prop :=
  ReflTransGen (Quiet K) p o → ReflTransGen (Moves K) p (after m o).2 ∧ ∀ a, (after m o).1 = .ok a → Q a (after m o).2

namespace Ends

variable {m : WriteM α} {f : α → WriteM β} {Q : α → Program → Prop} {R : β → Program → Prop}

lemma leads (h : Ends K p p m Q) : Leads (Moves K) p m Q := h .refl

lemma since (h : ReflTransGen (Quiet K) p o → Ends K p o m Q) : Ends K p o m Q := fun hpo => h hpo hpo

lemma of_leads (h : Leads (Moves K) o m Q) : Ends K p o m Q := fun hpo => ⟨(moves_of_quiet hpo).trans h.1, h.2⟩

lemma bind (hm : Leads (Quiet K) o m Q) (hf : ∀ a q, ReflTransGen (Quiet K) o q → Q a q → Ends K p q (f a) R) :
    Ends K p o (m >>= f) R := by
  intro hpo
  obtain ⟨hr, hQ⟩ := hm
  rw [after_bind]
  cases hx : after m o with
  | mk x q =>
    rw [hx] at hr hQ
    cases x with
    | ok a => exact hf a q hr (hQ a rfl) (hpo.trans hr)
    | error e => exact ⟨moves_of_quiet (hpo.trans hr), nofun⟩

lemma lift_bind {x : Except Fault α} (h : ∀ a, x = .ok a → Ends K p o (f a) R) : Ends K p o (liftM x >>= f) R := by
  cases x with
  | ok a => exact h a rfl
  | error e => exact of_leads ⟨.refl, nofun⟩

lemma get_bind {f : Program → WriteM α} (h : Ends K p o (f o) Q) : Ends K p o (get >>= f) Q := h

lemma refuse {ε : Type} [Cause ε] (e : ε) : Ends K p o (SurveyGraph.refuse e) Q := of_leads (Leads.refuse e)

lemma mono (hm : Ends K p o m Q) {P : α → Program → Prop} (h : ∀ a q, Q a q → P a q) : Ends K p o m P :=
  fun hpo => ⟨(hm hpo).1, fun a ha => h a _ ((hm hpo).2 a ha)⟩

end Ends

/-- All of some things can be used, or the first that cannot is refused. -/
lemma Program.requireAll_cases (p : Program) (ts : List Thing) :
    (∃ e, p.requireAll ts = .error e ∧ ∃ t ∈ ts, ¬ p.isAccessible t ∧ p.require t = .error e) ∨
    (∀ t ∈ ts, p.isAccessible t) ∧ p.requireAll ts = .ok () := by
  induction ts with
  | nil => exact .inr ⟨by simp, rfl⟩
  | cons t ts ih =>
    have hstep : p.requireAll (t :: ts) = p.require t >>= fun _ => p.requireAll ts := rfl
    by_cases ht : p.isAccessible t
    · have hok : p.require t = .ok () := if_pos ht
      rw [hstep, hok]
      rcases ih with ⟨e, he, u, hu, hnot⟩ | ⟨hall, hok⟩
      · exact .inl ⟨e, he, u, mem_cons_of_mem t hu, hnot⟩
      · exact .inr ⟨forall_mem_cons.mpr ⟨ht, hall⟩, hok⟩
    · obtain ⟨e, he⟩ : ∃ e, p.require t = .error e := by
        unfold Program.require
        rw [if_neg ht]
        split <;> exact ⟨_, rfl⟩
      exact .inl ⟨e, by rw [hstep, he]; rfl, t, .head _, ht, he⟩

lemma var_of_isAccessible (h : p.isAccessible t) : ∃ v, t = .var v := by
  cases t with
  | var v => exact ⟨v, rfl⟩
  | _ => cases h

/-- What holds of all in reach, and of a formula if of the variable by which it is reached, holds of all that
can be used. -/
lemma Program.isAccessible_induction {P : VarId → Prop} (hreach : ∀ v, p.inReach v → P v)
    (hparent : ∀ v w, (p.get v).kind.parent? = some w → P w → P v) (h : p.isAccessible (.var v)) : P v := by
  have hgen : ∀ fuel v, p.isAccessibleWithin fuel v → P v := by
    intro fuel
    induction fuel with
    | zero => intro v h; cases h
    | succ fuel ih =>
      intro v h
      rcases Bool.or_eq_true_iff.mp h with h | h
      · exact hreach v h
      · split at h
        · rename_i w hw
          exact hparent v w hw (ih w h)
        · cases h
  exact hgen p.depth v h

lemma Program.mem_of_inReach (h : p.inReach v) : v ∈ p.blocks.flatten ∨ v ∈ p.data := by
  simpa [Program.inReach, mem_flatten] using h

lemma isAccessible_of_inReach (h : p.inReach v) : p.isAccessible (.var v) := by
  change p.isAccessibleWithin (p.vars.size + p.instances.size + 1) v = true
  unfold Program.isAccessibleWithin
  rw [h, Bool.true_or]

/-- A statement is added if all that it uses is in reach, and else nothing changes. -/
lemma addStatement_cases (p : Program) (s : Statement) :
    (∃ e, after (addStatement s) p = (.error e, p) ∧ ∃ t ∈ s.inputs, ¬ p.isAccessible t ∧ p.require t = .error e) ∨
    (∀ t ∈ s.inputs, p.isAccessible t) ∧ after (addStatement s) p = (.ok (), p.withStatement s) := by
  have hrun : after (addStatement s) p = after (liftM (p.requireAll s.inputs) >>= fun _ => set (p.withStatement s)) p := rfl
  rcases p.requireAll_cases s.inputs with ⟨e, he, hnot⟩ | ⟨hall, hok⟩
  · exact .inl ⟨e, by rw [hrun, he]; rfl, hnot⟩
  · exact .inr ⟨hall, by rw [hrun, hok]; rfl⟩

lemma addStatement_ok {x : Unit} (h : after (addStatement s) p = (.ok x, q)) :
    (∀ t ∈ s.inputs, p.isAccessible t) ∧ q = p.withStatement s := by
  rcases addStatement_cases p s with ⟨e, he, -⟩ | ⟨hin, hok⟩
  · rw [h] at he
    cases he
  · rw [h] at hok
    cases hok
    exact ⟨hin, rfl⟩

lemma ends_addStatement (hform : s.goesOn)
    (hout : (∀ t ∈ s.inputs, o.isAccessible t) → News p o s.outputs ∨
      s.repeats ∧ ∀ v ∈ s.outputs, Fresh p.vars.size o v ∨ o.isAccessible (.var v)) :
    Ends K p o (addStatement s) (fun _ q => q = o.withStatement s ∧ ∀ t ∈ s.inputs, o.isAccessible t) := by
  intro hpo
  rcases addStatement_cases o s with ⟨e, he, -⟩ | ⟨hin, hok⟩
  · rw [he]
    exact ⟨moves_of_quiet hpo, nofun⟩
  · rw [hok]
    exact ⟨.single (.statement s hpo hin (hout hin) hform), fun _ _ => ⟨rfl, hin⟩⟩

lemma ends_state {a : α} (hform : s.goesOn)
    (hout : (∀ t ∈ s.inputs, o.isAccessible t) → News p o s.outputs ∨
      s.repeats ∧ ∀ v ∈ s.outputs, Fresh p.vars.size o v ∨ o.isAccessible (.var v)) :
    Ends K p o (addStatement s >>= fun _ => pure a) (fun b q => b = a ∧ q = o.withStatement s ∧ ∀ t ∈ s.inputs, o.isAccessible t) := by
  intro hpo
  obtain ⟨hr, hQ⟩ := ends_addStatement hform hout hpo
  rw [after_bind]
  cases hx : after (addStatement s) o with
  | mk x q =>
    rw [hx] at hr hQ
    cases x with
    | ok b =>
      refine ⟨hr, fun c hc => ?_⟩
      cases hc
      exact ⟨rfl, hQ b rfl⟩
    | error e => exact ⟨hr, nofun⟩

lemma ends_introduce {a : α} (hform : s.goesOn) (hout : News p o s.outputs) :
    Ends K p o (addStatement s >>= fun _ => pure a) (fun b q => b = a ∧ q = o.withStatement s ∧ ∀ t ∈ s.inputs, o.isAccessible t) :=
  ends_state hform fun _ => .inl hout

/-! ## New variables -/

lemma leads_newKind {kind : VarKind} (hk : kind.parent?.isSome → K kind) (hint : Value) :
    Leads (Quiet K) p (newVariable kind hint) (fun v q => p.vars.size ≤ v ∧ v < q.vars.size ∧ (q.get v).kind = kind) := by
  refine ⟨.single (.name { kind, hint := hintOr hint } hk), fun v hv => ?_⟩
  cases hv
  refine ⟨le_rfl, ?_, congrArg (·.kind) (Program.get_push_size { kind, hint := hintOr hint })⟩
  change p.vars.size < (p.vars.push _).size
  simp

lemma leads_newVariable {kind : VarKind} (hk : kind.isOwn) (hint : Value) :
    Leads (Quiet K) p (newVariable kind hint) (fun v q => News p q [v]) := by
  refine (leads_newKind (fun h => ?_) hint).mono fun v q hq hv => ⟨extends_of_quiet hq, by simp, ?_⟩
  · rw [VarKind.parent?_of_isOwn hk] at h
    cases h
  · rintro w hw
    obtain rfl := mem_singleton.mp hw
    exact ⟨hv.1, hv.2.1, by rw [hv.2.2]; exact hk⟩

lemma leads_newPlain (hint : Value) : Leads (Quiet K) p (newPlain hint) (fun v q => News p q [v]) :=
  leads_newVariable rfl hint

lemma leads_requireOpen : Leads r p requireOpen (fun _ q => q = p ∧ p.isOpen) := by
  refine .get_bind ?_
  split
  · exact .refuse _
  · rename_i h
    exact .pure ⟨rfl, by simpa using h⟩

lemma leads_opened {f : Unit → WriteM α} {Q : α → Program → Prop} (h : Ends K p p (f ()) Q) :
    Leads (Moves K) p (requireOpen >>= f) Q := by
  refine Ends.leads <| .bind leads_requireOpen fun _ q _ hq => ?_
  obtain ⟨rfl, -⟩ := hq
  exact h

lemma leads_mapM_news {f : α → WriteM VarId} : ∀ {l : List α} {p : Program},
    (∀ a ∈ l, ∀ q, Leads (Quiet K) q (f a) (fun v q' => News q q' [v])) →
    Leads (Quiet K) p (l.mapM f) (fun vs q => News p q vs ∧ vs.length = l.length)
  | [], p, _ => by
    exact .pure ⟨.nil (.refl p), rfl⟩
  | a :: l, p, h => by
    rw [mapM_cons]
    refine (h a (by simp) p).bind fun v q hq hv => ?_
    refine (leads_mapM_news fun b hb => h b (by simp [hb])).bind fun vs q' hq' hvs => .pure ?_
    exact ⟨hv.append hvs.1, congrArg (· + 1) hvs.2⟩

lemma leads_newIf (needed : Bool) (hint : String) : Leads (Quiet K) p (newIf needed hint) (fun o q => News p q o.toList) := by
  unfold newIf
  split
  · exact (leads_newPlain _).map fun v q hv => hv
  · exact .pure (.nil (.refl p))

lemma leads_newPlains {hint : String → String} {ts : List String} :
    Leads (Quiet K) p (newPlains hint ts) (fun vs q => News p q vs ∧ vs.length = ts.length) :=
  leads_mapM_news fun _ _ _ => leads_newPlain _

/-- A variable holds a thing: it is the thing, or data sent for it. -/
def Program.Holds (p : Program) (t : Thing) (v : VarId) : Prop := t = .var v ∨ v < p.vars.size ∧ (p.get v).kind = .data t

lemma Program.Holds.extends (h : p.Holds t v) (hq : Extends p q) : q.Holds t v := by
  rcases h with h | ⟨hlt, h⟩
  · exact .inl h
  · exact .inr ⟨hlt.trans_le hq.size, by rw [hq.get v hlt]; exact h⟩

lemma leads_newData {value : Thing} : Leads (Quiet K) p (newData value hint) (fun v q => q.Holds value v) := by
  refine (leads_newKind (nofun) hint).bind fun v q _ hv => ?_
  refine leads_requireOpen.bind fun _ q' _ hq' => ?_
  rw [hq'.1]
  refine ⟨.single (.data hv.2.1 (by rw [hv.2.2]; rfl)), fun w hw => ?_⟩
  cases hw
  exact .inr hv.2

/-! ## Members and copies -/

lemma leads_newDerived {f : Formula} (hK : ∀ w, f.parent? = some w → K (.derived f w)) :
    Leads (Quiet K) p (newDerived f) (fun v q => p.vars.size ≤ v ∧ v < q.vars.size) := by
  unfold newDerived
  split
  · rename_i w hw
    exact (leads_newKind (fun _ => hK w hw) _).mono fun v q _ hv => ⟨hv.1, hv.2.1⟩
  · exact .refuse _

/-- Whether the formulas of members under a key are of the kind, also with the keys in them if the key is no
variable. -/
def Keyed (K : VarKind → Prop) (key : Thing) : Prop :=
  ∀ w t, (t.var?.isSome → key.var?.isSome) → K (.derived (.item (.var w) t) w) ∧ ∀ u, key = .var u → K (.derived (.asText (.var u)) u)

lemma leads_itemKey {isMapping : Bool} (hK : Keyed K key) :
    Leads (Quiet K) p (itemKey isMapping key) (fun t _ => t.var?.isSome → key.var?.isSome) := by
  unfold itemKey
  split
  · rename_i k
    split
    · refine (leads_newDerived fun w hw => ?_).bind fun v q _ _ => .pure fun _ => rfl
      obtain rfl : k = w := Option.some.inj hw
      exact (hK k (.var k) fun h => h).2 k rfl
    · exact .pure id
  · split
    · exact .pure id
    · split
      · refine .pure fun h => ?_
        split at h
        · cases h
        · exact h
      · exact .refuse _

lemma leads_itemOf (hK : Keyed K key) : Leads (Quiet K) p (itemOf v key) (fun _ _ => True) := by
  refine .get_bind ((leads_itemKey hK).bind fun t q _ ht => ?_)
  refine (leads_newDerived fun w hw => ?_).bind fun _ _ _ _ => .pure trivial
  obtain rfl : v = w := Option.some.inj hw
  exact (hK v t ht).1

lemma ends_new {s : VarId → Statement} (hform : ∀ v, (s v).goesOn) (hs : ∀ v, (s v).outputs = [v]) :
    Ends K p o (newPlain hint >>= fun v => addStatement (s v) >>= fun _ => pure v) (fun _ _ => True) := by
  refine Ends.since fun hpo => .bind (leads_newPlain hint) fun out q hq hout => ?_
  refine (ends_introduce (hform out) ?_).mono fun _ _ _ => trivial
  rw [hs out]
  exact hout.since (extends_of_quiet hpo)

lemma ends_nameAs : Ends K p o (nameAs v hint) (fun _ _ => True) := ends_new (fun _ => rfl) fun _ => rfl

lemma leads_namedItem (hK : Keyed K key) : Leads (Moves K) p (namedItem v key) (fun _ _ => True) :=
  Ends.leads <| .bind (leads_itemOf hK) fun _ _ _ _ => .bind leads_requireOpen fun _ _ _ _ => .get_bind ends_nameAs

lemma leads_lookUp : Leads (Moves K) p (lookUp v key) (fun _ _ => True) := by
  refine leads_opened <| .get_bind <| .lift_bind fun hint _ => .bind (leads_newPlain hint) fun out q₁ hq₁ hout => ?_
  refine .bind (leads_newPlain _) fun temp q₂ hq₂ _ => ?_
  exact (ends_introduce (by rfl) (hout.extends (extends_of_quiet hq₂))).mono fun _ _ _ => trivial

lemma leads_member (hK : Keyed K key) : Leads (Moves K) p (member t key) (fun _ _ => True) := by
  refine .get_bind ?_
  split
  · split
    · exact leads_lookUp
    · exact leads_namedItem hK
  · split
    · exact .refuse _
    · split
      · exact .refuse _
      · rename_i node _
        refine Ends.leads <| .bind (leads_newDerived fun w hw => ?_) fun v q hq _ =>
          Ends.bind leads_requireOpen fun _ q' hq' _ => ends_nameAs
        obtain rfl : node = w := Option.some.inj hw
        exact (hK node key id).1
  · exact .refuse _

lemma leads_hintOf : Leads r p (hintOf t) (fun _ q => q = p) := by
  refine .get_bind ?_
  split
  · exact .pure rfl
  · exact .refuse _
  · exact .refuse _

lemma leads_hintWith {ending : String} : Leads r p (hintWith hint ending) (fun _ q => q = p) := by
  unfold hintWith
  split
  · exact .pure rfl
  · exact .refuse _

lemma leads_copy : Leads (Moves K) p (copy ts) (fun vs q =>
    ∀ v ∈ q.blocks.flatten, v ∈ p.blocks.flatten ∨ v ∈ vs) := by
  have hvars : Leads (Quiet K) p (ts.mapM fun t => do newPlain (← hintWith (← hintOf t) "_copy"))
      (fun vs q => News p q vs ∧ vs.length = ts.length) := by
    refine leads_mapM_news fun t _ q => leads_hintOf.bind fun hint q₁ _ h₁ => leads_hintWith.bind fun hint' q₂ _ h₂ => ?_
    rw [h₂, h₁]
    exact leads_newPlain hint'
  refine leads_opened <| .bind hvars fun vs q hq hvs => (ends_introduce (by rfl) hvs.1).mono fun us r hr => ?_
  rw [hr.1, hr.2.1, ← quiet_blocks hq]
  exact fun v hv => Program.mem_extend.mp hv

lemma keeps_groupBy {property : Thing} : Keeps (Moves K) (groupBy t property) := by
  refine fun p => .get_bind <| .lift_bind fun _ _ => leads_opened ?_
  split
  · exact .refuse _
  · refine .bind (leads_newVariable rfl _) fun out q _ hout => ?_
    exact (ends_introduce (by rfl) hout).mono fun _ _ _ => trivial

/-! ## Finding -/

lemma leads_varOrData : Leads (Quiet K) p (varOrData t) (fun v q => q.Holds t v) := by
  unfold varOrData
  split
  · exact .pure (.inl rfl)
  · exact leads_newData

/-- Properties read from a thing: it is the variable that holds them, or its entries are held one by one. -/
def Properties.ReadFrom (p : Program) (t : Thing) : Properties → Prop
  | .given v => t = .var v
  | .entries es => ∃ xs, t.entries? = some xs ∧ Forall₂ (fun x e => x.1.text? = some e.1 ∧ p.Holds x.2 e.2) xs es

lemma Properties.ReadFrom.extends {ps : Properties} (h : ps.ReadFrom p t) (hq : Extends p q) : ps.ReadFrom q t := by
  cases ps with
  | given v => exact h
  | entries es =>
    obtain ⟨xs, hxs, h⟩ := h
    exact ⟨xs, hxs, h.imp fun _ _ hx => ⟨hx.1, hx.2.extends hq⟩⟩

lemma leads_readEntry {e : Thing × Thing} :
    Leads (Quiet K) p (readEntry e) (fun r q => r.1 = e.1.text?.getD "" ∧ q.Holds e.2 r.2) := by
  refine .lift_bind fun _ _ => leads_varOrData.bind fun v q _ hv => .pure ⟨rfl, hv⟩

lemma leads_mapM_forall₂ {f : α → WriteM β} {P : α → β → Program → Prop}
    (hP : ∀ a b p q, Extends p q → P a b p → P a b q) : ∀ {l : List α} {p : Program},
    (∀ a ∈ l, ∀ q, Leads (Quiet K) q (f a) (P a)) →
    Leads (Quiet K) p (l.mapM f) (fun bs q => Forall₂ (fun a b => P a b q) l bs)
  | [], p, _ => by
    exact .pure .nil
  | a :: l, p, h => by
    rw [mapM_cons]
    refine (h a (by simp) p).bind fun b q hq hb => ?_
    refine (leads_mapM_forall₂ hP fun c hc => h c (by simp [hc])).bind fun bs q' hq' hbs => .pure ?_
    exact .cons (hP a b q q' (extends_of_quiet hq') hb) hbs

lemma leads_readEntries {es : List (Thing × Thing)} (ht : t.entries? = some es) :
    Leads (Quiet K) p (readEntries es) (fun r q => r.1.ReadFrom q t) := by
  refine .lift_bind fun _ hall => ?_
  have hentries : Leads (Quiet K) p (es.mapM readEntry) (fun rs q =>
      Forall₂ (fun e r => r.1 = e.1.text?.getD "" ∧ q.Holds e.2 r.2) es rs) :=
    leads_mapM_forall₂ (fun _ _ _ _ hq h => ⟨h.1, h.2.extends hq⟩) fun _ _ _ => leads_readEntry
  refine hentries.bind fun rs q _ hrs => .pure ⟨es, ht, ?_⟩
  have htexts : ∀ e ∈ es, e.1.text?.isSome := by
    unfold requireThat at hall
    split at hall
    · rename_i h
      exact all_eq_true.mp h
    · cases hall
  refine ((forall₂_and_left _ _).mpr ⟨htexts, hrs⟩).imp fun e r her => ⟨?_, her.2.2⟩
  rw [her.2.1]
  cases htext : e.1.text? with
  | none => rw [htext] at her; cases her.1
  | some s => rfl

lemma leads_readProperties : Leads (Quiet K) p (readProperties t) (fun r q => r.1.ReadFrom q t) := by
  unfold readProperties
  split
  · exact .pure rfl
  · rename_i es hes
    exact leads_readEntries hes
  · exact .refuse _

lemma keeps_matchNode : Keeps (Moves K) (matchNode labels properties optional) := by
  refine fun p => leads_opened <| .lift_bind fun labels _ => ?_
  refine .bind leads_readProperties fun r _ _ _ => .lift_bind fun hint _ => ?_
  exact ends_new (fun _ => rfl) fun _ => rfl

lemma keeps_matchRelation {type : Value} : Keeps (Moves K) (matchRelation parent child type properties optional) :=
  fun _ => leads_opened <| .bind leads_readProperties fun _ _ _ _ => ends_new (fun _ => rfl) fun _ => rfl

lemma keeps_matchId {id : Thing} : Keeps (Moves K) (matchId labels id) := by
  refine fun p => leads_opened <| .lift_bind fun labels _ => ?_
  refine .bind leads_varOrData fun id _ _ _ => .lift_bind fun hint _ => ?_
  exact ends_new (fun _ => rfl) fun _ => rfl

lemma keeps_matchPattern {parents children exclude : Thing} :
    Keeps (Moves K) (matchPattern labels properties parents children exclude) := by
  refine fun p => leads_opened <| .lift_bind fun labels _ => ?_
  refine .bind leads_readProperties fun r _ _ _ => ?_
  refine .lift_bind fun _ _ => .lift_bind fun _ _ => .lift_bind fun _ _ => .lift_bind fun hint _ => ?_
  exact ends_new (fun _ => rfl) fun _ => rfl

/-- Along a path the nodes that are known are introduced once more. -/
lemma keeps_matchBranch {path : List Thing} : Keeps (Moves K) (matchBranch path) := by
  refine fun p => leads_opened ?_
  have hvars : Leads (Quiet K) p (path.mapM varOrNew) (fun vs q => ∀ v ∈ vs, Fresh p.vars.size q v ∨ .var v ∈ path) := by
    refine Leads.mapM (fun v q₁ q₂ hq h => h.imp (·.extends (extends_of_quiet hq)) id) fun t ht q₁ hq₁ => ?_
    unfold varOrNew
    split
    · exact .pure (.inr ht)
    · exact (leads_newPlain _).mono fun v q₂ _ hv =>
        .inl ((hv.since (extends_of_quiet hq₁)).fresh v (mem_singleton_self v))
  refine .bind hvars fun vs q' _ hvs => (ends_state (by rfl) fun hin => .inr ⟨rfl, fun v hv => ?_⟩).mono fun _ _ _ => trivial
  exact (hvs v hv).imp id fun h => hin _ (mem_filter.mpr ⟨h, rfl⟩)

/-! ## Merging -/

lemma disjoint_ok {ident properties : Properties} {overlap : WriteCause} {es : List (String × VarId) × List (String × VarId)}
    (h : disjoint ident properties overlap = .ok es) : ident = .entries es.1 ∧ properties = .entries es.2 := by
  unfold disjoint at h
  split at h
  · split at h
    · cases h
    · cases h
      exact ⟨rfl, rfl⟩
  · cases h

/-- The parts of a merge have been made from what was given for it. -/
structure MergeParts.MadeOf (p q : Program) (out : VarId) (ident properties : Thing) (rule : Value)
    (parts : MergeParts) : Prop where
  out : parts.merge.out = out
  news : News p q [parts.merge.propVar, parts.merge.colliding, parts.merge.value]
  rule : Rule.ofValue rule = .ok parts.merge.rule
  ident : (Properties.entries parts.merge.ident).ReadFrom q ident
  properties : (Properties.entries parts.merge.properties).ReadFrom q properties

lemma leads_mergeParts {out : VarId} {check : Except Fault Unit} :
    Leads (Quiet K) p (mergeParts out ident properties rule check)
      (fun parts q => parts.MadeOf p q out ident properties rule) := by
  refine leads_readProperties.bind fun r q₁ hq₁ hr => leads_readProperties.bind fun r' q₂ hq₂ hr' => ?_
  refine .lift_bind fun es hes => .lift_bind fun _ _ => ?_
  refine (leads_newPlain _).bind fun propVar q₃ hq₃ hprop => (leads_newPlain _).bind fun colliding q₄ hq₄ hcol => ?_
  refine (leads_newPlain _).bind fun value q₅ hq₅ hval => .lift_bind fun rule hrule => .pure ?_
  have hnews := (hprop.append hcol).append hval
  obtain ⟨hident, hproperties⟩ := disjoint_ok hes
  rw [hproperties] at hr
  rw [hident] at hr'
  have h₂ := extends_of_quiet (hq₃.trans (hq₄.trans hq₅))
  exact ⟨rfl, hnews.since (extends_of_quiet (hq₁.trans hq₂)), hrule, hr'.extends h₂,
    hr.extends ((extends_of_quiet hq₂).trans h₂)⟩

lemma News.merge_outputs {m : Merge} (h : News p q [m.out, m.propVar, m.colliding, m.value]) : News p q m.outputs := by
  refine h.subperm (subperm_iff_count.mpr fun v => ?_)
  unfold Merge.outputs
  split <;> simp only [count_append, count_cons, count_nil] <;> omega

lemma MergeParts.MadeOf.all_news {out : VarId} {parts : MergeParts} (h : parts.MadeOf o q out ident properties rule)
    (hout : News p o [out]) : News p q [parts.merge.out, parts.merge.propVar, parts.merge.colliding, parts.merge.value] := by
  rw [h.out]
  exact hout.append h.news

lemma leads_mergeSingle : Leads (Moves K) p (mergeSingle labels ident properties rule) (fun v q =>
      ∃ (o : Program) (s : Statement) (labels : List String) (m : Merge), q = o.withStatement s ∧
        s.form = .mergeNode labels m ∧ m.out = v) := by
  refine leads_opened <| .lift_bind fun labels _ => .lift_bind fun hint _ => ?_
  refine .bind (leads_newPlain hint) fun out q₁ hq₁ hout => .bind leads_mergeParts fun parts q₂ hq₂ hparts => ?_
  refine (ends_introduce (by rfl) (hparts.all_news hout).merge_outputs).mono fun v q hvq => ?_
  exact ⟨q₂, _, _, _, hvq.2.1, rfl, hparts.out.trans hvq.1.symm⟩

/-- A merge of a relation that records collisions introduces the variable for its outcome twice. -/
lemma keeps_mergeRelation {type : Value} : Keeps (Moves K) (mergeRelation parent child type ident properties rule) := by
  refine fun p => leads_opened <| .bind (leads_newPlain type) fun out q₁ hq₁ hout => .bind leads_mergeParts fun parts q₂ hq₂ hparts => ?_
  have hnews := hparts.all_news hout
  refine (ends_state (by rfl) fun _ => ?_).mono fun _ _ _ => trivial
  by_cases hrule : parts.merge.rule == .trackAndFlag
  · refine .inr ⟨hrule, fun v hv => .inl ?_⟩
    rcases mem_append.mp hv with hv | hv
    · exact hnews.merge_outputs.fresh v hv
    · exact hnews.fresh v (by simp [mem_singleton.mp hv])
  · refine .inl (hnews.subperm (Sublist.subperm ?_))
    simp [Merge.outputs, hrule]

structure IdRelation.MadeOf (q : Program) (g : GivenRelation) (r : IdRelation) : Prop where
  other : r.other = g.other
  type : g.type.text? = some r.type
  inward : r.inward = g.inward
  ident : (Properties.entries r.ident).ReadFrom q g.ident
  properties : (Properties.entries r.properties).ReadFrom q g.properties

/-- A relation that must be absent, read from what was given for it. -/
def AntiRelation.MadeOf (q : Program) (t : Thing) (a : AntiRelation) : Prop :=
  ∃ inward properties, t.each = .ok [a.label, a.type, inward, properties] ∧ a.inward = inward.isTrue ∧
    a.properties.ReadFrom q properties

lemma leads_readRelation {r : GivenRelation} : Leads (Quiet K) p (readRelation r) (fun g q =>
    g.1.ReadFrom q r.ident ∧ g.2.1.ReadFrom q r.properties) :=
  leads_readProperties.bind fun _ _ _ h => leads_readProperties.bind fun _ _ hq h' =>
    Leads.pure ⟨h.extends (extends_of_quiet hq), h'⟩

lemma leads_readAbsence : Leads (Quiet K) p (readAbsence t) (fun a q => a.1.MadeOf q t) := by
  refine .lift_bind fun ts hts => ?_
  split
  · exact leads_readProperties.bind fun _ _ _ h => .pure ⟨_, _, hts, rfl, h⟩
  · exact .refuse _

/-- A node merged together with the relations that identify it. -/
structure Dependence.MadeOf (q : Program) (relations : List GivenRelation) (absent : List Thing) (d : Dependence) : Prop where
  relations : Forall₂ (IdRelation.MadeOf q) relations d.relations
  absent : Forall₂ (AntiRelation.MadeOf q) absent d.absent
  hashed : d.hashed = false

lemma forall₂_built {types : List String} {given : List (Properties × Properties × List Thing × List Thing)}
    {entries : List (List (String × VarId) × List (String × VarId))} {relVars dummyVars propVars colliding : List VarId}
    {f : (GivenRelation × String × List (String × VarId) × List (String × VarId)) × (VarId × VarId) × VarId × VarId → IdRelation}
    (hf : ∀ x, (f x).other = x.1.1.other ∧ (f x).type = x.1.2.1 ∧ (f x).inward = x.1.1.inward ∧
      (f x).ident = x.1.2.2.1 ∧ (f x).properties = x.1.2.2.2)
    (hgiven : Forall₂ (fun (r : GivenRelation) g => g.1.ReadFrom q r.ident ∧ g.2.1.ReadFrom q r.properties) relations given)
    (htypes : Forall₂ (fun (r : GivenRelation) t => r.typeText = .ok t) relations types)
    (hentries : Forall₂ (fun g e => disjoint g.1 g.2.1 .relationOverlap = .ok e) given entries)
    (hrel : relVars.length = types.length) (hdummies : dummyVars.length = types.length)
    (hprops : propVars.length = types.length) (hcolliding : colliding.length = types.length) :
    Forall₂ (IdRelation.MadeOf q) relations
      (((relations.zip (types.zip entries)).zip ((relVars.zip dummyVars).zip (propVars.zip colliding))).map f) := by
  have hlen := htypes.length_eq
  have hlen' := hgiven.length_eq
  have hlen'' := hentries.length_eq
  refine forall₂_iff_get.mpr ⟨by simp; omega, fun i hi hi' => ?_⟩
  have hr := hgiven.get hi (by omega)
  have ht := htypes.get hi (by omega)
  have he := hentries.get (i := i) (by omega) (by omega)
  obtain ⟨hident, hproperties⟩ := disjoint_ok he
  rw [hident, hproperties] at hr
  simp only [get_eq_getElem, getElem_map, getElem_zip] at hr ht ⊢
  obtain ⟨hother, htype, hinward, hi, hp⟩ :=
    hf ((relations[i], types[i], entries[i]), (relVars[i], dummyVars[i]), propVars[i], colliding[i])
  refine ⟨hother, ?_, hinward, hi ▸ hr.1, hp ▸ hr.2⟩
  rw [htype]
  unfold GivenRelation.typeText at ht
  split at ht
  · rename_i t htext
    cases ht
    exact htext
  · cases ht

lemma leads_mergeDependent : Leads (Moves K) p (mergeDependent labels ident properties relations absent rule) (fun v q =>
      ∃ o s m d, ReflTransGen (Quiet K) p o ∧ q = o.withStatement s ∧ s.form = .mergeDependent m d ∧ m.out = v ∧
        Rule.ofValue rule = .ok m.rule ∧ d.MadeOf o relations absent ∧ ∀ r ∈ relations, o.isAccessible r.other) := by
  refine leads_opened <| .lift_bind fun labels _ => ?_
  have hread : Leads (Quiet K) p (relations.mapM readRelation) (fun gs q => Forall₂ (fun (r : GivenRelation) g =>
      g.1.ReadFrom q r.ident ∧ g.2.1.ReadFrom q r.properties) relations gs) :=
    leads_mapM_forall₂ (fun _ _ _ _ hq h => ⟨h.1.extends hq, h.2.extends hq⟩) fun _ _ _ => leads_readRelation
  refine .bind hread fun given q₂ hq₂ hgiven => .lift_bind fun hint _ => ?_
  refine .bind (leads_newPlain hint) fun out q₃ hq₃ hout => .lift_bind fun types htypes => ?_
  refine .bind leads_newPlains fun relVars q₄ hq₄ hrel => .bind leads_newPlains fun dummyVars q₅ hq₅ hdummies => ?_
  refine .bind (leads_newPlain _) fun dummy q₆ hq₆ hdummy => .bind leads_newPlains fun propVars q₇ hq₇ hprops => ?_
  refine .bind leads_newPlains fun colliding q₈ hq₈ hcolliding => ?_
  have hread : Leads (Quiet K) q₈ (absent.mapM readAbsence) (fun as q => Forall₂ (fun t (a : AntiRelation × List Thing) =>
      a.1.MadeOf q t) absent as) :=
    leads_mapM_forall₂ (fun _ _ _ _ hq ⟨i, ps, h, hi, hps⟩ => ⟨i, ps, h, hi, hps.extends hq⟩) fun _ _ _ => leads_readAbsence
  refine .bind hread fun absences q₉ hq₉ habsences => .bind leads_mergeParts fun parts r₁ hr₁ hparts => ?_
  refine .lift_bind fun entries hentries => .bind (leads_newPlain _) fun holder r₂ hr₂ hholder => ?_
  refine .bind (leads_newPlain _) fun unnamed r₃ hr₃ hunnamed => .bind (leads_newPlain _) fun hash r₄ hr₄ _ => ?_
  have hnews := (((((hout.append hrel.1).append hdummies.1).append hdummy).append hprops.1).append hcolliding.1).extends
    (extends_of_quiet hq₉)
  have hnews := ((((hnews.append hparts.news).append hholder).append hunnamed).extends (extends_of_quiet hr₄)).since
    (extends_of_quiet hq₂)
  have hlate := extends_of_quiet (hr₂.trans (hr₃.trans hr₄))
  have h₈ := (extends_of_quiet (hq₉.trans hr₁)).trans hlate
  have h₂ := (extends_of_quiet (hq₃.trans (hq₄.trans (hq₅.trans (hq₆.trans (hq₇.trans hq₈)))))).trans h₈
  refine Ends.since fun hr => (ends_introduce (by rfl) ?_).mono fun v q hvq => ?_
  · refine hnews.subperm (subperm_iff_count.mpr fun v => ?_)
    unfold Merge.outputs
    rw [hparts.out]
    split <;> simp only [count_append, count_cons, count_nil] <;> omega
  · obtain ⟨rfl, rfl, hin⟩ := hvq
    refine ⟨r₄, _, _, _, hr, rfl, rfl, hparts.out, hparts.rule, ⟨?_, ?_, rfl⟩, fun r hmem => hin _ ?_⟩
    · refine forall₂_built (fun _ => ⟨rfl, rfl, rfl, rfl, rfl⟩) (hgiven.imp fun _ _ h => ⟨h.1.extends h₂, h.2.extends h₂⟩)
        (mapM_ok htypes) (mapM_ok hentries) hrel.2 hdummies.2 hprops.2 hcolliding.2
    · rw [forall₂_map_right_iff]
      exact habsences.imp fun _ _ ⟨i, ps, h, hi, hps⟩ => ⟨i, ps, h, hi, hps.extends ((extends_of_quiet hr₁).trans hlate)⟩
    · have hother := mem_map_of_mem (f := GivenRelation.other) hmem
      simp only [mem_append]
      exact .inl (.inl (.inl (.inr hother)))

lemma ends_effect (hform : s.goesOn) (hs : s.outputs = []) : Ends K p o (addStatement s) (fun _ _ => True) := by
  refine Ends.since fun hpo => (ends_addStatement hform fun _ => .inl ?_).mono fun _ _ _ => trivial
  rw [hs]
  exact .nil (extends_of_quiet hpo)

lemma keeps_setVersion {parents types : List Thing} {label : Thing} :
    Keeps (Moves K) (setVersion parents types label child properties) :=
  fun _ => leads_opened <| .lift_bind fun _ _ => .lift_bind fun _ _ => .bind leads_readProperties fun _ _ _ _ => ends_effect rfl rfl

lemma keeps_mergeIdentified : Keeps (Moves K) (mergeIdentified labels ident properties relations absent rule) := by
  intro p
  unfold mergeIdentified
  split
  · exact leads_mergeSingle.mono fun _ _ _ _ => trivial
  · exact leads_mergeDependent.mono fun _ _ _ _ => trivial

lemma keeps_mergeNode {versioned : Option (Thing × Thing)} :
    Keeps (Moves K) (mergeNode labels ident properties relations absent rule versioned) := by
  refine keeps_mergeIdentified.bind fun node => ?_
  split
  · exact .pure _
  · exact keeps_setVersion.bind fun _ => .pure _

lemma keeps_validateNumber {collection min max central joined : Thing} :
    Keeps (Moves K) (validateNumber collection min max central joined) :=
  fun _ => leads_opened <| .bind (leads_newPlain _) fun _ _ _ _ => ends_effect rfl rfl

lemma keeps_validateType {label : Thing} : Keeps (Moves K) (validateType t label) :=
  fun _ => leads_opened <| .bind (leads_newPlain _) fun _ _ _ _ => .get_bind <| .bind (leads_newIf _ _) fun _ _ _ _ =>
    ends_effect rfl rfl

/-! ## Blocks -/

/-- The program with a block more, with nothing in reach yet. -/
def Program.nest (p : Program) : Program := { p with blocks := [] :: p.blocks }

lemma quiet_nest (h : ReflTransGen (Quiet K) p q) : ReflTransGen (Quiet K) p.nest q.nest := by
  induction h with
  | refl => exact .refl
  | tail _ h ih =>
    refine ih.tail ?_
    cases h with
    | name x hx => exact .name x hx
    | data hv hk => exact .data hv hk

lemma leads_blockInputs : Leads (Moves K) p (blockInputs ts useCopy)
    (fun inputs q => ∀ v ∈ q.blocks.flatten, v ∈ p.blocks.flatten ∨ .var v ∈ inputs) := by
  unfold blockInputs
  split
  · exact leads_copy.map fun vs q h v hv => (h v hv).imp id fun h => mem_map_of_mem h
  · exact .pure fun v hv => .inl hv

lemma leads_newMember : Leads (Quiet K) p (newMember t) (fun v q => News p q [v]) := by
  refine leads_hintOf.bind fun hint q _ hq => ?_
  rw [hq]
  split
  · exact leads_newPlain _
  · exact .refuse _

/-- Opening a block adds to the program, and then to the block. Around it only what it goes through has come
into reach. -/
lemma openBlock_ok {enumerated : Bool} {b : Block}
    (h : after (openBlock ts enumerated useCopy) p = (.ok b, q)) : ∃ o, ReflTransGen (Moves K) p o ∧
    (∀ v ∈ o.blocks.flatten, v ∈ p.blocks.flatten ∨ .var v ∈ b.inputs) ∧ Moves K o.nest q := by
  obtain ⟨inputs, o, h₁, h⟩ := after_bind_ok h
  obtain ⟨ho, hin⟩ := (leads_blockInputs (K := K)).of_ok h₁
  obtain ⟨_, o', h₂, h⟩ := after_bind_ok h
  rw [((leads_requireOpen (r := Quiet K)).of_ok h₂).2.1] at h
  obtain ⟨members, o₁, h₃, h⟩ := after_bind_ok h
  obtain ⟨ho₁, hmembers, -⟩ := (leads_mapM_news (K := K) fun _ _ _ => leads_newMember).of_ok h₃
  obtain ⟨indexer, o₂, h₄, h⟩ := after_bind_ok h
  obtain ⟨ho₂, hindexer⟩ := (leads_newIf (K := K) _ _).of_ok h₄
  obtain ⟨_, o₃, hnest, h⟩ := after_bind_ok h
  obtain rfl : o₂.nest = o₃ := congrArg Prod.snd hnest
  obtain ⟨_, q', h₅, h⟩ := after_bind_ok h
  obtain ⟨hb, rfl⟩ : (Except.ok _ : Except Fault Block) = .ok b ∧ q' = q := Prod.mk.inj h
  cases hb
  refine ⟨o, ho, hin, ?_⟩
  obtain ⟨hreach, rfl⟩ := addStatement_ok h₅
  have hnews := hmembers.append hindexer
  refine .statement _ (quiet_nest (ho₁.trans ho₂)) hreach (.inl ⟨?_, hnews.nodup, ?_⟩) rfl
  · exact extends_of_quiet (quiet_nest (ho₁.trans ho₂))
  · intro v hv
    have hfresh := hnews.fresh v hv
    exact ⟨hfresh.le, hfresh.lt, hfresh.own⟩

lemma Thing.mem_filterMap_var? : v ∈ ts.filterMap Thing.var? ↔ .var v ∈ ts := by
  rw [mem_filterMap]
  constructor
  · rintro ⟨t, ht, hv⟩
    cases t <;> simp [Thing.var?] at hv
    exact hv ▸ ht
  · exact fun h => ⟨_, h, rfl⟩

lemma Program.mem_closed_of_requireClosed (h : p.requireClosed skipNothing (.var v) = .ok ()) : v ∈ p.closed := by
  simpa [Program.requireClosed, Thing.isNothing] using h

lemma Program.mem_closed_of_requireAllClosed
    (h : p.requireAllClosed skipNothing ts = .ok ()) (hv : .var v ∈ ts) : v ∈ p.closed := by
  induction ts with
  | nil => cases hv
  | cons t ts ih =>
    obtain ⟨_, ht, hts⟩ := bind_ok h
    rcases mem_cons.mp hv with rfl | hv
    · exact Program.mem_closed_of_requireClosed ht
    · exact ih hts hv

lemma leads_newCollection : Leads (Quiet K) p (newCollection v) (fun v q => News p q [v]) := by
  refine .get_bind (leads_hintWith.bind fun hint q _ hq => ?_)
  rw [hq]
  exact leads_newVariable rfl hint

lemma leads_newCollections : Leads (Quiet K) p (vs.mapM newCollection)
    (fun ws q => News p q ws ∧ ∀ w ∈ ws, w < q.vars.size ∧ (q.get w).kind.isCollection) := by
  refine ((leads_mapM_news fun _ _ _ => leads_newCollection).mono fun _ _ _ h => h.1).and ?_
  refine Leads.mapM (fun w q r hr hw => ?_) fun v _ q _ => .get_bind (leads_hintWith.bind fun hint q' _ _ => ?_)
  · have hold := extends_of_quiet hr
    exact ⟨hw.1.trans_le hold.size, by rw [hold.get w hw.1]; exact hw.2⟩
  · exact (leads_newKind (by simp [VarKind.parent?]) hint).mono fun w r _ hw => ⟨hw.2.1, by rw [hw.2.2]; rfl⟩

lemma Program.kept_ok {previous : List VarId} (h : p.kept = .ok previous) :
    ∃ s, p.statements.back? = some s ∧ s.form = .collect previous := by
  unfold Program.kept at h
  split at h
  · rename_i hmap
    obtain ⟨s, hs, hform⟩ := Option.map_eq_some_iff.mp hmap
    cases h
    exact ⟨s, hs, hform⟩
  · cases h

/-- Collecting replaces the statement that closed the last block, takes variables of that block, and keeps
what it kept. -/
lemma collect_ok {vs : List (Option VarId)}
    (h : after (collect ts skipNothing) p = (.ok vs, q)) : ∃ (o : Program) (s : Statement) (previous once outputs : List VarId),
    ReflTransGen (Quiet K) p o ∧ p.statements.back? = some s ∧ s.form = .collect previous ∧ (∀ v ∈ once, v ∈ p.closed) ∧
    News p o outputs ∧ q = o.withLast { inputs := once.map .var, outputs, form := .collect previous } := by
  obtain ⟨_, p', h₁, h⟩ := after_bind_ok h
  rw [((leads_requireOpen (r := Quiet K)).of_ok h₁).2.1, after_get_bind] at h
  obtain ⟨previous, hkept, h⟩ := after_lift_ok h
  obtain ⟨_, hall, h⟩ := after_lift_ok h
  obtain ⟨outputs, o, houtputs, h⟩ := after_bind_ok h
  obtain ⟨ho, hnews, -⟩ := (leads_newCollections (K := K)).of_ok houtputs
  obtain ⟨_, q', hlast, h⟩ := after_bind_ok h
  obtain rfl : q' = q := congrArg Prod.snd h
  obtain ⟨s, hback, hform⟩ := Program.kept_ok hkept
  refine ⟨o, s, previous, _, outputs, ho, hback, hform, fun v hv => ?_, hnews, (congrArg Prod.snd hlast).symm⟩
  refine Program.mem_closed_of_requireAllClosed hall ?_
  rw [mem_eraseDups, filterMap_map] at hv
  exact Thing.mem_filterMap_var?.mp hv

/-! ## Additions in any order -/

/-- All variables of a formula are the one by which it is reached. -/
def VarKind.Direct (k : VarKind) : Prop := ∀ f w, k = .derived f w → ∀ u, .var u ∈ f.parts → u = w

/-- One addition to a program. What statements introduce came after the first `n` variables, or was in
reach. -/
inductive Adds (n : Nat) : Program → Program → Prop
  | name {p : Program} (x : Variable) (hx : x.kind.Direct) : Adds n p { p with vars := p.vars.push x }
  | data {p : Program} {v : VarId} (hv : v < p.vars.size) (hk : (p.get v).kind.isData) :
    Adds n p { p with data := p.data.push v }
  | statement {p : Program} (s : Statement) (hin : ∀ t ∈ s.inputs, p.isAccessible t)
    (hout : ∀ v ∈ s.outputs, Fresh n p v ∨ p.isAccessible (.var v)) (hform : ∀ previous, s.form ≠ .collect previous) :
    Adds n p (p.withStatement s)

lemma Adds.extends (h : Adds n p q) : Extends p q := by
  cases h with
  | name x => exact ⟨by simp, fun v hv => Program.get_push x hv, fun _ h => h⟩
  | data => exact ⟨le_rfl, fun _ _ => rfl, fun _ h => by simp [h]⟩
  | statement s => exact extends_withStatement s

lemma Quiet.adds (h : Quiet VarKind.Direct p q) : Adds n p q := by
  cases h with
  | name x hx =>
    refine .name x fun f w hk => hx ?_ f w hk
    rw [hk]
    rfl
  | data hv hk => exact .data hv hk

lemma adds_of_quiet (h : ReflTransGen (Quiet VarKind.Direct) p q) : ReflTransGen (Adds n) p q :=
  ReflTransGen.mono (fun _ _ => Quiet.adds) _ _ h

lemma Moves.adds (h : Moves VarKind.Direct p q) (hn : n ≤ p.vars.size) : ReflTransGen (Adds n) p q := by
  cases h with
  | quiet h => exact .single h.adds
  | statement s h hin hout hform =>
    refine (adds_of_quiet h).tail (.statement s hin (fun v hv => ?_) (Statement.ne_collect hform))
    rcases hout with hout | ⟨-, hout⟩
    · exact .inl ((hout.fresh v hv).of_le hn)
    · exact (hout v hv).imp (·.of_le hn) id

lemma adds_of_moves (h : ReflTransGen (Moves VarKind.Direct) p q) (hn : n ≤ p.vars.size) : ReflTransGen (Adds n) p q := by
  induction h with
  | refl => exact .refl
  | tail hpo h ih => exact ih.trans (h.adds (hn.trans (extends_of_moves hpo).size))

lemma keyed_direct {key : Value} : Keyed VarKind.Direct (.plain key) := by
  refine fun w t ht => ⟨?_, fun u hu => by cases hu⟩
  intro f w' hf u hu
  cases hf
  rcases mem_cons.mp hu with hu | hu
  · cases hu
    rfl
  · obtain rfl := mem_singleton.mp hu
    cases ht rfl

end SurveyGraph.Write
