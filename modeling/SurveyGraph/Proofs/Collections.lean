import Mathlib.Data.List.Pairwise
import SurveyGraph.Proofs.WriteGrowth
/-!
# What is collected after a block

The lists of what the variables of a block stood for are made on demand. Whoever asks for several of them, with repetitions
and with nothing in between, gets them in the places of the variables, each made once: `collect_aligned`.
-/
open List

namespace SurveyGraph

/-! ## Places in lists -/

section Places

variable {α β : Type} [BEq α] [LawfulBEq α]

lemma idxOf_lt_of_filterMap [BEq β] [LawfulBEq β] {f : α → Option β} {b c : β} {x y : α} (hb : ∀ a, f a = some b ↔ a = x)
    (hc : ∀ a, f a = some c ↔ a = y) :
    ∀ {l : List α}, (l.filterMap f).idxOf b < (l.filterMap f).idxOf c → l.idxOf x < l.idxOf y
  | [], h => absurd h (Nat.lt_irrefl 0)
  | a :: l, h => by
    by_cases hx : a = x
    · subst hx
      by_cases hy : a = y
      · rw [Option.some.inj (((hb a).mpr rfl).symm.trans ((hc a).mpr hy))] at h
        exact absurd h (Nat.lt_irrefl _)
      · rw [idxOf_cons_self, idxOf_cons_ne l hy]
        exact Nat.succ_pos _
    · have hy : a ≠ y := by
        rintro rfl
        rw [filterMap_cons_some ((hc a).mpr rfl), idxOf_cons_self] at h
        exact absurd h (Nat.not_lt_zero _)
      rw [idxOf_cons_ne l hx, idxOf_cons_ne l hy]
      refine Nat.succ_lt_succ (idxOf_lt_of_filterMap hb hc ?_)
      cases hf : f a with
      | none => rwa [filterMap_cons_none hf] at h
      | some d =>
        have hdb : d ≠ b := fun hd => hx ((hb a).mp (hd ▸ hf))
        have hdc : d ≠ c := fun hd => hy ((hc a).mp (hd ▸ hf))
        rw [filterMap_cons_some hf, idxOf_cons_ne _ hdb, idxOf_cons_ne _ hdc] at h
        exact Nat.lt_of_succ_lt_succ h

lemma pairwise_eraseDups : (l : List α) → l.eraseDups.Pairwise (fun a b => l.idxOf a < l.idxOf b)
  | [] => by simp
  | a :: l => by
    rw [eraseDups_cons, pairwise_cons]
    have hne : ∀ {b}, b ∈ (l.filter (fun b => !b == a)).eraseDups → a ≠ b := by
      rintro b hb rfl
      simp at hb
    have hkept : ∀ {b}, a ≠ b → ∀ d, Option.guard (fun b => !b == a) d = some b ↔ d = b := by
      intro b hb d
      simp only [Option.guard_eq_some_iff, Bool.not_eq_true', beq_eq_false_iff_ne]
      exact ⟨fun h => h.1, fun h => ⟨h, h ▸ hb.symm⟩⟩
    refine ⟨fun b hb => ?_, (pairwise_eraseDups _).imp_of_mem fun hb hc hlt => ?_⟩
    · rw [idxOf_cons_self, idxOf_cons_ne l (hne hb)]
      exact Nat.succ_pos _
    · rw [idxOf_cons_ne l (hne hb), idxOf_cons_ne l (hne hc)]
      rw [← filterMap_eq_filter] at hlt
      exact Nat.succ_lt_succ (idxOf_lt_of_filterMap (hkept (hne hb)) (hkept (hne hc)) hlt)
termination_by l => l.length
decreasing_by exact Nat.lt_succ_of_le (length_filter_le _ _)

lemma lookup_zip : ∀ {l : List α} {m : List β} {a : α}, a ∈ l → (l.zip m).lookup a = m[l.idxOf a]?
  | x :: l, [], a, _ => by simp
  | x :: l, y :: m, a, h => by
    rw [zip_cons_cons, lookup_cons]
    by_cases hx : x = a
    · subst hx
      simp
    · have hne : (a == x) = false := by simpa using fun h => hx h.symm
      rw [hne, idxOf_cons_ne l hx]
      exact lookup_zip ((mem_cons.mp h).resolve_left fun h => hx h.symm)

end Places

namespace Write

variable {p q : Program} {v : VarId} {vs : List (Option VarId)} {previous once : List VarId}

/-! ## New collections -/

def Program.withCollection (p : Program) (hint : String) : Program :=
  { p with vars := p.vars.push { kind := .collection, hint := .text (hint ++ "s") } }

lemma Program.size_withCollection (p : Program) (hint : String) : (p.withCollection hint).vars.size = p.vars.size + 1 :=
  Array.size_push _

lemma after_newCollection {hint : String} (h : (p.get v).hint = .text hint) :
    after (newCollection v) p = (.ok p.vars.size, p.withCollection hint) := by
  unfold newCollection
  rw [after_get_bind, h]
  rfl

lemma after_newCollections : ∀ {us : List VarId} {p : Program}, (∀ v ∈ us, ∃ hint, (p.get v).hint = .text hint) →
    ∃ q, after (us.mapM newCollection) p = (.ok (range' p.vars.size us.length), q) ∧
      q.vars.size = p.vars.size + us.length ∧ ∀ w ∈ range' p.vars.size us.length, (q.get w).kind = .collection
  | [], p, _ => ⟨p, rfl, rfl, by simp⟩
  | v :: us, p, h => by
    obtain ⟨hint, hv⟩ := h v (.head _)
    have hsize := p.size_withCollection hint
    have hrest : ∀ w ∈ us, ∃ hint', ((p.withCollection hint).get w).hint = .text hint' := by
      intro w hw
      obtain ⟨hint', hw'⟩ := h w (mem_cons_of_mem v hw)
      exact ⟨hint', by rw [Program.withCollection, Program.get_push _ (Program.lt_of_hint hw')]; exact hw'⟩
    obtain ⟨q, hq, hqsize, hkind⟩ := after_newCollections hrest
    have hold : Extends (p.withCollection hint) q :=
      extends_of_quiet ((leads_newCollections (K := fun _ => True)).of_ok hq).1
    refine ⟨q, ?_, by rw [hqsize, length_cons]; omega, fun w hw => ?_⟩
    · rw [mapM_cons, after_bind, after_newCollection hv]
      dsimp only
      rw [after_bind, hq, hsize]
      rfl
    · rw [length_cons, range'_succ, mem_cons] at hw
      rcases hw with rfl | hw
      · rw [hold.get p.vars.size (by omega), Program.withCollection, Program.get_push_size]
      · exact hkind w (hsize ▸ hw)

/-- No collection is made where the hint of a variable is no text. -/
lemma after_newCollections_error : ∀ {us : List VarId} {p : Program}, v ∈ us → v < p.vars.size →
    (∀ hint, (p.get v).hint ≠ .text hint) → ∃ e, (after (us.mapM newCollection) p).1 = .error e ∧ e.kind = .badType
  | w :: us, p, hmem, hv, hhint => by
    rw [mapM_cons, after_bind]
    by_cases hw : ∃ hint, (p.get w).hint = .text hint
    · obtain ⟨hint, hw⟩ := hw
      have hmem' : v ∈ us := (mem_cons.mp hmem).resolve_left fun h => hhint hint (h ▸ hw)
      have hlt : v < (p.withCollection hint).vars.size := p.size_withCollection hint ▸ Nat.lt_succ_of_lt hv
      obtain ⟨e, he, hkind⟩ := after_newCollections_error hmem' hlt (by
        rw [Program.withCollection, Program.get_push _ hv]
        exact hhint)
      rw [after_newCollection hw]
      dsimp only
      refine ⟨e, ?_, hkind⟩
      rw [after_bind]
      cases hm : after (us.mapM newCollection) (p.withCollection hint) with
      | mk x t =>
        rw [hm] at he
        obtain rfl : x = .error e := he
        rfl
    · have hfail : after (newCollection w) p = (.error (Cause.toFault FaultKind.badType), p) := by
        unfold newCollection
        rw [after_get_bind]
        cases hh : (p.get w).hint with
        | text hint => exact absurd ⟨hint, hh⟩ hw
        | _ => rfl
      rw [hfail]
      exact ⟨_, rfl, rfl⟩

/-! ## Collecting -/

/-- Nothing was added since a block was closed by a statement that keeps `previous`. -/
def Program.AfterBlock (p : Program) (previous : List VarId) : Prop :=
  ∃ s, p.statements.back? = some s ∧ s.form = .collect previous

lemma Program.afterBlock_close (p : Program) (b : Block) :
    (p.close b).AfterBlock (p.close b).visible := ⟨_, Array.back?_push, rfl⟩

lemma Program.AfterBlock.kept (h : p.AfterBlock previous) : p.kept = .ok previous := by
  obtain ⟨s, hs, hform⟩ := h
  rw [Program.kept, hs, Option.map_some, hform]

lemma Program.kept_error (h : ∀ previous, ¬ p.AfterBlock previous) :
    p.kept = .error (Cause.toFault WriteCause.notAfterUnwind) := by
  cases hkept : p.kept with
  | ok previous => exact absurd (Program.kept_ok hkept) (h previous)
  | error e =>
    unfold Program.kept at hkept
    split at hkept
    · cases hkept
    · rw [← hkept]
      rfl

lemma Program.requireAllClosed_ok (h : ∀ v, some v ∈ vs → v ∈ p.closed) :
    p.requireAllClosed true (vs.map .ofVar?) = .ok () := by
  refine forM_eq_ok fun t ht => ?_
  obtain ⟨o, ho, rfl⟩ := mem_map.mp ht
  cases o with
  | none => simp [Program.requireClosed, Thing.ofVar?, Thing.nothing, Thing.isNothing]
  | some v => simp [Program.requireClosed, Thing.ofVar?, h v ho]

lemma Program.requireAllClosed_error (h : some v ∈ vs) (hv : v ∉ p.closed) :
    ∃ e, p.requireAllClosed true (vs.map .ofVar?) = .error e ∧ e.kind = .badValue := by
  cases hall : p.requireAllClosed true (vs.map .ofVar?) with
  | ok x => exact absurd (Program.mem_closed_of_requireAllClosed hall (mem_map.mpr ⟨some v, h, rfl⟩)) hv
  | error e =>
    obtain ⟨t, _, ht⟩ := forM_error hall
    refine ⟨e, rfl, ?_⟩
    rcases ite_eq_iff.mp ht with ⟨_, ht⟩ | ⟨_, ht⟩
    · cases ht
    · cases ht
      rfl

/-- Each of some variables once, in the order of first occurrence. -/
structure Gathers (vs : List (Option VarId)) (once : List VarId) : Prop where
  mem : ∀ v, v ∈ once ↔ some v ∈ vs
  nodup : once.Nodup
  order : once.Pairwise (fun v w => vs.idxOf (some v) < vs.idxOf (some w))

lemma gathers (vs : List (Option VarId)) : Gathers vs (vs.filterMap id).eraseDups where
  mem v := by simp
  nodup := by
    refine (pairwise_eraseDups _).imp fun {a b} h => ?_
    rintro rfl
    exact Nat.lt_irrefl _ h
  order := (pairwise_eraseDups _).imp fun h => idxOf_lt_of_filterMap (fun _ => .rfl) (fun _ => .rfl) h

/-- A program after variables have been collected, each into what is `of` it. -/
structure Collected (p : Program) (previous once : List VarId) (of : VarId → VarId) (q : Program) : Prop where
  old : Extends p q
  new : ∀ v ∈ once, p.vars.size ≤ of v ∧ of v < q.vars.size ∧ (q.get (of v)).kind = .collection
  apart : ∀ v ∈ once, ∀ w ∈ once, of v = of w → v = w
  statements : q.statements = p.statements.pop.push
    { inputs := once.map .var, outputs := once.map of, form := .collect previous }
  blocks : q.blocks = (p.extend (once.map of)).blocks
  closed : q.closed = p.closed

lemma Thing.map_var?_ofVar? (vs : List (Option VarId)) : (vs.map Thing.ofVar?).map Thing.var? = vs := by
  rw [map_map]
  refine (map_congr_left fun o _ => ?_).trans (map_id vs)
  cases o <;> rfl

lemma lookup_zip_range' (n : Nat) (h : v ∈ once) : (once.zip (range' n once.length)).lookup v = some (n + once.idxOf v) := by
  rw [lookup_zip h, getElem?_range' (idxOf_lt_length_of_mem h), Nat.one_mul]

lemma after_requireOpen (h : p.isOpen = true) : after requireOpen p = (.ok (), p) := by
  unfold requireOpen
  rw [after_get_bind, h]
  rfl

section Collect

variable (hopen : p.isOpen = true)

include hopen

lemma after_collect_afterBlock (hblock : p.AfterBlock previous) : after (collect (vs.map .ofVar?) true) p =
      after (do p.requireAllClosed true (vs.map .ofVar?); collectOnce previous vs) p := by
  unfold collect
  rw [after_bind, after_requireOpen hopen]
  dsimp only
  rw [after_get_bind, hblock.kept, Thing.map_var?_ofVar?]
  rfl

lemma after_collect_closed (hblock : p.AfterBlock previous) (hclosed : ∀ v, some v ∈ vs → v ∈ p.closed) :
    after (collect (vs.map .ofVar?) true) p = after (collectOnce previous vs) p := by
  rw [after_collect_afterBlock hopen hblock, Program.requireAllClosed_ok hclosed]
  rfl

lemma after_collect (hblock : p.AfterBlock previous) (hclosed : ∀ v, some v ∈ vs → v ∈ p.closed)
    (hhint : ∀ v, some v ∈ vs → ∃ hint, (p.get v).hint = .text hint) :
    ∃ once of q, after (collect (vs.map .ofVar?) true) p = (.ok (vs.map (·.map of)), q) ∧ Gathers vs once ∧
      Collected p previous once of q := by
  have hg := gathers vs
  generalize honce : (vs.filterMap id).eraseDups = once at hg
  obtain ⟨o, ho, hsize, hkind⟩ := after_newCollections fun v hv => hhint v ((hg.mem v).mp hv)
  have hquiet := ((leads_newCollections (K := fun _ => True)).of_ok ho).1
  have hold := extends_of_quiet hquiet
  have hof : ∀ v ∈ once, p.vars.size + once.idxOf v ∈ range' p.vars.size once.length := by
    intro v hv
    rw [mem_range'_1]
    have := idxOf_lt_length_of_mem hv
    omega
  have houtputs : range' p.vars.size once.length = once.map (fun v => p.vars.size + once.idxOf v) := by
    refine ext_getElem (by simp) fun i hi hi' => ?_
    have hi : i < once.length := by simpa using hi
    simp [hg.nodup.idxOf_getElem i hi]
  refine ⟨once, fun v => p.vars.size + once.idxOf v,
    o.withLast { inputs := once.map .var, outputs := range' p.vars.size once.length, form := .collect previous }, ?_, hg, ?_⟩
  · rw [after_collect_closed hopen hblock hclosed, collectOnce, honce, after_bind, ho]
    refine Prod.ext (congrArg Except.ok ?_) rfl
    refine map_congr_left fun x hx => ?_
    cases x with
    | none => rfl
    | some v => exact lookup_zip_range' _ ((hg.mem v).mpr hx)
  · refine ⟨⟨hold.size, hold.get, hold.data⟩, fun v hv => ?_, fun v hv w hw heq => ?_, ?_, ?_,
      (quiet_closed hquiet : o.closed = p.closed)⟩
    · have hlt := idxOf_lt_length_of_mem hv
      refine ⟨Nat.le_add_right _ _, ?_, hkind _ (hof v hv)⟩
      change _ < o.vars.size
      omega
    · exact (idxOf_inj hv).mp (Nat.add_left_cancel heq)
    · rw [← houtputs, ← quiet_statements hquiet]
      rfl
    · rw [← houtputs, Program.extend, ← quiet_blocks hquiet]
      rfl

lemma after_collect_notAfter (h : ∀ previous, ¬ p.AfterBlock previous) :
    ∃ e, after (collect (vs.map .ofVar?) true) p = (.error e, p) ∧ e.kind = .missingName := by
  refine ⟨Cause.toFault WriteCause.notAfterUnwind, ?_, rfl⟩
  unfold collect
  rw [after_bind, after_requireOpen hopen]
  dsimp only
  rw [after_get_bind, Program.kept_error h]
  rfl

lemma after_collect_notClosed (hblock : p.AfterBlock previous) (h : some v ∈ vs) (hv : v ∉ p.closed) :
    ∃ e, after (collect (vs.map .ofVar?) true) p = (.error e, p) ∧ e.kind = .badValue := by
  obtain ⟨e, he, hkind⟩ := Program.requireAllClosed_error h hv
  refine ⟨e, ?_, hkind⟩
  rw [after_collect_afterBlock hopen hblock, he]
  rfl

lemma after_collect_notNamed (hblock : p.AfterBlock previous) (hclosed : ∀ v, some v ∈ vs → v ∈ p.closed) (h : some v ∈ vs)
    (hv : v < p.vars.size) (hhint : ∀ hint, (p.get v).hint ≠ .text hint) :
    ∃ e q, after (collect (vs.map .ofVar?) true) p = (.error e, q) ∧ e.kind = .badType ∧
      q.statements = p.statements ∧ q.blocks = p.blocks ∧ q.closed = p.closed := by
  have hmem : v ∈ (vs.filterMap id).eraseDups := (gathers vs).mem v |>.mpr h
  obtain ⟨e, he, hkind⟩ := after_newCollections_error hmem hv hhint
  have hquiet : Relation.ReflTransGen (Quiet fun _ => True) p
      (after ((vs.filterMap id).eraseDups.mapM newCollection) p).2 := leads_newCollections.1
  refine ⟨e, _, ?_, hkind, quiet_statements hquiet, quiet_blocks hquiet, quiet_closed hquiet⟩
  rw [after_collect_closed hopen hblock hclosed, collectOnce, after_bind]
  cases hm : after ((vs.filterMap id).eraseDups.mapM newCollection) p with
  | mk x t =>
    rw [hm] at he
    obtain rfl : x = .error e := he
    rfl

end Collect

/-- Variables and nothing, in any places and repeated at will, are collected after a block. If they are of the
block, collections are given in their places, one for each variable, and a single one bare; the statement that
closed the block gathers each variable once, in order of first occurrence, and keeps what it kept; the collections
are new in the block around. Otherwise statements and blocks stay. -/
theorem collect_aligned (p : Program) (hopen : p.isOpen = true) (vs : List (Option VarId)) :
    (∀ previous, p.AfterBlock previous → (∀ v, some v ∈ vs → v ∈ p.closed) →
      ((∀ v, some v ∈ vs → ∃ hint, (p.get v).hint = .text hint) →
        ∃ once of q t, after (collectThings (vs.map .ofVar?) true) p = (.ok t, q) ∧
          (vs.length ≠ 1 ∧ t = .list (vs.map fun o => .ofVar? (o.map of)) ∨ ∃ o, vs = [o] ∧ t = .ofVar? (o.map of)) ∧
          Gathers vs once ∧ Collected p previous once of q) ∧
      ∀ v, some v ∈ vs → v < p.vars.size → (∀ hint, (p.get v).hint ≠ .text hint) →
        ∃ e q, after (collectThings (vs.map .ofVar?) true) p = (.error e, q) ∧ e.kind = .badType ∧
          q.statements = p.statements ∧ q.blocks = p.blocks ∧ q.closed = p.closed) ∧
    (∀ previous v, p.AfterBlock previous → some v ∈ vs → v ∉ p.closed →
      ∃ e, after (collectThings (vs.map .ofVar?) true) p = (.error e, p) ∧ e.kind = .badValue) ∧
    ((∀ previous, ¬ p.AfterBlock previous) →
      ∃ e, after (collectThings (vs.map .ofVar?) true) p = (.error e, p) ∧ e.kind = .missingName) := by
  have hfails : ∀ {e q}, after (collect (vs.map .ofVar?) true) p = (.error e, q) →
      after (collectThings (vs.map .ofVar?) true) p = (.error e, q) := by
    intro e q h
    unfold collectThings
    rw [after_bind, h]
  refine ⟨fun previous hblock hclosed => ⟨fun hhint => ?_, fun v h hv hhint => ?_⟩, fun previous v hblock h hv => ?_, fun h => ?_⟩
  · obtain ⟨once, of, q, hq, hg, hcollected⟩ := after_collect hopen hblock hclosed hhint
    refine ⟨once, of, q, .handOver (vs.map fun o => .ofVar? (o.map of)), ?_, ?_, hg, hcollected⟩
    · unfold collectThings
      rw [after_bind, hq]
      dsimp only
      rw [List.map_map]
      rfl
    · match vs with
      | [o] => exact .inr ⟨o, rfl, rfl⟩
      | [] | _ :: _ :: _ => exact .inl ⟨by simp, rfl⟩
  · obtain ⟨e, q, hq, hrest⟩ := after_collect_notNamed hopen hblock hclosed h hv hhint
    exact ⟨e, q, hfails hq, hrest⟩
  · obtain ⟨e, he, hkind⟩ := after_collect_notClosed hopen hblock h hv
    exact ⟨e, hfails he, hkind⟩
  · obtain ⟨e, he, hkind⟩ := after_collect_notAfter hopen h
    exact ⟨e, hfails he, hkind⟩

def isText : Value → Bool
  | .text _ => true
  | _ => false

lemma exists_text {v : Value} (h : isText v = true) : ∃ s, v = .text s := by
  unfold isText at h
  split at h
  · exact ⟨_, rfl⟩
  · cases h

/-- A program after going through two lists side by side; the members were variables 3 and 4. -/
def pairedLists : Program :=
  (after (do
    let runs ← newData (.plain (.list [.int 1, .int 2])) (.text "runs")
    let nights ← newData (.plain (.list [.int 5, .int 6])) (.text "nights")
    openBlock [.var runs, .var nights] false false) (Program.start Registry.empty (.text "ignore"))).2.close
    { inputs := [.var 1, .var 2], members := [3, 4] }

theorem collect_aligned_pairs : ∃ once of q,
    after (collectThings ([some 4, none, some 3, some 4].map .ofVar?) true) pairedLists =
      (.ok (.list ([some 4, none, some 3, some 4].map fun o => .ofVar? (o.map of))), q) ∧
    Gathers [some 4, none, some 3, some 4] once ∧ Collected pairedLists pairedLists.visible once of q := by
  have hmem : ∀ v, some v ∈ [some 4, none, some 3, some 4] → v = 3 ∨ v = 4 := by
    intro v hv
    simp only [List.mem_cons, Option.some.injEq, reduceCtorEq, List.not_mem_nil, or_false, false_or] at hv
    omega
  obtain ⟨once, of, q, t, hq, ⟨-, rfl⟩ | ⟨o, ho, -⟩, hrest⟩ :=
    ((collect_aligned pairedLists (by decide +kernel) [some 4, none, some 3, some 4]).1 _
      (Program.afterBlock_close _ _) fun v hv => by rcases hmem v hv with rfl | rfl <;> decide +kernel).1
      fun v hv => by rcases hmem v hv with rfl | rfl <;> exact exists_text (by decide +kernel)
  · exact ⟨once, of, q, hq, hrest⟩
  · cases ho

end Write

end SurveyGraph
