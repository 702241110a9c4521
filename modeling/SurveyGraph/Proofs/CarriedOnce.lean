import Mathlib.Data.List.Nodup
import SurveyGraph.Proofs.WriteScripts
/-!
# What is carried over is carried over once

When a block is closed, the variables of the blocks around it are carried over. Three kinds of statements can bring a
variable into reach a second time: records of collisions with a relation, paths, and statements in words of their own. If the
first kind does not occur and the others introduce variables of their own, nothing is carried over twice.

The invariant is `Tidy`: what is in reach has been introduced by a statement or is a collection, so that what a later
statement introduces is different from it.
-/
open Relation List

namespace SurveyGraph.Write
open SurveyGraph.Write.Statement

variable {o p q : Program} {s t : Statement} {v : VarId}

/-! ## What statements introduce -/

/-- All that the statements of a program introduce. -/
def Program.introduced (p : Program) : List VarId := p.statements.toList.flatMap (·.outputs)

/-- A variable that one statement introduces, once, and that is no collection. -/
def Program.IntroducedOnce (p : Program) (v : VarId) : Prop :=
  p.introduced.count v = 1 ∧ (p.get v).kind.isCollection = false

instance (p : Program) (v : VarId) : Decidable (p.IntroducedOnce v) := inferInstanceAs (Decidable (_ ∧ _))

/-- Whether a statement introduces variables that were there: those of a path, or of its own words. -/
def Statement.reuses (s : Statement) : Bool :=
  match s.form with
  | .matchBranch _ | .custom _ => true
  | _ => false

/-- Whether a statement records collisions at a relation. -/
def Statement.recordsRelation (s : Statement) : Bool :=
  match s.form with
  | .mergeRelation _ _ _ m => m.rule == .trackAndFlag
  | _ => false

lemma Statement.repeats_eq (s : Statement) : s.repeats = (s.reuses || s.recordsRelation) := by
  obtain ⟨_, _, _, form⟩ := s
  cases form <;> simp [repeats, reuses, recordsRelation]

/-- What a statement that closes a block carries over. -/
def Statement.carried? (s : Statement) : Option (List VarId) :=
  match s.form with
  | .collect previous => some previous
  | _ => none

lemma Statement.carried?_eq_some {previous : List VarId} : s.carried? = some previous ↔ s.form = .collect previous := by
  obtain ⟨_, _, _, form⟩ := s
  cases form <;> simp [carried?]

/-- What a statement introduces, in which way, and what it carries over. -/
def Statement.traits (s : Statement) : List VarId × Bool × Bool × Option (List VarId) :=
  (s.outputs, s.repeats, s.goesOn, s.carried?)

@[simp] lemma Statement.traits_tied (s : Statement) : s.tied.traits = s.traits := by
  obtain ⟨_, _, _, form⟩ := s
  cases form <;> rfl

/-- What repeats variables introduces each of them alone. -/
def Program.Unrepeated (p : Program) : Prop := ∀ s ∈ p.statements.toList, s.repeats → ∀ v ∈ s.outputs, p.IntroducedOnce v

/-! ## The invariant -/

/-- What holds of every program. -/
structure Tidy (p : Program) : Prop where
  known : ∀ v ∈ p.blocks.flatten, v ∈ p.introduced ∨ (p.get v).kind.isCollection
  old : ∀ s ∈ p.statements.toList, s.repeats = false → ∀ v ∈ s.outputs, v < p.vars.size
  collected : ∀ s ∈ p.statements.toList, s.goesOn = false → ∀ v ∈ s.outputs, (p.get v).kind.isCollection
  once : p.Unrepeated → p.blocks.flatten.Nodup ∧
    ∀ s ∈ p.statements.toList, ∀ previous, s.carried? = some previous → previous.Nodup

lemma Program.mem_introduced : v ∈ p.introduced ↔ ∃ s ∈ p.statements.toList, v ∈ s.outputs := mem_flatMap

lemma Program.lt_of_isCollection (h : (p.get v).kind.isCollection) : v < p.vars.size := by
  refine Nat.lt_of_not_le fun hle => ?_
  rw [Program.get_of_le hle] at h
  cases h

lemma Extends.isCollection (h : Extends p q) (hv : (p.get v).kind.isCollection) : (q.get v).kind.isCollection := by
  rw [h.get v (Program.lt_of_isCollection hv)]
  exact hv

/-- What is in reach is no new variable, unless a statement that repeats introduced it. -/
lemma Tidy.lt_or_repeats (h : Tidy p) (hv : v ∈ p.blocks.flatten) :
    v < p.vars.size ∨ ∃ s ∈ p.statements.toList, s.repeats ∧ v ∈ s.outputs := by
  rcases h.known v hv with hmem | hcoll
  · obtain ⟨s, hs, hvs⟩ := Program.mem_introduced.mp hmem
    cases hrep : s.repeats with
    | true => exact .inr ⟨s, hs, hrep, hvs⟩
    | false => exact .inl (h.old s hs hrep v hvs)
  · exact .inl (Program.lt_of_isCollection hcoll)

/-! ## One statement more, or another one last -/

/-- The statements were `ss` and `dropped`, which introduced only collections. Now they are `ss` and `s`,
which introduces new variables or repeats some; what is in reach is what was, and what `s` introduces, or
less. -/
structure Replaces (p q : Program) (ss dropped : List Statement) (s : Statement) : Prop where
  old : Extends p q
  before : p.statements.toList = ss ++ dropped
  now : q.statements.toList = ss ++ [s]
  ended : ∀ t ∈ dropped, t.goesOn = false
  news : News p q s.outputs ∨ s.repeats
  collections : s.goesOn = false → ∀ v ∈ s.outputs, (q.get v).kind.isCollection
  reach : q.blocks.flatten.Subperm (p.blocks.flatten ++ s.outputs)
  carried : ∀ previous, s.carried? = some previous →
    previous.Subperm p.blocks.flatten ∨ ∃ t ∈ dropped, t.carried? = some previous

lemma Statement.repeats_of_goesOn (h : s.goesOn = false) : s.repeats = false := by
  obtain ⟨_, _, _, form⟩ := s
  cases form <;> first | rfl | cases h

lemma count_of_append {l l' : List VarId} (hv : v ∈ l) (h : (l ++ l').count v = 1) : l.count v = 1 ∧ v ∉ l' := by
  have hpos : 0 < l.count v := count_pos_iff.mpr hv
  rw [count_append] at h
  exact ⟨by omega, count_eq_zero.mp (by omega)⟩

lemma Program.introduced_append {ss ts : List Statement} (h : p.statements.toList = ss ++ ts) :
    p.introduced = ss.flatMap (·.outputs) ++ ts.flatMap (·.outputs) := by
  rw [Program.introduced, h, flatMap_append]

namespace Replaces

variable {ss dropped : List Statement} (h : Replaces p q ss dropped s) (hp : Tidy p)

include h in
lemma mem_before (ht : t ∈ ss ∨ t ∈ dropped) : t ∈ p.statements.toList := by
  rw [h.before]
  exact mem_append.mpr ht

include h in
lemma mem_now : t ∈ q.statements.toList ↔ t ∈ ss ∨ t = s := by
  rw [h.now, mem_append, mem_singleton]

include h in
lemma introduced_now : q.introduced = ss.flatMap (·.outputs) ++ s.outputs := by
  rw [Program.introduced_append h.now, flatMap_singleton]

include h in
lemma mem_of_repeats (ht : t ∈ p.statements.toList) (hrep : t.repeats) : t ∈ ss := by
  rw [h.before] at ht
  rcases mem_append.mp ht with ht | ht
  · exact ht
  · rw [repeats_of_goesOn (h.ended t ht)] at hrep
    cases hrep

include h hp in
lemma introduced_before (hv : v ∈ p.introduced) : v ∈ ss.flatMap (·.outputs) ∨ (p.get v).kind.isCollection := by
  rw [Program.introduced_append h.before] at hv
  rcases mem_append.mp hv with hv | hv
  · exact .inl hv
  · obtain ⟨t, ht, hvt⟩ := mem_flatMap.mp hv
    exact .inr (hp.collected t (h.mem_before (.inr ht)) (h.ended t ht) v hvt)

include h hp in
lemma reached_before (hv : v ∈ p.blocks.flatten) : v ∈ ss.flatMap (·.outputs) ∨ (p.get v).kind.isCollection := by
  rcases hp.known v hv with hv | hv
  · exact h.introduced_before hp hv
  · exact .inr hv

include h in
lemma not_collection (hone : q.IntroducedOnce v) : (p.get v).kind.isCollection = false := by
  by_contra hc
  rw [Bool.not_eq_false] at hc
  exact absurd hone.2 (by simp [h.old.isCollection hc])

include h hp in
lemma unrepeated (hun : q.Unrepeated) : p.Unrepeated := by
  intro t ht hrep v hv
  have hss : t ∈ ss := h.mem_of_repeats ht hrep
  have hone : q.IntroducedOnce v := hun t (h.mem_now.mpr (.inl hss)) hrep v hv
  have hkind := h.not_collection hone
  refine ⟨?_, hkind⟩
  have hmem : v ∈ ss.flatMap (·.outputs) := mem_flatMap.mpr ⟨t, hss, hv⟩
  have hcount : (ss.flatMap (·.outputs)).count v = 1 := by
    have hcount := hone.1
    rw [h.introduced_now] at hcount
    exact (count_of_append hmem hcount).1
  have hnot : v ∉ dropped.flatMap (·.outputs) := fun hd => by
    obtain ⟨t', ht', hv'⟩ := mem_flatMap.mp hd
    rw [hp.collected t' (h.mem_before (.inr ht')) (h.ended t' ht') v hv'] at hkind
    cases hkind
  rw [Program.introduced_append h.before, count_append, count_eq_zero.mpr hnot, hcount]

include h in
lemma notMem_of_early (hone : q.IntroducedOnce v) (hv : v ∈ ss.flatMap (·.outputs)) : v ∉ s.outputs := by
  have hcount := hone.1
  rw [h.introduced_now] at hcount
  exact (count_of_append hv hcount).2

include h hp in
/-- The last statement introduces nothing that was in reach. -/
lemma notMem_outputs (hun : q.Unrepeated) (hv : v ∈ p.blocks.flatten) : v ∉ s.outputs := by
  intro hvs
  rcases h.news with hnews | hrep
  · rcases hp.lt_or_repeats hv with hlt | ⟨t, ht, hrep, hvt⟩
    · exact absurd hlt (Nat.not_lt.mpr (hnews.fresh v hvs).le)
    · have hss : t ∈ ss := h.mem_of_repeats ht hrep
      have hone := hun t (h.mem_now.mpr (.inl hss)) hrep v hvt
      exact h.notMem_of_early hone (mem_flatMap.mpr ⟨t, hss, hvt⟩) hvs
  · have hone := hun s (h.mem_now.mpr (.inr rfl)) hrep v hvs
    rcases h.reached_before hp hv with hv | hv
    · exact h.notMem_of_early hone hv hvs
    · rw [h.not_collection hone] at hv
      cases hv

include h in
lemma nodup_outputs (hun : q.Unrepeated) : s.outputs.Nodup := by
  rcases h.news with hnews | hrep
  · exact hnews.nodup
  · refine nodup_iff_count_le_one.mpr fun v => ?_
    by_cases hv : v ∈ s.outputs
    · have hcount := (hun s (h.mem_now.mpr (.inr rfl)) hrep v hv).1
      rw [h.introduced_now, count_append] at hcount
      omega
    · simp [count_eq_zero.mpr hv]

include h hp in
lemma tidy : Tidy q where
  known v hv := by
    rcases mem_append.mp (h.reach.subset hv) with hv | hv
    · rcases h.reached_before hp hv with hv | hv
      · rw [h.introduced_now]
        exact .inl (mem_append_left _ hv)
      · exact .inr (h.old.isCollection hv)
    · rw [h.introduced_now]
      exact .inl (mem_append_right _ hv)
  old t ht hrep v hv := by
    rcases h.mem_now.mp ht with ht | rfl
    · exact (hp.old t (h.mem_before (.inl ht)) hrep v hv).trans_le h.old.size
    · rcases h.news with hnews | hrep'
      · exact (hnews.fresh v hv).lt
      · rw [hrep] at hrep'
        cases hrep'
  collected t ht hgoes v hv := by
    rcases h.mem_now.mp ht with ht | rfl
    · exact h.old.isCollection (hp.collected t (h.mem_before (.inl ht)) hgoes v hv)
    · exact h.collections hgoes v hv
  once hun := by
    obtain ⟨hreach, hcarried⟩ := hp.once (h.unrepeated hp hun)
    refine ⟨?_, fun t ht previous hprev => ?_⟩
    · refine nodup_of_subperm (nodup_append.mpr ⟨hreach, h.nodup_outputs hun, ?_⟩) h.reach
      rintro v hv w hw rfl
      exact h.notMem_outputs hp hun hv hw
    · rcases h.mem_now.mp ht with ht | rfl
      · exact hcarried t (h.mem_before (.inl ht)) previous hprev
      · rcases h.carried previous hprev with hsub | ⟨t', ht', hprev'⟩
        · exact nodup_of_subperm hreach hsub
        · exact hcarried t' (h.mem_before (.inr ht')) previous hprev'

end Replaces

lemma Program.flatten_extend (vs : List VarId) : (o.extend vs).blocks.flatten.Perm (o.blocks.flatten ++ vs) := by
  cases h : o.blocks with
  | nil => simp [Program.extend, h]
  | cons b bs =>
    simp only [Program.extend, h, flatten_cons, append_assoc]
    exact Perm.append_left b perm_append_comm

lemma tidy_start (reg : Registry) (rule : Value) : Tidy (.start reg rule) where
  known v hv := .inl hv
  old s hs _ v hv := by
    obtain rfl := mem_singleton.mp hs
    obtain rfl := mem_singleton.mp hv
    exact Nat.zero_lt_one
  collected s hs hgoes := by
    obtain rfl := mem_singleton.mp hs
    cases hgoes
  once _ := by
    refine ⟨by simp [Program.start], fun s hs previous hprev => ?_⟩
    obtain rfl := mem_singleton.mp hs
    cases hprev

lemma Tidy.congr (h : Tidy p) (hsize : p.vars.size ≤ q.vars.size)
    (hkind : ∀ v < p.vars.size, (q.get v).kind = (p.get v).kind) (hblocks : q.blocks.flatten = p.blocks.flatten)
    (htraits : q.statements.toList.map traits = p.statements.toList.map traits) : Tidy q := by
  have hintroduced : q.introduced = p.introduced := by
    have houtputs := congrArg (List.flatMap Prod.fst) htraits
    rw [flatMap_map, flatMap_map] at houtputs
    exact houtputs
  have hcoll {v : VarId} (hv : (p.get v).kind.isCollection) : (q.get v).kind.isCollection := by
    rw [hkind v (Program.lt_of_isCollection hv)]
    exact hv
  have hmem {t : Statement} (ht : t ∈ q.statements.toList) : ∃ s ∈ p.statements.toList, s.traits = t.traits :=
    mem_map.mp (htraits ▸ mem_map_of_mem ht)
  have hmem' {s : Statement} (hs : s ∈ p.statements.toList) : ∃ t ∈ q.statements.toList, t.traits = s.traits :=
    mem_map.mp (htraits.symm ▸ mem_map_of_mem hs)
  refine ⟨fun v hv => ?_, fun t ht hrep v hv => ?_, fun t ht hgoes v hv => ?_, fun hun => ?_⟩
  · rw [hblocks] at hv
    rw [hintroduced]
    exact (h.known v hv).imp_right hcoll
  · obtain ⟨s, hs, heq⟩ := hmem ht
    simp only [traits, Prod.mk.injEq] at heq
    rw [← heq.1] at hv
    exact (h.old s hs (heq.2.1.trans hrep) v hv).trans_le hsize
  · obtain ⟨s, hs, heq⟩ := hmem ht
    simp only [traits, Prod.mk.injEq] at heq
    rw [← heq.1] at hv
    exact hcoll (h.collected s hs (heq.2.2.1.trans hgoes) v hv)
  · have hbefore : p.Unrepeated := fun s hs hrep v hv => by
      obtain ⟨t, ht, heq⟩ := hmem' hs
      simp only [traits, Prod.mk.injEq] at heq
      rw [← heq.1] at hv
      obtain ⟨hcount, hplain⟩ := hun t ht (heq.2.1.trans hrep) v hv
      refine ⟨hintroduced ▸ hcount, ?_⟩
      by_contra hc
      rw [hcoll (by simpa using hc)] at hplain
      cases hplain
    refine ⟨hblocks ▸ (h.once hbefore).1, fun t ht previous hprev => ?_⟩
    obtain ⟨s, hs, heq⟩ := hmem ht
    simp only [traits, Prod.mk.injEq] at heq
    exact (h.once hbefore).2 s hs previous (heq.2.2.2.trans hprev)

/-! ## Every step -/

lemma Program.flatten_close (b : Block) : (p.close b).blocks.flatten.Sublist p.blocks.flatten := by
  have hfilter (f : VarId → Bool) : ((p.blocks.drop 1).map (·.filter f)).flatten.Sublist (p.blocks.drop 1).flatten := by
    rw [← filter_flatten]
    exact filter_sublist
  refine (hfilter _).trans ?_
  cases p.blocks with
  | nil => exact .refl _
  | cons b bs => exact sublist_append_right b bs.flatten

section Tidy

variable (h : Tidy p)

include h

lemma Tidy.statement (hpo : ReflTransGen (Quiet Any) p o) (hgoes : s.goesOn) (hout : News p o s.outputs ∨ s.repeats) :
    Tidy (o.withStatement s) := by
  have hr : Replaces p (o.withStatement s) p.statements.toList [] s := {
    old := (extends_of_quiet hpo).trans (extends_withStatement s)
    before := by simp
    now := by simp [Program.withStatement, quiet_statements hpo]
    ended := by simp
    news := hout.imp_left fun h => h.extends (extends_withStatement s)
    collections := fun h => by rw [hgoes] at h; cases h
    reach := by rw [← quiet_blocks hpo]; exact (Program.flatten_extend s.outputs).subperm
    carried := fun previous hp => absurd (carried?_eq_some.mp hp) (ne_collect hgoes previous) }
  exact hr.tidy h

lemma Tidy.close (b : Block) : Tidy (p.close b) := by
  have hext : Extends p (p.close b) := .same rfl rfl
  have hr : Replaces p (p.close b) p.statements.toList []
      { inputs := [], outputs := [], form := .collect (p.close b).blocks.reverse.flatten } := {
    old := hext
    before := by simp
    now := by simp [Program.close]
    ended := by simp
    news := .inl (.nil hext)
    collections := by simp
    reach := by simpa using (Program.flatten_close b).subperm
    carried := fun previous hp => by
      cases hp
      exact .inl ((reverse_perm _).flatten.subperm.trans (Program.flatten_close b).subperm) }
  exact hr.tidy h

lemma Tidy.collect {last : Statement} {previous outputs : List VarId} (inputs : List Thing)
    (hpo : ReflTransGen (Quiet Any) p o) (hlast : p.statements.back? = some last) (hform : last.form = .collect previous)
    (hnews : News p o outputs) (hkind : ∀ v ∈ outputs, (o.get v).kind.isCollection) :
    Tidy (o.withLast { inputs, outputs, form := .collect previous }) := by
  have hnews' : News p (o.withLast { inputs, outputs, form := .collect previous }) outputs :=
    hnews.extends (.same rfl rfl)
  have hr : Replaces p (o.withLast { inputs, outputs, form := .collect previous }) p.statements.pop.toList [last]
      { inputs, outputs, form := .collect previous } := {
    old := hnews'.old
    before := toList_of_back? hlast
    now := by simp [Program.withLast, quiet_statements hpo]
    ended := by simp [goesOn, hform]
    news := .inl hnews'
    collections := fun _ => hkind
    reach := by rw [← quiet_blocks hpo]; exact (Program.flatten_extend outputs).subperm
    carried := fun previous' hp => by
      cases hp
      exact .inr ⟨last, by simp, carried?_eq_some.mpr hform⟩ }
  exact hr.tidy h

lemma Tidy.returns {ss dropped : List Statement} (hp : p.statements.toList = ss ++ dropped)
    (hdropped : ∀ t ∈ dropped, t.goesOn = false) {statements : Array Statement} {unnamed : List Thing}
    {named : List (String × Thing)} (hq : statements.toList = ss ++ [.returns unnamed named]) :
    Tidy { p with statements } := by
  have hext : Extends p { p with statements } := .same rfl rfl
  have hr : Replaces p { p with statements } ss dropped (.returns unnamed named) := {
    old := hext
    before := hp
    now := hq
    ended := hdropped
    news := .inl (.nil hext)
    collections := by simp [Statement.returns]
    reach := by simpa [Statement.returns] using List.Subperm.refl _
    carried := by simp [Statement.returns, Statement.carried?] }
  exact hr.tidy h

lemma Tidy.grows (hpq : Grows p q) : Tidy q := by
  cases hpq with
  | moves hm =>
    cases hm with
    | quiet hq =>
      have hext := hq.extends
      cases hq with
      | name x | data hv hk => exact h.congr hext.size (fun v hv => by rw [hext.get v hv]) rfl rfl
    | statement s hpo hin hout hgoes => exact h.statement hpo hgoes (hout.imp_right And.left)
  | custom s format hpo hform =>
    exact h.statement hpo (by simp [goesOn, hform]) (.inr (by simp [repeats, hform]))
  | nest => exact h.congr le_rfl (fun _ _ => rfl) rfl rfl
  | close b => exact h.close b
  | collect inputs outputs hpo hlast hform hnews hkind => exact h.collect inputs hpo hlast hform hnews hkind

lemma Tidy.step (hpq : Happens p q) : Tidy q := by
  cases hpq with
  | grows hpq => exact h.grows hpq
  | returns unnamed named => exact h.returns (append_nil _).symm (by simp) Array.toList_push
  | returnsInstead unnamed named hlast hreturns =>
    refine h.returns (toList_of_back? hlast) ?_ Array.toList_push
    intro t ht
    obtain rfl := mem_singleton.mp ht
    unfold isReturns at hreturns
    split at hreturns
    · simp [goesOn, *]
    · cases hreturns
  | written f g =>
    exact h.congr (by simp [Program.written]) (fun v _ => Program.written_kind v) rfl
      (Program.written_map traits_tied)
  | aside => exact h.congr le_rfl (fun _ _ => rfl) rfl rfl

lemma tidy_of_happens (hpq : ReflTransGen Happens p q) : Tidy q := by
  induction hpq with
  | refl => exact h
  | tail _ hstep ih => exact ih.step hstep

end Tidy

/-- If no statement records collisions with a relation, and those that may introduce what was there introduce
each variable alone, no closed block carries a variable over twice. -/
theorem carried_nodup (reg : Registry) (rule : Value) (steps : List Term)
    (hrelations : ∀ s ∈ (WriteScript.program reg rule steps).statements.toList, s.recordsRelation = false)
    (hreuses : ∀ s ∈ (WriteScript.program reg rule steps).statements.toList, s.reuses →
      ∀ v ∈ s.outputs, (WriteScript.program reg rule steps).IntroducedOnce v) :
    ∀ s ∈ (WriteScript.program reg rule steps).statements.toList, ∀ previous, s.form = .collect previous → previous.Nodup := by
  have htidy := tidy_of_happens (tidy_start reg rule) (WriteScript.program_course reg rule steps)
  have hun : (WriteScript.program reg rule steps).Unrepeated := fun s hs hrep => by
    rw [Statement.repeats_eq, hrelations s hs, Bool.or_false] at hrep
    exact hreuses s hs hrep
  intro s hs previous hform
  exact (htidy.once hun).2 s hs previous (Statement.carried?_eq_some.mpr hform)

/-- Two nodes and their relation are merged and two nodes on a path are looked up; then a block merges a node
for each member of a list, and collects them. -/
def relatedThenBlock (rule : String) : List Term :=
  let text (s : String) : Term := .value (.text s)
  let node (name label : String) (id : Term) : Term :=
    .record [("do", text "merge-node"), ("as", text name), ("labels", .list [text label]), ("ident", .record [("id", id)]),
      ("properties", .record []), ("collision_manager", text rule)]
  [node "a" "A" (.value (.int 1)), node "b" "B" (.value (.int 2)),
    .record [("do", text "merge-relationship"), ("parent", .var "a"), ("child", .var "b"), ("type", text "knows"),
      ("ident", .record []), ("properties", .record []), ("collision_manager", text rule)],
    .record [("do", text "match-branch-node"), ("path", .list [text "M", text "N"])],
    .record [("do", text "data"), ("as", text "ids"), ("value", .list [.value (.int 1)])],
    .record [("do", text "unwind"), ("args", .list [.var "ids"]), ("as", text "id"), ("body", .list [node "c" "C" (.var "id")])],
    .record [("do", text "collect"), ("args", .list [.var "c"]), ("as", text "cs")]]

/-- The program of these steps under a rule for collisions. -/
def blockProgram (rule : String) : Program := WriteScript.program default (.text rule) (relatedThenBlock rule)

/-- If collisions are ignored, ten variables are carried over the block, each once. -/
theorem carried_nodup_ignoring :
    ((blockProgram "ignore").statements.toList.filterMap Statement.carried?).map List.length = [10] ∧
    (∀ s ∈ (blockProgram "ignore").statements.toList, s.recordsRelation = false) ∧
    (∀ s ∈ (blockProgram "ignore").statements.toList, s.reuses → ∀ v ∈ s.outputs, (blockProgram "ignore").IntroducedOnce v) ∧
    ∀ s ∈ (blockProgram "ignore").statements.toList, ∀ previous, s.form = .collect previous → previous.Nodup := by
  have hrelations : ∀ s ∈ (blockProgram "ignore").statements.toList, s.recordsRelation = false := by decide +kernel
  have hreuses : ∀ s ∈ (blockProgram "ignore").statements.toList, s.reuses →
      ∀ v ∈ s.outputs, (blockProgram "ignore").IntroducedOnce v := by decide +kernel
  refine ⟨by decide +kernel, hrelations, hreuses, ?_⟩
  unfold blockProgram at *
  exact carried_nodup default (.text "ignore") (relatedThenBlock "ignore") hrelations hreuses

/-- If collisions with a relation are recorded, a later block carries a variable over twice. -/
theorem exists_carried_twice : ∃ (reg : Registry) (rule : Value) (steps : List Term),
    ∃ s ∈ (WriteScript.program reg rule steps).statements.toList, ∃ previous,
      s.form = .collect previous ∧ ¬ previous.Nodup := by
  refine ⟨default, .text "track&flag", relatedThenBlock "track&flag", ?_⟩
  have htwice : ∃ previous ∈ (blockProgram "track&flag").statements.toList.filterMap Statement.carried?, ¬ previous.Nodup := by
    decide +kernel
  obtain ⟨previous, hmem, hdup⟩ := htwice
  obtain ⟨s, hs, hprev⟩ := List.mem_filterMap.mp hmem
  unfold blockProgram at hs
  exact ⟨s, hs, previous, Statement.carried?_eq_some.mp hprev, hdup⟩

end SurveyGraph.Write
