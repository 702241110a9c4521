import Mathlib.Logic.Function.Iterate
import SurveyGraph.Proofs.Schemas
import SurveyGraph.Proofs.SearchFinds
/-!
# Relations that wait

A relation may name a class that is declared later. Once a relation to a known class is made, a loop takes one waiting
relation after the other and resolves it; one whose class is not known is put back, and is taken next. So the loop ends
exactly if all classes waited for have been declared (`drains_iff`). Otherwise a declaration with a relation to a known class
does not end (`declare_waits`), even where some of those classes are there (`exists_declaration_endless`).
-/
open Relation List

namespace SurveyGraph

namespace Registry

variable {reg reg' : Registry} {c : ClassId}

/-! ## The loop over what waits -/

/-- One round: the name on top is taken off and, if it is no class, put back. -/
def drainStep (reg : Registry) : List String → List String
  | [] => []
  | s :: names => if (reg.find? s).isSome then names else s :: names

/-- The loop ends exactly if there is a class of every name. -/
lemma drains_iff {names : List String} : (∃ n, (reg.drainStep)^[n] names = []) ↔ ∀ s ∈ names, (reg.find? s).isSome := by
  constructor
  · rintro ⟨n, hn⟩
    induction n generalizing names with
    | zero =>
      obtain rfl : names = [] := hn
      exact fun s hs => by cases hs
    | succ n ih =>
      have hrest := ih hn
      cases names with
      | nil => exact fun s hs => by cases hs
      | cons s names =>
        by_cases hs : (reg.find? s).isSome
        · rw [drainStep, if_pos hs] at hrest
          exact forall_mem_cons.mpr ⟨hs, hrest⟩
        · rw [drainStep, if_neg hs] at hrest
          exact hrest
  · intro hall
    induction names with
    | nil => exact ⟨0, rfl⟩
    | cons s names ih =>
      obtain ⟨hs, hrest⟩ := forall_mem_cons.mp hall
      obtain ⟨n, hn⟩ := ih hrest
      refine ⟨n + 1, ?_⟩
      simpa [drainStep, hs] using hn

/-- Some relation waits for a class that has not been declared. -/
def Stuck (reg : Registry) : Prop := ∃ s ∈ reg.pending, reg.find? s = none

lemma not_stuck : ¬reg.Stuck ↔ ∀ s ∈ reg.pending, (reg.find? s).isSome := by
  simp [Stuck, Option.isSome_iff_ne_none]

lemma settle_of_stuck (h : reg.Stuck) : reg.settle = endless := by
  obtain ⟨s, hs, hnone⟩ := h
  unfold settle
  rw [if_neg, if_neg]
  · rfl
  · intro hall
    have hfound := all_eq_true.mp hall s hs
    rw [hnone] at hfound
    cases hfound
  · intro hempty
    rw [List.isEmpty_iff.mp hempty] at hs
    cases hs

/-- Waiting relations have become relations to the classes that they name. -/
def Resolved (reg reg' : Registry) : Prop :=
  ∀ k, ∀ side ∈ [Class.parents, Class.children], ∀ r s, .rel r ∈ side (reg.get k) → r.target = .awaiting s →
    ∃ c, reg.find? s = some c ∧ .rel { r with target := .cls c } ∈ side (reg'.get k)

lemma pending_resolved (h : ∀ s ∈ reg.pending, (reg.find? s).isSome) :
    ({ reg with orphans := [], classes := reg.classes.map reg.resolveClass } : Registry).pending = [] := by
  unfold pending
  simp only [Array.toList_map, nil_append, flatMap_map]
  refine flatMap_eq_nil_iff.mpr fun k hk => ?_
  have hfound : ∀ s ∈ awaited k.children ++ awaited k.parents, (reg.find? s).isSome :=
    fun s hs => h s (mem_append_right _ (mem_flatMap.mpr ⟨k, hk, hs⟩))
  refine append_eq_nil_iff.mpr ⟨?_, ?_⟩
  · exact awaited_map_resolveMember fun s hs => hfound s (mem_append_left _ hs)
  · exact awaited_map_resolveMember fun s hs => hfound s (mem_append_right _ hs)

lemma exists_of_awaited {ms : List Member} {s : String} (h : s ∈ awaited ms) : ∃ r, .rel r ∈ ms ∧ r.target = .awaiting s := by
  obtain ⟨m, hm, hs⟩ := mem_filterMap.mp h
  split at hs
  · cases hs
    exact ⟨_, hm, rfl⟩
  · cases hs

lemma mem_waiting {k : ClassId} {side : Class → List Member} (hside : side ∈ [Class.parents, Class.children]) {r : Relation}
    {s : String} (hr : .rel r ∈ side (reg.get k)) (hs : r.target = .awaiting s) : s ∈ reg.waiting k := by
  have hawaited : s ∈ awaited (side (reg.get k)) := by
    obtain ⟨_, target⟩ := r
    cases hs
    exact mem_filterMap.mpr ⟨_, hr, rfl⟩
  simp only [mem_cons, not_mem_nil, or_false] at hside
  rcases hside with rfl | rfl
  · exact mem_append_left _ hawaited
  · exact mem_append_right _ hawaited

/-- If all classes waited for are declared, nothing waits once relations have been resolved. -/
lemma settle_of_known (h : ∀ s ∈ reg.pending, (reg.find? s).isSome) :
    ∃ reg', reg.settle = .ok reg' ∧ reg'.pending = [] ∧ reg.Resolved reg' := by
  by_cases hempty : reg.pending = []
  · refine ⟨reg, ?_, hempty, fun k side hside r s hr hs => ?_⟩
    · unfold settle
      rw [hempty]
      rfl
    · have hpending := waiting_subset_pending k s (mem_waiting hside hr hs)
      rw [hempty] at hpending
      cases hpending
  · refine ⟨_, ?_, pending_resolved h, fun k side hside r s hr hs => ?_⟩
    · unfold settle
      rw [if_neg (by simpa using hempty), if_pos (all_eq_true.mpr h)]
    · obtain ⟨c, hc⟩ := Option.isSome_iff_exists.mp (h s (waiting_subset_pending k s (mem_waiting hside hr hs)))
      have hresolved : reg.resolveMember (.rel r) = .rel { r with target := .cls c } := by
        simp [resolveMember, resolveRelation, hs, hc]
      refine ⟨c, hc, ?_⟩
      rw [get_resolved, ← hresolved]
      simp only [mem_cons, not_mem_nil, or_false] at hside
      rcases hside with rfl | rfl
      · exact mem_map_of_mem hr
      · exact mem_map_of_mem hr

/-! ## Actions that wait for a class -/

variable {α β : Type} {m : SchemaM α} {f : α → SchemaM β}

/-- If an action does not end, a relation waits for an undeclared class. -/
def Blames (reg : Registry) (m : SchemaM α) : Prop :=
  ∀ e, (after m reg).1 = .error e → e.kind = .tooDeep → (after m reg).2.Stuck

namespace Blames

lemma bind (hm : Blames reg m) (hf : ∀ a t, after m reg = (.ok a, t) → Blames t (f a)) : Blames reg (m >>= f) := by
  unfold Blames
  rw [after_bind]
  cases hx : after m reg with
  | mk x t =>
    cases x with
    | ok a => exact hf a t hx
    | error e =>
      intro e' he' hkind
      cases he'
      have hstuck := hm e (by rw [hx]) hkind
      rw [hx] at hstuck
      exact hstuck

lemma pure (a : α) : Blames reg (pure a) := nofun

lemma get_bind {f : Registry → SchemaM α} (h : Blames reg (f reg)) : Blames reg (MonadState.get >>= f) := h

lemma lift_bind {x : Except Fault α} (hx : Halts x) (hf : ∀ a, x = .ok a → Blames reg (f a)) :
    Blames reg (liftM x >>= f) := by
  cases x with
  | ok a => exact hf a rfl
  | error e =>
    intro e' he' hkind
    cases he'
    exact absurd hkind hx

lemma refuse {ε : Type} [Cause ε] {e : ε} (he : (Cause.toFault e).kind ≠ .tooDeep) :
    Blames reg (SurveyGraph.refuse e : SchemaM α) := by
  intro e' he' hkind
  cases he'
  exact absurd hkind he

lemma mapM {g : α → SchemaM β} (hg : ∀ a t, Blames t (g a)) : ∀ {l : List α} {reg : Registry}, Blames reg (l.mapM g)
  | [], _ => by
    exact pure []
  | a :: l, reg => by
    rw [mapM_cons]
    exact (hg a reg).bind fun b t _ => (mapM hg).bind fun bs u _ => pure (b :: bs)

lemma settleRegistry : Blames reg settleRegistry := by
  unfold Blames
  rw [show after SurveyGraph.settleRegistry reg = _ from Write.run_settleRegistry reg]
  by_cases hstuck : reg.Stuck
  · rw [settle_of_stuck hstuck]
    exact fun _ _ _ => hstuck
  · obtain ⟨reg', hsettle, _⟩ := settle_of_known (not_stuck.mp hstuck)
    rw [hsettle]
    exact nofun

end Blames

end Registry

/-! ## Declarations -/

namespace Declaration

open Registry (Blames Settles Stuck)

variable {reg : Registry} {self : ClassId}

lemma toInt_halts (v : Value) : Halts v.toInt := by
  unfold Value.toInt
  split
  · trivial
  · trivial
  · trivial
  · trivial
  · split
    · trivial
    · split <;> exact nofun
  · split
    · trivial
    · split <;> exact nofun
  · split
    · trivial
    · exact nofun
  · split
    · trivial
    · exact nofun
  · split
    · trivial
    · trivial
    · split
      · trivial
      · exact nofun
    · exact nofun
  · exact nofun

lemma relationOf_halts (reg : Registry) (d : RelationDecl) : Halts (relationOf reg d) := by
  have hcount : ∀ v, Halts (count? v) := by
    intro v
    have hsome : Halts (v.toInt.map some) := by
      have hint := toInt_halts v
      cases hv : v.toInt with
      | ok n => trivial
      | error e =>
        rw [hv] at hint
        exact hint
    unfold count?
    split
    · trivial
    · exact hsome
  have htarget : Halts (targetOf reg d.node) := by
    unfold targetOf
    split
    · split <;> trivial
    · intro hkind
      cases hkind
  have hbounds : Halts (boundsOf d) := by
    unfold boundsOf
    split
    · exact (hcount _).bind fun _ _ _ => (hcount _).bind fun _ _ _ => trivial
    · trivial
    · trivial
  exact htarget.bind fun _ _ _ => hbounds.bind fun _ _ _ => trivial

lemma blames_makeMember (d : MemberDecl) : Blames reg (makeMember d) := by
  cases d with
  | name s =>
    refine Blames.get_bind ?_
    split
    · exact Blames.pure _
    · exact Blames.pure _
  | rel d =>
    refine Blames.bind ?_ fun r t _ => Blames.pure _
    refine Blames.get_bind (Blames.lift_bind (relationOf_halts reg d) fun r _ => ?_)
    split
    · exact Blames.settleRegistry.bind fun _ _ _ => Blames.pure _
    · exact Blames.pure _

lemma blames_makeMembers (ds : Option (List MemberDecl)) : Blames reg (ds.mapM (·.mapM makeMember)) := by
  cases ds with
  | none => exact Blames.pure _
  | some ds => exact Blames.bind (Blames.mapM fun d _ => blames_makeMember d) fun _ _ _ => Blames.pure _

lemma blames_passMembers : ∀ (fuel : Nat) (ms : List Member) (p : Progress) (reg : Registry),
    Blames reg (passMembers self fuel ms p)
  | 0, _, p, _ => Blames.pure p
  | _ + 1, [], p, _ => Blames.pure p
  | fuel + 1, m :: rest, p, reg => by
    cases m with
    | name s => exact Blames.refuse nofun
    | cls c => exact Blames.get_bind (blames_passMembers fuel rest _ reg)
    | rel r =>
      refine Blames.get_bind (Blames.bind ?_ fun _ t _ => Blames.get_bind ?_)
      · unfold note
        split
        · exact Blames.settleRegistry
        · exact nofun
      · split
        · exact Blames.refuse nofun
        · exact blames_passMembers fuel _ _ t

lemma checkNames_halts (d : Declaration) (singular plural : String) : Halts (checkNames d singular plural) := by
  have hfactors : Halts (do
      for factor in d.factors.getD [] ++ ["idname", singular, plural] do
        if reservedNames.contains factor then refuse (SchemaCause.reservedName factor d.name)
        if Text.startsWith factor "_" then refuse (SchemaCause.hiddenName factor d.name)
        if !Text.Letter.isLowerText factor then refuse (SchemaCause.nameNotSmall factor) : Except Fault Unit) := by
    refine (Finds.forIn (fun factor => ?_) _).bind fun _ _ _ => trivial
    exact Finds.refuseIf nofun (Finds.refuseIf nofun
      (Finds.refuseIf nofun trivial))
  unfold checkNames
  refine Finds.refuseIf nofun (Finds.refuseIf nofun (Finds.refuseIf nofun ?_))
  dsimp only
  split
  · exact nofun
  rotate_right
  · exact nofun
  -- Where the name of the identifier is no obstacle, the capital letter is looked at.
  all_goals
    split
    · exact Finds.refuseIf nofun hfactors
    · exact nofun

lemma requireKnown_halts (k : Class) (names : List String) (source : String) : Halts (requireKnown k names source) := by
  unfold requireKnown
  split
  · exact nofun
  · trivial

lemma checkIdentity_halts (reg : Registry) (k : Class) (names : List String) : Halts (checkIdentity reg k names) := by
  refine (Finds.forM (requireKnown_halts k names) _).bind fun _ _ _ => ?_
  refine (Finds.forIn (fun source => ?_) _).bind fun _ _ _ => ?_
  · refine Finds.refuseIf nofun ?_
    trivial
  refine Finds.refuseIf nofun ?_
  split
  case' isTrue => refine Finds.refuseIf nofun ?_
  all_goals
    refine (Finds.forIn (fun index => ?_) _).bind fun _ _ _ => trivial
    cases index with
    | some s => exact Finds.refuseIf nofun trivial
    | none => trivial

lemma draft_halts (reg : Registry) (d : Declaration) (bases : List ClassId) (parents children produces : Option (List Member)) :
    Halts (d.draft reg bases parents children produces) := by
  have hplural : Halts d.plural := by
    unfold plural
    split
    · split
      · trivial
      · exact nofun
    · split
      · trivial
      · exact nofun
    · trivial
  refine hplural.bind fun plural _ _ => (checkNames_halts d d.singular plural).bind fun _ _ _ => ?_
  split
  · dsimp only
    refine Finds.bind (Q := fun _ => True) ?_ fun lineage _ _ => ?_
    · trivial
    · split
      · exact nofun
      · split
        · exact nofun
        · trivial
  · exact nofun

lemma blames_complete (draft : Class) (children parents : List Member) : Blames reg (complete self draft children parents) := by
  refine (blames_passMembers _ children {} reg).bind fun below t _ => ?_
  refine (blames_passMembers _ parents { names := below.names } t).bind fun above u _ => ?_
  exact Blames.get_bind (Blames.lift_bind (checkIdentity_halts u _ _) fun _ _ => Blames.pure _)

end Declaration

namespace Registry

open Declaration

variable {reg reg' : Registry} {c : ClassId}

/-! ## A class that is given up -/

lemma bare_of_settles (h : ReflTransGen Settles reg reg') (hparents : (reg.get c).parents = [])
    (hchildren : (reg.get c).children = []) : (reg'.get c).parents = [] ∧ (reg'.get c).children = [] := by
  induction h with
  | refl => exact ⟨hparents, hchildren⟩
  | tail _ hstep ih =>
    cases hstep with
    | waits => exact ih
    | resolves =>
      rw [get_resolved]
      exact ⟨map_eq_nil_iff.mpr ih.1, map_eq_nil_iff.mpr ih.2⟩

lemma Stuck.withoutLast (h : reg.Stuck) (hlast : c + 1 = reg.classes.size) (hparents : (reg.get c).parents = [])
    (hchildren : (reg.get c).children = []) : (reg.withoutLast c).Stuck := by
  obtain ⟨horphans, -, hold, -, hnames⟩ := withoutLast_same hlast
  obtain ⟨s, hs, hnone⟩ := h
  refine ⟨s, ?_, find?_eq_none.mpr fun d hd => ?_⟩
  · rcases mem_append.mp hs with hs | hs
    · exact mem_append_left _ (horphans ▸ hs)
    · obtain ⟨k, hk, hs⟩ := mem_flatMap.mp hs
      obtain ⟨i, hi, rfl⟩ := Array.getElem_of_mem (Array.mem_toList_iff.mp hk)
      have hget : reg.get i = reg.classes[i] := by
        unfold Registry.get
        simp [Array.getD_eq_getD_getElem?, hi]
      rw [← hget] at hs
      rcases Nat.lt_succ_iff_lt_or_eq.mp (hlast ▸ hi : i < c + 1) with hi | rfl
      · refine waiting_subset_pending i s ?_
        rw [waiting, hold i hi]
        exact mem_append.mpr (mem_append.mp hs).symm
      · -- the class that is given up has no members
        rw [hparents, hchildren] at hs
        cases hs
  · obtain ⟨hpos, hlt⟩ := mem_declared.mp (mem_reverse.mp hd)
    obtain ⟨hlt, hname⟩ := hnames d hlt
    rw [hname]
    exact find?_eq_none.mp hnone d (mem_reverse.mpr (mem_declared.mpr ⟨hpos, hlt⟩))

lemma blames_finish {draft : Draft} (hparents : draft.cls.parents = []) (hchildren : draft.cls.children = []) :
    Blames reg (finish reg.classes.size draft) := by
  have hblames : Blames (reg.pushed draft.cls) (complete reg.classes.size draft.cls draft.children draft.parents) :=
    blames_complete _ _ _
  obtain ⟨hsettles, _⟩ := leads_complete_same (reg.pushed draft.cls) reg.classes.size draft.cls draft.children draft.parents
  unfold Blames at hblames ⊢
  rcases finish_cases reg draft with ⟨final, t, hm, hfinish⟩ | ⟨e, t, hm, hfinish⟩
  all_goals
    rw [hm] at hsettles hblames
    rw [hfinish]
  · exact nofun
  · intro e' he' hkind
    cases he'
    obtain ⟨hp, hc⟩ := bare_of_settles hsettles (by rw [get_pushed_self, hparents])
      (by rw [get_pushed_self, hchildren])
    exact (hblames e rfl hkind).withoutLast (size_of_pushed hsettles).symm hp hc

lemma blames_declare (d : Declaration) : Blames reg (declare d) := by
  refine Blames.bind (Blames.mapM fun name t => ?_) fun bases reg₀ _ => ?_
  · refine Blames.get_bind ?_
    split
    · exact Blames.pure _
    · exact Blames.refuse nofun
  refine (blames_makeMembers d.parents).bind fun parents reg₁ _ => ?_
  refine (blames_makeMembers d.children).bind fun children reg₂ _ => ?_
  refine (blames_makeMembers d.produces).bind fun produces reg₃ _ => ?_
  refine Blames.get_bind (Blames.lift_bind (draft_halts reg₃ d bases parents children produces) fun draft hdraft => ?_)
  obtain ⟨-, -, -, ⟨hp, hc⟩, -⟩ := draft_ok hdraft
  exact (blames_finish hp hc).bind fun _ _ _ => Blames.pure _

/-! ## What becomes of relations that wait -/

lemma settle_endless_iff : reg.settle = endless ↔ ∀ n, (reg.drainStep)^[n] reg.pending.reverse ≠ [] := by
  have hloop : (∃ n, (reg.drainStep)^[n] reg.pending.reverse = []) ↔ ¬reg.Stuck := by
    rw [drains_iff, not_stuck]
    simp only [mem_reverse]
  rw [← not_exists, hloop, not_not]
  constructor
  · intro hsettle
    by_contra hstuck
    obtain ⟨reg', hok, _⟩ := settle_of_known (not_stuck.mp hstuck)
    rw [hsettle] at hok
    cases hok
  · exact settle_of_stuck

lemma makeRelation_ok {d : RelationDecl} {r : Relation} (hr : relationOf reg d = .ok r) : after (makeRelation d) reg =
    match r.target with
    | .cls _ =>
      match reg.settle with
      | .ok reg' => (.ok r, reg')
      | .error e => (.error e, reg)
    | .awaiting _ => (.ok r, reg) := by
  have hrun : after (makeRelation d) reg = after (liftM (relationOf reg d) >>= fun r => do
      match r.target with
      | .cls _ => settleRegistry
      | .awaiting _ => pure ()
      return r : SchemaM Relation) reg := rfl
  rw [hrun, hr]
  change after (match r.target with
    | .cls _ => settleRegistry >>= fun _ => pure r
    | .awaiting _ => pure r : SchemaM Relation) reg = _
  cases r.target with
  | awaiting s => rfl
  | cls c =>
    rw [after_bind, show after settleRegistry reg = _ from Write.run_settleRegistry reg]
    cases reg.settle <;> rfl

/-- Relations are resolved in a loop that need not end. A declaration does not end only if a relation waits
for an undeclared class. A relation to a known class made then does not end either; without such a wait, it
resolves all waiting relations. A relation that waits itself resolves nothing. -/
theorem declare_waits (reg : Registry) : (reg.settle = endless ↔ ∀ n, (reg.drainStep)^[n] reg.pending.reverse ≠ []) ∧
    (∀ d, (after (declare d) reg).1 = endless → (after (declare d) reg).2.Stuck) ∧ ∀ d r, relationOf reg d = .ok r →
      (∀ c, r.target = .cls c → reg.Stuck → after (makeRelation d) reg = (endless, reg)) ∧
      (∀ c, r.target = .cls c → ¬reg.Stuck →
        ∃ reg', after (makeRelation d) reg = (.ok r, reg') ∧ reg'.pending = [] ∧ reg.Resolved reg') ∧
      (∀ s, r.target = .awaiting s → after (makeRelation d) reg = (.ok r, reg)) := by
  refine ⟨settle_endless_iff, fun d hd => blames_declare d _ hd rfl, fun d r hr => ⟨fun c hc hstuck => ?_, fun c hc hfree => ?_,
    fun s hs => ?_⟩⟩
  · rw [makeRelation_ok hr, hc, settle_of_stuck hstuck]
    rfl
  · obtain ⟨reg', hsettle, hpending, hresolved⟩ := settle_of_known (not_stuck.mp hfree)
    refine ⟨reg', ?_, hpending, hresolved⟩
    rw [makeRelation_ok hr, hc, hsettle]
  · rw [makeRelation_ok hr, hs]

/-- Observations of fields and targets; only fields are declared. -/
def fieldsAndTargets (names : List String) : List Declaration :=
  [{ name := "Observation", pluralName := some "observations", idname := some (.text "number")
     parents := some (names.map fun name => .rel { kind := .oneOf, node := .text name, idname := some (Text.Letter.lower name) }) },
    { name := "Field", pluralName := some "fields", idname := some (.text "number") }]

def observed (names : List String) : Registry := (after ((fieldsAndTargets names).mapM declare) Registry.empty).2

lemma observed_schema {names : List String}
    (h : gives (after ((fieldsAndTargets names).mapM declare) Registry.empty).1 (fun _ => true) = true) :
    (observed names).Schema := .ofDeclarations rfl h

/-- A relation to observations resolves that of observations to fields. -/
theorem declare_waits_fields : (observed ["Field"]).pending = ["Field"] ∧
    ∃ r reg', after (makeRelation { kind := .oneOf, node := .text "Observation" }) (observed ["Field"]) = (.ok r, reg') ∧
      reg'.pending = [] ∧ ∃ field, .rel field ∈ (reg'.get 1).parents ∧ field.target = .cls 2 := by
  obtain ⟨r, hr, hclass⟩ := ok_of_gives (x := relationOf (observed ["Field"]) { kind := .oneOf, node := .text "Observation" })
    (p := fun r => match r.target with | .cls c => c == 1 | .awaiting _ => false) (by decide +kernel)
  have hpending : (observed ["Field"]).pending = ["Field"] := by decide +kernel
  have hfield : (observed ["Field"]).find? "Field" = some 2 := by decide +kernel
  have hfree : ¬(observed ["Field"]).Stuck := by
    rintro ⟨s, hs, hnone⟩
    rw [hpending, List.mem_singleton] at hs
    rw [hs, hfield] at hnone
    cases hnone
  have htarget : r.target = .cls 1 := by
    split at hclass
    · rename_i c hc
      rw [hc, beq_iff_eq.mp hclass]
    · cases hclass
  obtain ⟨reg', hmade, hnone, hresolved⟩ := ((declare_waits (observed ["Field"])).2.2 _ r hr).2.1 1 htarget hfree
  have hawaited : "Field" ∈ awaited ((observed ["Field"]).get 1).parents := by decide +kernel
  obtain ⟨field, hmem, hwaits⟩ := exists_of_awaited hawaited
  obtain ⟨c, hc, hmem'⟩ := hresolved 1 Class.parents (by simp) field "Field" hmem hwaits
  rw [hfield] at hc
  cases hc
  exact ⟨hpending, r, reg', hmade, hnone, _, hmem', rfl⟩

/-- A relation to observations does not end while observations wait for targets; that to fields goes on
waiting. -/
theorem exists_declaration_endless : ∃ reg d, reg.Schema ∧ (after (declare d) reg).1 = endless ∧
    ∃ s c, s ∈ (after (declare d) reg).2.pending ∧ (after (declare d) reg).2.find? s = some c := by
  let run : Declaration :=
    { name := "Run", pluralName := some "runs", idname := some (.text "number")
      parents := some [.rel { kind := .oneOf, node := .text "Observation" }] }
  exact ⟨observed ["Field", "Target"], run, observed_schema (by decide +kernel), endless_of_isEndless (by decide +kernel),
    "Field", 2, by decide +kernel, by decide +kernel⟩

end Registry

end SurveyGraph
