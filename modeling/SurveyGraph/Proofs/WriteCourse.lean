import SurveyGraph.Proofs.RenderAgain
import SurveyGraph.Survey.Observing
/-!
# All that can happen to a program

Whatever is written, and also where writing fails, a program goes through steps of a few kinds (`Happens`): methods add to
it, blocks are opened, closed and collected, and it is told what to give back and written down.
-/
open Relation

namespace SurveyGraph.Write

variable {α β γ : Type} {o p q : Program}

/-- Every formula will do. -/
abbrev Any : VarKind → Prop := fun _ => True

/-- One thing by which a program grows: a method adds to it, or a block is opened, closed or collected. -/
inductive Grows : Program → Program → Prop
  | moves {p q : Program} (h : Moves Any p q) : Grows p q
  | custom {p o : Program} (s : Statement) (format : String) (h : ReflTransGen (Quiet Any) p o)
    (hform : s.form = .custom format) : Grows p (o.withStatement s)
  | nest (p : Program) : Grows p p.nest
  | close (p : Program) (b : Block) : Grows p (p.close b)
  | collect {p o : Program} {last : Statement} {previous : List VarId} (inputs : List Thing) (outputs : List VarId)
    (h : ReflTransGen (Quiet Any) p o) (hlast : p.statements.back? = some last) (hform : last.form = .collect previous)
    (hnews : News p o outputs) (hkind : ∀ v ∈ outputs, (o.get v).kind.isCollection) :
    Grows p (o.withLast { inputs, outputs, form := .collect previous })

/-- One thing that happens to a program. -/
inductive Happens : Program → Program → Prop
  | grows {p q : Program} (h : Grows p q) : Happens p q
  | returns (p : Program) (unnamed : List Thing) (named : List (String × Thing)) :
    Happens p { p with statements := p.statements.push (.returns unnamed named) }
  | returnsInstead {p : Program} {last : Statement} (unnamed : List Thing) (named : List (String × Thing))
    (hlast : p.statements.back? = some last) (hreturns : last.isReturns) :
    Happens p { p with statements := p.statements.pop.push (.returns unnamed named) }
  | written (p : Program) (f : VarId → Option String) (g : Nat → Bool) : Happens p (p.written f g)
  | aside (p : Program) (reg : Registry) (instances : Array Instance) (isOpen : Bool) :
    Happens p { p with reg, instances, isOpen }

/-! ## What growth leaves as it is -/

/-- Variables and most statements stay what they are, and so does all that is not written down. -/
structure Kept (p q : Program) : Prop where
  old : Extends p q
  statements : ∀ s ∈ p.statements.toList, s.goesOn → s ∈ q.statements.toList
  reg : q.reg = p.reg
  rule : q.rule = p.rule
  instances : q.instances = p.instances
  isOpen : q.isOpen = p.isOpen

lemma Kept.refl (p : Program) : Kept p p := ⟨.refl p, fun _ h _ => h, rfl, rfl, rfl, rfl⟩

lemma Kept.trans (h : Kept p q) (h' : Kept q o) : Kept p o :=
  ⟨h.old.trans h'.old, fun s hs hg => h'.statements s (h.statements s hs hg) hg, h'.reg.trans h.reg, h'.rule.trans h.rule,
    h'.instances.trans h.instances, h'.isOpen.trans h.isOpen⟩

lemma kept_of_quiet {K : VarKind → Prop} (h : ReflTransGen (Quiet K) p q) : Kept p q := by
  refine ⟨extends_of_quiet h, fun s hs _ => by rw [quiet_statements h]; exact hs, ?_, ?_, ?_, ?_⟩ <;> rw [quiet_eq h]

variable {s : Statement} {named : List (String × Thing)} {cls : ClassId} {args : Arguments}

lemma mem_push {ss : Array Statement} {t : Statement} (h : t ∈ ss.toList) : t ∈ (ss.push s).toList := by
  rw [Array.toList_push]
  exact List.mem_append_left _ h

lemma toList_of_back? {ss : Array Statement} (h : ss.back? = some s) : ss.toList = ss.pop.toList ++ [s] := by
  exact (List.dropLast_append_getLast? s (by simpa using h)).symm

lemma kept_withStatement (s : Statement) : Kept p (p.withStatement s) :=
  ⟨extends_withStatement s, fun _ ht _ => mem_push ht, rfl, rfl, rfl, rfl⟩

lemma Moves.kept {K : VarKind → Prop} (h : Moves K p q) : Kept p q := by
  cases h with
  | quiet h => exact kept_of_quiet (.single h)
  | statement s h => exact (kept_of_quiet h).trans (kept_withStatement s)

lemma mem_withLast {last t : Statement} (hlast : p.statements.back? = some last) (hended : last.goesOn = false)
    (ht : t ∈ p.statements.toList) (hgoes : t.goesOn) : t ∈ (p.withLast s).statements.toList := by
  rw [toList_of_back? hlast] at ht
  rcases List.mem_append.mp ht with ht | ht
  · exact mem_push ht
  · rw [List.mem_singleton.mp ht, hended] at hgoes
    cases hgoes

lemma Grows.kept (h : Grows p q) : Kept p q := by
  cases h with
  | moves h => exact h.kept
  | custom s format h => exact (kept_of_quiet h).trans (kept_withStatement s)
  | nest => exact ⟨.same rfl rfl, fun _ h _ => h, rfl, rfl, rfl, rfl⟩
  | close b =>
    exact ⟨.same rfl rfl, fun _ hs _ => mem_push hs, rfl, rfl, rfl, rfl⟩
  | @collect o last previous inputs outputs h hlast hform =>
    refine (kept_of_quiet h).trans ⟨.same rfl rfl, fun s hs hgoes => ?_, rfl, rfl, rfl, rfl⟩
    have hback : o.statements.back? = some last := by rw [quiet_statements h]; exact hlast
    exact mem_withLast hback (by simp [Statement.goesOn, hform]) hs hgoes

lemma kept_of_grows (h : ReflTransGen Grows p q) : Kept p q := by
  induction h with
  | refl => exact .refl p
  | tail _ h ih => exact ih.trans h.kept

/-! ## Every method -/

/-- A kind of steps that all growth belongs to. -/
class Covers (r : Program → Program → Prop) : Prop where
  grows {p q : Program} : Grows p q → r p q

instance : Covers Grows := ⟨id⟩

instance : Covers Happens := ⟨.grows⟩

section Growth

variable {step : Program → Program → Prop}

lemma keeps_requireOpen : Keeps step requireOpen := fun _ => leads_requireOpen.mono fun _ _ _ _ => trivial

variable {t value : Thing} {hint : Value} {v : VarId} {key : Thing} {ts : List Thing}
  {labels properties child ident : Thing} {c : Class} {create : Bool} {named : List (String × Thing)} {name : String}
  {spec : Specification} {f : Filling} {i : Instance} {isParent : Bool} {node : VarId}

lemma keeps_toNodes : Keeps step (toNodes t) := .get_bind fun _ => .lift _

variable [Covers step]

lemma covers_of_quiet (h : ReflTransGen (Quiet Any) p q) : ReflTransGen step p q :=
  ReflTransGen.mono (fun _ _ h => Covers.grows (.moves (.quiet h))) _ _ h

lemma Leads.keeps {m : WriteM α} {Q : Program → α → Program → Prop} (h : ∀ p, Leads (Moves Any) p m (Q p)) : Keeps step m :=
  fun p => ⟨ReflTransGen.mono (fun _ _ h => Covers.grows (.moves h)) _ _ (h p).1, fun _ _ => trivial⟩

/-! ## Formulas and statements -/

lemma keyed_any (key : Thing) : Keyed Any key := fun _ _ _ => ⟨trivial, fun _ _ => trivial⟩

lemma keeps_newData : Keeps step (newData value hint) := Leads.keeps fun _ => leads_moves leads_newData

lemma keeps_newPlain : Keeps step (newPlain hint) := Leads.keeps fun _ => leads_moves (leads_newPlain hint)

lemma keeps_itemOf : Keeps step (itemOf v key) := Leads.keeps fun _ => leads_moves (leads_itemOf (keyed_any key))

lemma keeps_member : Keeps step (member t key) := Leads.keeps fun _ => leads_member (keyed_any key)

lemma keeps_namedItem : Keeps step (namedItem v key) := Leads.keeps fun _ => leads_namedItem (keyed_any key)

lemma keeps_newDerived {f : Formula} : Keeps step (newDerived f) :=
  Leads.keeps fun _ => leads_moves (leads_newDerived fun _ _ => trivial)

lemma keeps_nameAs : Keeps step (nameAs v hint) := Leads.keeps fun _ => ends_nameAs.leads

lemma keeps_combine {op hint : String} {a : VarId} {b : Thing} : Keeps step (combine op hint a b) :=
  keeps_requireOpen.bind fun _ => keeps_newDerived.bind fun _ => keeps_nameAs

lemma keeps_named {f : Formula} {hint : String} : Keeps step (Write.named f hint) :=
  keeps_newDerived.bind fun _ => keeps_requireOpen.bind fun _ => keeps_nameAs

lemma keeps_append {a b : Thing} {isNamed : Bool} : Keeps step (append a b isNamed) := .ite keeps_named keeps_newDerived

lemma keeps_copy : Keeps step (copy ts) := Leads.keeps fun _ => leads_copy

lemma leads_toOutputs : Leads (Quiet Any) p (toOutputs ts) (fun _ _ => True) := by
  refine (Leads.mapM (P := fun _ _ => True) (fun _ _ _ _ h => h) fun t _ q _ => ?_).mono fun _ _ _ _ => trivial
  split
  · exact Leads.pure trivial
  · exact (leads_newPlain _).mono fun _ _ _ _ => trivial
  · exact Leads.refuse _

lemma keeps_custom {format : String} {inputs returned others : List Thing} :
    Keeps step (custom format inputs returned others) := by
  intro p
  refine Leads.bind (Q := fun _ _ => True) ⟨covers_of_quiet leads_toOutputs.1, fun _ _ => trivial⟩ fun returned q hq _ => ?_
  refine Leads.bind (Q := fun _ _ => True) ⟨covers_of_quiet leads_toOutputs.1, fun _ _ => trivial⟩ fun others r hr _ => ?_
  refine leads_requireOpen.bind fun _ r' _ hr' => ?_
  rw [hr'.1]
  refine Leads.bind (Q := fun _ _ => True) ⟨?_, fun _ _ => trivial⟩ fun _ _ _ _ => Leads.pure trivial
  rcases addStatement_cases r { inputs, outputs := returned ++ others, form := .custom format } with ⟨e, he, -⟩ | ⟨-, hok⟩
  · rw [he]
  · rw [hok]
    exact .single (Covers.grows (.custom _ format .refl rfl))

/-! ## Blocks -/

lemma covers_bind {m : WriteM α} {f : α → WriteM β} {Q : α → Program → Prop} (hpo : ReflTransGen (Quiet Any) p o)
    (hm : Leads (Quiet Any) o m Q) (hf : ∀ a q, ReflTransGen (Quiet Any) o q → Q a q → ReflTransGen step p (after (f a) q).2) :
    ReflTransGen step p (after (m >>= f) o).2 := by
  obtain ⟨hr, hQ⟩ := hm
  rw [after_bind]
  cases hx : after m o with
  | mk x q =>
    rw [hx] at hr hQ
    cases x with
    | ok a => exact hf a q hr (hQ a rfl)
    | error e => exact covers_of_quiet (hpo.trans hr)

lemma covers_block {s : Statement} (hpo : ReflTransGen (Quiet Any) p o) (hnews : News p o s.outputs)
    (hform : s.goesOn) {a : α} : ReflTransGen step p (after (do
      modify fun p => { p with blocks := [] :: p.blocks }
      addStatement s
      return a : WriteM α) o).2 := by
  have hnest : after (modify fun p => { p with blocks := [] :: p.blocks } : WriteM Unit) o = (.ok ⟨⟩, o.nest) := rfl
  rw [after_bind, hnest]
  dsimp only
  rw [after_bind]
  rcases addStatement_cases o.nest s with ⟨e, he, -⟩ | ⟨hin, hok⟩
  · rw [he]
    exact (covers_of_quiet hpo).tail (Covers.grows (.nest o))
  · rw [hok]
    refine .tail (.single (Covers.grows (.nest p))) (Covers.grows (.moves (.statement s (quiet_nest hpo) hin (.inl ?_) hform)))
    exact ⟨extends_of_quiet (quiet_nest hpo), hnews.nodup, fun v hv =>
      have h := hnews.fresh v hv
      ⟨h.le, h.lt, h.own⟩⟩

lemma keeps_openBlock {enumerated useCopy : Bool} : Keeps step (openBlock ts enumerated useCopy) := by
  refine (Leads.keeps fun _ => leads_blockInputs).bind fun inputs => keeps_requireOpen.bind fun _ p => ⟨?_, fun _ _ => trivial⟩
  refine covers_bind .refl (leads_mapM_news fun _ _ _ => leads_newMember) fun members q hq hm => ?_
  refine covers_bind hq (leads_newIf _ _) fun indexer r hr hi => ?_
  exact covers_block (hq.trans hr) (hm.1.append hi) rfl

lemma keeps_closeBlock {b : Block} : Keeps step (closeBlock b) := .modify fun p => Covers.grows (.close p b)

lemma keeps_collect {skipNothing : Bool} : Keeps step (collect ts skipNothing) := by
  refine keeps_requireOpen.bind fun _ p => Leads.get_bind (Leads.lift_bind fun previous hkept => Leads.lift_bind fun _ _ =>
    ⟨covers_bind .refl leads_newCollections fun outputs q hq h => ?_, fun _ _ => trivial⟩)
  obtain ⟨last, hlast, hform⟩ := Program.kept_ok hkept
  exact .single (Covers.grows (.collect _ outputs hq hlast hform h.1 fun v hv => (h.2 v hv).2))

/-! ## Instances -/

lemma keeps_firstCapital : Keeps step (firstCapital t) := by
  unfold firstCapital
  split
  · split
    · exact .refuse _
    · exact .pure _
  · exact keeps_member.bind fun _ => .refuse _
  · exact keeps_member.bind fun _ => .refuse _
  · split
    · exact .refuse _
    · split
      · exact .pure _
      · exact .refuse _
    · exact .refuse _
    · exact .refuse _

lemma keeps_prepare : Keeps step (prepare c create named) := by
  refine .get_bind fun p => ?_
  split
  · exact .pure _
  · exact .pure _
  · refine .ite (.pure _) ?_
    exact .lift_bind fun _ => .lift_bind fun _ => keeps_firstCapital.bind fun _ => .pure _

lemma keeps_checkCount {r : Relation} : Keeps step (checkCount c name value r) := by
  refine .get_bind fun p => .ite ?_ ?_
  · split
    · exact .refuse _
    · exact keeps_toNodes.bind fun _ => (Leads.keeps keeps_validateNumber).bind fun _ => Leads.keeps keeps_validateType
  · refine .refuseIf ?_
    cases r.max with
    | none => exact .refuse_bind
    | some max =>
      refine .refuseIf ?_
      split
      · exact .refuse _
      · exact .pure ()

lemma keeps_fillValue {isMultiple : Bool} : Keeps step (fillValue c spec create f name value isMultiple) := by
  unfold fillValue
  split
  · exact .pure _
  · exact .ite (keeps_checkCount.bind fun _ => .pure _) (.pure _)

lemma keeps_fillName : Keeps step (fillName i spec create f name) := by
  refine .get_bind fun p => .lift_bind fun x => .ite (.pure _) (.lift_bind fun value => ?_)
  exact .ite (.lift_bind fun _ => keeps_fillValue) keeps_fillValue

lemma keeps_relate {other : Thing} : Keeps step (relate isParent node other ident properties) :=
  .get_bind fun _ => keeps_toNodes.bind fun _ => (Leads.keeps keeps_mergeRelation).bind fun _ => .pure ()

lemma keeps_relateAll {collection : Thing} {properties : Thing → Thing × Thing} :
    Keeps step (relateAll isParent node collection properties) := by
  refine keeps_openBlock.bind fun b => ?_
  split
  · exact keeps_relate.bind fun _ => keeps_closeBlock.bind fun _ => keeps_collect.bind fun _ => .pure ()
  · exact keeps_closeBlock

lemma keeps_mergeNodeFirst : Keeps step (mergeNodeFirst i f) := by
  refine .get_bind fun p => .lift_bind fun _ => keeps_toNodes.bind fun _ => .lift_bind fun _ =>
    keeps_toNodes.bind fun _ => (Leads.keeps keeps_mergeNode).bind fun node => ?_
  refine (Keeps.mapM fun x => .get_bind fun _ => .ite ?_ ?_).bind fun _ =>
    (Keeps.forM fun x => .get_bind fun _ => .ite ?_ ?_).bind fun _ => .pure _
  · exact keeps_relateAll.bind fun _ => .refuseIf (.pure _)
  · exact .lift_bind fun _ => (Keeps.forM fun _ => keeps_relate).bind fun _ => .pure _
  · exact keeps_relateAll
  · exact .lift_bind fun _ => Keeps.forM fun _ => keeps_relate

lemma keeps_relateOther {r : Relative} : Keeps step (relateOther node isParent r) := by
  unfold relateOther
  split
  · exact keeps_relateAll
  · exact .ite keeps_relate (.pure ())

lemma keeps_mergeWithRelations : Keeps step (mergeWithRelations i f) :=
  .get_bind fun _ => .lift_bind fun _ => (Leads.keeps keeps_mergeNode).bind fun _ =>
    (Keeps.forM fun _ => keeps_relateOther).bind fun _ => .pure _

lemma keeps_inColumn {table column : Thing} : Keeps step (inColumn table column) := by
  unfold inColumn
  split
  · exact keeps_itemOf.bind fun _ => .pure _
  · exact .get_bind fun _ => .refuse _
  · exact .refuse _
  · exact .refuse _
  · exact .refuse _

lemma keeps_fromTable {args : Arguments} : Keeps step (fromTable spec args named) := by
  unfold fromTable
  split
  · exact .pure _
  · exact .foldlM (fun named x => .ite (.pure _) (.lift_bind fun _ => keeps_inColumn.bind fun _ => .pure _)) named

end Growth

/-! ## Writing down -/

lemma keeps_setReturns {unnamed : List Thing} : Keeps Happens (setReturns unnamed named) := by
  refine .modify fun p => ?_
  split
  · rename_i h
    obtain ⟨last, hlast, hreturns⟩ := Option.map_eq_some_iff.mp h
    exact .returnsInstead unnamed named hlast hreturns
  · exact .returns p unnamed named

lemma keeps_render {tag : String} {asLines : Bool} {batchSize batch : Value} : Keeps Happens (render tag asLines batchSize batch) := by
  refine fun p => ⟨?_, fun _ _ => trivial⟩
  have hreturning : ReflTransGen Happens p p.returning := by
    unfold Program.returning
    split
    · exact .single (.returns p [.var Program.time] [])
    · exact .refl
  obtain ⟨f, ⟨e, hone, -⟩ | ⟨hone, -⟩⟩ := render_named p tag asLines batchSize batch
  · rw [hone]
    exact hreturning.tail (.written _ f _)
  · obtain ⟨g, r, -, hasks, -⟩ := asks_again p.returning f (List.range p.returning.statements.size) fun _ => false
    rw [hone, renderNamed_of_asks hasks]
    exact hreturning.tail (.written _ f g)

lemma keeps_setName {v : VarId} {name : Option String} : Keeps Happens (setName v name) := by
  refine .modify fun p => ?_
  have hset := p.written_setName (f := p.names) (g := fun _ => false) (v := v) name
  rw [p.written_self] at hset
  rw [hset]
  exact .written p _ _

lemma keeps_forgetNames : Keeps Happens forgetNames := by
  refine .get_bind fun p => .forM fun t => ?_
  unfold forgetName
  split
  · exact keeps_setName
  · exact .pure ()
  · exact .pure ()
  · exact .refuse _

/-! ## Instances and classes -/

lemma after_onRegistry (x : SchemaM α) (p : Program) :
    after (onRegistry x) p = ((x.run.run p.reg).1, { p with reg := (x.run.run p.reg).2 }) := by
  unfold onRegistry
  rw [after_get_bind]
  cases x.run.run p.reg with
  | mk r reg => cases r <;> rfl

lemma keeps_onRegistry {x : SchemaM α} : Keeps Happens (onRegistry x) := by
  refine fun p => ⟨?_, fun _ _ => trivial⟩
  rw [after_onRegistry]
  exact .single (.aside p _ p.instances p.isOpen)

lemma keeps_settleClass {c : ClassId} : Keeps Happens (settleClass c) :=
  .get_bind fun _ => .ite keeps_onRegistry (.pure ())

lemma keeps_writeInstance {i : Instance} {f : Filling} : Keeps Happens (writeInstance i f) := by
  refine .get_bind fun p => .ite (.pure _) (.get_bind fun _ => keeps_onRegistry.bind fun strategy => ?_)
  cases strategy with
  | nodeFirst => exact keeps_mergeNodeFirst.bind fun _ => .ite (.get_bind fun _ => .refuse_bind) (.pure _)
  | nodeWithRelations => exact keeps_mergeWithRelations.map

lemma keeps_addInstance {i : Instance} : Keeps Happens (addInstance i) :=
  fun p => ⟨.single (.aside p p.reg (p.instances.push i) p.isOpen), fun _ _ => trivial⟩

lemma keeps_fillInstance {create : Bool} : Keeps Happens (fillInstance cls args create) := by
  refine .get_bind fun _ => .refuseIf (keeps_prepare.bind fun named => keeps_settleClass.bind fun _ => .get_bind fun p => ?_)
  refine .refuseIf (keeps_fromTable.bind fun named => ?_)
  exact (Keeps.foldlM (fun _ _ => keeps_fillName) _).bind fun f => .get_bind fun p => .lift_bind fun _ => .pure _

lemma keeps_makeInstance {create : Bool} : Keeps Happens (makeInstance cls args create) :=
  keeps_fillInstance.bind fun _ => .ite (.pure _)
    (.get_bind fun _ => .refuseIf (keeps_writeInstance.bind fun _ => .pure _))

lemma keeps_create : Keeps Happens (create cls args) := keeps_makeInstance.bind fun _ => keeps_addInstance

lemma keeps_withoutCreation : Keeps Happens (withoutCreation cls named) :=
  keeps_makeInstance.bind fun _ => keeps_addInstance

lemma keeps_ofNode {node : Thing} : Keeps Happens (ofNode cls node) := by
  refine keeps_makeInstance.bind fun i => ?_
  split
  · exact keeps_addInstance
  · exact .refuse _

lemma keeps_ofNumber {id : Thing} : Keeps Happens (ofNumber cls id) :=
  keeps_toNodes.bind fun _ => .get_bind fun _ => (Leads.keeps keeps_matchId).bind fun _ => keeps_ofNode

lemma keeps_find {children parents exclude : Thing} : Keeps Happens (find cls named children parents exclude) := by
  refine .get_bind fun p => (Keeps.mapM fun m => ?_).bind fun names => ?_
  · split
    · exact .pure _
    · exact .refuse _
  refine (Keeps.foldlM (fun x e => ?_) _).bind fun x => ?_
  · exact .ite (.pure _) (.ite (.pure _) (.ite (.pure _) (.refuse _)))
  have hlast (t : Thing) : Keeps Happens (do
      let properties ← toNodes (.dict x.1)
      let parents ← toNodes t
      let children ← toNodes children
      let exclude ← toNodes exclude
      let node ← matchPattern (.list ((p.reg.labels cls).map .text)) properties parents children exclude
      let i ← makeInstance cls { named } false
      addInstance { i with node := some node }) :=
    keeps_toNodes.bind fun _ => keeps_toNodes.bind fun _ => keeps_toNodes.bind fun _ => keeps_toNodes.bind fun _ =>
      (Leads.keeps keeps_matchPattern).bind fun _ => keeps_makeInstance.bind fun _ => keeps_addInstance
  dsimp only
  split
  · exact (Keeps.pure _).bind fun t => hlast t
  · exact .ite ((Keeps.pure _).bind fun t => hlast t) (.ite ((Keeps.pure _).bind fun t => hlast t) .refuse_bind)

lemma keeps_findBranch {path : List Thing} : Keeps Happens (findBranch path) := by
  refine .get_bind fun p => (Keeps.mapM fun t => ?_).bind fun labels =>
    (Leads.keeps keeps_matchBranch).bind fun nodes => .mapM fun x => ?_
  · split
    · exact .pure _
    · exact keeps_toNodes
  · obtain ⟨t, node⟩ := x
    dsimp only
    split
    · exact keeps_ofNode
    · exact .get_bind fun _ => keeps_ofNode
    · exact .get_bind fun _ => .refuse _
    · exact .refuse _

lemma keeps_attachProduct {on : InstanceId} {name unit index column : Thing} :
    Keeps Happens (attachProduct on name unit index column) := by
  refine .get_bind fun p => ?_
  dsimp only
  split
  · exact .refuse _
  · exact keeps_requireOpen.bind fun _ => keeps_toNodes.bind fun _ => keeps_toNodes.bind fun _ => keeps_toNodes.bind fun _ =>
      (Leads.keeps keeps_mergeRelation).bind fun _ => .pure ()

lemma keeps_nodeOf {t : Thing} : Keeps Happens (nodeOf t) := by
  unfold nodeOf
  split
  · exact keeps_toNodes
  · exact .refuse _

lemma keeps_attachOptionals {on : InstanceId} : Keeps Happens (attachOptionals on named) := by
  refine .get_bind fun p => .ite (.pure ()) ((Keeps.forIn (fun x _ => .get_bind fun _ => .refuseIf ?_) _).bind fun _ => .pure ())
  have hmerge (t : Thing × Thing × Bool) : Keeps Happens (do
      let ident := Thing.dict [placeEntry (placeOf 0), nameEntry x.1]
      let _ ← mergeRelation t.1 t.2.1 relationType ident (.dict []) p.rule
      if t.2.2 then
        let _ ← mergeRelation t.2.1 t.1 relationType ident (.dict []) p.rule
        return ForInStep.yield PUnit.unit
      else return ForInStep.yield PUnit.unit) :=
    (Leads.keeps keeps_mergeRelation).bind fun _ => .ite ((Leads.keeps keeps_mergeRelation).bind fun _ => .pure _) (.pure _)
  split
  rotate_right
  · exact .refuse_bind
  all_goals exact keeps_nodeOf.bind fun _ => keeps_nodeOf.bind fun _ => (Keeps.pure _).bind hmerge

end SurveyGraph.Write

namespace SurveyGraph.Survey

open Write

/-! ## Codes and headers -/

variable {cls : ClassId}

lemma keeps_armsOf {s : Setup} : Keeps Happens (armsOf cls s) :=
  keeps_create.bind fun _ => keeps_create.bind fun _ => .pure _

lemma keeps_armsOfCode {code : Thing} : Keeps Happens (armsOfCode cls code) := by
  have hrest (t : Thing) : Keeps Happens (do armsOf cls (← setup t)) := .lift_bind fun _ => keeps_armsOf
  unfold armsOfCode
  split
  · split
    · exact .refuse_bind
    · exact (Keeps.pure _).bind hrest
  · exact keeps_member.bind fun _ => (Keeps.pure _).bind hrest
  · exact keeps_member.bind fun _ => (Keeps.pure _).bind hrest
  · exact .refuse_bind
  · exact (Keeps.pure _).bind hrest
  · exact .refuse_bind
  · exact .refuse_bind

lemma keeps_classNamed {name : String} : Keeps Happens (classNamed name) := by
  refine .get_bind fun p => ?_
  split
  · exact .pure _
  · exact .refuse _

lemma keeps_programOfCode {code : Thing} : Keeps Happens (programOfCode cls code) := by
  unfold programOfCode
  dsimp only
  split
  · refine (Keeps.pure _).bind fun code => (Keeps.mapM fun c => ?_).bind fun digits => ?_
    · split
      · exact .pure _
      · exact .refuse _
    -- Three digits of the code are read, and each of them can be missing.
    refine Keeps.bind ?_ fun _ => .lift_bind fun s => keeps_classNamed.bind fun _ => keeps_armsOf.bind fun _ =>
      Keeps.bind ?_ fun _ => keeps_classNamed.bind fun _ => keeps_create.bind fun _ => Keeps.bind ?_ fun _ => keeps_create
    all_goals
      split
      · exact .pure _
      · exact .refuse _
  · exact .refuse_bind

lemma keeps_conditionsOfHeader {header : HeaderView} : Keeps Happens (conditionsOfHeader cls header) := by
  refine .get_bind fun p => .lift_bind fun code => .lift_bind fun letters => ?_
  refine (Keeps.foldlM (fun acc x => .lift_bind fun grade => ?_) _).bind fun data => keeps_create
  split
  · exact .pure _
  · exact .refuse _

lemma keeps_exposureOfHeader {block : Thing} {header : HeaderView} : Keeps Happens (exposureOfHeader cls block header) := by
  refine .get_bind fun p => .lift_bind fun t => ?_
  split
  · refine .lift_bind fun date => .lift_bind fun type => ?_
    split
    · exact .refuse _
    · exact keeps_create
  · exact .refuse_bind

end SurveyGraph.Survey
