import SurveyGraph.Proofs.WriteCourse
import SurveyGraph.Script.Write
/-!
# What scripts make of a program

Every script that writes leads its program through the steps that can happen to programs, whichever of its steps fail.
-/
open Relation

namespace SurveyGraph.WriteScript

open Write

variable {α : Type}

/-- One thing happens to the program of a script. -/
def Goes (s t : State) : Prop := Happens s.program t.program

lemma after_written (x : WriteM α) (s : State) :
    after (written x) s = ((after x s.program).1, { s with program := (after x s.program).2 }) := by
  change _ = ((x.run.run s.program).1, { s with program := (x.run.run s.program).2 })
  unfold written
  rw [after_get_bind]
  cases x.run.run s.program with
  | mk r p => cases r <;> rfl

lemma keeps_written {x : WriteM α} (h : Keeps Happens x) : Keeps Goes (written x) := by
  refine fun s => ⟨?_, fun _ _ => trivial⟩
  rw [after_written]
  exact ReflTransGen.lift (p := Goes) (fun p => { s with program := p }) (fun _ _ h => h) _ _ (h s.program).1

variable {step : Term} {k : String}

lemma keeps_thingAt : Keeps Goes (thingAt step k) := .get_bind fun _ => .lift_bind fun _ => .lift _

lemma keeps_thingOr {default : Thing} : Keeps Goes (thingOr step k default) := by
  unfold thingOr
  split
  · exact .get_bind fun _ => .lift _
  · exact .pure _

lemma keeps_thingsAt : Keeps Goes (thingsAt step k) := by
  refine keeps_thingAt.bind fun t => ?_
  split
  · exact .pure _
  · exact .throw _

lemma keeps_thingsOr : Keeps Goes (thingsOr step k) := by
  unfold thingsOr
  split
  · exact .pure _
  · exact .pure _
  · exact keeps_thingsAt

lemma keeps_namedAt : Keeps Goes (namedAt step k) := by
  refine keeps_thingAt.bind fun t => ?_
  split
  · exact .pure _
  · exact .refuse _

lemma keeps_namedOr : Keeps Goes (namedOr step k) := by
  unfold namedOr
  split
  · exact .pure _
  · exact .pure _
  · exact keeps_namedAt

lemma keeps_classAt : Keeps Goes (classAt step k) := by
  refine .lift_bind fun t => .get_bind fun s => ?_
  split
  · exact .pure _
  · exact .refuse _

lemma keeps_valueOr {default : Value} : Keeps Goes (valueOr step k default) := by
  refine keeps_thingOr.bind fun t => ?_
  split
  · exact .pure _
  · exact .pure _

end WriteScript

/-! A step of a script first reads what it is given. -/

namespace Keeps

open Write WriteScript

variable {α β : Type} {step : Term} {k : String}

lemma thing {f : Thing → StepM α} (h : ∀ t, Keeps Goes (f t)) : Keeps Goes (thingAt step k >>= f) := keeps_thingAt.bind h

lemma thingOr {default : Thing} {f : Thing → StepM α} (h : ∀ t, Keeps Goes (f t)) :
    Keeps Goes (thingOr step k default >>= f) := keeps_thingOr.bind h

lemma things {f : List Thing → StepM α} (h : ∀ ts, Keeps Goes (f ts)) : Keeps Goes (thingsAt step k >>= f) :=
  keeps_thingsAt.bind h

lemma nodes {t : Thing} {f : Thing → WriteM α} (h : ∀ t, Keeps Happens (f t)) : Keeps Happens (toNodes t >>= f) :=
  keeps_toNodes.bind h

lemma returning {x : WriteM α} {g : α → β} (h : Keeps Happens x) : Keeps Goes (written x >>= fun a => Pure.pure (g a)) :=
  (keeps_written h).bind fun _ => .pure _

end Keeps

namespace WriteScript

open Write

variable {α : Type} {step : Term} {k : String}

lemma keeps_relationNodes {r : GivenRelation} : Keeps Happens (relationNodes r) :=
  .nodes fun _ => .nodes fun _ => .nodes fun _ => .pure _

lemma keeps_mergeStep : Keeps Goes (mergeStep step) := by
  refine .thing fun _ => .thing fun _ => .thingOr fun _ => keeps_thingsOr.bind fun _ =>
    keeps_thingsOr.bind fun _ => .thingOr fun _ => .thingOr fun _ => keeps_valueOr.bind fun _ =>
    .lift_bind fun _ => keeps_written ?_
  refine .nodes fun _ => .nodes fun _ => .nodes fun _ => ?_
  refine (Keeps.mapM fun _ => keeps_relationNodes).bind fun _ => (Keeps.mapM fun _ => keeps_toNodes).bind fun _ => ?_
  exact .nodes fun _ => (Leads.keeps keeps_mergeNode).bind fun _ => .pure _

lemma keeps_arithmetic {op : Operator} {symbol hint : String} : Keeps Goes (arithmetic step op symbol hint) := by
  refine .thing fun a => .thing fun b => ?_
  split
  · exact .returning keeps_combine
  · split
    · exact .lift_bind fun _ => .pure _
    · exact .refuse _

lemma keeps_memberStep : Keeps Goes (memberStep step) := by
  refine .thing fun on => .thing fun key => ?_
  split
  · split
    · dsimp only
      split
      · exact .pure _
      · exact .refuse _
    · exact .refuse _
  · split
    · exact .pure _
    · exact .refuse _
  · exact .returning keeps_member

lemma keeps_getStep : Keeps Goes (getStep step) := by
  refine .thing fun on => .thing fun key => ?_
  split
  · exact .ite (.returning keeps_namedItem) (.returning keeps_itemOf)
  · exact .get_bind fun _ => .refuse _
  · exact .ite (.refuse _) (.refuse _)

lemma keeps_field {on : Thing} {name : String} : Keeps Goes (field on name) := by
  refine .get_bind fun s => ?_
  split
  · dsimp only
    split
    · split
      · exact .pure _
      · exact .refuse _
    · exact .pure _
    · exact .pure _
    · exact .pure _
    · exact .lift_bind fun _ => .pure _
    · exact .lift_bind fun _ => .pure _
    · exact .pure _
    · split
      · exact .pure _
      · exact .refuse _
  · dsimp only
    split
    all_goals first | exact .pure _ | exact .refuse _
  · exact .refuse _

lemma keeps_instanceAt : Keeps Goes (instanceAt step k) := by
  refine .thing fun t => ?_
  split
  · exact .pure _
  · exact .refuse _

lemma keeps_codeStep : Keeps Goes (codeStep step) := by
  refine keeps_classAt.bind fun cls => .thing fun code => .get_bind fun s => .ite ?_ (.ite ?_ (.refuse _))
  · exact .returning Survey.keeps_armsOfCode
  · exact .returning Survey.keeps_programOfCode

lemma keeps_headerStep : Keeps Goes (headerStep step) := by
  refine keeps_classAt.bind fun cls => ?_
  split
  case' h_1 => refine keeps_thingAt.map.bind fun block => ?_
  all_goals
    refine .thing fun header => .get_bind fun s => .refuseIf (.refuseIf ?_)
    split
    · exact .refuse _
    · split
      · exact .returning Survey.keeps_conditionsOfHeader
      · exact .returning Survey.keeps_exposureOfHeader

lemma keeps_renderStep : Keeps Goes (renderStep step) :=
  .thingOr fun _ => .get_bind fun _ => keeps_valueOr.bind fun _ => keeps_valueOr.bind fun _ =>
    (keeps_written keeps_render).bind fun _ => .get_bind fun _ => .pure _

lemma keeps_performPlain : Keeps Goes (performPlain step) := by
  unfold performPlain
  split
  · exact .thing fun _ => keeps_valueOr.bind fun _ => .returning keeps_newData
  · exact keeps_valueOr.bind fun _ => .returning keeps_newPlain
  · exact keeps_memberStep.bind fun _ => .pure _
  · exact keeps_getStep.bind fun _ => .pure _
  · exact keeps_arithmetic.bind fun _ => .pure _
  · exact keeps_arithmetic.bind fun _ => .pure _
  · exact .thing fun _ => .thing fun _ => .returning keeps_append
  · exact .thing fun _ => .thing fun _ => .returning keeps_named
  · exact .thing fun _ => .returning keeps_named
  · exact keeps_mergeStep.bind fun _ => .pure _
  · exact .thing fun _ => .thing fun _ => .returning (.nodes fun _ => .nodes fun _ => Leads.keeps keeps_matchNode)
  · exact .thing fun _ => .thing fun _ => .thing fun _ => .thing fun _ =>
      .returning (.nodes fun _ => .nodes fun _ => .nodes fun _ => Leads.keeps keeps_matchRelation)
  · exact .thing fun _ => .thingOr fun _ => .thingOr fun _ => .thingOr fun _ => .thingOr fun _ =>
      .returning (.nodes fun _ => .nodes fun _ => .nodes fun _ => .nodes fun _ => Leads.keeps keeps_matchPattern)
  · exact .thing fun _ => .thing fun _ => .returning (.nodes fun _ => Leads.keeps keeps_matchId)
  · exact .things fun _ => .returning ((Keeps.mapM fun _ => keeps_toNodes).bind fun _ => Leads.keeps keeps_matchBranch)
  · exact .thing fun _ => .thing fun _ => .thing fun _ => .thing fun _ => .thing fun _ => keeps_valueOr.bind fun _ =>
      .returning (.nodes fun _ => .nodes fun _ => .nodes fun _ => .nodes fun _ => Leads.keeps keeps_mergeRelation)
  · exact .things fun _ => .things fun _ => .thing fun _ => .thing fun _ => .thing fun _ =>
      .returning ((Keeps.mapM fun _ => keeps_toNodes).bind fun _ => .nodes fun _ => .nodes fun _ => Leads.keeps keeps_setVersion)
  · exact .thing fun _ => .thing fun _ => .thing fun _ => .thing fun _ => .thing fun _ =>
      .returning (.nodes fun _ => Leads.keeps keeps_validateNumber)
  · exact .thing fun _ => .thing fun _ => .returning (.nodes fun _ => Leads.keeps keeps_validateType)
  · exact .things fun _ => .thingOr fun _ =>
      .returning ((Keeps.mapM fun _ => keeps_toNodes).bind fun _ => keeps_collect.bind fun _ => .pure _)
  · exact .thing fun _ => .thing fun _ => .returning (Leads.keeps keeps_groupBy)
  · exact .things fun _ => .returning keeps_copy
  · exact .lift_bind fun _ => keeps_thingsOr.bind fun _ => keeps_thingsOr.bind fun _ => keeps_thingsOr.bind fun _ =>
      .returning keeps_custom
  · exact keeps_thingsOr.bind fun _ => keeps_namedOr.bind fun _ => .returning keeps_setReturns
  · exact keeps_renderStep.bind fun _ => .pure _
  · exact .returning keeps_forgetNames
  · exact keeps_classAt.bind fun _ => keeps_namedAt.bind fun _ => .thingOr fun _ => .thingOr fun _ =>
      .returning keeps_create
  · exact keeps_classAt.bind fun _ => keeps_namedAt.bind fun _ => .returning keeps_withoutCreation
  · exact keeps_classAt.bind fun _ => .thingOr fun _ => .thingOr fun _ => .thingOr fun _ => keeps_namedAt.bind fun _ =>
      .returning keeps_find
  · exact keeps_classAt.bind fun _ => .thing fun _ => .returning keeps_ofNode
  · exact keeps_classAt.bind fun _ => .thing fun _ => .returning keeps_ofNumber
  · exact keeps_instanceAt.bind fun _ => .thing fun _ => .thing fun _ => .thingOr fun _ => .thingOr fun _ =>
      .returning keeps_attachProduct
  · exact keeps_instanceAt.bind fun _ => keeps_namedAt.bind fun _ => .returning keeps_attachOptionals
  · refine .things fun _ => .get_bind fun _ => (Keeps.mapM fun t => ?_).bind fun _ => .returning keeps_findBranch
    split
    · exact .pure _
    · split
      · exact .pure _
      · exact .refuse _
  · exact .thing fun _ => .lift_bind fun _ => keeps_field.bind fun _ => .pure _
  · exact keeps_codeStep.bind fun _ => .pure _
  · exact keeps_headerStep.bind fun _ => .pure _
  · exact keeps_instanceAt.bind fun _ => .get_bind fun _ => .lift_bind fun _ => .lift_bind fun _ => .pure _
  · exact .refuse _

lemma keeps_openStep : Keeps Goes (openStep step) :=
  .things fun _ => .thingOr fun _ =>
    keeps_written ((Keeps.mapM fun _ => keeps_toNodes).bind fun _ => keeps_openBlock)

lemma goes_of_eq {s t : State} (h : t.program = s.program) : Goes s t := by
  unfold Goes
  rw [h]
  exact .aside s.program s.program.reg s.program.instances s.program.isOpen

lemma run_bind {β : Type} (m : StateM State α) (f : α → StateM State β) (s : State) :
    ((m >>= f).run s).2 = ((f (m.run s).1).run (m.run s).2).2 := rfl

mutual

lemma answer_goes : ∀ (step : Step) (s : State), ReflTransGen Goes s ((answer step).run s).2
  | .mk step body, s => by
    rw [answer]
    split
    · rw [run_bind]
      refine (@keeps_openStep step s).1.trans ?_
      change ReflTransGen Goes ((openStep step).run.run s).2 _
      generalize ((openStep step).run.run s).2 = t
      split
      · exact .refl
      · rename_i b _
        extract_lets thing
        rw [run_bind, run_bind, run_bind, run_bind]
        have hbind : Goes t ((bind step thing).run t).2 := goes_of_eq rfl
        exact .head hbind ((answers_goes body _).trans (keeps_written (keeps_closeBlock (b := b)) _).1)
    · rw [run_bind, run_bind, run_bind, run_bind]
      have hclosed : Goes s { s with program := { s.program with isOpen := false } } :=
        Happens.aside s.program s.program.reg s.program.instances false
      exact .head hclosed ((answers_goes body _).tail (Happens.aside _ _ _ s.program.isOpen))
    · rw [run_bind]
      refine (@keeps_performPlain step s).1.trans ?_
      change ReflTransGen Goes ((performPlain step).run.run s).2 _
      generalize ((performPlain step).run.run s).2 = t
      split
      · exact .single (goes_of_eq rfl)
      · exact .refl
      · exact .refl

lemma answers_goes : ∀ (steps : List Step) (s : State), ReflTransGen Goes s ((answers steps).run s).2
  | [], s => .refl
  | step :: steps, s => by
    rw [answers, run_bind]
    exact (answer_goes step s).trans (answers_goes steps _)

end

def program (reg : Registry) (rule : Value) (steps : List Term) : Program :=
  let state : State := { program := .start reg rule, vars := [("time", .var Program.time)] }
  ((answers (Step.ofTerms steps)).run state).2.program

lemma program_course (reg : Registry) (rule : Value) (steps : List Term) :
    ReflTransGen Happens (.start reg rule) (program reg rule steps) :=
  ReflTransGen.lift State.program (fun _ _ h => h) _ _
    (answers_goes (Step.ofTerms steps) { program := .start reg rule, vars := [("time", .var Program.time)] })

end SurveyGraph.WriteScript
