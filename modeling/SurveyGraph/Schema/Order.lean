import SurveyGraph.Schema.Identity
/-!
# Orders and closures of classes

`dependencyOrder` lists classes so that each comes after the classes it is related to, `typeOrder`
so that each comes after the classes it extends. `reachable` collects the classes that can be
reached from a class through its relations.
-/
namespace SurveyGraph

structure Worklist where
  queue : List ClassId
  /-- How many classes in a row have been put back. -/
  misses : Nat := 0
  done : List ClassId := []

namespace Worklist

/-- Takes a class from the queue: one to `skip` is dropped, a `ready` one is done, others go to the end. No
step is left when the queue is empty, or after a round without result. -/
def step (ready : List ClassId → ClassId → Bool) (skip : ClassId → Bool) (w : Worklist) : Option Worklist :=
  match w.queue with
  | [] => none
  | c :: queue =>
    if w.misses == queue.length + 1 then none
    else if skip c then some { w with queue }
    else if ready w.done c then some { queue, done := w.done ++ [c] }
    else some { w with queue := queue ++ [c], misses := w.misses + 1 }

/-- The state in which no step is left, if fewer than `fuel` steps lead there. -/
def run (ready : List ClassId → ClassId → Bool) (skip : ClassId → Bool) : Nat → Worklist → Option Worklist
  | 0, _ => none
  | fuel + 1, w =>
    match w.step ready skip with
    | none => some w
    | some w => run ready skip fuel w

end Worklist

namespace Registry

variable (reg : Registry) (c : ClassId) (cs : List ClassId)

def relatedClasses : List (Option ClassId) :=
  ((reg.get c).parents ++ (reg.get c).children).map memberClass?

/-- A number of steps that suffices for a queue of `n` classes. -/
def orderFuel (n : Nat) : Nat := (n + 1) * (n + 1) + 1

/-- The classes that have been put in order, unless a class was left or it took too long. -/
def ordered (cause : List String → SchemaCause) : Option Worklist → Except Fault (List ClassId)
  | some { queue := [], done, .. } => .ok done
  | some w => refuse (cause (w.queue.map (fun c => (reg.get c).shown)))
  | none => refuse .tooDeep

/-- Whether all classes that a class is related to are done, itself apart. -/
def relativesDone (done : List ClassId) (c : ClassId) : Bool :=
  (reg.relatedClasses c).all fun d =>
    match d with
    | some d => d == c || done.contains d
    | none => false

/-- Puts classes in order, each after those it is related to, early if it has few relations. Templates are
left out. -/
def dependencyRun : Option Worklist :=
  let weight (c : ClassId) : Nat :=
    let k := reg.get c
    k.children.length + k.parents.length + k.products.length
  Worklist.run reg.relativesDone (fun c => (reg.get c).isTemplate) (orderFuel cs.length)
    { queue := cs.mergeSort (fun a b => weight a ≤ weight b) }

def dependencyOrder : Except Fault (List ClassId) :=
  reg.ordered .cyclicDependencies (reg.dependencyRun cs)

/-- Resolves the relations of some classes as far as the classes they name are known. -/
def resolveKnown : Registry :=
  { reg with
    classes := (List.range reg.classes.size).foldl (fun ks c =>
      if cs.contains c then
        ks.modify c (fun k =>
          { k with
            children := k.children.map reg.resolveMember
            parents := k.parents.map reg.resolveMember
            relativeNames := k.relativeNames.map (fun p => (p.1, reg.resolveRelation p.2)) })
      else ks) reg.classes }

def typeRun : Option Worklist :=
  Worklist.run (fun done c => (reg.properBases c).all done.contains) (fun _ => false) (orderFuel cs.length) { queue := cs }

def typeOrder : Except Fault (List ClassId) :=
  reg.ordered .cyclicTypes (reg.typeRun cs)

def childrenOf : List ClassId :=
  reg.declared.filter (fun d => (reg.get d).parents.any (fun m => memberClass? m == some c))

def members : List Member := (reg.get c).parents ++ (reg.get c).children ++ (reg.get c).produces

def nextClasses (templates : Bool) (c : ClassId) : List ClassId :=
  ((reg.members c).filterMap memberClass?).eraseDups.filter (fun d => templates || !(reg.get d).isTemplate)

/-- Goes on to a class unless it is finished or the class at hand. The state holds the classes met and
finished. -/
def visit (search : ClassId → List ClassId → Except Fault (List ClassId × List ClassId)) (c : ClassId)
    (s : List ClassId × List ClassId) (d : ClassId) : Except Fault (List ClassId × List ClassId) :=
  if s.2.contains d || d == c then .ok s
  else (search d s.2).map fun (met, done) => (s.1 ++ met, done ++ [d])

/-- Goes from a class to all that can be reached. `done` holds the classes finished before, `order` orders the
classes next to a class, and `fuel` bounds the depth. -/
def reachWithin (reg : Registry) (order : ClassId → List ClassId → List ClassId) (templates : Bool) :
    Nat → ClassId → List ClassId → Except Fault (List ClassId × List ClassId)
  | 0, _, _ => refuse .tooDeep
  | fuel + 1, c, done =>
    if (reg.members c).any (fun m => (memberClass? m).isNone) then refuse .missingAttribute
    else ((order c (reg.nextClasses templates c)).foldlM (visit (reg.reachWithin order templates fuel) c) ([], done)).map
      fun (met, done) => ((c :: met).eraseDups, done)

/-- The classes that can be reached from a class; relations in a circle have no end. -/
def reachable (templates : Bool) (c : ClassId) : Except Fault (List ClassId) :=
  (reg.reachWithin (fun _ => id) templates (reg.classes.size + 1) c []).map (·.1)

/-- A relation to a template as relations to the classes below it that have instances. -/
def expandTemplate (r : Relation) : Except Fault (List Relation) :=
  match r.target with
  | .awaiting _ => refuse .missingAttribute
  | .cls c =>
    if !(reg.get c).isTemplate then .ok [r]
    else .ok (((reg.subclasses c).filter (fun d => !(reg.get d).isTemplate)).map fun d =>
      { kind := .multiple, target := .cls d, toSelf := false, min := 0, max := r.max
        constrain := r.constrain, idname := r.idname, one2one := r.one2one
        ordered := false, notReal := false })

end Registry

end SurveyGraph

namespace SurveyGraph

/-! ## Names and classes made from a class -/

/-- The factors of a class, each under a longer name. The factor `value` adds nothing to it. -/
def Registry.asFactors (reg : Registry) (c : ClassId) (names : List Value) (start : String) :
    Except Fault (List String) :=
  let k := reg.get c
  match names with
  | [.list _] => refuse .badType
  | names =>
    if !(k.parents ++ k.children).isEmpty then
      refuse (SchemaCause.hasRelations k.shown (Value.tuple names).literal)
    else .ok (Declaration.lendFactors k.factors (names.map (·.display)) start)

/-- The class that extends `c` under a name of its own; it is made once. -/
def namedClass (c : ClassId) (name : String) : SchemaM ClassId := do
  let k := (← get).get c
  let full := Text.camelCase name ++ k.name
  match (← get).derived.lookup full with
  | some d => return d
  | none =>
    let d ← declare
      { name := full, scope := "weaveio.hierarchy", bases := [k.name]
        singularName := some (name ++ "_" ++ k.singularName)
        pluralName := some (name ++ "_" ++ k.pluralName) }
    modify fun reg => { reg with derived := reg.derived ++ [(full, d)] }
    return d

def namedClasses (c : ClassId) (names : List Value) : SchemaM (List ClassId) :=
  let names := match names with
    | [.list ns] => ns
    | ns => ns
  names.mapM (fun n => namedClass c n.display)

/-- Relations to one instance each under the first names, and to as many as the numbers say. -/
def relationsFromNames (c : String) (singles : List String) (numbers : List Value) :
    SchemaM (List Relation) := do
  let ones ← singles.mapM fun s =>
    Declaration.makeRelation { kind := .oneOf, node := .text c, idname := some s }
  let many ← numbers.mapM fun n =>
    match n with
    | .int _ | .bool _ =>
      Declaration.makeRelation { kind := .multiple, node := .text c, min := some n, max := some n }
    | .list xs | .tuple xs =>
      if xs.length > 7 then refuse .badType
      else refuse (SchemaCause.notAClass "<class 'weaveio.hierarchy.Multiple'>" "type")
    | .text _ | .dict _ =>
      refuse (SchemaCause.notAClass "<class 'weaveio.hierarchy.Multiple'>" "type")
    | _ => refuse .badType
  return ones ++ many

end SurveyGraph
