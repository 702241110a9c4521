import SurveyGraph.Script.Term
import SurveyGraph.Survey.Observing
import SurveyGraph.Value.Arithmetic
import SurveyGraph.Write.Render
/-!
# Scripts that write

A script that builds one program: its steps make variables, instances and statements, and write the program
down. A step that goes through lists has a body of steps of its own.
-/
namespace SurveyGraph

inductive Step where
  | mk (fields : Term) (body : List Step)
  deriving Inhabited

namespace Step

mutual

def ofTerm : Term → Step
  | .record es => .mk (.record es) (bodyOf es)
  | t => .mk t []

def bodyOf : List (String × Term) → List Step
  | [] => []
  | (k, .list xs) :: es => if k == "body" then ofTerms xs else bodyOf es
  | _ :: es => bodyOf es

def ofTerms : List Term → List Step
  | [] => []
  | x :: xs => ofTerm x :: ofTerms xs

end

end Step

namespace WriteScript

open Write

variable (step : Term) (k : String)

def variableReport (p : Program) (v : VarId) : Answer :=
  let x := p.get v
  .record [("variable", .text x.kind.name), ("hint", .value (match x.hint with | .text s => .text s | _ => .none))]

mutual

def report (p : Program) : Thing → Answer
  | .plain v => .value v
  | .var v => variableReport p v
  | .object o =>
    let i := p.getInstance o
    .record [("object", .text (p.reg.nameOf i.cls)), ("repr", .text (p.text (.object o))), ("uses_tables", .bool i.usesTables),
      ("node", match i.node with | some v => variableReport p v | none => .value .none)]
  | .cls c => .value (.cls (p.reg.nameOf c))
  | .list xs | .tuple xs => .list (reports p xs)
  | .dict es => .record (entryReports p es)

def reports (p : Program) : List Thing → List Answer
  | [] => []
  | x :: xs => report p x :: reports p xs

def entryReports (p : Program) : List (Thing × Thing) → List (String × Answer)
  | [] => []
  | (k, v) :: es => (p.text k, report p v) :: entryReports p es

end

structure State where
  program : Program
  vars : Bindings Thing

abbrev StepM := ExceptT Fault (StateM State)

def written {α : Type} (x : WriteM α) : StepM α := do
  let s ← get
  let (r, p) := x.run.run s.program
  set { s with program := p }
  match r with
  | .ok a => return a
  | .error f => throw f

mutual

def thing (vars : Bindings Thing) : Term → Except Fault Thing
  | .value v => .ok (.plain v)
  | .var name => vars.value name
  | .list xs => return .list (← things vars xs)
  | .tuple xs => return .tuple (← things vars xs)
  | .pairs es => return .dict (← pairThings vars es)
  | .record es => return .dict (← recordThings vars es)

def things (vars : Bindings Thing) : List Term → Except Fault (List Thing)
  | [] => .ok []
  | x :: xs => return (← thing vars x) :: (← things vars xs)

def pairThings (vars : Bindings Thing) : List (Term × Term) → Except Fault (List (Thing × Thing))
  | [] => .ok []
  | (k, v) :: es => return (← thing vars k, ← thing vars v) :: (← pairThings vars es)

def recordThings (vars : Bindings Thing) : List (String × Term) → Except Fault (List (Thing × Thing))
  | [] => .ok []
  | (k, v) :: es => return (.text k, ← thing vars v) :: (← recordThings vars es)

end

def thingAt : StepM Thing := do
  let vars := (← get).vars
  thing vars (← step.get k)

def thingOr (default : Thing := .nothing) : StepM Thing := do
  match step.get? k with
  | some t => thing (← get).vars t
  | none => return default

def thingsAt : StepM (List Thing) := do
  match (← thingAt step k).each with
  | .ok xs => return xs
  | .error f => throw f

def thingsOr : StepM (List Thing) := do
  match step.get? k with
  | some (.value .none) | none => return []
  | some _ => thingsAt step k

def namedAt : StepM (List (String × Thing)) := do
  match (← thingAt step k).entries? with
  | some es => return es.map (fun e => (e.1.text?.getD "", e.2))
  | none => refuse .badType

def namedOr : StepM (List (String × Thing)) := do
  match step.get? k with
  | some (.value .none) | none => return []
  | some _ => namedAt step k

def classAt : StepM ClassId := do
  match (← step.get k).text?.bind (← get).program.reg.find? with
  | some c => return c
  | none => refuse .missingKey

def valueOr (default : Value) : StepM Value := do
  match (← thingOr step k (.plain default)).value? with
  | some v => return v
  | none => return .list []

def relationsOf (ts : List Thing) : Except Fault (List GivenRelation) := do
  let rs ← ts.mapM fun t => do
    match ← t.each with
    | [] => refuse .outOfRange
    | other :: rest =>
      match other with
      | .list _ | .dict _ | .plain (.list _) | .plain (.dict _) => refuse .badType
      | _ => return (other, rest)
  let rs := rs.foldl (fun acc r => put r acc) []
  rs.mapM fun (other, rest) =>
    match rest with
    | type :: inward :: ident :: properties :: _ =>
      return { other, type, inward := inward.isTrue, ident, properties }
    | _ => refuse .outOfRange
where
  put (r : Thing × List Thing) : List (Thing × List Thing) → List (Thing × List Thing)
    | [] => [r]
    | s :: rest => if s.1.same r.1 then (s.1, r.2) :: rest else s :: put r rest

/-- A record of things with nodes for instances in all parts of relations. -/
def relationNodes (r : GivenRelation) : WriteM GivenRelation := do
  let other ← toNodes r.other
  let ident ← toNodes r.ident
  return { r with other, ident, properties := ← toNodes r.properties }

def mergeStep : StepM Thing := do
  let labels ← thingAt step "labels"
  let ident ← thingAt step "ident"
  let properties ← thingOr step "properties"
  let given ← thingsOr step "id_rels"
  let absent ← thingsOr step "anti_id_rels"
  let label ← thingOr step "versioned_label"
  let versioned ← thingOr step "versioned_properties"
  let rule ← valueOr step "collision_manager" (.text "track&flag")
  let relations ← relationsOf given
  written do
    let labels ← toNodes labels
    let ident ← toNodes ident
    let properties ← toNodes properties
    let relations ← relations.mapM relationNodes
    let relations := eachOnce relations
    let absent ← absent.mapM toNodes
    let versioned ← toNodes versioned
    let orNone (t : Thing) : Thing := if t.isNothing then .dict [] else t
    let version := if label.isNothing then none else some (label, orNone versioned)
    let v ← mergeNode labels ident (orNone properties) relations absent rule version
    return .var v

def arithmetic (op : Operator) (symbol hint : String) : StepM Thing := do
  let a ← thingAt step "a"
  let b ← thingAt step "b"
  match a with
  | .var v => do return .var (← written (combine symbol hint v b))
  | _ =>
    match a.value?, b.value? with
    | some x, some y => return .plain (← Value.combine op x y)
    | _, _ => refuse .badType

def memberStep : StepM Thing := do
  let on ← thingAt step "on"
  let key ← thingAt step "key"
  match on, on.sequence?, on.entries? with
  | _, some xs, _ =>
    match key with
    | .plain (.int n) =>
      let i := if n < 0 then n + xs.length else n
      match if i < 0 then none else xs[i.toNat]? with
      | some x => return x
      | none => refuse .outOfRange
    | _ => refuse .badType
  | _, _, some es =>
    match es.find? (fun e => e.1.same key) with
    | some e => return e.2
    | none => refuse .missingKey
  | _, _, _ => return .var (← written (member on key))

/-- The member of a variable under a key, with a name only if it is asked for. -/
def getStep : StepM Thing := do
  let on ← thingAt step "on"
  let key ← thingAt step "key"
  match on with
  | .var v =>
    if step.isTrue "alias" then return .var (← written (namedItem v key))
    else return .var (← written (itemOf v key)).1
  | .object _ => refuse (WriteCause.noQuery ((← get).program.text on) "get")
  | _ => if on.entries?.isSome then refuse .badType else refuse .missingAttribute

def classField (c : Class) (name : String) : Option Thing :=
  let texts (xs : List String) : Thing := .plain (.list (xs.map .text))
  let textOr (s : Option String) : Thing := match s with | some s => .text s | none => .nothing
  match name with
  | "idname" => some (textOr c.idname)
  | "singular_name" | "name" => some (.text c.singularName)
  | "plural_name" => some (.text c.pluralName)
  | "factors" => some (texts c.factors)
  | "products" => some (texts c.products)
  | "products_and_factors" => some (texts c.productsAndFactors)
  | "version_on" => some (texts c.versionOn)
  | "aliases" => some (texts c.aliases)
  | "identifier_builder" => some (match c.identity with | some xs => texts xs | none => .nothing)
  | "is_template" => some (.plain (.bool c.isTemplate))
  | "indexable" => some (.plain (.bool c.indexable))
  | "data" | "query" => some .nothing
  | _ => none

def field (on : Thing) (name : String) : StepM Thing := do
  let p := (← get).program
  match on with
  | .object o =>
    let i := p.getInstance o
    match i.fields.lookup name, name with
    | _, "node" =>
      match i.node with
      | some v => return .var v
      | none => refuse (WriteCause.noQuery (p.text on) name)
    | _, "identifier" => return i.identifier
    | _, "uses_tables" => return .plain (.bool i.usesTables)
    | _, "neotypes" => return .plain (.list ((p.reg.labels i.cls).map .text))
    | _, "neoproperties" => return .dict (← p.factorsOf i false)
    | _, "neoidentproperties" => return .dict (← p.identityOf i)
    | some t, _ => return t
    | none, _ =>
      match classField (p.reg.get i.cls) name with
      | some t => return t
      | none => refuse (WriteCause.noQuery (p.text on) name)
  | .var v =>
    let x := p.get v
    match name, x.kind with
    | "namehint", _ => return .plain x.hint
    | "name", .derived .. => return .text (p.varText v)
    | "name", _ => return match x.name with | some s => .text s | none => .nothing
    | "is_mapping", .data _ => return .plain (.bool x.kind.isMapping)
    | "is_mapping", _ => return .nothing
    | "data", .data t => return t
    | "parent", .derived _ parent => return .var parent
    | _, _ => refuse .missingAttribute
  | _ => refuse .missingAttribute

def instanceAt : StepM InstanceId := do
  match ← thingAt step k with
  | .object o => return o
  | _ => refuse .missingAttribute

def varList (vs : List VarId) : Thing := .list (vs.map .var)

def codeStep : StepM Thing := do
  let cls ← classAt step "cls"
  let code ← thingAt step "code"
  let reg := (← get).program.reg
  if Survey.isOwn reg cls "ArmConfig" then
    let (red, blue) ← written (Survey.armsOfCode cls code)
    return .tuple [.object red, .object blue]
  else if Survey.isOwn reg cls "Progtemp" then
    return .object (← written (Survey.programOfCode cls code))
  else refuse .missingAttribute

def headerStep : StepM Thing := do
  let cls ← classAt step "cls"
  let block ← match step.get? "ob" with
    | some _ => some <$> thingAt step "ob"
    | none => pure none
  let header ← thingAt step "header"
  let reg := (← get).program.reg
  let isConditions := Survey.isOwn reg cls "Obstemp"
  if !isConditions && !Survey.isOwn reg cls "Exposure" then refuse .missingAttribute
  if isConditions == block.isSome then refuse .badType
  match header.entries? with
  | none => refuse .badType
  | some es =>
    let view : Survey.HeaderView := fun k => (es.find? (fun e => e.1.same (.text k))).map (·.2)
    match block with
    | none => return .object (← written (Survey.conditionsOfHeader cls view))
    | some b => return .object (← written (Survey.exposureOfHeader cls b view))

def renderStep : StepM Answer := do
  let tag ← thingOr step "procedure_tag" (.text "")
  let p := (← get).program
  let size ← valueOr step "statement_batch_size" .none
  let batch ← valueOr step "statement_batch_i" .none
  let r ← written (render (p.text tag) (step.isTrue "as_lines") size batch)
  let p := (← get).program
  return .record [("cypher", .texts r.lines), ("params", .record (r.params.map (fun e => (e.1, report p e.2))))]

def done : Outcome Thing := .result .nothing

def performPlain : StepM (Outcome Thing) := do
  let var (x : WriteM VarId) : StepM (Outcome Thing) := do return .result (.var (← written x))
  let object (x : WriteM InstanceId) : StepM (Outcome Thing) := do return .result (.object (← written x))
  let nothing (x : WriteM Unit) : StepM (Outcome Thing) := do
    written x
    return done
  match (step.get? "do").bind Term.text? with
  | some "data" => do
    let value ← thingAt step "value"
    let hint ← valueOr step "name" (.text "data")
    var (newData value hint)
  | some "variable" => do var (newPlain (← valueOr step "hint" .none))
  | some "item" => return .result (← memberStep step)
  | some "get" => return .result (← getStep step)
  | some "add" => return .result (← arithmetic step .add "+" "add")
  | some "sub" => return .result (← arithmetic step .sub "-" "sub")
  | some "string-append" => do
    let a ← thingAt step "a"
    let b ← thingAt step "b"
    var (append a b (step.isTrue "alias"))
  | some "find-replace" => do
    let a ← thingAt step "a"
    let b ← thingAt step "b"
    var (named (.replaced a b) "replaced")
  | some "to-string" => do
    let a ← thingAt step "a"
    var (named (.asText a) "string")
  | some "merge-node" => return .result (← mergeStep step)
  | some "match-node" => do
    let labels ← thingAt step "labels"
    let properties ← thingAt step "properties"
    let optional := step.isTrue "optional"
    var do matchNode (← toNodes labels) (← toNodes properties) optional
  | some "match-relationship" => do
    let parent ← thingAt step "parent"
    let child ← thingAt step "child"
    let type ← thingAt step "type"
    let properties ← thingAt step "properties"
    let optional := step.isTrue "optional"
    var do
      let parent ← toNodes parent
      let child ← toNodes child
      matchRelation parent child (hintFrom type) (← toNodes properties) optional
  | some "match-pattern-node" => do
    let labels ← thingAt step "labels"
    let properties ← thingOr step "properties"
    let parents ← thingOr step "parents"
    let children ← thingOr step "children"
    let exclude ← thingOr step "exclude"
    var do
      let properties ← toNodes properties
      let parents ← toNodes parents
      let children ← toNodes children
      matchPattern labels properties parents children (← toNodes exclude)
  | some "match-id-node" => do
    let labels ← thingAt step "labels"
    let id ← thingAt step "id"
    var do matchId labels (← toNodes id)
  | some "match-branch-node" => do
    let path ← thingsAt step "path"
    let vs ← written do matchBranch (← path.mapM toNodes)
    return .result (varList vs)
  | some "merge-relationship" => do
    let parent ← thingAt step "parent"
    let child ← thingAt step "child"
    let type ← thingAt step "type"
    let ident ← thingAt step "ident"
    let properties ← thingAt step "properties"
    let rule ← valueOr step "collision_manager" (.text "track&flag")
    var do
      let parent ← toNodes parent
      let child ← toNodes child
      let ident ← toNodes ident
      mergeRelation parent child (hintFrom type) ident (← toNodes properties) rule
  | some "set-version" => do
    let parents ← thingsAt step "parents"
    let types ← thingsAt step "types"
    let label ← thingAt step "label"
    let child ← thingAt step "child"
    let properties ← thingAt step "properties"
    nothing do
      let parents ← parents.mapM toNodes
      let child ← toNodes child
      setVersion parents types label child (← toNodes properties)
  | some "validate-number" => do
    let on ← thingAt step "on"
    let min ← thingAt step "min"
    let max ← thingAt step "max"
    let central ← thingAt step "central"
    let joined ← thingAt step "join"
    nothing do validateNumber (← toNodes on) min max central joined
  | some "validate-type" => do
    let on ← thingAt step "on"
    let label ← thingAt step "label"
    nothing do validateType (← toNodes on) label
  | some "collect" => do
    let args ← thingsAt step "args"
    let skip ← thingOr step "skip_nones" (.plain (.bool true))
    return .result (← written do collectThings (← args.mapM toNodes) skip.isTrue)
  | some "groupby" => do
    let on ← thingAt step "on"
    let property ← thingAt step "property"
    var (groupBy on property)
  | some "copy" => do
    let args ← thingsAt step "args"
    return .result (varList (← written (copy args)))
  | some "custom" => do
    let format ← step.getText "format"
    let inputs ← thingsOr step "inputs"
    let returned ← thingsOr step "returns"
    let others ← thingsOr step "outputs"
    return .result (varList (← written (custom format inputs returned others)))
  | some "returns" => do
    let args ← thingsOr step "args"
    let named ← namedOr step "named"
    nothing (setReturns args named)
  | some "render" => return .answer (← renderStep step)
  | some "forget-names" => nothing forgetNames
  | some "new" => do
    let cls ← classAt step "cls"
    let named ← namedAt step "named"
    let table ← thingOr step "tables"
    let columns ← thingOr step "tables_replace"
    object (create cls
      { named, table := if table.isNothing then none else some table
        columns := if columns.isNothing then .dict [] else columns })
  | some "without-creation" => do
    let cls ← classAt step "cls"
    object (withoutCreation cls (← namedAt step "named"))
  | some "find" => do
    let cls ← classAt step "cls"
    let children ← thingOr step "anonymous_children"
    let parents ← thingOr step "anonymous_parents"
    let exclude ← thingOr step "exclude"
    let named ← namedAt step "named"
    object (find cls named children parents exclude)
  | some "from-variable" => do
    let cls ← classAt step "cls"
    let on ← thingAt step "on"
    object (ofNode cls on)
  | some "from-neo4j-id" => do
    let cls ← classAt step "cls"
    let id ← thingAt step "id"
    object (ofNumber cls id)
  | some "attach-product" => do
    let on ← instanceAt step "on"
    let name ← thingAt step "name"
    let unit ← thingAt step "hdu"
    let index ← thingOr step "index"
    let column ← thingOr step "column_name"
    nothing (attachProduct on name unit index column)
  | some "attach-optionals" => do
    let on ← instanceAt step "on"
    let named ← namedAt step "named"
    nothing (attachOptionals on named)
  | some "find-branch" => do
    let path ← thingsAt step "path"
    let reg := (← get).program.reg
    let path ← path.mapM fun t =>
      match t.text? with
      | none => pure t
      | some name =>
        match reg.find? name with
        | some c => pure (Thing.cls c)
        | none => refuse .missingKey
    return .result (.list ((← written (findBranch path)).map .object))
  | some "field" => do
    let on ← thingAt step "on"
    return .result (← field on (← step.getText "name"))
  | some "from-code" => return .result (← codeStep step)
  | some "from-header" => return .result (← headerStep step)
  | some "node-properties" => do
    let o ← instanceAt step "on"
    let p := (← get).program
    let i := p.getInstance o
    let ident ← p.identityOf i
    let other ← p.factorsOf i false
    return .answer (report p (.dict [(.text "ident", .dict ident), (.text "other", .dict other),
      (.text "labels", .list ((p.reg.labels i.cls).map .text))]))
  | _ => refuse .missingAttribute

def bind (t : Thing) : StateM State Unit :=
  modify fun s => { s with vars := s.vars.bindAs step t (t.sequence?.getD [t]) }

def openStep : StepM Block := do
  let args ← thingsAt step "args"
  let useCopy ← thingOr step "use_copy" (.plain (.bool true))
  written do openBlock (← args.mapM toNodes) (step.isTrue "enumerated") useCopy.isTrue

mutual

def answer : Step → StateM State Answer
  | .mk step body => do
    match (step.get? "do").bind Term.text? with
    | some "unwind" => do
      match ← (openStep step).run with
      | .error f => return .fault f
      | .ok b => do
        let t := match b.members with
          | [v] => Thing.var v
          | vs => .tuple (vs.map .var)
        bind step t
        let unwound := report (← get).program t
        let answers ← answers body
        let _ ← (written (closeBlock b)).run
        return .record [("unwound", unwound), ("body", .list answers)]
    | some "no-context" => do
      let wasOpen := (← get).program.isOpen
      modify fun s => { s with program := { s.program with isOpen := false } }
      let answers ← answers body
      modify fun s => { s with program := { s.program with isOpen := wasOpen } }
      return .list answers
    | _ => do
      match ← (performPlain step).run with
      | .ok (.result t) => do
        bind step t
        return report (← get).program t
      | .ok (.answer a) => return a
      | .error f => return .fault f

def answers : List Step → StateM State (List Answer)
  | [] => return []
  | s :: ss => do
    let a ← answer s
    return a :: (← answers ss)

end

def run (reg : Registry) (rule : Value) (steps : List Term) : List Answer :=
  let state : State := { program := .start reg rule, vars := [("time", .var Program.time)] }
  ((answers (Step.ofTerms steps)).run state).1

end WriteScript

end SurveyGraph
