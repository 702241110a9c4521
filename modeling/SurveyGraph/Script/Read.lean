import SurveyGraph.Read.Help
import SurveyGraph.Read.Run
import SurveyGraph.Script.Files
/-!
# Scripts of queries

A script that reads: its steps make queries from queries and ask for their texts. All steps grow one plan.
-/
namespace SurveyGraph

namespace Query

def report (q : Query) : Answer :=
  .record [("query", .text q.shown), ("obj", .textOr q.obj), ("node", .nat q.node),
    ("index", .value (match q.index with
      | .unknown => .none
      | .start => .text "start"
      | .node n => .int n)),
    ("single", .bool q.single), ("names", .value (.list q.names)),
    ("products", .value (.list (q.products.map .bool))), ("dtype", .textOr q.dtype), ("one_row", .bool q.oneRow)]

end Query

namespace Item

mutual

def report : Item → Answer
  | .data => .record [("data", .bool true)]
  | .plain v _ => .value v
  | .query q => q.report
  | .aligned named unnamed =>
    .record [("aligned", .record (namedReports named ++ (reports unnamed).zipIdx.map fun (x, i) => (toString i, x))),
      ("repr", .text (Item.aligned named unnamed).shown)]
  | .list xs | .tuple xs => .list (reports xs)
  | .dict es => .record (entryReports es)

def reports : List Item → List Answer
  | [] => []
  | x :: xs => report x :: reports xs

def namedReports : List (String × Item) → List (String × Answer)
  | [] => []
  | (k, x) :: xs => (k, report x) :: namedReports xs

def entryReports : List (Item × Item) → List (String × Answer)
  | [] => []
  | (k, v) :: es => (k.shown, report v) :: entryReports es

end

def isKey : Item → Bool
  | .plain (.list _) _ | .plain (.dict _) _ | .plain (.set _) _ | .plain (.array ..) _ | .plain (.slice ..) _
  | .plain (.frame _) _ => false
  | .query q => q.kind == .table || q.kind == .start
  | .aligned .. | .list _ | .dict _ => false
  | _ => true

def sameKey : Item → Item → Bool
  | .plain v _, .plain w _ => Value.same v w
  | a, b => a.isSame b

/-- A record from its entries; of equal keys the last value counts. -/
def record (es : List (Item × Item)) : Except Fault Item := do
  if !es.all (fun e => e.1.isKey) then refuse .badType
  return .dict (es.foldl (fun acc e =>
    if acc.any (fun f => sameKey f.1 e.1) then
      acc.map (fun f => if sameKey f.1 e.1 then (f.1, e.2) else f)
    else acc ++ [e]) [])

end Item

namespace ReadScript

variable (step : Term) (k : String)

structure State where
  cat : Catalogue
  plan : Plan := {}
  vars : Bindings Item := [("data", .data)]
  opened : List (String × FitsFile) := []

abbrev StepM := ExceptT Fault (StateM State)

def planned {α : Type} (x : PlanM α) : StepM α := do
  let s ← get
  let (r, p) := x.run.run s.plan
  set { s with plan := p }
  r

def fresh (v : Value) : StepM Item := do return .plain v (← planned Plan.freshOccurrence)

mutual

def item : Term → StepM Item
  | .value v => fresh v
  | .var name => do (← get).vars.value name
  | .list xs => do return .list (← items xs)
  | .tuple xs => do return .tuple (← items xs)
  | .pairs es => do Item.record (← pairItems es)
  | .record es => do return .dict (← recordItems es)

def items : List Term → StepM (List Item)
  | [] => return []
  | x :: xs => do return (← item x) :: (← items xs)

def pairItems : List (Term × Term) → StepM (List (Item × Item))
  | [] => return []
  | (k, v) :: es => do
    let k ← item k
    let v ← item v
    return (k, v) :: (← pairItems es)

def recordItems : List (String × Term) → StepM (List (Item × Item))
  | [] => return []
  | (k, v) :: es => do
    let v ← item v
    return (.plain (.text k) .key, v) :: (← recordItems es)

end

def itemAt : StepM Item := do item (← step.get k)

def itemOr : StepM Item :=
  match step.get? k with
  | some t => item t
  | none => return .plain .none .fixed

def itemsAt : StepM (List Item) := do
  match step.get? k with
  | none => return []
  | some t =>
    match (← item t).members? with
    | some xs => return xs
    | none => refuse .badType

def namedAt : StepM (List (String × Item)) :=
  match step.get? k with
  | some t => t.entries.mapM (fun e => do return (e.1, ← item e.2))
  | none => return []

def window : Query.Window :=
  { skip := match step.getPlain "skip" with | .int n => n | _ => 0
    limit := match step.getPlain "limit" with | .int n => some n | _ => none
    distinct := step.isTrue "distinct" }

def paramsReport (ps : List (String × Item)) : Answer := .record (ps.map (fun p => (p.1, p.2.report)))

/-- A line as it is shown: the parts of a block of paths stand in the order of their texts. -/
def shownLine (s : String) : String :=
  let (head, between, foot) := ("CALL \x7b\n ", "\n\tUNION ALL\n", "\n\x7d")
  if Text.startsWith s head && Text.endsWith s foot then
    let parts := Text.cutOn between (String.ofList (s.toList.drop head.length).dropLast.dropLast)
    head ++ Text.join between (parts.mergeSort (fun a b => !(decide (b < a)))) ++ foot
  else s

def linesReport (lines : List String) : Answer := .lines (Text.join "\n" (lines.map shownLine))

def compiledReport (c : Compiled) : List (String × Answer) :=
  [("cypher", linesReport c.lines), ("ordering", .nats c.order), ("params", paramsReport c.params)]

def call (fn : String) (args : List Item) (named : List (String × Item)) : StepM Item := do
  let cat := (← get).cat
  let arg (i : Nat) (name : String) : Option Item := args[i]? <|> named.lookup name
  let nothing : Item := .plain .none .fixed
  let isTrue (x : Option Item) : Bool := match x with
    | some (.plain v _) => v.truthy
    | some _ => true
    | none => false
  let first (name : String) : StepM Item :=
    match arg 0 name with
    | some x => return x
    | none => refuse .badType
  match Aggregation.ofName? fn, Query.MathFunction.ofName? fn with
  | some a, _ => do
    let x ← first "item"
    let a := if fn == "array" then
        { a with distinct := isTrue (arg 2 "distinct"), nulls := isTrue (arg 3 "nulls") } else a
    planned (Item.aggregate cat fn a ((arg 1 "wrt").getD nothing) 4 x)
  | none, some f => do
    let x ← first (if fn == "to_int" then "x" else "item")
    planned (x.applyMath cat fn f)
  | none, none =>
    match fn with
    | "neo4j_id" => do
      match ← first "item" with
      | .query q => return .query (← planned (q.databaseId cat))
      | .data => refuse (ReadCause.noAttribute Item.dataShown "_G")
      | _ => refuse .missingAttribute
    | "switch" => do
      let x ← first "item"
      match arg 1 "states" with
      | some states => planned (x.switch cat states ((arg 2 "_else").getD nothing))
      | none => refuse .badType
    | _ => refuse .missingAttribute

def unaryOf (op : String) (digits : Value) : Option UnaryOperator :=
  match op with
  | "neg" => some .neg
  | "abs" => some .abs
  | "invert" => some .invert
  | "ceil" => some .ceil
  | "floor" => some .floor
  | "round" => some (.round digits.display)
  | _ => none

def planReport (p : Plan) : Answer :=
  let slot : Slot → Value
    | .text s => .text s
    | .node n => .int n
  let single (e : Arc Statement) : Value := match e.flags, e.single with
    | some fs, _ => .list (fs.map .bool)
    | none, some b => .bool b
    | none, none => .none
  let split (e : Arc Statement) : Value := match e.split with
    | some b => .bool b
    | none => .none
  let sort (e : Arc Statement) : Value := match e.label with
    | some s => .text s.sort
    | none => .none
  .record
    [("nodes", .value (.list (((List.range p.nodes.length).zip p.nodes).map (fun (i, n) =>
      .list [.int i, .text n.label, .list (n.slots.map slot)])))),
     ("edges", .value (.list (p.graph.arcsInOrder.map (fun e =>
      .list [.int e.src, .int e.dst, .text e.type.name, single e, split e, sort e]))))]

def help (what : String) (x : Item) (args : List Value) : StepM (List String) := do
  let cat := (← get).cat
  let flag (i : Nat) (default : Bool) : Bool := ((args[i]?).map (·.truthy)).getD default
  match what, x with
  | "attributes", .data => return (cat.pluralFactors.reverse.map (·.1)).eraseDups
  | "attributes", .query q => q.attributes cat (flag 0 false) (flag 1 false)
  | "attributes", x => refuse (ReadCause.notObjectOrData x.shown)
  | "objects", .data => return cat.plural.map (·.1)
  | "objects", .query q => q.objects cat (flag 0 true)
  | "find", .data => do return (cat.findNames (← Catalogue.textOf (args[0]?.getD .none))).take 10
  | "find", .query q => do q.find cat (← Catalogue.textOf (args[0]?.getD .none)) (args[1]?.getD (.int 10))
  | _, _ => refuse .missingAttribute

def completions (x : Item) : StepM (List String) := do
  let cat := (← get).cat
  match x with
  | .data =>
    let all := cat.classes.map (fun c => (cat.reg.get c).pluralName)
      ++ cat.classes.flatMap (fun c => (cat.reg.get c).productsAndFactors.map Text.Letter.lower)
    return all.map (fun s => if Text.contains s "[" then "\"" ++ s ++ "\"" else s)
  | .query q => if q.kind.isObject then q.completions cat else refuse .missingAttribute
  | _ => refuse .missingAttribute

def operatorAt : StepM Operator := do
  match Operator.ofSymbol? (← step.getText "op") with
  | some op => return op
  | none => refuse .missingKey

def repliesOf : List Reply :=
  ((step.get? "answers").map Term.members).getD [] |>.map fun t =>
    { keys := ((t.get? "keys").map Term.texts).getD []
      rows := ((t.get? "rows").map Term.members).getD [] |>.map (fun r => r.members.filterMap Term.plain?) }

def returnedReport : Run.Returned → Answer
  | .one v => .value v
  | .row es => .record [("row", .record (es.map (fun e => (e.1, .value e.2))))]

def emissionReport : Run.Emission → Answer
  | .row r => returnedReport r
  | .part values q text => .record ([("index", .value (.list values)), ("query", q.report)]
    ++ (text.map compiledReport).getD [])

/-- Sends a query. What it has given before it fails is given. The parts of a split query get numbered
names that are free. -/
def send (x : Item) : StepM Answer := do
  let s ← get
  let start : Run.State :=
    { plan := s.plan, replies := repliesOf step, opened := s.opened
      archive := { files := ((step.get? "files").map filesOf).getD [] } }
  let texts := match step.get? "compile_groups" with
    | some (.value v) => v.truthy
    | _ => true
  let (r, t) := (Run.iterate s.cat x (window step) texts).run.run start
  let parts := t.given.filterMap (fun | .part _ q _ => some (Item.query q) | _ => none)
  let vars := match (step.get? "as").bind Term.text? with
    | some stem => ((List.range parts.length).zip parts).foldl (fun vars (i, q) =>
        let name := stem ++ toString i
        if (vars.lookup name).isSome then vars else vars.put name q) s.vars
    | none => s.vars
  set { s with plan := t.plan, opened := t.opened, vars }
  let rows : Answer := .list (t.given.map emissionReport)
  match r with
  | .ok () =>
    let sent (c : Sent) : Answer :=
      .record [("cypher", linesReport c.lines), ("params", .value c.params)]
    return .record [("rows", rows), ("calls", .list (t.sent.map sent))]
  | .error f => return .record [("rows", rows), ("calls", .list []), ("error", .fault f)]

def perform : StepM (Outcome Item) := do
  let cat := (← get).cat
  let give (x : PlanM Item) : StepM (Outcome Item) := do return .result (← planned x)
  match (step.get? "do").bind Term.text? with
  | some "attr" => do give ((← itemAt step "on").dot cat 4 (← step.getText "name"))
  | some "chain" => do
    let x ← itemAt step "on"
    let names := (← step.get "names").texts
    give (names.foldlM (fun x n => x.dot cat 4 n) x)
  | some "item" => do give ((← itemAt step "on").bracket cat 4 (← itemAt step "key"))
  | some "binary" => do give (Item.binary cat 4 (← operatorAt step) (← itemAt step "a") (← itemAt step "b"))
  | some "unary" => do
    let op ← step.getText "op"
    let a ← itemAt step "a"
    match unaryOf op (step.getPlain "digits") with
    | some op => give (a.unary cat 4 op)
    | none => refuse .missingKey
  | some "func" => do return .result (← call (← step.getText "fn") (← itemsAt step "args") (← namedAt step "named"))
  | some "reduce" => do
    give (Item.reduce cat (← operatorAt step) (← itemsAt step "sequence") (← itemOr step "initial"))
  | some "split" => do give ((← itemAt step "on").split cat (← itemOr step "by"))
  | some "align" => do
    let args ← itemsAt step "args"
    let named ← namedAt step "named"
    give (Item.align named args)
  | some "join" => do
    let table ← itemAt step "table"
    let column ← step.getText "column"
    let on ← itemAt step "on"
    let q ← itemOr step "query"
    let how ← match step.get? "join_on" with
      | some t => item t
      | none => pure (.plain (.text "table") .fixed)
    let (rows, objects) ← planned (Item.join cat table column on q how)
    return .result (.tuple [.query rows, .query objects])
  | some "dir" => do
    let names ← completions (← itemAt step "on")
    let strip (s : String) : String :=
      String.ofList (((s.toList.dropWhile (· == '"')).reverse.dropWhile (· == '"')).reverse)
    let sorted (xs : List String) : Answer := .texts (xs.mergeSort Catalogue.textLe)
    return .answer (.record [("dir", sorted names), ("keys", sorted (names.map strip))])
  | some "explain" => do
    match ← itemAt step "on" with
    | .data => refuse (ReadCause.noAttribute Item.dataShown "_obj")
    | .query q => return .result (← fresh (.text (← q.explanation cat)))
    | _ => refuse .missingAttribute
  | some "neo4j" => do
    let id ← step.get "id"
    let name ← step.getText "name"
    give (Item.byDatabaseId cat ((id.plain?).getD .none) name)
  | some "compile" => do
    let c ← planned ((← itemAt step "on").compile cat (window step) (!step.isTrue "no_cache"))
    return .answer (.record (compiledReport c))
  | some "run" => do return .answer (← send step (← itemAt step "on"))
  | some "precompiled" => do give ((← itemAt step "on").complete cat)
  | some "graph" => return .answer (planReport (← get).plan)
  | some "unwinds" => do
    match ← itemAt step "on" with
    | .query q => return .answer (.record (((← get).plan.unwound q.node).map (fun u => (u.1, .text u.2))))
    | .data => refuse (ReadCause.noAttribute Item.dataShown "_G")
    | _ => refuse .missingAttribute
  | some what =>
    if ["attributes", "objects", "find"].contains what then
      let x ← itemAt step "on"
      let args := (← itemsAt step "args").filterMap (fun | .plain v _ => some v | _ => none)
      return .result (← fresh (.list ((← help what x args).map .text)))
    else refuse .missingAttribute
  | none => refuse .missingAttribute

def run (cat : Catalogue) (steps : List Term) : List Answer :=
  let each (step : Term) : StateM State Answer := do
    match ← (perform step).run with
    | .ok (.result x) => do
      modify fun s => { s with vars := s.vars.bindAs step x (x.members?.getD []) }
      return x.report
    | .ok (.answer a) => return a
    | .error f => return .fault f
  ((steps.mapM each).run { cat }).1

end ReadScript

end SurveyGraph
