import SurveyGraph.Read.Arithmetic
/-!
# Query text

A query becomes text once it is known what it returns. An object returns the attribute that stands for
it, and an attribute is returned for each of the objects that its results are counted to.

Only those parameters go with a text whose names occur in it.
-/
namespace SurveyGraph

/-- A query as it is sent: lines, the walk they follow, and parameters. -/
structure Compiled where
  lines : List String
  order : List Nat
  params : List (String × Item)

namespace Query

variable (d : Catalogue) (q : Query)

def returned : PlanM Query := do
  let index ← match q.index with
    | .start => pure Plan.start
    | .node n => pure n
    | .unknown => refuse .missingKey
  let n ← Plan.addTable index [(q.node, !q.single)] (if index == q.node then some index else none)
  let r ← q.spawn d .attribute n
    { obj := q.obj, index := .node index, single := q.single, products := some q.products, factor := q.factor }
  let oneRow ← if index == Plan.start then pure true else do (← get).isSingularInPart n
  return { r with oneRow }

def allRows : PlanM Query := do
  let names ← q.givenColumns
  q.table d (names.map (fun n => ⟨none, .plain (.text n) .fixed⟩)) false

def complete : PlanM Query := do
  match q.kind with
  | .start | .table => return q
  | .attribute | .product => q.returned d
  | .object => do (← q.defaultAttribute d).returned d
  | .row => q.allRows d

def distinctLines : List String → Except Fault (List String)
  | [] => refuse .outOfRange
  | lines =>
    let last := lines.getLastD ""
    let parts := Text.cutOn "RETURN" last
    let last := if parts.length < 2 then last
      else Text.join "RETURN" parts.dropLast ++ "RETURN DISTINCT" ++ parts.getLastD ""
    .ok (lines.dropLast ++ [last])

structure Window where
  skip : Int := 0
  limit : Option Int := none
  distinct : Bool := false

def linesFor (w : Window) (keep : Bool := true) : PlanM (List String) := do
  let lines ← Plan.lines q.node keep
  let lines ← if w.distinct then distinctLines lines else pure lines
  return lines ++ (if w.skip > 0 then ["\nSKIP " ++ toString w.skip] else [])
    ++ (match w.limit with | some n => ["\nLIMIT " ++ toString n] | none => [])

/-- The parameters that occur in lines, and of tables the columns that do. -/
def usedParams (lines : List String) (params : List (String × Item)) : Except Fault (List (String × Item)) := do
  let occurs (s : String) : Bool := lines.any (Text.contains · s)
  (params.filter (fun p => occurs p.1)).mapM fun (k, v) => do
    match v with
    | .plain (.table cs) m =>
      let used := cs.filter (fun c => occurs c.1)
      if used.isEmpty then refuse .failedCheck
      return (k, .plain (.table used) m)
    | v => return (k, v)

def allParams (p : Plan) (own settled : Nat) : List (String × Item) :=
  (p.settledFor settled).foldl (fun acc e => Plan.settledFor.putEntry e.1 e.2 acc) (p.parametersFor own)

def compile (w : Window := {}) (keep : Bool := true) : PlanM Compiled := do
  let n ← q.complete d
  let params := allParams (← get) q.node n.node
  let lines ← n.linesFor w keep
  let params ← usedParams lines params
  match ((← get).nodes[n.node]?).bind (·.lines) with
  | some (_, order) => return { lines, order, params }
  | none => refuse .missingKey

end Query

end SurveyGraph
