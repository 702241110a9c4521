import SurveyGraph.Read.Function
import SurveyGraph.Read.Result
/-!
# Running queries

A query is sent to a database, which answers with rows. The replies are given beforehand, and each text
that is sent takes the next one. Products in the rows are read from files, which stay open.

A query that has been split is not sent itself: the values that it is split by are asked for first, and
there is one part of the query for each.
-/
namespace SurveyGraph

structure Reply where
  keys : List String := []
  rows : List (List Value) := []

structure Sent where
  lines : List String
  params : Value

namespace Run

variable (d : Catalogue) (q : Query)

/-- What is returned of a row: the value of the only column, or all columns. -/
inductive Returned where
  | one (v : Value)
  | row (es : List (String × Value))

/-- What a run gives: rows, or the parts of a query with the values that it is split by. -/
inductive Emission where
  | row (r : Returned)
  | part (values : List Value) (q : Query) (text : Option Compiled)

structure State where
  plan : Plan
  replies : List Reply := []
  sent : List Sent := []
  archive : FitsArchive := {}
  opened : List (String × FitsFile) := []
  given : List Emission := []

abbrev RunM := ExceptT Fault (StateM State)

def planned {α : Type} (x : PlanM α) : RunM α := do
  let s ← get
  let (r, p) := x.run.run s.plan
  set { s with plan := p }
  match r with
  | .ok a => return a
  | .error f => throw f

def openFile (v : Value) : RunM FitsFile := do
  let name ← match v with
    | .text s | .path s => pure s
    | _ => refuse .badType
  let path := FitsArchive.directory.join (.ofText name)
  let s ← get
  match s.opened.lookup path.render with
  | some f => return f
  | none => do
    let f ← s.archive.open_ path
    modify fun s => { s with opened := s.opened ++ [(path.render, f)] }
    return f

def readProduct (address : List Value) : RunM Value := do
  match Result.Address.ofList? address with
  | some a => do a.read (← openFile a.file)
  | none => refuse .badType

/-- The value of a column; for a product that is what stands at its address, or at each of several. -/
def columnValue (isProduct : Bool) (v : Value) : RunM Value := do
  if !isProduct then return v
  match v with
  | .none => return .none
  | .list [] => refuse .outOfRange
  | .list (.list xs :: rest) => do
    let each ← (.list xs :: rest).mapM (fun a =>
      match a with
      | .list a => readProduct a
      | .text s => readProduct (s.toList.map (fun c => .text c.toString))
      | _ => refuse .badType)
    return .list each
  | .list a => readProduct a
  | .text "" => refuse .outOfRange
  | .text s => readProduct (s.toList.map (fun c => .text c.toString))
  | .dict _ => refuse .missingKey
  | _ => refuse .badType

/-- The columns of a row with their names; a column without a name is named as in the reply. -/
def readRow (keys : List String) (row names : List Value) (products : List Bool) : RunM (List (String × Grid)) :=
  ((keys.zip row).foldl (fun acc (k, v) => putLast k v acc) []).zip (names.zip products) |>.mapM
    fun ((k, v), (n, p)) => do
      let v ← columnValue p v
      let name := match n with
        | .none | .text "None" => k
        | n => n.display
      return (name, Result.masked v)
where
  putLast (k : String) (v : Value) : List (String × Value) → List (String × Value)
    | [] => [(k, v)]
    | (k', v') :: es => if k' == k then (k, v) :: es else (k', v') :: putLast k v es

def send (lines : List String) (params : List (String × Item)) : RunM Reply := do
  let plain := params.map fun (k, x) =>
    (Value.text (String.ofList (k.toList.filter (· != '$'))), match x with | .plain v _ => v | _ => .none)
  let converted ← (Value.dict plain).convert
  let s ← get
  let now : Sent := ⟨lines, converted⟩
  set { s with replies := s.replies.drop 1, sent := s.sent ++ [now] }
  return s.replies.headD {}

/-- A part of a query that has been split: the values that it is split by, and its parameters. -/
structure Part where
  values : List Value
  params : List (String × Item)

inductive Outcome where
  | rows (of : Query) (reply : Reply)
  | parts (ps : List Part)

def returned (columns : List (String × Grid)) : Except Fault Returned :=
  let es := columns.foldl (fun acc (k, g) => readRow.putLast k (Result.cell g) acc) []
  if q.kind.isAttribute then
    match es with
    | (_, v) :: _ => .ok (.one v)
    | [] => refuse .outOfRange
  else .ok (.row es)

def sendQuery (w : Query.Window) : RunM (Query × Reply) := do
  let params := Query.allParams (← get).plan q.node q.node
  let n ← planned (q.complete d)
  let lines ← planned (n.linesFor w)
  let used ← Query.usedParams lines params
  return (n, ← send lines used)

def values : RunM (List Value) := do
  let (n, reply) ← sendQuery d q { distinct := true }
  reply.rows.mapM fun row => do
    match ← returned n (← readRow reply.keys row n.names n.products) with
    | .one v => return v
    | .row es => return .dict (es.map (fun e => (.text e.1, e.2)))

def choices : List (List Value) → List (List Value)
  | [] => [[]]
  | xs :: rest => xs.flatMap (fun x => (choices rest).map (x :: ·))

def isWaiting : Item → Bool
  | .plain (.text s) _ => s == "<placeholder>"
  | _ => false

def start (w : Query.Window) : RunM Outcome := do
  let p := (← get).plan
  let params := Query.allParams p q.node q.node
  let groups := p.groups.filter (fun g => params.any (·.1 == g.1))
  if params.any (fun e => isWaiting e.2) && !groups.isEmpty then
    let found ← groups.mapM (fun g => values d g.2)
    return .parts ((choices found).map fun vs =>
      { values := vs
        params := (groups.zip vs).foldl (fun acc (g, v) => Plan.settledFor.putEntry g.1 (.plain v .fixed) acc) params })
  else
    let (n, reply) ← sendQuery d q w
    return .rows n reply

def settle (part : Part) : RunM Unit :=
  modify fun s => { s with plan := { s.plan with
    nodes := s.plan.nodes.modify q.node (fun n => { n with settled := part.params }) } }

def give (e : Emission) : RunM Unit := modify fun s => { s with given := s.given ++ [e] }

/-- Runs a query. What it has given before a failure stays given. With `texts` parts come with their
texts. -/
def iterate (x : Item) (w : Query.Window) (texts : Bool) : RunM Unit := do
  let q ← match x with
    | .query q => pure q
    | .data => refuse (ReadCause.noAttribute Item.dataShown "_iterate")
    | x => do
      match ← planned (x.complete d) with
      | .query q => pure q
      | _ => refuse .missingAttribute
  match ← start d q w with
  | .rows n reply =>
    for row in reply.rows do
      give (.row (← returned n (← readRow reply.keys row n.names n.products)))
  | .parts ps =>
    for part in ps do
      settle q part
      let text ← if texts then some <$> planned (q.compile d) else pure none
      give (.part part.values q text)

end Run

end SurveyGraph
