import SurveyGraph.Read.Walk
import SurveyGraph.Read.Statement
import SurveyGraph.Text.Letter
import SurveyGraph.Read.NodeTable
/-!
# Plans

A plan is a query graph whose arcs carry statements, with the variables and parameters that these use.
All queries of a session grow in one plan. A statement that is there is not added again: the query goes
on from its node.

A failed step leaves its traces in the plan, such as the variables that it named.
-/
namespace SurveyGraph

structure PlanNode where
  label : String
  slots : List Slot := []
  /-- The lines of the query that ends here and the walk that they follow, once they are known. -/
  lines : Option (List String × List Nat) := none
  settled : List (String × Item) := []
  deriving Repr, Inhabited

structure Plan where
  graph : Digraph Statement := ⟨[0], []⟩
  nodes : List PlanNode := [⟨"node", [], none, []⟩]
  counts : List (String × Nat) := []
  parameters : List (String × Item) := []
  /-- The parameters that a query is split by, each with the query for its values. -/
  groups : List (String × Query) := []
  /-- The number of queries and values told apart so far. -/
  made : Nat := 1
  deriving Inhabited

abbrev PlanM := ExceptT Fault (StateM Plan)

namespace Plan

variable (p : Plan) (parent node n result wrt : Nat)

def start : Nat := 0

/-- The text for splitting, before the parts are known. -/
def placeholder : Item := .plain (.text "<placeholder>") .fixed

def slots : List Slot := ((p.nodes[n]?).map (·.slots)).getD []

def slot : Except Fault Slot :=
  match p.slots n with
  | s :: _ => .ok s
  | [] => refuse .outOfRange

def firstSlots (ns : List Nat) : Except Fault (List Slot) := ns.mapM p.slot

def target? : Option Nat := ((p.graph.outArcs n).find? (·.type == .wrt)).map (·.dst)

def isReachedBy (types : List ArcType) : Bool :=
  (p.graph.inArcs n).any (fun e => types.contains e.type)

/-- Whether a node stands for an aggregation that does nothing. -/
def isFolded : Bool :=
  p.isReachedBy n [.aggregate] && (p.graph.inArcs n).any (fun e => e.label.any (·.isNull))

/-! ## Relations between nodes -/

/-- The nodes from which an operation takes its inputs: those before it that are no operations. -/
def hosts (p : Plan) : Nat → Nat → List Nat
  | 0, _ => []
  | fuel + 1, n =>
    ((p.graph.inArcs n).filter (·.type != .wrt)).flatMap fun e =>
      if p.isReachedBy e.src [.traversal, .filter, .aggregate] then [e.src] else p.hosts fuel e.src

/-- What stands for an aggregation: its node, or the nodes of its text if it does nothing. -/
def standIns (a : Nat) : Except Fault (List Nat) :=
  match (p.graph.inArcs a).find? (·.type != .dep) with
  | none => refuse .outOfRange
  | some e =>
    match e.label with
    | none => refuse .missingKey
    | some s => .ok (if s.isNull then p.hosts (p.nodes.length + 1) a else [a])

def aggregations : List Nat := ((p.graph.inArcs n).filter (·.type == .wrt)).map (·.src)

/-- The node, all nodes above it, and what has been aggregated to any of them. -/
def stateWithAggregates : Except Fault (List Nat) := do
  let above := p.graph.stateAbove n
  let added ← (above.flatMap p.aggregations).mapM p.standIns
  return (above ++ added.flatten).eraseDups

def depth : Nat := (p.graph.walkable.ancestors n).length

/-- Of nodes with their depths, the last of those that are furthest down. -/
def lowest : List (Nat × Nat) → Option Nat
  | [] => none
  | (n, d) :: rest => if rest.any (fun x => d ≤ x.2) then lowest rest else some n

/-- Of the nodes above all given nodes, the one that is furthest down: the last in the table among
equals. -/
def sharedAncestor (nodes : List Nat) : Except Fault Nat := do
  match nodes with
  | [] => refuse .outOfRange
  | n :: rest =>
    if rest.all (· == n) then return n
    let above (m : Nat) : NodeTable := .ofList ((p.graph.stateAbove m).filter (· != m) ++ [m])
    let shared := (rest.map above).foldl NodeTable.inter (above n)
    match lowest (shared.members.map (fun m => (m, p.depth m))) with
    | some m => return m
    | none => refuse .outOfRange

/-- The node to which an operation on several nodes is counted: one of theirs that lies below all
others. -/
def commonIndex (nodes : List Nat) : Except Fault Nat := do
  let targets := nodes.map (fun n => (p.target? n).getD n)
  let shared ← p.sharedAncestor targets
  match targets.filter (· != shared) with
  | [] => return shared
  | [other] => return other
  | _ => refuse (ReadCause.unrelated nodes shared)

def indexOr (wrt : Option Nat) (nodes : List Nat) : Except Fault Nat :=
  match wrt with
  | some w => .ok w
  | none => p.commonIndex nodes

/-- Whether there is one result at most at `low` for each at `high`, which lies above it. -/
def isSingularBranch (high low : Nat) : Except Fault Bool := do
  return (← p.graph.pathAbove low high).all (fun e => e.single.getD true)

/-- Whether there is one result at most at a node, for each part if the query has been split. -/
def isSingularInPart : Except Fault Bool := do
  let rec go : List (Arc Statement) → Bool
    | [] => true
    | e :: rest => if e.split.getD false then true else if !(e.single.getD true) then false else go rest
  return go (← p.graph.pathAbove n start)

def needed : Digraph Statement := p.graph.restrictedTo result

def parametersFor : List (String × Item) :=
  let names := (p.needed result).arcs.flatMap (fun e => (e.label.map (·.params)).getD [])
  p.parameters.filter (fun q => names.contains q.1)

def settledFor : List (String × Item) :=
  (p.needed result).nodes.foldl (fun acc n =>
    ((p.nodes[n]?).map (·.settled)).getD [] |>.foldl (fun acc e => putEntry e.1 e.2 acc) acc) []
where
  putEntry (k : String) (v : Item) : List (String × Item) → List (String × Item)
    | [] => [(k, v)]
    | (k', v') :: es => if k' == k then (k, v) :: es else (k', v') :: putEntry k v es

/-- The lists that are unwound for a result: the parameter in each, with the variable for its members. -/
def unwound : List (String × String) :=
  let found := (p.needed result).arcsInOrder.filterMap fun e =>
    match e.label with
    | some (.unwind _ list out _) => some (list, out)
    | _ => none
  let byLength := (p.parameters.map (·.1)).mergeSort (fun a b => b.length ≤ a.length)
  found.flatMap fun (list, out) =>
    (byLength.filter (fun name => Text.contains list name)).map (fun name => (name, out))

/-! ## Names and parameters -/

/-- A new name for a variable: the given name in small letters, and a number. -/
def freshName (name : String) : PlanM String := do
  let name := Text.Letter.lower name
  let p ← get
  let n := (p.counts.lookup name).getD 0
  set { p with counts := (name, n + 1) :: p.counts.filter (·.1 != name) }
  return name ++ toString n

def freshSerial : PlanM Nat := do
  let p ← get
  set { p with made := p.made + 1 }
  return p.made

def freshOccurrence : PlanM Occurrence := do return .fresh (← freshSerial) []

/-- The columns of a table that can be sent: on average their rows have a hundred cells at most. -/
def sendable (columns : List (String × Value)) : Except Fault (List (String × Value)) := do
  let height := match columns with
    | (_, .array _ (n :: _) _) :: _ => n
    | _ => 0
  columns.filterM fun c => do
    if height == 0 then refuse .dividedByZero
    match c.2 with
    | .array _ shape _ => return shape.foldl (· + ·) 0 ≤ 100 * height
    | _ => return true

/-- An item as it can be sent. What is left of a table is a new table. -/
def sendableItem : Item → PlanM Item
  | .plain (.frame _) _ => refuse .missingAttribute
  | .plain (.table cs) mark => do
    let kept ← sendable cs
    if kept.length == cs.length then return .plain (.table kept) mark
    return .plain (.table kept) (← freshOccurrence)
  | x => return x

/-- The name of an item as a parameter. What has been given before keeps its name. -/
def addParameter (x : Item) (name : String := "") : PlanM String := do
  let x ← sendableItem x
  let p ← get
  match p.parameters.find? (fun q => x.isSame q.2) with
  | some (name, _) => return name
  | none =>
    let name ← freshName ("$" ++ name)
    modify fun p => { p with parameters := p.parameters ++ [(name, x)] }
    return name

def addGroup (q : Query) : PlanM String := do
  let name ← addParameter placeholder "group"
  let groups := (← get).groups
  let groups := if groups.any (·.1 == name) then groups.map (fun g => if g.1 == name then (name, q) else g)
    else groups ++ [(name, q)]
  modify fun p => { p with groups }
  return name

/-! ## Nodes -/

def withDependency (p : Plan) (source : Nat) : Plan :=
  { p with graph := p.graph.addArc { src := source, dst := node, type := .dep } }

def withBack (p : Plan) (target : Nat) : Plan :=
  { p with graph := p.graph.addArc { src := node, dst := target, type := .wrt } }

def nodeFor (s : Statement) : PlanNode :=
  let label := match s.outputs with
    | slot :: _ => slot.shown
    | [] => "node"
  { label, slots := s.outputs }

def withNew (arc : Arc Statement) (s : Statement) : Plan :=
  let n := p.nodes.length
  { p with
    nodes := p.nodes ++ [nodeFor s]
    graph := (p.graph.addNode n).addArc { arc with dst := n, label := some s } }

/-- The node that a statement leads to from the source of its arc: one that is there, or a new one. -/
def withStatement (arc : Arc Statement) (s : Statement) : Nat × Plan :=
  match (p.graph.outArcs arc.src).find? (fun e => e.label.any (·.alike s)) with
  | some e => (e.dst, p)
  | none => (p.nodes.length, p.withNew arc s)

/-- The node that a statement leads to, with the nodes that it needs and the node that it goes back to. -/
def withNode (arc : Arc Statement) (s : Statement) (needs : List Nat) (back : Option Nat) : Nat × Plan :=
  let (n, p) := p.withStatement arc s
  (n, needs.foldl (withDependency n) (back.toList.foldl (withBack n) p))

def addNode (type : ArcType) (s : Statement) (single : Option Bool) (needs : List Nat := [])
    (back : Option Nat := none) (flags : Option (List Bool) := none) (split : Option Bool := none) :
    PlanM Nat := do
  let (n, p) := (← get).withNode { src := parent, dst := parent, type, single, flags, split } s needs back
  set p
  return n

def addStart (type : String) (unwound : Option Nat := none) : PlanM Nat := do
  let out ← freshName type
  addNode (unwound.getD start) .traversal (.start type unwound out) (some false) (if unwound.isSome then [start] else [])

/-- Goes from a node to objects of a type. `flags` says of each path whether it leads to one object at
most. -/
def addTraversal (paths : List String) (type : String) (single : Bool)
    (flags : Option (List Bool) := none) (unwound : Option Nat := none) : PlanM Nat := do
  let source ← (← get).slot parent
  let out ← freshName type
  let edge ← freshName "edge"
  addNode (unwound.getD parent) .traversal (.traversal source type paths unwound out edge) (some single)
    (if unwound.isSome then [parent] else []) none flags

def aggregateTemplate (template : String) (maskInfinity : Bool) (expected given : Option String) : Except Fault String := do
  let template ← if expected.isSome then Phrase.convertPlaces given expected template ["\x7b0\x7d"]
    else pure template
  if maskInfinity then Text.Template.fill template [Phrase.maskInfinity "\x7b0\x7d"] else return template

/-- The statement of an aggregation. Nothing is done where the results are counted as they are. -/
def aggregateStatement (parent wrt : Nat) (template name : String) : PlanM Statement := do
  let p ← get
  if wrt == parent || name == "aggr" then return .null (p.slots parent ++ [.node wrt])
  else if !(p.graph.needs parent).contains wrt then refuse (ReadCause.notAncestor parent wrt)
  else
    let input ← p.slot parent
    return .aggregate input wrt template name (← freshName name)

/-- Aggregates a node to another one. What has been aggregated goes on from where it was aggregated to. -/
def addGeneralAggregate (template name : String) (maskInfinity : Bool)
    (expected given : Option String) : PlanM Nat := do
  let template ← aggregateTemplate template maskInfinity expected given
  let s ← aggregateStatement parent wrt template name
  let previous := ((← get).target? parent).getD parent
  addNode previous .aggregate s (some false) (if previous != parent then [parent] else []) (some wrt)

def addAggregate (name : String) (maskInfinity : Bool := false)
    (expected given : Option String := none) (distinct nulls : Bool := false) : PlanM Nat :=
  let d := if distinct then "distinct " else ""
  let template := if nulls then "[i in collect(" ++ d ++ "[\x7b0\x7d]) | i[0]]"
    else name ++ "(" ++ d ++ "\x7b0\x7d)"
  addGeneralAggregate parent wrt template name maskInfinity expected given

def addPredicate (name : String) : PlanM Nat :=
  addGeneralAggregate parent wrt (name ++ "(x in collect(\x7b0\x7d) where toBoolean(x))") name false none none

/-- The node of a path, counted from its end, that is reached by an arc with many results. -/
def lastPlural (p : Plan) : List (Nat × Nat) → Except Fault Nat
  | [] => refuse ReadCause.noFold
  | (b, a) :: rest =>
    match p.graph.arc? a b with
    | none => refuse .missingKey
    | some e =>
      match e.single with
      | none => refuse .missingKey
      | some true => p.lastPlural rest
      | some false => .ok b

/-- The node to which a node is counted for use elsewhere: `wrt`, or the closest node above it with
many results. What is aggregated already stays as it is. -/
def foldTarget (wrt : Option Nat) : Except Fault Nat :=
  match wrt, p.target? parent with
  | none, some _ => .ok parent
  | none, none => do
    let path := (← p.graph.walkable.shortestPath start parent).reverse
    p.lastPlural (path.zip path.tail)
  | some w, t => .ok (if t == some w then parent else w)

def fold (wrt : Option Nat := none) : PlanM Nat := do
  let wrt ← (← get).foldTarget parent wrt
  if wrt == parent then return parent else addAggregate parent wrt "aggr"

/-- Computes with several nodes. Returns the node of the result and the node it is counted to. -/
def addCombination (template name : String) (nodes : List Nat) (wrt : Option Nat := none)
    (params : List String := []) : PlanM (Nat × Nat) := do
  let folded ← nodes.mapM (fold ·)
  let p ← get
  let wrt ← p.indexOr wrt folded
  let inputs ← p.firstSlots folded
  let text ← Text.Template.fill template (inputs.map (·.shown))
  let n ← addNode wrt .operation (.operation inputs template name ("(" ++ text ++ ")") params) (some true) folded
  return (n, wrt)

/-- Computes with one node. Returns the node of the result and the node it is counted to. -/
def addOperation (template name : String) (params : List String := []) : PlanM (Nat × Nat) := do
  let p ← get
  if p.isReachedBy parent [.aggregate] then
    match p.target? parent with
    | some wrt => addCombination template name [parent] (some wrt) params
    | none => refuse .exhausted
  else
    let input ← p.slot parent
    let text ← Text.Template.fill template [input.shown]
    let n ← addNode parent .operation (.operation [input] template name ("(" ++ text ++ ")") params) (some true)
    return (n, parent)

def addProperty (name : String) (which : Nat := 0) : PlanM Nat := do
  match ((← get).slots parent)[which]? with
  | none => refuse .outOfRange
  | some input =>
    let text ← Text.Template.fill ("\x7b\x7d.`" ++ name ++ "`") [input.shown]
    addNode parent .operation (.property input name ("(" ++ text ++ ")")) (some true)

def addProduct (name : String) : PlanM Nat := do
  let input ← (← get).slot parent
  let template := Statement.productTemplate name
  let text ← Text.Template.fill template [input.shown]
  addNode parent .operation (.product input template ("." ++ name) ("(" ++ text ++ ")")) (some true)

/-- The statement of a filter. A direct one drops what fails the condition; the other puts null there. -/
def filterStatement (direct : Bool) (target condition : Slot) : PlanM Statement :=
  if direct then return .directFilter target condition
  else match target with
    | .text t => return .copyFilter target condition (← freshName t)
    | .node _ => refuse .missingAttribute

def filterSingle (forceSingle : Bool) : Except Fault (Bool × Option (List Bool)) :=
  if forceSingle then .ok (true, none)
  else match (p.graph.inArcs parent).head? with
    | some e => .ok (e.single.getD false, e.flags)
    | none => refuse .outOfRange

def addFilter (parent condition : Nat) (direct : Bool) (forceSingle split : Bool := false) : PlanM Nat := do
  let wrt ← (← get).sharedAncestor [parent, condition]
  let condition ← fold condition (some wrt)
  let p ← get
  if !(← p.graph.hasPath condition parent) then refuse (ReadCause.filterApart parent condition)
  let predicate ← p.slot condition
  let target ← p.slot parent
  let s ← filterStatement direct target predicate
  let (single, flags) ← p.filterSingle parent forceSingle
  addNode parent .filter s (some single) [condition] none flags (some split)

/-- Gives a variable of its own to the result of a node, if that is computed or aggregated. -/
def addAssign (onlyComputed : Bool := false) : PlanM Nat := do
  let p ← get
  if onlyComputed && p.isReachedBy parent [.operation, .aggregate] then
    let input ← p.slot parent
    let out ← freshName "variable"
    addNode parent .operation (.assign input out) (some true)
  else return parent

/-- Applies a function to the members of a given list that meet a condition. Null stands for the result if
there are none and `padded`. -/
def addApply (list function condition : String) (dependencies : List Nat) (padded : Bool)
    (params : List String) : PlanM Nat := do
  let folded ← dependencies.mapM (fold ·)
  let p ← get
  let inputs ← p.firstSlots folded
  let x ← freshName "x"
  let applied ← Text.Template.fill function (x :: inputs.map (·.shown))
  let kept ← Text.Template.fill condition (x :: inputs.map (·.shown))
  let found := "[" ++ x ++ " in " ++ list ++ " WHERE " ++ kept ++ " | " ++ applied ++ "]"
  let text := if padded then "CASE WHEN SIZE(" ++ found ++ ") = 0 THEN [null] ELSE " ++ found ++ " END" else found
  addNode parent .operation (.pick (.text list :: inputs) text params) (some true) folded

def addUnwind (list : String) (dependencies : List Nat) (params : List String) : PlanM Nat := do
  let out ← freshName "unwound"
  addNode wrt .traversal (.unwind wrt list out params) (some false) dependencies

def addReference (node : Nat) : PlanM Nat := do
  addNode parent .traversal (.null ((← get).slots node)) (some true) [node]

/-! ## Results -/

/-- How a column is counted to the index of a table: not at all if it is there already, or to the node
that it shares with the index. -/
def gathering (index n : Nat) (plural : Bool) : Except Fault (Option (Nat × String)) := do
  let target := p.target? n
  if !plural && target == some index then return none
  let shared ← p.sharedAncestor [index, n]
  if !plural && target == some shared then return none
  if plural then return some (shared, "collect")
  return some (shared, if ← p.isSingularBranch shared n then "aggr" else "collect")

def gatherAs (columns : List Nat) : Option (Nat × String) → PlanM (List Nat)
  | none => return columns
  | some (shared, how) => columns.mapM (fun m => addAggregate m shared how)

/-- Counts columns to the index of a table, or to what they share with it; `together`, all as the
first. Nothing is done if they are `counted` already. -/
def gather (index : Nat) (columns : List (Nat × Bool)) (together counted : Bool) : PlanM (List Nat) :=
  match counted, together, columns with
  | true, _, _ => return columns.map (·.1)
  | false, true, (n, plural) :: _ => do gatherAs (columns.map (·.1)) (← (← get).gathering index n plural)
  | _, _, _ => do
    let gathered ← columns.mapM (fun (n, plural) => do gatherAs [n] (← (← get).gathering index n plural))
    return gathered.flatten

def slotOr (n : Option Nat) (other : Option Slot) : Except Fault (Option Slot) :=
  match n with
  | some n => do return some (← p.slot n)
  | none => .ok other

/-- Returns columns for every result of the index, each with whether it has many values. Nulls of
`present`, by default the index, are left out. -/
def addTable (index : Nat) (columns : List (Nat × Bool)) (present : Option Nat := none)
    (together counted : Bool := false) : PlanM Nat := do
  let nodes ← gather index columns together counted
  let p ← get
  let slots ← p.firstSlots nodes
  let indexSlot := (p.slots index).head?
  let present ← p.slotOr present indexSlot
  addNode index .return (.return slots indexSlot present) (some true) nodes

/-- Returns one row of columns that are counted to the start. -/
def addRow (columns : List Nat) : PlanM Nat := do
  let slots ← (← get).firstSlots columns
  addNode start .return (.return slots none (some (.text "[]"))) (some true) columns

/-! ## Text -/

/-- The nodes whose variables are kept when results are aggregated to a node after the nodes of `order`. -/
def keptNodes (order : List Nat) : Except Fault (List Nat) := do
  let above ← p.stateWithAggregates wrt
  return above.filter fun n => !p.isReachedBy n [.operation] && !p.isFolded n && order.contains n

def textAt : Except Fault (Option String) :=
  match (p.slots n).head? with
  | some (.text s) => .ok (some s)
  | some (.node _) => refuse .badType
  | none => .ok none

/-- The variables that are kept when results are aggregated to a node, in order. -/
def kept (order : List Nat) (out : String) : Except Fault (List String) := do
  let nodes ← p.keptNodes wrt order
  let texts ← nodes.mapM p.textAt
  return ((texts.filterMap id).filter (· != out)).eraseDups.mergeSort (fun a b => !(decide (b < a)))

def line (s : Statement) (order : List Nat) : PlanM (Option String) := do
  match s with
  | .start type _ out => return some ("MATCH (" ++ out ++ ":" ++ type ++ ")")
  | .traversal source type paths _ out edge => return some (← Statement.traversalLine source type paths out edge)
  | .union source _ paths _ out edge => return some (← Statement.unionLine source paths out edge)
  | .null _ | .operation .. | .property .. | .product .. | .pick .. => return none
  | .assign input out => return some ("WITH *, " ++ input.shown ++ " as " ++ out)
  | .directFilter _ condition => return some ("WHERE " ++ condition.shown)
  | .copyFilter target condition out =>
    return some ("WITH *, CASE WHEN " ++ condition.shown ++ " THEN " ++ target.shown ++ " ELSE null END as " ++ out)
  | .slice .. => refuse ReadCause.notImplemented
  | .aggregate input wrt template _ out => do
    let names ← (← get).kept wrt order out
    let text ← Text.Template.fill template [input.shown]
    return some ("WITH " ++ Text.join "" (names.map (· ++ ", ")) ++ text ++ " as " ++ out)
  | .return columns index present => do
    let names ← (columns ++ index.toList).mapM (fun _ => freshName "r")
    let _ ← freshName "i"
    let cols := Text.join ", " ((columns.zip names).map (fun (c, n) => c.shown ++ " as " ++ n))
    match present with
    | some x => return some ("WITH * WHERE " ++ x.shown ++ " is not null RETURN " ++ cols)
    | none => return some ("RETURN " ++ cols)
  | .unwind _ list out _ => return some ("UNWIND " ++ list ++ " as " ++ out)

def linesAlong : List Nat → List Nat → PlanM (List String)
  | done, a :: b :: rest => do
    let order := done ++ [a]
    let made ← match ((← get).graph.arc? a b).bind (·.label) with
      | none => pure none
      | some s => tryCatch (line s order) (fun e => if e.kind == .missingKey then pure none else throw e)
    return made.toList ++ (← linesAlong order (b :: rest))
  | _, _ => return []

/-- The lines of the query that ends at a node. They are found once and kept, unless `keep` is false. -/
def lines (keep : Bool := true) : PlanM (List String) := do
  let p ← get
  match (p.nodes[result]?).bind (·.lines) with
  | some (lines, _) => return lines
  | none =>
    let g := p.needed result
    let order ← g.walk none none
    g.checkWalk order
    let made := Phrase.dropRepeated (← linesAlong [] order)
    if keep then
      modify fun p => { p with nodes := p.nodes.modify result (fun n => { n with lines := some (made, order) }) }
    return made

end Plan

end SurveyGraph
