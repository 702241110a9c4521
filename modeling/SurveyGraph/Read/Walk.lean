import SurveyGraph.Read.Digraph
/-!
# Walks through a query graph

The statements of a query are written in the order of a walk through its graph, from the top to the
result. It takes every step, and goes back from every aggregation to the node that it aggregates to. A
node is entered only when all that it depends on is done.

When an aggregation goes back, what it dropped may still be needed: then its branch is opened again.
Several ways to go on are tried one after the other.
-/
namespace SurveyGraph.Digraph

variable {σ : Type} (g : Digraph σ) (w : Walk)

/-- A walk under way: where it is, what is done, and the nodes in the order of the walk. -/
structure Walk where
  node : Nat
  doneNodes : List Nat := []
  /-- The arcs back that have been taken and whose branch has not been opened again. -/
  doneArcs : List (Nat × Nat) := []
  order : List Nat
  deriving Repr

def isReady (n : Nat) : Bool := (g.dependencies.predecessors n).all w.doneNodes.contains

/-- Where arcs back that are not done lead from where the walk is. -/
def backOptions : List Nat :=
  (g.backward.successors w.node).filter (fun b => !w.doneArcs.contains (w.node, b))

/-- The nodes not done to which there is a step. Single operations that are ready come first. -/
def stepOptions : List Nat :=
  let next := (g.steps.outArcs w.node).filter (fun e => !w.doneNodes.contains e.dst)
  let first := (next.filter (fun e =>
    e.type == .operation && e.single == some true && g.isReady w e.dst)).map (·.dst)
  first ++ (next.map (·.dst)).filter (!first.contains ·)

/-- Where a walk may go next. An arc back comes before all steps. -/
def options : List Nat :=
  let back := g.backOptions w
  if back.isEmpty then g.stepOptions w else back

/-- The nodes of the walk since it last was at `n`, beginning with `n`. -/
def branchSince (n : Nat) (order : List Nat) : Option (List Nat) :=
  if order.contains n then
    some ((order.reverse.takeWhile (· != n)).reverse |> (n :: ·))
  else none

def undone (branch : List Nat) : List Nat :=
  g.nodes.filter (fun n => !w.doneNodes.contains n && !branch.contains n)

/-- The nodes of a branch needed once more: something not done is reached from them other than through the
aggregation where the walk is. -/
def reopened (branch : List Nat) : List Nat :=
  let without := g.forward.filterNodes (· != w.node)
  branch.dropLast.eraseDups.filter (fun n => (without.reachableFrom n).any (g.undone w branch).contains)

/-- The walk after its arc back to `target` is done and the nodes of `again` are opened again. -/
def Walk.reopen (target : Nat) (again : List Nat) : Walk :=
  { w with
    doneNodes := w.doneNodes.filter (!again.contains ·)
    doneArcs := (w.doneArcs ++ [(w.node, target)]).filter (fun e => !again.contains e.1) }

/-- Goes back from an aggregation to `target` and opens again what is needed once more. -/
def goBack (target : Nat) : Except Fault Walk := do
  match branchSince target w.order with
  | none => refuse .badValue
  | some branch =>
    if branch.dropLast.contains w.node && !(g.undone w branch).isEmpty then refuse .missingNode
    return w.reopen target (g.reopened w branch)

def Walk.go (n : Nat) : Walk :=
  { w with node := n, doneNodes := w.doneNodes ++ [w.node], order := w.order ++ [n] }

def firstAlive {α : Type} (attempt : Nat → Except Fault α) : List Nat → Except Fault α
  | [] => refuse ReadCause.deadEnd
  | n :: ns =>
    match attempt n with
    | .ok a => .ok a
    | .error e => if e.kind == .deadEnd then firstAlive attempt ns else .error e

/-- Completes a walk. Where there are several ways each is tried, and the node tried counts as done.
`fuel` bounds the steps. -/
def complete (g : Digraph σ) (finish : Nat) : Nat → Walk → Except Fault Walk
  | 0, _ => refuse .tooDeep
  | fuel + 1, w => do
    if !g.isReady w w.node then refuse ReadCause.deadEnd
    match g.options w with
    | [] => if w.node != finish then refuse ReadCause.deadEnd else return w
    | [n] =>
      let isBack := (g.arc? w.node n).any (·.type == .wrt)
      let w ← if isBack then g.goBack w n else pure w
      g.complete finish fuel (w.go n)
    | many =>
      firstAlive (fun n =>
        let next := w.go n
        g.complete finish fuel { next with doneNodes := next.doneNodes ++ [n] }) many

/-- Whether arcs back lead up: steps lead to later nodes and join nowhere, and a node has at most one arc
back, to a node from which steps lead to it. -/
def climbs : Bool :=
  let ends (e : Arc σ) : Nat × Nat := (e.src, e.dst)
  g.arcs.all (fun e => g.nodes.contains e.src && g.nodes.contains e.dst) && decide (g.arcs.map ends).Nodup
    && g.steps.arcs.all (fun e => e.src < e.dst && g.steps.arcs.all (fun d => d.dst != e.dst || d.src == e.src))
    && g.backward.arcs.all (fun e => (g.steps.ancestors e.src).contains e.dst
      && g.backward.arcs.all (fun d => d.src != e.src || d.dst == e.dst))

def top : Nat := g.nodes.foldr (fun n m => max (n + 1) m) 0

/-- Enough steps for every walk if the arcs back lead up: going back opens only arcs back to later nodes. -/
def climbFuel : Nat :=
  let backs := g.backward.arcs.length
  (g.top + 1) * (backs * (backs + 1).pow g.top + 1)

/-- A number of steps for walks. Where arcs back do not lead up a walk may have no end; the number is one
that no other walk should need. -/
def walkFuel : Nat := if g.climbs then g.climbFuel else (g.nodes.length + 2) * (g.arcs.length + 2) * 8 + 64

/-- The ends of a walk if nothing else is said: the first and the last node in topological order. -/
def endsOr (start finish : Option Nat) : Except Fault (Nat × Nat) := do
  match start, finish with
  | some a, some b => return (a, b)
  | start, finish => do
    let order ← g.forward.topologicalOrder
    match order.head?, order.getLast? with
    | some a, some b => return (start.getD a, finish.getD b)
    | _, _ => refuse .outOfRange

def walkOn (finish : Nat) (fuel : Nat := g.walkFuel) : Except Fault (List Nat) := do
  if !g.nodes.contains w.node then refuse .badGraph
  return (← g.complete finish fuel w).order

def walk (start finish : Option Nat) (fuel : Nat := g.walkFuel) : Except Fault (List Nat) := do
  let (a, b) ← g.endsOr start finish
  g.walkOn { node := a, order := [a] } b fuel

/-- Whether every node of an order comes after all that it needs. -/
def checkNeeds (g : Digraph σ) : List Nat → List Nat → Except Fault Unit
  | [], _ => .ok ()
  | n :: rest, done =>
    if done.contains n then g.checkNeeds rest done
    else if (g.needs n).all done.contains then g.checkNeeds rest (done ++ [n])
    else refuse (ReadCause.dependencyUnmet n)

def pairs (order : List Nat) : List (Nat × Nat) := order.zip order.tail

/-- Checks one move of an order: there is an arc, and it is not a dependency. -/
def checkMove (a b : Nat) : Except Fault Unit :=
  match g.arc? a b with
  | none => refuse .missingKey
  | some e => if e.type == .dep then refuse ReadCause.dependencyWalked else .ok ()

/-- Checks an order: it takes every arc but dependencies, and comes to a node after all that it
needs. -/
def checkWalk (order : List Nat) : Except Fault Unit := do
  (pairs order).forM (fun (a, b) => g.checkMove a b)
  let wanted := g.walkable.arcs.map (fun e => (e.src, e.dst))
  if !(wanted.all (pairs order).contains && (pairs order).all wanted.contains) then refuse ReadCause.arcsMissed
  g.checkNeeds order []

/-! ## Rules for query graphs -/

def isTree : Except Fault Bool := do
  match g.nodes with
  | [] => refuse .emptyGraph
  | n :: _ =>
    let neighbours (m : Nat) : List Nat := g.successors m ++ g.predecessors m
    let joined := (Shortest.closure neighbours (g.nodes.length + 1) [n] [n]).length == g.nodes.length
    return g.nodes.length == g.arcs.length + 1 && joined && g.nodes.all (fun m => (g.inArcs m).length ≤ 1)

/-- Checks the arcs back: an aggregation, and all that uses it, lies below the node it goes back to. -/
def checkBack (agg wrt : Nat) : Except Fault Unit := do
  if !(← g.hasPath wrt agg) then refuse (ReadCause.aggregateNotBelow wrt agg)
  for n in g.forward.successors agg do
    if !(← g.hasPath wrt n) then refuse (ReadCause.usedOutside n agg wrt)

def checkNode (n : Nat) : Except Fault Unit := do
  let inputs := ((g.inArcs n).map (·.type)).filter (· != .wrt)
  let outputs := (g.outArcs n).map (·.type)
  if outputs.count .wrt > 1 then refuse (ReadCause.manyWrt n)
  let outputs := outputs.filter (· != .wrt)
  let filters := inputs.count .filter
  let traversals := inputs.count .traversal
  let operations := inputs.count .operation
  let aggregates := inputs.count .aggregate
  if aggregates > 1 then refuse (ReadCause.manyAggregates n)
  else if aggregates > 0 then
    if !outputs.all [ArcType.dep, .operation, .aggregate].contains then
      refuse (ReadCause.aggregateMisused n)
  if filters > 2 then refuse (ReadCause.manyFilters n)
  else if filters > 0 then
    if traversals + operations + aggregates > 0 then refuse (ReadCause.filterInput n)
  if traversals > 2 then refuse (ReadCause.manyTraversals n)
  else if traversals > 0 then
    if inputs.length > 2 then refuse (ReadCause.traversalInput n)
  if operations > 1 then refuse (ReadCause.manyOperations n)
  else if operations > 0 then
    match (g.outArcs n).head? with
    | none => refuse (ReadCause.operationLoose n)
    | some e =>
      if !([ArcType.aggregate, .operation].contains e.type) then refuse (ReadCause.operationLoose n)
    if traversals + aggregates + filters > 1 then refuse (ReadCause.operationInput n)

def check : Except Fault Unit := do
  if !(← g.steps.isTree) then refuse ReadCause.notATree
  let starts := g.nodes.filter (fun n => (g.forward.inArcs n).isEmpty)
  let ends := g.nodes.filter (fun n => (g.forward.outArcs n).isEmpty)
  match starts, ends with
  | [a], [b] =>
    match g.forward.topologicalOrder with
    | .error _ => refuse ReadCause.cyclic
    | .ok _ => pure ()
    if !(← g.forward.hasPath a b) then refuse (ReadCause.disconnected a b)
    for e in g.backward.arcsInOrder do
      g.checkBack e.src e.dst
    for n in g.nodes do
      g.checkNode n
  | [_], [] => refuse ReadCause.noOutput
  | [_], _ => refuse ReadCause.manyOutputs
  | _, _ => refuse ReadCause.manyInputs

end SurveyGraph.Digraph
