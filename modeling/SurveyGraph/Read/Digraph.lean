import SurveyGraph.Paths.Shortest
/-!
# Query graphs

A query is a directed graph of numbered states; its arcs say how one state comes from another: by going
to other objects, filtering, computing, aggregating or returning. An arc of type `wrt` leads from an
aggregation back to the node that it aggregates to, and one of type `dep` says that a node needs another
one to be done before.

There is one arc at most from one node to another. Arcs keep the order in which they were added.
-/
namespace SurveyGraph

inductive ArcType where
  | traversal
  | filter
  | operation
  | aggregate
  | return
  | wrt
  | dep
  | other (name : String)
  deriving Repr, BEq, DecidableEq

namespace ArcType

def name : ArcType → String
  | .traversal => "traversal"
  | .filter => "filter"
  | .operation => "operation"
  | .aggregate => "aggr"
  | .return => "return"
  | .wrt => "wrt"
  | .dep => "dep"
  | .other s => s

def ofName : String → ArcType
  | "traversal" => .traversal
  | "filter" => .filter
  | "operation" => .operation
  | "aggr" => .aggregate
  | "return" => .return
  | "wrt" => .wrt
  | "dep" => .dep
  | s => .other s

end ArcType

structure Arc (σ : Type) where
  src : Nat
  dst : Nat
  type : ArcType
  /-- Whether there is one result at most for each state before, if the arc says so. -/
  single : Option Bool := none
  /-- For an arc along several paths, whether each leads to one result at most. -/
  flags : Option (List Bool) := none
  split : Option Bool := none
  label : Option σ := none
  deriving Repr, DecidableEq

structure Digraph (σ : Type) where
  nodes : List Nat
  arcs : List (Arc σ)
  deriving Repr, DecidableEq

namespace Digraph

variable {σ : Type} (g : Digraph σ) (n : Nat)

def empty : Digraph σ := ⟨[], []⟩

def addNode : Digraph σ := if g.nodes.contains n then g else { g with nodes := g.nodes ++ [n] }

def arc? (a b : Nat) : Option (Arc σ) := g.arcs.find? (fun e => e.src == a && e.dst == b)

/-- What an arc becomes when another is added: what the new one says wins. -/
def overlay (old new : Arc σ) : Arc σ :=
  { old with
    type := new.type
    single := new.single <|> old.single
    flags := new.flags <|> old.flags
    split := new.split <|> old.split
    label := new.label <|> old.label }

def addArc (e : Arc σ) : Digraph σ :=
  let g := (g.addNode e.src).addNode e.dst
  if (g.arc? e.src e.dst).isSome then
    { g with arcs := g.arcs.map (fun d => if d.src == e.src && d.dst == e.dst then overlay d e else d) }
  else { g with arcs := g.arcs ++ [e] }

def outArcs : List (Arc σ) := g.arcs.filter (·.src == n)

def inArcs : List (Arc σ) := g.arcs.filter (·.dst == n)

def successors : List Nat := (g.outArcs n).map (·.dst)

def predecessors : List Nat := (g.inArcs n).map (·.src)

def filterArcs (p : Arc σ → Bool) : Digraph σ := { g with arcs := g.arcs.filter p }

def filterNodes (p : Nat → Bool) : Digraph σ :=
  { nodes := g.nodes.filter p, arcs := g.arcs.filter (fun e => p e.src && p e.dst) }

def arcsInOrder : List (Arc σ) := g.nodes.flatMap g.outArcs

/-- The graph without arcs back from aggregations. -/
def forward : Digraph σ := g.filterArcs (·.type != .wrt)

def backward : Digraph σ := g.filterArcs (·.type == .wrt)

def walkable : Digraph σ := g.filterArcs (·.type != .dep)

/-- The steps of the query: neither dependencies nor arcs back. -/
def steps : Digraph σ := g.forward.walkable

def dependencies : Digraph σ := g.filterArcs (·.type == .dep)

def reachableFrom : List Nat := Shortest.closure g.successors (g.nodes.length + 1) [n] [n]

def reaching : List Nat := Shortest.closure g.predecessors (g.nodes.length + 1) [n] [n]

def ancestors : List Nat := (g.reaching n).filter (· != n)

def hasPath (a b : Nat) : Except Fault Bool :=
  if g.nodes.contains a && g.nodes.contains b then .ok ((g.reachableFrom a).contains b)
  else refuse .missingNode

/-- The nodes from which a node can be reached without arcs back. -/
def needs : List Nat := g.forward.ancestors n

def restrictedTo (result : Nat) : Digraph σ :=
  let keep := g.forward.reaching result
  g.filterNodes keep.contains

def shortestPath (a b : Nat) : Except Fault (List Nat) :=
  if !(g.nodes.contains a && g.nodes.contains b) then refuse .missingNode
  else match Shortest.unweightedPath g.successors g.predecessors g.nodes.length a b with
    | some p => .ok p
    | none => refuse .noPath

/-- Counts off one arc into a node. `waiting` counts the arcs into nodes not off yet; one with none left
comes off. -/
def countOff (s : List (Nat × Nat) × List Nat) (n : Nat) : List (Nat × Nat) × List Nat :=
  match s.1.lookup n with
  | some 1 => (s.1.filter (·.1 != n), s.2 ++ [n])
  | some (k + 2) => (s.1.map (fun p => if p.1 == n then (n, k + 1) else p), s.2)
  | _ => s

/-- How nodes without predecessors left come off, by generations. -/
def generations (g : Digraph σ) : Nat → List (Nat × Nat) → List Nat → List Nat × List (Nat × Nat)
  | 0, waiting, _ => ([], waiting)
  | _, waiting, [] => ([], waiting)
  | fuel + 1, waiting, ready =>
    let (waiting, next) := (ready.flatMap g.successors).foldl countOff (waiting, [])
    let (rest, left) := g.generations fuel waiting next
    (ready ++ rest, left)

/-- The nodes, each after its predecessors; a cycle has no such order. -/
def topologicalOrder : Except Fault (List Nat) :=
  let degrees := g.nodes.map (fun n => (n, (g.inArcs n).length))
  let (order, left) := g.generations (g.nodes.length + 1) (degrees.filter (·.2 != 0)) ((degrees.filter (·.2 == 0)).map (·.1))
  if left.isEmpty then .ok order else refuse .cyclic

/-! ## What stands above a node -/

/-- Whether the state above a node may be looked for against an arc: not where the node aggregates, as
the arc back shows the way. -/
def leadsUp (e : Arc σ) : Bool :=
  e.type != .wrt && e.type != .dep && !(g.outArcs e.dst).any (·.type == .wrt)

/-- The arcs to the nodes above: back from an aggregation, or else to where a node comes from. -/
def aboveArcs : List (Arc σ) :=
  (g.outArcs n).filter (·.type == .wrt) ++ ((g.inArcs n).filter g.leadsUp).map (fun e => { e with src := e.dst, dst := e.src })

def belowArcs : List (Arc σ) :=
  (g.inArcs n).filter (·.type == .wrt) ++ ((g.outArcs n).filter g.leadsUp).map (fun e => { e with src := e.dst, dst := e.src })

def above : Digraph σ := { g with arcs := g.nodes.flatMap g.aboveArcs }

def stateAbove : List Nat :=
  Shortest.closure (fun m => (g.aboveArcs m).map (·.dst)) (g.nodes.length + 1) [n] [n]

def pathAbove (a b : Nat) : Except Fault (List (Arc σ)) := do
  let up (n : Nat) : List Nat := (g.aboveArcs n).map (·.dst)
  let down (n : Nat) : List Nat := (g.belowArcs n).map (·.src)
  match Shortest.unweightedPath up down g.nodes.length a b with
  | some p => return (p.zip p.tail).filterMap (fun (x, y) => (g.aboveArcs x).find? (·.dst == y))
  | none => refuse .noPath

end Digraph

end SurveyGraph
