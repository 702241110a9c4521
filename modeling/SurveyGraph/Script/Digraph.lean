import SurveyGraph.Script.Term
import SurveyGraph.Read.Walk
/-!
# Scripts of graphs

A graph that is given by its arcs, and questions about it: walks through it, checks, and parts of it.
-/
namespace SurveyGraph

namespace Term

def node? : Term → Option Nat
  | .value (.int n) => if n < 0 then none else some n.toNat
  | _ => none

def arc? : Term → Option (Nat × Nat)
  | .value (.tuple [a, b]) => do return (← (Term.value a).node?, ← (Term.value b).node?)
  | _ => none

def nodes (t : Term) : List Nat := t.members.filterMap node?

def isList : Term → Bool
  | .list _ | .value (.list _) => true
  | _ => false

def getList? (t : Term) (k : String) : Option Term := (t.get? k).filter isList

end Term

namespace DigraphScript

def ofArcs (n : Nat) (arcs : List Term) : Digraph Unit :=
  arcs.foldl (fun g t =>
    match t.members with
    | a :: b :: .value (.text type) :: rest =>
      match a.node?, b.node? with
      | some a, some b => g.addArc
          { src := a, dst := b, type := .ofName type, single := (rest.head?.bind Term.plain?).map (·.truthy) }
      | _, _ => g
    | _ => g) ⟨List.range n, []⟩

def sorted (ns : List Nat) : Answer := .nats (ns.mergeSort (· ≤ ·))

def sortedArcs (g : Digraph Unit) : Answer :=
  .list (((g.arcs.map (fun e => (e.src, e.dst))).mergeSort
    (fun a b => a.1 < b.1 || (a.1 == b.1 && a.2 ≤ b.2))).map (fun e => .nats [e.1, e.2]))

def part (g : Digraph Unit) (options : Term) : Except Fault (Digraph Unit) := do
  let type (k : String) : Option String := (options.get? k).bind Term.text?
  let dropped ← match options.getList? "excluded_edges" with
    | none => pure []
    | some ps => ps.members.mapM (fun p =>
      match p.arc? with
      | some e => Except.ok e
      | none => refuse .badType)
  let keepsArc (e : Arc Unit) : Bool :=
    !dropped.contains (e.src, e.dst)
      && (match type "excluded_edge_type" with | some t => e.type.name != t | none => true)
      && (match type "only_edge_type" with | some t => e.type.name == t | none => true)
      && (match options.getList? "only_edges" with
        | some ps => (ps.members.map Term.arc?).contains (some (e.src, e.dst))
        | none => true)
  let keepsNode (n : Nat) : Bool :=
    !(((options.getList? "excluded_nodes").map Term.nodes).getD []).contains n
      && (match options.getList? "only_nodes" with | some ns => ns.nodes.contains n | none => true)
  let part := (g.filterArcs keepsArc).filterNodes keepsNode
  match (options.get? "path_to").bind Term.node? with
  | some (t + 1) =>
    if !part.nodes.isEmpty && !g.nodes.contains (t + 1) then refuse .missingNode
    return part.filterNodes (g.reaching (t + 1)).contains
  | _ => return part

def answer (g : Digraph Unit) (question : Term) : Except Fault Answer := do
  let args := question.members
  let node (i : Nat) : Except Fault Nat :=
    match args[i]?.bind Term.node? with
    | some n => .ok n
    | none => refuse .missingKey
  let ok : Answer := .record [("result", .text "ok")]
  match (args.head?.bind Term.text?), args.drop 1 with
  | some "traverse", rest => do
    let (a, b) ← g.endsOr (rest[0]?.bind Term.node?) (rest[1]?.bind Term.node?)
    let done : List Term := ((rest[2]?).map Term.members).getD []
    let order := (((rest[3]?).filter Term.isList).map Term.nodes).getD [a]
    let w : Digraph.Walk :=
      { node := a, order, doneNodes := done.filterMap Term.node?, doneArcs := done.filterMap Term.arc? }
    return .record [("ordering", .nats (← g.walkOn w b))]
  | some "verify", _ => do
    g.check
    return ok
  | some "verify_traversal", order :: _ => do
    g.checkWalk order.nodes
    return ok
  | some "dependencies", _ => do
    let n ← node 1
    if !g.nodes.isEmpty && !g.nodes.contains n then refuse .missingNode
    return .record [("nodes", sorted (g.needs n))]
  | some "above", _ => do
    let n ← node 1
    if !g.nodes.contains n then refuse .badGraph
    return .record [("edges", sortedArcs g.above), ("state", sorted (g.stateAbove n))]
  | some "subgraph", options :: _ => do
    let p ← part g options
    return .record [("nodes", sorted p.nodes), ("edges", sortedArcs p)]
  | _, _ => refuse .missingKey

end DigraphScript

end SurveyGraph
