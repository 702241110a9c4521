import SurveyGraph.Paths.ClassGraph
/-!
# Routes between classes

A route between two classes goes through relations in one direction only, and may change from a class to
the classes below it. If there is no way without, it forks into one route for each class that has
instances.

`Atlas.routes` prefers routes to one instance that every instance has, then routes to one instance, then,
if several instances are wanted, routes that every instance has, then any.
-/
namespace SurveyGraph

variable (reg : Registry) (g : ClassGraph) (m : Atlas) (path : List ClassId)

structure Route where
  classes : List ClassId
  steps : List (ClassId × ClassId × Nat)
  deriving Repr, DecidableEq

def Link.place (l : Link) : ClassId × ClassId × Nat := (l.src, l.dst, l.key)

namespace ClassGraph

def lighter (a b : Link) : Except Fault Link :=
  match a.weight, b.weight with
  | some x, some y => .ok (if y.lt x then b else a)
  | _, _ => refuse .badType

/-- A link between classes: the first, or the first of the lightest. -/
def linkBetween (weighted : Bool) (a b : ClassId) : Except Fault Link := do
  if !g.contains a || !g.contains b then refuse .badGraph
  match g.between a b with
  | [] => refuse (PathCause.noEdge (reg.get a).shown (reg.get b).shown)
  | l :: ls => if weighted then ls.foldlM lighter l else return l

def linksAlong : Except Fault (List Link) :=
  (path.zip path.tail).mapM (fun (a, b) => g.linkBetween reg true a b)

/-- Successors with the lightest weight. A single link of unknown weight leads nowhere. -/
def weightedSuccessors (c : ClassId) : Except Fault (List (ClassId × Quantity)) :=
  (g.out.getD c []).filterMapM fun (d, ls) => do
    match ls with
    | [] => return none
    | l :: ls => return (← ls.foldlM lighter l).weight.map (d, ·)

def shortestPath? (a b : ClassId) : Except Fault (Option (List ClassId)) := do
  if !g.contains a then refuse .missingNode
  let before ← Shortest.predecessors g.weightedSuccessors g.out.size g.links.length a
  return Shortest.firstPath before a (g.out.size + 1) [b] b

def fewestLinks (a b : ClassId) : Except Fault (List ClassId) := do
  if !g.contains a || !g.contains b then refuse .missingNode
  match Shortest.unweightedPath g.successors g.predecessors g.out.size a b with
  | some p => return p
  | none => refuse .noPath

/-- The part of a path before it first goes to a class below that is not its end, and the class where
it does. -/
def splitAtFork (top : ClassId) : List Link → List ClassId → List ClassId × Option ClassId
  | [], path => (path, none)
  | l :: ls, path =>
    if l.type == .isA && l.dst != top then (path, some l.src)
    else splitAtFork top ls (path ++ [l.dst])

/-- The paths from `bottom` to `top` along links turned round. Where a path leaves a class for one
below it, it goes on from that class without inheritance if possible, and else from every class below
with instances. A search that comes back to a class has no end. -/
def forkingPaths (reg : Registry) (top : ClassId) : Nat → ClassGraph → ClassId → Except Fault (List (List ClassId))
  | 0, _, _ => refuse .tooDeep
  | fuel + 1, g, bottom => do
    match ← g.shortestPath? bottom top with
    | none => return []
    | some found =>
      let links ← g.linksAlong reg found
      match splitAtFork top links [bottom] with
      | (path, none) => return [path]
      | (path, some fork) =>
        let direct ← forkingPaths reg top fuel (g.filter (·.type != .isA)) fork
        if !direct.isEmpty then return direct.map (path.dropLast ++ ·)
        else
          let inheritance := g.filter (·.type == .isA)
          let below := (reg.subclasses fork).filter (fun c => !(reg.get c).isTemplate)
          if below.contains top then
            return [path ++ (← inheritance.fewestLinks fork top).tail]
          else
            let parts ← below.mapM fun c => do
              let down ← inheritance.fewestLinks fork c
              let rest ← forkingPaths reg top fuel g c
              return rest.map (path ++ down.tail.dropLast ++ ·)
            return parts.flatten.eraseDups

/-- Two classes in order of depth, the graph to search (turned round), and whether its links lead from
child to parent. -/
structure Descent where
  top : ClassId
  bottom : ClassId
  graph : ClassGraph
  upward : Bool

end ClassGraph

structure Layer where
  graph : ClassGraph
  /-- Links from parent to child, and inheritance. -/
  down : ClassGraph
  /-- Links from child to parent, and inheritance. -/
  up : ClassGraph

namespace Layer

def ofGraph : Layer :=
  { graph := g, down := g.ofTypes [.parentOf, .isA], up := g.ofTypes [.childOf, .isA] }

def sortByDepth (v : Layer) (a b : ClassId) : Except Fault ClassGraph.Descent :=
  if a == b then .ok { top := a, bottom := b, graph := v.down, upward := false }
  else match [a, b].find? (!v.graph.contains ·) with
    | some c => refuse (PathCause.notInGraph (reg.get c).shown v.graph.shown)
    | none =>
      if (v.down.ancestors a).contains b then .ok { top := b, bottom := a, graph := v.down, upward := false }
      else if (v.down.ancestors b).contains a then .ok { top := a, bottom := b, graph := v.down, upward := false }
      else if (v.up.ancestors b).contains a then .ok { top := a, bottom := b, graph := v.up, upward := true }
      else if (v.up.ancestors a).contains b then .ok { top := b, bottom := a, graph := v.up, upward := true }
      else refuse (PathCause.unordered (reg.get a).shown (reg.get b).shown)

/-- The classes of a path without those only passed on the way to a class below. -/
def reduced (links : List Link) : List ClassId :=
  (links.filter (fun l => l.type != .isA && l.type != .subclassedBy)).map (·.src) ++ path.getLast?.toList

def routeAlong (v : Layer) (g : ClassGraph) (upward : Bool) (path : List ClassId) : Except Fault Route := do
  let links ← g.linksAlong reg path
  if upward then
    return { classes := reduced path links, steps := links.map Link.place }
  else
    let back ← links.reverse.mapM (fun l => v.graph.linkBetween reg true l.dst l.src)
    return { classes := (reduced path links).reverse, steps := back.map Link.place }

def doubled : List ClassId → List ClassId
  | [c] => [c, c]
  | p => p

def routes (v : Layer) (a b : ClassId) : Except Fault (List Route) := do
  let d ← v.sortByDepth reg a b
  let g := d.graph.reversed
  let paths ← g.forkingPaths reg d.top (reg.classes.size + 1) d.bottom
  let found ← (paths.map doubled).eraseDups.mapM (v.routeAlong reg g d.upward)
  return found.eraseDups

end Layer

structure Atlas where
  reg : Registry
  graph : ClassGraph
  singularRequired : Layer
  singular : Layer
  required : Layer
  full : Layer

namespace Atlas

def ofRegistry : Atlas :=
  let g := ClassGraph.ofRegistry reg
  let s := g.singular
  { reg, graph := g, singularRequired := .ofGraph s.nonOptional, singular := .ofGraph s
    required := .ofGraph g.nonOptional, full := .ofGraph g }

/-- Tries another way when there is no path. -/
def orElse {α : Type} (x y : Except Fault α) : Except Fault α :=
  match x with
  | .error e => if e.kind == .noPath then y else x
  | .ok _ => x

def routes (a b : ClassId) (singular : Bool) : Except Fault (List Route) :=
  orElse (m.singularRequired.routes m.reg a b)
    (if singular then m.singular.routes m.reg a b
     else orElse (m.singular.routes m.reg a b) (orElse (m.required.routes m.reg a b) (m.full.routes m.reg a b)))

def weights : Except Fault (List (Option Quantity)) := do
  return (← m.graph.linksAlong m.reg path).map (·.weight)

def anyHeavy : List (Option Quantity) → Except Fault Bool
  | [] => .ok false
  | some w :: ws => if Quantity.lt (.finite 0) w then .ok true else anyHeavy ws
  | none :: _ => refuse .badType

def isSingular : Except Fault Bool := do
  return !(← anyHeavy (← m.weights path))

def stepsSingular (m : Atlas) : List (ClassId × ClassId × Nat) → Except Fault Bool
  | [] => .ok true
  | (a, b, k) :: rest => do
    match (m.graph.between a b).find? (·.key == k) with
    | none => refuse .missingKey
    | some l => if ← l.isHeavy then return false else m.stepsSingular rest

/-- A route in the direction asked for; `reversed` if that is against the relations. -/
structure Directed where
  classes : List ClassId
  singular : Bool
  reversed : Bool
  deriving Repr, BEq

/-- A route in the direction to a class, and whether it has been turned round. -/
def turn (target : ClassId) (r : Route) : Except Fault (List ClassId × List (ClassId × ClassId × Nat) × Bool) := do
  if r.classes.head? == some target then
    let back ← r.steps.reverse.mapM (fun (a, b, _) => m.graph.linkBetween m.reg false b a)
    return (r.classes.reverse, back.map Link.place, true)
  else return (r.classes, r.steps, false)

def directed (source target : ClassId) (singular : Bool) : Except Fault (List Directed) := do
  let found ← m.routes source target singular
  if found.isEmpty then refuse .noPath
  let turned ← found.mapM (m.turn target)
  turned.mapM fun (classes, steps, reversed) => do
    return { classes, singular := ← m.stepsSingular steps, reversed }

end Atlas

end SurveyGraph
