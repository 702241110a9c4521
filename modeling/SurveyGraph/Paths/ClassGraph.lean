import SurveyGraph.Paths.Shortest
import SurveyGraph.Schema.Order
/-!
# The graph of classes

The classes of a registry and the links between them: from parent to child and back, and from a class to
those that extend it and back. Links between the same two classes are numbered. The weight of a link is 0
if it leads to one instance at most, otherwise the number of instances it may lead to.

Successors keep the order in which links were added: it breaks ties between paths.
-/
namespace SurveyGraph

variable (reg : Registry) (l : Link)

inductive LinkType where
  | parentOf
  | childOf
  | subclassedBy
  | isA
  deriving Repr, DecidableEq

def LinkType.name : LinkType → String
  | .parentOf => "is_parent_of"
  | .childOf => "is_child_of"
  | .subclassedBy => "subclassed_by"
  | .isA => "is_a"

/-- What gave rise to a link; links of different origins are never the same. -/
inductive LinkOrigin where
  | parentUp
  | parentDown
  | childDown
  | childUp
  | selfReference
  | inheritance
  deriving Repr, DecidableEq

structure Link where
  src : ClassId
  dst : ClassId
  key : Nat := 0
  type : LinkType
  origin : LinkOrigin
  /-- Whether it leads to one instance at most; unknown for inheritance. -/
  singular : Option Bool
  isOptional : Bool
  one2one : Bool
  /-- How many instances it leads to; `none` if that is not known. -/
  number : Option Quantity
  relation : Option Relation := none
  deriving Repr

namespace Link

def weight : Option Quantity :=
  match l.type, l.singular with
  | .isA, _ => some (.finite 0)
  | .subclassedBy, _ => some .infinite
  | _, some true => some (.finite 0)
  | _, _ => l.number

def same (a b : Link) : Bool :=
  a.type == b.type && a.origin == b.origin && a.singular == b.singular
    && a.isOptional == b.isOptional && a.one2one == b.one2one && a.number == b.number
    && (match a.relation, b.relation with
      | some r, some s => reg.sameRelation r s
      | none, none => true
      | _, _ => false)

def turned : Link := { l with src := l.dst, dst := l.src }

/-- Whether a weight is above zero; an unknown one cannot be compared. -/
def isHeavy : Except Fault Bool :=
  match l.weight with
  | some w => .ok (Quantity.lt (.finite 0) w)
  | none => refuse .badType

end Link

/-- Neighbours in order, each with the links to it. -/
abbrev Neighbours := List (ClassId × List Link)

structure ClassGraph where
  /-- The classes, in the order in which they were added. -/
  nodes : List ClassId
  out : Array Neighbours
  into : Array Neighbours

namespace ClassGraph

variable (g : ClassGraph) (c : ClassId)

def addTo (c : ClassId) (l : Link) : Neighbours → Neighbours
  | [] => [(c, [l])]
  | (d, ls) :: rest => if d == c then (d, ls ++ [l]) :: rest else (d, ls) :: addTo c l rest

def contains : Bool := g.nodes.contains c

def addNode : ClassGraph := if g.contains c then g else { g with nodes := g.nodes ++ [c] }

def between (a b : ClassId) : List Link := ((g.out.getD a []).lookup b).getD []

def insert (l : Link) : ClassGraph :=
  { g with
    out := g.out.modify l.src (addTo l.dst l)
    into := g.into.modify l.dst (addTo l.src l) }

/-- Adds a link with a number, unless one says the same. -/
def add (g : ClassGraph) (l : Link) : ClassGraph :=
  let g := (g.addNode l.src).addNode l.dst
  let there := g.between l.src l.dst
  if there.any (·.same reg l) then g else g.insert { l with key := there.length }

def blank (size : Nat) : ClassGraph := { nodes := [], out := Array.replicate size [], into := Array.replicate size [] }

def links : List Link := g.nodes.flatMap (fun c => (g.out.getD c []).flatMap (·.2))

def linksFrom : List Link := (g.out.getD c []).flatMap (·.2)

def numberOf (r : Relation) : Option Quantity := r.max.map .finite

def parentLinks (child parent : ClassId) (r : Relation) : List Link :=
  [{ src := child, dst := parent, type := .childOf, origin := .parentUp
     singular := some (r.max == some 1), isOptional := r.isOptional, one2one := r.one2one
     number := numberOf r },
   { src := parent, dst := child, type := .parentOf, origin := .parentDown
     singular := some r.one2one, isOptional := r.isOptional, one2one := r.one2one
     number := numberOf r, relation := some r }]

def childLinks (parent child : ClassId) (r : Relation) : List Link :=
  [{ src := parent, dst := child, type := .parentOf, origin := .childDown
     singular := some (r.max == some 1), isOptional := r.isOptional, one2one := r.one2one
     number := numberOf r, relation := some r },
   { src := child, dst := parent, type := .childOf, origin := .childUp
     singular := some true, isOptional := r.isOptional, one2one := r.one2one
     number := numberOf r }]

/-- The link of a class that is listed as its own relative. -/
def selfLink : Link :=
  { src := c, dst := c, type := .parentOf, origin := .selfReference, singular := some true
    isOptional := false, one2one := false, number := some (.finite 1) }

def inheritanceLinks (c base : ClassId) : List Link :=
  [{ src := base, dst := c, type := .subclassedBy, origin := .inheritance, singular := none
     isOptional := false, one2one := false, number := some .infinite },
   { src := c, dst := base, type := .isA, origin := .inheritance, singular := none
     isOptional := false, one2one := false, number := some (.finite 0) }]

/-- The links of a member of a list of parents or children of `c`. -/
def memberLinks (make : ClassId → Relation → List Link) (c : ClassId) : Member → List Link
  | .cls d => if d == c then [selfLink c] else make d (.one d)
  | .rel r =>
    match r.target with
    | .cls d => make d r
    | .awaiting _ => []
  | .name _ => []

def linksOf : List Link :=
  let k := reg.get c
  let up := k.parents.flatMap (memberLinks (fun d r => parentLinks c d r) c)
  let down := k.children.flatMap (memberLinks (fun d r => childLinks c d r) c)
  up ++ down ++ k.bases.flatMap (inheritanceLinks c)

def addClass (g : ClassGraph) (c : ClassId) : ClassGraph := (linksOf reg c).foldl (add reg) (g.addNode c)

def remove : ClassGraph :=
  { nodes := g.nodes.filter (· != c)
    out := (g.out.map (·.filter (·.1 != c))).setIfInBounds c []
    into := (g.into.map (·.filter (·.1 != c))).setIfInBounds c [] }

def ofRegistry : ClassGraph :=
  ((reg.subclasses Registry.root).foldl (addClass reg) (blank reg.classes.size)).remove Registry.root

def filter (p : Link → Bool) : ClassGraph :=
  let keep (ns : Neighbours) : Neighbours :=
    (ns.map (fun n => (n.1, n.2.filter p))).filter (fun n => !n.2.isEmpty)
  { g with out := g.out.map keep, into := g.into.map keep }

def bare : ClassGraph := { g with out := g.out.map (fun _ => []), into := g.into.map (fun _ => []) }

/-- The same graph with predecessors in the order of the classes. -/
def reordered : ClassGraph := g.links.foldl insert g.bare

def reversed : ClassGraph := (g.links.map Link.turned).foldl insert g.bare

def singular : ClassGraph := g.filter (·.weight == some (.finite 0))

def nonOptional : ClassGraph := (g.filter (!·.isOptional)).reordered

def ofTypes (types : List LinkType) : ClassGraph := (g.filter (fun l => types.contains l.type)).reordered

def successors : List ClassId := (g.out.getD c []).map (·.1)

def predecessors : List ClassId := (g.into.getD c []).map (·.1)

def ancestors : List ClassId :=
  (Shortest.closure g.predecessors (g.nodes.length + 1) [c] [c]).tail

def shown : String :=
  let n := toString g.nodes.length
  let m := toString g.links.length
  s!"HierarchyGraph with {n} nodes and {m} edges"

def plural : Except Fault (List Link) := (g.linksFrom c).filterM (·.isHeavy)

def surrounding : List ClassId :=
  let h := g.ofTypes [.parentOf]
  h.successors c ++ h.predecessors c ++ [c]

/-- The class and all before it, through relations and inheritance. -/
def ancestorsAndSelf : List ClassId :=
  (g.ofTypes [.parentOf, .subclassedBy]).ancestors c ++ [c]

/-- Of some classes, those that extend no other of them. -/
def collapse (cs : List ClassId) : List ClassId :=
  let inside (c : ClassId) : Bool := c != Registry.root && cs.contains c
  (g.nodes.filter inside).filter fun c =>
    !(g.into.getD c []).any (fun n => inside n.1 && n.2.any (·.type == .subclassedBy))

end ClassGraph

end SurveyGraph
