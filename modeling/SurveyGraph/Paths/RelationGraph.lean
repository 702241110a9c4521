import SurveyGraph.Schema.Order
/-!
# The graph of relations among some classes

Every relation of the given classes as a pair of arrows, one in each direction. Relations to a template
go to the given classes below it. From one class to another there is one arrow at most, the last.
-/
namespace SurveyGraph

structure RelationArrow where
  src : ClassId
  dst : ClassId
  singular : Bool
  isOptional : Bool
  style : String
  deriving Repr, BEq

namespace RelationArrow

variable (reg : Registry)

def put (as : List RelationArrow) (a : RelationArrow) : List RelationArrow :=
  if as.any (fun b => b.src == a.src && b.dst == a.dst) then
    as.map (fun b => if b.src == a.src && b.dst == a.dst then a else b)
  else as ++ [a]

/-- A relation to a template as relations to allowed classes below it. -/
def expand (allowed : List ClassId) (r : Relation) (c : ClassId) : List (Relation × ClassId) :=
  if !(reg.get c).isTemplate then [(r, c)]
  else ((reg.subclasses c).filter (fun d => !(reg.get d).isTemplate && allowed.contains d)).map
    fun d => ({ r with min := 0, target := .cls d }, d)

/-- Adds the arrows of relations between `parent` and `child`, which declares them if `up`. The far
end of each relation stays for the next, so that once both ends are the same only arrows from a class
to itself are added. -/
def addEach (up : Bool) : List (Relation × ClassId) → ClassId → ClassId → List RelationArrow → List RelationArrow
  | [], _, _, as => as
  | (r, d) :: rest, parent, child, as =>
    let one := r.max == some 1
    let style := if one then "solid" else "dashed"
    if parent == child then
      addEach up rest parent child (put as { src := parent, dst := child, singular := one, isOptional := r.isOptional, style })
    else if up then
      let as := put as { src := child, dst := d, singular := one, isOptional := r.isOptional, style }
      addEach up rest d child
        (put as { src := d, dst := child, singular := r.one2one, isOptional := true
                  style := if r.one2one then "solid" else "dotted" })
    else
      let as := put as { src := parent, dst := d, singular := one, isOptional := r.isOptional, style }
      addEach up rest parent d (put as { src := d, dst := parent, singular := true, isOptional := true, style := "solid" })

/-- Adds the arrows of a relation between `parent` and `child`. `target` is the far end. -/
def addRelation (allowed : List ClassId) (parent child : ClassId) (r : Relation)
    (target : ClassId) (as : List RelationArrow) : List RelationArrow :=
  addEach (target == parent) (expand reg allowed r target) parent child as

def ofClasses (cs : List ClassId) : List RelationArrow :=
  cs.foldl (fun as c =>
    let k := reg.get c
    let relation : Member → Option (Relation × ClassId)
      | .cls d => some (.one d, d)
      | .rel r => match r.target with | .cls d => some (r, d) | .awaiting _ => none
      | .name _ => none
    let as := (k.children.filterMap relation).foldl (fun as (r, d) => addRelation reg cs c d r d as) as
    (k.parents.filterMap relation).foldl (fun as (r, d) => addRelation reg cs d c r d as) as) []

end RelationArrow

end SurveyGraph
