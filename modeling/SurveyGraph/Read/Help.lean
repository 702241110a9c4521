import SurveyGraph.Read.Function
import SurveyGraph.Value.Slice
/-!
# Help

What can be asked of a query: the attributes and objects that are reached from its object, names close to a
guess, and what the object is.
-/
namespace SurveyGraph

variable (d : Catalogue) (q : Query)

namespace Catalogue

def reachedAsOne (c : ClassId) : List ClassId :=
  let g := d.atlas.graph.singular
  let found := Shortest.closure g.successors (g.nodes.length + 1) [c] [c]
  sortClasses d.reg (found.filter (· != c))

def reachedAsMany (c : ClassId) : Except Fault (List ClassId) := do
  let g := d.atlas.graph
  let heavy (c : ClassId) : List ClassId :=
    ((g.linksFrom c).filter (fun l => match l.isHeavy with | .ok b => b | .error _ => false)).map (·.dst)
  let found := Shortest.closure heavy (g.nodes.length + 1) [c] [c]
  for f in found do
    let _ ← g.plural f
  return sortClasses d.reg (found.filter (· != c))

end Catalogue

namespace Query

def classOf : Except Fault ClassId :=
  match d.byClass.lookup (objText q.obj) with
  | some c => .ok c
  | none => refuse (missingKey (objText q.obj))

/-- The attributes of an object and of what is reached from it; with `owned`, its own ones only. -/
def attributes (plural owned : Bool) : Except Fault (List String) := do
  if !q.kind.isObject then refuse (ReadCause.notObjectOrData q.shown)
  let c ← q.classOf d
  let lowered (c : ClassId) : List String := (d.reg.get c).productsAndFactors.map Text.Letter.lower
  let own := (lowered c).mergeSort Catalogue.textLe
  if owned then return own
  let one := (d.reachedAsOne c).flatMap fun n => (lowered n).map ((d.reg.get n).singularName ++ "." ++ ·)
  let many ← if plural then do
      pure ((← d.reachedAsMany c).flatMap fun n => (lowered n).map ((d.reg.get n).pluralName ++ "." ++ ·))
    else pure []
  return own ++ Catalogue.sortTexts (one ++ many)

/-- The objects that are reached from an object, and its relations; with `plural`, also those that are
reached as many. -/
def objects (plural : Bool) : Except Fault (List String) := do
  let c ← q.classOf d
  let one := (d.reachedAsOne c).map fun n => Text.Letter.lower (d.reg.get n).singularName
  let reached ← d.reachedAsMany c
  let many := if plural then reached.map (fun n => Text.Letter.lower (d.reg.get n).pluralName) else []
  let relations := (d.reg.get c).relativeNames.map (·.1)
  return (one ++ relations).mergeSort Catalogue.textLe ++ many.mergeSort Catalogue.textLe

def completions : Except Fault (List String) := do
  if q.kind == .row then q.givenColumns
  else
    let own ← q.attributes d false true
    let one ← q.objects d false
    let many := (Catalogue.sortTexts (← q.objects d true)).filter (!one.contains ·)
    return (own ++ one ++ many).map fun s =>
      Text.Letter.lower (if Text.contains s "[" then "\"" ++ s ++ "\"" else s)

def find (guess : String) (count : Value) : Except Fault (List String) := do
  if q.kind.isAttribute then refuse ReadCause.searchAttribute
  let c ← q.classOf d
  let one := d.reachedAsOne c
  let many ← d.reachedAsMany c
  let names := one.map (fun n => (d.reg.get n).singularName) ++ many.map (fun n => (d.reg.get n).pluralName)
  let factors ← many.mapM fun n => (d.reg.get n).productsAndFactors.mapM d.pluralText
  let sources := names ++ one.flatMap (fun n => (d.reg.get n).productsAndFactors) ++ factors.flatten
  let scored := sources.map (fun n => (n, Text.similarity guess n))
  let ordered := (scored.mergeSort (fun a b => !(decide (a.2 < b.2)))).map (·.1)
  return (← Value.sliceList .none count .none ordered).map Text.Letter.lower

def explanation : Except Fault String := do
  match q.obj with
  | none => refuse (ReadCause.notObject q.shown)
  | some o =>
    match (← d.get o).doc with
    | none => refuse .missingAttribute
    | some s => return o ++ ":\n\t " ++ Text.Glyph.strip s ++ "\n"

end Query

end SurveyGraph
