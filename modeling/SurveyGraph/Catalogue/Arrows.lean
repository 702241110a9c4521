import SurveyGraph.Catalogue.Names
/-!
# Patterns for paths

A path between two classes as the pattern that the database is asked with. The pattern leaves places
for the variables at its two ends and for the name of its last relationship.
-/
namespace SurveyGraph

/-- A pattern for a path, whether it leads to one instance at most, and its classes. -/
structure PathPattern where
  arrows : String
  singular : Bool
  classes : List ClassId
  deriving Repr, DecidableEq

namespace PathPattern

/-- The labels of the relationships of a path, one for all or one for each. -/
def labels (descriptor : Value) (count : Nat) : List String :=
  let shown : Value → String
    | .none => ""
    | v => ":" ++ v.display
  match descriptor with
  | .list xs | .tuple xs => xs.map shown
  | v => List.replicate count (shown v)

def arrow (forward : Bool) (name label : String) : String :=
  if forward then "-[" ++ name ++ label ++ "]->" else "<-[" ++ name ++ label ++ "]-"

def steps : List (String × Bool) → List String → Except Fault (List String)
  | [], _ => .ok []
  | _ :: _, [] => refuse .outOfRange
  | [(node, forward)], label :: _ =>
    .ok [arrow forward "\x7bname\x7d" label, "(\x7bout_var\x7d:" ++ node ++ ")"]
  | (node, forward) :: rest, label :: labels => do
    return [arrow forward "" label, "(:" ++ node ++ ")"] ++ (← steps rest labels)

/-- The pattern of a path through named classes, with a direction for each step. -/
def render (names : List String) (forwards : List Bool) (descriptor : Value) : Except Fault String := do
  if forwards.length + 1 != names.length then refuse .failedCheck
  let rest ← steps (names.tail.zip forwards) (labels descriptor forwards.length)
  return String.join ("(\x7bin_var\x7d)" :: rest)

end PathPattern

namespace Catalogue

variable (d : Catalogue)

def pluralShown : PluralName → String
  | .text s => s
  | .relations rs =>
    "\x7b" ++ Text.join ", " (rs.map (fun (n, r) => Text.quoted n ++ ": " ++ d.reg.relationShown r)) ++ "\x7d"

def patternOf (descriptor : Value) (r : Atlas.Directed) : Except Fault PathPattern := do
  let forwards := List.replicate (r.classes.length - 1) (!r.reversed)
  let arrows ← PathPattern.render (r.classes.map d.reg.nameOf) forwards descriptor
  return { arrows, singular := r.singular, classes := r.classes }

def patterns (source target : ClassId) (singular : Bool) (descriptor : Value) : Except Fault (List PathPattern) := do
  (← d.atlas.directed source target singular).mapM (d.patternOf descriptor)

def noLinkBetween (source target : String) (singular : Bool) : Except Fault PathCause := do
  let wanted ←
    if singular then pure ("only one `" ++ (← d.singularName target) ++ "`")
    else pure ("multiple `" ++ d.pluralShown (← d.pluralName target) ++ "`")
  return .noLink (← d.singularName (Text.Letter.lower source)) wanted

def pathsBetween (source target : String) (singular : Bool) (descriptor : Value) : Except Fault (List PathPattern) := do
  let a ← d.singularName source
  let b ← d.singularName target
  match d.patterns (← d.named a) (← d.named b) singular descriptor with
  | .ok ps => return ps
  | .error e => if e.kind != .noPath then throw e else refuse (← d.noLinkBetween a b singular)

end Catalogue

end SurveyGraph
