import SurveyGraph.Write.Variable
/-!
# Statements of a program

A statement uses things (`inputs`), introduces variables (`outputs`) that later statements may use, and
may introduce variables that only its own text mentions (`hidden`).
-/
namespace SurveyGraph.Write

/-- Properties of a node or relation: entries one by one, or a variable that holds them all. -/
inductive Properties where
  | given (v : VarId)
  | entries (es : List (String × VarId))
  deriving Inhabited

inductive Rule where
  /-- The old values stay and the new ones are recorded. -/
  | trackAndFlag
  /-- The new values win. -/
  | overwrite
  /-- The old values stay. -/
  | ignore
  deriving Repr, BEq, DecidableEq

structure Merge where
  out : VarId
  ident : List (String × VarId)
  properties : List (String × VarId)
  propVar : VarId
  colliding : VarId
  value : VarId
  rule : Rule

structure IdRelation where
  other : Thing
  type : String
  /-- The relation goes from the other node to this one. -/
  inward : Bool
  ident : List (String × VarId)
  properties : List (String × VarId)
  relVar : VarId
  dummyVar : VarId
  propVar : VarId
  colliding : VarId

structure AntiRelation where
  label : Thing
  type : Thing
  inward : Bool
  properties : Properties

/-- What merging a node together with its identifying relations needs. -/
structure Dependence where
  labels : List String
  relations : List IdRelation
  absent : List AntiRelation
  dummy : VarId
  holder : VarId
  unnamed : VarId
  hash : VarId
  /-- Whether the relations carry the hash already. They do once the statement has been written down. -/
  hashed : Bool

inductive Form where
  | timestamp
  | returns (unnamed : List Thing) (named : List (String × Thing))
  | rename
  | unwind (indexer : Option VarId) (enumerated : Bool)
  | collect (previous : List VarId)
  /-- The nodes of a map under a key. -/
  | lookup (mapping : VarId) (item : Thing) (out temp : VarId)
  | copy
  | groupBy (property : String)
  | custom (format : String)
  | matchNode (labels : List String) (properties : Properties) (optional : Bool) (out : VarId)
  | matchRelation (parent child : Thing) (type : Value) (properties : Properties) (optional : Bool)
      (out : VarId)
  | matchId (labels : List String) (id out : VarId)
  | matchPattern (labels : List String) (properties : Properties) (parents children exclude : List Thing)
      (out : VarId)
  | matchBranch (path : List Thing)
  | mergeNode (labels : List String) (m : Merge)
  | mergeRelation (parent child : Thing) (type : Value) (m : Merge)
  | mergeDependent (m : Merge) (d : Dependence)
  | setVersion (parents : List Thing) (types : List Thing) (label : String) (child : Thing)
      (properties : Properties)
  | validateNumber (collection min max central joined : Thing) (check : VarId)
  | validateType (subject label : Thing) (check : VarId) (member : Option VarId)

structure Statement where
  inputs : List Thing
  outputs : List VarId
  hidden : List VarId := []
  form : Form

namespace Statement

def isReturns (s : Statement) : Bool :=
  match s.form with
  | .returns .. => true
  | _ => false

def returns (unnamed : List Thing) (named : List (String × Thing)) : Statement :=
  { inputs := unnamed ++ named.map (·.2), outputs := [], form := .returns unnamed named }

def mentioned (s : Statement) : List Thing := s.inputs ++ (s.outputs ++ s.hidden).map .var

end Statement

end SurveyGraph.Write
