import SurveyGraph.Write.Match
/-!
# Merging nodes and relations

A node or relation is merged: it is looked for by what identifies it, made if it is not there, and its other
properties are set. Nodes that are identified by their relations are merged together with them.
-/
namespace SurveyGraph.Write

variable (labels ident properties : Thing)

def Rule.ofValue (v : Value) : Except Fault Rule :=
  match v with
  | .text "track&flag" => .ok .trackAndFlag
  | .text "overwrite" => .ok .overwrite
  | .text "ignore" => .ok .ignore
  | v => refuse (WriteCause.unknownRule v.display)

/-- Properties have to be given one by one, and no name may be in both. -/
def disjoint (ident properties : Properties) (overlap : WriteCause) :
    Except Fault (List (String × VarId) × List (String × VarId)) := do
  match properties, ident with
  | .entries ps, .entries is =>
    if ps.any (fun p => is.any (·.1 == p.1)) then refuse overlap
    return (is, ps)
  | _, _ => refuse .missingAttribute

/-- What a merge is made from, and the variables that it uses. -/
structure MergeParts where
  merge : Merge
  inputs : List Thing

/-- The parts of a merge. `check` says whether the rest of the merge is sound. -/
def mergeParts (out : VarId) (ident properties : Thing) (rule : Value) (check : Except Fault Unit) :
    WriteM MergeParts := do
  let (properties, propInputs) ← readProperties properties
  let (ident, identInputs) ← readProperties ident
  let (ident, properties) ← disjoint ident properties .propertyOverlap
  check
  let propVar ← newPlain (.text "props")
  let colliding ← newPlain (.text "colliding_keys")
  let value ← newPlain (.text "unnamed")
  let rule ← Rule.ofValue rule
  return { merge := { out, ident, properties, propVar, colliding, value, rule }
           inputs := propInputs ++ identInputs }

def Merge.outputs (m : Merge) : List VarId :=
  [m.out, m.propVar] ++ (if m.rule == .trackAndFlag then [m.value, m.colliding] else [])

def mergeSingle (rule : Value) : WriteM VarId := do
  requireOpen
  let labels ← checkLabels labels
  let out ← newPlain (← firstLabel labels)
  let parts ← mergeParts out ident properties rule (.ok ())
  addStatement
    { inputs := parts.inputs, outputs := parts.merge.outputs, form := .mergeNode labels parts.merge }
  return out

def mergeRelation (parent child : Thing) (type : Value) (ident properties : Thing) (rule : Value) :
    WriteM VarId := do
  requireOpen
  let out ← newPlain type
  let parts ← mergeParts out ident properties rule (.ok ())
  addStatement
    { inputs := parts.inputs, outputs := parts.merge.outputs ++ [parts.merge.value]
      form := .mergeRelation parent child type parts.merge }
  return out

structure GivenRelation where
  other : Thing
  type : Thing
  inward : Bool
  ident : Thing
  properties : Thing

/-- The identifying and the other properties of a relation, and the variables that each are made of. -/
def readRelation (r : GivenRelation) : WriteM (Properties × Properties × List Thing × List Thing) := do
  let (ident, identInputs) ← readProperties r.ident
  let (properties, propInputs) ← readProperties r.properties
  return (ident, properties, identInputs, propInputs)

def GivenRelation.typeText (r : GivenRelation) : Except Fault String :=
  match r.type.text? with
  | some t => .ok t
  | none => refuse .badType

def relationTypes (rs : List GivenRelation) : Except Fault (List String) := rs.mapM GivenRelation.typeText

/-- A relation that a node must not have: a label, a type, its direction, and properties. -/
def readAbsence (t : Thing) : WriteM (AntiRelation × List Thing) := do
  match ← t.each with
  | [label, type, inward, properties] => do
    let (properties, inputs) ← readProperties properties
    return ({ label, type, inward := inward.isTrue, properties }, inputs)
  | _ => refuse .badValue

def newPlains (hint : String → String) (ts : List String) : WriteM (List VarId) :=
  ts.mapM (fun t => newPlain (.text (hint t)))

def mergeDependent (relations : List GivenRelation)
    (absent : List Thing) (rule : Value) : WriteM VarId := do
  requireOpen
  let labels ← checkLabels labels
  let given ← relations.mapM readRelation
  let out ← newPlain (← firstLabel labels)
  let types ← relationTypes relations
  let relVars ← newPlains id types
  let dummyVars ← newPlains ("dummy" ++ ·) types
  let dummy ← newPlain (.text "dummy")
  let propVars ← newPlains (· ++ "_props") types
  let colliding ← newPlains (fun _ => "colliding_rel_keys") types
  let absences ← absent.mapM readAbsence
  let entries := given.mapM (fun g => disjoint g.1 g.2.1 .relationOverlap)
  let parts ← mergeParts out ident properties rule (entries.map (fun _ => ()))
  let entries ← entries
  let holder ← newPlain (.text "child_holder")
  let unnamed ← newPlain (.text "unnamed")
  let hash ← newPlain (.text "hash")
  let built : List IdRelation :=
    (relations.zip (types.zip entries)).zip ((relVars.zip dummyVars).zip (propVars.zip colliding)) |>.map
      fun ((r, t, e), (rel, dum), (prop, col)) =>
        { other := r.other, type := t, inward := r.inward, ident := e.1, properties := e.2
          relVar := rel, dummyVar := dum, propVar := prop, colliding := col }
  addStatement
    { inputs := parts.inputs ++ relations.map (·.other) ++ given.flatMap (·.2.2.1) ++ given.flatMap (·.2.2.2)
        ++ absences.flatMap (·.2)
      outputs := parts.merge.outputs ++ relVars ++ dummyVars ++ propVars ++ [dummy, holder, unnamed]
      hidden := colliding ++ [hash]
      form := .mergeDependent parts.merge
        { labels, relations := built, absent := absences.map (·.1), dummy, holder, unnamed, hash
          hashed := false } }
  return out

def requirePaired (types parents : List Thing) : Except Fault Unit :=
  if types.length == parents.length then .ok () else refuse WriteCause.versionLengths

/-- Gives a node the next version number among the children of its parents. -/
def setVersion (parents types : List Thing) (label child properties : Thing) : WriteM Unit := do
  requireOpen
  requirePaired types parents
  let label ← checkLabel label
  let (properties, inputs) ← readProperties properties
  addStatement
    { inputs := parents ++ inputs ++ [child], outputs := []
      form := .setVersion parents types label child properties }

/-- Merges a node, with the relations that identify it if there are any. -/
def mergeIdentified (relations : List GivenRelation)
    (absent : List Thing) (rule : Value) : WriteM VarId :=
  if relations.isEmpty && absent.isEmpty then mergeSingle labels ident properties rule
  else mergeDependent labels ident properties relations absent rule

/-- Merges a node and gives it a version number if it has a label to be versioned under. -/
def mergeNode (relations : List GivenRelation)
    (absent : List Thing) (rule : Value) (versioned : Option (Thing × Thing) := none) :
    WriteM VarId := do
  let node ← mergeIdentified labels ident properties relations absent rule
  match versioned with
  | none => return node
  | some (label, properties) => do
    setVersion (relations.map (·.other)) (relations.map (·.type)) label (.var node) properties
    return node

def validateNumber (collection min max central joined : Thing) : WriteM Unit := do
  requireOpen
  let check ← newPlain (.text "check")
  addStatement
    { inputs := [collection], outputs := [], hidden := [check]
      form := .validateNumber collection min max central joined check }

/-- Checks that a node, or every node of a collection, has a label. -/
def validateType (t label : Thing) : WriteM Unit := do
  requireOpen
  let check ← newPlain (.text "check")
  let member ← newIf ((← get).isCollection t) "i"
  addStatement
    { inputs := [t], outputs := [], hidden := check :: member.toList
      form := .validateType t label check member }

end SurveyGraph.Write
