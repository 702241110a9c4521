import SurveyGraph.Write.Program
/-!
# Finding nodes and relations

Statements that look for what is in the database: by labels and properties, by number, by neighbours, or
along a path.
-/
namespace SurveyGraph.Write

variable (t labels : Thing)

def checkLabel : Except Fault String :=
  match t.text? with
  | none => refuse .badType
  | some s =>
    match s.toList with
    | [] => refuse .outOfRange
    | c :: _ => if Text.Letter.upperOf c == [c] then .ok s else refuse WriteCause.labelCase

def checkLabels : Except Fault (List String) := do
  (← t.each).mapM checkLabel

def firstLabel (labels : List String) : Except Fault Value :=
  match labels with
  | [] => refuse .outOfRange
  | l :: _ => .ok (.text l)

/-- A variable as it is; anything else is data that is sent with the program. -/
def varOrData : WriteM VarId :=
  match t with
  | .var v => pure v
  | t => newData t

def requireThat (b : Bool) : Except Fault Unit := if b then .ok () else refuse .failedCheck

def readEntry (e : Thing × Thing) : WriteM (String × VarId) := do
  requireThat !e.2.isNothing
  return (e.1.text?.getD "", ← varOrData e.2)

/-- Entries of properties, which have texts as keys, and the variables that they are made of. -/
def readEntries (es : List (Thing × Thing)) : WriteM (Properties × List Thing) := do
  requireThat (es.all (·.1.text?.isSome))
  let es ← es.mapM readEntry
  return (.entries es, es.map (fun e => .var e.2))

def readProperties : WriteM (Properties × List Thing) :=
  match t, t.entries? with
  | .var v, _ => pure (.given v, [t])
  | _, some es => readEntries es
  | _, none => refuse .missingAttribute

def matchNode (properties : Thing) (optional : Bool) : WriteM VarId := do
  requireOpen
  let labels ← checkLabels labels
  let (properties, inputs) ← readProperties properties
  let out ← newPlain (← firstLabel labels)
  addStatement { inputs, outputs := [out], form := .matchNode labels properties optional out }
  return out

def matchRelation (parent child : Thing) (type : Value) (properties : Thing) (optional : Bool) : WriteM VarId := do
  requireOpen
  let (properties, inputs) ← readProperties properties
  let out ← newPlain type
  addStatement
    { inputs := inputs ++ [parent, child], outputs := [out]
      form := .matchRelation parent child type properties optional out }
  return out

def matchId (id : Thing) : WriteM VarId := do
  requireOpen
  let labels ← checkLabels labels
  let id ← varOrData id
  let out ← newPlain (← firstLabel labels)
  addStatement { inputs := [.var id], outputs := [out], form := .matchId labels id out }
  return out

/-- The members of a list; nothing counts as an empty list. -/
def listOrNone : Except Fault (List Thing) :=
  match t.list? with
  | some xs => .ok xs
  | none => if t.isNothing then .ok [] else refuse .badType

def matchPattern (properties parents children exclude : Thing) : WriteM VarId := do
  requireOpen
  let properties := if properties.isNothing then .dict [] else properties
  let labels ← checkLabels labels
  let (properties, inputs) ← readProperties properties
  let parents ← listOrNone parents
  let children ← listOrNone children
  let exclude ← listOrNone exclude
  let out ← newPlain (← firstLabel labels)
  addStatement
    { inputs := inputs ++ parents ++ children ++ exclude, outputs := [out]
      form := .matchPattern labels properties parents children exclude out }
  return out

def hintFrom : Value :=
  match t.value? with
  | some v => v
  | none => .list []

/-- A variable as it is, and a new one for anything else. -/
def varOrNew : WriteM VarId :=
  match t with
  | .var v => pure v
  | t => newPlain (hintFrom t)

/-- Looks for the nodes along a path; some are known, the others are given by label. -/
def matchBranch (path : List Thing) : WriteM (List VarId) := do
  requireOpen
  let outputs ← path.mapM varOrNew
  addStatement { inputs := path.filter (·.var?.isSome), outputs, form := .matchBranch path }
  return outputs

end SurveyGraph.Write
