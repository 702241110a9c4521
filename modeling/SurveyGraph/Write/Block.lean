import SurveyGraph.Write.Program
/-!
# Members, formulas and blocks

A block goes through the members of lists side by side. Inside the block its variables stand for one
member each; after the block what they stood for can be collected into lists again.
-/
namespace SurveyGraph.Write

variable (things : List Thing) (p : Program) (v : VarId) (t key : Thing) (skipNothing : Bool)

def textOf : WriteM Thing := do return .var (← newDerived (.asText (.var v)))

/-- The key under which a member is found. In a record keys are texts. -/
def itemKey (isMapping : Bool) (key : Thing) : WriteM Thing :=
  match key with
  | .var k => if isMapping then textOf k else pure key
  | t =>
    if t.text?.isSome then pure t
    else match t.whole? with
      | some n => pure (if isMapping then .text n.display else t)
      | none => refuse .failedCheck

def itemOf : WriteM (VarId × Thing) := do
  let key ← itemKey ((← get).get v).kind.isMapping key
  return (← newDerived (.item (.var v) key), key)

/-- What the name of a member begins with. -/
def Program.itemHint : String :=
  let hint := (p.get v).hint.display
  match key with
  | .var k =>
    let of := (p.get k).hint.display
    s!"{hint}_index_{of}"
  | t =>
    let shown := p.text t
    if t.text?.isSome then shown else s!"{hint}_index{shown}"

def namedItem : WriteM VarId := do
  let (item, key) ← itemOf v key
  requireOpen
  nameAs item (.text ((← get).itemHint v key))

/-- What the name of the nodes under a key begins with. -/
def Program.lookUpHint : Except Fault Value :=
  let word := match key with
    | .var k => (p.get k).hint
    | t => .text (t.text?.getD "item")
  match (p.get v).hint, word with
  | .text a, .text b => .ok (.text (a ++ "_" ++ b))
  | _, _ => refuse .badType

def lookUp : WriteM VarId := do
  requireOpen
  let out ← newPlain (← (← get).lookUpHint v key)
  let temp ← newPlain (.text "temp")
  let inputs := Thing.var v :: (match key with | .var _ => [key] | _ => [])
  addStatement { inputs, outputs := [out], hidden := [temp], form := .lookup v key out temp }
  return out

/-- The member of a thing under a key, as brackets ask for it. -/
def member : WriteM VarId := do
  let p ← get
  match t with
  | .var v =>
    match (p.get v).kind with
    | .nodeMap => lookUp v key
    | _ => namedItem v key
  | .object o =>
    match key.text? with
    | none => refuse .failedCheck
    | some k =>
      match (p.getInstance o).node with
      | none => refuse (WriteCause.noQuery (p.text t) "node")
      | some node => do
        let item ← newDerived (.item (.var node) key)
        requireOpen
        nameAs item (.text k)
  | _ => refuse .badType

/-- Two things with an operator between them, under a name. -/
def combine (op hint : String) (a : VarId) (b : Thing) : WriteM VarId := do
  requireOpen
  let v ← newDerived (.arithmetic op (.var a) b)
  nameAs v (.text hint)

def named (f : Formula) (hint : String) : WriteM VarId := do
  let v ← newDerived f
  requireOpen
  nameAs v (.text hint)

/-- One text after another, under a name if it is asked for. -/
def append (a b : Thing) (isNamed : Bool) : WriteM VarId := do
  if isNamed then named (.appended a b) "append" else newDerived (.appended a b)

def copy : WriteM (List VarId) := do
  requireOpen
  let outputs ← things.mapM (fun t => do newPlain (← hintWith (← hintOf t) "_copy"))
  addStatement { inputs := things, outputs, form := .copy }
  return outputs

/-- A block that has been opened: what it goes through, and what stands for the members. -/
structure Block where
  inputs : List Thing
  members : List VarId

/-- What a block goes through: the things themselves, or copies of them. -/
def blockInputs (useCopy : Bool) : WriteM (List Thing) :=
  if useCopy then (·.map Thing.var) <$> copy things else pure things

def newMember : WriteM VarId := do
  match ← hintOf t with
  | .text hint => newPlain (.text ("unwound_" ++ Text.replaceAll hint "$" ""))
  | _ => refuse .missingAttribute

/-- Opens a block that goes through lists side by side, with the place in them if `enumerated`. -/
def openBlock (enumerated useCopy : Bool) : WriteM Block := do
  let inputs ← blockInputs things useCopy
  requireOpen
  let members ← inputs.mapM newMember
  let indexer ← newIf (enumerated || inputs.length > 1) "i"
  modify fun p => { p with blocks := [] :: p.blocks }
  addStatement { inputs, outputs := members ++ indexer.toList, form := .unwind indexer enumerated }
  return { inputs, members := members ++ (if enumerated then indexer.toList else []) }

/-- The program after its innermost block has been closed. What it went through is out of reach. -/
def Program.close (b : Block) : Program :=
  let gone := b.inputs.filterMap Thing.var?
  let closed := p.blocks.headD []
  let blocks := (p.blocks.drop 1).map (·.filter (!gone.contains ·))
  let previous := (blocks.reverse).flatten
  let s : Statement := { inputs := [], outputs := [], form := .collect previous }
  { p with blocks, closed, statements := p.statements.push s }

def closeBlock (b : Block) : WriteM Unit := modify (·.close b)

/-- What the statement keeps that closed the last block, if nothing has been added since. -/
def Program.kept : Except Fault (List VarId) :=
  match (p.statements.back?.map (·.form) : Option Form) with
  | some (.collect previous) => .ok previous
  | _ => refuse WriteCause.notAfterUnwind

/-- It is a failure to collect what is no variable of the block closed last. -/
def Program.requireClosed (t : Thing) : Except Fault Unit :=
  let isThere := match t with
    | .var v => p.closed.contains v
    | _ => false
  if isThere || (skipNothing && t.isNothing) then .ok () else refuse (WriteCause.notUnwound (p.text t))

def Program.requireAllClosed (ts : List Thing) : Except Fault Unit :=
  ts.forM (p.requireClosed skipNothing)

def newCollection : WriteM VarId := do
  newVariable .collection (← hintWith ((← get).get v).hint "s")

def Program.withLast (s : Statement) : Program :=
  { (p.extend s.outputs) with statements := p.statements.pop.push s }

/-- Collects what variables stood for. A variable that is given twice is collected once. -/
def collectOnce (previous : List VarId) (vs : List (Option VarId)) : WriteM (List (Option VarId)) := do
  let once := (vs.filterMap id).eraseDups
  let outputs ← once.mapM newCollection
  modify (·.withLast { inputs := once.map .var, outputs, form := .collect previous })
  return vs.map (fun v => v.bind (fun v => (once.zip outputs).lookup v))

/-- Collects what variables of the block closed last stood for, passing over nothing if asked to. -/
def collect : WriteM (List (Option VarId)) := do
  requireOpen
  let p ← get
  let previous ← p.kept
  p.requireAllClosed skipNothing things
  collectOnce previous (things.map Thing.var?)

def collectThings : WriteM Thing := do
  return .handOver ((← collect things skipNothing).map .ofVar?)

def Program.requireCollection (t : Thing) : Except Fault Unit :=
  if p.isCollection t then .ok () else refuse (WriteCause.notCollection (p.text t))

def groupBy (property : Thing) : WriteM VarId := do
  (← get).requireCollection t
  requireOpen
  match property.text? with
  | none => refuse .badType
  | some property => do
    let out ← newVariable .nodeMap (.text (property ++ "_dict"))
    addStatement { inputs := [t], outputs := [out], form := .groupBy property }
    return out

/-- New variables for texts; variables stay what they are. -/
def toOutputs : WriteM (List VarId) :=
  things.mapM fun t => do
    match t, t.text? with
    | .var v, _ => return v
    | _, some s => newPlain (.text s)
    | _, _ => refuse WriteCause.badOutput

/-- A statement in words of its own, with places for what it uses and introduces. -/
def custom (format : String) (inputs returned others : List Thing) : WriteM (List VarId) := do
  let returned ← toOutputs returned
  let others ← toOutputs others
  requireOpen
  addStatement { inputs, outputs := returned ++ others, form := .custom format }
  return returned

def setReturns (unnamed : List Thing) (named : List (String × Thing)) : WriteM Unit := modify fun p =>
  let s := Statement.returns unnamed named
  { p with
    statements := match p.statements.back?.map Statement.isReturns with
      | some true => p.statements.pop.push s
      | _ => p.statements.push s }

end SurveyGraph.Write
