import SurveyGraph.Schema.Identity
import SurveyGraph.Write.Statement
/-!
# Programs that write to the database

A program is a list of statements. It keeps the variables that the next statement may use: those of the
open blocks, and the data that is sent with the program. When a block closes, its variables are out of
reach, but those of the block closed last can be collected.
-/
namespace SurveyGraph.Write

variable (p : Program) (hint : Value) (t : Thing)

structure Instance where
  cls : ClassId
  identifier : Thing := .nothing
  usesTables : Bool := false
  fields : List (String × Thing) := []
  node : Option VarId := none
  deriving Inhabited

structure Program where
  reg : Registry
  /-- The rule for collisions, as it was given. -/
  rule : Value
  vars : Array Variable
  data : Array VarId := #[]
  statements : Array Statement
  /-- The variables of the open blocks, innermost first. -/
  blocks : List (List VarId)
  closed : List VarId := []
  instances : Array Instance := #[]
  isOpen : Bool := true

namespace Program

def time : VarId := 0

def start (reg : Registry) (rule : Value) : Program :=
  { reg, rule
    vars := #[{ kind := .plain, hint := .text "time" }]
    statements := #[{ inputs := [], outputs := [time], form := .timestamp }]
    blocks := [[time]] }

def get (v : VarId) : Variable := p.vars.getD v default

def getInstance (o : InstanceId) : Instance := p.instances.getD o default

def isCollection : Bool :=
  match t with
  | .var v => (p.get v).kind.isCollection
  | _ => false

/-- How an instance is shown, given the text of its identifier. -/
def instanceText (i : Instance) (identifier : String) : String :=
  let c := p.reg.get i.cls
  match c.idname with
  | some n => "<" ++ c.name ++ "(" ++ n ++ "=" ++ identifier ++ ")>"
  | none => "<" ++ c.name ++ "(None=)>"

def unnamed : String := "<object>"

mutual

/-- The text of a variable: its name, or its formula. `fuel` bounds the depth of formulas. -/
def varTextWithin (p : Program) : Nat → VarId → String
  | 0, _ => unnamed
  | fuel + 1, v =>
    let x := p.get v
    match x.kind with
    | .data _ => "$" ++ x.name.getD unnamed
    | .derived f _ =>
      f.text ⟨varTextWithin p fuel, instanceTextWithin p fuel, fun c => (p.reg.get c).shown⟩
    | _ => x.name.getD unnamed

def instanceTextWithin (p : Program) : Nat → InstanceId → String
  | 0, _ => unnamed
  | fuel + 1, o =>
    let i := p.getInstance o
    p.instanceText i (i.identifier.display ⟨varTextWithin p fuel, instanceTextWithin p fuel, fun c => (p.reg.get c).shown⟩)

end

/-- A bound for the depth of formulas. -/
def depth : Nat := p.vars.size + p.instances.size + 1

def leaves : Leaves := ⟨p.varTextWithin p.depth, p.instanceTextWithin p.depth, fun c => (p.reg.get c).shown⟩

def varText (v : VarId) : String := p.varTextWithin p.depth v

def text : String := t.display p.leaves

/-- The text of an instance that is not part of the program yet. -/
def shownInstance (i : Instance) : String := p.instanceText i (p.text i.identifier)

def inReach (v : VarId) : Bool := p.blocks.any (·.contains v) || p.data.contains v

/-- Whether a variable is in reach, or derived from one that is. `fuel` bounds the depth of
formulas. -/
def isAccessibleWithin (p : Program) : Nat → VarId → Bool
  | 0, _ => false
  | fuel + 1, v =>
    p.inReach v || match (p.get v).kind.parent? with
      | some w => isAccessibleWithin p fuel w
      | none => false

def isAccessible : Bool :=
  match t with
  | .var v => p.isAccessibleWithin p.depth v
  | _ => false

def visible : List VarId := p.blocks.reverse.flatten

mutual

/-- The thing with every instance in it replaced by its node. -/
def nodesOf (p : Program) : Thing → Except Fault Thing
  | .object o =>
    match (p.getInstance o).node with
    | some v => .ok (.var v)
    | none =>
      let shown := p.leaves.object o
      refuse (WriteCause.noQuery shown "node")
  | .list xs => return .list (← nodesOfAll p xs)
  | .tuple xs => return .tuple (← nodesOfAll p xs)
  | .dict es => return .dict (← nodesOfEntries p es)
  | t => .ok t

def nodesOfAll (p : Program) : List Thing → Except Fault (List Thing)
  | [] => .ok []
  | x :: xs => return (← nodesOf p x) :: (← nodesOfAll p xs)

def nodesOfEntries (p : Program) : List (Thing × Thing) → Except Fault (List (Thing × Thing))
  | [] => .ok []
  | (k, v) :: es => return (← nodesOf p k, ← nodesOf p v) :: (← nodesOfEntries p es)

end

end Program

/-- Computations that add to a program; what they have added stays even if they fail. -/
abbrev WriteM := ExceptT Fault (StateM Program)

def requireOpen : WriteM Unit := do
  if !(← get).isOpen then refuse WriteCause.noProgram

def newVariable (kind : VarKind) (hint : Value) : WriteM VarId := do
  let p ← get
  let x : Variable := { kind, hint := hintOr hint }
  set { p with vars := p.vars.push x }
  return p.vars.size

def newPlain : WriteM VarId := newVariable .plain hint

def newIf (needed : Bool) (hint : String) : WriteM (Option VarId) :=
  if needed then some <$> newPlain (.text hint) else pure none

def newData (value : Thing) (hint : Value := .text "data") : WriteM VarId := do
  let v ← newVariable (.data value) hint
  requireOpen
  modify fun p => { p with data := p.data.push v }
  return v

/-- A new variable for a formula. There has to be a variable in it. -/
def newDerived (f : Formula) : WriteM VarId := do
  match f.parent? with
  | some parent => newVariable (.derived f parent) .none
  | none => refuse .outOfRange

def toNodes : WriteM Thing := do (← get).nodesOf t

def hintOf : WriteM Value := do
  let p ← get
  match t with
  | .var v => return (p.get v).hint
  | .object o =>
    let shown := p.leaves.object o
    refuse (WriteCause.noQuery shown "namehint")
  | _ => refuse .missingAttribute

def hintWith (after : String) : WriteM Value :=
  match hint with
  | .text s => return .text (s ++ after)
  | _ => refuse .badType

def Program.extend (vs : List VarId) : Program :=
  { p with
    blocks := match p.blocks with
      | [] => [vs]
      | b :: bs => (b ++ vs) :: bs }

/-- It is a failure to use something that is not in reach. -/
def Program.require : Except Fault Unit :=
  if p.isAccessible t then .ok () else
  match t with
  | .plain (.path _) => refuse .tooDeep
  | _ => refuse (WriteCause.notAccessible (p.text t))

def Program.requireAll (ts : List Thing) : Except Fault Unit := ts.forM p.require

def Program.withStatement (s : Statement) : Program :=
  { (p.extend s.outputs) with statements := p.statements.push s }

/-- Adds a statement. Everything it uses has to be in reach. -/
def addStatement (s : Statement) : WriteM Unit := do
  let p ← get
  p.requireAll s.inputs
  set (p.withStatement s)

def nameAs (input : VarId) (hint : Value) : WriteM VarId := do
  let out ← newPlain hint
  addStatement { inputs := [.var input], outputs := [out], form := .rename }
  return out

end SurveyGraph.Write
