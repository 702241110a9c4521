import SurveyGraph.Schema.Relation
import SurveyGraph.Text.Inflection
/-!
# Classes and their registry

A class of the schema with everything that its declaration settles, and the registry of the classes
declared so far. Class 0 is the root that every class extends.

A relation may name a class that is declared later. It waits; as soon as any relation to a known class is
made, all waiting relations are resolved.
-/
namespace SurveyGraph

/-- What a declaration gives itself; the rest is inherited. -/
structure Given where
  idname : Option (Option String) := none
  identity : Option (Option (List String)) := none
  versionOn : Option (List String) := none
  factors : Option (List String) := none
  products : Option (List String) := none
  indexes : Option (List (Option String)) := none
  constants : Option (List String) := none
  produces : Option (List Member) := none
  deriving Repr, Inhabited

/-- What is done to the values that an instance is created from. -/
inductive Preparation where
  | plain
  /-- The name and the path of a file are texts, and it may do without a path. -/
  | fileNames
  /-- The colour of an arm follows from its camera and its grating. -/
  | armColour
  deriving Repr, BEq, DecidableEq

structure Class where
  name : String
  /-- Where the class is declared; it stands before the name when the class is shown. -/
  scope : String
  bases : List ClassId
  /-- The class and all classes that it extends, nearest first, without the root. -/
  lineage : List ClassId
  doc : Option String
  singularName : String
  pluralName : String
  isTemplate : Bool
  aliases : List String
  given : Given
  idname : Option String
  /-- The names that identify an instance together, if it has no name of its own. -/
  identity : Option (List String)
  versionOn : List String
  factors : List String
  products : List String
  indexes : List (Option String)
  constants : List String
  parents : List Member
  children : List Member
  produces : List Member
  /-- Relations with a name of their own. -/
  relativeNames : List (String × Relation)
  productsAndFactors : List String
  preparation : Preparation := .plain
  deriving Repr, Inhabited

/-- Whether an instance can be found again by what identifies it. -/
def Class.indexable (c : Class) : Bool := c.idname.isSome || c.identity.isSome

def Class.shown (c : Class) : String := "<class '" ++ c.scope ++ "." ++ c.name ++ "'>"

structure Registry where
  classes : Array Class
  /-- Names that relations of abandoned declarations still wait for. -/
  orphans : List String := []
  derived : List (String × ClassId) := []
  deriving Repr, Inhabited

def rootClass : Class :=
  { name := "Hierarchy", scope := "weaveio.hierarchy", bases := [], lineage := [], doc := none
    singularName := "hierarchy", pluralName := "hierarchies", isTemplate := true, aliases := []
    given := {}, idname := none, identity := none, versionOn := [], factors := [], products := []
    indexes := [], constants := [], parents := [], children := [], produces := []
    relativeNames := [], productsAndFactors := [] }

namespace Registry

variable (reg : Registry) (c : ClassId)

def empty : Registry := { classes := #[rootClass] }

def root : ClassId := 0

def get : Class := reg.classes.getD c rootClass

def declared : List ClassId := (List.range reg.classes.size).drop 1

/-- The class declared last under a name; the root is not among them. -/
def find? (name : String) : Option ClassId :=
  reg.declared.reverse.find? (fun c => (reg.get c).name == name)

/-- The class declared last under a name, the root included. -/
def lookup? (name : String) : Option ClassId :=
  match reg.find? name with
  | some c => some c
  | none => if name == rootClass.name then some root else none

def nameOf : String := (reg.get c).name

/-- The class, the classes it extends, and the root. -/
def ancestry : List ClassId := if c == root then [root] else (reg.get c).lineage ++ [root]

def isSubclass (c d : ClassId) : Bool := (reg.ancestry c).contains d

/-- The labels of an instance: its class and all classes that it extends. -/
def labels : List String := (reg.ancestry c).map reg.nameOf

def directSubclasses : List ClassId :=
  reg.declared.filter (fun d => (reg.get d).bases.contains c)

/-- All classes below a class, each followed by those below it; `fuel` bounds the depth. -/
def subclassesWithin (reg : Registry) : Nat → ClassId → List ClassId
  | 0, _ => []
  | fuel + 1, c => (reg.directSubclasses c).flatMap (fun d => d :: reg.subclassesWithin fuel d)

/-- All classes below a class, each followed by those below it; a class may be listed twice. -/
def subclasses : List ClassId := reg.subclassesWithin reg.classes.size c

/-- The classes above a class, each followed by those above it; `fuel` bounds the depth. -/
def basesWithin (reg : Registry) (exclude : ClassId → Bool) : Nat → ClassId → List ClassId
  | 0, _ => []
  | fuel + 1, c =>
    ((reg.get c).bases.filter (!exclude ·)).flatMap (fun b => b :: reg.basesWithin exclude fuel b)

/-- The classes above a class, each followed by those above it, the root included. -/
def allBases : List ClassId := reg.basesWithin (fun _ => false) reg.classes.size c

def properBases : List ClassId := reg.basesWithin (· == root) reg.classes.size c

def targetName : Target → String
  | .cls c => reg.nameOf c
  | .awaiting s => s

def targetShown : Target → String
  | .cls c => (reg.get c).shown
  | .awaiting s => s

/-- The name of a relation: its own, or that of its far end for one or for many, if that is
known. -/
def relationName? (r : Relation) : Option String :=
  match r.idname, r.target with
  | some s, _ => some s
  | none, .cls c => some (if r.max == some 1 then (reg.get c).singularName else (reg.get c).pluralName)
  | none, .awaiting _ => none

/-- The name of a member; a name that is no class has none. -/
def memberName? : Member → Option String
  | .cls c => some (reg.get c).singularName
  | .rel r => reg.relationName? r
  | .name _ => none

def memberClass? : Member → Option ClassId
  | .cls c => some c
  | .rel { target := .cls c, .. } => some c
  | _ => none

def sameRelation (r s : Relation) : Bool :=
  (r.fingerprint (reg.targetName r.target)).agrees (s.fingerprint (reg.targetName s.target))

def sameMember : Member → Member → Bool
  | .cls c, .cls d => c == d
  | .rel r, .rel s => reg.sameRelation r s
  | .name a, .name b => a == b
  | _, _ => false

def dedupMembers (ms : List Member) : List Member :=
  (ms.foldl (fun acc m => if acc.any (reg.sameMember · m) then acc else m :: acc) []).reverse

def relationShown (r : Relation) : String :=
  let node := reg.targetShown r.target
  match r.kind with
  | .oneOf => s!"<OneOf({node})>"
  | .optional => s!"<Optional({node})>"
  | .multiple =>
    let max := match r.max with | some m => toString m | none => "None"
    let idname := r.idname.getD "None"
    let order := if r.ordered then "[Ordered]" else "[Unordered]"
    let min := toString r.min
    s!"<Multiple({node} [{min} - {max}] id={idname} {order})>"

/-- Resolves one relation by name, if it waits and the class is known. -/
def resolveRelation (r : Relation) : Relation :=
  match r.target with
  | .awaiting s =>
    match reg.find? s with
    | some c => { r with target := .cls c }
    | none => r
  | .cls _ => r

def resolveMember : Member → Member
  | .rel r => .rel (reg.resolveRelation r)
  | m => m

def resolveClass (c : Class) : Class :=
  { c with
    children := c.children.map reg.resolveMember
    parents := c.parents.map reg.resolveMember
    relativeNames := c.relativeNames.map (fun p => (p.1, reg.resolveRelation p.2)) }

def awaited (ms : List Member) : List String :=
  ms.filterMap fun
    | .rel { target := .awaiting s, .. } => some s
    | _ => none

def pending : List String :=
  reg.orphans ++ reg.classes.toList.flatMap (fun c => awaited c.children ++ awaited c.parents)

/-- Resolves all waiting relations. There is no end to the wait for a class that is not declared. -/
def settle : Except Fault Registry :=
  if reg.pending.isEmpty then .ok reg
  else if reg.pending.all (fun s => (reg.find? s).isSome) then
    .ok { reg with orphans := [], classes := reg.classes.map reg.resolveClass }
  else refuse .tooDeep

end Registry

/-- Computations that may change the registry; changes last even if the computation fails. -/
abbrev SchemaM := ExceptT Fault (StateM Registry)

def settleRegistry : SchemaM Unit := do
  match (← get).settle with
  | .ok reg => set reg
  | .error e => throw e

end SurveyGraph
