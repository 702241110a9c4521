import SurveyGraph.Schema.Declare
/-!
# What identifies an instance

An instance is found again by its id, by factors that identify it together, or by factors and
relations together. This decides how it is written to the database (`mergeStrategy`) and which
constraints and indexes the database keeps (`constraints`).
-/
namespace SurveyGraph

variable (reg : Registry) (c : ClassId)

/-- How an instance is written: the node by itself, or the node with its identifying relations. -/
inductive MergeStrategy where
  | nodeFirst
  | nodeWithRelations
  deriving Repr, BEq, DecidableEq

def MergeStrategy.name : MergeStrategy → String
  | .nodeFirst => "NODE FIRST"
  | .nodeWithRelations => "NODE+RELATIONSHIP"

namespace Registry

def requirementNames : Except Fault (List String) :=
  (reg.get c).parents.mapM fun
    | .cls p => .ok (reg.get p).singularName
    | .rel { target := .cls p, max, .. } =>
      .ok (if max == some 1 then (reg.get p).singularName else (reg.get p).pluralName)
    | _ => refuse .missingAttribute

def relativeList : List String :=
  ((reg.get c).parents ++ (reg.get c).children).filterMap reg.memberName?

def hasFactorIdentity : Except Fault Bool :=
  let k := reg.get c
  match k.identity with
  | none | some [] => .ok false
  | some identity =>
    let rels := reg.relativeList c
    if !rels.any (fun r => k.factors.contains r || identity.contains r) && !rels.isEmpty then
      refuse (SchemaCause.strayIdentity k.shown)
    else .ok (!rels.any identity.contains)

def hasRelationIdentity : Bool :=
  match (reg.get c).identity with
  | none | some [] => false
  | some identity => (reg.relativeList c).any identity.contains

def mergeStrategy : Except Fault MergeStrategy := do
  let k := reg.get c
  if k.idname.isSome || (k.identity.getD []).isEmpty then return .nodeFirst
  if ← reg.hasFactorIdentity c then return .nodeFirst
  if reg.hasRelationIdentity c then return .nodeWithRelations
  return .nodeFirst

def properties (names : List String) : String := Text.join ", " (names.map ("n." ++ ·))

/-- The statement that no two instances of a class agree in all given properties. -/
def nodeKey (name : String) (names : List String) : String :=
  s!"CREATE CONSTRAINT {name}_id ON (n:{name}) ASSERT ({properties names}) IS NODE KEY"

/-- The statement that instances of a class are looked up by properties. -/
def indexOn (name suffix : String) (names : List String) : String :=
  s!"CREATE INDEX {name}_{suffix} FOR (n:{name}) ON ({properties names})"

def identityStatements : Except Fault (List String) :=
  let k := reg.get c
  let identity := k.identity.getD []
  match k.idname with
  | some idname => .ok [nodeKey k.name [idname]]
  | none =>
    if identity.isEmpty then .ok []
    else do
      if ← reg.hasFactorIdentity c then return [nodeKey k.name identity]
      if !reg.hasRelationIdentity c then return []
      let fs := identity.filter k.factors.contains
      let joint := if fs.isEmpty then [] else [indexOn k.name "rel" fs]
      return joint ++ fs.map (fun f => indexOn k.name f [f])

def indexStatements (k : Class) : List String :=
  (k.indexes.filter (fun i => !(k.identity.getD []).any (fun s => some s == i))).map fun i =>
    indexOn k.name (i.getD "None") [i.getD "None"]

/-- The statements that make the database keep instances of a class apart. -/
def constraints : Except Fault (List String) := do
  let k := reg.get c
  if k.isTemplate then return []
  let all := (← reg.identityStatements c) ++ indexStatements k
  if all.isEmpty && k.idname.isNone && (k.identity.getD []).isEmpty then
    refuse (SchemaCause.noSchemaIdentity k.name)
  return all

/-- Whether a question about the identity of a class looks at its relations to plain classes. -/
def asksRelations : Bool :=
  let k := reg.get c
  !(k.identity.getD []).isEmpty && (k.parents ++ k.children).any fun
    | .cls _ => true
    | _ => false

def schemaLabels : List String :=
  (reg.allBases c).map reg.nameOf ++ [reg.nameOf c, "SchemaNode"]

end Registry

/-- Answers a question about the identity of a class. If relations are `looked` at, all waiting relations
are resolved first. -/
def askIdentity {α : Type} (c : ClassId) (looked : Bool) (question : Registry → ClassId → Except Fault α) : SchemaM α := do
  if looked && (← get).asksRelations c then settleRegistry
  match question (← get) c with
  | .ok a => return a
  | .error e => throw e

/-- Sets a name in a list of named things; a name that is there keeps its place. -/
def setNamed {α : Type} (name : String) (a : α) : List (String × α) → List (String × α)
  | [] => [(name, a)]
  | (n, b) :: rest => if n == name then (n, a) :: rest else (n, b) :: setNamed name a rest

/-- What an instance of a class is given at creation. -/
structure Specification where
  parents : List (String × Member)
  children : List (String × Member)
  /-- Names of factors as they are given, with the factors as they are declared. -/
  factors : List (String × String)
  deriving Repr

def Specification.names (s : Specification) : List String :=
  (s.parents.map (·.1) ++ s.factors.map (·.1) ++ s.children.map (·.1)).eraseDups

def Registry.givenName (m : Member) : String :=
  match m with
  | .rel { idname := some s, target, max, .. } =>
    if s.isEmpty then
      match target with
      | .cls c => if max == some 1 then (reg.get c).singularName else (reg.get c).pluralName
      | .awaiting n => n
    else s
  | m => (reg.memberName? m).getD ""

/-- Members under their names; of those with the same name the last one counts. -/
def Registry.underNames (ms : List Member) : List (String × Member) :=
  ms.foldl (fun acc m => setNamed (reg.givenName m) m acc) []

def Member.isOneToOne : Member → Bool
  | .rel r => r.one2one
  | _ => false

/-- The specification of a class. A one-to-one relation counts on both sides. -/
def Registry.specification : Specification :=
  let k := reg.get c
  { parents := reg.underNames (k.parents ++ k.children.filter Member.isOneToOne)
    children := reg.underNames (k.parents.filter Member.isOneToOne ++ k.children)
    factors := k.factors.foldl (fun fs f => setNamed (Text.Letter.lower f) f fs) [] }

end SurveyGraph
