import SurveyGraph.Write.Block
import SurveyGraph.Write.Merge
/-!
# Instances of classes

An instance is created from named values: its identifier, its factors, and its relatives. It is written
to the database as a node that is merged by what identifies it, with a relation to each relative. An
instance may also stand for a node that was found.
-/
namespace SurveyGraph.Write

variable (p : Program) (isParent : Bool) (t : Thing) (spec : Specification) (i : Instance) (f : Filling)
  (cls : ClassId) (c : Class) (name : String)

def relationType : Value := .text "is_required_by"

structure Arguments where
  named : List (String × Thing) := []
  /-- A table from which factors are taken that are not given. -/
  table : Option Thing := none
  /-- The names that factors have in the table, where these differ. -/
  columns : Thing := .dict []

def onRegistry {α : Type} (x : SchemaM α) : WriteM α := do
  let p ← get
  let (r, reg) := x.run.run p.reg
  set { p with reg }
  match r with
  | .ok a => return a
  | .error f => throw f

/-- The text of something in capitals, of which only the first part counts. -/
def firstCapital : WriteM Thing := do
  let capital (s : String) : WriteM Thing := return .text (Text.Letter.upper s)
  match t with
  | .plain (.text s) =>
    match s.toList with
    | [] => refuse .outOfRange
    | c :: _ => capital c.toString
  | .var _ | .object _ => do
    let _ ← member t (.plain (.int 0))
    refuse .missingAttribute
  | t =>
    match t.sequence?, t.entries? with
    | some [], _ => refuse .outOfRange
    | some (x :: _), _ =>
      match x.text? with
      | some s => capital s
      | none => refuse .missingAttribute
    | none, some _ => refuse .missingKey
    | none, none => refuse .badType

def required (named : List (String × Thing)) (name : String) : Except Fault Thing :=
  match named.lookup name with
  | some t => .ok t
  | none => refuse .missingKey

def prepare (create : Bool) (named : List (String × Thing)) : WriteM (List (String × Thing)) := do
  let p ← get
  match c.preparation with
  | .plain => return named
  | .fileNames =>
    let asText (name : String) (es : List (String × Thing)) : List (String × Thing) :=
      match es.lookup name with
      | some t => setNamed name (.text (p.text t)) es
      | none => es
    let named := asText "path" (asText "fname" named)
    return if (named.lookup "path").isSome then named else setNamed "path" .nothing named
  | .armColour =>
    if !create then return named
    let grating ← required named "vph"
    let camera ← required named "camera"
    let isThird := match grating with
      | .plain v => v.same (.int 3)
      | _ => false
    let colour := if isThird && camera.text? == some "blue" then .text "green" else camera
    let named := setNamed "colour" colour named
    return setNamed "colour_code" (← firstCapital colour) named

/-- Resolves relations of a class that still wait for the class at their far end. -/
def settleClass (c : ClassId) : WriteM Unit := do
  let reg := (← get).reg
  let k := reg.get c
  let waiting := Registry.awaited k.parents ++ Registry.awaited k.children
  if waiting.any (fun s => (reg.find? s).isSome) then onRegistry settleRegistry

/-- Whether every relative of a class has a name under which it can be given. -/
def hasNames (ms : List Member) : Bool :=
  ms.all fun
    | .rel { target := .awaiting _, idname, .. } => !(idname.getD "").isEmpty
    | .name _ => false
    | _ => true

def relationOf : Member → Option Relation
  | .cls c => some (.one c)
  | .rel r => some r
  | .name _ => none

structure Filling where
  rest : List (String × Thing)
  fields : List (String × Thing) := []
  parents : List (String × Thing × Relation) := []
  children : List (String × Thing × Relation) := []

/-- Whether a thing is a collection of nodes, or an instance that stands for one. -/
def Program.standsForMany (t : Thing) : Bool :=
  match t with
  | .object o => ((p.getInstance o).node.map (fun v => p.isCollection (.var v))).getD false
  | t => p.isCollection t

/-- Checks that as many relatives are given as allowed. A collection is counted when the program runs. -/
def checkCount (value : Thing) (r : Relation) : WriteM Unit := do
  let p ← get
  if p.standsForMany value then
    match r.target with
    | .awaiting _ => refuse .missingAttribute
    | .cls d => do
      let label := Thing.text (p.reg.nameOf d)
      let max := match r.max with | some m => Thing.plain (.int m) | none => .nothing
      let nodes ← toNodes value
      validateNumber nodes (.plain (.int r.min)) max (.text c.name) label
      validateType nodes label
  else
    let count := value.count.getD 1
    let wrong : WriteM Unit := refuse (WriteCause.wrongCount c.name r.min name r.max count)
    if (count : Int) < r.min then wrong
    match r.max with
    | none => refuse .badType
    | some max => if (count : Int) > max then wrong
    match value with
    | .object _ => refuse .failedCheck
    | _ => pure ()

def relativeUnder : Option Member :=
  match spec.children.lookup name with
  | some m => some m
  | none => if (spec.factors.lookup name).isSome then none else spec.parents.lookup name

/-- Whether a name is passed over, and whether it stands for many. A relative that is not real is a
failure. -/
def Program.expected (relative : Option Member) (isGiven : Bool) : Except Fault (Bool × Bool) :=
  match relative with
  | some (.rel r) =>
    if r.notReal && isGiven then
      refuse (WriteCause.notReal name (p.shownInstance i) (p.reg.get i.cls).name)
    else .ok (r.notReal || (r.isOptional && !isGiven), r.kind == .multiple)
  | _ => .ok (false, false)

/-- The value that is given. What is created has to be given all its values. -/
def givenOr (create : Bool) (given : Option Thing) : Except Fault Thing :=
  match given with
  | some t => .ok t
  | none => if create then refuse .missingKey else .ok .nothing

/-- It is a failure to give one instance where there should be many. -/
def Program.requireMany (relation : Option Relation) (value : Thing) : Except Fault Unit :=
  match value with
  | .object o =>
    if (relation.map (·.max != some 1)).getD false && !(p.getInstance o).usesTables then
      refuse (WriteCause.expectsMany name)
    else .ok ()
  | _ => .ok ()

def Filling.use (value : Thing) : Filling :=
  { f with rest := f.rest.filter (·.1 != name), fields := setNamed name value f.fields }

def Filling.relate (spec : Specification) (name : String) (value : Thing) (r : Relation) : Filling :=
  let put (isThere : Bool) (xs : List (String × Thing × Relation)) : List (String × Thing × Relation) :=
    if isThere then setNamed name (value, r) xs else xs
  { f with
    parents := put (spec.parents.lookup name).isSome f.parents
    children := put (spec.children.lookup name).isSome f.children }

def fillValue (spec : Specification) (create : Bool) (f : Filling) (name : String) (value : Thing)
    (isMultiple : Bool) : WriteM Filling := do
  let f := f.use name value
  match (relativeUnder spec name).bind relationOf with
  | none => return f
  | some r => do
    let value := if isMultiple then value else .list [value]
    if create then checkCount c name value r
    return if (spec.factors.lookup name).isSome then f else f.relate spec name value r

def fillName (spec : Specification) (create : Bool) (f : Filling) (name : String) : WriteM Filling := do
  let p ← get
  let relative := relativeUnder spec name
  let given := f.rest.lookup name
  let (skipped, isMultiple) ← p.expected i name relative given.isSome
  if skipped then return f
  let value ← givenOr create given
  if isMultiple then p.requireMany name (relative.bind relationOf) value
  fillValue (p.reg.get i.cls) spec create f name value isMultiple

/-- The factors of an instance that are part of what identifies it, or those that are not. -/
def Program.factorsOf (identifying : Bool) : Except Fault (List (Thing × Thing)) := do
  let c := p.reg.get i.cls
  let identity := c.identity.getD []
  let chosen := c.factors.filter (fun f =>
    if identifying then identity.contains f else !identity.contains f && some f != c.idname)
  let values ← chosen.mapM fun f =>
    let name := Text.Letter.lower f
    match i.fields.lookup name with
    | some t => Except.ok (name, t)
    | none => refuse (WriteCause.noQuery (p.shownInstance i) name)
  let es := values.foldl (fun acc (n, t) => if t.isNothing then acc else setNamed n t acc) []
  return es.map (fun e => (.text e.1, e.2))

/-- The properties by which the node of an instance is found again. -/
def Program.identityOf : Except Fault (List (Thing × Thing)) := do
  let c := p.reg.get i.cls
  let own ← match c.idname with
    | some n =>
      if i.identifier.isNothing then refuse (WriteCause.needsIdentifier (p.shownInstance i))
      pure (setNamed "id" i.identifier [(n, i.identifier)])
    | none =>
      if !i.identifier.isNothing then refuse (WriteCause.needsIdname (p.shownInstance i))
      pure []
  let factors ← p.factorsOf i true
  let all := factors.foldl (fun acc (k, v) => setNamed (k.text?.getD "") v acc) own
  return all.map (fun e => (.text e.1, e.2))

def relatives : Except Fault (List Thing) :=
  match t with
  | .object _ => refuse .failedCheck
  | t => t.each

def relate (node : VarId) (other ident properties : Thing) : WriteM Unit := do
  let rule := (← get).rule
  let other ← toNodes other
  let (parent, child) := if isParent then (other, Thing.var node) else (Thing.var node, other)
  let _ ← mergeRelation parent child relationType ident properties rule

/-- Merges the relations between a node and all members of a collection, with properties from the place in
it. -/
def relateAll (node : VarId) (collection : Thing) (properties : Thing → Thing × Thing) : WriteM Unit := do
  let b ← openBlock [collection] true true
  match b.members with
  | [other, place] => do
    let (ident, props) := properties (.var place)
    relate isParent node (.var other) ident props
    closeBlock b
    let _ ← collect [.var other] true
  | _ => closeBlock b

def nameEntry : Thing × Thing := (.text "relation_id", .text name)

def placeEntry (place : Thing) : Thing × Thing := (.text "order", place)

def placeOf (i : Nat) : Thing := .plain (.int i)

def withPlaces (xs : List Thing) : List (Nat × Thing) := (List.range xs.length).zip xs

/-- Merges the node of an instance, then its relations. The result lists the relatives it is versioned
on. -/
def mergeNodeFirst : WriteM (VarId × List Thing) := do
  let p ← get
  let c := p.reg.get i.cls
  let ident ← toNodes (.dict (← p.identityOf i))
  let other ← toNodes (.dict (← p.factorsOf i false))
  let node ← mergeNode (.list ((p.reg.labels i.cls).map .text)) ident other [] [] p.rule
  let properties (name : String) (r : Relation) (place : Thing) : Thing × Thing :=
    (.dict [], .dict (nameEntry name :: if r.ordered then [placeEntry place] else []))
  let versions ← f.parents.mapM fun (name, value, r) => do
    if (← get).isCollection value then
      relateAll true node value (properties name r)
      if c.versionOn.contains name then refuse WriteCause.versionOnCollection
      return []
    else
      let xs ← relatives value
      (withPlaces xs).forM fun (n, x) => do
        let (ident, props) := properties name r (placeOf n)
        relate true node x ident props
      return if c.versionOn.contains name then xs else []
  f.children.forM fun (name, value, r) => do
    if (← get).isCollection value then relateAll false node value (properties name r)
    else
      (withPlaces (← relatives value)).forM fun (n, x) => do
        let (ident, props) := properties name r (placeOf n)
        relate false node x ident props
  return (node, versions.flatten)

/-- A relative with the name and the place under which it was given. A collection has no place. -/
structure Relative where
  name : String
  place : Option Nat
  ordered : Bool
  thing : Thing

def Relative.ident (r : Relative) (place : Thing) : Thing :=
  .dict (if r.ordered then [placeEntry place, nameEntry r.name] else [nameEntry r.name])

def Program.relativesUnder (value : Thing) (r : Relation) : Except Fault (List Relative) :=
  if p.isCollection value then .ok [{ name, place := none, ordered := r.ordered, thing := value }]
  else do return (withPlaces (← relatives value)).map (fun (n, x) => ⟨name, some n, r.ordered, x⟩)

/-- The relatives under a name, as relatives that identify the instance or as others. -/
def Program.partUnder (names : List String) (name : String) (value : Thing) (r : Relation) :
    Except Fault (List Relative × List Relative) := do
  let identifies := (c.identity.getD []).contains name && names.contains name
  if identifies && p.isCollection value then refuse WriteCause.collectionIdentity
  let rs ← p.relativesUnder name value r
  if c.versionOn.contains name then refuse (WriteCause.versioning name)
  return if identifies then (rs, []) else ([], rs)

/-- Parts relatives into those that identify the instance and the others. -/
def Program.partRelatives (names : List String) (given : List (String × Thing × Relation)) :
    Except Fault (List Relative × List Relative) := do
  let parts ← given.mapM fun (name, value, r) => p.partUnder c names name value r
  return (parts.flatMap (·.1), parts.flatMap (·.2))

def setRelation (r : GivenRelation) : List GivenRelation → List GivenRelation
  | [] => [r]
  | s :: rest => if s.other.same r.other then { r with other := s.other } :: rest else s :: setRelation r rest

/-- Relations to different things: of those to the same thing the last one counts. -/
def eachOnce (rs : List GivenRelation) : List GivenRelation := rs.foldl (fun acc r => setRelation r acc) []

def identifying (r : Relative) : Except Fault GivenRelation :=
  match r.thing with
  | .list _ | .dict _ | .plain (.list _) | .plain (.dict _) => refuse .badType
  | t => .ok
    { other := t, type := .plain relationType, inward := isParent
      ident := r.ident (placeOf (r.place.getD 0)), properties := .dict [] }

def relationUnder (reg : Registry) (ms : List Member) (name : String) : Option Relation :=
  (ms.reverse.find? (fun m => reg.memberName? m == some name)).bind fun
    | .rel r => some r
    | _ => none

/-- That an instance does not have a relation. `above` is the relation to a parent under the same name. -/
def absence (reg : Registry) (above : Option Relation) (name : String) (isParent : Bool) (r : Relation) :
    Except Fault Thing := do
  let label ← match r.target with
    | .cls d => pure (reg.nameOf d)
    | .awaiting _ => refuse .missingAttribute
  let name ← match above with
    | some a => pure (match a.idname with | some "" | none => name | some s => s)
    | none => refuse .missingAttribute
  return .tuple [.text label, .plain relationType, .plain (.bool isParent), .dict [nameEntry name]]

def absencesUnder (reg : Registry) (c : Class) (name : String) : Except Fault (List Thing) := do
  let above := relationUnder reg c.parents name
  let below := relationUnder reg c.children name
  let parents ← (above.filter (·.isOptional)).toList.mapM (absence reg above name true)
  let children ← (below.filter (·.isOptional)).toList.mapM (absence reg above name false)
  return parents ++ children

/-- Relations that an instance must not have: the optional ones that identify it and are not given. -/
def absences (reg : Registry) (c : Class) (f : Filling) : Except Fault (List Thing) := do
  let lists ← (c.identity.getD []).mapM fun k =>
    if (f.parents.lookup k).isSome || (f.children.lookup k).isSome then .ok [] else absencesUnder reg c k
  return lists.flatten

/-- What is merged for an instance that is identified by its relations. -/
structure Dependent where
  ident : Thing
  properties : Thing
  relations : List GivenRelation
  absent : List Thing
  /-- The other relatives, with whether they are parents. -/
  others : List (Bool × Relative)

def Program.dependent : Except Fault Dependent := do
  let c := p.reg.get i.cls
  let names (ms : List Member) : List String := ms.filterMap p.reg.memberName?
  let above ← p.partRelatives c (names c.parents) f.parents
  let below ← p.partRelatives c (names c.children) f.children
  let aboveRelations ← above.1.mapM (identifying true ·)
  let belowRelations ← below.1.mapM (identifying false ·)
  let absent ← absences p.reg c f
  let ident ← p.identityOf i
  let other ← p.factorsOf i false
  let ident ← p.nodesOf (.dict ident)
  let properties ← p.nodesOf (.dict other)
  let relations ← (eachOnce (aboveRelations ++ belowRelations)).mapM fun r => do
    return { r with other := ← p.nodesOf r.other }
  return { ident, properties, relations := eachOnce relations, absent
           others := above.2.map (true, ·) ++ below.2.map (false, ·) }

/-- Merges the relations between a node and a relative that does not identify it. -/
def relateOther (node : VarId) (isParent : Bool) (r : Relative) : WriteM Unit := do
  match r.place with
  | none => relateAll isParent node r.thing (fun place => (r.ident place, .dict []))
  | some n => if !r.thing.isNothing then relate isParent node r.thing (r.ident (placeOf n)) (.dict [])

/-- Merges the node of an instance together with the relations that identify it. -/
def mergeWithRelations : WriteM VarId := do
  let p ← get
  let d ← p.dependent i f
  let node ← mergeNode (.list ((p.reg.labels i.cls).map .text)) d.ident d.properties d.relations d.absent p.rule
  d.others.forM (fun (isParent, r) => relateOther node isParent r)
  return node

def writeInstance (f : Filling) : WriteM (Option VarId) := do
  if !(← get).isOpen then return none
  let c := (← get).reg.get i.cls
  match ← onRegistry (askIdentity i.cls c.idname.isNone Registry.mergeStrategy) with
  | .nodeFirst => do
    let (node, versions) ← mergeNodeFirst i f
    if !versions.isEmpty then refuse (WriteCause.versioning ((← get).text (.list versions)))
    return some node
  | .nodeWithRelations => some <$> mergeWithRelations i f

def addInstance : WriteM InstanceId := do
  let p ← get
  set { p with instances := p.instances.push i }
  return p.instances.size

/-- The column of a table that a factor is taken from. -/
def Arguments.column (args : Arguments) (name : String) : Except Fault Thing :=
  match args.columns.entries? with
  | none => refuse .missingAttribute
  | some es => .ok (((es.find? (fun e => e.1.same (.text name))).map (·.2)).getD (.text name))

def inColumn (table column : Thing) : WriteM Thing := do
  match table with
  | .var v => return .var (← itemOf v column).1
  | .object _ => refuse (WriteCause.noQuery ((← get).text table) "get")
  | .dict _ | .plain (.dict _) => refuse .badType
  | _ => refuse .missingAttribute

def fromTable (args : Arguments) (named : List (String × Thing)) : WriteM (List (String × Thing)) := do
  match args.table with
  | none => return named
  | some table => do
    spec.factors.foldlM (fun named (name, _) => do
      if (named.lookup name).isSome then return named
      let column ← args.column name
      return setNamed name (← inColumn table column) named) named

def Program.takenFromTable (args : Arguments) (named : List (String × Thing)) : Bool :=
  args.table.isSome || named.foldl (fun b e =>
    match e.2 with
    | .object o => (p.getInstance o).usesTables
    | _ => b) false

/-- It is a failure to give what a class does not ask for, or no identifier where there has to be one. -/
def Program.checkGiven (create : Bool) (c : Class) (i : Instance) (f : Filling) : Except Fault Unit := do
  if create && !f.rest.isEmpty then
    let names := Value.list (f.rest.map (fun e => .text e.1))
    refuse (WriteCause.notRelevant ("dict_keys(" ++ names.literal ++ ")") c.shown)
  if c.identity.isSome && !i.identifier.isNothing then refuse (WriteCause.identifierGiven (p.shownInstance i))
  if create && c.idname.isSome && i.identifier.isNothing then refuse (WriteCause.noIdentifier (p.shownInstance i))

def Instance.fieldsFrom (f : Filling) : List (String × Thing) :=
  match c.idname with
  | some n => setNamed n i.identifier f.fields
  | none => f.fields

/-- An instance of a class with all that it is given. It is not written to the database yet. -/
def fillInstance (args : Arguments) (create : Bool) : WriteM (Instance × Filling) := do
  let c := (← get).reg.get cls
  if c.preparation == .fileNames && args.table.isSome then refuse .badType
  let named := (← prepare c create args.named).filter (!·.2.isNothing)
  settleClass cls
  let p ← get
  let c := p.reg.get cls
  let i : Instance :=
    { cls, identifier := (c.idname.bind (fun n => named.lookup n)).getD .nothing
      usesTables := p.takenFromTable args named }
  if !hasNames (c.parents ++ c.children) then refuse .missingAttribute
  let spec := p.reg.specification cls
  let named ← fromTable spec args (named.filter (fun e => some e.1 != c.idname))
  let f ← spec.names.foldlM (fillName i spec create) { rest := named }
  (← get).checkGiven create c i f
  return ({ i with fields := i.fieldsFrom c f }, f)

/-- Makes an instance of a class, written to the database unless it is only to `create` nothing. -/
def makeInstance (args : Arguments) (create : Bool) : WriteM Instance := do
  let (i, f) ← fillInstance cls args create
  if !create then return i
  let c := (← get).reg.get cls
  if c.isTemplate then refuse (WriteCause.template c.name)
  return { i with node := ← writeInstance i f }

def create (args : Arguments) : WriteM InstanceId := do
  addInstance (← makeInstance cls args true)

def withoutCreation (named : List (String × Thing)) : WriteM InstanceId := do
  addInstance (← makeInstance cls { named } false)

def ofNode (node : Thing) : WriteM InstanceId := do
  let i ← makeInstance cls {} false
  match node with
  | .var v => addInstance { i with node := some v }
  | _ => refuse .failedCheck

def ofNumber (id : Thing) : WriteM InstanceId := do
  let id ← toNodes id
  let labels := ((← get).reg.labels cls).map Thing.text
  let node ← matchId (.list labels) id
  ofNode cls (.var node)

def find (named : List (String × Thing)) (children parents exclude : Thing) : WriteM InstanceId := do
  let p ← get
  let c := p.reg.get cls
  let names ← c.parents.mapM fun m =>
    match p.reg.memberName? m with
    | some n => pure n
    | none => refuse .missingAttribute
  let (factors, above) ← named.foldlM (fun (factors, above) (k, v) => do
    if c.factors.contains k then return (factors ++ [(Thing.text k, v)], above)
    else if names.contains k then return (factors, above ++ v.list?.getD [v])
    else if some k == c.idname then return (factors ++ [(Thing.text k, v)], above)
    else refuse (WriteCause.unknownName k c.shown)) ([], [])
  let parents ← match parents.list? with
    | some xs => pure (Thing.list (xs ++ above))
    | none =>
      if parents.isNothing then pure (Thing.list above)
      else if above.isEmpty then pure parents
      else refuse .missingAttribute
  let properties ← toNodes (.dict factors)
  let parents ← toNodes parents
  let children ← toNodes children
  let exclude ← toNodes exclude
  let node ← matchPattern (.list ((p.reg.labels cls).map .text)) properties parents children exclude
  let i ← makeInstance cls { named } false
  addInstance { i with node := some node }

def findBranch (path : List Thing) : WriteM (List InstanceId) := do
  let p ← get
  let labels ← path.mapM fun t =>
    match t with
    | .cls c => pure (Thing.text (p.reg.nameOf c))
    | t => toNodes t
  let nodes ← matchBranch labels
  (path.zip nodes).mapM fun (t, node) => do
    match t with
    | .cls c => ofNode c (.var node)
    | .object o => ofNode ((← get).getInstance o).cls (.var node)
    | .var v => refuse (WriteCause.unknownType ((← get).get v).kind.shown)
    | t =>
      let type := Declaration.typeName (t.value?.getD (.list []))
      refuse (WriteCause.unknownType s!"<class '{type}'>")

/-- Ties a product of an instance to the place where it is stored. -/
def attachProduct (o : InstanceId) (name unit index column : Thing) : WriteM Unit := do
  let p ← get
  let c := p.reg.get (p.getInstance o).cls
  match name.text?.filter c.products.contains with
  | none => refuse (WriteCause.notProduct (p.text name) c.name)
  | some _ => do
    requireOpen
    let entry (k : String) (t : Thing) : List (Thing × Thing) := if t.isNothing then [] else [(.text k, t)]
    let unit ← toNodes unit
    let node ← toNodes (.object o)
    let ident ← toNodes (.dict ((.text "name", name) :: entry "index" index ++ entry "column_name" column))
    let _ ← mergeRelation unit node (.text "product") ident (.dict []) p.rule

def nodeOf : WriteM Thing := do
  match t with
  | .object _ => toNodes t
  | _ => refuse .missingAttribute

def attachOptionals (o : InstanceId) (named : List (String × Thing)) : WriteM Unit := do
  let p ← get
  if !p.isOpen then return
  let c := p.reg.get (p.getInstance o).cls
  let optional (ms : List Member) : List (String × Bool) :=
    ms.foldl (fun acc m =>
      match m, p.reg.memberName? m with
      | .rel r, some n => if r.isOptional then setNamed n r.one2one acc else acc
      | _, _ => acc) []
  for (key, item) in named do
    if (← get).isCollection item then refuse WriteCause.optionalCollection
    let (parent, child, both) ← match (optional c.parents).lookup key, (optional c.children).lookup key with
      | some b, _ => do
        let parent ← nodeOf item
        pure (parent, ← nodeOf (.object o), b)
      | none, some b => do
        let parent ← nodeOf (.object o)
        pure (parent, ← nodeOf item, b)
      | none, none => refuse (WriteCause.notRelated key (p.text (.object o)))
    let ident := Thing.dict [placeEntry (placeOf 0), nameEntry key]
    let _ ← mergeRelation parent child relationType ident (.dict []) p.rule
    if both then
      let _ ← mergeRelation child parent relationType ident (.dict []) p.rule

end SurveyGraph.Write
