import SurveyGraph.Schema.Registry
/-!
# Declaring classes

`declare` checks a class declaration and adds the class to the registry. The checks go from its names to
its relations and its identity; the first rule that is broken is the failure. A class that fails is not
added, but what its relations wait for is remembered, and so is its name if other relations have been
waiting for it.
-/
namespace SurveyGraph

variable (reg : Registry) (d : Declaration) (ms : List Member) (self : ClassId) (c : Class)

structure RelationDecl where
  kind : RelationKind
  node : Value
  min : Option Value := none
  max : Option Value := none
  constrain : List String := []
  idname : Option String := none
  one2one : Bool := false
  ordered : Bool := false
  notReal : Bool := false
  deriving Repr

inductive MemberDecl where
  | name (s : String)
  | rel (r : RelationDecl)
  deriving Repr

/-- A class as it is declared. Absent parts are inherited. -/
structure Declaration where
  name : String
  scope : String := "custom"
  bases : List String := ["Hierarchy"]
  doc : Option String := none
  singularName : Option String := none
  pluralName : Option String := none
  idname : Option Value := none
  isTemplate : Bool := false
  identity : Option (Option (List String)) := none
  versionOn : Option (List String) := none
  factors : Option (List String) := none
  products : Option (List String) := none
  indexes : Option (List (Option String)) := none
  aliases : List String := []
  constants : Option (List String) := none
  parents : Option (List MemberDecl) := none
  children : Option (List MemberDecl) := none
  produces : Option (List MemberDecl) := none
  preparation : Preparation := .plain
  deriving Repr

namespace Declaration

/-- Factors under longer names: each name with each factor; the factor `value` adds nothing. -/
def lendFactors (factors names : List String) (start : String) : List String :=
  names.flatMap fun n => factors.map fun f =>
    Text.Letter.lower (start ++ n ++ if f == "value" then "" else "_" ++ f)

def reservedNames : List String := ["keys", "values", "dict", "items"]

def typeName : Value → String
  | .none => "NoneType"
  | .bool _ => "bool"
  | .int _ => "int"
  | .float _ => "float"
  | .text _ => "str"
  | .list _ => "list"
  | .tuple _ => "tuple"
  | .dict _ => "dict"
  | _ => "object"

def count? : Value → Except Fault (Option Int)
  | .none => .ok none
  | v => (v.toInt).map some

/-- The far end of a relation that is declared. Names of declared classes become classes; others wait. -/
def targetOf : Value → Except Fault Target
  | .text s =>
    if s == "self" then .ok (.awaiting s)
    else .ok (match reg.lookup? s with | some c => .cls c | none => .awaiting s)
  | v => refuse (SchemaCause.notAClass v.display (typeName v))

def boundsOf (d : RelationDecl) : Except Fault (Int × Option Int) :=
  match d.kind with
  | .multiple => do
    let min ← count? (d.min.getD (.int 1))
    let max ← count? (d.max.getD .none)
    return (min.getD 0, max)
  | .oneOf => .ok (1, some 1)
  | .optional => .ok (0, some 1)

def constraintOf (s : String) : Constraint :=
  match reg.lookup? s with
  | some c => .cls c
  | none => .name s

def relationOf (d : RelationDecl) : Except Fault Relation := do
  let target ← targetOf reg d.node
  let (min, max) ← boundsOf d
  return {
    kind := d.kind, target, toSelf := target == .awaiting "self", min, max, constrain := d.constrain.map (constraintOf reg)
    idname := d.idname, one2one := d.one2one
    ordered := d.ordered && d.kind == .multiple
    notReal := d.notReal && d.kind == .multiple }

/-- Makes the relation of a declaration. Making a relation to a class resolves all waiting relations. -/
def makeRelation (d : RelationDecl) : SchemaM Relation := do
  let r ← relationOf (← get) d
  match r.target with
  | .cls _ => settleRegistry
  | .awaiting _ => pure ()
  return r

def makeMember : MemberDecl → SchemaM Member
  | .name s => do
    match (← get).lookup? s with
    | some c => return .cls c
    | none => return .name s
  | .rel r => return .rel (← makeRelation r)

/-- Merges the lineages of the bases: classes before those they extend, bases in their order. -/
def mergeLineages : Nat → List (List ClassId) → Option (List ClassId)
  | 0, ls => if ls.all (·.isEmpty) then some [] else none
  | fuel + 1, ls =>
    let ls := ls.filter (!·.isEmpty)
    if ls.isEmpty then some []
    else
      let heads := ls.filterMap (·.head?)
      match heads.find? (fun h => !ls.any (fun l => l.tail.contains h)) with
      | none => none
      | some h => (mergeLineages fuel (ls.map (fun l => if l.head? == some h then l.tail else l))).map (h :: ·)

/-- The classes that a class with the given bases extends, nearest first, without the root. -/
def baseLineage (bases : List ClassId) : Option (List ClassId) :=
  let total := (bases.map (fun b => (reg.ancestry b).length)).foldl (· + ·) 0 + bases.length + 1
  if bases.eraseDups.length != bases.length then none
  else (mergeLineages total (bases.map reg.ancestry ++ [bases])).map (·.filter (· != Registry.root))

def inherited {α : Type} (lineage : List ClassId) (part : Given → Option α) (default : α) : α :=
  (lineage.findSome? (fun c => part (reg.get c).given)).getD default

def checkNames (singular plural : String) : Except Fault Unit := do
  if plural != Text.Letter.lower plural then refuse SchemaCause.pluralNotSmall
  if singular != Text.Letter.lower singular then refuse SchemaCause.singularNotSmall
  if plural == singular then refuse SchemaCause.sameNames
  match d.idname with
  | some (.text "idname") => refuse SchemaCause.reservedId
  | some (.text _) | some .none | none => pure ()
  | some v => refuse (SchemaCause.idNotText d.name v.display)
  match d.name.toList.head?, (Text.Letter.capitalize d.name).toList.head? with
  | some a, some b => if a != b || d.name.toList.contains '_' then refuse (SchemaCause.notCapitalized d.name)
  | _, _ => refuse .outOfRange
  for factor in d.factors.getD [] ++ ["idname", singular, plural] do
    if reservedNames.contains factor then refuse (SchemaCause.reservedName factor d.name)
    if Text.startsWith factor "_" then refuse (SchemaCause.hiddenName factor d.name)
    if !Text.Letter.isLowerText factor then refuse (SchemaCause.nameNotSmall factor)

/-- The members of a class under way: those passed, and the names they were entered under. -/
structure Progress where
  passed : List Member := []
  names : List String := []

def Progress.enter (p : Progress) (s : String) : Progress :=
  if p.names.contains s then p else { p with names := p.names ++ [s] }

/-- A relation of the class under way: to the class itself, or by the name of a known class. -/
def bound (reg : Registry) (r : Relation) : Relation :=
  if r.toSelf then { r with target := .cls self } else reg.resolveRelation r

/-- A relation that still waits is noted in the registry, and one that does not resolves all others. -/
def note : Target → SchemaM Unit
  | .cls _ => settleRegistry
  | .awaiting s => modify fun reg => { reg with orphans := reg.orphans ++ [s] }

def constraintMember : Constraint → Member
  | .cls c => .cls c
  | .name s => .name s

/-- The members that the constraints of a relation add to those that are there. -/
def constraintMembers (there : List Member) (r : Relation) : List Member :=
  r.constrain.foldl (fun acc c =>
    if (there ++ acc).any (reg.sameMember · (constraintMember c)) then acc else acc ++ [constraintMember c]) []

/-- Goes through the members of a class. Constraints become members too. `fuel` bounds their number. -/
def passMembers (self : ClassId) : Nat → List Member → Progress → SchemaM Progress
  | 0, _, p => pure p
  | _, [], p => pure p
  | fuel + 1, m :: rest, p => do
    match m with
    | .name _ => refuse .missingAttribute
    | .cls c =>
      let singular := ((← get).get c).singularName
      passMembers self fuel rest ({ p with passed := p.passed ++ [m] }.enter singular)
    | .rel r =>
      let r := bound self (← get) r
      note r.target
      let reg ← get
      match reg.relationName? r with
      | none => refuse .missingAttribute
      | some s =>
        let extra := constraintMembers reg (p.passed ++ Member.rel r :: rest) r
        passMembers self fuel (rest ++ extra) ({ p with passed := p.passed ++ [Member.rel r] }.enter s)

def memberBound : Nat :=
  ms.length + 1 + (ms.map fun
    | .rel r => r.constrain.length
    | _ => 0).foldl (· + ·) 0

/-- A name that identifies an instance has to be the name of a relation or of a factor. -/
def requireKnown (names : List String) (source : String) : Except Fault Unit :=
  if !names.contains source && !c.factors.contains source then
    refuse (SchemaCause.unknownIdentity source c.name (names ++ c.factors))
  else .ok ()

/-- Checks what identifies an instance, what versions refer to, and what is indexed. -/
def checkIdentity (c : Class) (names : List String) : Except Fault Unit := do
  (c.identity.getD []).forM (requireKnown c names)
  let relatives := (c.parents ++ c.children).filterMap reg.memberName?
  for source in c.versionOn do
    if !relatives.contains source && !c.factors.contains source then
      refuse (SchemaCause.unknownVersion source c.name)
  if (c.versionOn.filter (fun s => !relatives.contains s)).length > 1 && !c.versionOn.any relatives.contains then
    refuse SchemaCause.versionOfNothing
  if !c.isTemplate then
    if c.indexes.isEmpty && (c.idname.getD "").isEmpty && (c.identity.getD []).isEmpty then
      refuse (SchemaCause.noIdentity c.name)
  for index in c.indexes do
    match index with
    | some s => if !c.factors.contains s then refuse (SchemaCause.unknownIndex s c.name)
    | none => pure ()

/-- The relations with names of their own; a later one takes the place of an earlier one. -/
def ownNames : List (String × Relation) :=
  ms.foldl (fun acc m =>
    match m with
    | .rel r =>
      match r.idname with
      | some s =>
        if acc.any (·.1 == s) then acc.map (fun p => if p.1 == s then (s, r) else p)
        else acc ++ [(s, r)]
      | none => acc
    | _ => acc) []

/-- Settles the relations of a class under way, checks its identity, and works out what follows. -/
def complete (draft : Class) (children parents : List Member) : SchemaM Class := do
  let below ← passMembers self (memberBound children) children {}
  let above ← passMembers self (memberBound parents) parents { names := below.names }
  let c := { draft with parents := above.passed, children := below.passed }
  checkIdentity (← get) c above.names
  let factors := if c.constants.isEmpty then c.factors
    else c.factors ++ c.constants ++ ["concatenation_constants"]
  let given := if c.constants.isEmpty then c.given else { c.given with factors := some factors }
  return { c with
    factors, given
    relativeNames := ownNames (below.passed ++ above.passed)
    productsAndFactors := factors ++ c.products ++ c.idname.toList }

def singular : String :=
  match d.singularName with
  | some "" | none => Text.snakeCase d.name
  | some s => s

def plural : Except Fault String :=
  match d.pluralName with
  | some "" | none =>
    match Text.pluralName? d.singular with
    | some p => .ok p
    | none => refuse (ValueCause.groupName d.singular)
  | some p => .ok p

structure Draft where
  cls : Class
  parents : List Member
  children : List Member

/-- The class of a declaration without its members. What is not declared is inherited. -/
def draft (d : Declaration) (bases : List ClassId) (parents children produces : Option (List Member)) : Except Fault Draft := do
  let plural ← d.plural
  checkNames d d.singular plural
  let lineage ← match baseLineage reg bases with
    | some l => pure l
    | none => refuse .badType
  let closed := bases.filter (fun b => !(reg.get b).isTemplate)
  if !closed.isEmpty then
    refuse (SchemaCause.sealedBases d.name (closed.map (fun b => (reg.get b).shown)))
  let given : Given :=
    { idname := d.idname.map (fun | .text s => some s | _ => none)
      identity := d.identity
      versionOn := d.versionOn
      factors := d.factors.map (·.eraseDups)
      products := d.products
      indexes := d.indexes
      constants := d.constants
      produces := produces.map reg.dedupMembers }
  let idname := given.idname.getD (inherited reg lineage (·.idname) none)
  let identity := given.identity.getD (inherited reg lineage (·.identity) none)
  if idname.isSome && identity.isSome then refuse (SchemaCause.twoIdentities d.name)
  let next := reg.get (lineage.headD Registry.root)
  return {
    parents := (parents.map reg.dedupMembers).getD next.parents
    children := (children.map reg.dedupMembers).getD next.children
    cls :=
      { name := d.name, scope := d.scope, bases, lineage := reg.classes.size :: lineage, doc := d.doc
        singularName := d.singular, pluralName := plural, isTemplate := d.isTemplate
        aliases := d.aliases ++ bases.flatMap (fun b => (reg.get b).aliases)
        given, idname, identity
        versionOn := given.versionOn.getD (inherited reg lineage (·.versionOn) [])
        factors := given.factors.getD (inherited reg lineage (·.factors) [])
        products := given.products.getD (inherited reg lineage (·.products) [])
        indexes := given.indexes.getD (inherited reg lineage (·.indexes) [])
        constants := given.constants.getD (inherited reg lineage (·.constants) [])
        parents := [], children := []
        produces := given.produces.getD (inherited reg lineage (·.produces) [])
        relativeNames := [], productsAndFactors := []
        preparation := (d.preparation :: lineage.map (fun b => (reg.get b).preparation)).find? (· != .plain)
          |>.getD .plain } }

def baseNamed (name : String) : SchemaM ClassId := do
  match (← get).lookup? name with
  | some c => return c
  | none => refuse .missingKey

end Declaration

/-- What is left of a class that is given up: its names, and what it extends. -/
def Class.remains : Class :=
  { rootClass with
    name := c.name, scope := c.scope, bases := c.bases, lineage := c.lineage
    singularName := c.singularName, pluralName := c.pluralName, isTemplate := c.isTemplate }

namespace Registry

/-- The registry with its last class in its final form. What the class waits for is no longer abandoned. -/
def withFinal (final : Class) : Registry :=
  let waiting := awaited final.children ++ awaited final.parents
  { reg with
    classes := reg.classes.pop.push final
    orphans := reg.orphans.take (reg.orphans.length - waiting.length) }

def refersTo (c : ClassId) : Bool :=
  reg.classes.any fun k => (k.parents ++ k.children).any (memberClass? · == some c)

/-- The registry without its last class, unless a relation has come to refer to it. -/
def withoutLast (last : ClassId) : Registry :=
  if reg.refersTo last then reg.withFinal (reg.get last).remains else { reg with classes := reg.classes.pop }

end Registry

namespace Declaration

/-- Completes a class under way, which is known to its own relations, or gives it up. -/
def finish (self : ClassId) (draft : Draft) : SchemaM Unit := do
  modify fun reg => { reg with classes := reg.classes.push draft.cls }
  try
    let final ← complete self draft.cls draft.children draft.parents
    modify (·.withFinal final)
  catch e =>
    modify (·.withoutLast self)
    throw e

end Declaration

open Declaration in
def declare (d : Declaration) : SchemaM ClassId := do
  let bases ← d.bases.mapM baseNamed
  let parents ← d.parents.mapM (·.mapM makeMember)
  let children ← d.children.mapM (·.mapM makeMember)
  let produces ← d.produces.mapM (·.mapM makeMember)
  let reg ← get
  let draft ← d.draft reg bases parents children produces
  finish reg.classes.size draft
  return reg.classes.size

end SurveyGraph
