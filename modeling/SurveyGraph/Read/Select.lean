import SurveyGraph.Read.Plan
import SurveyGraph.Catalogue.Suggest
/-!
# Selection

How a query goes on: to other objects, to attributes, to an object with a given id, to what meets a
condition, and to tables.

`Query.byName` and `Query.byItem` are what a user writes: `query.name` and `query[item]`. A name may be
an attribute of the object or of one close to it, another object, or a relation.
-/
namespace SurveyGraph

variable (d : Catalogue) (q : Query) {α : Type} (e : Fault) (obj : String)

def missingKey (key : String) : Fault := .plain .missingKey key

namespace Catalogue

def normalise (name : String) : Except Fault (String × Bool) := do
  if (d.byClass.lookup name).isSome then return (name, true)
  let singular ← d.singularName name
  if (d.singular.lookup singular).isNone then refuse (ReadCause.invalidObject name)
  let name := Text.Letter.lower name
  match d.plural.lookup name, d.singular.lookup name with
  | some c, _ => return (d.reg.nameOf c, false)
  | none, some c => return (d.reg.nameOf c, true)
  | none, none => refuse (missingKey name)

def get (name : String) : Except Fault Class :=
  match d.byClass.lookup name with
  | some c => .ok (d.reg.get c)
  | none => refuse (missingKey name)

/-- Fails again with names that may have been meant by what was asked for. -/
def failSuggesting (asked : Except Fault String) (relativeTo : Option String) (e : Fault) : Except Fault α := do
  let name ← asked
  let names ← if e.kind == .cardinality then do pure [d.pluralShown (← d.pluralName name)]
    else d.suggest name relativeTo
  let detail := match e with
    | .plain _ s => s
    | _ => ""
  throw (.suggesting e.kind (e.message?.getD detail) names)

end Catalogue

/-- Whether a failure is one that a user meets by a wrong name. -/
def Fault.isUserError : Bool :=
  [FaultKind.ambiguousPath, .cardinality, .attributeName, .disjointPath].contains e.kind

def Fault.isMissing : Bool := e.kind == .missingKey || e.kind == .badValue

/-- Runs another step if the first one fails in a certain way. -/
def orElseIf (x : PlanM α) (p : Fault → Bool) (y : Fault → PlanM α) : PlanM α :=
  tryCatch x (fun e => if p e then y e else throw e)

namespace Query

structure Traits where
  obj : Option String := none
  index : IndexNode := .unknown
  single : Bool := false
  names : List Value := []
  products : Option (List Bool) := none
  dtype : Option String := none
  factor : Option String := none
  columns : Option (List Query) := none
  given : Option Value := none

/-- A query made from another one. What is not said is taken over: the object, and the node counted
to. -/
def spawn (kind : QueryKind) (node : Nat) (t : Traits := {}) : PlanM Query := do
  let index := if t.index != .unknown then t.index
    else if q.kind.isObject then .node q.node else q.index
  let obj ← match t.obj <|> q.obj with
    | none => pure none
    | some o => if Text.startsWith o "_" then pure (some o) else do pure (some (← d.normalise o).1)
  let names := if kind.isAttribute then [match t.factor with | some f => .text f | none => .none]
    else t.names
  return {
    kind, serial := ← Plan.freshSerial, node, previous := some q, obj, index, single := t.single, names
    products := t.products.getD (names.map (fun _ => false))
    dtype := t.dtype, factor := t.factor, columns := t.columns, given := t.given }

def paths (single : Bool) : Except Fault (List PathPattern) :=
  match q.obj with
  | some o => d.pathsBetween o obj single .none
  | none => refuse .missingAttribute

def hasPath (single : Bool) : Except Fault Bool :=
  match q.obj with
  | none => .ok true
  | some _ =>
    match q.paths d obj single with
    | .ok ps => .ok (!ps.isEmpty)
    | .error e => if e.kind == .noPath then .ok false else .error e

def leadsToOne : List PathPattern → Bool
  | [p] => p.singular
  | _ => false

/-- The object of an attribute that is found in one class only. Objects that extend one class count as that
class. -/
def ownerAmong (attr name : String) (cs found : List ClassId) : Except Fault (String × Bool × Bool) :=
  match d.atlas.graph.collapse found with
  | [c] => do
    let obj := d.reg.nameOf c
    match q.obj with
    | none => return (obj, true, false)
    | some own => do
      if !(← d.isFactorName attr) then refuse (ReadCause.notAnAttribute attr)
      let one := leadsToOne (← q.paths d obj false)
      let attrOne := d.isSingularName attr
      if !one && attrOne then
        let plural := d.pluralShown (← d.pluralName obj)
        refuse (ReadCause.several name (← d.singularName own) plural)
      return (obj, one, attrOne)
  | [] => refuse (ReadCause.unreachable name (Catalogue.sortTexts (cs.map (fun c => (d.reg.get c).shown))))
  | many => refuse (ReadCause.ambiguous name (Catalogue.sortTexts (many.map d.reg.nameOf)))

/-- Where an attribute is found: its object, whether there is one at most, and whether the name is for
one. The query's own object comes first, then objects reached as one. -/
def objectOf (attr : String) : Except Fault (String × Bool × Bool) := do
  let name ← d.singularName attr
  let owners (_ : Unit) : Except Fault (List ClassId) :=
    match d.factorClasses.lookup name with
    | some cs => .ok cs
    | none => refuse (missingKey name)
  if let some o := q.obj then
    let own := d.byClass.lookup o
    match own with
    | none => refuse (missingKey o)
    | some c => if (← owners ()).contains c then return (o, true, d.isSingularName attr)
  let cs ← owners ()
  let near (single : Bool) : Except Fault (List ClassId) :=
    cs.filterM (fun c => q.hasPath d (d.reg.nameOf c) single)
  let found ← near true
  let found ← if found.isEmpty then near (name == attr) else pure found
  q.ownerAmong d attr name cs found

def refuseRow : PlanM Unit := if q.kind == .row then refuse ReadCause.notImplemented else return ()

def toObject (single : Bool) : PlanM Query := do
  q.refuseRow
  let plural := d.pluralShown (← d.pluralName obj)
  let own := objText q.obj
  let found ← match q.paths d obj single with
    | .ok ps => pure ps
    | .error e =>
      if e.kind != .noPath then throw e
      else if single then refuse (ReadCause.noSingular obj own plural)
      else refuse (ReadCause.noRelative obj own)
  let one := leadsToOne found
  if !one && single then refuse (ReadCause.noSingular obj own plural)
  let n ← Plan.addTraversal q.node (found.map (·.arrows)) obj one
  let name ← if single then pure plural else d.singularName obj
  q.spawn d .object n { obj := some obj, single, names := [.text name] }

def startWith (name : String) : PlanM Query := do
  let (obj, single) ← d.normalise name
  if single then refuse (ReadCause.startSingle obj)
  let n ← Plan.addStart obj
  q.spawn d .object n { obj := some obj }

def withId (id : Item) : PlanM Query := do
  if q.kind == .start then
    let (obj, _) ← d.normalise obj
    let name ← Plan.addParameter id
    let all ← Plan.addStart obj
    let n ← equal all name
    q.spawn d .object n { obj := some obj, single := true }
  else if q.kind == .object then
    let name ← Plan.addParameter id
    let found ← q.paths d obj false
    let all ← Plan.addTraversal q.node (found.map (·.arrows)) obj true (some (found.map (·.singular)))
    let n ← equal all name
    let plural := d.pluralShown (← d.pluralName obj)
    q.spawn d .object n { obj := some obj, single := true, names := [.text plural] }
  else if q.kind == .row then refuse ReadCause.notImplemented
  else refuse .missingAttribute
where
  equal (all : Nat) (name : String) : PlanM Nat := do
    let i ← Plan.addProperty all "id"
    let (eq, _) ← Plan.addOperation i ("\x7b0\x7d = " ++ name) ("id=" ++ id.shown) [name]
    Plan.addFilter all eq true

def withIds (ids : List Item) : PlanM Query := do
  let list : PlanM Item := do
    match ids.mapM (fun | .plain v _ => some v | _ => none) with
    | some vs => return .plain (.list vs) (← Plan.freshOccurrence)
    | none => return .list ids
  if q.kind == .start then
    let name ← Plan.addParameter (← list)
    let one ← Plan.addUnwind q.node name [] [name]
    let all ← Plan.addStart obj (some one)
    let idname := (← d.get obj).idname
    let i ← Plan.addProperty all (objText idname)
    let (eq, _) ← Plan.addCombination "\x7b0\x7d = \x7b1\x7d" "ids" [i, one]
    let n ← Plan.addFilter all eq true
    q.spawn d .object n { obj := some obj, single := true }
  else if q.kind == .object then
    let found ← q.paths d obj false
    let name ← Plan.addParameter (← list)
    let one ← Plan.addUnwind q.node name [] [name]
    let all ← Plan.addTraversal q.node (found.map (·.arrows)) obj true (some (found.map (·.singular))) (some one)
    let i ← Plan.addProperty all "id"
    let (eq, _) ← Plan.addCombination "\x7b0\x7d = \x7b1\x7d" "ids" [i, one] (some all)
    let n ← Plan.addFilter all eq true
    let plural := d.pluralShown (← d.pluralName obj)
    q.spawn d .object n { obj := some obj, single := true, names := [.text plural] }
  else if q.kind == .row then refuse ReadCause.notImplemented
  else refuse .missingAttribute

def givenColumns : Except Fault (List String) :=
  match q.given with
  | some (.table cs) => .ok (cs.map (·.1))
  | _ => refuse .missingAttribute

def ownAttribute (attr : String) (single : Bool) : PlanM Query := do
  if q.kind == .row then
    if !(← q.givenColumns).contains attr then refuse (ReadCause.noColumn attr q.shown)
    let n ← Plan.addProperty q.node attr
    q.spawn d .attribute n { single, factor := some attr }
  else
    let product ← d.isProduct attr (objText q.obj)
    let name ← d.singularName attr
    if product then
      let n ← Plan.addProduct q.node name
      q.spawn d .product n { single, factor := some name, products := some [true] }
    else
      let n ← Plan.addProperty q.node name
      q.spawn d .attribute n { single, factor := some name }

def anyAttribute (attr : String) : PlanM Query := do
  if q.kind == .row then q.ownAttribute d attr true
  else
    let (obj, one, single) ← q.objectOf d attr
    if q.obj == some obj then q.ownAttribute d attr single
    else
      let r ← (← q.toObject d obj one).ownAttribute d attr single
      return { r with index := .node q.node }

def filterBy (q mask : Query) (single : Option Bool := none) (split : Bool := false) : PlanM Query := do
  if mask.dtype != some "boolean" then
    refuse (ReadCause.notBoolean mask.shown (objText mask.dtype))
  let single := single.getD q.single
  let n ← orElseIf (Plan.addFilter q.node mask.node false single split) (·.kind == .badQuery)
    (fun _ => refuse (ReadCause.filterDisjoint q.shown mask.shown (objText q.obj) (objText mask.obj)))
  match q.kind with
  | .start | .table => refuse .badType
  | kind => q.spawn d kind n { single }

def toRelative (obj relation : String) (single : Bool) : PlanM Query := do
  let (obj, one) ← d.normalise obj
  if one != single && single then refuse (ReadCause.notSingular obj (objText q.obj))
  let name ← d.singularName relation
  let found ← q.paths d obj single
  let n ← Plan.addTraversal q.node (found.map (·.arrows)) obj one
  let id ← Plan.addProperty n "relation_id" 1
  let mark ← if d.isSingularName relation then do pure (Occurrence.composed (← Plan.freshSerial)) else pure .fixed
  let param ← Plan.addParameter (.plain (.text name) mark)
  let (eq, _) ← Plan.addOperation id ("\x7b0\x7d = " ++ param) "rel_id" [param]
  let f ← Plan.addFilter n eq true
  q.spawn d .object f { obj := some obj, single, names := [.text relation] }

inductive Relative where
  | own (target : String)
  | elsewhere (owner : String)

def relative (item singular : String) (rs : List (String × Relation)) : Except Fault Relative := do
  match rs.lookup (objText q.obj), rs with
  | some r, _ => return .own (d.reg.targetName r.target)
  | none, [] => refuse (ReadCause.noRelation (objText q.obj) singular)
  | none, [(owner, _)] => return .elsewhere owner
  | none, many =>
    match many.getLast? with
    | some (owner, _) => refuse (ReadCause.ambiguousRelation item (d.pluralShown (← d.pluralName owner)))
    | none => refuse .missingKey

/-- What a text stands for after a query of an object: an attribute, another object, or a relation. With
`brackets`, it is not after a dot. -/
def byText (d : Catalogue) : Nat → Query → String → Bool → PlanM Query
  | 0, _, _, _ => refuse .tooDeep
  | fuel + 1, q, item, brackets =>
    let handled (x : PlanM Query) : PlanM Query :=
      orElseIf x (·.isUserError) (fun e => d.failSuggesting (.ok item) q.obj e)
    handled <| orElseIf (q.anyAttribute d item) (·.isMissing) fun _ =>
      orElseIf (do
          let (obj, single) ← d.normalise item
          if q.obj == some obj then return q
          q.toObject d obj single) (·.isMissing) fun _ => do
        let singular ← d.singularName item
        match d.relatives.lookup singular with
        | some rs => do
          match ← q.relative d item singular rs with
          | .own target =>
            if q.kind == .row then refuse .badType
            q.toRelative d target item (singular == item)
          | .elsewhere owner => do
            let there ← q.toObject d owner (singular == item)
            if Text.startsWith item "_" then
              refuse (ReadCause.hidden there.kind.name item)
            byText d fuel there item false
        | none =>
          let indexable := (d.byClass.lookup item).any (fun c => (d.reg.get c).indexable)
          if brackets && indexable then
            match q.previous with
            | some p => p.withId d (objText q.obj) (.plain (.text item) .fixed)
            | none => refuse .missingAttribute
          else refuse (ReadCause.unknownAttribute item)

def bracketText (item : String) : PlanM Query :=
  if Text.startsWith item "_" then refuse ReadCause.hiddenKey else byText d 4 q item true

/-- The attribute that stands for an object: its id, or its only property, or its value. -/
def defaultAttribute : PlanM Query := do
  let c ← d.get (objText q.obj)
  match c.idname, c.productsAndFactors with
  | some i, _ => q.bracketText d i
  | none, [f] => q.bracketText d f
  | none, fs =>
    if fs.contains "value" then q.bracketText d "value"
    else refuse (ReadCause.noDefault (objText q.obj))

/-- One column of a table to be made: its name, if one was given, and what it holds. -/
structure ColumnItem where
  name : Option Value
  item : Item

def ColumnItem.givenName (c : ColumnItem) : Value :=
  match c.name, c.item with
  | some n, _ => n
  | none, .plain (.text s) _ => .text s
  | none, _ => .none

/-- Completes the names of columns by their attributes. If two agree, all columns are named so. -/
def completeNames (given : List Value) (factors : List (Option String)) : List Value :=
  let factor : Option String → Value
    | some f => .text f
    | none => .none
  let names := (given.zip (factors.map factor)).map (fun (g, f) => match g with | .none => f | g => g)
    ++ given.drop factors.length
  if isDistinct names then names else factors.map factor
where
  isDistinct : List Value → Bool
    | [] => true
    | x :: xs => !xs.any (Value.same x) && isDistinct xs

def table (columns : List ColumnItem) (together : Bool) : PlanM Query := do
  let attrs ← columns.mapM fun c => do
    match c.item with
    | .query a => if a.kind.isAttribute then return a else refuse .badType
    | .plain (.text s) _ => do
      let new ← q.bracketText d s
      if new.kind.isObject then new.defaultAttribute d else return new
    | .aligned .. => refuse ReadCause.noConnection
    | _ => refuse ReadCause.badIndex
  let products ← attrs.mapM fun a =>
    match a.products with
    | p :: _ => pure p
    | [] => refuse .outOfRange
  let n ← Plan.addTable q.node (attrs.map (fun a => (a.node, !a.single))) none together
  let names := completeNames (columns.map (·.givenName)) (attrs.map (·.factor))
  let t ← q.spawn d .table n { names, products := some products, columns := some attrs }
  return { t with oneRow := ← (← get).isSingularInPart n }

/-- The columns that an item stands for: one for each entry of a record or column of a table. -/
def columnItems (x : Item) : PlanM (List ColumnItem) := do
  match x with
  | .query t =>
    if t.kind == .table then
      match t.columns with
      | some cs => return cs.map (fun a => ⟨none, .query a⟩)
      | none => refuse .badType
    else return [⟨none, x⟩]
  | x =>
    match x.entries? with
    | none => return [⟨none, x⟩]
    | some es =>
      let found ← es.mapM fun (k, v) => do
        let name := match k with
          | .plain n _ => n
          | _ => Value.none
        match v with
        | .query t =>
          if t.kind != .table then return [⟨some name, v⟩]
          let some cs := t.columns | refuse .badType
          (t.names.zip cs).mapM fun (n, a) => do
            let own := if n.truthy then n.display else (a.factor.getD "")
            match name with
            | .text k =>
              return ⟨some (.text (if Text.endsWith k "_" then k ++ own else own ++ k)), .query a⟩
            | _ => refuse .missingAttribute
        | v => return [⟨some name, v⟩]
      return found.flatten

/-- Whether a value can stand between brackets in a list: texts, numbers and queries can. -/
def isIndexer : Item → Bool
  | .plain (.text _) _ | .plain (.float _) _ | .plain (.int _) _ | .plain (.bool _) _
  | .plain (.scalar (.float 64) _) _ | .plain (.scalar .text _) _ => true
  | .query q => q.kind.isAttribute || q.kind == .table
  | .aligned .. => true
  | _ => false

def isColumn : Item → Bool
  | .plain (.text s) _ | .plain (.scalar .text (.text s)) _ => d.isValidName s
  | .query _ | .aligned .. => true
  | _ => false

/-- What a list or record between brackets stands for: a table, or the objects with these ids. -/
def byList (items : List Item) (together : Bool := false) : PlanM Query := do
  let columns := (← items.mapM columnItems).flatten
  if !columns.all (fun c => isIndexer c.item) then refuse ReadCause.badIndex
  if columns.all (fun c => isColumn d c.item) then q.table d columns together
  else if columns.any (fun c => match c.item with
      | .plain (.text s) _ => d.isValidName s
      | _ => false) then refuse ReadCause.mixedIndex
  else match q.previous with
    | some p => p.withIds d (objText q.obj) (columns.map (fun c =>
        match c.name with
        | some n => .dict [(.plain n .key, c.item)]
        | none => c.item))
    | none => refuse .missingAttribute

end Query

end SurveyGraph
