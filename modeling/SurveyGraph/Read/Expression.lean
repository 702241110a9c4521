import SurveyGraph.Read.Compile
/-!
# Expressions

What users write with queries: names after a dot, items between brackets, operators and functions.
Aligned queries are queries side by side: what is done with them is done with each.
-/
namespace SurveyGraph

variable (d : Catalogue)

inductive AlignedKey where
  | number (i : Nat)
  | name (s : String)

namespace Item

mutual

/-- An item with one of the members in place of aligned queries. -/
def pick (m : AlignedKey) : Item → Except Fault Item
  | .aligned named unnamed =>
    match m with
    | .number i => match unnamed[i]? with
      | some x => .ok x
      | none => refuse .outOfRange
    | .name k => match named.lookup k with
      | some x => .ok x
      | none => refuse .missingKey
  | .list xs => do return .list (← pickAll m xs)
  | .tuple xs => do return .tuple (← pickAll m xs)
  | .dict es => do return .dict (← pickEntries m es)
  | .query _ => refuse ReadCause.noConnection
  | x => .ok x

def pickAll (m : AlignedKey) : List Item → Except Fault (List Item)
  | [] => .ok []
  | x :: xs => do return (← pick m x) :: (← pickAll m xs)

def pickEntries (m : AlignedKey) : List (Item × Item) → Except Fault (List (Item × Item))
  | [] => .ok []
  | (k, v) :: es => do return (← pick m k, ← pick m v) :: (← pickEntries m es)

end

/-- Does the same with each aligned query, first those without names. -/
def eachMember (named : List (String × Item)) (unnamed : List Item) (f : AlignedKey → PlanM Item) : PlanM Item := do
  let us ← (List.range unnamed.length).mapM (fun i => f (.number i))
  let ns ← named.mapM (fun p => do return (p.1, ← f (.name p.1)))
  return .aligned ns us

def typeShown : Item → String
  | .data => "<class 'weaveio.opr3.Data'>"
  | .query q => "<class 'weaveio.readquery.objects." ++ q.kind.name ++ "'>"
  | .aligned .. => "<class 'weaveio.readquery.align.AlignedQuery'>"
  | .list _ => "<class 'list'>"
  | .tuple _ => "<class 'tuple'>"
  | .dict _ => "<class 'dict'>"
  | .plain v _ => "<class '" ++ name v ++ "'>"
where
  name : Value → String
    | .none => "NoneType"
    | .bool _ => "bool"
    | .int _ => "int"
    | .float _ => "float"
    | .text _ => "str"
    | .list _ => "list"
    | .tuple _ => "tuple"
    | .set _ => "set"
    | .dict _ => "dict"
    | .slice .. => "slice"
    | .path _ => "pathlib.PosixPath"
    | .instant _ => "datetime.datetime"
    | .scalar (.float n) _ => "numpy.float" ++ toString n
    | .scalar (.int n) _ => "numpy.int" ++ toString n
    | .scalar (.uint n) _ => "numpy.uint" ++ toString n
    | .scalar .bool _ => "numpy.bool_"
    | .scalar .text _ => "numpy.str_"
    | .scalar .object _ => "object"
    | .array .. => "numpy.ndarray"
    | .maskedArray .. => "numpy.ma.core.MaskedArray"
    | .masked => "numpy.ma.core.MaskedConstant"
    | .table _ => "astropy.table.Table"
    | .frame _ => "pandas.core.frame.DataFrame"
    | .cls n => n
    | .other n => n

def asName : Item → Except Fault String
  | .plain v _ => Catalogue.textOf v
  | .list _ | .dict _ | .aligned .. => refuse .badType
  | .query q => if q.kind == .table then refuse .missingAttribute else refuse .badType
  | .data | .tuple _ => refuse .missingAttribute

end Item

/-! ## Names after a dot -/

namespace Query

def origin : Query := { kind := .start, serial := 0, node := Plan.start, index := .start }

/-- What a name stands for at the start: all objects of a class, an attribute of all that have it, or a
relation. -/
def startName (name : String) : PlanM Query := do
  let q := origin
  if ["keys", "items", "values"].contains name || Text.startsWith name "_" then
    refuse (ReadCause.noAttribute q.shown name)
  orElseIf (do
      if d.isSingularName name then refuse (ReadCause.startSingleName name)
      let (obj, _) ← q.objectOf d name
      let plural := d.pluralShown (← d.pluralName obj)
      (← q.startWith d plural).ownAttribute d name true) (·.isMissing) fun _ =>
    orElseIf (q.startWith d name) (·.kind == .missingKey) fun e => do
      let singular ← d.singularName name
      match d.relatives.lookup singular with
      | none => refuse (missingKey singular)
      | some [] => throw e
      | some [(owner, r)] => do
        let plural := d.pluralShown (← d.pluralName owner)
        (← q.startWith d plural).toRelative d (d.reg.targetName r.target) singular (singular == name)
      | some many =>
        match many.getLast? with
        | some (owner, _) =>
          refuse (ReadCause.ambiguousRelation name (d.pluralShown (← d.pluralName owner)))
        | none => throw e

def part? (q : Query) (name : String) : Option Value :=
  let optional : Option String → Value
    | some s => .text s
    | none => .none
  match name with
  | "one_row" => some (.bool q.oneRow)
  | "one_column" => some (.bool q.oneColumn)
  | "dtype" => some (optional q.dtype)
  | "attrs" => some .none
  | "_node" => some (.int q.node)
  | "_obj" => some (optional q.obj)
  | "_single" => some (.bool q.single)
  | "_names" => some (.list q.names)
  | "_is_products" => some (.list (q.products.map .bool))
  | "_index_node" => some (match q.index with
    | .start => .text "start"
    | .node n => .int n
    | .unknown => .none)
  | "_factor_name" => if q.kind.isAttribute then some (optional q.factor) else none
  | _ => none

/-- What a list or record between brackets, or another item, stands for. -/
def bracket (q : Query) (x : Item) : PlanM Query := do
  let handled (y : PlanM Query) : PlanM Query :=
    orElseIf y (·.isUserError) (fun e => d.failSuggesting x.asName q.obj e)
  let texts (names : List String) : List Item := names.map (fun n => .plain (.text n) .fixed)
  let properties : PlanM (List Item) := do return texts (← d.get (objText q.obj)).productsAndFactors
  match x with
  | .plain (.text "*") _ => handled do
    if q.kind == .row then
      let _ ← q.allRows d
      refuse ReadCause.noConnection
    q.byList d (← properties) true
  | .plain (.text "**") _ => handled do q.byList d (← properties)
  | .plain (.text s) _ => q.bracketText d s
  | .plain (.slice ..) _ => refuse ReadCause.notImplemented
  | .aligned .. => refuse ReadCause.noConnection
  | .plain (.array _ _ xs) m =>
    handled (q.byList d ((xs.zip (List.range xs.length)).map (fun (v, i) => .plain v (m.part i))))
  | .plain (.frame cs) _ => handled (q.byList d (texts (cs.map (·.1))))
  | .plain (.table _) _ => refuse ReadCause.badIndex
  | .query mask => do
    if mask.kind.isAttribute then q.filterBy d mask
    else handled (withIdOf x)
  | x =>
    match x.members?, x.entries? with
    | some xs, _ => handled (q.byList d xs)
    | none, some es => handled (q.byList d (es.map (fun e => .dict [e])))
    | none, none => handled (withIdOf x)
where
  withIdOf (x : Item) : PlanM Query :=
    match q.previous with
    | some p => p.withId d (objText q.obj) x
    | none => refuse .missingAttribute

end Query

namespace Item

def fromData (name : String) : PlanM Item :=
  orElseIf (do return .query (← Query.startName d name)) (fun e => e.isUserError || e.kind == .missingKey)
    (fun e => d.failSuggesting (.ok name) none e)

def dot (d : Catalogue) : Nat → Item → String → PlanM Item
  | 0, _, _ => refuse .tooDeep
  | fuel + 1, x, name => do
    match x with
    | .data =>
      if name == "query" then return .query Query.origin
      if name == "rootdir" then return .plain (.path "/data") .fixed
      if ["keys", "items", "values"].contains name || Text.startsWith name "_" then
        refuse (ReadCause.noAttribute dataShown name)
      fromData d name
    | .query q =>
      match q.part? name with
      | some v => return .plain v .fixed
      | none =>
        match q.kind with
        | .start => return .query (← Query.startName d name)
        | .object | .row =>
          if Text.startsWith name "_" then refuse (ReadCause.hidden q.kind.name name)
          return .query (← Query.byText d 4 q name false)
        | _ => refuse .missingAttribute
    | .aligned named unnamed => eachMember named unnamed (fun m => do dot d fuel (← pick m x) name)
    | _ => refuse .missingAttribute

def bracket (d : Catalogue) : Nat → Item → Item → PlanM Item
  | 0, _, _ => refuse .tooDeep
  | fuel + 1, x, key => do
    match x with
    | .data =>
      match key.text? with
      | none => refuse (ReadCause.notByNumber dataShown)
      | some s => fromData d s
    | .query q =>
      match q.kind with
      | .start =>
        match key.text? with
        | some s => return .query (← Query.startName d s)
        | none => refuse .missingAttribute
      | .object | .row => return .query (← q.bracket d key)
      | .attribute | .product =>
        match key.attribute? with
        | some mask => return .query (← q.where_ d mask)
        | none => refuse ReadCause.filterByValue
      | .table =>
        match key with
        | .plain v _ =>
          match v with
          | .list _ | .dict _ | .set _ | .array .. | .slice .. => refuse .badType
          | v =>
            match (q.names.zip (q.columns.getD [])).reverse.find? (fun p => Value.same p.1 v) with
            | some (_, a) => return .query a
            | none => refuse (missingKey v.display)
        | .query t => if t.kind == .table then refuse .missingKey else refuse .badType
        | .data => refuse .missingKey
        | _ => refuse .badType
    | .aligned named unnamed =>
      eachMember named unnamed (fun m => do bracket d fuel (← pick m x) (← pick m key))
    | x =>
      match x.members?, x.entries?, key with
      | some xs, _, .plain (.int i) _ =>
        let i := if i < 0 then i + xs.length else i
        match if i < 0 then none else xs[i.toNat]? with
        | some y => return y
        | none => refuse .outOfRange
      | none, some es, .plain k _ =>
        match es.find? (fun e => match e.1 with | .plain v _ => Value.same v k | _ => false) with
        | some (_, v) => return v
        | none => refuse (missingKey k.display)
      | _, _, _ => refuse .badType

/-! ## Operators -/

def fresh (v : Value) : PlanM Item := do return .plain v (← Plan.freshOccurrence)

/-- An operator that the first operand does not know: the second is asked. -/
def reflected (op : Operator) (a b : Item) : PlanM Item := do
  match b with
  | .query q =>
    if q.kind.isAttribute then
      if op.isComparison then return .query (← q.operate d op.mirrored a false)
      if op == .addTo then return .query (← q.operate d .add a true)
      return .query (← q.operate d op a true)
    else if q.kind.isObject && (op == .eq || op == .ne) then
      let r ← q.equalObject d a
      if op == .eq then return .query r else fresh (.bool false)
    else plainOnly op
  | _ => plainOnly op
where
  /-- Two items that have nothing to do with each other differ. -/
  plainOnly (op : Operator) : PlanM Item :=
    match op with
    | .eq => fresh (.bool (a.isSame b))
    | .ne => fresh (.bool (!a.isSame b))
    | _ => refuse .badType

def ofFirst (op : Operator) (a b : Item) : PlanM (Option Item) := do
  match a, b with
  | .plain v _, .plain w _ => return some (← fresh (← Value.combine op v w))
  | .query p, b =>
    let second := (b.query?).map (·.kind)
    match p.kind with
    | .attribute | .product =>
      match b, op.isComparison && p.kind == .attribute && second == some .product with
      | .query q, true => return some (.query (← q.operate d op.mirrored a false))
      | _, _ => return some (.query (← p.operate d op b false))
    | .object | .row =>
      if op != .eq && op != .ne then return none
      if p.kind == .object && second == some .row then refuse ReadCause.notImplemented
      let r ← p.equalObject d b
      if op == .eq then return some (.query r)
      return some (← fresh (.bool false))
    | .table =>
      if op == .add || op == .addTo then
        match b, second with
        | .query t, some .table => return some (.query (← p.append d t))
        | _, _ => refuse (ReadCause.appendType b.shown b.typeShown)
      if a.isSame b && (op == .eq || op == .ne) then return some (← fresh (.bool (op == .eq)))
      return none
    | .start => return none
  | _, _ => return none

def binary (d : Catalogue) : Nat → Operator → Item → Item → PlanM Item
  | 0, _, _, _ => refuse .tooDeep
  | fuel + 1, op, a, b => do
    match a with
    | .aligned named unnamed =>
      eachMember named unnamed (fun m => do binary d fuel op (← pick m a) (← pick m b))
    | _ =>
      match ← ofFirst d op a b, b with
      | some r, _ => return r
      | none, .aligned named unnamed =>
        if op.isComparison then
          eachMember named unnamed (fun m => do binary d fuel op.mirrored (← pick m b) (← pick m a))
        else refuse .badType
      | none, _ => reflected d op a b

def unary (d : Catalogue) : Nat → UnaryOperator → Item → PlanM Item
  | 0, _, _ => refuse .tooDeep
  | fuel + 1, op, x => do
    match x with
    | .aligned named unnamed => eachMember named unnamed (fun m => do unary d fuel op (← pick m x))
    | .query q => if q.kind.isAttribute then return .query (← q.operateUnary d op) else refuse .badType
    | .plain v _ => fresh (← Value.applyUnary op v)
    | _ => refuse .badType

end Item

end SurveyGraph
