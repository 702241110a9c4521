import SurveyGraph.Read.Expression
/-!
# Functions

Aggregations, mathematical functions, choices between values, and what joins queries: splitting a query
into parts, joining it with a table, and putting queries side by side.
-/
namespace SurveyGraph

variable (d : Catalogue) (xs : List Value)

structure Aggregation where
  function : String
  name : String
  /-- Whether it asks for a condition on the values. -/
  isPredicate : Bool := false
  expected : Option String := none
  returns : Option String := none
  distinct : Bool := false
  nulls : Bool := false

namespace Aggregation

def ofName? : String → Option Aggregation
  | "sum" => some { function := "sum", name := "sum", expected := some "number" }
  | "max" => some { function := "max", name := "max", expected := some "number" }
  | "min" => some { function := "min", name := "min", expected := some "number" }
  | "count" => some { function := "count", name := "count", returns := some "integer" }
  | "exists" => some { function := "count", name := "count", returns := some "number" }
  | "std" => some { function := "stDev", name := "stDev", expected := some "number" }
  | "mean" => some { function := "avg", name := "mean", expected := some "number" }
  | "all" => some { function := "all", name := "all", isPredicate := true, returns := some "boolean" }
  | "any" => some { function := "any", name := "any", isPredicate := true, returns := some "boolean" }
  | "array" => some { function := "collect", name := "collect" }
  | _ => none

def numbers : Except Fault (List (Int ⊕ Float)) :=
  xs.mapM fun v => match Value.number? v with
    | some n => .ok n
    | none => refuse .badType

def extreme (op : Operator) : List Value → Except Fault Value
  | [] => refuse .badValue
  | x :: xs => xs.foldlM (fun best v => do
      match ← Value.combine op v best with
      | .bool true => return v
      | _ => return best) x

def total : Except Fault Value := xs.foldlM (fun acc v => Value.combine .add acc v) (.int 0)

def average (xs : List Float) : Float := xs.foldl (· + ·) 0.0 / Decimal.ofInt xs.length

def ofValues (name : String) (xs : List Value) : Except Fault Value := do
  let cell (x : Float) : Value := .scalar (.float 64) (.float x)
  match name with
  | "sum" => total xs
  | "max" => extreme .gt xs
  | "min" => extreme .lt xs
  | "count" => return .int xs.length
  | "exists" => return .bool (!xs.isEmpty)
  | "mean" => do return cell (average ((← numbers xs).map Value.asFloat))
  | "std" => do
    let ns := (← numbers xs).map Value.asFloat
    let m := average ns
    return cell (average (ns.map (fun x => (x - m) * (x - m)))).sqrt
  | "all" => return .bool (xs.all (·.truthy))
  | "any" => return .bool (xs.any (·.truthy))
  | _ => return .list xs

end Aggregation

namespace Query

/-- Aggregates a query to another, or to the start; a table by its objects. -/
def aggregate (a : Aggregation) (wrt : Option Query) (q : Query) : PlanM Query := do
  let q ← if q.kind != .table then pure q
    else match q.previous with
      | some p => pure p
      | none => refuse .missingAttribute
  let target := wrt.getD origin
  let step := if a.isPredicate then Plan.addPredicate q.node target.node a.function
    else Plan.addAggregate q.node target.node a.function true a.expected q.dtype a.distinct a.nulls
  let n ← orElseIf step (·.kind == .badQuery) (fun _ => refuse (ReadCause.aggregateDisjoint q.shown target.shown))
  q.spawn d .attribute n
    { obj := target.obj, index := .node target.node, single := true, dtype := a.returns, factor := some a.name }

structure MathFunction where
  template : String
  name : String
  returns : String
  maskInfinity : Bool := true

def MathFunction.ofName? : String → Option MathFunction
  | "sign" => some ⟨"sign(\x7b0\x7d)", "sign", "float", true⟩
  | "exp" => some ⟨"exp(\x7b0\x7d)", "exp", "float", true⟩
  | "log" => some ⟨"log(\x7b0\x7d)", "log", "float", true⟩
  | "log10" => some ⟨"log10(\x7b0\x7d)", "log10", "float", true⟩
  | "sqrt" => some ⟨"sqrt(\x7b0\x7d)", "sqrt", "float", true⟩
  | "ismissing" | "isnull" => some ⟨"\x7b0\x7d is null", "isnull", "boolean", true⟩
  | "isnan" => some ⟨"\x7b0\x7d == 1.0/0.0", "isnan", "boolean", false⟩
  | "to_int" => some ⟨"tointeger(\x7b0\x7d)", "int", "float", true⟩
  | _ => none

def applyMath (q : Query) (f : MathFunction) : PlanM Query := do
  let template ← if f.maskInfinity then Text.Template.fill f.template [Phrase.maskInfinity (place 0)]
    else pure f.template
  q.compute d template f.name [] none (some f.returns) []

def ancestry : Query → List Query
  | .mk kind serial node previous obj index single names products dtype oneRow factor columns given =>
    .mk kind serial node previous obj index single names products dtype oneRow factor columns given
      :: match previous with
        | some p => ancestry p
        | none => []

/-- The query furthest down that several queries were made from. -/
def common (qs : List Query) : Except Fault Query :=
  let chains : List (List Query) := qs.map ancestry
  let shared : List Nat := match chains with
    | [] => []
    | c :: cs => (c.map (·.node)).filter (fun n => cs.all (fun c => (c.map (·.node)).contains n))
  let deepest := shared.foldl max 0
  match chains.flatten.reverse.find? (·.node == deepest) with
  | some q => .ok q
  | none => refuse .badValue

end Query

namespace Item

def aggregateTarget (x wrt : Item) : Except Fault (Option Query) :=
  match wrt, x with
  | .data, _ | .plain .none _, _ => .ok none
  | .query q, x =>
    if q.kind.isAttribute then refuse (ReadCause.wrtAttribute x.shown q.shown) else .ok (some q)
  | _, .query _ => refuse ReadCause.noConnection
  | _, _ => .ok none

def aggregate (d : Catalogue) (name : String) (a : Aggregation) (wrt : Item) : Nat → Item → PlanM Item
  | 0, _ => refuse .tooDeep
  | fuel + 1, x => do
    let target ← aggregateTarget x wrt
    match x with
    | .query q => do
      let r ← q.aggregate d a target
      if name == "exists" then return .query (← r.operate d .gt (.plain (.int 0) .fixed) false)
      return .query r
    | .aligned named unnamed =>
      if target.isSome then refuse ReadCause.noConnection
      eachMember named unnamed (fun m => do aggregate d name a wrt fuel (← pick m x))
    | x =>
      match x.members?, x with
      | some xs, _ =>
        let vs ← xs.mapM (fun | .plain v _ => pure v | _ => refuse .badType)
        let vs := if a.distinct then vs.foldl (fun acc v => if acc.any (Value.same v) then acc else acc ++ [v]) []
          else vs
        fresh (← Aggregation.ofValues name vs)
      | none, .plain (.array _ _ vs) _ => fresh (← Aggregation.ofValues name vs)
      | none, .plain (.text s) _ =>
        fresh (← Aggregation.ofValues name (s.toList.map (fun c => .text c.toString)))
      | _, _ => refuse .badType

/-- Applies a function. Plain values can be asked whether they are missing or not a number, and be made
whole. -/
def applyMath (name : String) (f : Query.MathFunction) (x : Item) : PlanM Item := do
  match x.attribute? with
  | some q => return .query (← q.applyMath d f)
  | none =>
    match name, x with
    | "ismissing", x | "isnull", x => fresh (.bool (match x with | .plain .none _ => true | _ => false))
    | "isnan", .plain v _ =>
      match Value.number? v with
      | some (.inr y) => fresh (.scalar .bool (.bool y.isNaN))
      | some (.inl _) => fresh (.scalar .bool (.bool false))
      | none => refuse .badType
    | "to_int", .plain v _ => do fresh (.int (← Value.toInt v))
    | _, _ => refuse .badType

/-! ## Reducing a sequence -/

/-- Combines the members of a sequence; attributes in the database, as a reduction over a list. -/
def reduce (op : Operator) (xs : List Item) (initial : Item) : PlanM Item := do
  let isNone : Item → Bool
    | .plain .none _ => true
    | _ => false
  match xs with
  | [] => return initial
  | first :: rest =>
    if isNone initial && rest.isEmpty then return first
    if xs.any (·.attribute?.isSome) then
      let (initial, xs) := if isNone initial then (first, rest) else (initial, xs)
      let some q := initial.attribute? | refuse ReadCause.initialNotQuery
      let i ← Plan.freshName "i"
      let acc ← Plan.freshName "acc"
      let some second := xs.head? | refuse .outOfRange
      let test ← binary d 4 op initial second
      if xs.length == 1 then return test
      let some t := test.query? | refuse .missingAttribute
      let some s := second.query? | refuse .missingAttribute
      let p ← get
      let text := (← p.slot t.node).shown
      let text := Text.replaceAll (Text.replaceAll text (Query.place 0) acc) (Query.place 1) i
      let text := Text.replaceAll text (← p.slot q.node).shown acc
      let text := Text.replaceAll text (← p.slot s.node).shown i
      let places := Text.join ", " ((List.range xs.length).map (fun (n : Nat) => Query.place (n + 1)))
      let template := "reduce(" ++ acc ++ " = " ++ Query.place 0 ++ ", " ++ i ++ " IN [" ++ places ++ "] | " ++ text ++ ")"
      return .query (← q.compute d template "reduce" (xs.map (·.query?)) none t.dtype [])
    let truthy : Bool := match initial with
      | .plain v _ => v.truthy
      | _ => true
    if truthy then xs.foldlM (fun acc x => binary d 4 op acc x) initial
    else rest.foldlM (fun acc x => binary d 4 op acc x) first

/-! ## Choices -/

/-- What a result of a choice is, as far as types go. -/
def choiceType : Item → String
  | .query q => if q.kind.isAttribute then (match q.dtype with
      | some t => Text.quoted t
      | none => "None") else (Item.query q).typeShown
  | x => x.typeShown

def commonType (types : List String) : Except Fault String :=
  let none_ := ["None", "<class 'NoneType'>"]
  let within (allowed : List String) : Bool := types.all (allowed ++ none_).contains
  let int := "<class 'int'>"
  let float := "<class 'float'>"
  if types.contains "<class 'weaveio.readquery.objects.ObjectQuery'>" then refuse ReadCause.switchObject
  else if within ["'integer'", int, "<class 'numpy.int64'>"] then .ok "integer"
  else if within ["'float'", float, "<class 'numpy.float64'>"] then .ok "float"
  else if within ["'number'", float, int] then .ok "number"
  else if within ["'boolean'", "<class 'bool'>"] then .ok "boolean"
  else if within ["'string'", "<class 'str'>"] then .ok "string"
  else refuse (ReadCause.switchTypes (Catalogue.sortTexts types))

/-- One side of a choice: the text for it, and what it adds to the parameters and to the nodes. -/
def choiceSide (x : Item) (position : Nat) : PlanM (String × List String × List Nat) := do
  match x with
  | .query q => return (Query.place position, [], [q.node])
  | x => do
    let name ← Plan.addParameter x
    return (name, [name], [])

def switch (x states otherwise : Item) : PlanM Item := do
  let some q := x.attribute? | refuse ReadCause.switchItem
  let states := (states.entries?).getD [(.plain (.bool true) .fixed, states)]
  let dtype ← commonType (states.map (fun s => choiceType s.2) ++ [choiceType otherwise])
  let sides ← ((List.range states.length).zip states).mapM fun (i, k, v) => do
    let (kt, kp, kn) ← choiceSide k (2 * i)
    let (vt, vp, vn) ← choiceSide v (2 * i + 1)
    return (kt ++ " THEN " ++ vt, kp ++ vp, kn ++ vn)
  let (last, lastParams) ← match otherwise with
    | .plain .none _ => pure ("null", [])
    | .query o => pure (o.shown, [])
    | o => do
      let name ← Plan.addParameter o
      pure (name, [name])
  let template := "CASE \x7b0\x7d WHEN " ++ Text.join " WHEN " (sides.map (·.1)) ++ " ELSE " ++ last ++ " END"
  let params := sides.flatMap (·.2.1) ++ lastParams
  let nodes := sides.flatMap (·.2.2)
  let (n, wrt) ← if nodes.isEmpty then Plan.addOperation q.node template "op-switch" params
    else Plan.addCombination template "op-switch" (q.node :: nodes) none params
  return .query (← q.spawn d .attribute n { index := .node wrt, single := true, dtype := some dtype, factor := some "switch" })

/-! ## Splitting, joining, aligning -/

/-- Splits a query by the values of an attribute: by default the one that stands for the object. -/
def split (x by_ : Item) : PlanM Item := do
  let attr ← match x, by_ with
    | .query q, .plain .none _ =>
      if q.kind.isObject then
        orElseIf (do return Item.query (← q.defaultAttribute d)) (·.kind == .badQuery) fun _ => do
          let (n, wrt) ← Plan.addOperation q.node "id(\x7b0\x7d)" "id"
          return .query (← q.spawn d .attribute n { index := .node wrt, single := true, dtype := some "int" })
      else refuse ReadCause.splitBy
    | x, .plain (.text _) _ => bracket d 4 x by_
    | _, .query b =>
      if b.kind.isObject then do pure (Item.query (← b.defaultAttribute d))
      else if b.kind.isAttribute then pure by_
      else refuse ReadCause.splitBy
    | _, _ => refuse ReadCause.splitBy
  match x, attr with
  | .data, _ => refuse (ReadCause.noAttribute dataShown "_G")
  | .query q, .query a => do
    let group ← Plan.addGroup a
    if a.kind.isObject then refuse (ReadCause.hidden a.kind.name "_perform_arithmetic")
    if !a.kind.isAttribute then refuse .missingAttribute
    let eq ← a.compute d (Query.place 0 ++ " = " ++ group) "=" [none] none (some "boolean") [group]
    return .query (← q.filterBy d eq (some true) true)
  | _, _ => refuse .missingAttribute

/-- Joins a query with a table whose column `column` holds the values of an attribute: the rows and
their objects. `how` says whether objects without a row are dropped. -/
def join (table : Item) (column : String) (on attr : Item) (how : Item) : PlanM (Query × Query) := do
  let attr : Item := match attr with
    | .plain .none _ => .plain (.text column) .fixed
    | a => a
  let attr : Item ← if attr.text?.isSome then bracket d 4 on attr else pure attr
  let some a := attr.attribute? | refuse (ReadCause.joinBy attr.typeShown)
  let some q := on.query? | refuse .missingAttribute
  let name ← Plan.addParameter table
  let picked ← Plan.addApply q.node name (Query.place 0) (Query.place 0 ++ ".`" ++ column ++ "` = " ++ Query.place 1)
    [a.node] true [name]
  let folded ← Plan.fold picked
  let list ← (← get).slot folded
  let row ← Plan.addUnwind q.node list.shown [folded] []
  let ref ← Plan.addReference row q.node
  let node ← match how.text? with
    | some "table" => do
      let (present, _) ← Plan.addOperation row "\x7b0\x7d is not null" "not-null"
      Plan.addFilter ref present false
    | some "object" => pure ref
    | _ => refuse (ReadCause.joinOn how.shown)
  let given := match table with
    | .plain v _ => v
    | _ => .none
  let rows ← q.spawn d .row row { obj := some "_row", single := true, given := some given }
  let objects ← q.spawn d .object node { obj := q.obj }
  return (rows, objects)

def align (named : List (String × Item)) (unnamed : List Item) : PlanM Item := do
  if !(unnamed ++ named.map (·.2)).all (·.query?.isSome) then refuse ReadCause.notAligned
  if unnamed.isEmpty && named.isEmpty then refuse .outOfRange
  return .aligned named unnamed

/-- The query whose text stands for an item. Aligned queries become one table. -/
def complete (x : Item) : PlanM Item := do
  match x with
  | .data => refuse (ReadCause.noAttribute dataShown "_precompile")
  | .query q => return .query (← q.complete d)
  | .aligned named unnamed => do
    let members := named ++ ((List.range unnamed.length).map toString).zip unnamed
    let isTable (y : Item) : Bool := y.query?.any (·.kind == .table)
    let anyTable := members.any (fun m => isTable m.2)
    if anyTable && !members.all (fun m => isTable m.2) then refuse ReadCause.alignMixed
    let qs ← members.mapM (fun m => match m.2 with
      | .query q => pure q
      | _ => refuse .missingAttribute)
    let common ← Query.common qs
    let suffix := if anyTable then "_" else ""
    let entries := members.map (fun m => (Item.plain (.text (m.1 ++ suffix)) .key, m.2))
    bracket d 4 (.query common) (.dict entries)
  | _ => refuse .missingAttribute

def compile (x : Item) (w : Query.Window) (keep : Bool) : PlanM Compiled := do
  match x with
  | .data => refuse (ReadCause.noAttribute dataShown "_debug_output")
  | .query q => q.compile d w keep
  | .aligned .. => do
    match ← x.complete d with
    | .query q => q.compile d w keep
    | _ => refuse .missingAttribute
  | _ => refuse .missingAttribute

def byDatabaseId (id : Value) (name : String) : PlanM Item := do
  let q ← Query.startName d name
  let i ← q.databaseId d
  let eq ← i.operate d .eq (← fresh (.int (← Value.toInt id))) false
  if q.kind.isObject then return .query (← q.bracket d (.query eq))
  return .query (← q.where_ d eq)

end Item

end SurveyGraph
