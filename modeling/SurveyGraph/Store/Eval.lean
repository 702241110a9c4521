import SurveyGraph.Store.Expr
import SurveyGraph.Value
/-!
# What statements do

The meaning that the manuals of the database give to expressions. Null is a value: what is computed from
null is null, a list has null beyond its ends, and so is a property that has not been set. A comparison
with null is neither true nor false, and a condition is met only where it is true.

An expression used with values of other types than it is meant for has no value.
-/
namespace SurveyGraph.Store

/-! ## Operations on values -/

mutual

def same : Value → Value → Option Value
  | .none, _ | _, .none => some .none
  | .int a, .int b => some (.bool (a == b))
  | .text a, .text b => some (.bool (a == b))
  | .bool a, .bool b => some (.bool (a == b))
  | .list xs, .list ys => sameAll xs ys
  | _, _ => none

/-- Whether two lists are equal. Two members that differ settle it. -/
def sameAll : List Value → List Value → Option Value
  | [], [] => some (.bool true)
  | x :: xs, y :: ys => do
    match ← same x y, ← sameAll xs ys with
    | .bool false, _ | _, .bool false => some (.bool false)
    | .bool true, .bool true => some (.bool true)
    | _, _ => some .none
  | _, _ => some (.bool false)

end

def negate : Value → Option Value
  | .bool b => some (.bool !b)
  | .none => some .none
  | _ => none

def sum : Value → Value → Option Value
  | .none, _ | _, .none => some .none
  | .int a, .int b => some (.int (a + b))
  | .text a, .text b => some (.text (a ++ b))
  | .list xs, .list ys => some (.list (xs ++ ys))
  | _, _ => none

def difference : Value → Value → Option Value
  | .none, _ | _, .none => some .none
  | .int a, .int b => some (.int (a - b))
  | _, _ => none

/-- The place that a number stands for in a list. A negative one is counted from the end. -/
def place (length : Nat) (i : Int) : Int := if i < 0 then i + length else i

def member : Value → Value → Option Value
  | .none, _ | _, .none => some .none
  | .list xs, .int i =>
    let k := place xs.length i
    some (if k < 0 then .none else xs.getD k.toNat .none)
  | _, _ => none

def before : Value → Value → Option Value
  | .none, _ | _, .none => some .none
  | .list xs, .int i => some (.list (xs.take (place xs.length i).toNat))
  | _, _ => none

def upTo (a b : Int) : List Int := (List.range (b + 1 - a).toNat).map (fun (k : Nat) => a + k)

/-- Each member with the next one, and the last one with null. -/
def withNext : List Value → List Value
  | [] => []
  | [x] => [.list [x, .none]]
  | x :: y :: xs => .list [x, y] :: withNext (y :: xs)

/-- The members of two lists at equal places. Null stands for those missing in the second. -/
def paired : List Value → List Value → List Value
  | [], _ => []
  | x :: xs, [] => .list [x, .none] :: paired xs []
  | x :: xs, y :: ys => .list [x, y] :: paired xs ys

def joined : List Value → List Value
  | [] => []
  | .list xs :: rest => xs ++ joined rest
  | x :: rest => x :: joined rest

def ints : List Value → Option (List Int)
  | [] => some []
  | .int n :: xs => (ints xs).map (n :: ·)
  | _ :: _ => none

/-- The value of a function. Sets and orders are given only for numbers. -/
def Fn.apply : Fn → List Value → Option Value
  | .range, [.int a, .int b] => some (.list ((upTo a b).map .int))
  | .size, [.list xs] => some (.int xs.length)
  | .size, [.none] => some .none
  | .coalesce, [] => some .none
  | .coalesce, .none :: xs => Fn.apply .coalesce xs
  | .coalesce, x :: _ => some x
  | .pairs, [.list xs] => some (.list (withNext xs))
  | .zip, [.list xs, .list ys] => some (.list (paired xs ys))
  | .zip, [.none, _] | .zip, [_, .none] => some .none
  | .flatten, [.list xs] => some (.list (joined xs))
  | .flatten, [.none] => some .none
  | .toSet, [.list xs] => (ints xs).map (fun ns => .list (ns.eraseDups.map .int))
  | .sort, [.list xs] => (ints xs).map (fun ns => .list ((ns.mergeSort (· ≤ ·)).map .int))
  | _, _ => none

def Op.apply : Op → Value → Value → Option Value
  | .plus, a, b => sum a b
  | .minus, a, b => difference a b
  | .equal, a, b => same a b
  | .unequal, a, b => (same a b).bind negate

/-- Whether all truth values are true. One that is false settles it, and then one that is null. -/
def conjunction : List Value → Option Value
  | [] => some (.bool true)
  | x :: xs => do
    match x, ← conjunction xs with
    | .bool false, _ | .bool true, .bool false | .none, .bool false => some (.bool false)
    | .bool true, rest => some rest
    | .none, _ => some .none
    | _, _ => none

/-! ## Expressions -/

structure Node where
  labels : List String
  properties : String → Value

def Node.set (n : Node) (property : String) (v : Value) : Node :=
  { n with properties := fun p => if p = property then v else n.properties p }

/-- What expressions can see: the node under a name, the values of variables, and parameters. -/
structure Scope where
  name : String
  node : Node
  vars : List (String × Value) := []
  params : List (String × Value)

def Scope.bind (s : Scope) (v : String) (x : Value) : Scope := { s with vars := (v, x) :: s.vars }

def Scope.nodeAt (s : Scope) (name : String) : Option (String → Value) :=
  if name = s.name then some s.node.properties else none

/-- What a function comes to for each of some values; what it gives nothing for is left out. -/
def collect (f : Value → Option (Option Value)) : List Value → Option (List Value)
  | [] => some []
  | x :: xs => do
    let y ← f x
    let ys ← collect f xs
    return y.toList ++ ys

def met : Value → Option Bool
  | .bool b => some b
  | .none => some false
  | _ => none

mutual

def Expr.eval : Expr → Scope → Option Value
  | .int n, _ => some (.int n)
  | .quoted t, _ => some (.text t)
  | .var v, s => s.vars.lookup v
  | .param p, s => s.params.lookup p
  | .property n p, s => (s.nodeAt n).map (· p)
  | .field n e, s => do
    let properties ← s.nodeAt n
    match ← e.eval s with
    | .text p => some (properties p)
    | .none => some .none
    | _ => none
  | .list es _, s => (Expr.evalAll es s).map .list
  | .index e i, s => do member (← e.eval s) (← i.eval s)
  | .upTo e i, s => do before (← e.eval s) (← i.eval s)
  | .binary op _ a b, s => do op.apply (← a.eval s) (← b.eval s)
  | .isNull e, s => do
    match ← e.eval s with
    | .none => some (.bool true)
    | _ => some (.bool false)
  | .call f args _, s => do f.apply (← Expr.evalAll args s)
  | .each v source result, s => do
    match ← source.eval s with
    | .list xs => (collect (fun x => (result.eval (s.bind v x)).map some) xs).map .list
    | .none => some .none
    | _ => none
  | .eachWhere v source cond result, s => do
    match ← source.eval s with
    | .list xs => (collect (fun x => do
        if ← met (← cond.eval (s.bind v x)) then (result.eval (s.bind v x)).map some else some none) xs).map .list
    | .none => some .none
    | _ => none
  | .all v source cond, s => do
    match ← source.eval s with
    | .list xs => conjunction (← collect (fun x => (cond.eval (s.bind v x)).map some) xs)
    | .none => some .none
    | _ => none
  | .choose cond yes no, s => do if ← met (← cond.eval s) then yes.eval s else no.eval s

def Expr.evalAll : List Expr → Scope → Option (List Value)
  | [], _ => some []
  | e :: es, s => do return (← e.eval s) :: (← Expr.evalAll es s)

end

/-! ## Statements -/

def Clause.run (s : Scope) : Clause → Option Scope
  | .bind e v => (e.eval s).map (s.bind v)
  | .set property e => (e.eval s).map (fun x => { s with node := s.node.set property x })

def Update.isAbout (u : Update) (params : List (String × Value)) (n : Node) : Option Bool := do
  if !n.labels.contains u.label then return false
  met (← same (n.properties u.key) (← params.lookup u.param))

def Update.run (u : Update) (params : List (String × Value)) (n : Node) : Option Node := do
  if ← u.isAbout params n then
    let s ← u.clauses.foldlM Clause.run { name := u.node, node := n, params }
    return s.node
  else return n

end SurveyGraph.Store
