import SurveyGraph.Value
/-!
# Queries

A query stands at a node of the query graph. It knows what it selects there, the query that it was made
from, and how its result is to be laid out.

Sessions also handle plain values, lists of queries and so on: items. Equal items can be told apart,
because a value that is given to the database twice is sent once.
-/
namespace SurveyGraph

inductive QueryKind where
  | start
  | object
  | row
  | attribute
  | product
  | table
  deriving Repr, BEq, DecidableEq, Inhabited

namespace QueryKind

def name : QueryKind → String
  | .start => "Query"
  | .object => "ObjectQuery"
  | .row => "TableVariableQuery"
  | .attribute => "AttributeQuery"
  | .product => "ProductAttributeQuery"
  | .table => "TableQuery"

def isObject : QueryKind → Bool
  | .object | .row => true
  | _ => false

def isAttribute : QueryKind → Bool
  | .attribute | .product => true
  | _ => false

end QueryKind

/-- The node to whose results the results of a query are counted. -/
inductive IndexNode where
  | unknown
  | start
  | node (n : Nat)
  deriving Repr, BEq, DecidableEq

structure Query where
  kind : QueryKind
  serial : Nat
  node : Nat
  previous : Option Query := none
  obj : Option String := none
  index : IndexNode := .unknown
  single : Bool := false
  names : List Value := []
  products : List Bool := []
  dtype : Option String := none
  oneRow : Bool := false
  factor : Option String := none
  /-- The columns of a table, if they are known. -/
  columns : Option (List Query) := none
  /-- The table whose rows the query stands for, by columns. -/
  given : Option Value := none
  deriving Repr, Inhabited

namespace Query

def objText : Option String → String
  | some s => s
  | none => "None"

def shown (q : Query) : String :=
  if q.kind.isAttribute then
    "<" ++ q.kind.name ++ "(" ++ objText q.obj ++ "." ++ objText q.factor ++ ")>"
  else match q.previous with
    | some p => "<" ++ q.kind.name ++ "(" ++ objText p.obj ++ "-" ++ objText q.obj ++ ")>"
    | none => "<" ++ q.kind.name ++ "(" ++ objText q.obj ++ ")>"

def oneColumn (q : Query) : Bool := q.kind.isAttribute

end Query

/-- Which occurrence of a value an item is. -/
inductive Occurrence where
  /-- An occurrence of its own, or a part of one. -/
  | fresh (n : Nat) (place : List Nat)
  /-- A text that was put together: never one with another. -/
  | composed (n : Nat)
  /-- The key of a record: equal keys are one. -/
  | key
  /-- A text that is always the same one. -/
  | fixed
  deriving Repr, BEq, DecidableEq

def Occurrence.part (i : Nat) : Occurrence → Occurrence
  | .fresh n place => .fresh n (place ++ [i])
  | m => m

/-- Anything that a step of a session takes or gives. -/
inductive Item where
  | data
  | plain (v : Value) (mark : Occurrence)
  | query (q : Query)
  /-- Queries side by side: some with names, the others by number. -/
  | aligned (named : List (String × Item)) (unnamed : List Item)
  | list (xs : List Item)
  | tuple (xs : List Item)
  | dict (entries : List (Item × Item))
  deriving Repr, Inhabited

namespace Item

/-- Values of which there is one only: nothing, truth values, small numbers and short texts. -/
def isUnique : Value → Bool
  | .none | .bool _ => true
  | .int n => -5 ≤ n && n ≤ 256
  | .text s => s.isEmpty || (s.length == 1 && s.toList.all (·.toNat < 256))
  | _ => false

def isSame : Item → Item → Bool
  | .plain _ (.composed n), .plain _ (.composed m) => n == m
  | .plain _ (.composed _), _ | _, .plain _ (.composed _) => false
  | .plain v (.fresh n i), .plain w (.fresh m j) =>
    (n == m && i == j) || (isUnique v && isUnique w && alike v w)
  | .plain v m, .plain w n => alike v w && (m == n || isUnique v)
  | .query p, .query q => p.serial == q.serial
  | .data, .data => true
  | _, _ => false
where
  /-- Whether two values of the same type are equal. -/
  alike : Value → Value → Bool
    | .none, .none => true
    | .bool a, .bool b => a == b
    | .int a, .int b => a == b
    | .text a, .text b => a == b
    | _, _ => false

def dataShown : String := "<Data(weaveuser@127.0.0.1[production]:7687:/data)>"

mutual

def literal : Item → String
  | .data => dataShown
  | .plain v _ => v.literal
  | .query q => q.shown
  | .aligned named unnamed =>
    let keys := named.map (fun p => Text.quoted p.1) ++ (List.range unnamed.length).map toString
    let first := match namedLiterals named ++ literals unnamed with
      | s :: _ => s
      | [] => ""
    "AlignedQuery(" ++ first ++ " [dict_keys([" ++ Text.join ", " keys ++ "])])"
  | .list xs => "[" ++ Text.join ", " (literals xs) ++ "]"
  | .tuple [x] => "(" ++ literal x ++ ",)"
  | .tuple xs => "(" ++ Text.join ", " (literals xs) ++ ")"
  | .dict es => "\x7b" ++ Text.join ", " (entryLiterals es) ++ "\x7d"

def literals : List Item → List String
  | [] => []
  | x :: xs => literal x :: literals xs

def namedLiterals : List (String × Item) → List String
  | [] => []
  | (_, x) :: xs => literal x :: namedLiterals xs

def entryLiterals : List (Item × Item) → List String
  | [] => []
  | (k, v) :: es => (literal k ++ ": " ++ literal v) :: entryLiterals es

end

def shown : Item → String
  | .plain v _ => v.display
  | x => x.literal

def text? : Item → Option String
  | .plain (.text s) _ => some s
  | _ => none

def members? : Item → Option (List Item)
  | .list xs | .tuple xs => some xs
  | .plain (.list xs) m | .plain (.tuple xs) m | .plain (.set xs) m =>
    some ((xs.zip (List.range xs.length)).map (fun (x, i) => .plain x (m.part i)))
  | _ => none

def entries? : Item → Option (List (Item × Item))
  | .dict es => some es
  | .plain (.dict es) m =>
    some ((es.zip (List.range es.length)).map (fun (e, i) => (.plain e.1 .key, .plain e.2 (m.part i))))
  | _ => none

def query? : Item → Option Query
  | .query q => some q
  | _ => none

def attribute? (x : Item) : Option Query := x.query?.filter (·.kind.isAttribute)

end Item

end SurveyGraph
