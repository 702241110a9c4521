import SurveyGraph.Schema.Relation
/-!
# Variables of a program

A program passes nodes, lists and values from statement to statement in variables. A variable is known by
its number; it has a hint for its name, which it gets when the program is written down. A derived
variable stands for a formula over others.
-/
namespace SurveyGraph.Write

/-- A variable, by its place in the program. -/
abbrev VarId := Nat

/-- An instance of a class, by its place in the program. -/
abbrev InstanceId := Nat

/-- What can be handed to a statement: a value, variable, instance, class, or a collection of
these. -/
inductive Thing where
  | plain (v : Value)
  | var (v : VarId)
  | object (o : InstanceId)
  | cls (c : ClassId)
  | list (xs : List Thing)
  | tuple (xs : List Thing)
  | dict (es : List (Thing × Thing))
  deriving Inhabited

/-- The texts of the parts of a thing that are known by number. -/
structure Leaves where
  var : VarId → String
  object : InstanceId → String
  cls : ClassId → String

namespace Thing

def text (s : String) : Thing := .plain (.text s)

def nothing : Thing := .plain .none

def isNothing : Thing → Bool
  | .plain .none => true
  | _ => false

mutual

def literal (l : Leaves) : Thing → String
  | .plain v => v.literal
  | .var v => l.var v
  | .object o => l.object o
  | .cls c => l.cls c
  | .list xs => "[" ++ Text.join ", " (literals l xs) ++ "]"
  | .tuple [x] => "(" ++ literal l x ++ ",)"
  | .tuple xs => "(" ++ Text.join ", " (literals l xs) ++ ")"
  | .dict es => "\x7b" ++ Text.join ", " (entryLiterals l es) ++ "\x7d"

def literals (l : Leaves) : List Thing → List String
  | [] => []
  | x :: xs => literal l x :: literals l xs

def entryLiterals (l : Leaves) : List (Thing × Thing) → List String
  | [] => []
  | (k, v) :: es => (literal l k ++ ": " ++ literal l v) :: entryLiterals l es

end

def display (l : Leaves) : Thing → String
  | .plain v => v.display
  | t => t.literal l

def text? : Thing → Option String
  | .plain (.text s) | .plain (.scalar _ (.text s)) => some s
  | _ => none

def var? : Thing → Option VarId
  | .var v => some v
  | _ => none

def ofVar? : Option VarId → Thing
  | some v => .var v
  | none => .nothing

/-- What is handed over of several things: the only one as it is, or else a list of them. -/
def handOver : List Thing → Thing
  | [t] => t
  | ts => .list ts

/-- The whole number that a thing is, if it is one; truth values are whole numbers. -/
def whole? : Thing → Option Value
  | .plain (.int n) => some (.int n)
  | .plain (.bool b) => some (.bool b)
  | _ => none

def list? : Thing → Option (List Thing)
  | .list xs => some xs
  | .plain (.list xs) => some (xs.map .plain)
  | _ => none

def sequence? : Thing → Option (List Thing)
  | .tuple xs => some xs
  | .plain (.tuple xs) => some (xs.map .plain)
  | t => t.list?

/-- What is met in a thing: members of a sequence, characters of a text, keys of a record. -/
def each (t : Thing) : Except Fault (List Thing) :=
  match t.sequence? with
  | some xs => .ok xs
  | none =>
    match t with
    | .plain (.text s) => .ok (s.toList.map (fun c => .text c.toString))
    | .plain (.set xs) => .ok (xs.map .plain)
    | .plain (.dict es) => .ok (es.map (fun e => .plain e.1))
    | .dict es => .ok (es.map (·.1))
    | _ => refuse .badType

def entries? : Thing → Option (List (Thing × Thing))
  | .dict es => some es
  | .plain (.dict es) => some (es.map (fun e => (.plain e.1, .plain e.2)))
  | _ => none

def count : Thing → Option Nat
  | .plain (.text s) => some s.length
  | .plain (.array _ (n :: _) _) | .plain (.maskedArray _ (n :: _) _) => some n
  | t =>
    match t.each with
    | .ok xs => some xs.length
    | .error _ => none

def isTrue : Thing → Bool
  | .plain v => v.truthy
  | .list xs | .tuple xs => !xs.isEmpty
  | .dict es => !es.isEmpty
  | _ => true

/-- Whether two things are the same: variables and instances by number, values by value. -/
def same : Thing → Thing → Bool
  | .plain a, .plain b => a.same b
  | .var a, .var b => a == b
  | .object a, .object b => a == b
  | .cls a, .cls b => a == b
  | _, _ => false

mutual

/-- The thing as a plain value, if nothing in it is known by number. -/
def value? : Thing → Option Value
  | .plain v => some v
  | .list xs => (values? xs).map .list
  | .tuple xs => (values? xs).map .tuple
  | .dict es => (entryValues? es).map .dict
  | _ => none

def values? : List Thing → Option (List Value)
  | [] => some []
  | x :: xs => do return (← value? x) :: (← values? xs)

def entryValues? : List (Thing × Thing) → Option (List (Value × Value))
  | [] => some []
  | (k, v) :: es => do return (← value? k, ← value? v) :: (← entryValues? es)

end

end Thing

/-- What a derived variable stands for. -/
inductive Formula where
  | item (of key : Thing)
  | arithmetic (op : String) (a b : Thing)
  /-- A text in which a mark is replaced. -/
  | replaced (a b : Thing)
  | appended (a b : Thing)
  | asText (a : Thing)
  deriving Inhabited

/-- A text between quotes and anything else as it is. -/
def quotedText (l : Leaves) (t : Thing) : String :=
  match t.text? with
  | some s => "'" ++ s ++ "'"
  | none => t.display l

namespace Formula

def text (l : Leaves) : Formula → String
  | .item of key => of.display l ++ "[" ++ quotedText l key ++ "]"
  | .arithmetic op a b => a.display l ++ " " ++ op ++ " " ++ b.display l
  | .replaced a b => "replace(" ++ a.display l ++ ", 'X', '" ++ b.display l ++ "')"
  | .appended a b => quotedText l a ++ " + " ++ quotedText l b
  | .asText a => "toStringOrNull(" ++ a.display l ++ ")"

def parts : Formula → List Thing
  | .item a b | .arithmetic _ a b | .replaced a b | .appended a b => [a, b]
  | .asText a => [a]

/-- The variable by which a formula is reached: the first one in it. -/
def parent? (f : Formula) : Option VarId := f.parts.findSome? Thing.var?

end Formula

inductive VarKind where
  | plain
  /-- The values that an unwound variable took. -/
  | collection
  | nodeMap
  | data (value : Thing)
  | derived (f : Formula) (parent : VarId)
  deriving Inhabited

namespace VarKind

def isCollection : VarKind → Bool
  | .collection => true
  | _ => false

def isData : VarKind → Bool
  | .data _ => true
  | _ => false

def parent? : VarKind → Option VarId
  | .derived _ p => some p
  | _ => none

/-- Whether its members are found under texts. -/
def isMapping : VarKind → Bool
  | .data t => t.entries?.isSome
  | _ => false

def name : VarKind → String
  | .plain => "CypherVariable"
  | .collection => "Collection"
  | .nodeMap => "NodeMap"
  | .data _ => "CypherData"
  | .derived (.item ..) _ => "CypherVariableItem"
  | .derived (.arithmetic ..) _ => "ArithmeticCypherVariable"
  | .derived (.replaced ..) _ => "CypherFindReplaceStr"
  | .derived (.appended ..) _ => "CypherAppendStr"
  | .derived (.asText ..) _ => "CypherVariableToString"

def shown : VarKind → String
  | .nodeMap => "<class 'weaveio.writequery.statements.NodeMap'>"
  | k => "<class 'weaveio.writequery.base." ++ k.name ++ "'>"

end VarKind

structure Variable where
  kind : VarKind
  /-- What its name begins with; that is no text if the variable was made so. -/
  hint : Value
  name : Option String := none
  deriving Inhabited

def hintOr (v : Value) : Value :=
  match v with
  | .none => .text "variable"
  | v => v

end SurveyGraph.Write
