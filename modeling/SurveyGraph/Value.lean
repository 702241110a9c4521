import SurveyGraph.Decimal.Format
import SurveyGraph.Text.Glyph
import SurveyGraph.Text.Basic
/-!
# Values

The values that headers, tables and query parameters hold. Numbers keep apart whether they are whole,
records keep the order of their entries, and arrays keep the type of their cells.

`Value.display` is the text of a value and `Value.literal` its text inside a list or record, with quotes.
-/
namespace SurveyGraph

structure Instant where
  year : Nat
  month : Nat
  day : Nat
  hour : Nat := 0
  minute : Nat := 0
  second : Nat := 0
  micro : Nat := 0
  deriving Repr, BEq, DecidableEq

/-- The type of the cells of an array. Numbers have a width in bits. -/
inductive Cell where
  | bool
  | int (bits : Nat)
  | uint (bits : Nat)
  | float (bits : Nat)
  | text
  | object
  deriving Repr, BEq, DecidableEq, Inhabited

def Cell.letter : Cell → String
  | .bool => "b"
  | .int _ => "i"
  | .uint _ => "u"
  | .float _ => "f"
  | .text => "U"
  | .object => "O"

inductive Value where
  | none
  | bool (b : Bool)
  | int (n : Int)
  | float (x : Float)
  | text (s : String)
  | list (xs : List Value)
  | tuple (xs : List Value)
  | set (xs : List Value)
  /-- Entries in the order in which their keys were first given. -/
  | dict (entries : List (Value × Value))
  | slice (start stop step : Value)
  | path (s : String)
  | instant (t : Instant)
  | scalar (cell : Cell) (v : Value)
  /-- Cells in row-major order. -/
  | array (cell : Cell) (shape : List Nat) (cells : List Value)
  | masked
  /-- An array some of whose cells are hidden. -/
  | maskedArray (cell : Cell) (shape : List Nat) (cells : List Value)
  /-- Named columns of arrays. -/
  | table (columns : List (String × Value))
  /-- Named columns with rows that are counted from 0. -/
  | frame (columns : List (String × Cell × List Value))
  | cls (name : String)
  /-- Anything else, by the name of its type. -/
  | other (typeName : String)
  deriving Repr, Inhabited

namespace Instant

/-- The text of an instant; `sep` stands between date and time. A zero fraction is left out. -/
def render (sep : String) (t : Instant) : String :=
  let p := Decimal.padded
  p 4 t.year ++ "-" ++ p 2 t.month ++ "-" ++ p 2 t.day ++ sep ++ p 2 t.hour ++ ":" ++ p 2 t.minute
    ++ ":" ++ p 2 t.second ++ (if t.micro == 0 then "" else "." ++ p 6 t.micro)

end Instant

namespace Value

def boolText (b : Bool) : String := if b then "True" else "False"

mutual

def literal : Value → String
  | .none => "None"
  | .bool b => boolText b
  | .int n => toString n
  | .float x => Decimal.render x
  | .text s => Text.quoted s
  | .list xs => "[" ++ Text.join ", " (literals xs) ++ "]"
  | .tuple [x] => "(" ++ literal x ++ ",)"
  | .tuple xs => "(" ++ Text.join ", " (literals xs) ++ ")"
  | .set [] => "set()"
  | .set xs => "\x7b" ++ Text.join ", " (literals xs) ++ "\x7d"
  | .dict es => "\x7b" ++ Text.join ", " (entryLiterals es) ++ "\x7d"
  | .slice a b c => "slice(" ++ literal a ++ ", " ++ literal b ++ ", " ++ literal c ++ ")"
  | .path s => "PosixPath(" ++ Text.quoted s ++ ")"
  | .instant t =>
    let tail := if t.micro != 0 then [t.second, t.micro] else if t.second != 0 then [t.second] else []
    "datetime.datetime("
      ++ Text.join ", " (([t.year, t.month, t.day, t.hour, t.minute] ++ tail).map toString) ++ ")"
  | .scalar (.float 32) (.float x) => Decimal.render32 x.toFloat32
  | .scalar _ v => literal v
  | .array _ _ xs => "array([" ++ Text.join ", " (literals xs) ++ "])"
  | .maskedArray _ _ xs => "masked_array([" ++ Text.join ", " (literals xs) ++ "])"
  | .masked => "masked"
  | .table cs => "<Table columns=[" ++ Text.join ", " (cs.map (fun c => Text.quoted c.1)) ++ "]>"
  | .frame cs => "<Frame columns=[" ++ Text.join ", " (cs.map (fun c => Text.quoted c.1)) ++ "]>"
  | .cls n => "<class '" ++ n ++ "'>"
  | .other _ => "<object>"

def literals : List Value → List String
  | [] => []
  | x :: xs => literal x :: literals xs

def entryLiterals : List (Value × Value) → List String
  | [] => []
  | (k, v) :: es => (literal k ++ ": " ++ literal v) :: entryLiterals es

end

def display : Value → String
  | .text s => s
  | .path s => s
  | .instant t => t.render " "
  | .masked => "--"
  | .scalar _ (.text s) => s
  | v => literal v

/-- The number that a value stands for, if it is one; truth values count as 0 and 1. -/
def number? : Value → Option (Int ⊕ Float)
  | .bool b => some (.inl (if b then 1 else 0))
  | .int n => some (.inl n)
  | .float x => some (.inr x)
  | .scalar _ (.bool b) => some (.inl (if b then 1 else 0))
  | .scalar _ (.int n) => some (.inl n)
  | .scalar _ (.float x) => some (.inr x)
  | _ => Option.none

def sameNumber (n : Int) (x : Float) : Bool :=
  match Decimal.read x with
  | .zero _ => n == 0
  | .finite negative b =>
    let (a, d) := Decimal.scale 2 b.expo b.mant 1
    (n < 0) == negative && n.natAbs * d == a
  | _ => false

def numbersEqual : Int ⊕ Float → Int ⊕ Float → Bool
  | .inl a, .inl b => a == b
  | .inl a, .inr y => sameNumber a y
  | .inr x, .inl b => sameNumber b x
  | .inr x, .inr y => x == y

mutual

/-- Whether two values are equal. Numbers are compared by value; a list is never equal to a
tuple. -/
def same : Value → Value → Bool
  | .none, .none => true
  | .text s, .text t => s == t
  | .scalar _ (.text s), .text t => s == t
  | .text s, .scalar _ (.text t) => s == t
  | .list xs, .list ys => sameAll xs ys
  | .tuple xs, .tuple ys => sameAll xs ys
  | .set xs, .set ys => xs.length == ys.length && sameMembers xs ys
  | .dict es, .dict fs => es.length == fs.length && sameEntries es fs
  | .slice a b c, .slice a' b' c' => same a a' && same b b' && same c c'
  | .path s, .path t => s == t
  | .instant t, .instant u => t == u
  | .cls n, .cls m => n == m
  | a, b =>
    match number? a, number? b with
    | some x, some y => numbersEqual x y
    | _, _ => false

def sameAll : List Value → List Value → Bool
  | [], [] => true
  | x :: xs, y :: ys => same x y && sameAll xs ys
  | _, _ => false

def sameMembers : List Value → List Value → Bool
  | [], _ => true
  | x :: xs, ys => ys.any (fun y => same x y) && sameMembers xs ys

def sameEntries : List (Value × Value) → List (Value × Value) → Bool
  | [], _ => true
  | (k, v) :: es, fs => fs.any (fun f => same k f.1 && same v f.2) && sameEntries es fs

end

def lookup (k : Value) (es : List (Value × Value)) : Option Value := (es.find? (fun e => same e.1 k)).map (·.2)

def insert (k v : Value) : List (Value × Value) → List (Value × Value)
  | [] => [(k, v)]
  | (k', v') :: es => if same k' k then (k', v) :: es else (k', v') :: insert k v es

def truthy : Value → Bool
  | .none => false
  | .bool b => b
  | .int n => n != 0
  | .float x => !(x == 0.0)
  | .text s => !s.isEmpty
  | .list xs | .tuple xs | .set xs => !xs.isEmpty
  | .dict es => !es.isEmpty
  | .scalar _ v => truthy v
  | .array _ _ [x] => truthy x
  | .table cs => (cs.head?.map (fun c => match c.2 with | .array _ _ xs => !xs.isEmpty | _ => true)).getD false
  | _ => true

def isNan : Value → Bool
  | .float x => x.isNaN
  | .scalar _ (.float x) => x.isNaN
  | _ => false

end Value

end SurveyGraph
