import SurveyGraph.Value.Convert
/-!
# Arithmetic on values

Operators on plain values. Whole numbers stay whole, except in divisions; truth values count as numbers.
Texts and lists can be put together and compared.
-/
namespace SurveyGraph

inductive Operator where
  | add
  | sub
  | mul
  | div
  | eq
  | ne
  | lt
  | le
  | gt
  | ge
  | and
  | or
  | xor
  | addTo
  deriving Repr, BEq, DecidableEq

namespace Operator

def ofSymbol? : String → Option Operator
  | "+" => some .add
  | "-" => some .sub
  | "*" => some .mul
  | "/" => some .div
  | "==" => some .eq
  | "!=" => some .ne
  | "<" => some .lt
  | "<=" => some .le
  | ">" => some .gt
  | ">=" => some .ge
  | "&" => some .and
  | "|" => some .or
  | "^" => some .xor
  | "+=" => some .addTo
  | _ => none

def isComparison : Operator → Bool
  | .eq | .ne | .lt | .le | .gt | .ge => true
  | _ => false

/-- The comparison that says the same with its two sides exchanged. -/
def mirrored : Operator → Operator
  | .lt => .gt
  | .le => .ge
  | .gt => .lt
  | .ge => .le
  | op => op

end Operator

inductive UnaryOperator where
  | neg
  | abs
  | invert
  | ceil
  | floor
  | round (digits : String)
  deriving Repr, BEq, DecidableEq

namespace Value

variable (op : Operator)

def asFloat : Int ⊕ Float → Float
  | .inl n => Decimal.ofInt n
  | .inr x => x

def combineInts (a b : Int) : Except Fault Value :=
  match op with
  | .add | .addTo => .ok (.int (a + b))
  | .sub => .ok (.int (a - b))
  | .mul => .ok (.int (a * b))
  | .div => if b == 0 then refuse .dividedByZero
    else .ok (.float (Decimal.ofInt a / Decimal.ofInt b))
  | .eq => .ok (.bool (a == b))
  | .ne => .ok (.bool (a != b))
  | .lt => .ok (.bool (a < b))
  | .le => .ok (.bool (a ≤ b))
  | .gt => .ok (.bool (a > b))
  | .ge => .ok (.bool (a ≥ b))
  | .and => .ok (.int (bits (fun m n => m &&& n) a b))
  | .or => .ok (.int (bits (fun m n => m ||| n) a b))
  | .xor => .ok (.int (bits (fun m n => m ^^^ n) a b))
where
  /-- Combines the bits of two numbers; negative numbers have endless leading ones. -/
  bits (f : Nat → Nat → Nat) (a b : Int) : Int :=
    let width := a.natAbs.log2 + b.natAbs.log2 + 3
    let full : Int := Nat.pow 2 width
    let r : Int := f (a.emod full).toNat (b.emod full).toNat
    if r ≥ full / 2 then r - full else r

def combineFloats (a b : Float) : Except Fault Value :=
  match op with
  | .add | .addTo => .ok (.float (a + b))
  | .sub => .ok (.float (a - b))
  | .mul => .ok (.float (a * b))
  | .div => if b == 0 then refuse .dividedByZero else .ok (.float (a / b))
  | .eq => .ok (.bool (a == b))
  | .ne => .ok (.bool (a != b))
  | .lt => .ok (.bool (a < b))
  | .le => .ok (.bool (a ≤ b))
  | .gt => .ok (.bool (a > b))
  | .ge => .ok (.bool (a ≥ b))
  | .and | .or | .xor => refuse .badType

def combine (a b : Value) : Except Fault Value :=
  match op, a, b with
  | .and, .bool a, .bool b => .ok (.bool (a && b))
  | .or, .bool a, .bool b => .ok (.bool (a || b))
  | .xor, .bool a, .bool b => .ok (.bool (a != b))
  | op, .text s, .text t =>
    match op with
    | .add | .addTo => .ok (.text (s ++ t))
    | .eq => .ok (.bool (s == t))
    | .ne => .ok (.bool (s != t))
    | .lt => .ok (.bool (decide (s < t)))
    | .le => .ok (.bool (!decide (t < s)))
    | .gt => .ok (.bool (decide (t < s)))
    | .ge => .ok (.bool (!decide (s < t)))
    | _ => refuse .badType
  | .add, .list xs, .list ys | .addTo, .list xs, .list ys => .ok (.list (xs ++ ys))
  | .add, .tuple xs, .tuple ys | .addTo, .tuple xs, .tuple ys => .ok (.tuple (xs ++ ys))
  | op, a, b =>
    match number? a, number? b with
    | some (.inl m), some (.inl n) => combineInts op m n
    | some x, some y => combineFloats op (asFloat x) (asFloat y)
    | _, _ =>
      match op with
      | .eq => .ok (.bool (same a b))
      | .ne => .ok (.bool (!same a b))
      | _ => refuse .badType

/-- A whole number from a floating point number that has been rounded. -/
def wholeOf (x : Float) : Except Fault Value :=
  match Decimal.truncate? x with
  | some n => .ok (.int n)
  | Option.none => if x.isNaN then refuse .badValue else refuse .overflow

def applyUnary (op : UnaryOperator) (v : Value) : Except Fault Value :=
  match op, number? v with
  | .neg, some (.inl n) => .ok (.int (-n))
  | .neg, some (.inr x) => .ok (.float (-x))
  | .abs, some (.inl n) => .ok (.int n.natAbs)
  | .abs, some (.inr x) => .ok (.float x.abs)
  | .invert, some (.inl n) => .ok (.int (-n - 1))
  | .ceil, some (.inl n) | .floor, some (.inl n) => .ok (.int n)
  | .ceil, some (.inr x) => wholeOf x.ceil
  | .floor, some (.inr x) => wholeOf x.floor
  | .round _, some (.inl n) => .ok (.int n)
  | .round _, some (.inr x) => .ok (.float x)
  | _, _ => refuse .badType

end Value

end SurveyGraph
