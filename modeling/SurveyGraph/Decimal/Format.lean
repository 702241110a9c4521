import SurveyGraph.Decimal.Shortest
/-!
# Writing and reading decimals

`Layout` holds the decisions of a decimal notation, and `Layout.render` writes a number in it. `plain` is
used wherever a number becomes text; `fixed` rounds to a whole and pads with zeros, as in file names.
-/
namespace SurveyGraph.Decimal

variable (width : Nat) (b : Binary)

/-- Which exponents are written positionally, and the least number of exponent digits. -/
structure Layout where
  leastPositional : Int
  mostPositional : Int
  exponentWidth : Nat
  deriving Repr

/-- Positional from `1e-4` to below `1e16`; exponents have a sign and two digits or more. -/
def plain : Layout := ⟨-4, 15, 2⟩

def padded (n : Nat) : String :=
  let s := toString n
  String.ofList (List.replicate (width - s.length) '0') ++ s

/-- The unsigned text of a decimal, with a point or an exponent. -/
def Layout.renderDigits (l : Layout) (d : Digits) : String :=
  let ds := (toString d.digits).toList
  let sci : Int := d.expo + ds.length - 1
  if l.leastPositional ≤ sci && sci ≤ l.mostPositional then
    if d.expo ≥ 0 then
      String.ofList (ds ++ List.replicate d.expo.toNat '0') ++ ".0"
    else if sci ≥ 0 then
      let whole := (sci + 1).toNat
      String.ofList (ds.take whole) ++ "." ++ String.ofList (ds.drop whole)
    else
      "0." ++ String.ofList (List.replicate (-sci - 1).toNat '0') ++ String.ofList ds
  else
    let body := match ds with
      | [] => "0"
      | [c] => c.toString
      | c :: rest => c.toString ++ "." ++ String.ofList rest
    let mark := if sci < 0 then "e-" else "e+"
    body ++ mark ++ padded l.exponentWidth sci.natAbs

def Layout.render (l : Layout) : Reading → String
  | .nan => "nan"
  | .infinite negative => if negative then "-inf" else "inf"
  | .zero negative => if negative then "-0.0" else "0.0"
  | .finite negative b => (if negative then "-" else "") ++ l.renderDigits b.shortest

def render (x : Float) : String := plain.render (read x)

def render32 (x : Float32) : String := plain.render (read32 x)

def roundHalfEven (num den : Nat) : Nat :=
  let q := num / den
  let r := 2 * (num % den)
  if r < den || (r == den && q % 2 == 0) then q else q + 1

def Binary.rounded : Nat :=
  let (n, d) := scale 2 b.expo b.mant 1
  roundHalfEven n d

def Binary.truncated : Nat :=
  let (n, d) := scale 2 b.expo b.mant 1
  n / d

/-- Pads with zeros between sign and digits up to `width` characters. -/
def zeroPadded (negative : Bool) (body : String) : String :=
  let sign := if negative then "-" else ""
  sign ++ String.ofList (List.replicate (width - sign.length - body.length) '0') ++ body

/-- A number rounded to a whole, halves to even, and padded to `width`. -/
def fixed (x : Float) : String :=
  match read x with
  | .nan => zeroPadded width false "nan"
  | .infinite negative => zeroPadded width negative "inf"
  | .zero negative => zeroPadded width negative "0"
  | .finite negative b => zeroPadded width negative (toString b.rounded)

def truncate? (x : Float) : Option Int :=
  match read x with
  | .nan | .infinite _ => none
  | .zero _ => some 0
  | .finite negative b => some (if negative then -(b.truncated : Int) else b.truncated)

def toFloat (negative : Bool) (digits : Nat) (expo : Int) : Float :=
  let x := if digits == 0 then 0.0
    else if expo > 400 then Float.ofScientific 1 false 400
    else if expo ≥ 0 then Float.ofScientific (digits * Nat.pow 10 expo.toNat) false 0
    else if expo < -1500 - (toString digits).length then 0.0
    else Float.ofScientific digits true (-expo).toNat
  if negative then -x else x

def ofInt (n : Int) : Float := .ofModel (.ofInt n)

end SurveyGraph.Decimal

namespace SurveyGraph.Decimal

/-! ## Rounding to places -/

def roundMagnitude (x : Float) : Float :=
  let low := x.floor
  let rest := x - low
  if rest < 0.5 then low
  else if rest > 0.5 then low + 1.0
  else if (low / 2.0).floor * 2.0 == low then low
  else low + 1.0

def roundWhole (x : Float) : Float := if x.toBits >>> 63 == 1 then -(roundMagnitude (-x)) else roundMagnitude x

def roundMillionth (x : Float) : Float := roundWhole (x * 1000000.0) / 1000000.0

end SurveyGraph.Decimal
