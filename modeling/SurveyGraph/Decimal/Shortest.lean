/-!
# Shortest decimals

A finite floating point number is a fraction `mant * 2 ^ expo`. Of all decimals that round back to
it, `shortest` picks one with the fewest digits, and of those the nearest one. Everything is done
in exact natural number arithmetic on the bits.
-/
namespace SurveyGraph.Decimal

/-- A positive fraction `mant * 2 ^ expo`. `narrowBelow`: the next smaller number is half a step
away, as at a power of two. -/
structure Binary where
  mant : Nat
  expo : Int
  narrowBelow : Bool
  deriving Repr, BEq

/-- What the bits of a floating point number say. -/
inductive Reading where
  | nan
  | infinite (negative : Bool)
  | zero (negative : Bool)
  | finite (negative : Bool) (b : Binary)
  deriving Repr, BEq

def readFields (expBits fracBits : Nat) (bits : Nat) : Reading :=
  let frac := bits % Nat.pow 2 fracBits
  let field := bits / Nat.pow 2 fracBits % Nat.pow 2 expBits
  let negative := bits / Nat.pow 2 (fracBits + expBits) % 2 == 1
  let bias : Int := (Nat.pow 2 (expBits - 1) : Int) - 1 + fracBits
  if field == Nat.pow 2 expBits - 1 then
    if frac == 0 then .infinite negative else .nan
  else if field == 0 then
    if frac == 0 then .zero negative else .finite negative ⟨frac, 1 - bias, false⟩
  else .finite negative ⟨Nat.pow 2 fracBits + frac, field - bias, frac == 0 && field > 1⟩

def read (x : Float) : Reading := readFields 11 52 x.toBits.toNat

def read32 (x : Float32) : Reading := readFields 8 23 x.toBits.toNat

structure Digits where
  digits : Nat
  expo : Int
  deriving Repr, BEq, DecidableEq

/-- `num * b ^ e` over `den * b ^ (-e)`, whatever the sign of `e`. -/
def scale (b : Nat) (e : Int) (num den : Nat) : Nat × Nat :=
  if e ≥ 0 then (num * Nat.pow b e.toNat, den) else (num, den * Nat.pow b (-e).toNat)

/-- The largest `k` with `10 ^ k ≤ num / den`. -/
def floorLog10 (num den : Nat) : Int :=
  let guess : Int := (((Nat.log2 num : Int) - Nat.log2 den) * 1233).fdiv 4096
  let fits (k : Int) : Bool :=
    let (a, b) := scale 10 k 1 1
    a * den ≤ num * b
  if fits (guess + 2) then guess + 2
  else if fits (guess + 1) then guess + 1
  else if fits guess then guess
  else if fits (guess - 1) then guess - 1
  else guess - 2

/-- Four times the fraction and the ends of the interval that rounds to it, over one denominator. -/
structure Interval where
  low : Nat
  mid : Nat
  high : Nat
  den : Nat
  closed : Bool

/-- The rounding interval; its ends belong to it when the mantissa is even. -/
def Binary.interval (b : Binary) : Interval :=
  let (s, d) := scale 2 (b.expo - 2) 1 1
  { low := (4 * b.mant - (if b.narrowBelow then 1 else 2)) * s
    mid := 4 * b.mant * s
    high := (4 * b.mant + 2) * s
    den := d
    closed := b.mant % 2 == 0 }

def Interval.contains (i : Interval) (n : Nat) (p : Int) : Bool :=
  let (a, b) := scale 10 p n 1
  if i.closed then i.low * b ≤ a * i.den && a * i.den ≤ i.high * b
  else i.low * b < a * i.den && a * i.den < i.high * b

/-- The better neighbour of the fraction on the multiples of `10 ^ p` that rounds back: the nearer
one, or the even one on a tie. -/
def Interval.onGrid (i : Interval) (p : Int) : Option Digits :=
  let (a, b) := scale 10 (-p) i.mid i.den
  let lower := a / b
  let rest := 2 * (a % b)
  let lowerFits := i.contains lower p
  let upperFits := i.contains (lower + 1) p
  match lowerFits, upperFits with
  | true, true =>
    if rest < b || (rest == b && lower % 2 == 0) then some ⟨lower, p⟩ else some ⟨lower + 1, p⟩
  | true, false => some ⟨lower, p⟩
  | false, true => some ⟨lower + 1, p⟩
  | false, false => none

/-- Tries grids of more and more digits, from exponent `p` on. -/
def Interval.search (i : Interval) : Nat → Int → Digits
  | 0, p => ⟨i.mid / i.den, p⟩
  | fuel + 1, p =>
    match i.onGrid p with
    | some d => d
    | none => i.search fuel (p - 1)

def Digits.strip : Nat → Digits → Digits
  | 0, d => d
  | fuel + 1, d =>
    if d.digits != 0 && d.digits % 10 == 0 then Digits.strip fuel ⟨d.digits / 10, d.expo + 1⟩ else d

/-- A shortest decimal that rounds back. Seventeen digits suffice. -/
def Binary.shortest (b : Binary) : Digits :=
  let i := b.interval
  (i.search 20 (floorLog10 i.mid i.den)).strip 20

end SurveyGraph.Decimal
