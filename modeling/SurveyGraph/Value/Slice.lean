import SurveyGraph.Value
import SurveyGraph.Fault
/-!
# Slices

A slice picks places of a sequence: from a start to a stop, in steps. Negative places count from the
end, and places outside the sequence are moved to its ends.
-/
namespace SurveyGraph.Value

/-- The place that a value stands for; only whole numbers stand for one. -/
def index? : Value → Option Int
  | .int n => some n
  | .bool b => some (if b then 1 else 0)
  | .scalar _ (.int n) => some n
  | _ => Option.none

/-- One end of a slice, moved to lie between `low` and `high`. -/
def sliceEnd (v : Value) (length low high default : Int) : Except Fault Int :=
  match v with
  | .none => .ok default
  | v =>
    match index? v with
    | some n =>
      let n := if n < 0 then n + length else n
      .ok (max low (min high n))
    | Option.none => refuse .badType

def stepsUp (start stop step : Int) : List Int :=
  if step ≤ 0 then []
  else
    let count := (stop - start + step - 1).fdiv step
    (List.range count.toNat).map (fun (i : Nat) => start + step * i)

/-- The places from `start` to `stop` in steps of either sign, without `stop`. -/
def steps (start stop step : Int) : List Int :=
  if step > 0 then stepsUp start stop step
  else (stepsUp (-start) (-stop) (-step)).map (- ·)

def sliceStep (v : Value) : Except Fault Int :=
  match v with
  | .none => .ok 1
  | v =>
    match index? v with
    | some n => if n == 0 then refuse .badValue else .ok n
    | Option.none => refuse .badType

/-- The places that a slice picks from a sequence of the given length. -/
def slicePlaces (start stop step : Value) (length : Nat) : Except Fault (List Int) := do
  let by_ ← sliceStep step
  let n : Int := length
  let low : Int := if by_ > 0 then 0 else -1
  let high : Int := if by_ > 0 then n else n - 1
  let a ← sliceEnd start n low high (if by_ > 0 then low else high)
  let b ← sliceEnd stop n low high (if by_ > 0 then high else low)
  return steps a b by_

def sliceList {α : Type} (start stop step : Value) (xs : List α) : Except Fault (List α) := do
  let places ← slicePlaces start stop step xs.length
  return places.filterMap (fun i => xs[i.toNat]?)

/-- The pieces of a text or list of a length, the last of which may be shorter. -/
def chunks (v size : Value) : Except Fault (List Value) := do
  let (length, piece) : Nat × (Int → Int → Value) ← match v with
    | .list xs => pure (xs.length, fun a b => .list (cut xs a b))
    | .tuple xs => pure (xs.length, fun a b => .tuple (cut xs a b))
    | .text s => pure (s.length, fun a b => .text (String.ofList (cut s.toList a b)))
    | _ => refuse .badType
  match index? size with
  | Option.none => refuse .badType
  | some 0 => refuse .badValue
  | some n => return (steps 0 length n).map (fun a => piece a (a + n))
where
  cut {α : Type} (xs : List α) (a b : Int) : List α := (xs.drop a.toNat).take (b - a).toNat

end SurveyGraph.Value
