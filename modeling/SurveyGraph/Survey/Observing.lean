import SurveyGraph.Survey.Schema
import SurveyGraph.Write.Instance
/-!
# Observing conditions and instrument setups

Codes in headers stand for how a target is observed. The first digit of a program code chooses a setup
with a grating for each arm; the letters of a template code are grades of what the sky has to be like.
Instances are created from such codes.
-/
namespace SurveyGraph.Survey

open Write

variable (cls : ClassId)

structure Setup where
  mode : String
  resolution : String
  redGrating : Nat
  blueGrating : Nat
  deriving Repr, BEq

/-- The setups of the instrument in order of their number, which counts from 1. -/
def setups : List Setup :=
  ["MOS", "LIFU", "mIFU"].flatMap fun mode =>
    [⟨mode, "low", 1, 1⟩, ⟨mode, "high", 2, 2⟩, ⟨mode, "high", 2, 3⟩]

def setup (number : Thing) : Except Fault Setup :=
  match number with
  | .plain (.bool _) => refuse .missingKey
  | .plain v =>
    match ((List.range setups.length).zip setups).find? (fun (i, _) => v.same (.int (i + 1))) with
    | some (_, s) => .ok s
    | none => refuse .missingKey
  | _ => refuse .missingKey

def classNamed (name : String) : WriteM ClassId := do
  match (← get).reg.find? name with
  | some c => return c
  | none => refuse .missingKey

/-- Whether a class is one of the survey's own under a name. -/
def isOwn (reg : Registry) (c : ClassId) (name : String) : Bool :=
  (reg.get c).name == name && (reg.get c).scope == objectScope

def number (n : Nat) : Thing := .plain (.int n)

def armsOf (s : Setup) : WriteM (InstanceId × InstanceId) := do
  let arm (grating : Nat) (camera : String) : WriteM InstanceId :=
    create cls { named := [("resolution", .text s.resolution), ("vph", number grating), ("camera", .text camera)] }
  let red ← arm s.redGrating "red"
  return (red, ← arm s.blueGrating "blue")

def armsOfCode (code : Thing) : WriteM (InstanceId × InstanceId) := do
  let first ← match code, code.sequence?, code.entries? with
    | .plain (.text s), _, _ =>
      match s.toList with
      | [] => refuse .outOfRange
      | c :: _ => pure (Thing.text c.toString)
    | .var _, _, _ | .object _, _, _ => do
      let v ← member code (number 0)
      pure (.var v)
    | _, some [], _ => refuse .outOfRange
    | _, some (x :: _), _ => pure x
    | _, none, some _ => refuse .missingKey
    | _, none, none => refuse .badType
  armsOf cls (← setup first)

/-- The program template of a code: its digits are the setup, the length, the exposure code and, in
that, the binning. What follows a point does not count. -/
def programOfCode (code : Thing) : WriteM InstanceId := do
  let code ← match code.text? with
    | some s => pure ((Text.cutAt '.' s).headD "")
    | none => refuse .missingAttribute
  let digits ← code.toList.mapM fun c =>
    match Text.Glyph.digit? c with
    | some d => pure d
    | none => refuse .badValue
  let digit (i : Nat) : WriteM Nat :=
    match digits[i]? with
    | some d => return d
    | none => refuse .outOfRange
  let s ← setup (number (← digit 0))
  let (red, blue) ← armsOf (← classNamed "ArmConfig") s
  let binning ← digit 3
  let config ← create (← classNamed "InstrumentConfiguration")
    { named := [("arm_configs", .tuple [.object red, .object blue]), ("mode", .text s.mode), ("binning", number binning)] }
  let exposure := String.ofList ((code.toList.drop 2).take 2)
  create cls
    { named := [("code", .text code), ("length", number (← digit 1)), ("exposure_code", .text exposure),
        ("instrument_configuration", .object config)] }

/-- Grades with what they stand for, in order of the alphabet. -/
def grades (values : List Value) : List (String × Value) :=
  ("ABCDEFGHIJKLMNOPQRSTUVWXYZ".toList.map (·.toString)).zip values

/-- Grades of seeing, in tenths of a second of arc from 0.7 on. -/
def seeings : List (String × Value) :=
  grades ([0.7, 0.8, 0.9, 1.0, 1.1, 1.2, 1.3, 1.4, 1.5, 1.6, 1.7, 1.8, 1.9, 2.0, 2.1, 2.2, 2.3, 2.4, 2.5, 2.6,
    2.7, 2.8, 2.9, 3.0].map .float)

def transparencies : List (String × Value) := grades ([0.8, 0.7, 0.6, 0.5, 0.4].map .float)

def elevations : List (String × Value) := grades ([50.28, 45.58, 41.81, 35.68, 33.75, 25.0].map .float)

def airmasses : List (String × Value) := grades ([1.3, 1.4, 1.5, 1.6, 1.8, 2.4].map .float)

def moons : List (String × Value) := grades ([90, 70, 50, 30, 0].map .int)

def brightnesses : List (String × Value) := grades ([21.7, 21.5, 21.0, 20.5, 19.6, 18.5, 17.7].map .float)

/-- The quantities with what their grades stand for: the one that is graded, and the table. -/
def conditions : List (String × String × List (String × Value)) :=
  [("maxseeing", "maxseeing", seeings), ("mintrans", "mintrans", transparencies),
   ("minelev", "minelev", elevations), ("maxairmass", "minelev", airmasses),
   ("minmoon", "minmoon", moons), ("minsky", "minsky", brightnesses)]

abbrev HeaderView := String → Option Thing

def HeaderView.need (header : HeaderView) (key : String) : Except Fault Thing :=
  match header key with
  | some t => .ok t
  | none => refuse .missingKey

def conditionsOfHeader (header : HeaderView) : WriteM InstanceId := do
  let factors := ((← get).reg.get cls).factors
  let names := factors.dropLast.map Text.Letter.lower
  let code ← header.need "OBSTEMP"
  let letters ← code.each
  let graded := (letters.zip names).foldl (fun acc (v, n) => setNamed (n ++ "_grade") v acc) []
  let data ← conditions.foldlM (fun acc (quantity, of, table) => do
    let grade ← required acc (of ++ "_grade")
    match grade.text?.bind (fun g => table.lookup g) with
    | some v => return setNamed quantity (Thing.plain v) acc
    | none => refuse .missingKey) graded
  create cls { named := ("code", code) :: data }

def exposureOfHeader (block : Thing) (header : HeaderView) : WriteM InstanceId := do
  let factors := ((← get).reg.get cls).factors
  let values := factors.map (fun f => (f, (header f).getD .nothing))
  let date ← match ← header.need "MJD-OBS" with
    | .plain v => v.toFloat
    | _ => refuse .badType
  let type ← header.need "obstype"
  match type.text? with
  | none => refuse .missingAttribute
  | some s =>
    let named := setNamed "mjd" (.plain (.float (Decimal.roundMillionth date))) values
    create cls { named := ("ob", block) :: setNamed "obstype" (.text (Text.Letter.lower s)) named }

end SurveyGraph.Survey
