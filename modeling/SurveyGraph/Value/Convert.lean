import SurveyGraph.Value.Grid
import SurveyGraph.Fault
/-!
# Values as query parameters

The database takes numbers, truth values, texts, instants, lists of one type, and records with text keys.
`convert` brings a value into that form: missing numbers become infinity, missing texts become
`<MISSING>`, arrays become lists and frames become lists of records.
-/
namespace SurveyGraph.Value

inductive Target where
  | bool | int | float | text | instant | list | tuple | array | frame | dict | table
  deriving Repr, BEq, DecidableEq

/-- What the members of a list that are not missing are brought to, by their own type. -/
def target? : Value → Option Target
  | .none => some .float
  | .bool _ => some .bool
  | .int _ => some .int
  | .float _ => some .float
  | .text _ => some .text
  | .instant _ => some .instant
  | .list _ => some .list
  | .tuple _ => some .tuple
  | .array .. => some .array
  | .frame _ => some .frame
  | .dict _ => some .dict
  | .table _ => some .table
  | .scalar .bool _ => some .bool
  | .scalar (.int 64) _ | .scalar (.int 32) _ => some .int
  | .scalar (.float 64) _ | .scalar (.float 32) _ => some .float
  | .scalar .text _ => some .text
  | _ => Option.none

/-- Whether every number in the value is missing. Of the collections only arrays and frames are
looked into. -/
def isNull : Value → Bool
  | .float x => x.isNaN
  | .scalar _ (.float x) => x.isNaN
  | .array _ _ xs => xs.all isNan
  | .frame cs => cs.all (fun c => c.2.2.all isNan)
  | _ => false

/-- Infinity stands for a missing number. -/
def infinity : Float := 1.0 / 0.0

def missing : Option Target → Except Fault Value
  | Option.none | some .int | some .float | some .bool => .ok (.float infinity)
  | some .text => .ok (.text "<MISSING>")
  | some _ => refuse .missingKey

/-- The number written by digits of any script; single underscores may stand between digits. -/
def parseDigits : List Char → Option Nat
  | [] => Option.none
  | cs => go 0 false cs
where
  go (acc : Nat) (after : Bool) : List Char → Option Nat
    | [] => if after then some acc else Option.none
    | c :: rest =>
      match Text.Glyph.digit? c with
      | some d => go (acc * 10 + d) true rest
      | Option.none => if c == '_' && after then go acc false rest else Option.none

def parseInt? (s : String) : Option Int :=
  match (Text.Glyph.strip s).toList with
  | '-' :: ds => (parseDigits ds).map (fun n => -(n : Int))
  | '+' :: ds => (parseDigits ds).map (fun n => (n : Int))
  | ds => (parseDigits ds).map (fun n => (n : Int))

def parseFloat? (s : String) : Option Float :=
  let cs := (Text.Glyph.strip s).toList
  let (negative, cs) := match cs with
    | '-' :: r => (true, r)
    | '+' :: r => (false, r)
    | r => (false, r)
  let word := (String.ofList cs).toLower
  let signed (x : Float) : Float := if negative then -x else x
  if word == "nan" then some (signed (0.0 / 0.0))
  else if word == "inf" || word == "infinity" then some (signed infinity)
  else
    let isExp (c : Char) : Bool := c == 'e' || c == 'E'
    let mantissa := cs.takeWhile (!isExp ·)
    let whole := mantissa.takeWhile (· != '.')
    let fraction := (mantissa.dropWhile (· != '.')).drop 1
    let expo := match cs.dropWhile (!isExp ·) with
      | [] => some 0
      | _ :: '-' :: r => (parseDigits r).map (fun n => -(n : Int))
      | _ :: '+' :: r => (parseDigits r).map (fun n => (n : Int))
      | _ :: r => (parseDigits r).map (fun n => (n : Int))
    let digits (ds : List Char) : Option (Nat × Nat) :=
      if ds.isEmpty then some (0, 0)
      else (parseDigits ds).map (fun n => (n, (ds.filter (· != '_')).length))
    match digits whole, digits fraction, expo with
    | some (w, wl), some (f, fl), some e =>
      if wl + fl == 0 then Option.none
      else some (Decimal.toFloat negative (w * Nat.pow 10 fl + f) (e - fl))
    | _, _, _ => Option.none

/-- The value as a whole number: a floating point number is cut, a text is read. -/
def toInt : Value → Except Fault Int
  | .bool b | .scalar _ (.bool b) => .ok (if b then 1 else 0)
  | .int n | .scalar _ (.int n) => .ok n
  | .float x | .scalar _ (.float x) =>
    match Decimal.truncate? x with
    | some n => .ok n
    | Option.none => if x.isNaN then refuse .badValue else refuse .overflow
  | .text s | .scalar _ (.text s) =>
    match parseInt? s with
    | some n => .ok n
    | Option.none => refuse .badValue
  | .array _ _ [x] =>
    match x with
    | .bool b => .ok (if b then 1 else 0)
    | .int n => .ok n
    | .float x => match Decimal.truncate? x with
      | some n => .ok n
      | Option.none => refuse .badValue
    | _ => refuse .badType
  | _ => refuse .badType

def toFloat : Value → Except Fault Float
  | .bool b | .scalar _ (.bool b) => .ok (if b then 1.0 else 0.0)
  | .int n | .scalar _ (.int n) =>
    if n.natAbs ≥ Nat.pow 2 1024 then refuse .overflow else .ok (Decimal.ofInt n)
  | .float x | .scalar _ (.float x) => .ok x
  | .text s | .scalar _ (.text s) =>
    match parseFloat? s with
    | some x => .ok x
    | Option.none => refuse .badValue
  | _ => refuse .badType

/-- A leaf brought to the type of the list that it stands in. -/
def castTo : Target → Value → Except Fault Value
  | .bool, v => .ok (.bool v.truthy)
  | .int, v => (toInt v).map .int
  | .float, v => (toFloat v).map .float
  | .text, v => .ok (.text v.display)
  | .instant, _ => refuse .missingKey
  | _, _ => refuse .badType

def castAlone : Value → Except Fault Value
  | .none => refuse .badType
  | .instant t => .ok (.instant { t with micro := 0 })
  | .path s => .ok (.text s)
  | .scalar .bool v => .ok (.bool v.truthy)
  | .scalar (.int 64) v | .scalar (.int 32) v => .ok v
  | .scalar (.float 64) v | .scalar (.float 32) v => .ok v
  | .scalar .text v => .ok v
  | v => .ok v

structure Replace where
  nan : Bool := true
  none : Bool := true

/-- A leaf: replaced if it is missing, and brought to the type around it. -/
def convertLeaf (r : Replace) (around : Option Target) (v : Value) : Except Fault Value :=
  if !(r.none || r.nan) then .ok v
  else match v with
    | .none => if r.none then missing around else cast
    | v => if r.nan && v.isNan then missing around else cast
where
  cast : Except Fault Value :=
    match around with
    | some t => castTo t v
    | Option.none => castAlone v

/-- The one type of the members of a list that are not missing; text if there is none. -/
def commonTarget (xs : List Value) : Except Fault Target := do
  let ts ← (xs.filter (!isNull ·)).mapM fun x =>
    match target? x with
    | some t => .ok t
    | Option.none => refuse .missingKey
  match ts.eraseDups with
  | [] => .ok .text
  | [t] => .ok t
  | _ => refuse ValueCause.mixedList

/-- The rows of a frame as records, each with its row number first. -/
def frameRecords (cs : List (String × Cell × List Value)) : List Value :=
  let n := (cs.head?.map (·.2.2.length)).getD 0
  let indexName := if (cs.map (·.1)).contains "index" then "level_0" else "index"
  (List.range n).map fun (i : Nat) =>
    .dict ((.text indexName, .int i)
      :: cs.map (fun c => (.text c.1, (c.2.2[i]?).getD .none)))

mutual

/-- How many levels of collections a value has, an array counting one for each axis. -/
def depth : Value → Nat
  | .list xs | .tuple xs => depths xs + 1
  | .dict es => entryDepths es + 1
  | .array _ shape xs => depths xs + shape.length + 1
  | .frame cs => columnDepths cs + 3
  | _ => 1

def depths : List Value → Nat
  | [] => 0
  | x :: xs => max (depth x) (depths xs)

def entryDepths : List (Value × Value) → Nat
  | [] => 0
  | (k, v) :: es => max (max (depth k) (depth v)) (entryDepths es)

/-- The depth of the deepest cell. -/
def columnDepths : List (String × Cell × List Value) → Nat
  | [] => 0
  | (_, _, xs) :: cs => max (depths xs) (columnDepths cs)

end

/-- Conversion down to a number of levels. `around` is the type of the list around the value. -/
def convertWithin (r : Replace) : Nat → Option Target → Value → Except Fault Value
  | 0, _, _ => refuse .tooDeep
  | n + 1, around, v =>
    match v with
    | .list xs => do
      let t ← commonTarget xs
      let ys ← xs.mapM (convertWithin r n (some t))
      .ok (.list ys)
    | .tuple xs => do
      let t ← commonTarget xs
      let ys ← xs.mapM (convertWithin r n (some t))
      .ok (.tuple ys)
    | .dict es => do
      let fs ← es.mapM fun e => do
        let k ← convertWithin r n Option.none e.1
        let v ← convertWithin r n Option.none e.2
        .ok (Value.text k.display, v)
      .ok (.dict (fs.foldl (fun acc e => insert e.1 e.2 acc) []))
    | .frame cs => convertWithin r n Option.none (.list (frameRecords cs))
    | .table _ => refuse .missingAttribute
    | .array c s xs => convertWithin r n Option.none (Grid.mk c s xs).toNested
    | v => convertLeaf r around v

/-- The value in the form in which the database takes it. -/
def convert (v : Value) (r : Replace := {}) : Except Fault Value := convertWithin r (v.depth + 1) Option.none v

mutual

/-- The value as the database shell has it: keys unquoted, texts in double quotes, sequences as
lists. -/
def shellText : Value → String
  | .dict es => "\x7b" ++ Text.join ", " (shellEntries es) ++ "\x7d"
  | .list xs | .tuple xs | .set xs => "[" ++ Text.join ", " (shellTexts xs) ++ "]"
  | .array _ [_] xs => "[" ++ Text.join ", " (shellTexts xs) ++ "]"
  | .frame cs => "[" ++ Text.join ", " (cs.map (fun c => "\"" ++ c.1 ++ "\"")) ++ "]"
  | .text s => "\"" ++ s ++ "\""
  | .scalar .text (.text s) => "\"" ++ s ++ "\""
  | v => v.display

def shellTexts : List Value → List String
  | [] => []
  | x :: xs => shellText x :: shellTexts xs

def shellEntries : List (Value × Value) → List String
  | [] => []
  | (k, v) :: es =>
    ((match k with | .text s => s | k => shellText k) ++ ":" ++ shellText v) :: shellEntries es

end

inductive ShellStyle where
  | record
  | lines
  | options

/-- The parameters, in the form in which the database takes them, for use by hand. -/
def showParameters (params : Value) (style : ShellStyle) : Except Fault String := do
  let d ← params.convert
  match style, d with
  | .record, d => .ok (":params " ++ d.literal)
  | .lines, .dict es =>
    .ok (Text.join "\n" (es.map (fun e => ":param " ++ e.1.display ++ " => " ++ shellText e.2)))
  | .options, .dict es =>
    .ok (Text.join " " (es.map (fun e => "-P \"" ++ e.1.display ++ " => " ++ shellText e.2 ++ "\"")))
  | _, _ => refuse .badType

end SurveyGraph.Value
