import SurveyGraph.Store.Expr
import SurveyGraph.Survey.FileKind
import SurveyGraph.Value.Slice
/-!
# Batches

A file is read in batches: some rows of one of its parts at a time. `Batch.list` cuts the parts of a file into
batches. The statement `Batch.marking` notes in the database which rows of a part have been written.
-/
namespace SurveyGraph

structure Batch where
  slice : Value
  part : Part

namespace Batch

variable (v : Expr)

/-- The parts of a file that are chosen, each once and in order. Nothing and a text have no order. -/
def chosenParts (parts chosen : List Part) : Except Fault (List Part) :=
  let kept := (chosen.filter parts.contains).eraseDups
  if kept.length > 1 && kept.contains none then refuse .badType
  else .ok (kept.mergeSort (fun a b => !decide (b.getD "" < a.getD "")))

/-- The rows at which the batches of a part begin. The slice picks among them. -/
def starts (length size : Int) (slice : Value) : Except Fault (List Int) := do
  if size == 0 then refuse .badValue
  let all := Value.steps 0 length size
  match slice with
  | .none => return all
  | .slice a b c => Value.sliceList a b c all
  | _ => refuse .badType

def ofPart (length : Part → Except Fault Value) (size slice : Value) (part : Part) : Except Fault (List Batch) := do
  match Value.index? (← length part), Value.index? size with
  | some n, some size =>
    return (← starts n size slice).map (fun i => ⟨.slice (.int i) (.int (i + size)) .none, part⟩)
  | _, _ => refuse .badType

/-- The batches of the chosen parts. Without a size each part is one batch, and the slice picks its rows. -/
def list (parts : List Part) (length : Part → Except Fault Value) (size : Value) (chosen : List Part)
    (slice : Value) : Except Fault (List Batch) := do
  let chosen ← chosenParts parts chosen
  match size with
  | .none =>
    let rows := match slice with | .none => Value.slice .none .none .none | s => s
    return chosen.map (⟨rows, ·⟩)
  | size => return (← chosen.mapM (ofPart length size slice)).flatten

/-! ## Completion -/

open Store (Expr Update)

def oneBelow (e : Expr) : Expr := .binary .minus .none e (.int 1)

def nextPlace : Expr := .binary .plus .none (.var "x") (.int 1)

/-- Whether the number after the place `x` of a list is not one more than the number there. -/
def isCut : Expr :=
  .binary .unequal .around (.index v (.var "x")) (.binary .minus .before (.index v nextPlace) (.int 1))

def beginnings : Expr :=
  let places : Expr := .call .range [.int 0, .binary .minus .none (.call .size [v] .around) (.int 2)] .around
  .binary .plus .around (.list [.int 0] .around) (.eachWhere "x" places (isCut v) nextPlace)

/-- The interval of a list from a place to before another one, or to its end. -/
def interval : Expr :=
  let first : Expr := .index v (.index (.var "c") (.int 0))
  let second : Expr := .index (.var "c") (.int 1)
  .choose (.isNull second) (.list [first, .index v (.int (-1))] .none) (.list [first, .index v (oneBelow second)] .around)

/-- The intervals of a sorted list of numbers with a stop mark, and one for the mark. -/
def intervals : Expr := .each "c" (.call .pairs [beginnings v] .around) (interval v)

def numbers : Expr :=
  .call .flatten [.each "i" v (.call .range [.index (.var "i") (.int 0), .index (.var "i") (.int 1)] .none)] .around

def column (part what : String) : String := "_dbcompleted_" ++ part ++ "_" ++ what

def found : Expr := .var "done_intervals"

def whole : Expr := .list [.list [.int 0, oneBelow (.param "_check_total_length")] .around] .around

def shortened : Expr :=
  .choose (.binary .equal .around (.call .size [found] .around) (.int 0)) whole (.upTo found (.int (-1)))

def endsOf (k : Int) : Expr := .each "i" found (.index (.var "i") (.int k))

def areComplete : Expr :=
  .all "x" (.param "_check_parts") (.field "f" (.binary .plus .none
    (.binary .plus .none (.quoted "_dbcompleted_") (.var "x")) (.quoted "_complete")))

/-- The completed rows of a part with the rows to be added, sorted, and a stop mark. -/
def together : Expr :=
  let all : Expr := .binary .plus .around (.call .coalesce [.var "already_done", .list [] .around] .around)
    (.param "_check_completed")
  .binary .plus .none (.call .sort [.call .toSet [all] .around] .around) (.list [.int (-1)] .around)

/-- The statement that adds rows to the completed rows of a part. The part is complete when its rows
form one interval, and the file when all its parts are. -/
def marking (part : String) : Update :=
  { node := "f", label := "File", key := "fname", param := "_check_fname"
    clauses :=
      [.bind (.call .zip [.property "f" (column part "start"), .property "f" (column part "end")] .around) "already_intervals",
       .bind (numbers (.var "already_intervals")) "already_done",
       .bind together "done",
       .bind (intervals (.var "done")) "done_intervals",
       .bind shortened "done_intervals",
       .set (column part "start") (endsOf 0),
       .set (column part "end") (endsOf 1),
       .set (column part "complete") (.binary .equal .around found whole),
       .set "_dbcompleted_complete" areComplete] }

def rows (slice : Value) (total : Value) : Except Fault (List Value) := do
  match Value.index? total with
  | none => refuse .badType
  | some n =>
    match slice with
    | .slice a b c => return (← Value.slicePlaces a b c n.toNat).map .int
    | v =>
      match Value.index? v with
      | some i => if i < -n || i ≥ n then refuse .outOfRange else refuse .badType
      | none => refuse .badType

/-- The statement and the parameters that mark the rows of a slice as complete. -/
def markComplete (fname slice part total : Value) (parts : List Value) : Except Fault (String × List (String × Value)) := do
  let completed ← rows slice total
  return ((marking part.display).text,
    [("_check_fname", fname), ("_check_completed", .list completed),
     ("_check_parts", .list (parts.map (fun p => .text p.display))), ("_check_total_length", total)])

end Batch

end SurveyGraph
