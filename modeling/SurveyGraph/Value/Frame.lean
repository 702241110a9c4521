import SurveyGraph.Value.Grid
import SurveyGraph.Fault
import SurveyGraph.Text.Digest
/-!
# Frames

A frame has named columns of equal length. The cells of a column have one type: numbers keep their own,
missing numbers make a column of floating point numbers, and anything mixed is kept as it is.

`explode` gives every member of a list a row of its own; `groupUnion` puts the members back together.
-/
namespace SurveyGraph

/-- A column: its name, the type of its cells, and the cells. -/
abbrev Column := String × Cell × List Value

namespace Frame

variable (cs : List Column) (rows : List (List Value × Value)) (xs : List Value)

/-- The type of a column of the given cells. Missing cells fit to numbers only. -/
def columnCell : Cell :=
  let present := xs.filter (fun | .none => false | _ => true)
  let isInt : Value → Bool := fun v => match Grid.cellOf v with | .int _ | .uint _ => true | _ => false
  let isFloat : Value → Bool := fun v => match Grid.cellOf v with | .float _ => true | _ => false
  let isBool : Value → Bool := fun v => Grid.cellOf v == .bool
  if present.isEmpty then .object
  else if present.all isBool then (if present.length == xs.length then .bool else .object)
  else if present.all isInt then (if present.length == xs.length then .int 64 else .float 64)
  else if present.all (fun v => isInt v || isFloat v) then .float 64
  else .object

def nan : Value := .float (0.0 / 0.0)

def columnValue : Cell → Value → Value
  | .float _, .none => nan
  | .float b, v => Grid.castCell (.float b) v
  | .object, v => v
  | c, v => Grid.castCell c v

def column (name : String) (xs : List Value) : Column :=
  let c := columnCell xs
  (name, c, xs.map (columnValue c))

def ofColumns (cs : List (String × List Value)) : Value := .frame (cs.map (fun c => column c.1 c.2))

def height : Nat := (cs.head?.map (·.2.2.length)).getD 0

def cells (name : String) : Except Fault (List Value) :=
  match cs.find? (·.1 == name) with
  | some c => .ok c.2.2
  | none => refuse .missingKey

def takeRows (places : List Nat) : List Column :=
  cs.map (fun (n, c, xs) => (n, c, places.filterMap (xs[·]?)))

/-- A digest of the texts of all cells, row by row. -/
def digest : String :=
  Text.Digest.ofTexts ((List.range (height cs)).flatMap fun (i : Nat) =>
    cs.map (fun c => ((c.2.2[i]?).getD .none).display))

/-- The members of a cell; a cell that is no collection is its own only member. -/
def membersOf : Value → List Value
  | .list xs | .tuple xs => xs
  | v => [v]

def isMissing : Value → Bool
  | .none => true
  | v => v.isNan

/-- Rows as long as the longest of them. What they did not have is missing. -/
def widened (rows : List (List Value)) : List (List Value) :=
  let longest := rows.foldl (fun n l => max n l.length) 0
  rows.map fun l => l ++ List.replicate (longest - l.length) .none

/-- All that is not missing in some rows, each with the number of its row. -/
def stacked (rows : List (List Value)) : List (Nat × Value) :=
  ((List.range rows.length).zip rows).flatMap fun (i, l) => (l.filter (!isMissing ·)).map (i, ·)

/-- Gives every member of the cells of a column a row; the column comes first. Whole numbers beside missing ones
become floating point numbers. -/
def explode (name : String) : Except Fault (List Column) := do
  let lists := (← cells cs name).map membersOf
  let wide := widened lists
  let rows := stacked wide
  let values := rows.map (·.2)
  let cell := match columnCell values with
    | .int b => if wide.map List.length == lists.map List.length then .int b else .float 64
    | c => c
  return (name, cell, values.map (columnValue cell)) :: takeRows (cs.filter (·.1 != name)) (rows.map (·.1))

/-- Whether a value comes before another or is equal; only numbers and texts are ordered. -/
def valueLe (a b : Value) : Option Bool :=
  match a, b with
  | .text s, .text t => some (!(decide (t < s)))
  | .tuple _, _ | _, .tuple _ => none
  | a, b =>
    match a.number?, b.number? with
    | some (.inl m), some (.inl n) => some (m ≤ n)
    | some (.inl m), some (.inr y) => some (Decimal.ofInt m ≤ y)
    | some (.inr x), some (.inl n) => some (x ≤ Decimal.ofInt n)
    | some (.inr x), some (.inr y) => some (x ≤ y)
    | _, _ => none

def sortValues : Except Fault (List Value) :=
  let comparable := xs.all (fun a => xs.all (fun b => (valueLe a b).isSome))
  if xs.length > 1 && !comparable then refuse .badType
  else .ok (xs.mergeSort (fun a b => (valueLe a b).getD true))

/-- Whether one list of values comes before another, member by member. -/
def valuesLe : List Value → List Value → Bool
  | [], _ => true
  | _, [] => false
  | a :: as, b :: bs =>
    if Value.same a b then valuesLe as bs else (valueLe a b).getD true

def elements : Value → Except Fault (List Value)
  | .list xs | .tuple xs | .set xs => .ok xs
  | .text s => .ok (s.toList.map (fun c => .text c.toString))
  | _ => refuse .badType

def addNew (vs : List Value) (v : Value) : List Value := if vs.any (Value.same v) then vs else vs ++ [v]

/-- The keys and the cells of a column, row by row. Rows with a missing key are left out. -/
def keyedRows (keyCells : List (List Value)) (cells : List Value) (n : Nat) : List (List Value × Value) :=
  let cellAt (xs : List Value) (i : Nat) : Value := (xs[i]?).getD .none
  ((List.range n).map fun i => (keyCells.map (cellAt · i), cellAt cells i)).filter (fun r => !r.1.any isMissing)

/-- The keys of rows, each once and in order. -/
def groupKeys : List (List Value) :=
  (((rows.map (Value.tuple ·.1)).foldl addNew []).map membersOf).mergeSort valuesLe

/-- The sorted members of the cells of all rows with a key. -/
def groupCell (k : List Value) : Except Fault Value := do
  let parts ← ((rows.filter (Value.sameAll k ·.1)).map (·.2)).mapM elements
  return .tuple (← sortValues (parts.flatten.foldl addNew []))

/-- For each group of rows with equal `keys` the sorted members of all cells of a column. -/
def groupUnion (keys : List String) (name : String) : Except Fault (List Column) := do
  if keys.isEmpty && height cs != 0 then refuse .badValue
  let rows := keyedRows (← keys.mapM (cells cs)) (← cells cs name) (height cs)
  let groups := groupKeys rows
  let unions ← groups.mapM (groupCell rows)
  -- Two columns of the result cannot have one name.
  if !(keys ++ [name]).Nodup then refuse .badValue
  let keyColumns := keys.mapIdx (fun j k => column k (groups.map (fun g => (g[j]?).getD .none)))
  return keyColumns ++ [(name, .object, unions)]

end Frame

end SurveyGraph
