import SurveyGraph.Fits.Basic
/-!
# Results

The values of a result row are arrays with some cells hidden: those without a value, and numbers that are
not finite. Lists of different lengths become one array, hidden where a list has no cell.

The address of a product is a file, a unit, a place, a key and whether the header is meant. `Result.read`
reads what stands there.
-/
namespace SurveyGraph.Result

variable (v : Value) (g : Grid)

/-- A whole number as a place; a slice stays; all else stands for everything. -/
def toPlace : Except Fault Value :=
  match v with
  | .int _ | .bool _ | .float _ | .scalar (.float 64) _ => do return .int (← v.toInt)
  | .slice .. => .ok v
  | _ => .ok (.slice .none .none .none)

mutual

def hideMissing : Value → Value
  | .none => .masked
  | .list xs => .list (hideAll xs)
  | v => v

def hideAll : List Value → List Value
  | [] => []
  | x :: xs => hideMissing x :: hideAll xs

end

mutual

def fill (by_ : Value) : Value → Value
  | .masked => by_
  | .list xs => .list (fillAll by_ xs)
  | v => v

def fillAll (by_ : Value) : List Value → List Value
  | [] => []
  | x :: xs => fill by_ x :: fillAll by_ xs

end

def hiddenText : String := "--"

/-- The array of a value, with its hidden cells. Hidden cells count as floating point numbers. -/
def masked : Grid :=
  let v := hideMissing v
  let g := Grid.ofNested (fill (.float (0.0 / 0.0)) v)
  match g.cell with
  | .float _ => { g with cells := g.cells.map fun c =>
      match c with
      | .float x => if x.isFinite then c else .masked
      | c => c }
  | .text => Grid.ofNested (fill (.text hiddenText) v)
  | _ => g

def column : Value := Grid.nest g.shape (g.cells.map fun c => match c with | .masked => .none | c => c)

/-- What stands in a row: a single hidden cell is not a number, and in arrays it counts as zero. -/
def cell : Value :=
  match g.shape, g.cells with
  | [], [.masked] => .float (0.0 / 0.0)
  | [], [c] => if g.cell == .object then c else .scalar g.cell c
  | _, _ => .array g.cell g.shape (g.cells.map fun c => match c with | .masked => .float 0.0 | c => c)

/-! ## Ragged arrays -/

def rowArray : Grid :=
  match v with
  | .maskedArray c s cells => ⟨c, s, cells⟩
  | .masked => ⟨.float 64, [], [.masked]⟩
  | v => Grid.ofNested v

/-- The larger of two shapes: by each axis if they have as many, else the later one in order. -/
def largerShape (s t : List Nat) : List Nat :=
  if s.length == t.length then List.zipWith max s t
  else if t < s then s else t

def places : List Nat → List (List Nat)
  | [] => [[]]
  | n :: shape => (List.range n).flatMap (fun i => (places shape).map (i :: ·))

/-- One axis further to a cell. An axis of length one is the same at every place. -/
def along (i : Nat) (axis : Nat × Nat) : Nat := i * axis.1 + (if axis.1 == 1 then 0 else axis.2)

/-- The cell of an array at a place of a larger array that it is spread over. -/
def spreadCell (place : List Nat) : Option Value :=
  let own := place.drop (place.length - g.shape.length)
  g.cells[(g.shape.zip own).foldl along 0]?

def spreads (shape target : List Nat) : Bool :=
  shape.length ≤ target.length && (shape.zip (target.drop (target.length - shape.length))).all (fun (n, m) => n == m || n == 1)

def within (place shape : List Nat) : Bool := (place.zip shape).all (fun (i, n) => i < n)

/-- The cells of an array in the corner of a larger one. Cells that the array does not have are hidden. -/
def corner (type : Cell) (whole : List Nat) (g : Grid) : Except Fault (List Value) := do
  if g.shape.length > whole.length then refuse .outOfRange
  let limits := List.zipWith min g.shape whole ++ whole.drop g.shape.length
  if !spreads g.shape limits then refuse .badValue
  return (places whole).map fun p =>
    if within p limits then
      match spreadCell g p with
      | some .masked => .masked
      | some c => Grid.castCell type c
      | none => .masked
    else .masked

/-- The narrowest cell type that holds the cells of all arrays, unless all cells of an array are hidden. -/
def commonType (arrays : List Grid) : Cell :=
  Grid.widest ((arrays.filter (fun g => g.cells.isEmpty || !g.cells.all (· matches .masked))).map (·.cell))

/-- Arrays of different shapes as the rows of one array. Arrays of one shape are left as they are. -/
def ragged (rows : List Value) : Except Fault (Option Grid) := do
  let arrays := rows.map rowArray
  let type := commonType arrays
  match arrays.map (·.shape) with
  | [] => refuse .badValue
  | s :: rest =>
    if rest.all (· == s) then return none
    let even := rest.all (·.length == s.length)
    let whole := if even then rest.foldl largerShape s
      else rest.foldl (fun acc t => if acc < t then t else acc) s
    return some ⟨type, arrays.length :: whole, (← arrays.mapM (corner type whole)).flatten⟩

/-! ## Products -/

structure Address where
  file : Value
  unit : Value := .none
  place : Value := .none
  key : Value := .none
  header : Value := .bool false

def Address.ofList? : List Value → Option Address
  | [f] => some ⟨f, .none, .none, .none, .bool false⟩
  | [f, u] => some ⟨f, u, .none, .none, .bool false⟩
  | [f, u, p] => some ⟨f, u, p, .none, .bool false⟩
  | [f, u, p, k] => some ⟨f, u, p, k, .bool false⟩
  | [f, u, p, k, h] => some ⟨f, u, p, k, h⟩
  | _ => none

def Address.read (a : Address) (f : FitsFile) : Except Fault Value := do
  let u ← f.unit (match a.unit with | .none => .int 0 | v => v)
  let i ← toPlace a.place
  let key ← match a.key with
    | .text s => pure (Value.text s)
    | v => toPlace v
  if a.header.truthy then
    match key with
    | .text s => u.keyword s
    | .slice .. => refuse .badType
    | _ => refuse .missingKey
  else u.at_ i key

end SurveyGraph.Result
