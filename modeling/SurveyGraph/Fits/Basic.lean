import SurveyGraph.Value.Convert
import SurveyGraph.Value.Slice
import SurveyGraph.Text.Letter
import SurveyGraph.Value.Frame
/-!
# FITS files

A FITS file is a list of units. A unit has a name, a header of keywords with values, and data: a table of
columns or an image. Names of units and keywords are the same in upper and lower case.
-/
namespace SurveyGraph

inductive UnitData where
  | table (columns : List (String × Grid))
  | image (g : Grid)
  deriving Inhabited

structure FitsUnit where
  name : String
  header : List (String × Value)
  data : UnitData
  deriving Inhabited

abbrev FitsFile := List FitsUnit

namespace Grid

/-- A row of an array, or the rows of a slice. A cell has no rows. -/
def pick (v : Value) (i : Value) : Except Fault Value := do
  let g : Grid ← match v with
    | .array c s cells => pure ⟨c, s, cells⟩
    | _ => refuse .outOfRange
  match g.shape, i with
  | n :: inner, .slice a b c =>
    let size := inner.foldl (· * ·) 1
    let kept ← Value.sliceList a b c (pieces size n g.cells)
    return .array g.cell (kept.length :: inner) kept.flatten
  | n :: _, i =>
    match Value.index? i with
    | some k =>
      let k := if k < 0 then k + n else k
      if k < 0 then refuse .outOfRange
      match g.rows[k.toNat]? with
      | some r => return r
      | none => refuse .outOfRange
    | none => refuse .outOfRange
  | [], _ => refuse .outOfRange

end Grid

namespace FitsUnit

def keyword? (u : FitsUnit) (k : String) : Option Value := u.header.lookup (Text.Letter.upper k)

def keyword (u : FitsUnit) (k : String) : Except Fault Value :=
  match u.keyword? k with
  | some v => .ok v
  | none => refuse .missingKey

/-- What stands at a place of the data and a key there. Columns have no rows of their own. -/
def at_ (u : FitsUnit) (i key : Value) : Except Fault Value := do
  match u.data with
  | .image g => Grid.pick (← Grid.pick g.toValue i) key
  | .table _ =>
    match i with
    | .slice .. => refuse .badType
    | _ => refuse .missingKey

end FitsUnit

namespace FitsFile

def unit (f : FitsFile) (i : Value) : Except Fault FitsUnit := do
  match i with
  | .text s =>
    match f.find? (fun u => Text.Letter.lower u.name == Text.Letter.lower s) with
    | some u => return u
    | none => refuse .missingKey
  | i =>
    let n ← i.toInt
    let n := if n < 0 then n + f.length else n
    if n < 0 then refuse .outOfRange
    match f[n.toNat]? with
    | some u => return u
    | none => refuse .outOfRange

end FitsFile

structure FitsArchive where
  files : List (String × FitsFile) := []

namespace FitsArchive

def directory : PathName := .ofText "/data"

/-- The file that a path leads to, by the last name of the path. -/
def open_ (a : FitsArchive) (path : PathName) : Except Fault FitsFile :=
  match a.files.lookup path.name with
  | some f => .ok f
  | none => refuse .missingFile

end FitsArchive

/-! ## Tables of files -/

abbrev FitsTable := List (String × Grid)

namespace Grid

/-- The rows of a slice. Without one the whole array becomes the only row. -/
def pickRows (g : Grid) (slice : Value) : Except Fault Grid := do
  match g.shape, slice with
  | _, .none => return { g with shape := 1 :: g.shape }
  | n :: inner, .slice a b c =>
    let kept ← Value.sliceList a b c (pieces (inner.foldl (· * ·) 1) n g.cells)
    return ⟨g.cell, kept.length :: inner, kept.flatten⟩
  | _, _ => refuse .outOfRange

def withoutRows (g : Grid) : Grid := ⟨g.cell, 0 :: g.shape.drop 1, []⟩

end Grid

namespace FitsUnit

variable (u : FitsUnit)

def table : FitsTable :=
  match u.data with
  | .table cs => cs
  | .image _ => []

def columnNames : Except Fault (List String) :=
  match u.data with
  | .table cs => .ok (cs.map (·.1))
  | .image _ => refuse .missingAttribute

def height : Except Fault Nat :=
  let rows (g : Grid) : Except Fault Nat :=
    match g.shape with
    | n :: _ => .ok n
    | [] => refuse .badType
  match u.data with
  | .table [] => .ok 0
  | .table (c :: _) => rows c.2
  | .image g => rows g

end FitsUnit

namespace FitsTable

variable (t : FitsTable)

def column (name : String) : Except Fault Grid :=
  match t.lookup name with
  | some g => .ok g
  | none => refuse .missingKey

def pickRows (slice : Value) : Except Fault FitsTable :=
  t.mapM (fun (n, g) => return (n, ← g.pickRows slice))

/-- The named columns. If there are no names, all columns without their rows. -/
def pickColumns (names : List String) : FitsTable :=
  if names.isEmpty then t.map (fun (n, g) => (n, g.withoutRows))
  else t.filter (fun c => names.contains c.1)

/-- Gives a column a new name and moves it to the end, in place of a column of that name. -/
def rename (old new : String) : Except Fault FitsTable := do
  let g ← t.column old
  let rest := t.filter (·.1 != old)
  if rest.any (·.1 == new) then return rest.map (fun c => if c.1 == new then (new, g) else c)
  return rest ++ [(new, g)]

def toValue : Value := .table (t.map (fun (n, g) => (n, g.toValue)))

/-- The table as a frame: equally long columns of single cells. -/
def toFrame : Except Fault (List Column) := do
  let cs ← t.mapM fun (n, g) =>
    match g.shape with
    | [_] => pure (n, (match g.cell with | .text => .object | c => c), g.cells)
    | _ => refuse .badValue
  if cs.any (fun (c : Column) => c.2.2.length != Frame.height cs) then refuse .badValue
  return cs

end FitsTable

end SurveyGraph
