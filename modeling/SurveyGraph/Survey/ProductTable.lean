import SurveyGraph.Fits.Basic
import SurveyGraph.Value.Arithmetic
/-!
# Tables of products

A table of products has a row for each fibre. Its column names are taken in lower case. Columns of redshift
grids are the same in every row, so they are kept apart from the rows; what is left can be sent row by row.
-/
namespace SurveyGraph.ProductTable

variable (t : FitsTable)

def longestCell : Nat := 5000

def isShort (g : Grid) : Bool :=
  match g.shape with
  | [_, n] => n ≤ longestCell
  | _ => true

/-- The table with short cells only and names in lower case, unless it has none but longer cells. -/
def normalized : Except Fault FitsTable :=
  let kept := t.pickColumns ((t.filter (fun c => isShort c.2)).map (·.1))
  (t.map (·.1)).foldlM (fun acc n => acc.rename n (Text.Letter.lower n)) kept

def isRedshiftGrid (name : String) : Bool := Text.contains name "czz_" && !Text.contains name "chi2"

def withoutGrids : FitsTable := t.pickColumns ((t.map (·.1)).filter (!isRedshiftGrid ·))

/-- An even grid of redshifts: all of them, the first, the second, and the step between these. -/
structure RedshiftGrid where
  values : Value
  start : Value
  second : Value
  step : Value

/-- What a grid is known by. Its second redshift stands for its end. -/
def RedshiftGrid.identity (g : RedshiftGrid) : List (String × Value) :=
  [("start", g.start), ("end", g.second), ("step", g.step)]

/-- The difference of two cells, or of two arrays cell by cell. -/
def difference (a b : Value) : Except Fault Value :=
  let minus (c : Cell) (x y : Value) : Except Fault Value :=
    if c == .bool then refuse .badType else Value.combine .sub x y
  match a, b with
  | .array c s xs, .array _ _ ys => do return .array c s (← (xs.zip ys).mapM (fun (x, y) => minus c x y))
  | .scalar c x, .scalar _ y => do return .scalar c (← minus c x y)
  | a, b => minus .object a b

/-- The grid of redshifts that an array is. It needs two members. -/
def RedshiftGrid.ofValues (zs : Value) : Except Fault RedshiftGrid := do
  let start ← Grid.pick zs (.int 0)
  let second ← Grid.pick zs (.int 1)
  return { values := zs, start, second, step := ← difference second start }

def templates : List String :=
  (((t.map (·.1)).filter isRedshiftGrid).map (Text.dropStart · 4)).eraseDups.mergeSort (fun a b => !decide (b < a))

def gridOf (template : String) : Except Fault RedshiftGrid := do
  RedshiftGrid.ofValues (← Grid.pick (← t.column ("czz_" ++ template)).toValue (.int 0))

end SurveyGraph.ProductTable
