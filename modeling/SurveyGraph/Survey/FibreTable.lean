import SurveyGraph.Fits.Basic
import SurveyGraph.Value.Arithmetic
/-!
# Tables of fibres

The table of fibres of a file has a row for each fibre: what it points at, and the survey, programmes and
catalogue of the target. `FibreTable.read` gives the rows in use, each once; `FibreTable.surveys` gives
their surveys and catalogues with all programmes.
-/
namespace SurveyGraph.FibreTable

variable (cs : List Column)

/-- The name of a column: in lower case, and the error of a magnitude is called after the magnitude. -/
def columnName (s : String) : String :=
  let s := Text.Letter.lower s
  if Text.startsWith s "emag" then Text.dropStart s 1 ++ "_error" else s

def setColumn (c : Column) : List Column → List Column
  | [] => [c]
  | d :: rest => if d.1 == c.1 then c :: rest else d :: setColumn c rest

/-- Numbers spectra from zero, if they are numbered. -/
def withPlaces : Except Fault (List Column) := do
  match cs.find? (·.1 == "nspec") with
  | none => return cs
  | some (_, cell, xs) =>
    let places ← xs.mapM (Value.combine .sub · (.int 1))
    return setColumn ("spec_index", if cell == .bool then .int 64 else cell, places) cs

def part (name : String) : Except Fault Column :=
  match cs.find? (·.1 == name) with
  | some c => .ok c
  | none => refuse .missingAttribute

/-- A column of texts. A column without cells keeps its type. -/
def asTexts (c : Column) : Column := if c.2.2.isEmpty then c else (c.1, .object, c.2.2.map (fun v => .text v.display))

/-- Cuts the texts of a column. Only a column of texts can be cut. -/
def cutTexts (sep : Char) (c : Column) : Except Fault (List (List String)) :=
  if c.2.1 != .object then refuse .missingAttribute
  else .ok ((asTexts c).2.2.map (fun v => Text.cutAt sep v.display))

/-- Whether two cells are the same; what is not a number is the same as itself. -/
def sameCell (a b : Value) : Bool := (a.isNan && b.isNan) || Value.same a b

def distinctRows : List Column :=
  let row (i : Nat) : List Value := cs.map (fun c => (c.2.2[i]?).getD .none)
  let same (a b : List Value) : Bool := (a.zip b).all (fun (x, y) => sameCell x y)
  Frame.takeRows cs ((List.range (Frame.height cs)).foldl (fun acc i =>
    if acc.any (fun j => same (row j) (row i)) then acc else acc ++ [i]) [])

def pickedRows (slice : Value) : Except Fault (List Nat) := do
  match slice with
  | .none => return List.range (Frame.height cs)
  | .slice a b c => return (← Value.slicePlaces a b c (Frame.height cs)).map Int.toNat
  | _ => refuse .badType

/-- The rows of a slice that have a fibre, each once. The programmes of a target are a list. -/
def read (file : FitsFile) (slice : Value) : Except Fault (List Column) := do
  let cs ← (← file.unit (.text "FIBTABLE")).table.toFrame
  let cs ← withPlaces (cs.map (fun (n, c) => (columnName n, c)))
  let cs := Frame.takeRows cs (← pickedRows cs slice)
  let fibres ← Frame.cells cs "fibreid"
  let used := ((List.range fibres.length).zip fibres).filter (fun (_, v) => !Frame.isMissing v)
  let cs := Frame.takeRows cs (used.map (·.1))
  let survey := asTexts (← part cs "targsrvy")
  let programmes ← cutTexts '|' (asTexts (← part cs "targprog"))
  let programme : Column := ("targprog", .object, programmes.map (fun ps => .tuple (ps.map .text)))
  let catalogue := asTexts (← part cs "targcat")
  if (← cutTexts ',' survey).any (·.length > 1) then refuse FileCause.severalSurveys
  return distinctRows (setColumn catalogue (setColumn programme (setColumn survey cs)))

/-- The surveys and catalogues of fibres, with the programmes of each pair. -/
def surveys (fibres : List Column) : Except Fault (List Column) := do
  let cs ← ["targsrvy", "targprog", "targcat"].mapM fun n =>
    match fibres.find? (·.1 == n) with
    | some c => pure c
    | none => refuse .missingKey
  Frame.groupUnion (distinctRows cs) ["targsrvy", "targcat"] "targprog"

end SurveyGraph.FibreTable
