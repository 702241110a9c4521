import SurveyGraph.Fits.Basic
import SurveyGraph.Survey.Batch
import SurveyGraph.Survey.FileName
/-!
# Facts about files

What is asked of a file before it is read: whether it is of a kind, how many rows its parts have, how the
observation was made, and which runs and fibres it comes from.
-/
namespace SurveyGraph

def FitsUnit.view (u : FitsUnit) : Header := u.keyword?

def Header.need (h : Header) (key : String) : Except Fault Value :=
  match h key with
  | some v => .ok v
  | none => refuse .missingKey

structure FilePlace where
  archive : FitsArchive
  fname : PathName

namespace FilePlace

variable (f : FilePlace) (k : FileKind)

def path : PathName := FitsArchive.directory.join f.fname

def units : Except Fault FitsFile := f.archive.open_ f.path

def primary : Except Fault FitsUnit := do (← f.units).unit (.int 0)

/-- The header of a file of products, and the version of the software that made them. -/
def productHeader : Except Fault (Header × String) := do
  let first ← f.primary
  match ← (← (← f.units).unit (.int 1)).keyword "APS_V" with
  | .text s => return (first.view, Text.Glyph.strip s)
  | _ => refuse .missingAttribute

/-- The sources of a file of products of a kind. The names of some products do not tell them. -/
def sources (header : Header) : Except Fault (List (FileKind × String)) :=
  if k == .supertargetProducts then refuse FileCause.notRead
  else FileName.sourcesOf header f.fname.name

/-- Whether the file is of a kind. Products are of the kind that belongs to their sources. -/
def isOf : Except Fault Bool := do
  let fits ← k.fitsName f.fname
  if !fits || !k.isProducts then return fits
  let (header, _) ← f.productHeader
  let sources ← f.sources k header
  return (← FileKind.ofSources (sources.map (·.1))) == k

/-- The place of the unit that tells how many rows a part of products has. -/
def countingUnit (part : Part) : Except Fault Int :=
  match part with
  | none | some "RR" => .ok 1
  | some "RVS" | some "FR" => .ok 2
  | some "GAND" | some "PPXF" => .ok 3
  | some _ => refuse .missingKey

def length (part : Part) : Except Fault Value := do
  if k == .any then refuse FileCause.notRead
  let file ← f.units
  let unit ← if k.isProducts then file.unit (.int (← countingUnit part)) else file.unit (.text "FIBTABLE")
  unit.keyword "NAXIS2"

def batches (size : Value) (chosen : Option (List Part)) (slice : Value) : Except Fault (List Batch) :=
  Batch.list k.parts (f.length k) size (chosen.getD k.parts) slice

def isMultiObject : Except Fault Bool := do
  let header := (← f.primary).view
  match header "OBSMODE" with
  | none => refuse (FileCause.noMode f.path.render)
  | some (.text mode) =>
    if Text.contains mode "IFU" then return false
    let type := (header "OBSTYPE").getD (.text "")
    return Value.same type (.text "TARGET") || Value.same type (.text "")
  | some _ => refuse .badType

/-- The run in a reference to a file. A note on how the file was formed is no reference. -/
def runOfReference (v : Value) : Except Fault (Option Int) :=
  match v with
  | .text s =>
    if Text.contains s "formed" then .ok none
    else match Text.cutAt '_' ((Text.cutAt '.' s).headD "") with
      | _ :: run :: _ => some <$> FileName.runOf run
      | _ => refuse .outOfRange
  | _ => refuse .badType

/-- The runs that a file was stacked from, listed by number or by the names of their files. -/
def stackedRuns : Except Fault (List Int) := do
  if !k.isStacked then refuse .missingAttribute
  let header := (← f.primary).header
  let under (start : String) : List Value := (header.filter (fun e => Text.startsWith e.1 start)).map (·.2)
  let runs ← (under "RUNS0").mapM Value.toInt
  if !runs.isEmpty then return runs
  return (← (under "PROV0").mapM runOfReference).filterMap id

def fibres : Except Fault (List Value) := do
  if !k.isProducts then refuse .missingAttribute
  let all ← ((← f.units).drop 1).mapM fun u =>
    match u.data with
    | .image _ => refuse .outOfRange
    | .table cs =>
      match cs.lookup "APS_ID" with
      | some g => if g.shape.length > 1 then refuse .badType else pure g.cells
      | none => pure []
  Frame.sortValues (all.flatten.foldl Frame.addNew [])

end FilePlace

end SurveyGraph
