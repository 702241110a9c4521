import SurveyGraph.Survey.Columns
import SurveyGraph.Survey.FibreTable
import SurveyGraph.Survey.FileFacts
import SurveyGraph.Survey.Observing
/-!
# Reading observations

What all files of an observation have in common: the surveys, the observing block with its exposure and run, and
the targets of the fibres. Each function adds statements to a program and gives what later statements use.
-/
namespace SurveyGraph.Survey

open Write

variable (t : Thing) (cls : String) {α : Type} (header : Header)

/-! ## Statements -/

/-- Goes through lists side by side. The place in the lists comes last if it is to be `numbered`. -/
def through (lists : List Thing) (body : List Thing → WriteM α) (numbered : Bool := false) : WriteM α := do
  let b ← openBlock (← lists.mapM toNodes) numbered true
  let x ← body (b.members.map .var)
  closeBlock b
  return x

def throughOne (list : Thing) (body : Thing → WriteM α) : WriteM α :=
  through [list] fun
    | [x] => body x
    | _ => refuse .failedCheck

def throughTwo (a b : Thing) (body : Thing → Thing → WriteM α) : WriteM α :=
  through [a, b] fun
    | [x, y] => body x y
    | _ => refuse .failedCheck

def gather (things : List Thing) : WriteM (List Thing) := do
  let vs ← collect (← things.mapM toNodes) true
  return vs.map .ofVar?

def gatherOne : WriteM Thing := do return (← gather [t]).headD .nothing

def item (key : String) : WriteM Thing := do return .var (← member t (.text key))

def itemAt (i : Nat) : WriteM Thing := do return .var (← member t (number i))

def itemsUpTo (n : Nat) : WriteM Thing := do return .list (← (List.range n).mapM (itemAt t))

def make (named : List (String × Thing)) (table : Option Thing := none) (columns : Columns.Sources := []) : WriteM Thing := do
  let columns := Thing.dict (columns.map (fun (n, c) => (.text n, .text c)))
  return .object (← create (← classNamed cls) { named, table, columns })

/-- How an instance is looked for: by its neighbours. -/
structure Neighbours where
  above : List Thing := []
  below : List Thing := []
  except : List Thing := []

def seek (named : List (String × Thing)) (n : Neighbours := {}) : WriteM Thing := do
  let given (xs : List Thing) : Thing := if xs.isEmpty then .nothing else .list xs
  return .object (← find (← classNamed cls) named (given n.below) (given n.above) (given n.except))

def nodeAs (node : Thing) : WriteM InstanceId := do ofNode (← classNamed cls) node

def productsOf (o : InstanceId) : WriteM (List String) := do
  let p ← get
  return (p.reg.get (p.getInstance o).cls).products

def fieldOf (name : String) : WriteM Thing := do
  match t with
  | .object o => return (((← get).getInstance o).fields.lookup name).getD .nothing
  | _ => return .nothing

/-! ## Surveys -/

structure SurveyLists where
  surveys : Thing
  programmes : Thing
  catalogues : Thing

def frameData (cs : List Column) (name : String) : WriteM Thing := do
  return .var (← newData (.plain (.frame cs)) (.text name))

def readSurveys (info : List Column) : WriteM SurveyLists := do
  let rows ← frameData (← Frame.groupUnion info ["targsrvy"] "targprog") "survey_rows"
  let survey ← throughOne rows fun row => do
    let survey ← make "Survey" [("name", ← item row "targsrvy")]
    let programme ← throughOne (← item row "targprog") fun name =>
      make "Targprog" [("survey", survey), ("name", name)]
    let _ ← gatherOne programme
    return survey
  let surveys ← gatherOne survey
  let byName := Thing.var (← groupBy surveys (.text "name"))
  let surveyOf (row : Thing) : WriteM Thing := do return .var (← member byName (← item row "targsrvy"))
  let rows ← frameData info "targcat_rows"
  let catalogue ← throughOne rows fun row => do
    let survey ← surveyOf row
    let programme ← throughOne (← item row "targprog") fun name =>
      seek "Targprog" [("survey", survey), ("name", name)]
    let programmes ← gatherOne programme
    make "Catalogue" [("name", ← item row "targcat"), ("survey", survey), ("targprogs", programmes)]
  let catalogues ← gatherOne catalogue
  let rows ← frameData (← Frame.explode info "targprog") "targprog_rows"
  let programme ← throughOne rows fun row => do
    let survey ← surveyOf row
    seek "Targprog" [("survey", survey), ("name", ← item row "targprog")]
  let programmes ← gatherOne programme
  return { surveys, programmes, catalogues }

/-! ## Observations -/

/-- What a file is an observation of. -/
structure Observation where
  block : Thing
  specification : Thing
  arm : Thing
  exposure : Thing
  run : Thing
  otherRun : Thing
  version : Thing
  system : Thing

def lettersOf (v : Value) : Except Fault String :=
  match v with
  | .text s => .ok s
  | _ => refuse .missingAttribute

def resolutionOf (grating : String) : String :=
  let stem := (grating.toList.reverse.dropWhile (fun c => c == '1' || c == '2' || c == '3')).reverse
  Text.replaceAll (Text.Letter.lower (String.ofList stem)) "res" ""

/-- The grating of an arm in the first setup with a mode and a resolution. -/
def gratingOf (mode resolution camera : String) : Except Fault Nat := do
  let fitting := setups.filter (fun s => s.mode == mode && s.resolution == resolution)
  let gratings ← match camera with
    | "red" => pure (fitting.map (·.redGrating))
    | "blue" => pure (fitting.map (·.blueGrating))
    | _ => refuse .missingKey
  match gratings with
  | g :: _ => return g
  | [] => refuse .outOfRange

/-- The file of the specification: the catalogue if that is one, else the input. -/
def specificationFile : Except Fault String := do
  match ← header.need "CAT-NAME" with
  | .text s =>
    if Text.contains s "xml" then return Text.replaceAll s "./" ""
    return (← header.need "INFILE").display
  | _ => refuse .badType

def readObservation (info : List Column) : WriteM Observation := do
  let lists ← readSurveys info
  let view : HeaderView := fun k => (header k).map .plain
  let plain (v : Value) : Thing := .plain v
  let runId ← (← header.need "RUN").toInt
  let camera := Text.dropStart (Text.Letter.lower (← lettersOf (← header.need "CAMERA"))) 5
  let started ← (← header.need "OBSTART").toFloat
  let resolution := resolutionOf (← header.need "VPH").display
  let title := (← header.need "OBTITLE").display
  let file ← specificationFile header
  let blockId ← (← header.need "OBID").toFloat
  let version ← make "CASU" [("id", plain (← header.need "CASUID"))]
  let system ← make "System" [("version", plain (← header.need "sysver"))]
  let program ← programOfCode (← classNamed "Progtemp") (← view.need "PROGTEMP")
  let mode ← fieldOf (← fieldOf (.object program) "instrument_configuration") "mode"
  let grating ← gratingOf (mode.text?.getD "") (Text.replaceAll (Text.Letter.lower resolution) "res" "") camera
  let arm ← make "ArmConfig" [("vph", number grating), ("resolution", .text resolution), ("camera", .text camera)]
  let conditions ← conditionsOfHeader (← classNamed "Obstemp") view
  let specification ← make "OBSpec"
    [("xml", .text file), ("title", .text title), ("obstemp", .object conditions), ("progtemp", .object program),
     ("catalogues", lists.catalogues), ("targprogs", lists.programmes), ("surveys", lists.surveys)]
  let block ← make "OB"
    [("id", plain (.float blockId)), ("mjd", plain (.float (Decimal.roundMillionth started))), ("obspec", specification)]
  let exposure := Thing.object (← exposureOfHeader (← classNamed "Exposure") block view)
  let same ← seek "Run" [("id", plain (.int runId))]
  let otherRun ← seek "Run" [] { above := [exposure], except := [same] }
  let run ← make "Run" [("id", plain (.int runId)), ("arm_config", arm), ("exposure", exposure), ("adjunct", otherRun)]
  return { block, specification, arm, exposure, run, otherRun, version, system }

/-! ## Fibres -/

/-- Creates the targets of fibres. The result has the targets and the rows that they come from. -/
def readTargets (fibres : List Column) (specification : Thing) : WriteM (Thing × Thing) := do
  let rows ← newData (.plain (.frame fibres))
  let pair ← throughOne (.var rows) fun row => do
    let fibre ← make "Fibre" [("id", ← item row "fibreid")]
    let survey ← seek "Survey" [("name", ← item row "targsrvy")]
    let catalogue ← seek "Catalogue" [("name", ← item row "targcat"), ("survey", survey)]
    let programme ← throughOne (← item row "targprog") fun name =>
      seek "Targprog" [("name", name), ("survey", survey)]
    let programmes ← gatherOne programme
    let target ← make "WeaveTarget" [("cname", ← item row "cname")]
    let wanted ← make "SurveyTarget" [("catalogue", catalogue), ("weave_target", target), ("targprogs", programmes)] row
    let pointed ← make "FibreTarget" [("survey_target", wanted), ("fibre", fibre), ("obspec", specification)] row
    return (pointed, row)
  match ← gather [pair.1, pair.2] with
  | [targets, rows] => return (targets, rows)
  | _ => refuse .failedCheck

/-- A file as far as all observations are read: the observation, its targets, and the rows of fibres. -/
structure ObservedFile where
  observation : Observation
  targets : Thing
  rows : Thing

def readObserved (f : FilePlace) (slice : Value) : WriteM ObservedFile := do
  let header := (← f.primary).view
  let fibres ← FibreTable.read (← f.units) slice
  let info ← FibreTable.surveys fibres
  let observation ← readObservation header info
  let (targets, rows) ← readTargets fibres observation.specification
  return { observation, targets, rows }

/-! ## Files and their units -/

def readUnits (f : FilePlace) (k : FileKind) (named : List (String × Thing)) : WriteM (Thing × List InstanceId) := do
  let below ← match f.path.relativeTo? FitsArchive.directory with
    | some p => pure p
    | none => refuse .badValue
  let file ← make k.className ([("fname", .text f.path.name), ("path", .text below.render)] ++ named)
  let units ← f.units
  if units.length != k.units.length then
    let cls := (← get).reg.get (← classNamed k.className)
    refuse (FileCause.unitCount cls.shown (k.units.map (·.1)) f.path.render (units.map (·.name)))
  let made ← ((List.range k.units.length).zip k.units).mapM fun (i, name, cls) => do
    let unit ← create (← classNamed cls) { named := [("file", file), ("extn", number i), ("name", .text name)] }
    for product in ← productsOf unit do
      attachProduct unit (.text product) (.object unit) .nothing .nothing
    return unit
  return (file, made)

def unitAt (units : List InstanceId) (i : Nat) : WriteM Thing :=
  match units[i]? with
  | some u => return .object u
  | none => refuse .missingKey

/-- Ties the products of an instance to units at given places, all at one index. -/
def attachProducts (o : InstanceId) (index : Thing) (units : List InstanceId) (places : List (String × Nat)) : WriteM Unit := do
  for product in ← productsOf o do
    match places.lookup product with
    | none => refuse .missingKey
    | some i => attachProduct o (.text product) (← unitAt units i) index .nothing

end SurveyGraph.Survey
