import SurveyGraph.Survey.ProductTable
import SurveyGraph.Survey.Reading
/-!
# Reading files of products

A file of products has the results of fits to spectra, part by part. A fit works on the spectra of a
fibre from all sources, each alone, combined, or both. For each row the ingested spectra, the model
spectra and the fit are created; then the units of the file, to which the spectra are tied.
-/
namespace SurveyGraph.Survey

open Write

variable (fit f : Fit) (k : FileKind) (cls : String)

/-! ## Parts -/

inductive Fit where
  | redrock
  | specfit
  | ferre
  | gandalf
  | ppxf
  deriving Repr, BEq, DecidableEq

namespace Fit

def ofPart? : String → Option Fit
  | "RR" => some .redrock
  | "RVS" => some .specfit
  | "FR" => some .ferre
  | "GAND" => some .gandalf
  | "PPXF" => some .ppxf
  | _ => none

def part : Fit → String
  | .redrock => "RR"
  | .specfit => "RVS"
  | .ferre => "FR"
  | .gandalf => "GAND"
  | .ppxf => "PPXF"

def className : Fit → String
  | .redrock => "Redrock"
  | .specfit => "RVSpecfit"
  | .ferre => "Ferre"
  | .gandalf => "Gandalf"
  | .ppxf => "PPXF"

def relationName : Fit → String
  | .redrock => "redrock"
  | .specfit => "rvspecfit"
  | .ferre => "ferre"
  | .gandalf => "gandalf"
  | .ppxf => "ppxf"

def places : Fit → Nat × Nat
  | .redrock => (1, 4)
  | .specfit | .ferre => (2, 5)
  | .gandalf | .ppxf => (3, 6)

/-- Whether the spectra of the sources are fitted one by one. -/
def isDisjoint : Fit → Bool
  | .redrock | .specfit | .ferre => true
  | .gandalf | .ppxf => false

def combinedModel : Fit → String
  | .gandalf => "GandalfModelSpectrum"
  | _ => "CombinedModelSpectrum"

def combinedEnding : String := if f.isDisjoint then "_C" else ""

def columns (names : List String) : Except Fault Columns.Sources := do
  let own := Columns.ofAcronyms names [Text.Letter.lower f.part]
  if f != .gandalf then return own
  let merge (a b : Columns.Sources) : Columns.Sources := b.foldl (fun acc (k, v) => setNamed k v acc) a
  let lines ← Columns.ofLines lineNames names
  return merge (merge own lines) (Columns.ofIndices indexNames names)

end Fit

def templateNames : List String :=
  ["galaxy", "qso", "star_a", "star_b", "star_cv", "star_f", "star_g", "star_k", "star_m", "star_wd"]

/-! ## Kinds of products -/

/-- The class of the products in a file, and the class of the spectra that they are made from. -/
def productClasses : FileKind → String × String
  | .singleProducts => ("L2Single", "L1SingleSpectrum")
  | .stackProducts => ("L2Stack", "L1StackSpectrum")
  | .superstackProducts => ("L2Superstack", "L1Spectrum")
  | .supertargetProducts => ("L2Supertarget", "L1SupertargetSpectrum")
  | _ => ("L2Product", "L1Spectrum")

def sourceKinds : FileKind → List FileKind
  | .singleProducts => [.single]
  | .stackProducts => [.stack]
  | .superstackProducts => [.single, .stack, .superstack]
  | .supertargetProducts => [.supertarget]
  | _ => [.spectra]

def readShared (f : FilePlace) (k : FileKind) : WriteM (List (String × Thing)) := do
  match k with
  | .singleProducts => do
    let (header, _) ← f.productHeader
    let runs ← FileName.runsInHeader header
    let run ← seek "Run" [("id", .plain (.int ((runs.map (·.2)).headD 0)))]
    return [("exposure", ← seek "Exposure" [] { below := [run] })]
  | .stackProducts => do
    let (header, _) ← f.productHeader
    let id ← (← header.need "OBID").toInt
    return [("ob", ← seek "OB" [("id", .plain (.int id))])]
  | .superstackProducts => do
    let (header, _) ← f.productHeader
    return [("obspec", ← seek "OBSpec" [("xml", .text (← header.need "cat-name").display)])]
  | _ => refuse FileCause.notRead

/-- The name under which several instances of a class are given. -/
def pluralOfClass : WriteM String := do
  let c ← classNamed cls
  return ((← get).reg.get c).pluralName

/-! ## Spectra of a row -/

/-- The spectra of a fit: of the sources, with models, the combined one with its model, the colours, and the
row. -/
structure FitSpectra where
  single : Thing := .nothing
  singleModels : Thing := .nothing
  combined : Thing := .nothing
  combinedModel : Thing := .nothing
  colours : Thing
  place : Thing

def FitSpectra.toList (s : FitSpectra) : List Thing :=
  [s.single, s.singleModels, s.combined, s.combinedModel, s.colours, s.place]

def FitSpectra.ofList : List Thing → WriteM FitSpectra
  | [single, singleModels, combined, combinedModel, colours, place] =>
    return { single, singleModels, combined, combinedModel, colours, place }
  | _ => refuse .failedCheck

structure LineSpectra where
  emission : Thing
  cleanModel : Thing
  cleanIngested : Thing
  place : Thing

structure ProductRow where
  row : Thing
  place : Thing
  sources : List String
  /-- The names of the columns of the spectra, if they have names. -/
  spectrumColumns : Except Fault (List String)

/-- Creates the spectra of a row, with the spectra of the sources and the targets of the fibre. -/
def readFitSpectra (r : ProductRow) : WriteM (FitSpectra × Thing × Thing) := do
  let isCombined ← if fit.isDisjoint then do
      let names ← r.spectrumColumns
      pure (names.any (Text.contains · "_C"))
    else pure true
  let fibre ← seek "Fibre" [("id", ← item r.row "aps_id")]
  let data ← newData (.plain (.list (r.sources.map .text)))
  let found ← throughOne (.var data) fun name => do
    let file ← seek "L1File" [("fname", name)]
    let path ← findBranch [file, .cls (← classNamed "L1Spectrum"), .cls (← classNamed "FibreTarget"), fibre]
    let (spectrum, target) ← match path with
      | [_, s, t, _] => pure (Thing.object s, Thing.object t)
      | _ => refuse .failedCheck
    let colour ← item (← seek "ArmConfig" [] { below := [spectrum] }) "colour_code"
    if !fit.isDisjoint then return [file, spectrum, target, colour]
    let single ← make "UncombinedIngestedSpectrum" [("l1_spectrum", spectrum)]
    let model ← make "UncombinedModelSpectrum" [("uncombined_ingested_spectrum", single)]
    return [file, spectrum, target, colour, single, model]
  let lists ← gather found
  let list (i : Nat) : Thing := lists.getD i .nothing
  let spectra : FitSpectra :=
    { single := list 4, singleModels := list 5, colours := list 3, place := r.place }
  if !isCombined then return (spectra, list 1, list 2)
  let combined ← make "CombinedIngestedSpectrum" [("l1_spectra", ← itemsUpTo (list 1) r.sources.length)]
  let combinedModel ← make fit.combinedModel [("combined_ingested_spectrum", combined)]
  return ({ spectra with combined, combinedModel }, list 1, list 2)

/-! ## Fits -/

/-- Creates the fit of a row. Only emission lines have spectra of their own. -/
def readFit (r : ProductRow) (s : FitSpectra) (sources : Thing) (columns : Columns.Sources)
    (grids : List (String × Thing)) : WriteM (Thing × Option LineSpectra) := do
  let combined := ("combined_model_spectrum", s.combinedModel)
  match fit with
  | .redrock => do
    let singles ← itemsUpTo s.singleModels r.sources.length
    let models := [("l1_spectra", sources), ("uncombined_model_spectra", singles), combined]
    let templates ← templateNames.mapM fun name => do
      let chi2 ← item r.row ("czz_chi2_" ++ name)
      match grids.lookup name with
      | none => refuse .missingKey
      | some grid =>
        return (name, ← make "Template" (models ++ [("redshift_array", grid), ("name", .text name), ("chi2_array", chi2)]))
    return (← make fit.className (models ++ templates) r.row columns, none)
  | .specfit | .ferre => do
    let singles ← itemsUpTo s.singleModels r.sources.length
    let named := [("l1_spectra", sources), ("uncombined_model_spectra", singles), combined]
    return (← make fit.className named r.row columns, none)
  | .ppxf => return (← make fit.className [("l1_spectra", sources), combined] r.row columns, none)
  | .gandalf => do
    let about := [("gandalf_model_spectrum", s.combinedModel)]
    let emission ← make "GandalfEmissionModelSpectrum" about
    let cleanModel ← make "GandalfCleanModelSpectrum" about
    let cleanIngested ← make "GandalfCleanIngestedSpectrum" about
    let made ← make fit.className
      [("l1_spectra", sources), ("model", s.combinedModel), ("clean_model", cleanModel),
       ("clean_observed", cleanIngested), ("emission_line_model", emission)] r.row columns
    return (made, some { emission, cleanModel, cleanIngested, place := s.place })

def readProduct (fit : Fit) (made sources targets : Thing) (count : Nat) (shared : List (String × Thing)) : WriteM Thing := do
  let (cls, spectra) := productClasses k
  let target ← itemAt targets 0
  let plural ← pluralOfClass spectra
  let product ← create (← classNamed cls) { named := [(plural, ← itemsUpTo sources count), ("fibre_target", target)] ++ shared }
  attachOptionals product [(fit.relationName, made)]
  return .object product

structure ProductLists where
  products : Thing
  spectra : FitSpectra
  lines : Option LineSpectra

def readRows (fit : Fit) (unit : FitsUnit) (columns : Columns.Sources) (table : Thing)
    (sources : List String) (grids shared : List (String × Thing)) : WriteM ProductLists := do
  let (product, made, s, lines) ← through [table] (fun
    | [row, place] => do
      let r : ProductRow := { row, place, sources, spectrumColumns := unit.columnNames }
      let (s, spectra, targets) ← readFitSpectra fit r
      let (made, lines) ← readFit fit r s spectra columns grids
      let product ← readProduct k fit made spectra targets sources.length shared
      return (product, made, s, lines)
    | _ => refuse .failedCheck) true
  let extra := match lines with
    | some l => [s.combinedModel, s.combined, l.emission, l.cleanModel, l.cleanIngested, l.place]
    | none => []
  let lists ← gather ([product, made] ++ s.toList ++ extra)
  let spectra ← FitSpectra.ofList ((lists.drop 2).take 6)
  let list (i : Nat) : Thing := lists.getD i .nothing
  return {
    products := list 0, spectra
    lines := lines.map (fun _ =>
      { emission := list 10, cleanModel := list 11, cleanIngested := list 12, place := list 13 }) }

/-! ## Products of spectra -/

def columnStem (product : String) : String :=
  match product with
  | "logwvl" => "loglam"
  | "wvl" => "lambda"
  | p => p

/-- Ties the spectra of single sources to their unit. The colour is in the name of the column. -/
def attachSingles (s : FitSpectra) (unit spectra : Thing) (cls : String) (stems : List (String × String)) : WriteM Unit := do
  let place ← through [spectra, s.colours, s.place] fun
    | [spectra, colours, place] => do
      let spectrum ← throughTwo spectra colours fun spectrum colour => do
        let o ← nodeAs cls spectrum
        for (product, stem) in stems do
          let start := Text.Letter.upper (stem ++ "_" ++ fit.part ++ "_")
          let column ← append (.text start) colour false
          attachProduct o (.text product) unit place (.var column)
        return spectrum
      let _ ← gatherOne spectrum
      return place
    | _ => refuse .failedCheck
  let _ ← gatherOne place

def attachCombined (s : FitSpectra) (unit spectra : Thing) (cls : String) (stems : List (String × String)) : WriteM Unit := do
  let spectrum ← throughTwo spectra s.place fun spectrum place => do
    let o ← nodeAs cls spectrum
    for (product, stem) in stems do
      let column := Text.Letter.upper (stem ++ "_" ++ fit.part ++ fit.combinedEnding)
      attachProduct o (.text product) unit place (.text column)
    return spectrum
  let _ ← gatherOne spectrum

/-- The products of a class with the names that columns have for them. -/
def stemsOf : WriteM (List (String × String)) := do
  let c ← classNamed cls
  return ((← get).reg.get c).products.map (fun p => (p, columnStem p))

def attachSpectraOf (s : FitSpectra) (unit : Thing) : WriteM Unit := do
  let model := [("flux", "model")]
  if !s.singleModels.isNothing then attachSingles fit s unit s.singleModels "UncombinedModelSpectrum" model
  if !s.single.isNothing then
    attachSingles fit s unit s.single "UncombinedIngestedSpectrum" (← stemsOf "UncombinedIngestedSpectrum")
  if !s.combinedModel.isNothing then attachCombined fit s unit s.combinedModel fit.combinedModel model
  if !s.combined.isNothing then
    attachCombined fit s unit s.combined "CombinedIngestedSpectrum" (← stemsOf "CombinedIngestedSpectrum")

def attachLines (s : LineSpectra) (unit : Thing) : WriteM Unit := do
  let place ← through [s.emission, s.cleanModel, s.cleanIngested, s.place] fun
    | [emission, cleanModel, cleanIngested, place] => do
      let emission ← nodeAs "GandalfEmissionModelSpectrum" emission
      let cleanModel ← nodeAs "GandalfCleanModelSpectrum" cleanModel
      let cleanIngested ← nodeAs "GandalfCleanIngestedSpectrum" cleanIngested
      for (o, column) in [(emission, "EMISSION_GAND"), (cleanModel, "MODEL_CLEAN_GAND"), (cleanIngested, "FLUX_CLEAN_GAND")] do
        attachProduct o (.text "flux") unit place (.text column)
      return place
    | _ => refuse .failedCheck
  let _ ← gatherOne place

/-! ## Files -/

def seekSources (sources : List (FileKind × String)) : WriteM (List (FileKind × Thing)) :=
  sources.mapM fun (k, name) => do return (k, ← seek k.className [("fname", .text name)])

def readProductUnits (f : FilePlace) (k : FileKind) (products version : Thing)
    (sources : List (FileKind × Thing)) (shared : List (String × Thing)) : WriteM (Thing × List InstanceId) := do
  for (source, _) in sources do
    if !(sourceKinds k).contains source then refuse .missingKey
  let files ← (sourceKinds k).mapM fun kind => do
    let own := (sources.filter (·.1 == kind)).map (·.2)
    return (← pluralOfClass kind.className, Thing.list own)
  let plural ← pluralOfClass (productClasses k).1
  readUnits f k ([("aps", version)] ++ shared ++ files ++ [(plural, products)])

def readTables (units : FitsFile) (slice : Value) : WriteM (List (FitsTable × Thing)) :=
  ((units.drop 1).take 3).mapM fun unit => do
    let table ← ProductTable.normalized (← unit.table.pickRows slice)
    return (table, .var (← newData (.plain (ProductTable.withoutGrids table).toValue)))

def readGrids (table : FitsTable) : WriteM (List (String × Thing)) :=
  (ProductTable.templates table).mapM fun name => do
    let grid ← ProductTable.gridOf table name
    let data ← newData (.plain grid.values)
    return (name, ← make "RedshiftArray" (("value", .var data) :: grid.identity.map (fun (n, v) => (n, .plain v))))

def readProducts (f : FilePlace) (k : FileKind) (slice : Value) (part : Part) : WriteM Unit := do
  let fit ← match part with
    | none => refuse (FileCause.partNeeded k.className)
    | some p =>
      match Fit.ofPart? p with
      | some fit => pure fit
      | none => refuse (FileCause.unknownPart p FileKind.productParts)
  let (header, version) ← f.productHeader
  let named ← f.sources k header
  let sources ← seekSources named
  let version ← make "APS" [("version", .text version)]
  let shared ← readShared f k
  let units ← f.units
  if named.length < 2 then refuse .failedCheck
  let tables ← readTables units slice
  let (tablePlace, spectraPlace) := fit.places
  let grids ← if fit == .redrock then
      match tables[0]? with
      | some (table, _) => readGrids table
      | none => refuse .missingKey
    else pure []
  let spectraUnit ← units.unit (.int spectraPlace)
  let columnNames := (← (← units.unit (.int tablePlace)).columnNames).map Text.Letter.lower
  let table ← match tables[tablePlace - 1]? with
    | some (_, data) => pure data
    | none => refuse .missingKey
  if (← spectraUnit.height) == 0 then refuse .badType
  let columns ← fit.columns columnNames
  let lists ← readRows k fit spectraUnit columns table (named.map (·.2)) grids shared
  let (_, made) ← readProductUnits f k lists.products version sources shared
  let unit ← unitAt made spectraPlace
  attachSpectraOf fit lists.spectra unit
  match lists.lines with
  | some l => attachLines l unit
  | none => pure ()

end SurveyGraph.Survey
