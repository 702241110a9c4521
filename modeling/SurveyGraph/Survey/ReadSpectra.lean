import SurveyGraph.Survey.ReadProducts
/-!
# Reading files of spectra

Raw files have one spectrum of all fibres; files of single exposures and of stacks have one for each
fibre, with and without the light of the sky. What comes from the other arm is looked for and tied to
what is read.
-/
namespace SurveyGraph.Survey

open Write

variable (f : FilePlace)

def readRaw (slice : Value) : WriteM Thing := do
  let o := (← readObserved f slice).observation
  let other ← seek "RawSpectrum" [] { above := [o.otherRun] }
  let otherFile ← seek "RawFile" [] { below := [other] }
  let spectrum ← create (← classNamed "RawSpectrum") { named := [("run", o.run), ("adjunct", other)] }
  let (file, units) ← readUnits f .raw
    [("raw_spectrum", .object spectrum), ("casu", o.version), ("system", o.system), ("adjunct", otherFile)]
  for product in ← productsOf spectrum do
    match [("counts1", 1), ("counts2", 2)].lookup product with
    | none => refuse .missingKey
    | some i => attachProduct spectrum (.text product) (← unitAt units i) .nothing .nothing
  return file

/-! ## Wavelengths -/

/-- The places from zero up to a size. A size that is not whole counts up to it. -/
def placesUpTo (size : Value) : Except Fault (List Value) :=
  match size.number? with
  | some (.inl n) => .ok ((List.range n.toNat).map (fun (i : Nat) => .int i))
  | some (.inr x) =>
    match Decimal.truncate? x.ceil with
    | some n => .ok ((List.range n.toNat).map (fun (i : Nat) => .float (Decimal.ofInt i)))
    | none => refuse .badValue
  | none => refuse .badType

def evenGrid (step start size : Value) : Except Fault Grid := do
  let cells ← (← placesUpTo size).mapM fun i => do
    Value.combine .add (← Value.combine .mul i step) start
  let isWhole (v : Value) : Bool := match v.number? with | some (.inl _) => true | _ => false
  let cell := if [step, start, size].all isWhole then Cell.int 64 else .float 64
  return ⟨cell, [cells.length], cells.map (Grid.castCell cell)⟩

def readWavelengths : WriteM Thing := do
  let unit ← (← f.units).unit (.int 1)
  let step ← unit.keyword "cd1_1"
  let start ← unit.keyword "crval1"
  let size ← unit.keyword "naxis1"
  let grid ← evenGrid step start size
  make "WavelengthHolder"
    [("wvl", .plain grid.toValue), ("cd1_1", .plain step), ("crval1", .plain start), ("naxis1", .plain size)]

def readSpectraUnits (k : FileKind) (named : List (String × Thing)) : WriteM (Thing × List InstanceId) := do
  readUnits f k (named ++ [("wavelength_holder", ← readWavelengths f)])

/-! ## Spectra of fibres -/

def spectrumUnits : List (String × Nat) := [("flux", 1), ("ivar", 2), ("sensfunc", 5)]

/-- Where the products of a spectrum are before the light of the sky is taken off. -/
def skyUnits : List (String × Nat) := [("flux", 3), ("ivar", 4), ("sensfunc", 5)]

/-- Spectra with and without the light of the sky, and the rows that they come from. -/
structure SpectrumLists where
  spectra : Thing
  skies : Thing
  rows : Thing

def gatherSpectra (found : Thing × Thing × Thing) : WriteM SpectrumLists := do
  match ← gather [found.1, found.2.1, found.2.2] with
  | [spectra, skies, rows] => return { spectra, skies, rows }
  | _ => refuse .failedCheck

def attachSpectra (lists : SpectrumLists) (cls : String) (units : List InstanceId) : WriteM Unit := do
  let spectrum ← through [lists.spectra, lists.skies, lists.rows] fun
    | [spectrum, sky, row] => do
      let own ← nodeAs cls spectrum
      let sky ← nodeAs "NoSS" sky
      attachProducts own (← item row "spec_index") units spectrumUnits
      attachProducts sky (← item row "spec_index") units skyUnits
      return spectrum
    | _ => refuse .failedCheck
  let _ ← gatherOne spectrum

def readSingle (slice : Value) : WriteM Thing := do
  let observed ← readObserved f slice
  let o := observed.observation
  if f.fname.name == "" then refuse .badValue
  let rawName := Text.replaceAll f.fname.name "single_" "r"
  let otherRaw ← seek "RawSpectrum" [] { above := [o.otherRun] }
  let otherRawFile ← seek "RawFile" [] { above := [otherRaw] }
  let otherFile ← seek "L1SingleFile" [] { above := [otherRawFile] }
  let raw ← make "RawSpectrum" [("run", o.run)]
  let rawFile ← make "RawFile"
    [("fname", .text rawName), ("casu", o.version), ("system", o.system), ("raw_spectrum", raw),
     ("adjunct", otherRawFile), ("path", .text "<MISSING>")]
  let wavelengths ← readWavelengths f
  let found ← throughTwo observed.targets observed.rows fun target row => do
    let other ← seek "L1SingleSpectrum" [("nspec", ← item row "nspec"), ("raw_spectrum", otherRaw), ("fibre_target", target)]
    let otherSky ← seek "NoSS" [] { above := [other] }
    let spectrum ← make "L1SingleSpectrum"
      [("nspec", ← item row "nspec"), ("raw_spectrum", raw), ("fibre_target", target),
       ("wavelength_holder", wavelengths), ("arm_config", o.arm), ("adjunct", other)] row
    let sky ← make "NoSS" [("adjunct", otherSky), ("l1_spectrum", spectrum)]
    return (spectrum, sky, row)
  let lists ← gatherSpectra found
  let (file, units) ← readSpectraUnits f .single
    [("raw_file", rawFile), ("adjunct", otherFile), ("l1single_spectra", lists.spectra), ("casu", o.version),
     ("system", o.system)]
  attachSpectra lists "L1SingleSpectrum" units
  return file

/-! ## Stacks -/

def stackedSpectrum? : FileKind → Option String
  | .stack => some "L1StackSpectrum"
  | .superstack => some "L1SuperstackSpectrum"
  | .supertarget => some "L1SupertargetSpectrum"
  | _ => none

/-- What a file of stacks is related to, apart from the other arm: what its exposures share, and its
spectra. -/
def stackRelatives (k : FileKind) (o : Observation) (singles spectra : Thing) : List (String × Thing) :=
  let shared := if k == .superstack then ("obspec", o.specification) else ("ob", o.block)
  [("casu", o.version), ("system", o.system), ("l1single_files", singles), shared, ("arm_config", o.arm),
   ("l1stack_spectra", spectra)]

/-- Reads a file of stacks. The files that it is stacked from have to be there. -/
def readStack (k : FileKind) (slice : Value) : WriteM Thing := do
  let observed ← readObserved f slice
  let o := observed.observation
  let names ← (← f.stackedRuns k).mapM (fun run => FileKind.single.nameOfRun (.int run))
  if names.length < 2 then refuse .failedCheck
  let data ← newData (.plain (.list (names.map .text)))
  let pair ← throughOne (.var data) fun name => do
    let single ← seek "L1SingleFile" [("fname", name)]
    let other ← seek "L1SingleFile" [] { above := [single], except := [single] }
    return [single, other]
  let lists ← gather pair
  let singles := lists.headD .nothing
  let otherFile ← seek k.className [] { above := lists.drop 1 }
  let wavelengths ← readWavelengths f
  let cls ← match stackedSpectrum? k with
    | some c => pure c
    | none => refuse .missingAttribute
  let found ← throughTwo observed.targets observed.rows fun target row => do
    let other ← seek cls [("nspec", ← item row "nspec")] { above := [target], below := [otherFile] }
    let otherSky ← seek "NoSS" [] { above := [other] }
    let single ← throughOne singles fun file => do
      seek "L1SingleSpectrum" [("nspec", ← item row "nspec")] { above := [target], below := [file] }
    let spectra ← gatherOne single
    let members ← itemsUpTo spectra names.length
    let spectrum ← make cls
      [("l1single_spectra", members), ("ob", o.block), ("arm_config", o.arm), ("fibre_target", target),
       ("nspec", ← item row "nspec"), ("adjunct", other), ("wavelength_holder", wavelengths)] row
    let sky ← make "NoSS" [("adjunct", otherSky), ("l1_spectrum", spectrum)]
    return (spectrum, sky, row)
  let lists ← gatherSpectra found
  let (file, units) ← readSpectraUnits f k (stackRelatives k o singles lists.spectra ++ [("adjunct", otherFile)])
  attachSpectra lists cls units
  return file

/-- Adds the contents of a file to a program. The result stands for the file. -/
def readContents (k : FileKind) (slice : Value) (part : Part) : WriteM Thing := do
  match k with
  | .any | .fibred | .spectra | .supertarget => refuse FileCause.notRead
  | .raw => readRaw f slice
  | .single => readSingle f slice
  | .stacked | .stack | .superstack => readStack f k slice
  | .products | .singleProducts | .stackProducts | .superstackProducts | .supertargetProducts => do
    readProducts f k slice part
    return .nothing

end SurveyGraph.Survey
