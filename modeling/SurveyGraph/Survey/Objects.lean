import SurveyGraph.Schema.Order
/-!
# Files and observed objects

The classes that describe files and how a target is observed: instrument and observing conditions,
targets and catalogues, observing blocks, exposures and runs.
-/
namespace SurveyGraph.Survey

open Declaration

def objectScope : String := "weaveio.opr3.hierarchy"

def one (name : String) : RelationDecl := { kind := .oneOf, node := .text name }
def maybe (name : String) : RelationDecl := { kind := .optional, node := .text name }
def many (name : String) (lo hi : Nat) : RelationDecl :=
  { kind := .multiple, node := .text name, min := some (.int lo), max := some (.int hi) }

/-- A relation that goes to one instance from either end. -/
def oneToOne (r : RelationDecl) : MemberDecl := .rel { r with one2one := true }

/-- The instance that belongs to the same exposure in the other arm. -/
def adjunct : MemberDecl := .rel { maybe "self" with one2one := true, idname := some "adjunct" }

/-- The description of a class: its lines are indented, between two line breaks. -/
def described (lines : List String) : Option String := some (Text.join "\n    " ("" :: lines ++ [""]))

def declaredIn (scope : String) (ds : List Declaration) : List Declaration := ds.map ({ · with scope })

def measured (names : List String) : List String := lendFactors ["value", "err"] names ""

def lineFactors : List String := "aon" :: measured ["flux", "redshift", "sigma", "ebmv", "amp"]

def fileClasses : List Declaration := declaredIn "weaveio.file"
  [
    { name := "File", idname := some (.text "fname"), isTemplate := true, factors := some ["path"]
      preparation := .fileNames },
    { name := "HDU", isTemplate := true, identity := some (some ["file", "extn", "name"])
      factors := some ["extn", "name"], products := some ["header", "data"], parents := some [.name "File"] },
    { name := "BaseDataHDU", bases := ["HDU"], isTemplate := true },
    { name := "PrimaryHDU", bases := ["HDU"], products := some ["header"] },
    { name := "TableHDU", bases := ["BaseDataHDU"] },
    { name := "BinaryHDU", bases := ["BaseDataHDU"] }
  ]

def objectClasses : List Declaration := declaredIn objectScope
  [
    { name := "ArrayHolder", isTemplate := true },
    { name := "WavelengthHolder", bases := ["ArrayHolder"], singularName := some "wavelength_holder"
      identity := some (some ["cd1_1", "crval1", "naxis1"])
      factors := some ["wvl", "cd1_1", "crval1", "naxis1"] },
    { name := "BaseMeasurement", isTemplate := true, factors := some ["value", "err"]
      indexes := some [some "value"] },
    { name := "Measurement", bases := ["BaseMeasurement"] },
    { name := "Magnitude", bases := ["BaseMeasurement"] },
    { name := "Author", isTemplate := true },
    { name := "CASU", bases := ["Author"]
      doc := described
        ["CASU is the pipeline that will produce the L1 and Raw data files and spectra.",
          "The version of CASU that produces these files may change without warning and files may be duplicated.",
          "This CASU object breaks that potential degeneracy."]
      idname := some (.text "id") },
    { name := "APS", bases := ["Author"]
      doc := described
        ["APS is the pipeline that will produce the L2 data files and model spectra.",
          "The version of APS that produces these files may change without warning and files may be duplicated.",
          "This APS object breaks that potential degeneracy."]
      idname := some (.text "version") },
    { name := "System", bases := ["Author"], idname := some (.text "version") },
    { name := "ArmConfig"
      doc := described
        ["An ArmConfig is the entire configuration of one arm of the WEAVE spectrograph.",
          "The ArmConfig is therefore a subset of the ProgTemp code and there are multiple ways to identify",
          "one:",
          "- resolution can be \"high\" or \"low\"",
          "- vph is the number of the grating [1=lowres, 2=highres, 3=highres(green)]",
          "- camera can be 'red' or 'blue'",
          "- colour can be 'red', 'blue', or 'green'"]
      identity := some (some ["resolution", "vph", "camera"])
      factors := some ["resolution", "vph", "camera", "colour", "colour_code"], preparation := .armColour },
    { name := "Obstemp"
      doc := described
        ["Whilst ProgTemp deals with \"how\" a target is observed, OBSTEMP deals with \"when\" a target is observed,",
          "namely setting the observational constraints required to optimally extract scientific information from the observation.",
          "The ProgTemp is made up of maxseeing, mintrans (transparency), minelev (elevation), minmoon, minsky and",
          "each combination is given a valid code, where each letter corresponds to one of those settings."]
      idname := some (.text "code")
      factors := some ["maxseeing", "mintrans", "minelev", "minmoon", "minsky", "maxairmass", "maxseeing_grade",
         "mintrans_grade", "minelev_grade", "minmoon_grade", "minsky_grade"] },
    { name := "Survey"
      doc := described ["A Survey is one of the official Surveys of WEAVE. WL is one of them."]
      idname := some (.text "name") },
    { name := "WeaveTarget"
      doc := described
        ["A WeaveTarget is the disambiguated target to which all targets submitted by surveys belong.",
          "The \"cname\" of a weavetarget will be formed of the ra and dec of the submitted target."]
      idname := some (.text "cname") },
    { name := "Fibre"
      doc := described ["A WEAVE spectrograph fibre"]
      idname := some (.text "id") },
    { name := "Targprog"
      doc := described ["Sub-programme name within a survey (TARGPROG)"]
      singularName := some "targprog", identity := some (some ["name", "survey"]), factors := some ["name"]
      parents := some [.name "Survey"] },
    { name := "Catalogue"
      doc := described ["A catalogue which was submitted by a survey."]
      identity := some (some ["name", "survey"]), factors := some ["name"]
      parents := some [.name "Survey", .rel (many "Targprog" 1 600)] },
    { name := "SurveyTarget"
      doc := described
        ["A target which was submitted by a subprogramme contained within a catalogue. This is likely",
          "the target you want if you not linking observations between subprogrammes.",
          "targname is optional for MOS observations"]
      identity := some (some ["weave_target", "catalogue", "targid", "targra", "targdec", "targuse"])
      factors := some (["targid", "targname", "targra", "targdec", "epoch", "targuse", "targclass", "targpmra",
         "targpdec", "targparal", "targprio"] ++ lendFactors ["value", "err"] ["g", "r", "i", "gg", "bp", "rp"] "mag_")
      parents := some [.name "Catalogue", .name "WeaveTarget", .rel (many "Targprog" 1 5)] },
    { name := "InstrumentConfiguration"
      doc := described
        ["The WEAVE instrument can be configured into MOS/LIFU/mIFU modes and the spectral binning in pixels.",
          "InstrumentConfiguration holds the mode, binning, and is linked to an ArmConfig."]
      identity := some (some ["arm_configs", "mode", "binning"]), factors := some ["mode", "binning"]
      parents := some [.rel (many "ArmConfig" 2 2)] },
    { name := "Progtemp"
      doc := described
        ["The ProgTemp code is an integral part of describing a WEAVE target.",
          "This parameter encodes the requested instrument configuration, OB length, exposure time,",
          "spectral binning, cloning requirements and probabilistic connection between these clones.",
          "The ProgTemp is therefore formed from instrumentconfiguration, length, and an exposure_code."]
      identity := some (some ["instrument_configuration", "length", "exposure_code", "code"])
      factors := some ["length", "exposure_code", "code"], parents := some [.name "InstrumentConfiguration"] },
    { name := "OBSpec"
      doc := described
        ["When an xml observation specification is submitted to WEAVE, an OBSpec is created containing all",
          "the information about when and how to observe.",
          "When actually observing them, an \"OB\" is created with its own unique obid."]
      singularName := some "obspec", idname := some (.text "xml"), factors := some ["title"]
      parents := some
        [.name "Obstemp",
         .name "Progtemp",
         .rel (many "Catalogue" 1 20),
         .rel (many "Targprog" 1 20),
         .rel (many "Survey" 1 10)] },
    { name := "FibreTarget"
      doc := described
        ["A fibretarget is the combination of fibre and surveytarget which is created after submission when",
          "the fibres are assigned to a target.",
          "This object describes where the fibre is placed and what its status is.",
          "It uniquely belongs to a surveytarget, fibre, and obspec."]
      identity := some (some ["fibre", "survey_target", "obspec", "xposition", "yposition"])
      factors := some ["fibrera", "fibredec", "status", "orientation", "nretries", "xposition", "yposition",
         "targx", "targy"]
      parents := some [.name "Fibre", .name "SurveyTarget"], children := some [.name "OBSpec"] },
    { name := "OB"
      doc := described
        ["An OB is an \"observing block\" which is essentially a realisation of an OBSpec.",
          "Many OBs can share the same xml OBSpec which describes how to do the observations."]
      idname := some (.text "id"), factors := some ["mjd"], parents := some [.name "OBSpec"] },
    { name := "Exposure"
      doc := described
        ["An exposure is one observation of one set of targets for a given configuration.",
          "WEAVE is structured such that an exposure is actually two sets of data, one from each arm.",
          "These are called runs."]
      idname := some (.text "mjd")
      factors := some ["exptime", "seeingb", "seeinge", "windspb", "windspe", "telhumb", "telhume", "winddirb",
         "winddire", "airmass", "teltempb", "teltempe", "skybrtel", "observer", "obstype"]
      parents := some [.name "OB"] },
    { name := "Spectrum", pluralName := some "spectra", isTemplate := true },
    { name := "Spectrum1D", bases := ["Spectrum"], pluralName := some "spectra1d", isTemplate := true
      products := some ["flux", "ivar"], children := some [oneToOne (one "WavelengthHolder")] },
    { name := "Spectrum2D", bases := ["Spectrum"], pluralName := some "spectra2d", isTemplate := true },
    { name := "Run"
      doc := described
        ["A run is one observation of a set of targets for a given configuration in a specific arm (red or blue).",
          "A run belongs to an exposure, which always consists of one or two runs (per arm)."]
      idname := some (.text "id"), parents := some [.name "Exposure", .name "ArmConfig"]
      children := some [adjunct] },
    { name := "RawSpectrum", bases := ["Spectrum2D"]
      doc := described ["A 2D spectrum containing two counts arrays, this is not wavelength calibrated."]
      identity := some (some ["run"]), products := some ["counts1", "counts2"]
      parents := some [oneToOne (one "Run")], children := some [adjunct] },
    { name := "Single", isTemplate := true },
    { name := "Stacked", isTemplate := true },
    { name := "Stack", bases := ["Stacked"], isTemplate := true },
    { name := "Superstack", bases := ["Stacked"], isTemplate := true },
    { name := "Supertarget", bases := ["Stacked"], isTemplate := true },
    { name := "MCMCMeasurement", bases := ["BaseMeasurement"], isTemplate := true
      factors := some ["value", "err", "formal_error"] },
    { name := "Line", bases := ["BaseMeasurement"], isTemplate := true, factors := some (lineFactors)
      indexes := some [] },
    { name := "SpectralIndex", bases := ["BaseMeasurement"], isTemplate := true },
    { name := "RedshiftMeasurement", bases := ["BaseMeasurement"], isTemplate := true
      factors := some ["value", "err", "warn"] },
    { name := "MeanFlux", singularName := some "mean_flux", pluralName := some "mean_fluxes"
      idname := some (.text "band"), factors := some ["value"] }
  ]

end SurveyGraph.Survey
