import SurveyGraph.Survey.Objects
/-!
# Spectra of level one

Calibrated spectra of single runs and of stacks of runs, and the files that hold them.
-/
namespace SurveyGraph.Survey

open Declaration

def levelOneFactors : List String :=
  ["nspec", "snr"] ++ lendFactors ["value"] ["g", "r", "i", "gg", "bp", "rp"] "mean_flux_"

def filed : List MemberDecl := [adjunct, .name "WavelengthHolder", .name "CASU", .name "System"]

def levelOneClasses : List Declaration := declaredIn "weaveio.opr3.l1"
  [
    { name := "L1", isTemplate := true },
    { name := "L1Spectrum", bases := ["Spectrum1D", "L1"], isTemplate := true, factors := some (levelOneFactors)
      products := some ["flux", "ivar", "sensfunc"], indexes := some [some "nspec"]
      parents := some [.name "FibreTarget"], children := some [oneToOne (one "WavelengthHolder"), adjunct] },
    { name := "NoSS", bases := ["Spectrum1D"], singularName := some "noss", pluralName := some "nosses"
      identity := some (some ["l1_spectrum"]), products := some ["flux", "ivar"], indexes := some [none]
      parents := some [oneToOne (one "L1Spectrum")], children := some [adjunct] },
    { name := "L1SingleSpectrum", bases := ["L1Spectrum", "Single"]
      doc := described ["A single spectrum row processed from a raw spectrum, belonging to one fibretarget and one run."]
      singularName := some "l1single_spectrum", pluralName := some "l1single_spectra"
      identity := some (some ["raw_spectrum", "fibre_target", "arm_config"])
      factors := some (levelOneFactors ++
        ["rms_arc1", "rms_arc2", "resol", "helio_cor", "wave_cor1", "wave_corrms1", "wave_cor2",
         "wave_corrms2", "skyline_off1", "skyline_rms1", "skyline_off2", "skyline_rms2", "sky_shift",
         "sky_scale"])
      parents := some [.name "FibreTarget", .name "RawSpectrum", .name "ArmConfig"] },
    { name := "L1StackedSpectrum", bases := ["L1Spectrum", "Stacked"], singularName := some "l1stacked_spectrum"
      pluralName := some "l1stacked_spectra", isTemplate := true, identity := some (some ["l1single_spectra"])
      parents := some [.rel { many "L1SingleSpectrum" 2 10 with constrain := ["FibreTarget", "ArmConfig"] },
         .name "FibreTarget"] },
    { name := "L1StackSpectrum", bases := ["L1StackedSpectrum", "Stack"]
      doc := described
        ["A stacked spectrum row processed from > 1 single spectrum, belonging to one fibretarget but many runs within the same OB."]
      singularName := some "l1stack_spectrum", pluralName := some "l1stack_spectra"
      parents := some
        [.rel { many "L1SingleSpectrum" 2 10 with constrain := ["FibreTarget", "OB", "ArmConfig"] },
         .name "FibreTarget"] },
    { name := "L1SuperstackSpectrum", bases := ["L1StackedSpectrum", "Superstack"]
      doc := described
        ["A stacked spectrum row processed from > 1 single spectrum, belonging to one fibretarget but many runs within the same OBSpec."]
      singularName := some "l1superstack_spectrum", pluralName := some "l1superstack_spectra"
      parents := some
        [.rel { many "L1SingleSpectrum" 2 10 with constrain := ["FibreTarget", "OBSpec", "ArmConfig"] },
         .name "FibreTarget"] },
    { name := "L1SupertargetSpectrum", bases := ["L1StackedSpectrum", "Supertarget"]
      doc := described
        ["A stacked spectrum row processed from > 1 single spectrum, belonging to one weavetarget over many different OBSpecs.",
          "A weavetarget can have more than supertarget spectrum so an ID is added to the filename",
          "todo: This structure needs looking at."]
      singularName := some "l1supertarget_spectrum", pluralName := some "l1supertarget_spectra"
      identity := some (some ["l1single_spectra", "id"]), factors := some ["id"], indexes := some []
      parents := some [.rel { many "L1SingleSpectrum" 2 10 with constrain := ["WeaveTarget", "ArmConfig"] },
         .name "FibreTarget"] }
  ]

def levelOneFileClasses : List Declaration := declaredIn "weaveio.opr3.l1files"
  [
    { name := "HeaderFibinfoFile", bases := ["File"], isTemplate := true },
    { name := "RawFile", bases := ["HeaderFibinfoFile"], parents := some [oneToOne (one "RawSpectrum")]
      children := some [adjunct, .name "CASU", .name "System"]
      produces := some [.name "CASU", .name "System"] },
    { name := "L1File", bases := ["HeaderFibinfoFile"], singularName := some "l1file", isTemplate := true
      parents := some [oneToOne (many "L1Spectrum" 1 1000)], children := some filed
      produces := some [.name "CASU", .name "System", .name "NoSS"] },
    { name := "L1SingleFile", bases := ["L1File"], singularName := some "l1single_file"
      parents := some [oneToOne (one "RawFile"), oneToOne (many "L1SingleSpectrum" 1 1000)]
      children := some filed },
    { name := "L1StackedFile", bases := ["L1File"], singularName := some "l1stacked_file", isTemplate := true },
    { name := "L1StackFile", bases := ["L1StackedFile"], singularName := some "l1stack_file"
      parents := some [.rel { many "L1SingleFile" 1 10 with constrain := ["OB", "ArmConfig"] },
         oneToOne (many "L1StackSpectrum" 1 1000)]
      children := some filed },
    { name := "L1SuperstackFile", bases := ["L1StackedFile"], singularName := some "l1superstack_file"
      parents := some [.rel { many "L1SingleFile" 1 5 with constrain := ["OBSpec", "ArmConfig"] },
         oneToOne (many "L1SuperstackSpectrum" 1 1000)]
      children := some filed },
    { name := "L1SupertargetFile", bases := ["L1StackedFile"], singularName := some "l1supertarget_file"
      parents := some [.rel { many "L1SingleFile" 1 10 with constrain := ["WeaveTarget", "ArmConfig"] },
         oneToOne (one "L1SupertargetSpectrum")]
      children := some filed }
  ]

end SurveyGraph.Survey
