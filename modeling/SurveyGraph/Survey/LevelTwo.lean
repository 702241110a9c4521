import SurveyGraph.Survey.LevelOne
import SurveyGraph.Survey.Lines
/-!
# Products of level two

Model spectra and fits that are made from calibrated spectra of several arms, and the files that
hold them.
-/
namespace SurveyGraph.Survey

open Declaration

/-- What a fit is made from: spectra of the arms, and models of each of them or of all together. -/
def fitted : List MemberDecl :=
  [.rel (many "L1Spectrum" 2 3), oneToOne (many "UncombinedModelSpectrum" 0 3), oneToOne (maybe "CombinedModelSpectrum"),
   .rel { many "ModelSpectrum" 1 3 with one2one := true, notReal := true }]

def fits : List MemberDecl := ["Redrock", "RVSpecfit", "Ferre", "PPXF", "Gandalf"].map (oneToOne <| maybe ·)

def levelTwoClasses : List Declaration := declaredIn "weaveio.opr3.l2"
  [
    { name := "L2", isTemplate := true },
    { name := "IngestedSpectrum", bases := ["Spectrum1D"]
      doc := described ["An ingested spectrum is one which is a slightly modified version of an L1 spectrum"]
      isTemplate := true, products := some ["flux", "error", "wvl", "ivar", "logwvl", "goodpix"]
      children := some [] },
    { name := "UncombinedIngestedSpectrum", bases := ["IngestedSpectrum"]
      identity := some (some ["l1_spectrum"]), parents := some [.name "L1Spectrum"] },
    { name := "CombinedIngestedSpectrum", bases := ["IngestedSpectrum"], identity := some (some ["l1_spectra"])
      parents := some [.rel (many "L1Spectrum" 1 3)] },
    { name := "ModelSpectrum", bases := ["Spectrum1D"], isTemplate := true
      identity := some (some ["ingested_spectrum"]), products := some ["flux"]
      parents := some [oneToOne (one "IngestedSpectrum")], children := some [] },
    { name := "UncombinedModelSpectrum", bases := ["ModelSpectrum"]
      identity := some (some ["uncombined_ingested_spectrum"])
      parents := some [oneToOne (one "UncombinedIngestedSpectrum")] },
    { name := "BaseCombinedModelSpectrum", bases := ["ModelSpectrum"], isTemplate := true
      identity := some (some ["combined_ingested_spectrum"])
      parents := some [oneToOne (one "CombinedIngestedSpectrum")] },
    { name := "CombinedModelSpectrum", bases := ["BaseCombinedModelSpectrum"] },
    { name := "GandalfSpectrum", bases := ["ModelSpectrum"]
      doc := some "template object that only stores model flux and sources the wavelength array from another linked object"
      isTemplate := true, identity := some none, parents := some [] },
    { name := "GandalfModelSpectrum", bases := ["BaseCombinedModelSpectrum", "GandalfSpectrum"]
      doc := described
        ["A Gandalf model spectrum is the full modelled SED of emission lines and continuum",
          "It also has:",
          "    - `.clean_model`     : a clean model spectrum without emission line contribution",
          "    - `.clean_observed`  : the observed spectrum with model emission lines subtracted",
          "    - `.emission_line_model`  : the model emission line contribution only"] },
    { name := "GandalfDerivativeSpectrum", bases := ["GandalfSpectrum"], isTemplate := true
      identity := some (some ["gandalf_model_spectrum"])
      parents := some [oneToOne (one "GandalfModelSpectrum")] },
    { name := "GandalfCleanIngestedSpectrum", bases := ["GandalfDerivativeSpectrum"] },
    { name := "GandalfCleanModelSpectrum", bases := ["GandalfDerivativeSpectrum"] },
    { name := "GandalfEmissionModelSpectrum", bases := ["GandalfDerivativeSpectrum"] },
    { name := "Fit"
      doc := described
        ["A fit is the result of applying fitting_software to an ingested spectrum",
          "In the case of combined spectra being available, there is only one ingested spectrum input",
          "otherwise, there are more."]
      isTemplate := true
      parents := some
        [oneToOne (many "L1Spectrum" 2 3),
         oneToOne (many "UncombinedModelSpectrum" 0 3),
         oneToOne (maybe "BaseCombinedModelSpectrum"),
         .rel { many "ModelSpectrum" 1 3 with one2one := true, notReal := true }] },
    { name := "RedshiftArray", bases := ["ArrayHolder"], identity := some (some ["start", "end", "step"])
      factors := some ["value", "start", "end", "step"] },
    { name := "Template", bases := ["Fit"]
      identity := some (some ["uncombined_model_spectra", "combined_model_spectrum", "name"])
      factors := some ["chi2_array", "name"], parents := some fitted
      children := some [oneToOne (one "RedshiftArray")] },
    { name := "Redrock", bases := ["Fit"]
      identity := some (some ["uncombined_model_spectra", "combined_model_spectrum"])
      factors := some ["class", "subclass", "snr", "chi2", "deltachi2", "ncoeff", "coeff", "npixels",
         "srvy_class", "z", "zerr", "zwarn"]
      parents := some (fitted ++ ["galaxy", "qso", "star_a", "star_b", "star_cv", "star_f", "star_g", "star_k", "star_m", "star_wd"].map
        fun n => .rel { one "Template" with one2one := true, idname := some n }) },
    { name := "RVSpecfit", bases := ["Fit"], singularName := some "rvspecfit"
      identity := some (some ["uncombined_model_spectra", "combined_model_spectrum"])
      factors := some (["skewness", "kurtosis", "vsini", "snr", "chi2_tot"]
        ++ measured ["vrad", "logg", "teff", "feh", "alpha"])
      parents := some fitted },
    { name := "Ferre", bases := ["Fit"]
      identity := some (some ["uncombined_model_spectra", "combined_model_spectrum"])
      factors := some (["snr", "chi2_tot", "flag"]
        ++ measured ["micro", "logg", "teff", "feh", "alpha", "elem"])
      parents := some fitted },
    { name := "Gandalf", bases := ["Fit"], pluralName := some "gandalfs", identity := some (some ["model"])
      factors := some (["fwhm_flag"] ++ lendFactors lineFactors lineNames "" ++ measured indexNames)
      parents := some
        [.rel (many "L1Spectrum" 2 3),
         .rel { one "GandalfModelSpectrum" with one2one := true, idname := some "model" },
         .rel { one "GandalfCleanIngestedSpectrum" with one2one := true, idname := some "clean_observed" },
         .rel { one "GandalfCleanModelSpectrum" with one2one := true, idname := some "clean_model" },
         .rel { one "GandalfEmissionModelSpectrum" with one2one := true, idname := some "emission_line_model" }] },
    { name := "PPXF", bases := ["Fit"], identity := some (some ["combined_model_spectrum"])
      factors := some (lendFactors ["value", "err", "formal_error"] ["v", "sigma", "h3", "h4", "h5", "h6"] ""
        ++ measured ["zcorr"])
      parents := some [.rel (many "L1Spectrum" 2 3), oneToOne (one "CombinedModelSpectrum")] },
    { name := "L2Product", bases := ["L2"], isTemplate := true
      parents := some (.rel (many "L1Spectrum" 2 3) :: fits) },
    { name := "L2Single", bases := ["L2Product", "Single"]
      doc := described
        ["An L2 data product resulting from two or sometimes three single L1 spectra.",
          "The L2 data products contain information generated by APS namely redshifts, emission line properties and model spectra.\n"]
      singularName := some "l2single", identity := some (some ["l1single_spectra", "fibre_target", "exposure"])
      parents := some (fits ++ [.rel { many "L1SingleSpectrum" 2 2 with constrain := ["FibreTarget", "Exposure"] }]) },
    { name := "L2Stack", bases := ["L2Product", "Stack"]
      doc := described
        ["An L2 data product resulting from two or sometimes three stacked/single L1 spectra.",
          "The L2 data products contain information generated by APS namely redshifts, emission line properties and model spectra."]
      singularName := some "l2stack", identity := some (some ["l1stack_spectra", "fibre_target", "ob"])
      parents := some (fits ++ [.rel { many "L1StackSpectrum" 2 2 with constrain := ["FibreTarget", "OB"] }]) },
    { name := "L2Superstack", bases := ["L2Product", "Superstack"]
      doc := described
        ["An L2 data product resulting from two or sometimes three super-stacked/stacked/single L1 spectra.",
          "The L2 data products contain information generated by APS namely redshifts, emission line properties and model spectra."]
      singularName := some "l2superstack"
      identity := some (some ["l1stacked_spectra", "fibre_target", "obspec"])
      parents := some (fits ++ [.rel { many "L1StackedSpectrum" 2 3 with constrain := ["FibreTarget", "OBSpec"] }]) },
    { name := "L2Supertarget", bases := ["L2Product", "Supertarget"]
      doc := described
        ["An L2 data product resulting from two or sometimes three supertarget L1 spectra.",
          "The L2 data products contain information generated by APS namely redshifts, emission line properties and model spectra."]
      singularName := some "l2supertarget", identity := some (some ["l1supertarget_spectra", "weave_target"])
      parents := some (fits ++ [.rel { many "L1SupertargetSpectrum" 2 3 with constrain := ["WeaveTarget"] }]) }
  ]

def levelTwoFileClasses : List Declaration := declaredIn "weaveio.opr3.l2files"
  [
    { name := "L2File", bases := ["File"], singularName := some "l2file", isTemplate := true
      parents := some [.rel (many "L1File" 2 3), oneToOne (many "L2Product" 1 1000)]
      children := some [.name "APS"] },
    { name := "L2SingleFile", bases := ["L2File"], singularName := some "l2single_file"
      parents := some [.rel { many "L1SingleFile" 2 3 with constrain := ["Exposure"] },
         .rel (many "L2Single" 1 1000)]
      children := some [.name "APS"] },
    { name := "L2StackFile", bases := ["L2File"], singularName := some "l2stack_file"
      parents := some [.rel { many "L1StackFile" 1 3 with constrain := ["OB"] },
         .rel (many "L2Stack" 1 1000)]
      children := some [.name "APS"] },
    { name := "L2SuperstackFile", bases := ["L2File"], singularName := some "l2superstack_file"
      parents := some [.rel { many "L1SingleFile" 0 3 with constrain := ["OBSpec"] },
         .rel { many "L1StackFile" 0 3 with constrain := ["OBSpec"] },
         .rel { many "L1SuperstackFile" 0 3 with constrain := ["OBSpec"] },
         .rel (many "L2Superstack" 1 1000)]
      children := some [.name "APS"] },
    { name := "L2SupertargetFile", bases := ["L2File"], singularName := some "l2supertarget_file"
      parents := some [.rel { many "L1SupertargetFile" 2 3 with constrain := ["WeaveTarget"] },
         .name "L2Supertarget"]
      children := some [.name "APS"] }
  ]

end SurveyGraph.Survey
