/-!
# Emission lines and spectral indices

The emission lines that are fitted, each with its wavelength, and the spectral indices that are
measured.
-/
namespace SurveyGraph.Survey

def lineNames : List String :=
  ["HeII_3203.15", "[NeV]_3345.81", "[NeV]_3425.81", "[OII]_3726.03", "[OII]_3728.73",
   "[NeIII]_3868.69", "[NeIII]_3967.40", "H5_3889.05", "He_3970.07", "Hd_4101.73", "Hg_4340.46",
   "[OIII]_4363.15", "HeII_4685.74", "[ArIV]_4711.30", "[ArIV]_4740.10", "Hb_4861.32",
   "[OIII]_4958.83", "[OIII]_5006.77", "[NI]_5197.90", "[NI]_5200.39", "HeI_5875.60",
   "[OI]_6300.20", "[OI]_6363.67", "[NII]_6547.96", "Ha_6562.80", "[NII]_6583.34", "[SII]_6716.31",
   "[SII2]_6730.68", "[ArIII]_7135.67"]

def indexNames : List String :=
  ["BL1719", "BL1853", "Fe2332", "Fe2402", "BL2538", "Fe2609", "Mgwide", "BL2720", "BL2740",
   "Mg2800", "Mg2852", "Fe3000", "BL3096", "Mg3334", "NH3360", "NH3375", "Ni3520", "Fe3581",
   "Fe3619", "Fe3631", "Fe3646", "Fe3683", "Fe3706", "Fe3741", "UV_CN", "H10Fe", "CNB", "MgH93838",
   "CNO3862", "CN3883", "CaHK", "CaIIH_K", "CaK3933", "H_K", "CaH3968", "FeBand", "Fe4033",
   "Fe4046", "Fe4064", "Sr4077", "HdA", "HdF", "CNO4175", "CN1", "CN2", "Ca4227", "G4300", "HgA",
   "Fe4326", "HgF", "Hg_sigma_27", "Hg_sigma_20", "Hg_sigma_12", "Hg_sigma_13", "Fe4383", "Fe4457",
   "Ca4455", "Fe4531", "Fe4592", "FeII4550", "Ca4592", "CO4685", "C2_4668", "bTiO", "Mg4780",
   "Hbeta_o", "Hbeta", "Fe4920", "Fe5015", "Mg1", "MgH", "MgG", "Mg2", "Mgb", "Fe5270", "Fe5335",
   "Fe5406", "aTiO", "Fe5709", "Fe5782", "NaD", "TiO1", "Ca6162", "Fe6189", "TiO2", "TiO2sdss",
   "CaH1", "Fe6497", "Halpha", "Ha_Gregg94", "CaH2", "IR_NaI", "NaI8190sdss", "NaI8200A",
   "TiO1_0.85", "Ca_DTT_1", "Ca1", "CaAZ88_1", "Ca2", "Ca_DTT_2", "CaAZ88_2", "Ca3", "Ca_DTT_3",
   "CaAZ88_3", "MgI_DTT", "TiO2_0.89", "IR_CN", "CN_ZrO", "FeH", "FeH0.99", "CI1.07", "CN1.10",
   "NaI1.14", "Na1.14", "FeI1.16", "MgI1.18", "SiI1.20", "MgI1.24", "Pa_beta1.28", "MnI1.29",
   "AlI1.31", "MgI1.49", "MgI1.50", "MgI1.50m", "MgI1.58", "FeI1.58m", "SiI1.59", "SiI1.59m",
   "CO1.62", "CO1.62m", "MgI1.71", "MgI1.71m", "MgI2.11m", "Brg2.16m", "NaI2.21", "NaI2.21a",
   "NaI2.21k", "Na2.21", "FeIa", "FeIb", "CaI2.26", "CaI2.26m", "CaI2.26k", "MgI2.28i", "MgI2.28a",
   "MgI2.28"]

end SurveyGraph.Survey
