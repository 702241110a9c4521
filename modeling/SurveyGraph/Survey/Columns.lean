import SurveyGraph.Schema.Identity
/-!
# Columns of product tables

Tables of products name their columns in a way of their own: with the acronym of the fit, or with the name of a
spectral line or index. The functions of this module say which column each factor is taken from.
-/
namespace SurveyGraph.Columns

abbrev Sources := List (String × String)

/-- Columns with an acronym at the start, at the end or in between, under their names without it; the last one
wins. -/
def ofAcronyms (columns acronyms : List String) : Sources :=
  columns.foldl (fun acc column =>
    acronyms.foldl (fun acc a =>
      ["_" ++ a, "_" ++ a ++ "_", a ++ "_"].foldl (fun acc mark =>
        if Text.contains column mark then
          setNamed (Text.replaceAll column (Text.Letter.lower mark) "") column acc
        else acc) acc) acc) []

/-- What is measured of a spectral line: the ending of the factor and the start of the column. -/
def lineMeasures : List (String × String) :=
  [("_aon", "aon_"), ("_ebmv", "ebv_"), ("_flux", "flux_"), ("_flux_error", "flux_err_"),
   ("_amp_error", "ampl_err_"), ("_redshift", "z_"), ("_redshift_error", "z_err_"), ("_sigma", "sigma_"),
   ("_sigma_error", "sigma_err_")]

/-- The wavelength in the name of a line, which follows the first underscore. -/
def wavelengthOf (line : String) : Except Fault Float :=
  match Text.cutAt '_' line with
  | _ :: w :: _ => (Value.text w).toFloat
  | _ => refuse .outOfRange

/-- The lines that a table has a flux of, in order of their wavelengths. -/
def linesIn (columns : List String) : Except Fault (List String) := do
  let lines := (columns.filter (Text.startsWith · "flux")).map (Text.dropStart · 5)
  let keyed ← lines.mapM (fun l => return (← wavelengthOf l, l))
  return (keyed.mergeSort (fun a b => !decide (b.1 < a.1))).map (·.2)

def ofLines (expected columns : List String) : Except Fault Sources := do
  let expected := expected.map Text.Letter.lower
  let lines ← linesIn (columns.map Text.Letter.lower)
  return (lines.filter expected.contains).foldl (fun acc line =>
    lineMeasures.foldl (fun acc (ending, start) => setNamed (line ++ ending) (start ++ line) acc) acc) []

/-- The factors of those indices that are expected and there, with their errors. -/
def ofIndices (expected columns : List String) : Sources :=
  ((expected.map Text.Letter.lower).filter columns.contains).foldl (fun acc name =>
    setNamed (name ++ "_error") ("err_" ++ name) (setNamed name name acc)) []

end SurveyGraph.Columns
