import SurveyGraph.Survey.Schema
import SurveyGraph.Catalogue.Suggest
/-!
# The catalogue of the survey

The classes that can be reached from the files of the survey, with their names.
-/
namespace SurveyGraph.Survey

/-- The classes of files that the survey consists of, each before those that depend on it. -/
def fileTypes : List String :=
  ["RawFile", "L1SingleFile", "L2SingleFile", "L1StackFile", "L2StackFile", "L1SuperstackFile",
   "L2SuperstackFile", "L1SupertargetFile", "L2SupertargetFile"]

def catalogueOf (reg : Registry) : Except Fault Catalogue := do
  let files := fileTypes.filterMap reg.find?
  Catalogue.ofClasses reg (← Catalogue.fromFiles reg files)

def catalogue : Except Fault Catalogue := catalogueOf registry

end SurveyGraph.Survey

namespace SurveyGraph

def customCatalogue (declarations : List Declaration) : Except Fault Catalogue := do
  let (result, reg) := (Survey.declareAll declarations |>.run.run Registry.empty)
  let _ ← result
  let reg ← reg.settle
  Catalogue.ofClasses reg reg.declared

end SurveyGraph
