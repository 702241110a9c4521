import SurveyGraph.Survey.LevelTwo
/-!
# The schema of the survey

All classes of the survey, declared in order.
-/
namespace SurveyGraph.Survey

def declarations : List Declaration :=
  fileClasses ++ objectClasses ++ levelOneClasses ++ levelOneFileClasses ++ levelTwoClasses
    ++ levelTwoFileClasses

def schemaNode : Declaration := { name := "SchemaNode", scope := "weaveio.schema", idname := some (.text "name") }

def declareAll (ds : List Declaration) : SchemaM (List ClassId) := ds.mapM declare

/-- The classes that are there once classes have been declared, up to the first that fails. -/
def registryOf (ds : List Declaration) : Registry := (declareAll ds |>.run.run Registry.empty).2

def registry : Registry := registryOf (declarations ++ [schemaNode])

end SurveyGraph.Survey
