import SurveyGraph.Fault.Kind
import SurveyGraph.Text.Glyph
import SurveyGraph.Text.Basic
/-!
# Causes of failure in files

What can be wrong with a file and its name.
-/
namespace SurveyGraph

inductive FileCause where
  | notRead
  | severalSurveys
  | otherRuns
  | otherTypes
  | noMode (path : String)
  /-- A file has more or fewer units than files of its kind have. -/
  | unitCount (cls : String) (expected : List String) (path : String) (found : List String)
  | partNeeded (cls : String)
  | unknownPart (part : String) (known : List String)
  deriving Repr, BEq

namespace FileCause

def kind : FileCause → FaultKind
  | .notRead => .unsupported
  | .severalSurveys | .otherRuns | .otherTypes | .unknownPart .. => .badValue
  | .noMode _ => .missingKey
  | .unitCount .. => .badType
  | .partNeeded _ => .refused

def nameList (names : List String) : String := "[" ++ Text.join ", " (names.map Text.quoted) ++ "]"

def message : FileCause → String
  | .notRead => ""
  | .severalSurveys => "There are multiple surveys defined in targsrvy. The schema needs to be revised"
  | .otherRuns => "There is a mismatch between runids in the filename and in in the header"
  | .otherTypes => "There is a mismatch between stack/single filetype in the filename and in in the header"
  | .noMode path => s!"File {path} does not contain OBSTYPE keyword"
  | .unitCount cls expected path found =>
    s!"Class {cls} asserts there are {expected.length} HDUs ({nameList expected}) whereas {path} has {found.length} ({nameList found})"
  | .partNeeded cls => s!"{cls}.read() requires a part argument otherwise py2neo will crash"
  | .unknownPart part known => s!"Unrecognised part {part}. Only {nameList known} are allowed"

end FileCause

end SurveyGraph
