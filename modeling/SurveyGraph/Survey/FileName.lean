import SurveyGraph.Survey.FileKind
import SurveyGraph.Value.Convert
/-!
# Names of files

Names of raw files and files of spectra are made from the number of a run. The name of a file of products lists
the types and the runs of the files that it is made from, and so does its header; `sourcesOf` reads both and
refuses the file if they disagree.
-/
namespace SurveyGraph

abbrev Header := String → Option Value

namespace FileKind

/-- How the names of files of a kind begin, before the number of the run. -/
def nameStart? : FileKind → Option String
  | .raw => some "r"
  | .single => some "single_"
  | .stacked | .stack | .supertarget => some "stack_"
  | .superstack => some "superstack_"
  | _ => none

def runText (run : Value) : Except Fault String := do
  match run with
  | .text _ | .scalar .text _ => refuse .badValue
  | v => return Decimal.fixed 7 (← v.toFloat)

def nameOfRun (k : FileKind) (run : Value) : Except Fault String := do
  match k.nameStart? with
  | none => refuse .missingAttribute
  | some start => return start ++ (← runText run) ++ ".fit"

def ofType? : String → Option FileKind
  | "single" => some .single
  | "stacked" | "stack" => some .stack
  | "superstack" | "superstacked" => some .superstack
  | _ => none

end FileKind

namespace FileName

variable (header : Header) (s : String)

def runOf : Except Fault Int := (Value.text s).toInt

def trim : String :=
  let isEdge (c : Char) : Bool := c == '_' || c == '.'
  String.ofList (((s.toList.dropWhile isEdge).reverse.dropWhile isEdge).reverse)

def runsInName (name : String) : Except Fault (List (String × Int)) :=
  let body := Text.replaceAll (Text.replaceAll (Text.Letter.lower name) "aps.fits" "") "aps.fit" ""
  (Text.cutOn "__" (trim body)).mapM fun source =>
    match Text.cutAt '_' source with
    | [type, run] => return (type, ← runOf run)
    | _ => refuse .badValue

/-- The references to sources in a header, cut at underscores; those without an underscore do not count. -/
def references : Except Fault (List (List String)) := do
  let all ← (List.range 4).mapM fun i =>
    match (header ("L1_REF_" ++ toString i)).getD (.text ".") with
    | .text s => pure (Text.cutAt '_' ((Text.cutAt '.' s).headD ""))
    | _ => refuse .missingAttribute
  return all.filter (·.length > 1)

def runsInHeader : Except Fault (List (String × Int)) := do
  let refs ← references header
  if refs.all (·.length > 2) then refuse .badValue
  refs.mapM fun
    | type :: run :: _ => return (type, ← runOf run)
    | _ => refuse .badValue

def agree {α : Type} [BEq α] (xs ys : List α) : Bool := (xs.zip ys).all (fun (x, y) => x == y)

def sourceOf : String × Int → Except Fault (FileKind × String)
  | (type, run) =>
    match FileKind.ofType? type with
    | some k => return (k, ← k.nameOfRun (.int run))
    | none => refuse .missingKey

/-- The kinds and names of the files that a file of products is made from. Name and header have to
agree. -/
def sourcesOf (name : String) : Except Fault (List (FileKind × String)) := do
  let named ← runsInName name
  let listed ← runsInHeader header
  if !agree (named.map (·.2)) (listed.map (·.2)) then refuse FileCause.otherRuns
  if !agree (named.map (·.1)) (listed.map (·.1)) then refuse FileCause.otherTypes
  named.mapM sourceOf

end FileName

end SurveyGraph
