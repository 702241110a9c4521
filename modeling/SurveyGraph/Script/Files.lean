import SurveyGraph.Script.Term
import SurveyGraph.Fits.Basic
/-!
# Files in scripts

Files are given as lists of units. A unit is a record of a name, a header, and columns or an array.
-/
namespace SurveyGraph

def gridOf (t : Term) : Grid := Grid.ofNested ((t.plain?).getD (.list []))

def unitOf (t : Term) : FitsUnit :=
  { name := ((t.get? "name").bind Term.text?).getD ""
    header := (((t.get? "header").map Term.entries).getD []).foldl (fun acc (k, v) =>
      put (Text.Letter.upper k) ((v.plain?).getD .none) acc) []
    data := match t.get? "array" with
      | some a => .image (gridOf a)
      | none => .table ((((t.get? "columns").map Term.entries).getD []).map (fun c => (c.1, gridOf c.2))) }
where
  put (k : String) (v : Value) : List (String × Value) → List (String × Value)
    | [] => [(k, v)]
    | (k', v') :: es => if k' == k then (k, v) :: es else (k', v') :: put k v es

def filesOf (t : Term) : List (String × FitsFile) := t.entries.map (fun e => (e.1, e.2.members.map unitOf))

end SurveyGraph
