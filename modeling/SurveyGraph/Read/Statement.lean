import SurveyGraph.Read.Digraph
import SurveyGraph.Read.Query
import SurveyGraph.Text.Template
/-!
# Statements

An arc of the query graph stands for a statement. A statement reads variables and brings new ones
about. Expressions are variables too: an operation has no line of its own, its text is put where it is
used.
-/
namespace SurveyGraph.Phrase

/-! ## Phrases of the query language -/

def maskInfinity (x : String) : String := "CASE WHEN " ++ x ++ " > apoc.math.maxLong() THEN null ELSE " ++ x ++ " END"

/-- Whether a text is a pattern: between slashes, or with a star and not between double quotes. -/
def isPattern (s : String) : Bool :=
  (Text.startsWith s "/" && Text.endsWith s "/")
    || (Text.contains s "*" && !(Text.startsWith s "\"" && Text.endsWith s "\""))

def stripSlashes (s : String) : String :=
  String.ofList (((s.toList.dropWhile (· == '/')).reverse.dropWhile (· == '/')).reverse)

def dropRepeated : List String → List String
  | a :: b :: rest => if a == b then dropRepeated (b :: rest) else a :: dropRepeated (b :: rest)
  | lines => lines

/-- A text between quotes; a name is left as it is, and so is anything else. -/
def quote (v : Value) (isName : Bool) : Value :=
  match v with
  | .text s => .text (if isName then s else "'" ++ s ++ "'")
  | v => v

def safeName (s : String) : String := Text.join "__dot__" (Text.cutAt '.' s)

def conversion (source target : String) : String :=
  match source, target with
  | "boolean", "float" => "tointeger(tofloat(\x7b\x7d))"
  | "boolean", "number" => "tointeger(\x7b\x7d)"
  | "float", "boolean" | "number", "boolean" => "toboolean(tointeger(\x7b\x7d))"
  | "float", "number" | "integer", "number" => "\x7b\x7d"
  | _, _ => "to" ++ target ++ "(\x7b\x7d)"

/-- Converts every occurrence of some places from one type to another, if both are known and
differ. -/
def convertPlaces (source target : Option String) (s : String) (places : List String) :
    Except Fault String := do
  match source, target with
  | some a, some b =>
    if a == b then return s
    places.foldlM (fun s p => do return Text.replaceAll s p (← Text.Template.fill (conversion a b) [p])) s
  | _, _ => return s

end SurveyGraph.Phrase

namespace SurveyGraph

/-- What a node makes available: a variable, an expression, or the node that an aggregation goes back
to. -/
inductive Slot where
  | text (s : String)
  | node (n : Nat)
  deriving Repr, BEq, DecidableEq, Inhabited

def Slot.shown : Slot → String
  | .text s => s
  | .node n => toString n

inductive Statement where
  | start (type : String) (unwound : Option Nat) (out : String)
  | traversal (source : Slot) (type : String) (paths : List String) (unwound : Option Nat)
    (out edge : String)
  /-- Follows paths to nodes of several types, each with a path of its own. -/
  | union (source : Slot) (type : String) (paths : List (String × String)) (unwound : Option Nat) (out edge : String)
  /-- Does nothing: a result is counted to another node, as it is. -/
  | null (slots : List Slot)
  | operation (inputs : List Slot) (template name text : String) (params : List String)
  | property (input : Slot) (name text : String)
  | product (input : Slot) (template name text : String)
  | assign (input : Slot) (out : String)
  | directFilter (target condition : Slot)
  /-- Copies what meets a condition, and null otherwise. -/
  | copyFilter (target condition : Slot) (out : String)
  | slice (input : Slot) (first last step : Option Int)
  | aggregate (input : Slot) (wrt : Nat) (template name out : String)
  /-- Returns columns; the index comes last if there is one. Rows where `present` is null are left out. -/
  | return (columns : List Slot) (index present : Option Slot)
  | pick (inputs : List Slot) (text : String) (params : List String)
  | unwind (wrt : Nat) (list : String) (out : String) (params : List String)
  deriving Repr, BEq, DecidableEq

namespace Statement

def sort : Statement → String
  | .start .. => "StartingMatch"
  | .traversal .. => "Traversal"
  | .union .. => "UnionTraversal"
  | .null _ => "NullStatement"
  | .operation .. => "Operation"
  | .property .. => "GetItem"
  | .product .. => "GetProduct"
  | .assign .. => "AssignToVariable"
  | .directFilter .. => "DirectFilter"
  | .copyFilter .. => "CopyAndFilter"
  | .slice .. => "Slice"
  | .aggregate .. => "Aggregate"
  | .return .. => "Return"
  | .pick .. => "ApplyToList"
  | .unwind .. => "Unwind"

/-- Whether two statements do the same. The names of new variables make no difference. -/
def alike : Statement → Statement → Bool
  | .start t u _, .start t' u' _ => t == t' && u == u'
  | .traversal s t p u _ _, .traversal s' t' p' u' _ _ =>
    s == s' && t == t' && Text.join "." p == Text.join "." p' && u == u'
  | .union s t p u _ _, .union s' t' p' u' _ _ => s == s' && t == t' && p == p' && u == u'
  | .null ss, .null ss' => ss == ss'
  | .operation is t n _ _, .operation is' t' n' _ _ => is == is' && t == t' && n == n'
  | .property i n _, .property i' n' _ => i == i' && n == n'
  | .product i t n _, .product i' t' n' _ => i == i' && t == t' && n == n'
  | .assign i _, .assign i' _ => i == i'
  | .directFilter a b, .directFilter a' b' => a == a' && b == b'
  | .copyFilter a b _, .copyFilter a' b' _ => a == a' && b == b'
  | .slice i a b c, .slice i' a' b' c' => i == i' && a == a' && b == b' && c == c'
  | .aggregate i w t n _, .aggregate i' w' t' n' _ => i == i' && w == w' && t == t' && n == n'
  | .return c i d, .return c' i' d' => c ++ i.toList == c' ++ i'.toList && i == i' && d == d'
  | .pick is t _, .pick is' t' _ => is == is' && t == t'
  | .unwind w l _ _, .unwind w' l' _ _ => w == w' && l == l'
  | _, _ => false

def outputs : Statement → List Slot
  | .start _ _ out => [.text out]
  | .traversal _ _ _ _ out edge | .union _ _ _ _ out edge => [.text out, .text edge]
  | .null slots => slots
  | .operation _ _ _ text _ | .property _ _ text | .product _ _ _ text | .pick _ text _ => [.text text]
  | .directFilter target _ => [target]
  | .assign _ out | .copyFilter _ _ out | .aggregate _ _ _ _ out | .unwind _ _ out _ => [.text out]
  | .slice .. | .return .. => []

def params : Statement → List String
  | .operation _ _ _ _ ps | .pick _ _ ps | .unwind _ _ _ ps => ps
  | _ => []

def isNull : Statement → Bool
  | .null _ => true
  | _ => false

/-- The text of a product: the place of the file and of the data in it. -/
def productTemplate (name : String) : String :=
  "[(\x7b\x7d)<-[rel:product \x7b\x7bname: '" ++ name ++ "'\x7d\x7d]-(hdu: HDU)<--(file: File)"
    ++ " | [file.path, hdu.extn, rel.index, rel.column_name, False]][0]"

/-- The line of a traversal. Several paths are followed in a block, one after the other. -/
def traversalLine (source : Slot) (type : String) (paths : List String) (out edge : String) :
    Except Fault String := do
  if (Text.join "." paths).isEmpty then
    return "OPTIONAL MATCH (" ++ out ++ ":" ++ type ++ ")"
  let found ← paths.mapM (fun p => return "OPTIONAL MATCH " ++ (← Text.Template.fill p []
    [("in_var", source.shown), ("out_var", out), ("name", edge)]))
  match found with
  | [one] => return one
  | many =>
    let parts := many.map (fun s => "\tWITH " ++ source.shown ++ "\n\t" ++ s ++ " RETURN " ++ out)
    return "CALL \x7b\n " ++ Text.join "\n\tUNION ALL\n" parts ++ "\n\x7d"

/-- The line that follows a path of its own to each of several types. -/
def unionLine (source : Slot) (paths : List (String × String)) (out edge : String) : Except Fault String := do
  let found ← paths.mapM (fun (type, path) => return "OPTIONAL MATCH (" ++ source.shown ++ ")"
    ++ (← Text.Template.fill path [] [("name", edge)]) ++ "(" ++ out ++ ":" ++ type ++ ")")
  return "CALL \x7bWITH " ++ source.shown ++ "\n" ++ Text.join "UNION\n" found ++ "\nRETURN " ++ out ++ "\n\x7d"

end Statement

end SurveyGraph
