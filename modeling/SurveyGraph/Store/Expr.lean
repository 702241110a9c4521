import SurveyGraph.Text.Basic
/-!
# Statements for the database

Statements that change a node are kept in the form in which they are meant, `Update`, and `Update.text`
writes them down. What they do to a node is said in `Store/Eval`.

Sums and comparisons are written without brackets. A comparison binds less than a sum.
-/
namespace SurveyGraph.Store

inductive Fn where
  | range
  | size
  | coalesce
  | pairs
  | zip
  | flatten
  | toSet
  | sort
  deriving Repr, DecidableEq

def Fn.name : Fn → String
  | .range => "range"
  | .size => "size"
  | .coalesce => "coalesce"
  | .pairs => "apoc.coll.pairs"
  | .zip => "apoc.coll.zip"
  | .flatten => "apoc.coll.flatten"
  | .toSet => "apoc.coll.toSet"
  | .sort => "apoc.coll.sort"

inductive Op where
  | plus
  | minus
  | equal
  | unequal
  deriving Repr, DecidableEq

def Op.sign : Op → String
  | .plus => "+"
  | .minus => "-"
  | .equal => "="
  | .unequal => "<>"

/-- Blanks at an operator or after a comma. They make no difference to what is meant. -/
inductive Gap where
  | none
  | before
  | around
  deriving Repr, DecidableEq

inductive Expr where
  | int (n : Int)
  | quoted (s : String)
  | var (v : String)
  | param (name : String)
  | property (node name : String)
  | field (node : String) (name : Expr)
  | list (items : List Expr) (gap : Gap)
  | index (e i : Expr)
  | upTo (e i : Expr)
  | binary (op : Op) (gap : Gap) (a b : Expr)
  | isNull (e : Expr)
  | call (f : Fn) (args : List Expr) (gap : Gap)
  | each (v : String) (source result : Expr)
  | eachWhere (v : String) (source cond result : Expr)
  | all (v : String) (source cond : Expr)
  | choose (cond yes no : Expr)
  deriving Repr

def Gap.comma : Gap → String
  | .none => ","
  | _ => ", "

def Gap.operator (op : Op) : Gap → String
  | .none => op.sign
  | .before => " " ++ op.sign
  | .around => " " ++ op.sign ++ " "

mutual

def Expr.shown : Expr → String
  | .int n => toString n
  | .quoted s => "'" ++ s ++ "'"
  | .var v => v
  | .param name => "$" ++ name
  | .property node name => node ++ ".`" ++ name ++ "`"
  | .field node name => node ++ "[" ++ name.shown ++ "]"
  | .list items gap => "[" ++ Text.join gap.comma (Expr.allShown items) ++ "]"
  | .index e i => e.shown ++ "[" ++ i.shown ++ "]"
  | .upTo e i => e.shown ++ "[.." ++ i.shown ++ "]"
  | .binary op gap a b => a.shown ++ gap.operator op ++ b.shown
  | .isNull e => e.shown ++ " is null"
  | .call f args gap => f.name ++ "(" ++ Text.join gap.comma (Expr.allShown args) ++ ")"
  | .each v source result => "[" ++ v ++ " in " ++ source.shown ++ " | " ++ result.shown ++ "]"
  | .eachWhere v source cond result =>
    "[" ++ v ++ " in " ++ source.shown ++ " where " ++ cond.shown ++ " | " ++ result.shown ++ "]"
  | .all v source cond => "all(" ++ v ++ " in " ++ source.shown ++ " where " ++ cond.shown ++ ")"
  | .choose cond yes no => "CASE WHEN " ++ cond.shown ++ " THEN " ++ yes.shown ++ " ELSE " ++ no.shown ++ " END"

def Expr.allShown : List Expr → List String
  | [] => []
  | e :: es => e.shown :: Expr.allShown es

end

inductive Clause where
  | bind (e : Expr) (v : String)
  | set (property : String) (e : Expr)
  deriving Repr

/-- A statement that changes a node: the one with a label whose `key` is the value of a parameter. -/
structure Update where
  node : String
  label : String
  key : String
  param : String
  clauses : List Clause
  deriving Repr

def Clause.text (node : String) : Clause → String
  | .bind e v => "WITH *, " ++ e.shown ++ " as " ++ v
  | .set property e => "SET " ++ (Expr.property node property).shown ++ " = " ++ e.shown

/-- The text of a statement, with an empty line before it and after it. -/
def Update.text (u : Update) : String :=
  let found := "MATCH (" ++ u.node ++ ": " ++ u.label ++ " \x7b" ++ u.key ++ ": $" ++ u.param ++ "\x7d)"
  Text.join "\n" ("" :: found :: u.clauses.map (·.text u.node) ++ [""])

end SurveyGraph.Store
