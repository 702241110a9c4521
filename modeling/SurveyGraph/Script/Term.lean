import SurveyGraph.Fault
import SurveyGraph.Value
/-!
# Scripts

A script is a list of steps. A step is a record whose entries say what is to be done and with what: plain
values, variables, or collections of these. Each step has an answer, and a step that fails does not stop
the script: its failure is its answer.
-/
namespace SurveyGraph

inductive Term where
  | value (v : Value)
  | var (name : String)
  | list (xs : List Term)
  | tuple (xs : List Term)
  /-- A record with keys of any kind. -/
  | pairs (es : List (Term × Term))
  | record (es : List (String × Term))
  deriving Inhabited

namespace Term

variable (t : Term) (k : String)

def members : Term → List Term
  | .list xs | .tuple xs => xs
  | .value (.list xs) | .value (.tuple xs) => xs.map .value
  | _ => []

def entries : Term → List (String × Term)
  | .record es => es
  | .value (.dict es) => es.filterMap fun e =>
    match e.1 with
    | .text k => some (k, .value e.2)
    | _ => none
  | _ => []

def get? : Option Term := t.entries.lookup k

def get : Except Fault Term :=
  match t.get? k with
  | some x => .ok x
  | none => refuse (Fault.plain .missingKey k)

def text? : Term → Option String
  | .value (.text s) => some s
  | _ => none

def texts : List String := t.members.filterMap text?

def getText : Except Fault String := do
  match ← t.get k with
  | .value (.text s) => return s
  | _ => refuse .badType

def plain? : Term → Option Value
  | .value v => some v
  | _ => none

def getPlain : Value := ((t.get? k).bind plain?).getD .none

def isTrue : Bool :=
  match t.get? k with
  | some (.value v) => v.truthy
  | some _ => true
  | none => false

end Term

inductive Answer where
  | value (v : Value)
  | fault (f : Fault)
  | list (xs : List Answer)
  | record (es : List (String × Answer))
  deriving Inhabited

namespace Answer

def text (s : String) : Answer := .value (.text s)

def texts (xs : List String) : Answer := .value (.list (xs.map .text))

def textOr (s : Option String) : Answer := .value (match s with | some s => .text s | none => .none)

def bool (b : Bool) : Answer := .value (.bool b)

def nat (n : Nat) : Answer := .value (.int n)

def nats (ns : List Nat) : Answer := .value (.list (ns.map (fun (n : Nat) => .int n)))

def ofExcept (x : Except Fault Answer) : Answer :=
  match x with
  | .ok a => a
  | .error f => .fault f

def lines (s : String) : Answer := texts (Text.cutAt '\n' s)

end Answer

/-- What a step gives: something that can be bound to a variable, or an answer only. -/
inductive Outcome (α : Type) where
  | result (x : α)
  | answer (a : Answer)

abbrev Bindings (α : Type) := List (String × α)

namespace Bindings

variable {α : Type} (b : Bindings α)

def put (name : String) (x : α) : Bindings α := (name, x) :: b.filter (·.1 != name)

def value (name : String) : Except Fault α :=
  match b.lookup name with
  | some x => .ok x
  | none => refuse (ScriptCause.unbound name)

/-- Binds what a step asks for: the result, or the members of the result one by one. -/
def bindAs (step : Term) (x : α) (members : List α) : Bindings α :=
  match step.get? "as" with
  | some (.value (.text name)) => b.put name x
  | some t => (t.texts.zip members).foldl (fun b p => b.put p.1 p.2) b
  | none => b

end Bindings

end SurveyGraph
