import SurveyGraph.Fault.Schema
import SurveyGraph.Fault.Read
import SurveyGraph.Fault.Write
import SurveyGraph.Fault.Files
/-!
# Failures

A failure is a cause of one of the areas, or a plain failure that has a kind and nothing to say. A
failure with suggestions is one that was met while a name was looked up.
-/
namespace SurveyGraph

/-! ## Causes of failure: paths between classes -/

/-- What can go wrong on the way between two classes, given as they are shown. -/
inductive PathCause where
  | noEdge (a b : String)
  | notInGraph (a graph : String)
  | unordered (a b : String)
  | noLink (source target : String)
  deriving Repr, BEq, DecidableEq

namespace PathCause

def kind : PathCause → FaultKind
  | .notInGraph .. => .missingNode
  | _ => .noPath

def message : PathCause → String
  | .noEdge a b => s!"No path found between {a} and {b}"
  | .notInGraph a graph => s!"Node {a} not found in graph {graph}"
  | .unordered a b => s!"There is no path between {a} and {b}"
  | .noLink source target =>
    s!"Can't find a link between `{source}` and {target}. This may be because it doesn't make sense for `{source}` to have {target}. Try checking the cardinality of your query."

end PathCause

/-! ## Causes of failure: names and values -/

inductive ValueCause where
  /-- A plural of a name that has the ending for collections already. -/
  | groupName (name : String)
  | mixedList
  | smallLabel
  deriving Repr, BEq, DecidableEq

namespace ValueCause

def kind : ValueCause → FaultKind
  | .groupName _ | .smallLabel => .badValue
  | .mixedList => .badType

def message : ValueCause → String
  | .groupName name => s!"Cannot pluralise {name} since it ends with '_group'"
  | .mixedList => "Lists must be of homogeneous type"
  | .smallLabel => "Labels must be camelcase"

end ValueCause

/-! ## Causes of failure: scripts -/

inductive ScriptCause where
  | unbound (name : String)
  deriving Repr, BEq, DecidableEq

namespace ScriptCause

def kind : ScriptCause → FaultKind
  | .unbound _ => .unbound

def message : ScriptCause → String
  | .unbound name => name

end ScriptCause

inductive Fault where
  /-- A failure without a message. `detail` is what it is about. -/
  | plain (kind : FaultKind) (detail : String)
  /-- A failure in looking up a name, with names that may have been meant. -/
  | suggesting (kind : FaultKind) (text : String) (names : List String)
  | value (c : ValueCause)
  | schema (c : SchemaCause)
  | path (c : PathCause)
  | read (c : ReadCause)
  | script (c : ScriptCause)
  | write (c : WriteCause)
  | file (c : FileCause)
  deriving Repr, BEq

namespace Fault

def kind : Fault → FaultKind
  | .plain k _ => k
  | .suggesting k _ _ => k
  | .value c => c.kind
  | .schema c => c.kind
  | .path c => c.kind
  | .read c => c.kind
  | .script c => c.kind
  | .write c => c.kind
  | .file c => c.kind

def message? : Fault → Option String
  | .plain _ _ => none
  | .suggesting _ text names =>
    let lines := (List.range names.length).zip names |>.map (fun (i, n) => toString (i + 1) ++ ". " ++ n)
    some (text ++ "\ndid you mean one of:\n" ++ Text.join "\n" lines)
  | .value c => some c.message
  | .schema c => some c.message
  | .path c => some c.message
  | .read c => some c.message
  | .script c => some c.message
  | .write c => some c.message
  | .file c => some c.message

end Fault

class Cause (ε : Type) where
  toFault : ε → Fault

instance : Cause Fault := ⟨id⟩
@[default_instance] instance : Cause FaultKind := ⟨(.plain · "")⟩
instance : Cause ValueCause := ⟨.value⟩
instance : Cause SchemaCause := ⟨.schema⟩
instance : Cause PathCause := ⟨.path⟩
instance : Cause ReadCause := ⟨.read⟩
instance : Cause ScriptCause := ⟨.script⟩
instance : Cause WriteCause := ⟨.write⟩
instance : Cause FileCause := ⟨.file⟩

def refuse {m : Type → Type} {α ε : Type} [MonadExceptOf Fault m] [Cause ε] (e : ε) : m α := throw (Cause.toFault e)

@[simp] theorem refuse_except {α ε : Type} [Cause ε] (e : ε) : (refuse e : Except Fault α) = .error (Cause.toFault e) := rfl

theorem bind_ok {α β : Type} {x : Except Fault α} {f : α → Except Fault β} {b : β} (h : x >>= f = .ok b) :
    ∃ a, x = .ok a ∧ f a = .ok b := by
  cases x with
  | error e => cases h
  | ok a => exact ⟨a, rfl, h⟩

end SurveyGraph
