import SurveyGraph.Read.Select
import SurveyGraph.Value.Arithmetic
/-!
# Arithmetic on attributes

Operators and functions whose result is an attribute. A plain value becomes a parameter. Two attributes
can be combined if one belongs to an object above the other's: the result belongs to the lower one.

Values that are infinite count as missing.
-/
namespace SurveyGraph.Query

variable (d : Catalogue) (op : String) (q : Query)

def place (i : Nat) : String := "\x7b" ++ toString i ++ "\x7d"

/-- Computes with an attribute and other operands. The template has a place for each; those of
operands that are no queries are filled. Attributes in files cannot be computed with; `bare` says
nothing about the result. -/
def compute (template name : String) (others : List (Option Query))
    (expected returns : Option String) (params : List String) (bare : Bool := false) : PlanM Query := do
  if q.kind == .product then
    if bare then refuse ReadCause.product else refuse .badType
  if others.any (fun o => o.any (·.kind.isObject)) then refuse ReadCause.objectArithmetic
  let places := (List.range (others.length + 1)).map place
  let template ← if expected.isSome then Phrase.convertPlaces q.dtype expected template places
    else pure template
  let masks := (places.zip (some q :: others)).map fun (p, o) =>
    if o.isSome then Phrase.maskInfinity p else "\x7biother\x7d"
  let template ← Text.Template.fill template masks
  let nodes := (others.filterMap id).map (·.node)
  let combined := orElseIf (Plan.addCombination template name (q.node :: nodes) none params)
    (·.kind == .unwritable) (fun _ => refuse (ReadCause.notInLineOthers q.shown))
  let (n, wrt) ← if nodes.isEmpty then Plan.addOperation q.node template name params else combined
  q.spawn d .attribute n { index := .node wrt, single := true, dtype := returns, factor := some name }

def applyFunction (name : String) (expected returns : Option String := none) : PlanM Query :=
  q.compute d (name ++ "(\x7b0\x7d)") name [] expected returns []

structure Wording where
  name : String
  write : String → String → String

def between : Wording := ⟨op, fun a b => a ++ " " ++ op ++ " " ++ b⟩

def bitwise : Wording := ⟨op, fun a b => "apoc.bitwise.op(" ++ a ++ ", \"" ++ op ++ "\", " ++ b ++ ")"⟩

/-- Combines an attribute with an operand, which comes first if `switched`. -/
def combine (w : Wording) (other : Item) (switched : Bool) (expected returns : Option String) : PlanM Query := do
  let write (b : String) : String := if switched then w.write b (place 0) else w.write (place 0) b
  match other.attribute? with
  | some o => q.compute d (write (place 1)) w.name [some o] expected returns []
  | none => do
    let name ← Plan.addParameter other "param"
    q.compute d (write name) w.name [none] expected returns [name]

def areWhole (other : Item) : Bool :=
  q.dtype == some "integer" && match other with
    | .plain (.int _) _ => true
    | x => x.attribute?.any (·.dtype == some "integer")

/-- Combines by logic: bits of whole numbers, truth values otherwise. -/
def logic (name bits : String) (other : Item) (switched : Bool) : PlanM Query :=
  let asTruth := q.combine d (between name) other false (some "boolean") (some "boolean")
  if q.areWhole other then
    orElseIf (q.combine d (bitwise bits) other switched none (some "integer")) (·.kind == .badType) (fun _ => asTruth)
  else asTruth

/-- An operator on an attribute and an operand. A text may be a pattern. -/
def operate (op : Operator) (other : Item) (switched : Bool) : PlanM Query := do
  let number := some "number"
  let truth := some "boolean"
  match op with
  | .add => q.combine d (between "+") other switched number number
  | .sub => q.combine d (between "-") other switched number number
  | .mul => q.combine d (between "*") other switched number number
  | .div => q.combine d (between "/") other switched (some "float") (some "float")
  | .eq =>
    match other with
    | .plain (.text s) mark =>
      if Phrase.isPattern s then
        let stripped := Phrase.stripSlashes s
        let mark ← if stripped == s then pure mark else Plan.freshOccurrence
        q.combine d (between "=~") (.plain (.text stripped) mark) false number truth
      else q.combine d (between "=") other false number truth
    | _ => q.combine d (between "=") other false number truth
  | .ne => q.combine d (between "<>") other false number truth
  | .lt => q.combine d (between "<") other false number truth
  | .le => q.combine d (between "<=") other false number truth
  | .gt => q.combine d (between ">") other false number truth
  | .ge => q.combine d (between ">=") other false number truth
  | .and => q.logic d "and" "&" other switched
  | .or => q.logic d "or" "|" other switched
  | .xor => q.logic d "xor" "^" other switched
  | .addTo => refuse ReadCause.noAppend

def operateUnary : UnaryOperator → PlanM Query
  | .neg => q.compute d "-\x7b\x7b0\x7d\x7d" "neg" [] none none [] true
  | .abs => q.applyFunction d "abs"
  | .invert => q.applyFunction d "not" (some "boolean") (some "boolean")
  | .ceil => q.applyFunction d "ceil"
  | .floor => q.applyFunction d "floor"
  | .round digits => q.compute d ("round(\x7b0\x7d, " ++ digits ++ ")") ("round" ++ digits) [] none none [] true

def where_ (q mask : Query) : PlanM Query := do
  let template := "CASE WHEN toBoolean(toInteger(\x7b1\x7d)) THEN \x7b0\x7d ELSE null END"
  let (n, _) ← orElseIf (Plan.addCombination template "op-filter" [q.node, mask.node])
    (·.kind == .unwritable) (fun _ => refuse (ReadCause.notInLine q.shown mask.shown))
  q.spawn d .attribute n { index := .node n, single := true, dtype := q.dtype }

def equalObject (other : Item) : PlanM Query := do
  if q.kind == .row then refuse ReadCause.notImplemented
  let c ← d.get (objText q.obj)
  match ["id", "name", "value"].find? c.productsAndFactors.contains with
  | some i => do
    let a ← q.ownAttribute d i true
    a.operate d .eq other false
  | none => refuse (ReadCause.noComparison (objText q.obj) c.singularName)

def databaseId : PlanM Query := do
  let (n, wrt) ← Plan.addOperation q.node "id(\x7b0\x7d)" "neo4j_id"
  q.spawn d .attribute n { index := .node wrt, single := true, dtype := some "number", factor := some "neo4j_id" }

def append (q t : Query) : PlanM Query := do
  let some p := q.previous | refuse .missingAttribute
  if t.previous.map (·.serial) != some p.serial then refuse ReadCause.appendIndex
  let some own := q.columns | refuse .badType
  let some more := t.columns | refuse .badType
  let shared := q.names.filter (fun n => t.names.any (Value.same n))
  if !shared.isEmpty then
    refuse (ReadCause.appendNames t.shown q.shown (Catalogue.sortTexts (shared.map (·.literal))))
  let attrs := own ++ more
  let n ← Plan.addTable p.node (attrs.map (fun a => (a.node, !a.single)))
  let products := attrs.map (fun a => a.products.headD false)
  let r ← p.spawn d .table n { names := q.names ++ t.names, products := some products, columns := some attrs }
  return { r with oneRow := ← (← get).isSingularInPart n }

end SurveyGraph.Query
