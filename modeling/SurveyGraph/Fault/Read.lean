import SurveyGraph.Fault.Kind
import SurveyGraph.Text.Basic
/-!
# Causes of failure: reading queries
-/
namespace SurveyGraph

/-- What can be wrong with a query or its graph. -/
inductive ReadCause where
  | deadEnd
  | dependencyWalked
  | arcsMissed
  | dependencyUnmet (node : Nat)
  | notATree
  | manyInputs
  | manyOutputs
  | noOutput
  | cyclic
  | disconnected (start finish : Nat)
  | aggregateNotBelow (wrt agg : Nat)
  | usedOutside (node agg wrt : Nat)
  | manyWrt (node : Nat)
  | manyAggregates (node : Nat)
  | aggregateMisused (node : Nat)
  | manyFilters (node : Nat)
  | filterInput (node : Nat)
  | manyTraversals (node : Nat)
  | traversalInput (node : Nat)
  | manyOperations (node : Nat)
  | operationLoose (node : Nat)
  | operationInput (node : Nat)
  /-- Nodes that are combined without one being above the others. -/
  | unrelated (nodes : List Nat) (shared : Nat)
  | noFold
  | notAncestor (node wrt : Nat)
  | filterApart (node predicate : Nat)
  | notBoolean (mask dtype : String)
  | filterDisjoint (query mask obj maskObj : String)
  | aggregateDisjoint (query wrt : String)
  | wrtAttribute (item wrt : String)
  | invalidObject (name : String)
  | unreachable (name : String) (classes : List String)
  | ambiguous (name : String) (classes : List String)
  | notAnAttribute (name : String)
  | several (name source plural : String)
  | noSingular (obj source plural : String)
  | noRelative (obj source : String)
  | notSingular (obj source : String)
  | onePair (item : String)
  | badIndex
  | mixedIndex
  | ambiguousRelation (item owner : String)
  | noRelation (obj name : String)
  | unknownAttribute (name : String)
  | noDefault (obj : String)
  | noComparison (obj singular : String)
  | hidden (className name : String)
  | hiddenKey
  | noColumn (column table : String)
  | startSingle (obj : String)
  | startSingleName (name : String)
  | noAttribute (shown name : String)
  | notByNumber (shown : String)
  | filterByValue
  | notInLine (a b : String)
  | notInLineOthers (a : String)
  | objectArithmetic
  | bitsNotWhole
  | product
  | noAppend
  | appendType (other typeName : String)
  | appendIndex
  | appendNames (other table : String) (names : List String)
  | notAligned
  | alignApart
  | alignMixed
  | splitBy
  | joinBy (typeName : String)
  | joinOn (how : String)
  | initialNotQuery
  | switchItem
  | switchObject
  | switchTypes (types : List String)
  | notObjectOrData (shown : String)
  | notObject (shown : String)
  | searchAttribute
  | notImplemented
  | notCompilable (typeName : String)
  | noConnection
  deriving Repr, BEq, DecidableEq

namespace ReadCause

def kind : ReadCause → FaultKind
  | .deadEnd => .deadEnd
  | .notAncestor .. | .filterApart .. | .mixedIndex | .noDefault _ | .notInLine .. | .notInLineOthers _ =>
    .badQuery
  | .notBoolean .. | .wrtAttribute .. | .badIndex | .filterByValue | .objectArithmetic | .bitsNotWhole
  | .product | .noAppend | .appendType .. | .notAligned | .splitBy | .joinBy _ | .initialNotQuery
  | .switchItem | .switchObject | .switchTypes _ | .notObjectOrData _ | .notObject _
  | .searchAttribute => .badType
  | .filterDisjoint .. | .aggregateDisjoint .. => .disjointPath
  | .invalidObject _ | .hiddenKey | .noColumn .. | .notByNumber _ => .missingKey
  | .unreachable .. | .ambiguous .. => .ambiguousPath
  | .notAnAttribute _ | .onePair _ | .appendIndex | .appendNames .. | .alignApart | .alignMixed
  | .joinOn _ => .badValue
  | .several .. | .noSingular .. | .noRelative .. | .notSingular .. | .startSingle _
  | .startSingleName _ => .cardinality
  | .ambiguousRelation .. | .noRelation .. | .unknownAttribute _ | .noComparison .. => .attributeName
  | .hidden .. | .noAttribute .. => .missingAttribute
  | .notImplemented | .notCompilable _ => .unsupported
  | .noConnection => .connectionLost
  | _ => .unwritable

def tuple (ns : List Nat) : String :=
  match ns with
  | [n] => "(" ++ toString n ++ ",)"
  | ns => "(" ++ Text.join ", " (ns.map toString) ++ ")"

def message : ReadCause → String
  | .deadEnd | .noFold | .hiddenKey | .noAppend | .notImplemented => ""
  | .dependencyWalked => "Some dep edges where traversed. This is a bug"
  | .arcsMissed => "Not all edges were traversed. This is a bug"
  | .dependencyUnmet n => s!"node {n} does not have all its dependencies satisfied. This is a bug"
  | .notATree => "Invalid query: The DAG for this query is not a directed tree with max 1 parent per node"
  | .manyInputs => "Only one input node is allowed"
  | .manyOutputs => "Only one output node is allowed"
  | .noOutput => "An output node is required"
  | .cyclic => "There are cyclical dependencies"
  | .disconnected a b => s!"There must be a path from {a} to {b}"
  | .aggregateNotBelow wrt agg => s!"{wrt} must be a parent of {agg} in order to aggregate"
  | .usedOutside node agg wrt =>
    s!"{node} can an only use what is aggregated above it. failure on {agg} (parent={wrt})"
  | .manyWrt n => s!"Cannot put > 1 wrt paths as output from an aggregation: {n}"
  | .manyAggregates n => s!"Cannot aggregate more than one node at a time: {n}"
  | .aggregateMisused n =>
    s!"Can only use aggregations as a dependency/operation/aggregation afterwards {n}"
  | .manyFilters n => s!"Can only have one filter input: {n}"
  | .filterInput n => s!"A filter can only take dependencies not traversals/ops/aggregations: {n}"
  | .manyTraversals n => s!"Can only have one traversal input: {n}"
  | .traversalInput n => s!"Can only traverse with one input or one input and one unwind: {n}"
  | .manyOperations n => s!"Can only have one op input: {n}"
  | .operationLoose n => s!"All operations must be aggregated back at some point: {n}"
  | .operationInput n => s!"Can only have dependencies as input for an operation: {n}"
  | .unrelated nodes shared =>
    let ns := tuple nodes
    s!"One of {ns} must be a parent of the other. {shared} not in {ns} "
  | .notAncestor node wrt =>
    s!"{node} cannot be aggregated to {wrt} ({wrt} is not an ancestor of {node})"
  | .filterApart node predicate =>
    s!"{node} cannot be filtered by {predicate} since there is no direct path between them"
  | .notBoolean mask dtype =>
    s!"The predicate in a filter `query[predicate]`, must be of type boolean. {mask} is of type {dtype}. "
  | .filterDisjoint query mask obj maskObj =>
    s!"{query} cannot be filtered by {mask} since `{obj}` != `{maskObj}`.This may be because a nonsensical `wrt` has specified in an aggregation."
  | .aggregateDisjoint query wrt =>
    s!"Cannot aggregate {query} into {wrt} since they don't share a parent query"
  | .wrtAttribute item wrt =>
    s!"Cannot aggregate {item} with respect to an attribute {wrt}. You can only aggregate with respect to an object."
  | .invalidObject name => s!"{name} is not a valid object name"
  | .unreachable name classes =>
    s!"There is no path to any object that contains `{name}`. _SortedSet(\x7b"
      ++ Text.join ", " classes ++ "\x7d) are not reachable"
  | .ambiguous name classes =>
    s!"`{name}` is contained within more than one unrelated object ["
      ++ Text.join ", " (classes.map (fun c => "'" ++ c ++ "'")) ++ "]. Be specific."
  | .notAnAttribute name => s!"{name} is not a valid attribute name"
  | .several name source plural =>
    s!"Requested one `{name}` from `{source}` when `{source}` has several `{plural}`"
  | .noSingular obj source plural =>
    s!"There is no singular {obj} relative to {source} try using its plural {plural}"
  | .noRelative obj source => s!"There is no {obj} relative to {source}"
  | .notSingular obj source => s!"{obj} is not singular relative to {source}"
  | .onePair item => s!"Must have one key-value pair per item, got {item}"
  | .badIndex => "Cannot index by non str/float/int/AttributeQuery values"
  | .mixedIndex => "You may not mix filtering by id and building a table with attributes"
  | .ambiguousRelation item owner =>
    s!"`{item}` is ambiguous. Choose a specific attribute like `.{owner}.{item}`."
  | .noRelation obj name => s!"`{obj}` has no relative relation called `{name}`"
  | .unknownAttribute name => s!"Unknown attribute `{name}`"
  | .noDefault obj =>
    s!"{obj} cannot be returned/identified since it doesn't define any unique idname. If you want to return all singular data for {obj} use ...['*']"
  | .noComparison obj singular =>
    s!"`A {obj}` has no attribute `id`, `name`, or `value` to compare with. Choose a specific attribute like `{singular}.id`."
  | .hidden className name => s!"'{className}' object has no attribute '{name}'"
  | .noColumn column table => s!"`{column}` is not a column in the table `{table}`"
  | .startSingle obj => s!"Cannot start query with a single object `{obj}`"
  | .startSingleName name => s!"Cannot start a query with a single object `{name}`"
  | .noAttribute shown name => s!"{shown} has no attribute {name}"
  | .notByNumber shown => s!"{shown} cannot be indexed by integers."
  | .filterByValue =>
    "You can only filter an attribute by another attribute i.e. `lines[lines > 0]` not `lines[0]`"
  | .notInLine a b =>
    s!"You may not perform an operation on {a} and {b} since one is not an ancestor of the other"
  | .notInLineOthers a =>
    s!"You may not perform an operation on {a} and others since one is not an ancestor of the other"
  | .objectArithmetic => "Cannot do arithmetic directly on objects"
  | .bitsNotWhole => "For a bitwise operation both sides must be integers"
  | .product =>
    "Binary data products cannot be operated upon. This is because they are not stored in the database"
  | .appendType other typeName =>
    s!"Can only append columns of another TableQuery to a TableQuery. {other} is a {typeName}"
  | .appendIndex => "Cannot append columns of a table that does not share the same index object."
  | .appendNames other table names =>
    let shared := "\x7b" ++ Text.join ", " names ++ "\x7d"
    s!"Cannot append columns of {other} to {table} since they share column names {shared}. Change their column names with: `table[[\x7b'new_name': column\x7d]]` instead of table[[column]]"
  | .notAligned => "All queries must be Queries objects"
  | .alignApart => "All queries must be from the same parent Data object"
  | .alignMixed => "All queries must be tables if any are tables"
  | .splitBy => "groupby must be an AttributeQuery, str, or ObjectQuery"
  | .joinBy typeName => s!"join_query must be an AttributeQuery or str, not {typeName}"
  | .joinOn how =>
    s!"join_on must be either the input table `table` or the input object `object_query`, not {how}"
  | .initialNotQuery => "The initial item must be an AttributeQuery"
  | .switchItem => "`item` must be an AttributeQuery"
  | .switchObject => "Switching on objects is not yet supported"
  | .switchTypes types =>
    "All switch result values, including else, must be of the same type. Types given: \x7b"
      ++ Text.join ", " types ++ "\x7d"
  | .notObjectOrData shown => s!"{shown} is not an ObjectQuery or Data"
  | .notObject shown => s!"{shown} is not a ObjectQuery"
  | .searchAttribute =>
    "You cannot search for things in an attribute query. Try using find on an object instead."
  | .noConnection =>
    "Py2neo dropped the connection because it was taking too long. Split up your query using batch_size=??"
  | .notCompilable typeName => s!"{typeName} is not compilable"

end ReadCause

end SurveyGraph
