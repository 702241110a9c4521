/-!
# Kinds of failure

A failure has a kind, by which callers tell what they recover from, and a cause, which says what
went wrong. The kinds stand here; the causes of each area stand with that area.
-/
namespace SurveyGraph

inductive FaultKind where
  | badValue
  | badType
  | missingKey
  | outOfRange
  | missingAttribute
  | failedCheck
  | missingName
  /-- A chain of definitions that does not end. -/
  | tooDeep
  | unsupported
  | refused
  | missingFile
  | duplicateFile
  | overflow
  | unassigned
  | exhausted
  | ruleBroken
  /-- A query graph that cannot be written down. -/
  | unwritable
  /-- A walk through a query graph that cannot go on. -/
  | deadEnd
  /-- More than one way to understand a name. -/
  | ambiguousPath
  /-- One thing where there are many. -/
  | cardinality
  | attributeName
  /-- Two queries that do not belong to one line. -/
  | disjointPath
  | badQuery
  | noPath
  | missingNode
  | cyclic
  | badGraph
  | emptyGraph
  | dividedByZero
  | propertyOverlap
  | nullProperty
  | noContext
  | connectionLost
  | badPattern
  /-- A step used a variable that nothing bound. -/
  | unbound
  deriving Repr, BEq, DecidableEq

end SurveyGraph
