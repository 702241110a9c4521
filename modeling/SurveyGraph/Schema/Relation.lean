import SurveyGraph.Value.Convert
/-!
# Relations between classes

A class lists the classes that come before it (parents) and after it (children): plain classes, or
relations with a number of instances, a name of their own, and constraints.

Two relations count as equal when their fingerprints agree. A fingerprint adds up the parts of a
relation, so that a part that occurs twice cancels.
-/
namespace SurveyGraph

abbrev ClassId := Nat

inductive RelationKind where
  | multiple
  | oneOf
  | optional
  deriving Repr, BEq, DecidableEq

/-- The class at the far end of a relation, or its name while that class is not declared yet. -/
inductive Target where
  | cls (c : ClassId)
  | awaiting (name : String)
  deriving Repr, BEq, DecidableEq

/-- A class that all instances of a relation must share, or a name that is no class. -/
inductive Constraint where
  | cls (c : ClassId)
  | name (s : String)
  deriving Repr, BEq, DecidableEq

structure Relation where
  kind : RelationKind
  target : Target
  /-- The relation goes to the declaring class itself, also in its subclasses. -/
  toSelf : Bool
  min : Int
  max : Option Int
  constrain : List Constraint
  idname : Option String
  one2one : Bool
  ordered : Bool
  /-- The relation states a rule and is never given at creation. -/
  notReal : Bool
  deriving Repr, BEq

def Relation.isOptional (r : Relation) : Bool := r.min == 0

inductive Member where
  | cls (c : ClassId)
  | rel (r : Relation)
  | name (s : String)
  deriving Repr, BEq

def Relation.one (c : ClassId) : Relation :=
  { kind := .oneOf, target := .cls c, toSelf := false, min := 1, max := some 1, constrain := []
    idname := none, one2one := false, ordered := false, notReal := false }

inductive Mark where
  | kind (k : RelationKind)
  | nothing
  | text (s : String)
  | cls (c : ClassId)
  deriving Repr, BEq, DecidableEq

/-- The sum of the parts of a relation: numbers are added bit by bit, marks by parity. -/
structure Fingerprint where
  bits : UInt64
  marks : List Mark
  deriving Repr

namespace Fingerprint

def ofInt (n : Int) : UInt64 :=
  let m := n.natAbs % (Nat.pow 2 61 - 1)
  if n < 0 then
    let m := if m == 1 then 2 else m
    0 - m.toUInt64
  else m.toUInt64

def toggle (m : Mark) (ms : List Mark) : List Mark := if ms.contains m then ms.erase m else m :: ms

def agrees (a b : Fingerprint) : Bool := a.bits == b.bits && a.marks.all b.marks.contains && b.marks.all a.marks.contains

def textMarks (s : String) : List Mark := if s.isEmpty then [] else [.text s]

end Fingerprint

def Relation.fingerprint (r : Relation) (className : String) : Fingerprint :=
  let maxBits := match r.max with | some m => Fingerprint.ofInt m | none => 0
  let marks := [Mark.kind r.kind] ++ (if r.max.isNone then [.nothing] else [])
    ++ (match r.idname with | some s => Fingerprint.textMarks s | none => [.nothing])
    ++ r.constrain.flatMap (fun
      | .cls c => [Mark.cls c]
      | .name s => Fingerprint.textMarks s)
    ++ Fingerprint.textMarks className
  { bits := Fingerprint.ofInt r.min ^^^ maxBits ^^^ (if r.ordered then 1 else 0)
    marks := marks.foldl (fun acc m => Fingerprint.toggle m acc) [] }

end SurveyGraph
