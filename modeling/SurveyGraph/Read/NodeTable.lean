/-!
# Tables of nodes

A set of node numbers in a table of slots. The slot of a number is its remainder by the size of the
table, or a free slot that follows by a fixed rule. A table that is three fifths full grows, and so does
one in which the rule comes to no free slot.

Members are listed by slot. The order matters where several nodes are equally good.
-/
namespace SurveyGraph

/-- A set of numbers in slots. The number of slots is a power of two. -/
structure NodeTable where
  slots : List (Option Nat) := List.replicate 8 none

namespace NodeTable

def members (t : NodeTable) : List Nat := t.slots.filterMap id

def neighbours : Nat := 9

/-- The slot that has a number, or a free one: the slot itself, neighbours within the table, then another
slot. -/
def place (slots : List (Option Nat)) (n : Nat) : Nat → Nat → Nat → Option Nat
  | 0, _, _ => none
  | fuel + 1, i, rest =>
    let size := slots.length
    let near := if i + neighbours < size then neighbours + 1 else 1
    match (List.range' i near).find? (fun j =>
      match slots[j]? with
      | some none => true
      | some (some m) => m == n
      | none => false) with
    | some j => some j
    | none =>
      let rest := rest / 32
      place slots n fuel ((i * 5 + 1 + rest) % size) rest

def put (slots : List (Option Nat)) (n : Nat) : List (Option Nat) :=
  match place slots n (slots.length + n) (n % slots.length) n with
  | some j => slots.set j (some n)
  | none => slots ++ [some n]

def sizeOver (least : Nat) : Nat → Nat → Nat
  | 0, size => size
  | fuel + 1, size => if least < size then size else sizeOver least fuel (2 * size)

def insert (t : NodeTable) (n : Nat) : NodeTable :=
  if t.members.contains n then t
  else
    let slots := put t.slots n
    let t : NodeTable := { slots }
    let count := t.members.length
    if count * 5 < (slots.length - 1) * 3 then t
    else { slots := t.members.foldl put (List.replicate (sizeOver (4 * count) count 8) none) }

def ofList (ns : List Nat) : NodeTable := ns.foldl insert {}

/-- The members of both sets, in the order of the smaller one. -/
def inter (t u : NodeTable) : NodeTable :=
  let (few, many) := if u.members.length > t.members.length then (t, u) else (u, t)
  ofList (few.members.filter many.members.contains)

end NodeTable

end SurveyGraph
