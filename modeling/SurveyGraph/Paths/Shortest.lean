import SurveyGraph.Fault
/-!
# Shortest paths

Search on a graph of numbers below a bound, with successors in a fixed order. `predecessors` finds the
predecessors of every node on all shortest paths; `firstPath` follows them back. `unweightedPath`
searches from both ends at once.
-/
namespace SurveyGraph

inductive Quantity where
  | finite (n : Int)
  | infinite
  deriving Repr, DecidableEq, Inhabited

namespace Quantity

def add : Quantity → Quantity → Quantity
  | .finite a, .finite b => .finite (a + b)
  | _, _ => .infinite

def lt : Quantity → Quantity → Bool
  | .finite a, .finite b => a < b
  | .finite _, .infinite => true
  | .infinite, _ => false

end Quantity

namespace Shortest

/-- The state of the search; `fringe` holds the nodes to visit as they were met. -/
structure State where
  settled : Array (Option Quantity)
  seen : Array (Option Quantity)
  before : Array (Option (List Nat))
  fringe : List (Quantity × Nat)

def popNearest : List (Quantity × Nat) → Option ((Quantity × Nat) × List (Quantity × Nat))
  | [] => none
  | x :: xs =>
    let best := xs.foldl (fun b y => if y.1.lt b.1 then y else b) x
    some (best, (x :: xs).erase best)

/-- Notes that `u` can be reached from `v` at distance `d`. -/
def relax (v : Nat) (s : State) (u : Nat) (d : Quantity) : Except Fault State :=
  match s.settled.getD u none, s.seen.getD u none with
  | some du, _ =>
    if d.lt du then refuse .badValue
    else if d == du then .ok { s with before := s.before.modify u (·.map (· ++ [v])) }
    else .ok s
  | none, seen =>
    let nearer := match seen with | some old => d.lt old | none => true
    if nearer then
      .ok { s with
        seen := s.seen.setIfInBounds u (some d)
        before := s.before.setIfInBounds u (some [v])
        fringe := s.fringe ++ [(d, u)] }
    else if seen == some d then .ok { s with before := s.before.modify u (·.map (· ++ [v])) }
    else .ok s

def visit (succ : Nat → Except Fault (List (Nat × Quantity))) : Nat → State → Except Fault State
  | 0, s => .ok s
  | fuel + 1, s =>
    match popNearest s.fringe with
    | none => .ok s
    | some ((d, v), rest) => do
      let s := { s with fringe := rest }
      if (s.settled.getD v none).isSome then visit succ fuel s
      else
        let s := { s with settled := s.settled.setIfInBounds v (some d) }
        let next ← succ v
        let s ← next.foldlM (fun s (u, c) => relax v s u (d.add c)) s
        visit succ fuel s

/-- The predecessors of every node on all shortest paths. `size` bounds the nodes, `edges` the
edges. -/
def predecessors (succ : Nat → Except Fault (List (Nat × Quantity))) (size edges source : Nat) :
    Except Fault (Array (Option (List Nat))) := do
  let blank : Array (Option Quantity) := Array.replicate size none
  let s : State :=
    { settled := blank
      seen := blank.setIfInBounds source (some (.finite 0))
      before := (Array.replicate size none).setIfInBounds source (some [])
      fringe := [(.finite 0, source)] }
  let s ← visit succ (edges + 2) s
  return s.before

/-- The first path from the source to a node, without circles. -/
def firstPath (before : Array (Option (List Nat))) (source : Nat) :
    Nat → List Nat → Nat → Option (List Nat)
  | 0, _, _ => none
  | fuel + 1, seen, node =>
    if node == source then some [node]
    else ((before.getD node none).getD []).findSome? fun p =>
      if seen.contains p then none
      else (firstPath before source fuel (p :: seen) p).map (· ++ [node])

/-- A search from both ends: how each node was met, and the nodes met last. -/
structure TwoEnds where
  before : List (Nat × Option Nat)
  after : List (Nat × Option Nat)
  front : List Nat
  back : List Nat

/-- Notes the nodes one step from `v`, up to the first that the other side has met. -/
def scan (other : List (Nat × Option Nat)) (v : Nat) :
    List Nat → List (Nat × Option Nat) → List Nat → List (Nat × Option Nat) × List Nat × Option Nat
  | [], met, fringe => (met, fringe, none)
  | w :: ws, met, fringe =>
    let isNew := (met.lookup w).isNone
    let met := if isNew then (w, some v) :: met else met
    let fringe := if isNew then fringe ++ [w] else fringe
    if (other.lookup w).isSome then (met, fringe, some w) else scan other v ws met fringe

/-- Expands one level on one side. `met` tells how its nodes were met, the last first; `other` are those of
the other side. Answers where the sides meet. -/
def expand (step : Nat → List Nat) (other : List (Nat × Option Nat)) :
    List Nat → List (Nat × Option Nat) → List Nat →
      List (Nat × Option Nat) × List Nat × Option Nat
  | [], met, fringe => (met, fringe, none)
  | v :: level, met, fringe =>
    match scan other v (step v) met fringe with
    | (met, fringe, some w) => (met, fringe, some w)
    | (met, fringe, none) => expand step other level met fringe

/-- The nodes through which a node was met, back to the first. -/
def follow : List (Nat × Option Nat) → Nat → List Nat
  | [], w => [w]
  | (u, before) :: met, w =>
    if u == w then
      match before with
      | some v => w :: follow met v
      | none => [w]
    else follow met w

def joined (before after : List (Nat × Option Nat)) (w : Nat) : List Nat :=
  (follow before w).reverse ++ (follow after w).tail

/-- Searches level by level, on the side with the smaller level. -/
def searchTwoEnds (succ pred : Nat → List Nat) : Nat → TwoEnds → Option (List Nat)
  | 0, _ => none
  | fuel + 1, s =>
    if s.front.isEmpty || s.back.isEmpty then none
    else if s.front.length ≤ s.back.length then
      match expand succ s.after s.front s.before [] with
      | (before, _, some w) => some (joined before s.after w)
      | (before, front, none) => searchTwoEnds succ pred fuel { s with before, front }
    else
      match expand pred s.before s.back s.after [] with
      | (after, _, some w) => some (joined s.before after w)
      | (after, back, none) => searchTwoEnds succ pred fuel { s with after, back }

def unweightedPath (succ pred : Nat → List Nat) (size source target : Nat) : Option (List Nat) :=
  if source == target then some [source]
  else searchTwoEnds succ pred (2 * size + 2)
    { before := [(source, none)], after := [(target, none)], front := [source], back := [target] }

/-- Adds the nodes one step away, until nothing new is met. -/
def closure (step : Nat → List Nat) : Nat → List Nat → List Nat → List Nat
  | 0, _, met => met
  | _, [], met => met
  | fuel + 1, v :: todo, met =>
    let fresh := ((step v).filter (!met.contains ·)).eraseDups
    closure step fuel (todo ++ fresh) (met ++ fresh)

end Shortest

end SurveyGraph
