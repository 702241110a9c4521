/-!
# Tables of characters

Sets of code points, kept as the lengths of stretches, and letters in two cases, kept as series of pairs.
-/
namespace SurveyGraph.Text

/-- Whether the code point is in the set of stretches, given by the lengths outside and inside it by turns. -/
def inStretches : List Nat → Nat → Bool
  | outside :: inside :: rest, n =>
    outside ≤ n && (n < outside + inside || inStretches rest (n - (outside + inside)))
  | _, _ => false

/-- So many capital letters and as many small letters, each `stride` apart. -/
structure Pairs where
  capital : Nat
  small : Nat
  count : Nat
  stride : Nat
  deriving Repr

namespace Pairs

def single : Nat × Nat → Pairs
  | (capital, small) => { capital, small, count := 1, stride := 1 }

/-- So many capital letters in a row, and their small letters in a row. -/
def row : Nat × Nat × Nat → Pairs
  | (capital, small, count) => { capital, small, count, stride := 1 }

/-- So many capital letters that are each followed by their small letter. -/
def alternating : Nat × Nat → Pairs
  | (capital, count) => { capital, small := capital + 1, count, stride := 2 }

/-- The code point at the place in a series of letters that another has in its own. -/
def across? (p : Pairs) (source target n : Nat) : Option Nat :=
  if source ≤ n && n < source + p.stride * p.count && (n - source) % p.stride == 0 then some (n - source + target) else none

end Pairs

def small? (ps : List Pairs) (n : Nat) : Option Nat := ps.findSome? fun p => p.across? p.capital p.small n

def capital? (ps : List Pairs) (n : Nat) : Option Nat := ps.findSome? fun p => p.across? p.small p.capital n

def lookupSpecial (t : List (Nat × List Nat)) (n : Nat) : Option (List Char) := (t.lookup n).map (·.map Char.ofNat)

end SurveyGraph.Text
