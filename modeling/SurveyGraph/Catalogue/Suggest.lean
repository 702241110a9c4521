import SurveyGraph.Catalogue.Arrows
/-!
# Suggestions

Names of the catalogue that are close to a name that was not found. Of equally close names the one
that comes first by code points is first.
-/
namespace SurveyGraph.Text

/-! ## Similarity of names -/

/-- The first position in `[lo, hi)` that holds `c` and is not used yet. -/
def firstFree (b : Array Char) (used : List Nat) (c : Char) (lo : Nat) : Nat → Option Nat
  | 0 => none
  | n + 1 =>
    if b[lo]? == some c && !used.contains lo then some lo else firstFree b used c (lo + 1) n

/-- Pairs each character of the first name with the first unused equal one of the second within
`range` places. Answers the positions used in each. -/
def matchedPositions (b : Array Char) (range : Nat) :
    List Char → Nat → List Nat × List Nat → List Nat × List Nat
  | [], _, acc => acc
  | c :: rest, i, (used, from_) =>
    let lo := i - range
    let hi := min (i + range + 1) b.size
    match firstFree b used c lo (hi - lo) with
    | some j => matchedPositions b range rest (i + 1) (j :: used, i :: from_)
    | none => matchedPositions b range rest (i + 1) (used, from_)

def commonStart : List Char → List Char → Nat
  | c :: r, d :: s => if c == d then commonStart r s + 1 else 0
  | _, _ => 0

def similarity (s t : String) : Float :=
  let a := s.toList
  let b := t.toList
  if a == b then 1.0
  else if a.isEmpty || b.isEmpty then 0.0
  else
    let range := max a.length b.length / 2 - 1
    let (used, from_) := matchedPositions b.toArray range a 0 ([], [])
    let m := used.length
    if m == 0 then 0.0
    else
      let left := from_.reverse.filterMap (a[·]?)
      let right := (used.mergeSort (· ≤ ·)).filterMap (b[·]?)
      let swapped := ((left.zip right).filter (fun p => p.1 != p.2)).length / 2
      let mf := m.toFloat
      let w := (mf / a.length.toFloat + mf / b.length.toFloat + (m - swapped).toFloat / mf) / 3.0
      if w > 0.7 then
        let i := min 4 (commonStart a b)
        w + i.toFloat * 0.1 * (1.0 - w)
      else w

end SurveyGraph.Text

namespace SurveyGraph.Catalogue

variable (d : Catalogue)

def byCloseness (guess : String) (names : List String) : List String :=
  let scored := (sortTexts names).map (fun n => (n, Text.similarity guess n))
  (scored.mergeSort (fun a b => !(decide (a.2 < b.2)))).map (·.1)

def findNames (guess : String) : List String :=
  byCloseness guess (d.singular.map (·.1) ++ d.plural.map (·.1) ++ d.factors ++ d.pluralFactors.map (·.1))

def pluralText (name : String) : Except Fault String := do
  match ← d.pluralName name with
  | .text s => return s
  | .relations _ => refuse .badType

/-- The names that a class adds to the suggestions, if it can be compared. -/
def namesOfClass (relativeTo : Option String) (name : String) (c : ClassId) : Except Fault (Option (List String)) := do
  let k := d.reg.get c
  match relativeTo with
  | none =>
    return some ([k.singularName, k.pluralName] ++ k.productsAndFactors ++ (← k.productsAndFactors.mapM d.pluralText))
  | some r =>
    match d.pathsBetween r name true .none with
    | .ok _ => return some (k.pluralName :: (← k.productsAndFactors.mapM d.pluralText))
    | .error e =>
      if e.kind == .noPath then return some (k.singularName :: k.productsAndFactors)
      else if e.kind == .missingNode then return none
      else throw e

/-- The names of all classes, or the name itself if it is among them. -/
def collectNames (d : Catalogue) (relativeTo : Option String) (name : String) :
    List (String × ClassId) → List String → Except Fault (List String ⊕ List String)
  | [], acc => .ok (.inl acc)
  | (s, c) :: rest, acc => do
    match ← d.namesOfClass relativeTo s c with
    | none => d.collectNames relativeTo name rest acc
    | some new =>
      if new.contains name then return .inr [name]
      else d.collectNames relativeTo name rest (acc ++ new)

/-- The three names closest to a name, or the name itself. With `relativeTo`, names that lead to one
instance from there are given for many. -/
def suggest (name : String) (relativeTo : Option String) : Except Fault (List String) := do
  let name ← d.singularName name
  let relativeTo ← relativeTo.mapM d.singularName
  match ← d.collectNames relativeTo name d.singular [] with
  | .inl names => return (byCloseness name names).take 3
  | .inr exact => return exact

end SurveyGraph.Catalogue
