import SurveyGraph.Fault
/-!
# Templates

A template is a text with places between braces. A place has a number, a name, or nothing: places
without either are numbered in order. Doubled braces stand for single ones.

`fill` puts texts into the places. Numbered and unnumbered places do not go together.
-/
namespace SurveyGraph.Text.Template

inductive Piece where
  | plain (c : Char)
  /-- A place, by what stands between the braces. -/
  | place (field : List Char)
  deriving Repr, BEq, DecidableEq

/-- The characters of a place up to its closing brace, and the rest. Braces inside a place nest. -/
def takePlace : Nat → List Char → List Char → Option (List Char × List Char)
  | _, _, [] => none
  | depth, acc, c :: rest =>
    if c == '\x7d' then
      match depth with
      | 0 => some (acc.reverse, rest)
      | d + 1 => takePlace d (c :: acc) rest
    else if c == '\x7b' then takePlace (depth + 1) (c :: acc) rest
    else takePlace depth (c :: acc) rest

/-- The pieces of a template; `none` if a brace stands alone. `fuel` bounds the characters. -/
def piecesWithin : Nat → List Char → Option (List Piece)
  | _, [] => some []
  | 0, _ => none
  | fuel + 1, c :: rest =>
    if c == '\x7b' then
      match rest with
      | '\x7b' :: rest => (piecesWithin fuel rest).map (.plain '\x7b' :: ·)
      | rest =>
        match takePlace 0 [] rest with
        | some (field, rest) => (piecesWithin fuel rest).map (.place field :: ·)
        | none => none
    else if c == '\x7d' then
      match rest with
      | '\x7d' :: rest => (piecesWithin fuel rest).map (.plain '\x7d' :: ·)
      | _ => none
    else (piecesWithin fuel rest).map (.plain c :: ·)

def pieces (s : String) : Option (List Piece) := piecesWithin (s.length + 1) s.toList

/-- What a place refers to: its number or name, and what is to be done with it. -/
structure Field where
  name : List Char
  access : List Char
  rest : List Char

/-- Splits a place into what it refers to, a path into it, and the way to show it. -/
def field (cs : List Char) : Field :=
  let isEnd (c : Char) : Bool := c == ':' || c == '!'
  let whole := cs.takeWhile (!isEnd ·)
  let isPath (c : Char) : Bool := c == '.' || c == '['
  { name := whole.takeWhile (!isPath ·), access := whole.dropWhile (!isPath ·)
    rest := cs.dropWhile (!isEnd ·) }

def number? (cs : List Char) : Option Nat :=
  if !cs.isEmpty && cs.all Char.isDigit then
    some (cs.foldl (fun n c => n * 10 + (c.toNat - '0'.toNat)) 0)
  else none

/-- How places have been numbered so far. -/
inductive Numbering where
  | unknown
  /-- By position; the number of the next place. -/
  | automatic (next : Nat)
  | manual

def shown (f : Field) (s : String) : Except Fault String :=
  if !f.access.isEmpty then refuse .missingAttribute
  else match f.rest with
    | [] | [':'] | ['!', 's'] => .ok s
    | ['!', 'r'] => .ok (Text.quoted s)
    | _ => refuse .badValue

/-- The text for a place, and how places are numbered after it. -/
def resolve (args : List String) (named : List (String × String)) (n : Numbering) (f : Field) :
    Except Fault (Numbering × String) := do
  let found (n : Numbering) (s : Option String) (missing : FaultKind) :
      Except Fault (Numbering × String) :=
    match s with
    | some s => .ok (n, s)
    | none => refuse missing
  if f.name.isEmpty then
    match n with
    | .manual => refuse .badValue
    | .unknown => found (.automatic 1) args[0]? FaultKind.outOfRange
    | .automatic i => found (.automatic (i + 1)) args[i]? FaultKind.outOfRange
  else match number? f.name with
    | some i =>
      match n with
      | .automatic _ => refuse .badValue
      | _ => found .manual args[i]? FaultKind.outOfRange
    | none => found n (named.lookup (String.ofList f.name)) FaultKind.missingKey

def fillPieces (args : List String) (named : List (String × String)) :
    Numbering → List Piece → Except Fault (List String)
  | _, [] => .ok []
  | n, .plain c :: rest => do return c.toString :: (← fillPieces args named n rest)
  | n, .place cs :: rest => do
    let (n, s) ← resolve args named n (field cs)
    let head ← shown (field cs) s
    return head :: (← fillPieces args named n rest)

def fill (template : String) (args : List String) (named : List (String × String) := []) :
    Except Fault String :=
  match pieces template with
  | none => refuse .badValue
  | some ps => (fillPieces args named .unknown ps).map (Text.join "")

end SurveyGraph.Text.Template
