/-!
# Text as a sequence of characters

Cutting, joining and replacing, by characters. Each operation is defined on lists of characters,
so that statements about texts are statements about lists.
-/
namespace SurveyGraph.Text

def startsWith (s start : String) : Bool := start.toList.isPrefixOf s.toList

def endsWith (s ending : String) : Bool := ending.toList.isSuffixOf s.toList

def dropStart (s : String) (n : Nat) : String := String.ofList (s.toList.drop n)

def dropEnd (s : String) (n : Nat) : String := String.ofList (s.toList.take (s.length - n))

def cutAt (sep : Char) (s : String) : List String := (s.toList.splitOnP (· == sep)).map String.ofList

def join (sep : String) (parts : List String) : String := sep.intercalate parts

/-- Cuts `s` at a pattern. `piece` holds the characters since the last cut, last one first, and
`skip` counts those of an occurrence still to pass. -/
def cutList (pattern : List Char) : Nat → List Char → List Char → List (List Char)
  | _, piece, [] => [piece.reverse]
  | skip + 1, piece, _ :: rest => cutList pattern skip piece rest
  | 0, piece, c :: rest =>
    if pattern.isPrefixOf (c :: rest) then
      piece.reverse :: cutList pattern (pattern.length - 1) [] rest
    else cutList pattern 0 (c :: piece) rest

/-- Cuts a text at every occurrence of a nonempty pattern, from left to right. -/
def cutOn (pattern s : String) : List String := (cutList pattern.toList 0 [] s.toList).map String.ofList

/-- Replaces every occurrence of a pattern. An empty one occurs before every character and at the
end. -/
def replaceAll (s pattern replacement : String) : String :=
  if pattern.isEmpty then
    String.ofList (replacement.toList ++ s.toList.flatMap (fun c => c :: replacement.toList))
  else join replacement (cutOn pattern s)

def contains (s pattern : String) : Bool := pattern.isEmpty || (cutOn pattern s).length > 1

def occursIn (pattern : List Char) : List Char → Bool
  | [] => pattern.isEmpty
  | c :: rest => pattern.isPrefixOf (c :: rest) || occursIn pattern rest

/-! ## Indented text -/

def isIndent (c : Char) : Bool := c == ' ' || c == '\t'

/-- A line without anything but indentation is an empty line. -/
def blankLine (line : List Char) : List Char := if line.all isIndent then [] else line

def sharedStart {α : Type} [BEq α] : List α → List α → List α
  | x :: xs, y :: ys => if x == y then x :: sharedStart xs ys else []
  | _, _ => []

/-- The indentation that all lines with something in them share. -/
def margin (lines : List (List Char)) : List Char :=
  match (lines.filter (!·.isEmpty)).map (·.takeWhile isIndent) with
  | [] => []
  | i :: is => is.foldl sharedStart i

def withoutStart (start line : List Char) : List Char := if start.isPrefixOf line then line.drop start.length else line

/-- The text without the indentation that all its lines share. -/
def dedent (s : String) : String :=
  let lines := (s.toList.splitOnP (· == '\n')).map blankLine
  let m := margin lines
  join "\n" ((lines.map (withoutStart m)).map String.ofList)

end SurveyGraph.Text

namespace SurveyGraph

/-! ## Path names -/

structure PathName where
  root : String := ""
  names : List String := []
  deriving Repr, BEq, Inhabited

namespace PathName

/-- Reads a path name. Two slashes, but not three, are a root of their own. -/
def ofText (s : String) : PathName :=
  let root := if Text.startsWith s "///" then "/" else if Text.startsWith s "//" then "//"
    else if Text.startsWith s "/" then "/" else ""
  { root, names := (Text.cutAt '/' s).filter (fun n => n != "" && n != ".") }

def render (p : PathName) : String := if p.root == "" && p.names.isEmpty then "." else p.root ++ Text.join "/" p.names

def name (p : PathName) : String := p.names.getLastD ""

def join (p q : PathName) : PathName := if q.root == "" then { p with names := p.names ++ q.names } else q

def relativeTo? (p base : PathName) : Option PathName :=
  if p.root == base.root && base.names.isPrefixOf p.names then
    some { names := p.names.drop base.names.length }
  else none

end PathName

end SurveyGraph
