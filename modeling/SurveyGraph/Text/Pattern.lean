import SurveyGraph.Text.Glyph
import SurveyGraph.Text.Letter
/-!
# Patterns of characters

A pattern is a list of pieces. A piece stands for one character of a kind or for any number of them.
`Pattern.startsIn` tells whether some beginning of a text is of the pattern. Letters of a pattern are the same
in upper and lower case.
-/
namespace SurveyGraph.Text

variable (c : Char)

inductive Piece where
  /-- One character of a kind. -/
  | one (kind : Char → Bool)
  /-- Any number of characters of a kind, none included. -/
  | many (kind : Char → Bool)

abbrev Pattern := List Piece

/-- A letter without its case. The letters i and s have forms beside the usual ones. -/
def caseless : Char :=
  if c == 'ı' || c == 'İ' then 'i'
  else if c == 'ſ' then 's'
  else (Letter.lowerOf c).headD c

namespace Pattern

def ofText (s : String) : Pattern := s.toList.map (fun c => .one (fun d => caseless d == caseless c))

def some_ (kind : Char → Bool) : Pattern := [.one kind, .many kind]

/-- Whether a text is characters of a kind before a rest that satisfies a condition. -/
def anyRest (kind : Char → Bool) (condition : List Char → Bool) : List Char → Bool
  | [] => condition []
  | c :: rest => condition (c :: rest) || (kind c && anyRest kind condition rest)

/-- Whether some beginning of a list of characters is of the pattern. -/
def startsIn : Pattern → List Char → Bool
  | [], _ => true
  | .one _ :: _, [] => false
  | .one kind :: ps, c :: rest => kind c && startsIn ps rest
  | .many kind :: ps, cs => anyRest kind (startsIn ps) cs

end Pattern

def isPlainDigit : Bool := '0' ≤ c && c ≤ '9'

def isAnyDigit : Bool := (Glyph.digit? c).isSome

def isInLine : Bool := c != '\n'

end SurveyGraph.Text
