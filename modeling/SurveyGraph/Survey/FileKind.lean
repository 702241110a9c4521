import SurveyGraph.Fault
import SurveyGraph.Text.Pattern
/-!
# Kinds of files

The survey has raw files, files of spectra (level one) and files of products (level two). A kind of file
is known by the name of the file; it has a class, a list of units, and parts that are read one by one.
Some kinds are only headings for others.

`FileKind.ofSources` tells the kind of products: that of the most combined of the sources.
-/
namespace SurveyGraph

/-- A part of a file; a file that is read as a whole has nothing as its only part. -/
abbrev Part := Option String

inductive FileKind where
  | any
  | fibred
  | raw
  | spectra
  | single
  | stacked
  | stack
  | superstack
  | supertarget
  | products
  | singleProducts
  | stackProducts
  | superstackProducts
  | supertargetProducts
  deriving Repr, BEq, DecidableEq, Inhabited

namespace FileKind

open Text Text.Pattern

variable (k : FileKind)

def all : List FileKind :=
  [.any, .fibred, .raw, .spectra, .single, .stacked, .stack, .superstack, .supertarget, .products,
   .singleProducts, .stackProducts, .superstackProducts, .supertargetProducts]

def className : FileKind → String
  | .any => "File"
  | .fibred => "HeaderFibinfoFile"
  | .raw => "RawFile"
  | .spectra => "L1File"
  | .single => "L1SingleFile"
  | .stacked => "L1StackedFile"
  | .stack => "L1StackFile"
  | .superstack => "L1SuperstackFile"
  | .supertarget => "L1SupertargetFile"
  | .products => "L2File"
  | .singleProducts => "L2SingleFile"
  | .stackProducts => "L2StackFile"
  | .superstackProducts => "L2SuperstackFile"
  | .supertargetProducts => "L2SupertargetFile"

def ofClass? (name : String) : Option FileKind := all.find? (·.className == name)

def isProducts : FileKind → Bool
  | .products | .singleProducts | .stackProducts | .superstackProducts | .supertargetProducts => true
  | _ => false

def isFibred : Bool := k != .any && !k.isProducts

def isStacked : FileKind → Bool
  | .stacked | .stack | .superstack | .supertarget => true
  | _ => false

/-! ## Names -/

/-- The pattern with which names of the kind begin. Kinds without names have none. -/
def pattern? : FileKind → Option Pattern
  | .any | .fibred | .spectra | .stacked => none
  | .raw => some (ofText "r" ++ some_ isPlainDigit ++ ofText ".fit")
  | .single => some (ofText "single_" ++ some_ isAnyDigit ++ ofText ".fit")
  | .stack => some (ofText "stack_" ++ some_ isPlainDigit ++ ofText ".fit")
  | .superstack => some (ofText "superstack_" ++ some_ isPlainDigit ++ ofText ".fit")
  | .supertarget => some (ofText "WVE_" ++ some_ isInLine ++ ofText ".fit")
  | .products | .singleProducts | .stackProducts | .superstackProducts =>
    some (.many isInLine :: (ofText "APS" ++ .one isInLine :: ofText "fits"))
  | .supertargetProducts =>
    some (ofText "WVE" ++ .many (· == '_') :: (ofText "aps" ++ .one isInLine :: ofText "fits"))

/-- Whether a name is one of those that files of the kind must not have: products are not in cubes. -/
def isExcluded (name : List Char) : Bool := k.isProducts && startsIn (.many isInLine :: ofText "cube") name

def fitsName (path : PathName) : Except Fault Bool :=
  match k.pattern? with
  | none => refuse .badPattern
  | some p => .ok (startsIn p path.name.toList && !k.isExcluded path.name.toList)

/-! ## Contents -/

/-- The names of the units that files of the kind have, with the classes of these units. -/
def units : FileKind → List (String × String)
  | .any | .fibred => []
  | .raw => ("primary", "PrimaryHDU") :: ["counts1", "counts2"].map (·, "BinaryHDU")
      ++ ["fibtable", "guidinfo", "metinfo"].map (·, "TableHDU")
  | .spectra | .single | .stacked | .stack | .superstack | .supertarget =>
    ("primary", "PrimaryHDU") :: ["flux", "ivar", "flux_noss", "ivar_noss", "sensfunc"].map (·, "BinaryHDU")
      ++ [("fibtable", "TableHDU")]
  | .products | .singleProducts | .stackProducts | .superstackProducts | .supertargetProducts =>
    ("primary", "PrimaryHDU") :: ["class_table", "stellar_table", "galaxy_table", "class_spectra",
      "stellar_spectra", "galaxy_spectra"].map (·, "TableHDU")

def productParts : List String := ["RR", "RVS", "FR", "GAND", "PPXF"]

def parts : List Part := if k.isProducts then productParts.map some else [none]

/-! ## Products and what they are made from -/

/-- Kinds of files of spectra with the products that are made from them, the least combined first. -/
def productsOf : List (FileKind × FileKind) :=
  [(.single, .singleProducts), (.stack, .stackProducts), (.superstack, .superstackProducts),
   (.supertarget, .supertargetProducts)]

/-- The kind of the products that are made from files of some kinds. -/
def ofSources (sources : List FileKind) : Except Fault FileKind := do
  let ranks ← sources.mapM fun k =>
    match productsOf.findIdx? (·.1 == k) with
    | some i => pure i
    | none => refuse .badValue
  match ranks, productsOf[ranks.foldl max 0]? with
  | _ :: _, some (_, k) => return k
  | _, _ => refuse .badValue

end FileKind

end SurveyGraph
