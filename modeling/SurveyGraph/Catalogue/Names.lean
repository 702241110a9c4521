import SurveyGraph.Catalogue.Basic
/-!
# Questions about names

Names may be chained with dots. A chain is a name for many if all its parts are, and a name for one
if all its parts are. Capital letters make no difference, except in names of classes.
-/
namespace SurveyGraph

/-- A name for many, or the relations of a name that has no form for many. -/
inductive PluralName where
  | text (s : String)
  | relations (rs : List (String × Relation))
  deriving Repr

namespace Catalogue

variable (d : Catalogue) (name : String)

/-- The text that is asked for. Only texts are names; what cannot be looked up fails otherwise. -/
def textOf : Value → Except Fault String
  | .text s => .ok s
  | .list _ | .dict _ | .set _ | .array .. | .maskedArray .. | .slice .. | .frame _ =>
    refuse .badType
  | _ => refuse .missingAttribute

def isPluralPart : Bool :=
  (d.plural.lookup name).isSome || (d.pluralFactors.lookup name).isSome
    || (d.pluralIdnames.lookup name).isSome || (d.pluralRelatives.lookup name).isSome

def isSingularPart : Bool :=
  (d.singular.lookup name).isSome || d.factors.contains name || (d.idnames.lookup name).isSome
    || (d.relatives.lookup name).isSome

def isPluralName : Bool :=
  let name := Text.Letter.lower name
  d.isPluralPart name || (Text.cutAt '.' name).all d.isPluralPart

def isSingularName : Bool :=
  let name := Text.Letter.lower name
  d.isSingularPart name || (Text.cutAt '.' name).all d.isSingularPart

/-- Whether a name, or every part of a chain, is known for one or for many. -/
def isValidName : Bool :=
  let known (n : String) : Bool := d.isPluralName n || d.isSingularName n
  known name || (Text.cutAt '.' (Text.Letter.lower name)).all known

def lastPart : String := ((Text.cutAt '.' name).getLast?).getD ""

def isSingularIdname : Bool :=
  d.isSingularName name && (d.idnames.lookup (lastPart name)).isSome

def isPluralIdname : Bool :=
  d.isPluralName name && (d.pluralIdnames.lookup (lastPart name)).isSome

def isPluralFactor : Bool :=
  d.isPluralName name && (d.pluralFactors.lookup (lastPart name)).isSome

def isSingularFactor : Bool := d.isSingularName name && d.factors.contains (lastPart name)

def knownSingular : Except Fault (Option String) := do
  if let some c := d.byClass.lookup name then return some (d.reg.get c).singularName
  let name := Text.Letter.lower name
  if d.isSingularName name then return some name
  if d.isPluralName name then
    match d.pluralFactors.lookup name, d.pluralRelatives.lookup name, d.plural.lookup name with
    | some s, _, _ => return some s
    | none, some s, _ => return some s
    | none, none, some c => return some (d.reg.get c).singularName
    | none, none, none => refuse (Fault.plain .missingKey name)
  return none

def singularPart : Except Fault String := do
  return (← d.knownSingular name).getD (Text.singularName (Text.Letter.lower name))

def singularName : Except Fault String := do
  match ← d.knownSingular name with
  | some s => return s
  | none =>
    let parts := Text.cutAt '.' (Text.Letter.lower name)
    if parts.length > 1 then return Text.join "." (← parts.mapM d.singularPart)
    else d.singularPart name

/-- The name for many of a known name. A factor is its own. -/
def knownPlural : Except Fault (Option PluralName) := do
  if let some c := d.byClass.lookup name then return some (.text (d.reg.get c).pluralName)
  let name := Text.Letter.lower name
  if d.isPluralName name then return some (.text name)
  if d.isSingularName name then
    if d.factors.contains name then return some (.text name)
    match d.relatives.lookup name, d.singular.lookup name with
    | some rs, _ => return some (.relations rs)
    | none, some c => return some (.text (d.reg.get c).pluralName)
    | none, none => refuse (Fault.plain .missingKey name)
  return none

def pluralPart : Except Fault PluralName := do
  match ← d.knownPlural name with
  | some p => return p
  | none => return .text (← pluralOf (Text.Letter.lower name))

/-- The name for many. Only the last part of a chain changes, and none if a part is for many. -/
def pluralName : Except Fault PluralName := do
  match ← d.knownPlural name with
  | some p => return p
  | none =>
    let name := Text.Letter.lower name
    let parts := Text.cutAt '.' name
    if parts.length > 1 then
      if parts.any d.isPluralName then return .text name
      match ← d.pluralPart (lastPart name) with
      | .text s => return .text (Text.join "." (parts.dropLast ++ [s]))
      | .relations _ => refuse .badType
    else d.pluralPart name

def named : Except Fault ClassId :=
  match d.singular.lookup name with
  | some c => .ok c
  | none => refuse .missingKey

def classOf : Except Fault ClassId := do d.named (← d.singularName name)

def className : Except Fault String := do
  return d.reg.nameOf (← d.classOf name)

def isFactorName : Except Fault Bool := do
  if (d.factorClasses.lookup name).isSome then return true
  match d.singularName name with
  | .ok s => return d.isSingularFactor s || d.isSingularIdname s
  | .error e => if e.kind == .missingKey then return false else throw e

def isUniqueFactor : Except Fault Bool :=
  match d.factorClasses.lookup name with
  | some cs => .ok (cs.length == 1)
  | none => refuse .missingKey

def isProduct (factor cls : String) : Except Fault Bool := do
  let factor ← d.singularName factor
  return (d.reg.get (← d.classOf cls)).products.contains factor

def fileClass? : Option ClassId :=
  d.reg.declared.find? (fun c => (d.reg.get c).scope == "weaveio.file" && (d.reg.get c).name == "File")

/-- The classes, files apart, that list a class as a child. -/
def parentsOfChild (child : ClassId) : List ClassId :=
  d.classes.filter fun c =>
    (d.reg.get c).children.any (fun m => Registry.memberClass? m == some child) && c != child
      && !(d.fileClass?.any (d.reg.isSubclass c))

/-- Whether a name stands for a template, or for a class that others list as a child. -/
def isGenericObject : Except Fault Bool :=
  match d.classOf name with
  | .ok c => .ok ((d.reg.get c).isTemplate || !(d.parentsOfChild c).isEmpty)
  | .error e => if e.kind == .missingKey then .ok false else .error e

/-- The classes with instances that are or extend the class of a name. -/
def expandTemplateObject : Except Fault (List String) := do
  let c ← d.classOf name
  return sortTexts ((d.classes.filter (fun h => d.reg.isSubclass h c && !(d.reg.get h).isTemplate)).map d.reg.nameOf)

/-- Of the classes that list the first one as a child, those that are one of the others or extend a
template of them. -/
def expandDependentObject (others : List String) : Except Fault (List String) := do
  let c ← d.classOf name
  let others ← others.mapM d.classOf
  let allowed := others.flatMap fun o =>
    if (d.reg.get o).isTemplate then d.reg.subclasses o else [o]
  return sortTexts (((d.parentsOfChild c).filter allowed.contains).map d.reg.nameOf)

end Catalogue

end SurveyGraph
