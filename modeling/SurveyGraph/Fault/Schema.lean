import SurveyGraph.Fault.Kind
import SurveyGraph.Text.Basic
import SurveyGraph.Text.Glyph
/-!
# Causes of failure: class declarations
-/
namespace SurveyGraph

inductive SchemaCause where
  | notAClass (shown typeName : String)
  | notARelation (shown : String)
  | pluralNotSmall
  | singularNotSmall
  | sameNames
  | reservedId
  | idNotText (name shown : String)
  | notCapitalized (name : String)
  | reservedName (factor name : String)
  | hiddenName (factor name : String)
  | nameNotSmall (factor : String)
  /-- A base class that is not meant to be extended. -/
  | sealedBases (name : String) (bases : List String)
  | twoIdentities (name : String)
  | unknownIdentity (source name : String) (available : List String)
  | unknownVersion (source name : String)
  | versionOfNothing
  | noIdentity (name : String)
  | unknownIndex (index name : String)
  /-- An identity that names no factor and no relation. -/
  | strayIdentity (shown : String)
  | noSchemaIdentity (name : String)
  | hasRelations (shown names : String)
  | cyclicDependencies (left : List String)
  | cyclicTypes (left : List String)
  deriving Repr, BEq, DecidableEq

namespace SchemaCause

def kind : SchemaCause → FaultKind
  | .notAClass .. | .notARelation _ | .hasRelations .. | .cyclicDependencies _ | .cyclicTypes _ =>
    .badType
  | .strayIdentity _ => .badValue
  | _ => .ruleBroken

def quotedList (xs : List String) : String := "[" ++ Text.join ", " (xs.map Text.quoted) ++ "]"

def plainList (xs : List String) : String := "[" ++ Text.join ", " xs ++ "]"

def message : SchemaCause → String
  | .notAClass shown typeName =>
    s!"{shown} is of type <class '{typeName}'>. Must be a Hierarchy class or a name of a yet to be built Hierarchy class"
  | .notARelation shown => s!"{shown} is not a subclass of Hierarchy or an instance of Multiple"
  | .pluralNotSmall => "plural_name must be lowercase"
  | .singularNotSmall => "singular_name must be lowercase"
  | .sameNames => "plural_name must not be the same as singular_name"
  | .reservedId => "You may not name an id as one of ['idname']"
  | .idNotText name shown => s!"{name}.idname ({shown}) must be a string or None"
  | .notCapitalized name => s!"{name} must have `CamelCaseName` style name"
  | .reservedName factor name => s!"The name {factor} is not allowed for class {name}"
  | .hiddenName factor name => s!"The name {factor} may not start with any of ['_'] for {name}"
  | .nameNotSmall factor => s!"The name {factor} must be lowercase"
  | .sealedBases name bases =>
    name ++ " cannot subclass " ++ plainList bases
      ++ " since they are marked with `is_template=False`"
  | .twoIdentities name =>
    s!"You cannot define a separate idname and an identifier_builder at the same time for {name}"
  | .unknownIdentity source name available =>
    s!"Unknown identifier source {source} for {name}. Available are: " ++ quotedList available
  | .unknownVersion source name =>
    s!"Unknown {source} to version on for {name}. Must refer to a parent or factor."
  | .versionOfNothing =>
    "Cannot build a version relative to nothing. You must version on at least one parent."
  | .noIdentity name => s!"{name} must define an indexes, idname, or identifier_builder"
  | .unknownIndex index name => s!"index {index} of {name} must be a factor or parent of {name}"
  | .strayIdentity shown =>
    s!"{shown} defines an identifier_builder with name(s) which are neither factors, parents, or children"
  | .noSchemaIdentity name =>
    s!"{name} must define an idname, identifier_builder, or indexes, unless it is marked as template class for something else (`is_template=True`)"
  | .hasRelations shown names =>
    s!"Cannot use {shown} as factors {names} since it has defined parents and children"
  | .cyclicDependencies left =>
    "Dependency resolution impossible, proposed schema elements may have cyclic dependencies:"
      ++ plainList left
  | .cyclicTypes left =>
    "Type resolution impossible, proposed schema elements may have cyclic type dependencies:"
      ++ plainList left

end SchemaCause

end SurveyGraph
