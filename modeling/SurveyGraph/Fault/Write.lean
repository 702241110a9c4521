import SurveyGraph.Fault.Kind
/-!
# Causes of failure in writing

What can go wrong while a program that writes to the database is put together. Things are given as they
are shown.
-/
namespace SurveyGraph

inductive WriteCause where
  | noProgram
  | notAccessible (thing : String)
  | labelCase
  | notAfterUnwind
  | notUnwound (thing : String)
  | notCollection (thing : String)
  | badOutput
  | batchMissing
  | batchRange
  | propertyOverlap
  | relationOverlap
  | unknownRule (rule : String)
  | notAdapted
  | versionLengths
  | noQuery (object name : String)
  | needsIdentifier (object : String)
  | needsIdname (object : String)
  | template (cls : String)
  | versionOnCollection
  | collectionIdentity
  | versioning (what : String)
  | notProduct (name cls : String)
  | unknownName (name cls : String)
  | notReal (name object cls : String)
  | expectsMany (name : String)
  | wrongCount (cls : String) (min : Int) (name : String) (max : Option Int) (count : Nat)
  | notRelevant (names cls : String)
  | identifierGiven (object : String)
  | noIdentifier (object : String)
  | optionalCollection
  | notRelated (name object : String)
  | unknownType (type : String)
  deriving Repr, BEq

namespace WriteCause

def kind : WriteCause → FaultKind
  | .noProgram => .noContext
  | .notAccessible _ | .labelCase | .notUnwound _ | .batchMissing | .batchRange | .relationOverlap
  | .unknownRule _ | .versionLengths | .needsIdentifier _ | .needsIdname _ | .unknownName .. | .notReal ..
  | .wrongCount .. | .noIdentifier _ => .badValue
  | .notAfterUnwind => .missingName
  | .notCollection _ | .badOutput | .template _ | .collectionIdentity | .notProduct .. | .expectsMany _
  | .unknownType _ => .badType
  | .propertyOverlap => .propertyOverlap
  | .notAdapted | .versioning _ | .optionalCollection => .unsupported
  | .noQuery .. => .missingAttribute
  | .versionOnCollection | .identifierGiven _ => .ruleBroken
  | .notRelevant .. | .notRelated .. => .missingKey

def message : WriteCause → String
  | .noProgram => "No <class 'weaveio.writequery.base.CypherQuery'> on context stack"
  | .notAccessible v => v ++ " is not accessible is this context. Have you left a WITH context?"
  | .labelCase => "Labels must be camelcase"
  | .notAfterUnwind => "You must use collect straight after a with context"
  | .notUnwound v => "Cannot collect a non unwound variable " ++ v
  | .notCollection v => v ++ " is not a collection"
  | .badOutput => "output_variables  must be str or cyphervariable"
  | .batchMissing => "statement_batch_i must be an integer"
  | .batchRange => "statement_batch_i must be < len(statements) and >= 0"
  | .propertyOverlap | .relationOverlap => "Cannot have the same key in both properties and identproperties"
  | .unknownRule r => "Unknown collision_manager " ++ r
  | .notAdapted => "This feature has not been adapted yet"
  | .versionLengths => "reltypes must be the same length as parents"
  | .noQuery o n => "Query not added to " ++ o ++ ", cannot search for " ++ o ++ "." ++ n
  | .needsIdentifier o => o ++ " must have an identifier"
  | .needsIdname o => o ++ " must have an idname to be given an identifier"
  | .template c => "Template Hierarchies cannot be instantiated directly. If you need to instantiate " ++ c
    ++ ", set " ++ c ++ ".is_template=False."
  | .versionOnCollection => "Cannot version on a collection of nodes"
  | .collectionIdentity => "Cannot merge NODE+RELATIONSHIP for collections"
  | .versioning what => "Versioning is not yet implemented: " ++ what ++ " cannot be versioned yet"
  | .notProduct n c => n ++ " is not a product of " ++ c
  | .unknownName n c => "Unknown name " ++ n ++ " for " ++ c
  | .notReal n o c => n ++ " is not accepted as an argument for " ++ o
    ++ " since `notreal` is set for it in " ++ c ++ " definition"
  | .expectsMany n => n ++ " expects multiple elements"
  | .wrongCount c min n max count => c ++ " requires " ++ toString min ++ " <= count(" ++ n ++ ") <= "
    ++ (match max with | some m => toString m | none => "None") ++ ". " ++ toString count ++ " received."
  | .notRelevant ns c => ns ++ " are not relevant to " ++ c
  | .identifierGiven o => o ++ " must not take an identifier if it has an identifier_builder"
  | .noIdentifier o => "Cannot assign an id of None to " ++ o
  | .optionalCollection => "Cannot attach optional collections yet"
  | .notRelated n o => n ++ " is not a parent or child of " ++ o
  | .unknownType t => "Unknown type " ++ t

end WriteCause

end SurveyGraph
