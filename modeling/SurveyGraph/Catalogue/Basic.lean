import SurveyGraph.Paths.Route
/-!
# The catalogue of names

All classes that a data set has, and the names by which they and their properties can be asked for:
names of classes, of factors, of ids and of relations, each for one and for many.
-/
namespace SurveyGraph

/-- The classes of a data set and their names. -/
structure Catalogue where
  reg : Registry
  atlas : Atlas
  classes : List ClassId
  byClass : List (String × ClassId)
  singular : List (String × ClassId)
  plural : List (String × ClassId)
  /-- The classes that have a factor, product or id of a name. -/
  factorClasses : List (String × List ClassId)
  factors : List String
  /-- The names of factors for many, each with the name for one. -/
  pluralFactors : List (String × String)
  idnames : List (String × ClassId)
  pluralIdnames : List (String × ClassId)
  /-- Relations with names of their own, and the classes that declare them. -/
  relatives : List (String × List (String × Relation))
  pluralRelatives : List (String × String)

namespace Catalogue

/-- The order of texts by code points. -/
def textLe (a b : String) : Bool := !(decide (b < a))

def sortTexts (xs : List String) : List String :=
  let rec dedup : List String → List String
    | a :: b :: rest => if a == b then dedup (b :: rest) else a :: dedup (b :: rest)
    | xs => xs
  dedup (xs.mergeSort textLe)

def sortClasses (reg : Registry) (cs : List ClassId) : List ClassId :=
  cs.eraseDups.mergeSort (fun a b => textLe (reg.nameOf a) (reg.nameOf b))

def pluralOf (name : String) : Except Fault String :=
  match Text.pluralName? name with
  | some p => .ok p
  | none => refuse (ValueCause.groupName name)

def ofClasses (reg : Registry) (given : List ClassId) : Except Fault Catalogue := do
  let classes := sortClasses reg (given ++ given.flatMap reg.allBases)
  let named (f : Class → String) : List (String × ClassId) :=
    classes.foldl (fun acc c => setNamed (f (reg.get c)) c acc) []
  let factorNames (c : ClassId) : List String :=
    ((reg.get c).productsAndFactors.map Text.Letter.lower) ++ (reg.get c).idname.toList
  let pairs := (classes.flatMap (fun c => (factorNames c).map (·, c))).mergeSort (fun a b => textLe a.1 b.1)
  let sorted := sortTexts (pairs.map (·.1))
  let lowered := sorted.map Text.Letter.lower
  let pluralFactors ← lowered.mapM (fun f => return (← pluralOf f, f))
  let idnames := classes.foldl (fun acc c =>
    match (reg.get c).idname with
    | some s => setNamed s c acc
    | none => acc) []
  let relatives := classes.foldl (fun acc c =>
    (reg.get c).relativeNames.foldl (fun acc (name, r) =>
      setNamed name (setNamed (reg.nameOf c) r ((acc.lookup name).getD [])) acc) acc) []
  return {
    reg, atlas := Atlas.ofRegistry reg, classes
    byClass := named (·.name)
    singular := named (·.singularName)
    plural := (named (·.pluralName)).filter (·.1 != "graphables")
    factorClasses := pairs.foldl (fun acc (f, c) =>
      match acc with
      | (g, cs) :: rest =>
        if f == g then (g, if cs.contains c then cs else cs ++ [c]) :: rest else (f, [c]) :: acc
      | [] => [(f, [c])]) [] |>.reverse
    factors := lowered
    pluralFactors := pluralFactors.reverse
    idnames
    pluralIdnames := ← idnames.mapM (fun (s, c) => return (← pluralOf s, c))
    relatives
    pluralRelatives := ← relatives.mapM (fun (s, _) => return (← pluralOf s, s)) }

/-- The classes that files bring about: what can be reached from them, their children and what they
produce. -/
def fromFiles (reg : Registry) (files : List ClassId) : Except Fault (List ClassId) := do
  let members := files.flatMap (fun f => (reg.get f).children ++ (reg.get f).produces)
  let starts := (members.filterMap Registry.memberClass? ++ files).eraseDups
  let found ← starts.mapM (reg.reachable false)
  return found.flatten.eraseDups

end Catalogue

/-! ## Statements about the whole database -/

def Catalogue.constraints (d : Catalogue) : Except Fault (List (String × List String)) := do
  let own ← d.classes.mapM (fun c => return (d.reg.nameOf c, ← d.reg.constraints c))
  return own ++
    [("temporary", ["CREATE CONSTRAINT ON (t:TemporaryMerge) ASSERT t.id IS UNIQUE"]),
     ("dbcreated", ["CREATE INDEX n_dbcreated FOR (n:Hierarchy) ON n.`_dbcreated`"]),
     ("dbupdated", ["CREATE INDEX n_dbupdated FOR (n:Hierarchy) ON n.`_dbupdated`"])]

end SurveyGraph
