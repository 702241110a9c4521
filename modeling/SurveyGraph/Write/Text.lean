import SurveyGraph.Text.Template
import SurveyGraph.Write.Program
/-!
# The text of statements

How each form of statement is written down, once the variables have their names. Pieces that stand inside
others are set in by the depth at which they stand; what all lines share is taken away again.
-/
namespace SurveyGraph.Write

def braced (s : String) : String := "\x7b" ++ s ++ "\x7d"

def inLines (ls : List String) : String := Text.join "\n" ls

def listed (xs : List String) : String := Text.join ", " xs

namespace Program

variable (p : Program) (m : Merge) (d : Dependence)

def entriesText (es : List (String × VarId)) : String :=
  braced (listed (es.map (fun e => "`" ++ e.1 ++ "`: " ++ p.varText e.2)))

def propertiesText : Properties → String
  | .given v => p.varText v
  | .entries es => p.entriesText es

/-- The name of a variable as a word of its own, without the mark of data. -/
def wordOf (v : VarId) : String := "`" ++ Text.replaceAll (p.varText v) "$" "" ++ "`"

/-- The variable that is handed on for another: for a member of something, that something. -/
def carrier (v : VarId) : VarId :=
  match (p.get v).kind with
  | .derived (.item ..) parent => parent
  | _ => v

/-- Puts a text into its place among texts in order, unless it is there. -/
def insertText (x : String) : List String → List String
  | [] => [x]
  | y :: ys => if x < y then x :: y :: ys else if x == y then y :: ys else y :: insertText x ys

def sortedSet (xs : List String) : List String := xs.foldr insertText []

/-- Variables under their own names, as a record that is handed on. -/
def handedOn (vs : List VarId) : String :=
  listed (sortedSet ((vs.map p.carrier).map (fun v => p.wordOf v ++ ": " ++ p.varText v)))

/-- Variables taken back from what was handed on. -/
def takenBack (source : String) (vs : List VarId) : String :=
  listed (sortedSet ((vs.map p.carrier).map (fun v => source ++ p.wordOf v ++ " as " ++ p.wordOf v)))

def onMatch (rule : Rule) (node props : VarId) (gap : String) : String :=
  let node := p.varText node
  let props := p.varText props
  match rule with
  | .overwrite => s!"SET {node} += {props}   // overwrite with new colliding properties"
  | _ => s!"SET {node} = apoc.map.merge({props}, properties({node})){gap}// update, keeping the old colliding properties"

def onCreate (time : String) : String :=
  let out := p.varText m.out
  let props := p.varText m.propVar
  s!"SET {out}._dbcreated = {time}, {out} += {props}  // setup as standard"

def beforeMerge : String :=
  "WITH *, " ++ p.entriesText m.properties ++ " as " ++ p.varText m.propVar

def afterMerge : String :=
  Text.dedent (inLines
    [ "", "    ON MATCH " ++ p.onMatch m.rule m.out m.propVar "   ", "    ON CREATE " ++ p.onCreate m "time0",
      "    SET " ++ p.varText m.out ++ "._dbupdated = time0  // always set updated time " ])

def mergeParagraph (before merge after : String) : String :=
  inLines ["", "        " ++ before, "        " ++ merge, "        " ++ after, "        "]

/-- The record of collisions. `record` makes it and `given` is what it is made from. -/
def collisions (record given : String) : String :=
  let out := p.varText m.out
  let props := p.varText m.propVar
  let keys := p.varText m.colliding
  let value := p.varText m.value
  inLines
    [ "",
      s!"            WITH *, [x in apoc.coll.intersection(keys({props}), keys(properties({out}))) where ({props}[x] is null or {out}[x] is null) or {props}[x] <> {out}[x]] as {keys}",
      s!"            CALL apoc.do.when(size({keys}) > 0, ",
      s!"                \"{record} SET c = $collisions SET c._dbcreated = $time RETURN $time\", ",
      "                \"RETURN $time\",",
      "                " ++ braced s!"{given}, collisions: apoc.map.fromLists({keys}, apoc.map.values({props}, {keys})), time:time0"
        ++ s!") yield value as {value}",
      "            " ]

/-- A merge with the record of collisions, if the rule asks for one. -/
def mergeText (paragraph record given : String) : String :=
  Text.dedent (match m.rule with
    | .trackAndFlag => paragraph ++ p.collisions m record given
    | _ => paragraph)

def nodeRecord : String := "WITH $innode as innode CREATE (c:_Collision)-[:COLLIDES]->(innode)"

def mergeNodeText (labels : List String) (m : Merge) : String :=
  let out := p.varText m.out
  let labels := Text.join ":" labels
  let merge := s!"MERGE ({out}: {labels} " ++ p.entriesText m.ident ++ ")"
  p.mergeText m (mergeParagraph (p.beforeMerge m) merge (p.afterMerge m)) nodeRecord s!"innode: {out}"

def mergeRelationText (parent child : Thing) (type : Value) (m : Merge) : String :=
  let out := p.varText m.out
  let props := p.varText m.propVar
  let value := p.varText m.value
  let parent := p.text parent
  let child := p.text child
  let type := type.display
  let ident := p.entriesText m.ident
  let open_ := "\x7b"
  let none_ := "\x7b\x7d"
  let close := "\x7d"
  let paragraph := inLines
    [ p.beforeMerge m ++ " ", s!"        call apoc.do.when({parent} is null or {child} is null, 'return null as {out}','",
      s!"        call apoc.merge.relationship($parent, \"{type}\", $ident, $props, $child, $onmatch) yield rel as {out}",
      s!"        RETURN {out}', {open_}parent: {parent}, child:{child}, ident:{ident}, ",
      s!"                              props: {props}, onmatch: {none_}{close}) yield value as {value}",
      s!"        OPTIONAL MATCH ({parent})-[{out}:{type} {ident}]->({child})",
      "        " ]
  p.mergeText m paragraph "WITH $a as a, $b as b CREATE (a)-[c:COLLIDES]->(b)" s!"a:{parent}, b:{child}"

/-- The name of the property that ties the relations of one merge together. -/
def hashName : String := "_query_hash"

/-- Identifying properties of a relation, tied to the merge that made it. -/
def withHash (hash : VarId) (es : List (String × VarId)) : List (String × VarId) := setNamed hashName hash es

/-- Identifying properties of a relation as they were given. -/
def withoutHash (es : List (String × VarId)) : List (String × VarId) := es.filter (·.1 != hashName)

def arrow (inward : Bool) : String × String := if inward then ("-", "->") else ("<-", "-")

/-- A relation from the other node, up to the arrow's far end. -/
def relationText (r : IdRelation) (name : VarId) (ident : List (String × VarId)) : String :=
  let (tail, head) := arrow r.inward
  "(" ++ p.text r.other ++ ")" ++ tail ++ "[" ++ p.varText name ++ ":" ++ r.type ++ " " ++ p.entriesText ident ++ "]" ++ head

def absentText (dummy : String) (r : AntiRelation) : String :=
  let (tail, head) := arrow r.inward
  "(:" ++ p.text r.label ++ ")" ++ tail ++ "[:" ++ p.text r.type ++ " " ++ p.propertiesText r.properties ++ "]"
    ++ head ++ "(" ++ dummy ++ ")"

def fingerprintText (s : String) : String := "apoc.hashing.fingerprinting(" ++ s ++ ", \x7bstrategy: 'EAGER'\x7d)"

/-- The relations by which a node is looked for, with the hash once they are tied to their merge. -/
def soughtText : String :=
  Text.join "," (d.relations.map (fun r =>
    p.relationText r r.dummyVar (if d.hashed then withHash d.hash r.ident else r.ident) ++ "(" ++ p.varText d.dummy ++ ")"))

/-- The merge of a node together with its identifying relations: it is looked for as `sought` says, or made
with them. -/
def dependentMerge (sought : String) : Except Fault String := do
  if d.relations.isEmpty then refuse .unassigned
  let out := p.varText m.out
  let dummy := p.varText d.dummy
  let props := p.varText m.propVar
  let labels := Text.join ":" d.labels
  let ident := p.entriesText m.ident
  let others := d.relations.filterMap (·.other.var?)
  let given := d.relations.map (fun r => withoutHash r.ident)
  let known := m.ident.map (·.2) ++ others ++ (given.flatten).map (·.2)
  let handed := p.handedOn ([d.dummy, m.propVar] ++ known ++ d.relations.map (·.dummyVar))
  let aliases := p.takenBack "$" known
  let hashes := (List.range d.relations.length).zip (d.relations.zip given) |>.map (fun (i, r, g) =>
    fingerprintText ("[" ++ toString i ++ ", '" ++ r.type ++ "', " ++ p.entriesText g ++ "]"))
  let hash := "with *, " ++ fingerprintText ("[" ++ Text.join ",  " (hashes ++ [fingerprintText ident]) ++ "]")
    ++ " as " ++ p.varText d.hash
  let made := (List.range d.relations.length).zip d.relations |>.map (fun (i, r) =>
    "MERGE " ++ p.relationText r r.relVar (withHash d.hash r.ident)
      ++ (if i == 0 then "(" ++ out ++ ": " ++ labels ++ " " ++ ident ++ ")" else "(" ++ out ++ ")"))
  let absent := Text.join " OR " (d.absent.map (p.absentText dummy))
  let condition := if absent.isEmpty then "" else "WHERE NOT (" ++ absent ++ ")"
  let exists_ := "OPTIONAL MATCH (" ++ dummy ++ ": " ++ labels ++ " " ++ ident ++ ")," ++ sought ++ " " ++ condition
  let newRelations := listed (d.relations.map (fun r => p.varText r.relVar))
  let oldRelations := listed (d.relations.map (fun r => "$" ++ p.varText r.dummyVar ++ " as " ++ p.varText r.relVar))
  let makeIt := inLines
    [ "", s!"        WITH {aliases}, $time0 as time0", "        " ++ hash, "        " ++ inLines made,
      s!"        SET {out} += ${props}",
      s!"        RETURN {out}, {newRelations}",
      "        " ]
  let takeIt := s!"RETURN ${dummy} as {out}, {oldRelations}"
  let holder := p.varText d.holder
  let when_ := s!"CALL apoc.do.when({dummy} is null, \"{makeIt}\", \"{takeIt}\", "
    ++ braced (" " ++ handed ++ ", time0:time0") ++ s!") yield value as {holder}"
  let expansion := p.takenBack (holder ++ ".") (m.out :: d.relations.map (·.relVar))
  let locks := listed (d.relations.map (fun r => p.text r.other))
  return Text.dedent (inLines [s!"CALL apoc.lock.nodes([{locks}])", exists_, when_, s!" WITH *, {expansion}"])

def afterDependent : Except Fault String := do
  if m.rule == .trackAndFlag then refuse WriteCause.notAdapted
  let dummy := p.varText d.dummy
  let handed := [m.out, m.propVar] ++ d.relations.map (·.relVar) ++ d.relations.map (·.propVar)
  let aliases := p.takenBack "$" handed
  let record := p.handedOn handed ++ ", time0:time0"
  let create := inLines (p.onCreate m "$time0" :: d.relations.map (fun r =>
    let rel := p.varText r.relVar
    let props := p.varText r.propVar
    s!"SET {rel}._dbupdated = $time0, {rel}._dbcreated = $time0, {rel} += {props}"))
  let found := String.join ((d.relations.map (fun r => (r.relVar, r.propVar)) ++ [(m.out, m.propVar)]).map
    (fun (node, props) => "\n" ++ p.onMatch m.rule node props "  "))
  let run := inLines (("SET " ++ p.varText m.out ++ "._dbupdated = time0  // always set updated time")
    :: d.relations.map (fun r => "SET " ++ p.varText r.relVar ++ "._dbupdated = time0"))
  return Text.dedent (inLines
    [ "", "        // post merge", s!"        call apoc.do.when({dummy} is null,",
      s!"        \"WITH {aliases}\n{create}\n RETURN $time0\",",
      s!"        \"WITH {aliases}\n{found}\n RETURN $time0\",",
      "        " ++ braced (" " ++ record ++ " ") ++ ") yield value as " ++ p.varText d.unnamed,
      "        " ++ run,
      "" ])

def mergeDependentText : Except Fault String := do
  let before := p.beforeMerge m ++ String.join (d.relations.map (fun r =>
    ", " ++ p.entriesText r.properties ++ " as " ++ p.varText r.propVar))
  let merge ← p.dependentMerge m d (p.soughtText d)
  let after ← p.afterDependent m d
  return p.mergeText m (mergeParagraph before merge after) nodeRecord ("innode: " ++ p.varText m.out)

def matchPatternText (labels : List String) (properties : Properties)
    (parents children exclude : List Thing) (out : VarId) : String :=
  let out := p.varText out
  let labels := Text.join ":" labels
  let props := p.propertiesText properties
  let single (ts : List Thing) : List String := (ts.filter (!p.isCollection ·)).map p.text
  let many (ts : List Thing) : List String := (ts.filter p.isCollection).map p.text
  let relations := listed ((single parents).map (fun x => s!"({out})<--({x})")
    ++ (single children).map (fun x => s!"({out})-->({x})"))
  let extras := Text.join " AND " ((single exclude).map (fun e => s!"({out} <> {e} or {e} is null)")
    ++ (many exclude).map (fun e => s!"all(n in {e} where {out} <> n or n is null)")
    ++ (many parents).map (fun x => s!"all(p in {x} where exists( ({out})<--(p) ))")
    ++ (many children).map (fun x => s!"all(c in {x} where exists( ({out})-->(c) ))"))
  s!"WITH * OPTIONAL MATCH ({out}: {labels} {props})" ++ (if relations.isEmpty then "" else "," ++ relations)
    ++ (if extras.isEmpty then "" else " WHERE " ++ extras)

def matchRelationText (parent child : Thing) (type : Value) (properties : Properties)
    (optional : Bool) (out : VarId) : Except Fault String := do
  let out := p.varText out
  let props := p.propertiesText properties
  let relation ← match type, properties with
    | .none, .given _ => refuse .badType
    | .none, .entries [] => pure out
    | .none, _ => pure s!"{out}: {props}"
    | t, _ =>
      let t := t.display
      pure s!"{out}:{t} {props}"
  let keyword := if optional then "OPTIONAL MATCH" else "MATCH"
  let parent := p.text parent
  let child := p.text child
  return s!"{keyword} ({parent})-[{relation}]->({child})"

def setVersionText (parents types : List Thing) (label : String) (child : Thing) (properties : Properties) : String :=
  let child := p.text child
  let props := p.propertiesText properties
  let matches_ := listed ((parents.zip types).map (fun (x, t) =>
    let x := p.text x
    let t := p.text t
    s!"({x})-[:{t}]->(c:{label} {props})"))
  let parents := Text.join "," (parents.map p.text)
  inLines
    [ "WITH * CALL \x7b", s!"\t WITH {parents}, {child}", s!"\t OPTIONAL MATCH {matches_}\t WHERE id(c) <> id({child})",
      s!"\t WITH {child}, max(c.version) as maxversion",
      s!"\t SET {child}.version = coalesce({child}['version'], maxversion + 1, 0)",
      s!"\t RETURN {child}['version']",
      "\x7d" ]

def unwindText (s : Statement) (indexer : Option VarId) (enumerated : Bool) : Except Fault String := do
  let outs := s.outputs.map p.varText
  let ins := s.inputs.map p.text
  match ins, outs, enumerated with
  | [x], o :: _, false => return s!"WITH * UNWIND {x} as {o}"
  | _, _, _ =>
    match indexer with
    | none => refuse .missingAttribute
    | some i => do
      let i := p.varText i
      let all := Text.join "," ins
      let each := String.join ((ins.zip outs.dropLast).map (fun (x, o) => s!", {x}[{i}] as {o}"))
      return s!"WITH *, apoc.coll.max([x in [{all}] | SIZE(x)])-1 as m\n" ++ s!"UNWIND range(0, m) as {i} WITH *{each}"

def renamed (s : Statement) : List String :=
  (s.inputs.zip s.outputs).map (fun (a, b) => p.text a ++ " as " ++ p.varText b)

def branchText (path : List Thing) (outputs : List VarId) : String :=
  let nodes := (path.zip outputs).map (fun (t, o) =>
    match t.text? with
    | some label => "(" ++ p.varText o ++ ":" ++ label ++ ")"
    | none => "(" ++ p.varText o ++ ")")
  "WITH * OPTIONAL MATCH " ++ Text.join "<-[:is_required_by]-" nodes

def statementText (s : Statement) : Except Fault String := do
  match s.form with
  | .timestamp => return "WITH *, timestamp() as " ++ listed (s.outputs.map p.varText)
  | .returns unnamed named =>
    return "RETURN " ++ listed (unnamed.map p.text ++ named.map (fun e => p.text e.2 ++ " as " ++ e.1))
  | .rename | .copy => return "WITH *, " ++ listed (p.renamed s)
  | .unwind indexer enumerated => p.unwindText s indexer enumerated
  | .collect previous =>
    let collections := (s.inputs.zip s.outputs).map (fun (a, b) =>
      "collect(" ++ p.text a ++ ") as " ++ p.varText b)
    return "WITH " ++ listed (previous.map p.varText) ++ (if collections.isEmpty then "" else ", " ++ Text.join "," collections)
  | .lookup mapping item out temp => do
    let key := match item with
      | .var v => p.varText v
      | t => "'" ++ p.text t ++ "'"
    let temp := p.varText temp
    let mapping := p.varText mapping
    let out := p.varText out
    return s!"WITH *, CASE WHEN apoc.meta.type({key}) = 'STRING' THEN {key} ELSE toString(toFloat({key})) END as {temp}\n"
      ++ s!"WITH *, {mapping}[{temp}] as {out}"
  | .groupBy property =>
    return "WITH *, apoc.map.groupBy(" ++ listed (s.inputs.map p.text) ++ ", '" ++ property ++ "') as "
      ++ listed (s.outputs.map p.varText)
  | .custom format => Text.Template.fill format (s.inputs.map p.text ++ s.outputs.map p.varText)
  | .matchNode labels properties optional out =>
    return (if optional then "OPTIONAL MATCH" else "MATCH") ++ " (" ++ p.varText out ++ ":" ++ Text.join ":" labels
      ++ " " ++ p.propertiesText properties ++ ")"
  | .matchRelation parent child type properties optional out =>
    p.matchRelationText parent child type properties optional out
  | .matchId labels id out =>
    let out := p.varText out
    let labels := Text.join ":" labels
    let id := p.varText id
    return s!"MATCH ({out}: {labels}) where id({out}) = {id}"
  | .matchPattern labels properties parents children exclude out =>
    return p.matchPatternText labels properties parents children exclude out
  | .matchBranch path => return p.branchText path s.outputs
  | .mergeNode labels m => return p.mergeNodeText labels m
  | .mergeRelation parent child type m => return p.mergeRelationText parent child type m
  | .mergeDependent m d => p.mergeDependentText m d
  | .setVersion parents types label child properties =>
    return p.setVersionText parents types label child properties
  | .validateNumber collection min max central joined check =>
    let c := p.text collection
    let min := p.text min
    let max := p.text max
    let central := p.text central
    let joined := p.text joined
    let check := p.varText check
    return s!"WITH *, apoc.util.validatePredicate((size({c}) > {max}) or (size({c}) < {min}), "
      ++ s!"'{central} expects {min} <= count({joined}) <= {max} not %d', [size({c})]) AS {check}"
  | .validateType subject label check member =>
    let v := p.text subject
    let label := p.text label
    let check := p.varText check
    match member with
    | some x =>
      let x := p.varText x
      return s!"WITH *, apoc.util.validatePredicate(size([{x} in {v} where NOT '{label}' in labels({x})]) > 0, "
        ++ s!"'{v} needs to be a collection of {label}', []) as {check}"
    | none =>
      return s!"WITH *, apoc.util.validatePredicate('NOT {label}' in labels({v}), '{v} expects {label}', []) as {check}"

end Program

end SurveyGraph.Write
