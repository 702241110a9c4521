import SurveyGraph.Write.Text
/-!
# Writing a program down

A program is written down in two steps: every variable gets a name, its hint with a number after it, and
then every statement is put into words. Data that no statement mentions is not sent.
-/
namespace SurveyGraph.Write

variable (counts : NameCounts) (cs : List Char) (p : Program)

abbrev NameCounts := List (String × Nat)

def nextName (hint : String) : String × NameCounts :=
  let i := (counts.lookup hint).getD 0
  (hint ++ toString i, setNamed hint (i + 1) counts)

def setName (v : VarId) (name : Option String) : WriteM Unit :=
  modify fun p => { p with vars := p.vars.modify v (fun x => { x with name }) }

/-- Names a variable after its hint. A hint that is no text gives no name. -/
def nameVariable (v : VarId) : WriteM NameCounts := do
  match ((← get).get v).hint with
  | .text hint => do
    let (name, counts) := nextName counts (Text.Letter.lower hint)
    setName v (some name)
    return counts
  | _ => refuse .missingAttribute

/-- Names a thing that a statement mentions, if it is a variable without a name. -/
def nameThing (t : Thing) : WriteM NameCounts := do
  match t with
  | .var v =>
    let x := (← get).get v
    if x.kind.parent?.isSome || x.name.isSome then return counts
    nameVariable counts v
  | .object _ | .cls _ | .plain (.path _) => return counts
  | _ => refuse .missingAttribute

/-- Names all variables: data first, then the others as statements mention them. -/
def nameVariables : WriteM Unit := do
  let p ← get
  let counts ← p.data.toList.foldlM nameVariable []
  let _ ← (p.statements.toList.flatMap Statement.mentioned).foldlM nameThing counts

def forgetName (t : Thing) : WriteM Unit := do
  match t with
  | .var v => setName v none
  | .object _ | .cls _ => return
  | _ => refuse .missingAttribute

/-- Takes the names of all variables away that statements mention. -/
def forgetNames : WriteM Unit := do
  ((← get).statements.toList.flatMap Statement.mentioned).forM forgetName

/-- The length of the alias of data at the beginning of a text. -/
def dataAlias? : Option Nat :=
  match cs with
  | '$' :: rest =>
    let source := rest.takeWhile Text.Glyph.isWord
    let rest := rest.drop source.length
    let target := (rest.drop 5).takeWhile Text.Glyph.isWord
    if !source.isEmpty && " as $".toList.isPrefixOf rest && !target.isEmpty && (rest.drop (5 + target.length)).head? == some ','
    then some (source.length + target.length + 7)
    else none
  | _ => none

/-- The text without aliases of data; `skip` counts the characters of an alias still to pass. -/
def dropAliases : Nat → List Char → List Char
  | _, [] => []
  | skip + 1, _ :: rest => dropAliases skip rest
  | 0, c :: rest =>
    match dataAlias? (c :: rest) with
    | some n => dropAliases (n - 1) rest
    | none => c :: dropAliases 0 rest

/-- Data is known everywhere and has no place among what is passed on. -/
def withoutAliases (s : String) : String :=
  if Text.Letter.lower (String.ofList (s.toList.take 4)) == "with" && s.toList.contains '$' then
    String.ofList (dropAliases 0 s.toList)
  else s

/-- The length of the name of a custom procedure that is called where a text begins. -/
def customCall? : Option Nat :=
  if "custom.".toList.isPrefixOf cs then
    let name := (cs.drop 7).takeWhile Text.Glyph.isWord
    if !name.isEmpty && (cs.drop (7 + name.length)).head? == some '(' then some (7 + name.length) else none
  else none

/-- The text with a tag after every name of a custom procedure; `skip` counts the characters still to
pass. -/
def tagCalls (tag : List Char) : Nat → List Char → List Char
  | _, [] => []
  | skip + 1, _ :: rest => tagCalls tag skip rest
  | 0, c :: rest =>
    match customCall? (c :: rest) with
    | some n => (c :: rest).take n ++ tag ++ ['('] ++ tagCalls tag n rest
    | none => c :: tagCalls tag 0 rest

/-- The mark between a name and its tag. Marks do not stay in the text. -/
def tagMark : String := "-----"

/-- The text with tagged procedures, without indentation. -/
def finished (tag s : String) : String :=
  Text.dedent (Text.replaceAll (String.ofList (tagCalls (tagMark ++ tag).toList 0 s.toList)) tagMark "")

structure Rendered where
  lines : List String
  params : List (String × Thing)

/-- The program without its statements. What their texts depend on is all there. -/
def Program.words : Program := { p with statements := #[] }

/-- The text of a statement. A merge ties its relations together once its text is asked for. -/
def statementTextAt (i : Nat) : WriteM String := do
  let p ← get
  match p.statements[i]? with
  | none => return ""
  | some s => do
    match s.form with
    | .mergeDependent m d =>
      let s : Statement := { s with form := .mergeDependent m { d with hashed := true } }
      set { p with statements := p.statements.modify i (fun _ => s) }
    | _ => pure ()
    p.words.statementText s

def statementTexts : WriteM (List String) := do
  (List.range (← get).statements.size).mapM statementTextAt

/-- The part of the texts up to a batch, with the last text at its end. -/
def batchOf (texts : List String) (count : Nat) (size i : Value) : Except Fault (List String) := do
  let whole (v : Value) : Except Fault Int :=
    match v with
    | .int n => .ok n
    | .bool b => .ok (if b then 1 else 0)
    | _ => refuse .badType
  if size matches .none then return texts
  if i matches .none then refuse WriteCause.batchMissing
  let i ← whole i
  if i > count || i < 0 then refuse WriteCause.batchRange
  let stop := (← whole size) * (i + 1)
  let part := if stop < 0 then texts.take (texts.length - stop.natAbs) else texts.take stop.toNat
  match part.getLast?, texts.getLast? with
  | some a, some b => return if a == b then part else part ++ [b]
  | _, _ => refuse .outOfRange

/-- The data that is mentioned in texts, by name. -/
def Program.dataIn (texts : List String) : List (String × Thing) :=
  let texts := texts.map String.toList
  p.data.toList.foldl (fun acc v =>
    let x := p.get v
    match x.kind with
    | .data value =>
      let name := x.name.getD ""
      if texts.any (Text.occursIn name.toList) then setNamed name value acc else acc
    | _ => acc) []

/-- Writes the program down. A program that gives nothing back gives the time back. -/
def render (tag : String) (asLines : Bool) (batchSize batch : Value) : WriteM Rendered := do
  let p ← get
  if !((p.statements.back?.map Statement.isReturns).getD false) then
    set { p with statements := p.statements.push (.returns [.var Program.time] []) }
  nameVariables
  let texts ← statementTexts
  let texts ← batchOf texts texts.length batchSize batch
  let texts := texts.map withoutAliases
  let params := (← get).dataIn texts
  if asLines then return { lines := texts, params }
  return { lines := Text.cutAt '\n' (finished tag (inLines texts)), params }

end SurveyGraph.Write
