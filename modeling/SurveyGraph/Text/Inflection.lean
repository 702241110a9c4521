import SurveyGraph.Text.Letter
import SurveyGraph.Text.Glyph
/-!
# English nouns in the plural

`pluralNoun` forms the plural of a noun and `singularNoun?` the singular of one that looks like a plural.
Rules are tried from the most special to the most general: nouns without a plural of their own, irregular
nouns, families with a foreign ending, and regular endings.
-/
namespace SurveyGraph.Text.Inflection

variable (w text : String)

/-- Nouns that are the same in both numbers. -/
def unchanged : List String :=
  ["tuna", "salmon", "mackerel", "trout", "bream", "sea-bass", "sea bass", "carp", "cod",
   "flounder", "whiting", "moose", "graffiti", "djinn", "samuri", "offspring", "pence", "quid",
   "hertz", "breeches", "britches", "pajamas", "pyjamas", "clippers", "gallows", "hijinks",
   "headquarters", "pliers", "scissors", "testes", "herpes", "pincers", "shears", "proceedings",
   "trousers", "cantus", "coitus", "nexus", "contretemps", "corps", "debris", "siemens", "mumps",
   "diabetes", "jackanapes", "series", "species", "subspecies", "rabies", "chassis", "innings",
   "news", "mews", "haggis"]

/-- Endings of nouns that are the same in both numbers. -/
def unchangedEndings : List String :=
  ["butter", "cash", "furniture", "information", "fish", "deer", "sheep", "nese", "rese", "lese",
   "mese", "pox", "craft", "ois", "measles"]

/-- Nouns in `us` that are never taken for a plural. -/
def fourthDeclension : List String :=
  ["apparatus", "cantus", "coitus", "hiatus", "impetus", "nexus", "plexus", "prospectus", "sinus", "status"]

/-- Irregular nouns, with every plural that is understood; the first is the one formed. -/
def irregular : List (String × List String) :=
  [("child", ["children"]), ("chili", ["chilis", "chilies"]),
   ("brother", ["brothers", "brethren"]), ("infinity", ["infinities", "infinity"]),
   ("loaf", ["loaves"]), ("lore", ["lores", "lore"]), ("hoof", ["hoofs", "hooves"]),
   ("beef", ["beefs", "beeves"]), ("thief", ["thiefs", "thieves"]), ("money", ["monies"]),
   ("mongoose", ["mongooses"]), ("ox", ["oxen"]), ("cow", ["cows", "kine"]),
   ("graffito", ["graffiti"]), ("octopus", ["octopuses", "octopodes"]),
   ("genie", ["genies", "genii"]), ("ganglion", ["ganglions", "ganglia"]),
   ("trilby", ["trilbys"]), ("turf", ["turfs", "turves"]), ("numen", ["numina"]),
   ("atman", ["atmas"]), ("occiput", ["occiputs", "occipita"]), ("sabretooth", ["sabretooths"]),
   ("sabertooth", ["sabertooths"]), ("lowlife", ["lowlifes"]), ("flatfoot", ["flatfoots"]),
   ("tenderfoot", ["tenderfoots"]), ("romany", ["romanies"]), ("jerry", ["jerries"]),
   ("mary", ["maries"]), ("talouse", ["talouses"]), ("rom", ["roma"]), ("carmen", ["carmina"]),
   ("corpus", ["corpuses", "corpora"]), ("opus", ["opuses", "opera"]), ("genus", ["genera"]),
   ("mythos", ["mythoi"]), ("penis", ["penises", "penes"]), ("testis", ["testes"]),
   ("atlas", ["atlases", "atlantes"]), ("yes", ["yeses"])]

def pronouns : List (String × String) :=
  [("i", "we"), ("myself", "ourselves"), ("you", "you"), ("yourself", "yourselves"),
   ("she", "they"), ("herself", "themselves"), ("he", "they"), ("himself", "themselves"),
   ("it", "they"), ("itself", "themselves"), ("they", "they"), ("themself", "themselves"),
   ("mine", "ours"), ("yours", "yours"), ("hers", "theirs"), ("his", "theirs"), ("its", "theirs"),
   ("theirs", "theirs"), ("me", "us"), ("her", "them"), ("him", "them"), ("them", "them"),
   ("oneself", "themselves")]

/-- Pronouns in the plural and the pronoun they stand for. -/
def pluralPronouns : List (String × String) :=
  [("we", "I"), ("ourselves", "myself"), ("you", "you"), ("yourselves", "yourself"),
   ("they", "it"), ("themselves", "itself"), ("ours", "mine"), ("yours", "yours"),
   ("theirs", "its"), ("us", "me"), ("them", "it")]

/-! The lists below are named for the ending of their words and the ending that takes its place. -/

def mans : List String :=
  ["ataman", "caiman", "cayman", "ceriman", "desman", "dolman", "farman", "harman", "hetman",
   "human", "leman", "ottoman", "shaman", "talisman"]

def chs : List String := ["czech", "eunuch", "stomach"]
def exIces : List String := ["codex", "murex", "silex"]
def ixIces : List String := ["radix", "helix"]
def umA : List String :=
  ["bacterium", "agendum", "desideratum", "erratum", "stratum", "datum", "ovum", "extremum", "candelabrum"]
def usI : List String :=
  ["alumnus", "alveolus", "bacillus", "bronchus", "locus", "nucleus", "stimulus", "meniscus", "sarcophagus"]
def onA : List String :=
  ["perihelion", "aphelion", "phenomenon", "prolegomenon", "noumenon", "organon", "asyndeton", "hyperbaton"]
def aAe : List String := ["alumna", "alga", "vertebra", "persona", "vita"]

/-- Singular nouns in `s` that take `es`. -/
def singularS : List String :=
  ["acropolis", "aegis", "alias", "asbestos", "bathos", "bias", "bronchitis", "bursitis", "caddis",
   "cannabis", "canvas", "chaos", "christmas", "cosmos", "dais", "digitalis", "epidermis", "ethos",
   "eyas", "gas", "glottis", "hubris", "ibis", "lens", "mantis", "marquis", "metropolis", "pathos",
   "pelvis", "polis", "rhinoceros", "sassafras", "trellis", "ephemeris", "iris", "clitoris"]

/-- Endings of singular nouns in `s` that take `es`. -/
def singularSEndings : List String := ["ss", "us", "itis"] ++ fourthDeclension

def osNouns : List String :=
  ["ado", "iso", "no", "pro", "quo", "to", "two", "ego", "euro", "kilo", "lido", "limo", "lino",
   "loco", "logo", "memo", "polo", "silo", "solo", "sumo", "taro", "tiro", "typo", "tyro", "zero"]

def osEndings : List String :=
  ["aficionado", "aggro", "albino", "allegro", "ammo", "antipasto", "archipelago", "armadillo",
   "auto", "avocado", "banjo", "bistro", "bongo", "bravado", "bravo", "bronco", "cello", "centimo",
   "chino", "coco", "commando", "concerto", "contango", "credo", "crescendo", "cyano", "demo",
   "desperado", "dildo", "dingo", "disco", "ditto", "dynamo", "espresso", "fandango", "fiasco",
   "figaro", "flamenco", "flamingo", "fresco", "furioso", "generalissimo", "ghetto", "gigolo",
   "gizmo", "gringo", "guano", "gusto", "hairdo", "hippo", "impetigo", "impresario", "incognito",
   "indigo", "inferno", "intaglio", "jumbo", "junto", "kakapo", "kimono", "lasso", "libido",
   "limbo", "lingo", "lumbago", "macho", "macro", "mafioso", "magneto", "magnifico", "manifesto",
   "medico", "merino", "metro", "micro", "motto", "mulatto", "octavo", "palazzo", "peccadillo",
   "photo", "piccolo", "pimento", "pinto", "placebo", "poncho", "portico", "pseudo", "psycho",
   "pueblo", "quango", "quarto", "repo", "rhino", "risotto", "rococo", "rondo", "salvo", "sexto",
   "sirocco", "sombrero", "soprano", "basso", "alto", "contralto", "tempo", "piano", "virtuoso",
   "staccato", "stiletto", "stylo", "tango", "tattoo", "tobacco", "torso", "turbo", "tuxedo",
   "vertigo", "vibrato", "virago", "weirdo", "yo-yo", "zingaro"]

def zEs : List String := ["quartz", "topaz"]
def zeS : List String := ["snooze"]

def iesIe : List String :=
  ["aeries", "baggies", "belies", "biggies", "birdies", "bogies", "bonnies", "boogies", "bookies",
   "bourgeoisies", "brownies", "budgies", "caddies", "calories", "camaraderies", "cockamamies",
   "collies", "cookies", "coolies", "cooties", "coteries", "crappies", "curies", "cutesies",
   "dogies", "eyries", "floozies", "footsies", "freebies", "genies", "goalies", "groupies", "hies",
   "jalousies", "junkies", "kiddies", "laddies", "lassies", "lies", "lingeries", "magpies",
   "menageries", "mommies", "movies", "neckties", "newbies", "nighties", "oldies", "organdies",
   "overlies", "pies", "pinkies", "pixies", "potpies", "prairies", "quickies", "reveries",
   "rookies", "rotisseries", "softies", "sorties", "species", "stymies", "sweeties", "ties",
   "underlies", "unties", "veggies", "vies", "yuppies", "zombies"]

def oesOe : List String :=
  ["aloes", "backhoes", "canoes", "does", "floes", "foes", "hoes", "mistletoes", "oboes", "pekoes",
   "roes", "sloes", "throes", "tiptoes", "toes", "woes"]

def ssesSse : List String := ["bouillabaisses", "crevasses", "impasses", "mousses", "posses"]
def zzesZz : List String := ["buzzes", "fizzes", "frizzes", "razzes"]
def chesChe : List String :=
  ["aches", "avalanches", "backaches", "bellyaches", "caches", "cloches", "creches", "douches",
   "earaches", "fiches", "headaches", "heartaches", "microfiches", "niches", "pastiches",
   "psyches", "quiches", "stomachaches", "toothaches", "tranches"]
def xesXe : List String := ["annexes", "axes", "deluxes", "pickaxes"]
def vesVe : List String :=
  ["absolves", "bivalves", "carves", "cleaves", "connives", "delves", "dissolves", "eaves",
   "evolves", "greaves", "heaves", "interweaves", "involves", "olives", "outlives", "relives",
   "resolves", "revolves", "salves", "shelves", "solves", "starves", "twelves", "valves", "weaves"]
def esIs : List String :=
  ["amanuenses", "amniocenteses", "analyses", "antitheses", "apotheoses", "arterioscleroses",
   "atheroscleroses", "axes", "catalyses", "catharses", "chasses", "cirrhoses", "cocces", "crises",
   "diagnoses", "dialyses", "diereses", "electrolyses", "emphases", "exegeses", "geneses",
   "halitoses", "hydrolyses", "hypnoses", "hypotheses", "hystereses", "metamorphoses",
   "metastases", "misdiagnoses", "mitoses", "mononucleoses", "narcoses", "necroses", "nemeses",
   "neuroses", "oases", "osmoses", "osteoporoses", "paralyses", "parentheses", "parthenogeneses",
   "periphrases", "photosyntheses", "probosces", "prognoses", "prophylaxes", "prostheses",
   "preces", "psoriases", "psychoanalyses", "psychokineses", "psychoses", "scleroses", "scolioses",
   "sepses", "silicoses", "symbioses", "synopses", "syntheses", "taxes", "telekineses", "theses",
   "thromboses", "tuberculoses", "urinalyses"]

def endsIn (endings : List String) : Bool := endings.any (endsWith w)

def slice (n k : Nat) : String :=
  let cs := w.toList
  String.ofList ((cs.take (cs.length - k)).drop (cs.length - n))

def lastWord : String :=
  let parts := (w.toList.splitOnP Glyph.isBlank).filter (!·.isEmpty)
  String.ofList (parts.getLast?.getD [])

def swapEnd (n : Nat) (ending : String) : String := dropEnd w n ++ ending

/-- Whether the first character is a capital, or has no case. -/
def startsHigh : Bool :=
  match w.toList with
  | [] => false
  | c :: _ => Letter.upperOf c == [c]

/-- Whether a text is empty or lies within the vowels. -/
def isVowel (s : String) : Bool := ["", "a", "e", "i", "o", "u"].contains s

def regularPlural (low : String) : String :=
  if singularS.contains low || endsIn low singularSEndings then w ++ "es"
  else if endsWith low "es" && startsHigh w then w ++ "es"
  else if endsWith low "z" && endsIn low zEs then w ++ "es"
  else if endsWith low "z" && slice low 2 1 != "z" then w ++ "zes"
  else if endsWith low "ze" && endsIn low zeS then w ++ "s"
  else if endsIn low ["ch", "sh", "zz", "ss", "x"] then w ++ "es"
  else if endsIn low ["elf", "alf", "olf"] then swapEnd w 1 "ves"
  else if endsWith low "eaf" && slice low 4 3 != "d" then swapEnd w 1 "ves"
  else if endsIn low ["nife", "life", "wife"] then swapEnd w 2 "ves"
  else if endsWith low "arf" then swapEnd w 1 "ves"
  else if endsWith low "y" then
    if isVowel (slice low 2 1) then w ++ "s" else swapEnd w 1 "ies"
  else if osNouns.contains low || endsIn low osEndings then w ++ "s"
  else if endsIn low ["ao", "eo", "io", "oo", "uo"] then w ++ "s"
  else if endsWith low "o" then w ++ "es"
  else w ++ "s"

/-- The plural of a word of one of the families with an ending of their own. -/
def familyPlural? (low : String) : Option String :=
  if endsWith low "quy" then some (swapEnd w 1 "ies")
  else if endsWith low "person" then some (swapEnd w 4 "ople")
  else if endsWith low "man" then
    some (if endsIn low mans then w ++ "s" else swapEnd w 3 "men")
  else if endsWith low "mouse" then some (swapEnd w 5 "mice")
  else if endsWith low "louse" then
    some (if ["booklouse", "grapelouse", "louse", "woodlouse"].contains low then swapEnd w 5 "lice"
      else w ++ "s")
  else if endsWith low "goose" then some (swapEnd w 5 "geese")
  else if endsWith low "tooth" then some (swapEnd w 5 "teeth")
  else if endsWith low "foot" then some (swapEnd w 4 "feet")
  else if endsWith low "taco" then some (swapEnd w 5 "tacos")
  else if low == "die" then some "dice"
  else if endsWith low "ceps" then some w
  else if endsWith low "zoon" then some (swapEnd w 2 "a")
  else if endsIn low ["cis", "sis", "xis"] then some (swapEnd w 2 "es")
  else if endsIn low chs then some (w ++ "s")
  else if endsIn low exIces || endsIn low ixIces then some (swapEnd w 2 "ices")
  else if endsIn low umA then some (swapEnd w 2 "a")
  else if endsIn low usI then some (swapEnd w 2 "i")
  else if endsIn low onA then some (swapEnd w 2 "a")
  else if endsIn low aAe then some (w ++ "e")
  else none

/-- Puts the capitals of the given word back into an inflected form. -/
def restoreCase (given formed : String) : String :=
  let formed := if Letter.capitalize given == given then Letter.capitalize formed else formed
  if Letter.upper given == given then Letter.upper formed else formed

def pluralOfWord : String :=
  let low := Letter.lower w
  let last := Letter.lower (lastWord w)
  if unchanged.contains last || endsIn low unchangedEndings then w
  else match pronouns.lookup low with
    | some p => p
    | none =>
      match irregular.lookup last with
      | some ps => swapEnd w last.length (ps.headD "")
      | none => (familyPlural? w low).getD (regularPlural w low)

/-- The singular of a word of one of the families with an ending of their own. -/
def familySingular? (low : String) : Option String :=
  if endsWith low "quies" then some (swapEnd w 3 "y")
  else if endsWith low "persons" then some (dropEnd w 1)
  else if endsWith low "people" then some (swapEnd w 4 "rson")
  else if endsWith low "mans" && endsIn low (mans.map (· ++ "s")) then some (dropEnd w 1)
  else if endsWith low "men" then some (swapEnd w 3 "man")
  else if endsWith low "mice" then some (swapEnd w 4 "mouse")
  else if ["booklice", "grapelice", "lice", "woodlice"].contains low then some (swapEnd w 4 "louse")
  else if endsWith low "geese" then some (swapEnd w 5 "goose")
  else if endsWith low "teeth" then some (swapEnd w 5 "tooth")
  else if endsWith low "feet" then some (swapEnd w 4 "foot")
  else if low == "dice" then some "die"
  else if endsWith low "ceps" then some w
  else if endsWith low "zoa" then some (swapEnd w 1 "on")
  else if endsIn low (chs.map (· ++ "s")) then some (dropEnd w 1)
  else if endsIn low (exIces.map (swapEnd · 2 "ices")) then some (swapEnd w 4 "ex")
  else if endsIn low (ixIces.map (swapEnd · 2 "ices")) then some (swapEnd w 4 "ix")
  else if endsIn low (umA.map (swapEnd · 2 "a")) then some (swapEnd w 1 "um")
  else if endsIn low (usI.map (swapEnd · 2 "i")) then some (swapEnd w 1 "us")
  else if endsIn low (onA.map (swapEnd · 2 "a")) then some (swapEnd w 1 "on")
  else if endsIn low (aAe.map (· ++ "e")) then some (dropEnd w 1)
  else none

def regularSingular? (low last : String) : Option String :=
  if endsWith low "houses" || iesIe.contains last then some (dropEnd w 1)
  else if endsWith low "shoes" || oesOe.contains last then some (dropEnd w 1)
  else if ssesSse.contains last then some (dropEnd w 1)
  else if (singularS.map (· ++ "es")).contains last
      || endsIn low (singularSEndings.map (· ++ "es")) then some (dropEnd w 2)
  else if endsWith low "eses" && startsHigh w then some (dropEnd w 2)
  else if (zEs.map (· ++ "es")).contains last || zzesZz.contains last then some (dropEnd w 2)
  else if endsWith low "zzes" then some (dropEnd w 3)
  else if chesChe.contains last then some (dropEnd w 1)
  else if endsIn low ["ches", "shes"] then some (dropEnd w 2)
  else if xesXe.contains last then some (dropEnd w 1)
  else if endsWith low "xes" then some (dropEnd w 2)
  else if vesVe.contains last then some (dropEnd w 1)
  else if endsWith low "ves" && ["el", "al", "ol", "ar"].contains (slice low 5 3) then
    some (swapEnd w 3 "f")
  else if endsWith low "ves" && slice low 5 3 == "ea" && slice low 6 5 != "d" then
    some (swapEnd w 3 "f")
  else if endsWith low "ves" && ["ni", "li", "wi"].contains (slice low 5 3) then
    some (swapEnd w 3 "fe")
  else if endsWith low "ies" then some (swapEnd w 3 "y")
  else if endsWith low "os" && ((osNouns.map (· ++ "s")).contains last
      || endsIn low (osEndings.map (· ++ "s"))) then some (dropEnd w 1)
  else if endsWith low "oes" then some (dropEnd w 2)
  else if esIs.contains w then some (swapEnd w 2 "is")
  else if endsWith low "s" then some (dropEnd w 1)
  else none

/-- The singular of one word, if it looks like a plural. -/
def singularOfWord? : Option String :=
  let low := Letter.lower w
  let last := Letter.lower (lastWord w)
  if unchanged.contains last || endsIn low unchangedEndings then some w
  else if fourthDeclension.contains last then none
  else match pluralPronouns.lookup low with
    | some p => some p
    | none =>
      match irregular.find? (fun e => e.2.contains last) with
      | some (s, _) => some (swapEnd w last.length s)
      | none =>
        match familySingular? w low with
        | some s => some s
        | none => regularSingular? w low last

/-- The blanks before a phrase, the phrase, and the blanks after it. -/
def partition : String × String × String :=
  let cs := text.toList
  let before := cs.takeWhile Glyph.isBlank
  let rest := cs.dropWhile Glyph.isBlank
  let word := (rest.reverse.dropWhile Glyph.isBlank).reverse
  (String.ofList before, String.ofList word, String.ofList (rest.drop word.length))

def pluralNoun : String :=
  let (before, word, after) := partition text
  if word.isEmpty then text else before ++ restoreCase word (pluralOfWord word) ++ after

/-- The singular of a noun in the plural; `none` if it does not look like a plural. -/
def singularNoun? : Option String :=
  let (before, word, after) := partition text
  if word.isEmpty then some text
  else (singularOfWord? word).map (fun s => before ++ restoreCase word s ++ after)

end SurveyGraph.Text.Inflection

namespace SurveyGraph.Text

/-! ## Names for one and for many -/

variable (name : String)

/-- Endings of names with a plural of their own, tried before the rules of English. -/
def ownPlurals : List (String × String) := [("spectrum", "spectra"), ("noss", "nosses"), ("use", "uses")]

/-- The ending that marks a collection of things whose name already looks like a plural. -/
def groupEnding : String := "_group"

/-- The plural of a name by its own ending; one that is such a plural gets the group ending. -/
def ownPlural? : Option String :=
  ownPlurals.findSome? fun (one, many) =>
    if endsWith name one then some (dropEnd name one.length ++ many)
    else if endsWith name many then some (name ++ groupEnding)
    else none

/-- The singular of a name by its own ending; a name that already is singular stays. -/
def ownSingular? : Option String :=
  ownPlurals.findSome? fun (one, many) =>
    if endsWith name many then some (dropEnd name many.length ++ one)
    else if endsWith name one then some name
    else none

/-- The name for many of a thing; `none` for a name that has the group ending already. -/
def pluralName? : Option String :=
  if endsWith name groupEnding then none
  else match ownPlural? name with
    | some p => some p
    | none =>
      match Inflection.singularNoun? name with
      | none | some "" => some (Inflection.pluralNoun name)
      | some _ => some (name ++ groupEnding)

def singularName : String :=
  if endsWith name groupEnding then dropEnd name groupEnding.length
  else match ownSingular? name with
    | some s => s
    | none =>
      match Inflection.singularNoun? name with
      | none | some "" => name
      | some s => s

end SurveyGraph.Text
