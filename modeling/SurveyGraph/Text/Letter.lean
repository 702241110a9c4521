import SurveyGraph.Text.Table
import SurveyGraph.Text.Basic
/-!
# Letter case

Case maps and case classes of the Unicode character set. Most letters come in pairs of a capital and a small letter. Letters
that have a case but no partner, and letters that map to several characters, are listed apart.
-/
namespace SurveyGraph.Text.Letter

variable (c : Char) (s : String) (n : Nat)

/-- Capital letters each followed by their small letter: the first, and how many there are. -/
def alternating : List (Nat × Nat) :=
  [(256,24),(306,3),(313,8),(330,23),(377,3),(386,2),(391,1),(395,1),(401,1),(408,1),(416,3),(423,1),(428,1),(431,1),
   (435,2),(440,1),(444,1),(461,8),(478,9),(500,1),(504,20),(546,9),(571,1),(577,1),(582,5),(880,2),(886,1),(984,12),
   (1015,1),(1018,1),(1120,17),(1162,27),(1217,7),(1232,48),(7680,75),(7840,48),(8579,1),(11360,1),(11367,3),(11378,1),
   (11381,1),(11392,50),(11499,2),(11506,1),(42560,23),(42624,14),(42786,7),(42802,31),(42873,2),(42878,5),(42891,1),
   (42896,2),(42902,10),(42932,8),(42951,2),(42960,1),(42966,2),(42997,1)]

/-- Capital letters in a row, their small letters in a row, and how many there are. -/
def rows : List (Nat × Nat × Nat) :=
  [(192,224,23),(216,248,7),(393,598,2),(433,650,2),(904,941,3),(910,973,2),(913,945,17),(931,963,9),(1021,891,3),
   (1024,1104,16),(1040,1072,32),(1329,1377,38),(4256,11520,38),(5024,43888,80),(5104,5112,6),(7312,4304,43),
   (7357,4349,3),(7944,7936,8),(7960,7952,6),(7976,7968,8),(7992,7984,8),(8008,8000,6),(8040,8032,8),(8120,8112,2),
   (8122,8048,2),(8136,8050,4),(8152,8144,2),(8154,8054,2),(8168,8160,2),(8170,8058,2),(8184,8056,2),(8186,8060,2),
   (8544,8560,16),(9398,9424,26),(11264,11312,48),(11390,575,2),(65313,65345,26),(66560,66600,40),(66736,66776,36),
   (66928,66967,11),(66940,66979,15),(66956,66995,7),(66964,67003,2),(68736,68800,51),(71840,71872,32),
   (93760,93792,32),(125184,125218,34)]

/-- Other capital letters with their small letters. -/
def singles : List (Nat × Nat) :=
  [(376,255),(385,595),(390,596),(398,477),(399,601),(400,603),(403,608),(404,611),(406,617),(407,616),(412,623),
   (413,626),(415,629),(422,640),(425,643),(430,648),(439,658),(452,454),(455,457),(458,460),(497,499),(502,405),
   (503,447),(544,414),(570,11365),(573,410),(574,11366),(579,384),(580,649),(581,652),(895,1011),(902,940),(908,972),
   (975,983),(1017,1010),(1216,1231),(4295,11559),(4301,11565),(8025,8017),(8027,8019),(8029,8021),(8031,8023),
   (8172,8165),(8498,8526),(11362,619),(11363,7549),(11364,637),(11373,593),(11374,625),(11375,592),(11376,594),
   (42877,7545),(42893,613),(42922,614),(42923,604),(42924,609),(42925,620),(42926,618),(42928,670),(42929,647),
   (42930,669),(42931,43859),(42948,42900),(42949,642),(42950,7566)]

def pairs : List Pairs := alternating.map .alternating ++ rows.map .row ++ singles.map .single

/-- Title case digraphs such as `ǅ` with their small letters. -/
def titles : List Pairs :=
  [(8072,8064,8),(8088,8080,8),(8104,8096,8)].map .row
    ++ [(453,454),(456,457),(459,460),(498,499),(8124,8115),(8140,8131),(8188,8179)].map .single

/-- Further capital letters of small letters that have another one. -/
def moreCapitals : List Pairs := [(1012,952),(7838,223),(8486,969),(8490,107),(8491,229)].map .single

/-- Further small letters of capital letters that have another one. -/
def moreSmalls : List Pairs :=
  [(73,305),(83,383),(914,976),(917,1013),(920,977),(921,837),(921,8126),(922,1008),(924,181),
   (928,982),(929,1009),(931,962),(934,981),(1042,7296),(1044,7297),(1054,7298),(1057,7299),
   (1058,7300),(1058,7301),(1066,7302),(1122,7303),(7776,7835),(42570,7304)].map .single

/-- Small letters whose capital is another letter and a capital iota. -/
def withIota : List Pairs :=
  [(7944,8064,8),(7944,8072,8),(7976,8080,8),(7976,8088,8),(8040,8096,8),(8040,8104,8)].map .row
    ++ [(8122,8114),(913,8115),(902,8116),(913,8124),(8138,8130),(919,8131),(905,8132),(919,8140),
        (8186,8178),(937,8179),(911,8180),(937,8188)].map .single

/-- Letters whose lower case is longer than one character. -/
def lowerSpecial : List (Nat × List Nat) := [(304,[105,775])]

/-- Other letters whose upper case is longer than one character. -/
def upperSpecial : List (Nat × List Nat) :=
  [(223,[83,83]),(329,[700,78]),(496,[74,780]),(912,[921,776,769]),(944,[933,776,769]),
   (1415,[1333,1362]),(7830,[72,817]),(7831,[84,776]),(7832,[87,778]),(7833,[89,778]),(7834,[65,702]),
   (8016,[933,787]),(8018,[933,787,768]),(8020,[933,787,769]),(8022,[933,787,834]),(8118,[913,834]),
   (8119,[913,834,921]),(8134,[919,834]),(8135,[919,834,921]),(8146,[921,776,768]),
   (8147,[921,776,769]),(8150,[921,834]),(8151,[921,776,834]),(8162,[933,776,768]),
   (8163,[933,776,769]),(8164,[929,787]),(8166,[933,834]),(8167,[933,776,834]),(8182,[937,834]),
   (8183,[937,834,921]),(64256,[70,70]),(64257,[70,73]),(64258,[70,76]),(64259,[70,70,73]),
   (64260,[70,70,76]),(64261,[83,84]),(64262,[83,84]),(64275,[1348,1350]),(64276,[1348,1333]),
   (64277,[1348,1339]),(64278,[1358,1350]),(64279,[1348,1341])]

/-- Other letters whose title case differs from their upper case. -/
def titleSpecial : List (Nat × List Nat) :=
  [(223,[83,115]),(452,[453]),(455,[456]),(458,[459]),(497,[498]),(1415,[1333,1410]),(8114,[8122,837]),
   (8116,[902,837]),(8119,[913,834,837]),(8130,[8138,837]),(8132,[905,837]),(8135,[919,834,837]),
   (8178,[8186,837]),(8180,[911,837]),(8183,[937,834,837]),(64256,[70,102]),(64257,[70,105]),
   (64258,[70,108]),(64259,[70,102,105]),(64260,[70,102,108]),(64261,[83,116]),(64262,[83,116]),
   (64275,[1348,1398]),(64276,[1348,1381]),(64277,[1348,1387]),(64278,[1358,1398]),(64279,[1348,1389])]

/-- Small letters without a capital letter of one character. -/
def loneSmalls : List Nat :=
  [170,1,15,1,36,1,88,1,16,1,67,1,13,1,14,2,14,1,3,1,49,1,48,1,18,6,27,1,2,1,1,1,2,3,2,1,1,1,2,1,5,2,1,1,2,2,1,7,1,2,1,
   1,2,3,6,5,1,1,1,8,2,26,7,2,30,5,149,1,21,1,31,1,75,1,355,1,38,2,6007,121,1,3,1,16,1,49,214,5,1,2,1,1,176,1,1,1,1,1,
   1,1,41,8,8,8,8,8,10,3,1,2,10,3,1,2,10,2,2,2,10,3,1,2,10,3,1,2,121,1,13,1,16,13,109,1,3,2,3,1,27,1,4,1,4,1,2,2,8,4,
   2855,1,2,1,2,7,102,1,31159,2,146,2,62,9,21,1,6,1,25,1,35,1,1,1,34,3,821,35,1,7,1,13,20375,7,12,5,3176,1,2,3,1,42,1,
   9,52319,26,26,7,1,18,26,26,26,4,1,1,1,7,1,11,26,26,26,26,26,26,26,26,26,26,26,26,26,26,26,26,26,28,28,25,1,6,26,25,
   1,6,26,25,1,6,26,25,1,6,26,25,1,6,1,1,1844,10,1,20]

/-- Capital letters without a small letter of one character. -/
def loneCapitals : List Nat :=
  [304,1,673,3,7469,1,4,1,3,3,2,3,2,1,3,5,6,1,3,1,3,2,2,2,1,1,10,2,5,1,111290,26,26,26,26,26,26,1,1,2,2,1,2,2,2,4,1,8,
   26,26,26,2,1,4,2,8,1,7,27,2,1,4,1,5,1,1,3,7,27,26,26,26,26,26,26,26,26,26,26,26,30,25,33,25,33,25,33,25,33,25,33,1,
   6501,26,6,26,6,26]

/-- Characters that are passed over when the surroundings of a letter are judged. -/
def ignorable : List Nat :=
  [39,1,6,1,11,1,35,1,1,1,71,1,4,1,1,1,4,1,2,2,503,192,4,2,4,1,9,2,1,1,251,7,207,1,5,1,49,45,1,1,1,2,1,2,1,1,44,1,11,6,
   10,11,1,1,35,1,10,21,16,1,101,8,1,10,1,4,33,1,1,1,30,27,91,11,58,11,4,1,2,1,24,24,43,3,44,1,7,2,6,8,41,58,55,1,1,1,
   4,8,4,1,3,7,10,2,13,1,15,1,58,1,4,4,8,1,20,2,26,1,2,2,57,1,4,2,4,2,2,3,3,1,30,2,3,1,11,2,57,1,4,5,1,2,4,1,20,2,22,6,
   1,1,58,1,2,1,1,4,8,1,7,2,11,2,30,1,61,1,12,1,50,1,3,1,55,1,1,3,5,3,1,4,7,2,11,2,29,1,58,1,2,1,6,1,5,2,20,2,28,2,57,
   2,4,4,8,1,20,2,29,1,72,1,7,3,1,1,90,1,2,7,11,9,98,1,2,9,9,1,1,6,74,2,27,1,1,1,1,1,55,14,1,5,1,2,5,11,1,36,9,1,102,4,
   1,6,1,2,2,2,25,2,4,3,16,4,13,1,2,2,6,1,15,1,94,1,608,3,946,3,29,2,30,2,30,2,64,2,1,7,8,1,2,11,3,1,5,1,45,5,51,1,65,
   2,34,1,118,3,4,2,9,1,6,3,219,2,2,1,58,1,1,7,1,1,1,1,2,8,6,10,2,1,39,1,8,31,49,4,48,1,1,5,1,1,5,1,40,9,12,2,32,4,2,2,
   1,3,56,1,1,2,3,1,1,3,58,8,2,2,64,6,82,3,1,13,1,7,4,1,6,1,3,2,50,63,13,1,34,101,445,1,1,3,11,3,13,3,13,3,13,2,12,5,8,
   2,10,1,2,1,2,5,49,5,1,10,1,1,13,1,16,13,51,33,2955,2,113,3,125,1,15,1,96,32,47,1,469,1,36,4,3,5,5,1,93,6,93,3,28438,
   1,1250,6,270,1,98,4,1,10,1,1,28,4,80,2,14,34,78,1,23,3,103,3,3,2,8,1,3,1,4,1,25,2,5,1,151,2,26,18,13,1,38,8,25,11,
   46,3,48,1,2,4,2,2,17,1,21,2,66,6,2,2,2,2,12,1,8,1,35,1,11,1,51,1,1,3,2,2,5,2,1,1,27,1,14,2,5,2,1,1,100,5,9,3,121,1,
   2,1,4,1,20272,1,147,17,573,16,3,1,12,16,34,1,2,1,169,1,7,1,6,1,11,1,35,1,1,1,47,1,45,2,67,1,21,3,513,1,226,1,149,5,
   1029,6,1,42,1,9,582,3,1,2,5,4,40,3,4,1,165,2,573,4,387,2,153,11,49,4,123,1,54,15,41,1,2,2,10,3,49,4,2,2,2,1,4,1,10,
   1,50,3,36,5,1,8,62,1,12,2,52,9,10,4,2,1,95,3,2,1,1,2,6,1,160,1,3,8,21,2,57,2,3,1,37,7,3,5,195,8,2,3,1,1,23,1,84,6,1,
   1,4,2,1,2,238,4,6,2,1,2,27,2,85,8,2,1,1,2,106,1,1,1,2,6,1,1,101,3,2,4,1,5,259,9,1,2,256,2,1,1,4,1,144,4,2,2,4,1,32,
   10,40,6,2,4,8,1,9,6,2,3,46,13,1,2,406,7,1,6,1,1,82,22,2,7,1,2,1,2,122,6,3,1,1,2,1,7,1,1,72,2,3,1,1,1,347,2,5435,9,
   14007,5,59,7,9,4,1035,1,63,17,64,2,1,2,16395,4,1,7,1,2,3230,2,1,4,4700,46,2,23,544,3,9,16,2,7,30,4,148,3,1979,55,4,
   50,8,1,14,1,22,5,1,15,1360,7,1,17,2,7,1,2,1,5,261,14,368,1,61,4,1504,7,109,8,2735,5,789505,1,30,96,128,240]

def smallOf? : Option Nat := small? (pairs ++ titles ++ moreCapitals) n

def capitalOf? : Option Nat := capital? (pairs ++ moreSmalls) n

def isTitle : Bool := (small? titles c.toNat).isSome

def isLower : Bool :=
  if c.toNat < 128 then c.isLower else (capitalOf? c.toNat).isSome || inStretches loneSmalls c.toNat

def isUpper : Bool :=
  if c.toNat < 128 then c.isUpper
  else (small? (pairs ++ moreCapitals) c.toNat).isSome || inStretches loneCapitals c.toNat

def isCased : Bool := isLower c || isUpper c || isTitle c

def isIgnorable : Bool := inStretches ignorable c.toNat

def lowerOf : List Char :=
  if c.toNat < 128 then [c.toLower]
  else match lookupSpecial lowerSpecial c.toNat with
    | some cs => cs
    | none => [Char.ofNat ((smallOf? c.toNat).getD c.toNat)]

def upperOf : List Char :=
  if c.toNat < 128 then [c.toUpper]
  else match lookupSpecial upperSpecial c.toNat, capital? withIota c.toNat with
    | some cs, _ => cs
    | none, some n => [Char.ofNat n, 'Ι']
    | none, none =>
      let n := (small? titles c.toNat).getD c.toNat
      [Char.ofNat ((capitalOf? n).getD n)]

/-- Whether the character is a Georgian letter that a word may begin with in lower case only. -/
def isGeorgian : Bool := (4304 ≤ c.toNat && c.toNat ≤ 4346) || (4349 ≤ c.toNat && c.toNat ≤ 4351)

def titleOf : List Char :=
  if c.toNat < 128 then [c.toUpper]
  else match lookupSpecial titleSpecial c.toNat, capital? titles c.toNat with
    | some cs, _ => cs
    | none, some n => [Char.ofNat n]
    | none, none => if isTitle c || isGeorgian c then [c] else upperOf c

/-- Lower case of a text. `before` holds the characters passed, last one first: a capital sigma that
ends a word has a form of its own. -/
def lowerFrom (before : List Char) : List Char → List Char
  | [] => []
  | c :: rest =>
    let here :=
      if c == 'Σ' then
        let ends := ((before.dropWhile isIgnorable).head?.map isCased).getD false
          && !((rest.dropWhile isIgnorable).head?.map isCased).getD false
        [if ends then 'ς' else 'σ']
      else lowerOf c
    here ++ lowerFrom (c :: before) rest

def lower : String := String.ofList (lowerFrom [] s.toList)

def upper : String := String.ofList (s.toList.flatMap upperOf)

def capitalize : String :=
  match s.toList with
  | [] => ""
  | c :: rest => String.ofList (titleOf c ++ lowerFrom [c] rest)

def isLowerText : Bool := s.toList.any isLower && !s.toList.any (fun c => isUpper c || isTitle c)

end SurveyGraph.Text.Letter

namespace SurveyGraph.Text

/-! ## Word boundaries in names -/

/-- Joins the words of a name, each capitalized. -/
def camelCase (name : String) : String := String.join ((cutAt '_' name).map Letter.capitalize)

def isCapital (c : Char) : Bool := 'A' ≤ c && c ≤ 'Z'

def isSmall (c : Char) : Bool := 'a' ≤ c && c ≤ 'z'

/-- Puts an underscore before each capitalized word that follows another character of its line. -/
def splitWords : List Char → List Char
  | [] => []
  | [c] => [c]
  | c :: d :: rest =>
    if c != '\n' && isCapital d && (rest.head?.map isSmall).getD false then
      c :: '_' :: d :: (rest.takeWhile isSmall ++ splitWords (rest.dropWhile isSmall))
    else c :: splitWords (d :: rest)
termination_by cs => cs.length
decreasing_by
  · have := (List.dropWhile_sublist isSmall (l := rest)).length_le
    simp only [List.length_cons]
    omega
  · simp

/-- Puts an underscore between a small letter or digit and the capital after it. -/
def splitCapitals : List Char → List Char
  | [] => []
  | [c] => [c]
  | c :: d :: rest =>
    if (isSmall c || c.isDigit) && isCapital d then c :: '_' :: d :: splitCapitals rest
    else c :: splitCapitals (d :: rest)

/-- Dimension counts are one word: `1_D` is written `1D`. -/
def joinDimensions (s : String) : String := ["1", "2", "3"].foldl (fun t n => replaceAll t (n ++ "_D") (n ++ "D")) s

def snakeCase (name : String) : String :=
  Letter.lower (joinDimensions (String.ofList (splitCapitals (splitWords name.toList))))

end SurveyGraph.Text
