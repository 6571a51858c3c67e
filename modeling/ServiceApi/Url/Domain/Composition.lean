import ServiceApi.Text.CombiningClass
import ServiceApi.Text.Table

/-!
# Composed texts

A letter with marks can be one character or several. The composed form of a text takes all apart,
orders the marks on each base by their classes, and puts together what one character can stand for.
The table holds the characters of a folded domain, after Unicode 17; Hangul syllables are composed
by rule.
-/

namespace ServiceApi.Url.Domain

open Text

/-- What a character is made of. -/
def decompositions : Table := [
  .ofWords 0xE0 "61+300 61+301 61+302 61+303 61+308 61+30a - 63+327 65+300 65+301 65+302 65+308
    69+300 69+301 69+302 69+308 - 6e+303 6f+300 6f+301 6f+302 6f+303 6f+308 - - 75+300 75+301
    75+302 75+308 79+301 - 79+308 - 61+304 - 61+306 - 61+328 - 63+301 - 63+302 - 63+307 - 63+30c -
    64+30c - - - 65+304 - 65+306 - 65+307 - 65+328 - 65+30c - 67+302 - 67+306 - 67+307 - 67+327 -
    68+302 - - - 69+303 - 69+304 - 69+306 - 69+328 - - - - - 6a+302 - 6b+327 - - 6c+301 - 6c+327 -
    6c+30c - - - - - 6e+301 - 6e+327 - 6e+30c - - - - 6f+304 - 6f+306 - 6f+30b - - - 72+301 -
    72+327 - 72+30c - 73+301 - 73+302 - 73+327 - 73+30c - 74+327 - 74+30c - - - 75+303 - 75+304 -
    75+306 - 75+30a - 75+30b - 75+328 - 77+302 - 79+302 - - 7a+301 - 7a+307 - 7a+30c",
  .ofWords 0x1A1 "6f+31b",
  .ofWords 0x1B0 "75+31b",
  .ofWords 0x1CE "61+30c - 69+30c - 6f+30c - 75+30c - 75+308+304 - 75+308+301 - 75+308+30c -
    75+308+300 - - 61+308+304 - 61+307+304 - e6+304 - - - 67+30c - 6b+30c - 6f+328 - 6f+328+304 -
    292+30c 6a+30c - - - - 67+301 - - - 6e+300 - 61+30a+301 - e6+301 - f8+301 - 61+30f - 61+311 -
    65+30f - 65+311 - 69+30f - 69+311 - 6f+30f - 6f+311 - 72+30f - 72+311 - 75+30f - 75+311 -
    73+326 - 74+326 - - - 68+30c",
  .ofWords 0x227 "61+307 - 65+327 - 6f+308+304 - 6f+303+304 - 6f+307 - 6f+307+304 - 79+304",
  .ofWords 0x390 "3b9+308+301",
  .ofWords 0x3AC "3b1+301 3b5+301 3b7+301 3b9+301 3c5+308+301",
  .ofWords 0x3CA "3b9+308 3c5+308 3bf+301 3c5+301 3c9+301",
  .ofWords 0x439 "438+306",
  .ofWords 0x450 "435+300 435+308 - 433+301 - - - 456+308 - - - - 43a+301 438+300 443+306",
  .ofWords 0x477 "475+30f",
  .ofWords 0x4C2 "436+306",
  .ofWords 0x4D1 "430+306 - 430+308 - - - 435+306 - - - 4d9+308 - 436+308 - 437+308 - - - 438+304 -
    438+308 - 43e+308 - - - 4e9+308 - 44d+308 - 443+304 - 443+308 - 443+30b - 447+308 - - -
    44b+308",
  .ofWords 0x622 "627+653 627+654 648+654 627+655 64a+654",
  .ofWords 0x6C0 "6d5+654 - 6c1+654",
  .ofWords 0x6D3 "6d2+654",
  .ofWords 0x929 "928+93c",
  .ofWords 0x931 "930+93c - - 933+93c",
  .ofWords 0x9CB "9c7+9be 9c7+9d7",
  .ofWords 0xB48 "b47+b56 - - b47+b3e b47+b57",
  .ofWords 0xB94 "b92+bd7",
  .ofWords 0xBCA "bc6+bbe bc7+bbe bc6+bd7",
  .ofWords 0xC48 "c46+c56",
  .ofWords 0xCC0 "cbf+cd5",
  .ofWords 0xCC7 "cc6+cd5 cc6+cd6 - cc6+cc2 cc6+cc2+cd5",
  .ofWords 0xD4A "d46+d3e d47+d3e d46+d57",
  .ofWords 0xDDA "dd9+dca - dd9+dcf dd9+dcf+dca dd9+ddf",
  .ofWords 0x1026 "1025+102e",
  .ofWords 0x1B06 "1b05+1b35 - 1b07+1b35 - 1b09+1b35 - 1b0b+1b35 - 1b0d+1b35 - - - 1b11+1b35",
  .ofWords 0x1B3B "1b3a+1b35 - 1b3c+1b35 - - 1b3e+1b35 1b3f+1b35 - 1b42+1b35",
  .ofWords 0x1E01 "61+325 - 62+307 - 62+323 - 62+331 - 63+327+301 - 64+307 - 64+323 - 64+331 -
    64+327 - 64+32d - 65+304+300 - 65+304+301 - 65+32d - 65+330 - 65+327+306 - 66+307 - 67+304 -
    68+307 - 68+323 - 68+308 - 68+327 - 68+32e - 69+330 - 69+308+301 - 6b+301 - 6b+323 - 6b+331 -
    6c+323 - 6c+323+304 - 6c+331 - 6c+32d - 6d+301 - 6d+307 - 6d+323 - 6e+307 - 6e+323 - 6e+331 -
    6e+32d - 6f+303+301 - 6f+303+308 - 6f+304+300 - 6f+304+301 - 70+301 - 70+307 - 72+307 - 72+323
    - 72+323+304 - 72+331 - 73+307 - 73+323 - 73+301+307 - 73+30c+307 - 73+323+307 - 74+307 -
    74+323 - 74+331 - 74+32d - 75+324 - 75+330 - 75+32d - 75+303+301 - 75+304+308 - 76+303 - 76+323
    - 77+300 - 77+301 - 77+308 - 77+307 - 77+323 - 78+307 - 78+308 - 79+307 - 7a+302 - 7a+323 -
    7a+331 68+331 74+308 77+30a 79+30a",
  .ofWords 0x1EA1 "61+323 - 61+309 - 61+302+301 - 61+302+300 - 61+302+309 - 61+302+303 - 61+323+302
    - 61+306+301 - 61+306+300 - 61+306+309 - 61+306+303 - 61+323+306 - 65+323 - 65+309 - 65+303 -
    65+302+301 - 65+302+300 - 65+302+309 - 65+302+303 - 65+323+302 - 69+309 - 69+323 - 6f+323 -
    6f+309 - 6f+302+301 - 6f+302+300 - 6f+302+309 - 6f+302+303 - 6f+323+302 - 6f+31b+301 -
    6f+31b+300 - 6f+31b+309 - 6f+31b+303 - 6f+31b+323 - 75+323 - 75+309 - 75+31b+301 - 75+31b+300 -
    75+31b+309 - 75+31b+303 - 75+31b+323 - 79+300 - 79+323 - 79+309 - 79+303",
  .ofWords 0x1F00 "3b1+313 3b1+314 3b1+313+300 3b1+314+300 3b1+313+301 3b1+314+301 3b1+313+342
    3b1+314+342",
  .ofWords 0x1F10 "3b5+313 3b5+314 3b5+313+300 3b5+314+300 3b5+313+301 3b5+314+301",
  .ofWords 0x1F20 "3b7+313 3b7+314 3b7+313+300 3b7+314+300 3b7+313+301 3b7+314+301 3b7+313+342
    3b7+314+342",
  .ofWords 0x1F30 "3b9+313 3b9+314 3b9+313+300 3b9+314+300 3b9+313+301 3b9+314+301 3b9+313+342
    3b9+314+342",
  .ofWords 0x1F40 "3bf+313 3bf+314 3bf+313+300 3bf+314+300 3bf+313+301 3bf+314+301",
  .ofWords 0x1F50 "3c5+313 3c5+314 3c5+313+300 3c5+314+300 3c5+313+301 3c5+314+301 3c5+313+342
    3c5+314+342",
  .ofWords 0x1F60 "3c9+313 3c9+314 3c9+313+300 3c9+314+300 3c9+313+301 3c9+314+301 3c9+313+342
    3c9+314+342",
  .ofWords 0x1F70 "3b1+300 - 3b5+300 - 3b7+300 - 3b9+300 - 3bf+300 - 3c5+300 - 3c9+300",
  .ofWords 0x1FB0 "3b1+306 3b1+304 - - - - 3b1+342",
  .ofWords 0x1FC6 "3b7+342",
  .ofWords 0x1FD0 "3b9+306 3b9+304 3b9+308+300 - - - 3b9+342 3b9+308+342",
  .ofWords 0x1FE0 "3c5+306 3c5+304 3c5+308+300 - 3c1+313 3c1+314 3c5+342 3c5+308+342",
  .ofWords 0x1FF6 "3c9+342",
  .ofWords 0x219A "2190+338 2192+338",
  .ofWords 0x21AE "2194+338",
  .ofWords 0x21CD "21d0+338 21d4+338 21d2+338",
  .ofWords 0x2204 "2203+338 - - - - 2208+338 - - 220b+338",
  .ofWords 0x2224 "2223+338 - 2225+338",
  .ofWords 0x2241 "223c+338 - - 2243+338 - - 2245+338 - 2248+338",
  .ofWords 0x2260 "3d+338 - 2261+338",
  .ofWords 0x226D "224d+338 3c+338 3e+338 2264+338 2265+338 - - 2272+338 2273+338 - - 2276+338
    2277+338",
  .ofWords 0x2280 "227a+338 227b+338 - - 2282+338 2283+338 - - 2286+338 2287+338",
  .ofWords 0x22AC "22a2+338 22a8+338 22a9+338 22ab+338",
  .ofWords 0x22E0 "227c+338 227d+338 2291+338 2292+338",
  .ofWords 0x22EA "22b2+338 22b3+338 22b4+338 22b5+338",
  .ofWords 0x304C "304b+3099 - 304d+3099 - 304f+3099 - 3051+3099 - 3053+3099 - 3055+3099 -
    3057+3099 - 3059+3099 - 305b+3099 - 305d+3099 - 305f+3099 - 3061+3099 - - 3064+3099 - 3066+3099
    - 3068+3099",
  .ofWords 0x3070 "306f+3099 306f+309a - 3072+3099 3072+309a - 3075+3099 3075+309a - 3078+3099
    3078+309a - 307b+3099 307b+309a",
  .ofWords 0x3094 "3046+3099",
  .ofWords 0x309E "309d+3099",
  .ofWords 0x30AC "30ab+3099 - 30ad+3099 - 30af+3099 - 30b1+3099 - 30b3+3099 - 30b5+3099 -
    30b7+3099 - 30b9+3099 - 30bb+3099 - 30bd+3099 - 30bf+3099 - 30c1+3099 - - 30c4+3099 - 30c6+3099
    - 30c8+3099",
  .ofWords 0x30D0 "30cf+3099 30cf+309a - 30d2+3099 30d2+309a - 30d5+3099 30d5+309a - 30d8+3099
    30d8+309a - 30db+3099 30db+309a",
  .ofWords 0x30F4 "30a6+3099 - - 30ef+3099 30f0+3099 30f1+3099 30f2+3099 - - - 30fd+3099",
  .ofWords 0x105C9 "105d2+307",
  .ofWords 0x105E4 "105da+307",
  .ofWords 0x1109A "11099+110ba - 1109b+110ba",
  .ofWords 0x110AB "110a5+110ba",
  .ofWords 0x1112E "11131+11127 11132+11127",
  .ofWords 0x1134B "11347+1133e 11347+11357",
  .ofWords 0x11383 "11382+113c9 - 11384+113bb",
  .ofWords 0x1138E "1138b+113c2 - - 11390+113c9",
  .ofWords 0x113C5 "113c2+113c2 - 113c2+113b8 113c2+113c9",
  .ofWords 0x114BB "114b9+114ba 114b9+114b0 - 114b9+114bd",
  .ofWords 0x115BA "115b8+115af 115b9+115af",
  .ofWords 0x11938 "11935+11930",
  .ofWords 0x16121 "1611e+1611e 1611e+16129 1611e+1611f 16129+1611f 1611e+16120 1611e+1611e+1611f
    1611e+16129+1611f 1611e+1611e+16120",
  .ofWords 0x16D68 "16d67+16d67 16d63+16d67 16d63+16d67+16d67"]

/-! ## Hangul -/

def leadBase : Nat := 0x1100
def vowelBase : Nat := 0x1161
/-- One before the first trailing consonant: no consonant counts as the first. -/
def trailBase : Nat := 0x11A7
def syllableBase : Nat := 0xAC00
def leadCount : Nat := 19
def vowelCount : Nat := 21
def trailCount : Nat := 28

def inSpan (base count n : Nat) : Bool := base ≤ n && n < base + count

def syllableParts? (c : Char) : Option (List Char) :=
  if inSpan syllableBase (leadCount * vowelCount * trailCount) c.toNat then
    let i := c.toNat - syllableBase
    let pair := [Char.ofNat (leadBase + i / (vowelCount * trailCount)),
      Char.ofNat (vowelBase + i / trailCount % vowelCount)]
    if i % trailCount = 0 then some pair
    else some (pair ++ [Char.ofNat (trailBase + i % trailCount)])
  else none

def syllable? (a b : Char) : Option Char :=
  let i := a.toNat - syllableBase
  if inSpan leadBase leadCount a.toNat && inSpan vowelBase vowelCount b.toNat then
    some (Char.ofNat (syllableBase +
      ((a.toNat - leadBase) * vowelCount + (b.toNat - vowelBase)) * trailCount))
  else if inSpan syllableBase (leadCount * vowelCount * trailCount) a.toNat && i % trailCount == 0
      && inSpan (trailBase + 1) (trailCount - 1) b.toNat then
    some (Char.ofNat (a.toNat + (b.toNat - trailBase)))
  else none

/-! ## Taking apart and putting together -/

def decompose (c : Char) : List Char :=
  (syllableParts? c <|> decompositions.text? c).getD [c]

/-- The one character that stands for `a` followed by `b`. -/
def compose? (a b : Char) : Option Char :=
  syllable? a b <|> decompositions.char? (decompose a ++ [b])

/-- Puts a mark before the ones of a higher class and after all others on the same base. -/
def insertMark (c : Char) : List Char → List Char
  | [] => [c]
  | d :: ds =>
    if combiningClass d != 0 && combiningClass d < combiningClass c then d :: insertMark c ds
    else c :: d :: ds

def ordered (cs : List Char) : List Char := cs.foldr insertMark []

/-- Composes `start` with what follows it; `marks` are those between that did not compose, the last
first. A mark is out of reach behind one of its own class or a higher one. -/
def composeFrom (start : Char) (marks : List Char) : List Char → List Char
  | [] => start :: marks.reverse
  | c :: cs =>
    let within := marks.head?.all (combiningClass · < combiningClass c)
    match if within then compose? start c else none with
    | some composite => composeFrom composite marks cs
    | none =>
      if combiningClass c = 0 then start :: marks.reverse ++ composeFrom c [] cs
      else composeFrom start (c :: marks) cs

def composed (cs : List Char) : List Char :=
  if cs.all (·.toNat < 0x80) then cs
  else
    match ordered (cs.flatMap decompose) with
    | [] => []
    | c :: cs => composeFrom c [] cs

end ServiceApi.Url.Domain
