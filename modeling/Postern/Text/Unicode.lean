import Postern.Text.Fields
import Postern.Text.Number

/-!
What Unicode says about characters: white space, general categories, the characters of words, scripts, and simple case
folding.  Tables that mark every character are written as runs in the order of the characters.
-/

namespace Postern.Text

/-! ### White space -/

/-- Membership in the Unicode property `White_Space`. -/
def isBlank (c : Char) : Bool :=
  let n := c.toNat
  (0x09 ≤ n && n ≤ 0x0D) || n = 0x20 || n = 0x85 || n = 0xA0 || n = 0x1680 || (0x2000 ≤ n && n ≤ 0x200A)
    || n = 0x2028 || n = 0x2029 || n = 0x202F || n = 0x205F || n = 0x3000

/-- A text without the white space at its end. -/
def trimEnd (s : String) : String :=
  String.ofList (s.toList.reverse.dropWhile isBlank).reverse

/-- A text without the white space at both ends. -/
def trim (s : String) : String :=
  String.ofList ((s.toList.dropWhile isBlank).reverse.dropWhile isBlank).reverse

/-- A text is blank when every character of it is white space. -/
def isAllBlank (s : String) : Bool := s.toList.all isBlank

/-! ### Tables -/

/-- Characters in a row that share a mark. -/
structure Run where
  mark : String
  size : Nat
  deriving DecidableEq, Repr

/-- A run as a word: a mark of `width` letters, and how many characters have it in hexadecimal digits; no digits stand
for one character. -/
def Run.ofWord (width : Nat) (word : List Char) : Run :=
  ⟨String.ofList (word.take width), (numeral? 16 (word.drop width)).getD 1⟩

/-- The runs of a table, which is lines of words with blanks between them. -/
def runs (width : Nat) (table : List String) : List Run :=
  table.flatMap fun line => (fields ' ' line.toList).map (.ofWord width)

def markAt? : List Run → Nat → Option String
  | [], _ => none
  | r :: rs, n => if n < r.size then some r.mark else markAt? rs (n - r.size)

/-! ### General categories

A category is known by two letters, of which the first is that of its group: `Lu` and `Ll` are letters, `Nd` is a
number. -/

def categoryTable : List String :=
  [
    "Cc20 Zs Po3 Sc Po3 Ps Pe Po Sm Po Pd Po2 Nda Po2 Sm3 Po2 Lu1a Ps Po Pe Sk Pc Sk Ll1a Ps Sm Pe Sm Cc21 Zs Po",
    "Sc4 So Po Sk So Lo Pi Sm Cf So Sk So Sm No2 Sk Ll Po2 Sk No Lo Pf No3 Po Lu17 Sm Lu7 Ll18 Sm Ll8 Lu Ll Lu Ll",
    "Lu Ll Lu Ll Lu Ll Lu Ll Lu Ll Lu Ll Lu Ll Lu Ll Lu Ll Lu Ll Lu Ll Lu Ll Lu Ll Lu Ll Lu Ll Lu Ll Lu Ll Lu Ll Lu",
    "Ll Lu Ll Lu Ll Lu Ll Lu Ll Lu Ll Lu Ll Lu Ll2 Lu Ll Lu Ll Lu Ll Lu Ll Lu Ll Lu Ll Lu Ll Lu Ll2 Lu Ll Lu Ll Lu",
    "Ll Lu Ll Lu Ll Lu Ll Lu Ll Lu Ll Lu Ll Lu Ll Lu Ll Lu Ll Lu Ll Lu Ll Lu Ll Lu Ll Lu Ll Lu Ll Lu Ll Lu Ll Lu Ll",
    "Lu Ll Lu Ll Lu2 Ll Lu Ll Lu Ll3 Lu2 Ll Lu Ll Lu2 Ll Lu3 Ll2 Lu4 Ll Lu2 Ll Lu3 Ll3 Lu2 Ll Lu2 Ll Lu Ll Lu Ll",
    "Lu2 Ll Lu Ll2 Lu Ll Lu2 Ll Lu3 Ll Lu Ll Lu2 Ll2 Lo Lu Ll3 Lo4 Lu Lt Ll Lu Lt Ll Lu Lt Ll Lu Ll Lu Ll Lu Ll Lu",
    "Ll Lu Ll Lu Ll Lu Ll Lu Ll2 Lu Ll Lu Ll Lu Ll Lu Ll Lu Ll Lu Ll Lu Ll Lu Ll Lu Ll2 Lu Lt Ll Lu Ll Lu3 Ll Lu Ll",
    "Lu Ll Lu Ll Lu Ll Lu Ll Lu Ll Lu Ll Lu Ll Lu Ll Lu Ll Lu Ll Lu Ll Lu Ll Lu Ll Lu Ll Lu Ll Lu Ll Lu Ll Lu Ll Lu",
    "Ll Lu Ll Lu Ll Lu Ll Lu Ll Lu Ll Lu Ll Lu Ll Lu Ll Lu Ll7 Lu2 Ll Lu2 Ll2 Lu Ll Lu4 Ll Lu Ll Lu Ll Lu Ll Lu",
    "Ll45 Lo Ll1b Lm12 Sk4 Lmc Ske Lm5 Sk7 Lm Sk Lm Sk11 Mn70 Lu Ll Lu Ll Lm Sk Lu Ll Cn2 Lm Ll3 Po Lu Cn4 Sk2 Lu",
    "Po Lu3 Cn Lu Cn Lu2 Ll Lu11 Cn Lu9 Ll23 Lu Ll2 Lu3 Ll3 Lu Ll Lu Ll Lu Ll Lu Ll Lu Ll Lu Ll Lu Ll Lu Ll Lu Ll",
    "Lu Ll Lu Ll Lu Ll5 Lu Ll Sm Lu Ll Lu2 Ll2 Lu33 Ll30 Lu Ll Lu Ll Lu Ll Lu Ll Lu Ll Lu Ll Lu Ll Lu Ll Lu Ll Lu",
    "Ll Lu Ll Lu Ll Lu Ll Lu Ll Lu Ll Lu Ll Lu Ll So Mn5 Me2 Lu Ll Lu Ll Lu Ll Lu Ll Lu Ll Lu Ll Lu Ll Lu Ll Lu Ll",
    "Lu Ll Lu Ll Lu Ll Lu Ll Lu Ll Lu Ll Lu Ll Lu Ll Lu Ll Lu Ll Lu Ll Lu Ll Lu Ll Lu Ll Lu Ll Lu Ll Lu Ll Lu Ll",
    "Lu2 Ll Lu Ll Lu Ll Lu Ll Lu Ll Lu Ll Lu Ll2 Lu Ll Lu Ll Lu Ll Lu Ll Lu Ll Lu Ll Lu Ll Lu Ll Lu Ll Lu Ll Lu Ll",
    "Lu Ll Lu Ll Lu Ll Lu Ll Lu Ll Lu Ll Lu Ll Lu Ll Lu Ll Lu Ll Lu Ll Lu Ll Lu Ll Lu Ll Lu Ll Lu Ll Lu Ll Lu Ll Lu",
    "Ll Lu Ll Lu Ll Lu Ll Lu Ll Lu Ll Lu Ll Lu Ll Lu Ll Lu Ll Lu Ll Lu Ll Lu Ll Lu Ll Lu Ll Lu Ll Lu Ll Lu Ll Lu Ll",
    "Cn Lu26 Cn2 Lm Po6 Ll29 Po Pd Cn2 So2 Sc Cn Mn2d Pd Mn Po Mn2 Po Mn2 Po Mn Cn8 Lo1b Cn4 Lo4 Po2 Cnb Cf6 Sm3",
    "Po2 Sc Po2 So2 Mnb Po Cf Po3 Lo20 Lm Loa Mn15 Nda Po4 Lo2 Mn Lo63 Po Lo Mn7 Cf So Mn6 Lm2 Mn2 So Mn4 Lo2 Nda",
    "Lo3 So2 Lo Poe Cn Cf Lo Mn Lo1e Mn1b Cn2 Lo59 Mnb Lo Cne Nda Lo21 Mn9 Lm2 So Po3 Lm Cn2 Mn Sc2 Lo16 Mn4 Lm Mn9",
    "Lm Mn3 Lm Mn5 Cn2 Pof Cn Lo19 Mn3 Cn2 Po Cn Lob Cn5 Lo18 Sk Lo6 Cn Cf2 Cn6 Mn8 Lo29 Lm Mn18 Cf Mn20 Mc Lo36 Mn",
    "Mc Mn Lo Mc3 Mn8 Mc4 Mn Mc2 Lo Mn7 Loa Mn2 Po2 Nda Po Lm Lof Mn Mc2 Cn Lo8 Cn2 Lo2 Cn2 Lo16 Cn Lo7 Cn Lo Cn3",
    "Lo4 Cn2 Mn Lo Mc3 Mn4 Cn2 Mc2 Cn2 Mc2 Mn Lo Cn8 Mc Cn4 Lo2 Cn Lo3 Mn2 Cn2 Nda Lo2 Sc2 No6 So Sc Lo Po Mn Cn2",
    "Mn2 Mc Cn Lo6 Cn4 Lo2 Cn2 Lo16 Cn Lo7 Cn Lo2 Cn Lo2 Cn Lo2 Cn2 Mn Cn Mc3 Mn2 Cn4 Mn2 Cn2 Mn3 Cn3 Mn Cn7 Lo4 Cn",
    "Lo Cn7 Nda Mn2 Lo3 Mn Po Cna Mn2 Mc Cn Lo9 Cn Lo3 Cn Lo16 Cn Lo7 Cn Lo2 Cn Lo5 Cn2 Mn Lo Mc3 Mn5 Cn Mn2 Mc Cn",
    "Mc2 Mn Cn2 Lo Cnf Lo2 Mn2 Cn2 Nda Po Sc Cn7 Lo Mn6 Cn Mn Mc2 Cn Lo8 Cn2 Lo2 Cn2 Lo16 Cn Lo7 Cn Lo2 Cn Lo5 Cn2",
    "Mn Lo Mc Mn Mc Mn4 Cn2 Mc2 Cn2 Mc2 Mn Cn7 Mn2 Mc Cn4 Lo2 Cn Lo3 Mn2 Cn2 Nda So Lo No6 Cna Mn Lo Cn Lo6 Cn3 Lo3",
    "Cn Lo4 Cn3 Lo2 Cn Lo Cn Lo2 Cn3 Lo2 Cn3 Lo3 Cn3 Loc Cn4 Mc2 Mn Mc2 Cn3 Mc3 Cn Mc3 Mn Cn2 Lo Cn6 Mc Cne Nda No3",
    "So6 Sc So Cn5 Mn Mc3 Mn Lo8 Cn Lo3 Cn Lo17 Cn Lo10 Cn2 Mn Lo Mn3 Mc4 Cn Mn3 Cn Mn4 Cn7 Mn2 Cn Lo3 Cn2 Lo Cn2",
    "Lo2 Mn2 Cn2 Nda Cn7 Po No7 So Lo Mn Mc2 Po Lo8 Cn Lo3 Cn Lo17 Cn Loa Cn Lo5 Cn2 Mn Lo Mc Mn Mc5 Cn Mn Mc2 Cn",
    "Mc2 Mn2 Cn7 Mc2 Cn6 Lo2 Cn Lo2 Mn2 Cn2 Nda Cn Lo2 Mc Cnc Mn2 Mc2 Lo9 Cn Lo3 Cn Lo29 Mn2 Lo Mc3 Mn4 Cn Mc3 Cn",
    "Mc3 Mn Lo So Cn4 Lo3 Mc No7 Lo3 Mn2 Cn2 Nda No9 So Lo6 Cn Mn Mc2 Cn Lo12 Cn3 Lo18 Cn Lo9 Cn Lo Cn2 Lo7 Cn3 Mn",
    "Cn4 Mc3 Mn3 Cn Mn Cn Mc8 Cn6 Nda Cn2 Mc2 Po Cnc Lo30 Mn Lo2 Mn7 Cn4 Sc Lo6 Lm Mn8 Po Nda Po2 Cn25 Lo2 Cn Lo Cn",
    "Lo5 Cn Lo18 Cn Lo Cn Loa Mn Lo2 Mn9 Lo Cn2 Lo5 Cn Lm Cn Mn7 Cn Nda Cn2 Lo4 Cn20 Lo So3 Pof So Po So3 Mn2 So6",
    "Nda Noa So Mn So Mn So Mn Ps Pe Ps Pe Mc2 Lo8 Cn Lo24 Cn4 Mne Mc Mn5 Po Mn2 Lo5 Mnb Cn Mn24 Cn So8 Mn So6 Cn",
    "So2 Po5 So4 Po2 Cn25 Lo2b Mc2 Mn4 Mc Mn6 Mc Mn2 Mc2 Mn2 Lo Nda Po6 Lo6 Mc2 Mn2 Lo4 Mn3 Lo Mc3 Lo2 Mc7 Lo3 Mn4",
    "Lod Mn Mc2 Mn2 Mc6 Mn Lo Mc Nda Mc3 Mn So2 Lu26 Cn Lu Cn5 Lu Cn2 Ll2b Po Lm Ll3 Lo149 Cn Lo4 Cn2 Lo7 Cn Lo Cn",
    "Lo4 Cn2 Lo29 Cn Lo4 Cn2 Lo21 Cn Lo4 Cn2 Lo7 Cn Lo Cn Lo4 Cn2 Lof Cn Lo39 Cn Lo4 Cn2 Lo43 Cn2 Mn3 Po9 No14 Cn3",
    "Lo10 Soa Cn6 Lu56 Cn2 Ll6 Cn2 Pd Lo26c So Po Lo11 Zs Lo1a Ps Pe Cn3 Lo4b Po3 Nl3 Lo8 Cn7 Lo12 Mn3 Mc Cn9 Lo13",
    "Mn2 Mc Po2 Cn9 Lo12 Mn2 Cnc Lod Cn Lo3 Cn Mn2 Cnc Lo34 Mn2 Mc Mn7 Mc8 Mn Mc2 Mnb Po3 Lm Po3 Sc Lo Mn Cn2 Nda",
    "Cn6 Noa Cn6 Po6 Pd Po4 Mn3 Cf Mn Nda Cn6 Lo23 Lm Lo35 Cn7 Lo5 Mn2 Lo22 Mn Lo Cn5 Lo46 Cna Lo1f Cn Mn3 Mc4 Mn2",
    "Mc3 Cn4 Mc2 Mn Mc6 Mn3 Cn4 So Cn3 Po2 Nda Lo1e Cn2 Lo5 Cnb Lo2c Cn4 Lo1a Cn6 Nda No Cn3 So22 Lo17 Mn2 Mc2 Mn",
    "Cn2 Po2 Lo35 Mc Mn Mc Mn7 Cn Mn Mc Mn Mc2 Mn8 Mc6 Mna Cn2 Mn Nda Cn6 Nda Cn6 Po7 Lm Po6 Cn2 Mne Me Mn10 Cn31",
    "Mn4 Mc Lo2f Mn Mc Mn5 Mc Mn Mc5 Mn Mc2 Lo8 Cn3 Nda Po7 Soa Mn9 So9 Po2 Cn Mn2 Mc Lo1e Mc Mn4 Mc2 Mn2 Mc Mn3",
    "Lo2 Nda Lo2c Mn Mc Mn2 Mc3 Mn Mc Mn3 Mc2 Cn8 Po4 Lo24 Mc8 Mn8 Mc2 Mn2 Cn3 Po5 Nda Cn3 Lo3 Nda Lo1e Lm6 Po2 Ll9",
    "Cn7 Lu2b Cn2 Lu3 Po8 Cn8 Mn3 Po Mnd Mc Mn7 Lo4 Mn Lo6 Mn Lo2 Mc Mn2 Lo Cn5 Ll2c Lm3f Lld Lm Ll22 Lm25 Mn40 Lu",
    "Ll Lu Ll Lu Ll Lu Ll Lu Ll Lu Ll Lu Ll Lu Ll Lu Ll Lu Ll Lu Ll Lu Ll Lu Ll Lu Ll Lu Ll Lu Ll Lu Ll Lu Ll Lu Ll",
    "Lu Ll Lu Ll Lu Ll Lu Ll Lu Ll Lu Ll Lu Ll Lu Ll Lu Ll Lu Ll Lu Ll Lu Ll Lu Ll Lu Ll Lu Ll Lu Ll Lu Ll Lu Ll Lu",
    "Ll Lu Ll Lu Ll Lu Ll Lu Ll Lu Ll Lu Ll Lu Ll Lu Ll Lu Ll Lu Ll Lu Ll Lu Ll Lu Ll Lu Ll Lu Ll Lu Ll Lu Ll Lu Ll",
    "Lu Ll Lu Ll Lu Ll Lu Ll Lu Ll Lu Ll Lu Ll Lu Ll Lu Ll Lu Ll Lu Ll Lu Ll Lu Ll Lu Ll Lu Ll Lu Ll Lu Ll Lu Ll Lu",
    "Ll9 Lu Ll Lu Ll Lu Ll Lu Ll Lu Ll Lu Ll Lu Ll Lu Ll Lu Ll Lu Ll Lu Ll Lu Ll Lu Ll Lu Ll Lu Ll Lu Ll Lu Ll Lu",
    "Ll Lu Ll Lu Ll Lu Ll Lu Ll Lu Ll Lu Ll Lu Ll Lu Ll Lu Ll Lu Ll Lu Ll Lu Ll Lu Ll Lu Ll Lu Ll Lu Ll Lu Ll Lu Ll",
    "Lu Ll Lu Ll Lu Ll Lu Ll Lu Ll Lu Ll Lu Ll Lu Ll Lu Ll Lu Ll Lu Ll Lu Ll Lu Ll9 Lu8 Ll6 Cn2 Lu6 Cn2 Ll8 Lu8 Ll8",
    "Lu8 Ll6 Cn2 Lu6 Cn2 Ll8 Cn Lu Cn Lu Cn Lu Cn Lu Ll8 Lu8 Lle Cn2 Ll8 Lt8 Ll8 Lt8 Ll8 Lt8 Ll5 Cn Ll2 Lu4 Lt Sk",
    "Ll Sk3 Ll3 Cn Ll2 Lu4 Lt Sk3 Ll4 Cn2 Ll2 Lu4 Cn Sk3 Ll8 Lu5 Sk3 Cn2 Ll3 Cn Ll2 Lu4 Lt Sk2 Cn Zsb Cf5 Pd6 Po2",
    "Pi Pf Ps Pi2 Pf Ps Pi Po8 Zl Zp Cf5 Zs Po9 Pi Pf Po4 Pc2 Po3 Sm Ps Pe Pob Sm Po Pc Poa Zs Cf5 Cn Cfa No Lm Cn2",
    "No6 Sm3 Ps Pe Lm Noa Sm3 Ps Pe Cn Lmd Cn3 Sc21 Cnf Mnd Me4 Mn Me3 Mnc Cnf So2 Lu So4 Lu So2 Ll Lu3 Ll2 Lu3 Ll",
    "So Lu So2 Sm Lu5 So6 Lu So Lu So Lu So Lu4 So Ll Lu4 Ll Lo4 Ll So2 Ll2 Lu2 Sm5 Lu Ll4 So Sm So2 Ll So No10",
    "Nl23 Lu Ll Nl4 No So2 Cn4 Sm5 So5 Sm2 So4 Sm So2 Sm So2 Sm So7 Sm So1f Sm2 So2 Sm So Sm So1f Sm10c So8 Ps Pe",
    "Ps Pe So14 Sm2 So7 Ps Pe So51 Sm So1e Sm19 So28 Sm6 So45 Cn19 Sob Cn15 No3c So4e No16 Sob7 Sm So9 Sm So36 Sm8",
    "So6f Sm Sof8 Ps Pe Ps Pe Ps Pe Ps Pe Ps Pe Ps Pe Ps Pe No1e So2c Sm5 Ps Pe Sm1f Ps Pe Ps Pe Ps Pe Ps Pe Ps Pe",
    "Sm10 So100 Sm83 Ps Pe Ps Pe Ps Pe Ps Pe Ps Pe Ps Pe Ps Pe Ps Pe Ps Pe Ps Pe Ps Pe Sm3f Ps Pe Ps Pe Sm20 Ps Pe",
    "Sm102 So30 Sm15 So2 Sm6 So27 Cn2 So20 Cn So69 Lu30 Ll30 Lu Ll Lu3 Ll2 Lu Ll Lu Ll Lu Ll Lu4 Ll Lu Ll2 Lu Ll6",
    "Lm2 Lu3 Ll Lu Ll Lu Ll Lu Ll Lu Ll Lu Ll Lu Ll Lu Ll Lu Ll Lu Ll Lu Ll Lu Ll Lu Ll Lu Ll Lu Ll Lu Ll Lu Ll Lu",
    "Ll Lu Ll Lu Ll Lu Ll Lu Ll Lu Ll Lu Ll Lu Ll Lu Ll Lu Ll Lu Ll Lu Ll Lu Ll Lu Ll Lu Ll Lu Ll Lu Ll Lu Ll Lu Ll",
    "Lu Ll Lu Ll Lu Ll Lu Ll Lu Ll Lu Ll Lu Ll Lu Ll Lu Ll Lu Ll Lu Ll Lu Ll Lu Ll Lu Ll2 So6 Lu Ll Lu Ll Mn3 Lu Ll",
    "Cn5 Po4 No Po2 Ll26 Cn Ll Cn5 Ll Cn2 Lo38 Cn7 Lm Po Cne Mn Lo17 Cn9 Lo7 Cn Lo7 Cn Lo7 Cn Lo7 Cn Lo7 Cn Lo7 Cn",
    "Lo7 Cn Lo7 Cn Mn20 Po2 Pi Pf Pi Pf Po3 Pi Pf Po Pi Pf Po9 Pd Po2 Pd Po Pi Pf Po2 Pi Pf Ps Pe Ps Pe Ps Pe Ps Pe",
    "Po5 Lm Poa Pd2 Po4 Pd Po Ps Pod So2 Po3 Ps Pe Ps Pe Ps Pe Ps Pe Pd Cn22 So1a Cn So59 Cnc Sod6 Cn1a Soc Cn4 Zs",
    "Po3 So Lm Lo Nl Ps Pe Ps Pe Ps Pe Ps Pe Ps Pe So2 Ps Pe Ps Pe Ps Pe Ps Pe Pd Ps Pe2 So Nl9 Mn4 Mc2 Pd Lm5 So2",
    "Nl3 Lm Lo Po So2 Cn Lo56 Cn2 Mn2 Sk2 Lm2 Lo Pd Lo5a Po Lm3 Lo Cn5 Lo2b Cn Lo5e Cn So2 No4 Soa Lo20 So24 Cnc",
    "Lo10 So1f Cn Noa So1e No8 So Nof So20 Noa So27 Nof So140 Lo19c0 So40 Lo5215 Lm Lo477 Cn3 So37 Cn9 Lo28 Lm6 Po2",
    "Lo10c Lm Po3 Lo10 Nda Lo2 Cn14 Lu Ll Lu Ll Lu Ll Lu Ll Lu Ll Lu Ll Lu Ll Lu Ll Lu Ll Lu Ll Lu Ll Lu Ll Lu Ll",
    "Lu Ll Lu Ll Lu Ll Lu Ll Lu Ll Lu Ll Lu Ll Lu Ll Lu Ll Lu Ll Lo Mn Me3 Po Mna Po Lm Lu Ll Lu Ll Lu Ll Lu Ll Lu",
    "Ll Lu Ll Lu Ll Lu Ll Lu Ll Lu Ll Lu Ll Lu Ll Lu Ll Lu Ll Lm2 Mn2 Lo46 Nla Mn2 Po6 Cn8 Sk17 Lm9 Sk2 Lu Ll Lu Ll",
    "Lu Ll Lu Ll Lu Ll Lu Ll Lu Ll3 Lu Ll Lu Ll Lu Ll Lu Ll Lu Ll Lu Ll Lu Ll Lu Ll Lu Ll Lu Ll Lu Ll Lu Ll Lu Ll",
    "Lu Ll Lu Ll Lu Ll Lu Ll Lu Ll Lu Ll Lu Ll Lu Ll Lu Ll Lu Ll Lu Ll Lu Ll Lu Ll Lu Ll Lu Ll Lu Ll Lu Ll Lu Ll Lm",
    "Ll8 Lu Ll Lu Ll Lu2 Ll Lu Ll Lu Ll Lu Ll Lu Ll Lm Sk2 Lu Ll Lu Ll Lo Lu Ll Lu Ll3 Lu Ll Lu Ll Lu Ll Lu Ll Lu",
    "Ll Lu Ll Lu Ll Lu Ll Lu Ll Lu Ll Lu5 Ll Lu5 Ll Lu Ll Lu Ll Lu Ll Lu Ll Lu Ll Lu Ll Lu Ll Lu4 Ll Lu Ll Cn5 Lu",
    "Ll Cn Ll Cn Ll Lu Ll Lu Ll Cn18 Lm3 Lu Ll Lo Lm2 Ll Lo7 Mn Lo3 Mn Lo4 Mn Lo17 Mc2 Mn2 Mc So4 Mn Cn3 No6 So2 Sc",
    "So Cn6 Lo34 Po4 Cn8 Mc2 Lo32 Mc10 Mn2 Cn8 Po2 Nda Cn6 Mn12 Lo6 Po3 Lo Po Lo2 Mn Nda Lo1c Mn8 Po2 Lo17 Mnb Mc2",
    "Cnb Po Lo1d Cn3 Mn3 Mc Lo2f Mn Mc2 Mn4 Mc2 Mn2 Mc3 Pod Cn Lm Nda Cn4 Po2 Lo5 Mn Lm Lo9 Nda Lo5 Cn Lo29 Mn6 Mc2",
    "Mn2 Mc2 Mn2 Cn9 Lo3 Mn Lo8 Mn Mc Cn2 Nda Cn2 Po4 Lo10 Lm Lo6 So3 Lo Mc Mn Mc Lo32 Mn Lo Mn3 Lo2 Mn2 Lo5 Mn2 Lo",
    "Mn Lo Cn18 Lo2 Lm Po2 Lob Mc Mn2 Mc2 Po2 Lo Lm2 Mc Mn Cna Lo6 Cn2 Lo6 Cn2 Lo6 Cn9 Lo7 Cn Lo7 Cn Ll2b Sk Lm4",
    "Ll9 Lm Sk2 Cn4 Ll50 Lo23 Mc2 Mn Mc2 Mn Mc2 Po Mc Mn Cn2 Nda Cn6 Lo2ba4 Cnc Lo17 Cn4 Lo31 Cn4 Cs800 Co1900",
    "Lo16e Cn2 Lo6a Cn26 Ll7 Cnc Ll5 Cn5 Lo Mn Loa Sm Lod Cn Lo5 Cn Lo Cn Lo2 Cn Lo2 Cn Lo6c Sk11 Cn10 Lo16b Pe Ps",
    "So10 Lo40 Cn2 Lo36 Cn7 So Cn20 Loc Sc So3 Mn10 Po7 Ps Pe Po Cn6 Mn10 Po Pd2 Pc2 Ps Pe Ps Pe Ps Pe Ps Pe Ps Pe",
    "Ps Pe Ps Pe Ps Pe Po2 Ps Pe Po4 Pc3 Po3 Cn Po4 Pd Ps Pe Ps Pe Ps Pe Po3 Sm Pd Sm3 Cn Po Sc Po2 Cn4 Lo5 Cn Lo87",
    "Cn2 Cf Cn Po3 Sc Po3 Ps Pe Po Sm Po Pd Po2 Nda Po2 Sm3 Po2 Lu1a Ps Po Pe Sk Pc Sk Ll1a Ps Sm Pe Sm Ps Pe Po Ps",
    "Pe Po2 Loa Lm Lo2d Lm2 Lo1f Cn3 Lo6 Cn2 Lo6 Cn2 Lo6 Cn2 Lo3 Cn3 Sc2 Sm Sk So Sc2 Cn So Sm4 So2 Cna Cf3 So2 Cn2",
    "Loc Cn Lo1a Cn Lo13 Cn Lo2 Cn Lof Cn2 Loe Cn22 Lo7b Cn5 Po3 Cn4 No2d Cn3 So9 Nl35 No4 So11 No2 So3 Cn Sod Cn3",
    "So Cn2f So2d Mn Cn82 Lo1d Cn3 Lo31 Cnf Mn No1b Cn4 Lo20 No4 Cn9 Lo14 Nl Lo8 Nl Cn5 Lo26 Mn5 Cn5 Lo1e Cn Po",
    "Lo24 Cn4 Lo8 Po Nl5 Cn2a Lu28 Ll28 Lo4e Cn2 Nda Cn6 Lu24 Cn4 Ll24 Cn4 Lo28 Cn8 Lo34 Cnb Po Lub Cn Luf Cn Lu7",
    "Cn Lu2 Cn Llb Cn Llf Cn Ll7 Cn Ll2 Cn43 Lo137 Cn9 Lo16 Cna Lo8 Cn18 Lm6 Cn Lm2a Cn Lm9 Cn45 Lo6 Cn2 Lo Cn Lo2c",
    "Cn Lo2 Cn3 Lo Cn2 Lo17 Cn Po No8 Lo17 So2 No7 Lo1f Cn8 No9 Cn30 Lo13 Cn Lo2 Cn5 No5 Lo16 No6 Cn3 Po Lo1a Cn5",
    "Po Cn40 Lo38 Cn4 No2 Lo2 No10 Cn2 No2e Lo Mn3 Cn Mn2 Cn5 Mn4 Lo4 Cn Lo3 Cn Lo1d Cn2 Mn3 Cn4 Mn No9 Cn7 Po9 Cn7",
    "Lo1d No2 Po Lo1d No3 Cn20 Lo8 So Lo1c Mn2 Cn4 No5 Po7 Cn9 Lo36 Cn3 Po7 Lo16 Cn2 No8 Lo13 Cn5 No8 Lo12 Cn7 Po4",
    "Cnc No7 Cn50 Lo49 Cn37 Lu33 Cnd Ll33 Cn7 No6 Lo24 Mn4 Cn8 Nda Cn126 No1f Cn Lo2a Cn Mn2 Pd Cn2 Lo2 Cn4b Mn3",
    "Lo1d Noa Lo Cn8 Lo16 Mnb No4 Po5 Cn16 Lo12 Mn4 Po4 Cn26 Lo15 No7 Cn14 Lo17 Cn9 Mc Mn Mc Lo35 Mnf Po7 Cn4 No14",
    "Nda Mn Lo2 Mn2 Lo Cn9 Mn3 Mc Lo2d Mc3 Mn4 Mc2 Mn2 Po2 Cf Po4 Mn Cna Cf Cn2 Lo19 Cn7 Nda Cn6 Mn3 Lo24 Mn5 Mc",
    "Mn8 Cn Nda Po4 Lo Mc2 Lo Cn8 Lo23 Mn Po2 Lo Cn9 Mn2 Mc Lo30 Mc3 Mn9 Mc2 Lo4 Po4 Mn4 Po Mc Mn Nda Lo Po Lo Po3",
    "Cn No14 Cnb Lo12 Cn Lo19 Mc3 Mn3 Mc2 Mn Mc Mn2 Po6 Mn Lo2 Mn Cn3e Lo7 Cn Lo Cn Lo4 Cn Lof Cn Loa Po Cn6 Lo2f",
    "Mn Mc3 Mn8 Cn5 Nda Cn6 Mn2 Mc2 Cn Lo8 Cn2 Lo2 Cn2 Lo16 Cn Lo7 Cn Lo2 Cn Lo5 Cn Mn2 Lo Mc2 Mn Mc4 Cn2 Mc2 Cn2",
    "Mc3 Cn2 Lo Cn6 Mc Cn5 Lo5 Mc2 Cn2 Mn7 Cn3 Mn5 Cn8b Lo35 Mc3 Mn8 Mc2 Mn3 Mc Mn Lo4 Po5 Nda Po2 Cn Po Mn Lo3",
    "Cn1e Lo30 Mc3 Mn6 Mc Mn Mc4 Mn2 Mc Mn2 Lo2 Po Lo Cn8 Nda Cna6 Lo2f Mc3 Mn4 Cn2 Mc4 Mn2 Mc Mn2 Po17 Lo4 Mn2",
    "Cn22 Lo30 Mc3 Mn8 Mc2 Mn Mc Mn2 Po3 Lo Cnb Nda Cn6 Pod Cn13 Lo2b Mn Mc Mn Mc2 Mn6 Mc Mn Lo Po Cn6 Nda Cn36",
    "Lo1b Cn2 Mn3 Mc2 Mn4 Mc Mn5 Cn4 Nda No2 Po3 So Lo7 Cnb9 Lo2c Mc3 Mn9 Mc Mn2 Po Cn64 Lu20 Ll20 Nda No9 Cnc Lo8",
    "Cn2 Lo Cn2 Lo8 Cn Lo2 Cn Lo18 Mc6 Cn Mc2 Cn2 Mn2 Mc Mn Lo Mc Lo Mc Mn Po3 Cn9 Nda Cn46 Lo8 Cn2 Lo27 Mc3 Mn4",
    "Cn2 Mn2 Mc4 Mn Lo Po Lo Mc Cn1b Lo Mna Lo28 Mn6 Mc Lo Mn4 Po8 Mn Cn8 Lo Mn6 Mc2 Mn3 Lo2e Mnd Mc Mn2 Po3 Lo Po5",
    "Cnd Lo49 Cn7 Poa Cnf6 Lo9 Cn Lo25 Mc Mn7 Cn Mn6 Mc Mn Lo Po5 Cna Nda No13 Cn3 Po2 Lo1e Cn2 Mn16 Cn Mc Mn7 Mc",
    "Mn2 Mc Mn2 Cn49 Lo7 Cn Lo2 Cn Lo26 Mn6 Cn3 Mn Cn Mn2 Cn Mn7 Lo Mn Cn8 Nda Cn6 Lo6 Cn Lo2 Cn Lo20 Mc5 Cn Mn2 Cn",
    "Mc2 Mn Mc Mn Lo Cn7 Nda Cn136 Lo13 Mn2 Mc2 Po2 Cn7 Mn2 Lo Mc Lod Cn Lo22 Mc2 Mn5 Cn3 Mc2 Mn Mc Mn Pod Nda Cn56",
    "Lo Cnf No15 So8 Sc4 So11 Cnd Po Lo39a Cn66 Nl6f Cn Po5 Cnb Loc4 Cna4c Lo61 Po2 Cnd Lo430 Cf10 Mn Lo6 Mnf Cnfaa",
    "Lo247 Cn21b9 Lo239 Cn7 Lo1f Cn Nda Cn4 Po2 Lo4f Cn Nda Cn6 Lo1e Cn2 Mn5 Po Cna Lo30 Mn7 Po5 So4 Lm4 Po So Cna",
    "Nda Cn No7 Cn Lo15 Cn5 Lo13 Cn2b0 Lu20 Ll20 No17 Po4 Cn65 Lo4b Cn4 Mn Lo Mc37 Cn7 Mn4 Lmd Cn40 Lm2 Po Lm Mn",
    "Cnb Mc2 Cne Lo17f8 Cn8 Lo4d6 Cn2a Lo9 Cn22e7 Lm4 Cn Lm7 Cn Lm2 Cn Lo123 Cnf Lo Cn1d Lo3 Cn2 Lo Cne Lo4 Cn8",
    "Lo18c Cn904 Lo6b Cn5 Lod Cn3 Lo9 Cn7 Loa Cn2 So Mn2 Po Cf4 Cn125c Mn2e Cn2 Mn17 Cn9 So74 Cn3c Sof6 Cna So27",
    "Cn2 So3c Mc2 Mn3 So3 Mc6 Cf8 Mn8 So2 Mn7 So1e Mn4 So3d Cn15 So42 Mn3 So Cn7a No14 Cnc No14 Cnc So57 Cn9 No19",
    "Cn87 Lu1a Ll1a Lu1a Ll7 Cn Ll12 Lu1a Ll1a Lu Cn Lu2 Cn2 Lu Cn2 Lu2 Cn2 Lu4 Cn Lu8 Ll4 Cn Ll Cn Ll7 Cn Llb Lu1a",
    "Ll1a Lu2 Cn Lu4 Cn2 Lu8 Cn Lu7 Cn Ll1a Lu2 Cn Lu4 Cn Lu5 Cn Lu Cn3 Lu7 Cn Ll1a Lu1a Ll1a Lu1a Ll1a Lu1a Ll1a",
    "Lu1a Ll1a Lu1a Ll1a Lu1a Ll1c Cn2 Lu19 Sm Ll19 Sm Ll6 Lu19 Sm Ll19 Sm Ll6 Lu19 Sm Ll19 Sm Ll6 Lu19 Sm Ll19 Sm",
    "Ll6 Lu19 Sm Ll19 Sm Ll6 Lu Ll Cn2 Nd32 So200 Mn37 So4 Mn32 So8 Mn Soe Mn So2 Po5 Cnf Mn5 Cn Mnf Cn450 Lla Lo",
    "Ll14 Cn6 Ll6 Cnd5 Mn7 Cn Mn11 Cn2 Mn7 Cn Mn2 Cn Mn5 Cn5 Lm3e Cn21 Mn Cn70 Lo2d Cn3 Mn7 Lm7 Cn2 Nda Cn4 Lo So",
    "Cn140 Lo1e Mn Cn11 Lo2c Mn4 Nda Cn5 Sc Cn1d0 Lo1b Lm Mn4 Nda Cn2e6 Lo7 Cn Lo4 Cn Lo2 Cn Lof Cn Loc5 Cn2 No9",
    "Mn7 Cn29 Lu22 Ll22 Mn7 Lm Cn4 Nda Cn4 Po2 Cn311 No3b So No3 Sc No4 Cn4c No2d So Nof Cnc2 Lo4 Cn Lo1b Cn Lo2 Cn",
    "Lo Cn2 Lo Cn Loa Cn Lo4 Cn Lo Cn Lo Cn6 Lo Cn4 Lo Cn Lo Cn Lo Cn Lo3 Cn Lo2 Cn Lo Cn2 Lo Cn Lo Cn Lo Cn Lo Cn",
    "Lo Cn Lo2 Cn Lo Cn2 Lo4 Cn Lo7 Cn Lo4 Cn Lo4 Cn Lo Cn Loa Cn Lo11 Cn5 Lo3 Cn Lo5 Cn Lo11 Cn34 Sm2 Cn10e So2c",
    "Cn4 So64 Cnc Sof Cn2 Sof Cn Sof Cn So25 Cna Nod Soa1 Cn38 So1d Cnd So2c Cn4 So9 Cn7 So2 Cne So6 Cn9a Sofb Sk5",
    "So2d8 Cn4 So11 Cn3 Sod Cn3 So77 Cn4 So5f Cn6 Soc Cn4 So Cnf Soc Cn4 So38 Cn8 Soa Cn6 So28 Cn8 So1e Cn2 So2",
    "Cn4e So154 Cnc Soe Cn2 Sod Cn3 So9 Cn7 So2e Cn So7 Cn8 Soe Cn4 So9 Cn7 So9 Cn7 So93 Cn So37 Cn25 Nda Cn406",
    "Loa6e0 Cn20 Lo103a Cn6 Lode Cn2 Lo1682 Cne Lo1d31 Cnc1f Lo21e Cn5e2 Lo134b Cn5 Lo1060 Cnadc51 Cf Cn1e Cf60",
    "Cn80 Mnf0 Cnfe10 Cofffe Cn2 Cofffe Cn2"]

def categoryRuns : List Run := runs 2 categoryTable

def category (c : Char) : String := (markAt? categoryRuns c.toNat).getD "Cn"

/-- Whether a character is of a category, or of any category in a group. -/
def isOfCategory (letters : String) (c : Char) : Bool := letters.toList.isPrefixOf (category c).toList

/-! ### Words -/

def isDecimalDigit (c : Char) : Bool := isOfCategory "Nd" c

/-- Whether a character is a letter in a circle or a square, which is a symbol by its category. -/
def isEnclosedLetter (c : Char) : Bool :=
  let n := c.toNat
  (0x24B6 ≤ n && n ≤ 0x24E9) || (0x1F130 ≤ n && n ≤ 0x1F149) || (0x1F150 ≤ n && n ≤ 0x1F169)
    || (0x1F170 ≤ n && n ≤ 0x1F189)

def isLetterLike (c : Char) : Bool := isOfCategory "L" c || isOfCategory "Nl" c || isEnclosedLetter c

/-- Whether a character joins those around it, or keeps them apart, without being visible. -/
def isJoiner (c : Char) : Bool := c.toNat = 0x200C || c.toNat = 0x200D

/-- Whether a character can be part of a word: a letter, a mark, a digit, a connector or a joiner. -/
def isWordChar (c : Char) : Bool :=
  isLetterLike c || isOfCategory "M" c || isDecimalDigit c || isOfCategory "Pc" c || isJoiner c

/-! ### Scripts

A script is known by a code of four letters. -/

def scriptTable : List String :=
  [
    "Zyyy41 Latn1a Zyyy6 Latn1a Zyyy2f Latn Zyyyf Latn Zyyy5 Latn17 Zyyy Latn1f Zyyy Latn1c1 Zyyy27 Latn5 Zyyy5",
    "Bopo2 Zyyy14 Zinh70 Grek4 Zyyy Grek3 Zzzz2 Grek4 Zyyy Grek Zzzz4 Grek Zyyy Grek Zyyy Grek3 Zzzz Grek Zzzz",
    "Grek14 Zzzz Grek3f Copte Grek10 Cyrl85 Zinh2 Cyrla9 Zzzz Armn26 Zzzz2 Armn32 Zzzz2 Armn3 Zzzz Hebr37 Zzzz8",
    "Hebr1b Zzzz4 Hebr6 Zzzzb Arab5 Zyyy Arab6 Zyyy Arabe Zyyy Arab3 Zyyy Arab20 Zyyy Araba Zinhb Arab1a Zinh",
    "Arab6c Zyyy Arab22 Syrce Zzzz Syrc3c Zzzz2 Syrc3 Arab30 Thaa32 Zzzze Nkoo3b Zzzz2 Nkoo3 Samr2e Zzzz2 Samrf",
    "Zzzz Mand1c Zzzz2 Mand Zzzz Syrcb Zzzz5 Arab1f Zzzz Arab2 Zzzz6 Arab4a Zyyy Arab1d Deva51 Zinh4 Devaf Zyyy2",
    "Deva1a Beng4 Zzzz Beng8 Zzzz2 Beng2 Zzzz2 Beng16 Zzzz Beng7 Zzzz Beng Zzzz3 Beng4 Zzzz2 Beng9 Zzzz2 Beng2",
    "Zzzz2 Beng4 Zzzz8 Beng Zzzz4 Beng2 Zzzz Beng5 Zzzz2 Beng19 Zzzz2 Guru3 Zzzz Guru6 Zzzz4 Guru2 Zzzz2 Guru16",
    "Zzzz Guru7 Zzzz Guru2 Zzzz Guru2 Zzzz Guru2 Zzzz2 Guru Zzzz Guru5 Zzzz4 Guru2 Zzzz2 Guru3 Zzzz3 Guru Zzzz7",
    "Guru4 Zzzz Guru Zzzz7 Guru11 Zzzza Gujr3 Zzzz Gujr9 Zzzz Gujr3 Zzzz Gujr16 Zzzz Gujr7 Zzzz Gujr2 Zzzz Gujr5",
    "Zzzz2 Gujra Zzzz Gujr3 Zzzz Gujr3 Zzzz2 Gujr Zzzzf Gujr4 Zzzz2 Gujrc Zzzz7 Gujr7 Zzzz Orya3 Zzzz Orya8 Zzzz2",
    "Orya2 Zzzz2 Orya16 Zzzz Orya7 Zzzz Orya2 Zzzz Orya5 Zzzz2 Orya9 Zzzz2 Orya2 Zzzz2 Orya3 Zzzz7 Orya3 Zzzz4",
    "Orya2 Zzzz Orya5 Zzzz2 Orya12 Zzzza Taml2 Zzzz Taml6 Zzzz3 Taml3 Zzzz Taml4 Zzzz3 Taml2 Zzzz Taml Zzzz Taml2",
    "Zzzz3 Taml2 Zzzz3 Taml3 Zzzz3 Tamlc Zzzz4 Taml5 Zzzz3 Taml3 Zzzz Taml4 Zzzz2 Taml Zzzz6 Taml Zzzze Taml15",
    "Zzzz5 Telud Zzzz Telu3 Zzzz Telu17 Zzzz Telu10 Zzzz2 Telu9 Zzzz Telu3 Zzzz Telu4 Zzzz7 Telu2 Zzzz Telu3 Zzzz2",
    "Telu Zzzz2 Telu4 Zzzz2 Telua Zzzz7 Telu9 Kndad Zzzz Knda3 Zzzz Knda17 Zzzz Kndaa Zzzz Knda5 Zzzz2 Knda9 Zzzz",
    "Knda3 Zzzz Knda4 Zzzz7 Knda2 Zzzz6 Knda2 Zzzz Knda4 Zzzz2 Kndaa Zzzz Knda3 Zzzzc Mlymd Zzzz Mlym3 Zzzz Mlym33",
    "Zzzz Mlym3 Zzzz Mlym6 Zzzz4 Mlym10 Zzzz2 Mlym1a Zzzz Sinh3 Zzzz Sinh12 Zzzz3 Sinh18 Zzzz Sinh9 Zzzz Sinh Zzzz2",
    "Sinh7 Zzzz3 Sinh Zzzz4 Sinh6 Zzzz Sinh Zzzz Sinh8 Zzzz6 Sinha Zzzz2 Sinh3 Zzzzc Thai3a Zzzz4 Zyyy Thai1c",
    "Zzzz25 Laoo2 Zzzz Laoo Zzzz Laoo5 Zzzz Laoo18 Zzzz Laoo Zzzz Laoo17 Zzzz2 Laoo5 Zzzz Laoo Zzzz Laoo7 Zzzz",
    "Laooa Zzzz2 Laoo4 Zzzz20 Tibt48 Zzzz Tibt24 Zzzz4 Tibt27 Zzzz Tibt24 Zzzz Tibtf Zzzz Tibt7 Zyyy4 Tibt2 Zzzz25",
    "Mymra0 Geor26 Zzzz Geor Zzzz5 Geor Zzzz2 Geor2b Zyyy Geor4 Hang100 Ethi49 Zzzz Ethi4 Zzzz2 Ethi7 Zzzz Ethi",
    "Zzzz Ethi4 Zzzz2 Ethi29 Zzzz Ethi4 Zzzz2 Ethi21 Zzzz Ethi4 Zzzz2 Ethi7 Zzzz Ethi Zzzz Ethi4 Zzzz2 Ethif Zzzz",
    "Ethi39 Zzzz Ethi4 Zzzz2 Ethi43 Zzzz2 Ethi20 Zzzz3 Ethi1a Zzzz6 Cher56 Zzzz2 Cher6 Zzzz2 Cans280 Ogam1d Zzzz3",
    "Runr4b Zyyy3 Runrb Zzzz7 Tglg16 Zzzz9 Tglg Hano15 Zyyy2 Zzzz9 Buhd14 Zzzzc Tagbd Zzzz Tagb3 Zzzz Tagb2 Zzzzc",
    "Khmr5e Zzzz2 Khmra Zzzz6 Khmra Zzzz6 Mong2 Zyyy2 Mong Zyyy Mong14 Zzzz6 Mong59 Zzzz7 Mong2b Zzzz5 Cans46 Zzzza",
    "Limb1f Zzzz Limbc Zzzz4 Limbc Zzzz4 Limb Zzzz3 Limbc Tale1e Zzzz2 Tale5 Zzzzb Talu2c Zzzz4 Talu1a Zzzz6 Talub",
    "Zzzz3 Talu2 Khmr20 Bugi1c Zzzz2 Bugi2 Lana3f Zzzz Lana1d Zzzz2 Lanab Zzzz6 Lanaa Zzzz6 Lanae Zzzz2 Zinh1f",
    "Zzzz31 Bali4d Zzzz3 Bali2f Zzzz Sund40 Batk34 Zzzz8 Batk4 Lepc38 Zzzz3 Lepcf Zzzz3 Lepc3 Olck30 Cyrl9 Zzzz7",
    "Geor2b Zzzz2 Geor3 Sund8 Zzzz8 Zinh3 Zyyy Zinhd Zyyy Zinh7 Zyyy4 Zinh Zyyy6 Zinh Zyyy3 Zinh2 Zyyy Zzzz5 Latn26",
    "Grek5 Cyrl Latn31 Grek5 Latn4 Grek5 Latnd Cyrl Latn46 Grek Zinh40 Latn100 Grek16 Zzzz2 Grek6 Zzzz2 Grek26",
    "Zzzz2 Grek6 Zzzz2 Grek8 Zzzz Grek Zzzz Grek Zzzz Grek Zzzz Grek1f Zzzz2 Grek35 Zzzz Grekf Zzzz Greke Zzzz2",
    "Grek6 Zzzz Grek13 Zzzz2 Grek3 Zzzz Grek9 Zzzz Zyyyc Zinh2 Zyyy57 Zzzz Zyyyb Latn Zzzz2 Zyyyb Latn Zyyyf Zzzz",
    "Latnd Zzzz3 Zyyy21 Zzzzf Zinh21 Zzzzf Zyyy26 Grek Zyyy3 Latn2 Zyyy6 Latn Zyyy1b Latn Zyyy11 Latn29 Zyyy3 Zzzz4",
    "Zyyy297 Zzzz19 Zyyyb Zzzz15 Zyyy3a0 Brai100 Zyyy274 Zzzz2 Zyyy20 Zzzz Zyyy69 Glag60 Latn20 Copt74 Zzzz5 Copt7",
    "Geor26 Zzzz Geor Zzzz5 Geor Zzzz2 Tfng38 Zzzz7 Tfng2 Zzzze Tfng Ethi17 Zzzz9 Ethi7 Zzzz Ethi7 Zzzz Ethi7 Zzzz",
    "Ethi7 Zzzz Ethi7 Zzzz Ethi7 Zzzz Ethi7 Zzzz Ethi7 Zzzz Cyrl20 Zyyy5e Zzzz22 Hani1a Zzzz Hani59 Zzzzc Hanid6",
    "Zzzz1a Zyyyc Zzzz4 Zyyy5 Hani Zyyy Hani Zyyy19 Hani9 Zinh4 Hang2 Zyyy8 Hani4 Zyyy4 Zzzz Hira56 Zzzz2 Zinh2",
    "Zyyy2 Hira3 Zyyy Kana5a Zyyy2 Kana3 Zzzz5 Bopo2b Zzzz Hang5e Zzzz Zyyy10 Bopo20 Zyyy24 Zzzzc Kana10 Hang1f",
    "Zzzz Zyyy40 Hang1f Zyyy51 Kana2f Zyyy Kana58 Zyyya8 Hani19c0 Zyyy40 Hani5200 Yiii48d Zzzz3 Yiii37 Zzzz9 Lisu30",
    "Vaii12c Zzzz14 Cyrl60 Bamu58 Zzzz8 Zyyy22 Latn66 Zyyy3 Latn40 Zzzz5 Latn2 Zzzz Latn Zzzz Latn5 Zzzz18 Latne",
    "Sylo2d Zzzz3 Zyyya Zzzz6 Phag38 Zzzz8 Saur46 Zzzz8 Saurc Zzzz6 Deva20 Kali2e Zyyy Kali Rjng24 Zzzzb Rjng",
    "Hang1d Zzzz3 Java4e Zzzz Zyyy Javaa Zzzz4 Java2 Mymr1f Zzzz Cham37 Zzzz9 Chame Zzzz2 Chama Zzzz2 Cham4 Mymr20",
    "Tavt43 Zzzz18 Tavt5 Mtei17 Zzzza Ethi6 Zzzz2 Ethi6 Zzzz2 Ethi6 Zzzz9 Ethi7 Zzzz Ethi7 Zzzz Latn2b Zyyy Latn9",
    "Grek Latn4 Zyyy2 Zzzz4 Cher50 Mtei2e Zzzz2 Mteia Zzzz6 Hang2ba4 Zzzzc Hang17 Zzzz4 Hang31 Zzzz2104 Hani16e",
    "Zzzz2 Hani6a Zzzz26 Latn7 Zzzzc Armn5 Zzzz5 Hebr1a Zzzz Hebr5 Zzzz Hebr Zzzz Hebr2 Zzzz Hebr2 Zzzz Hebra",
    "Arab73 Zzzz10 Arab16b Zyyy2 Arab50 Zzzz2 Arab36 Zzzz7 Arab Zzzz20 Arab10 Zinh10 Zyyya Zzzz6 Zinhe Cyrl2 Zyyy23",
    "Zzzz Zyyy13 Zzzz Zyyy4 Zzzz4 Arab5 Zzzz Arab87 Zzzz2 Zyyy Zzzz Zyyy20 Latn1a Zyyy6 Latn1a Zyyyb Kanaa Zyyy",
    "Kana2d Zyyy2 Hang1f Zzzz3 Hang6 Zzzz2 Hang6 Zzzz2 Hang6 Zzzz2 Hang3 Zzzz3 Zyyy7 Zzzz Zyyy7 Zzzza Zyyy5 Zzzz2",
    "Linbc Zzzz Linb1a Zzzz Linb13 Zzzz Linb2 Zzzz Linbf Zzzz2 Linbe Zzzz22 Linb7b Zzzz5 Zyyy3 Zzzz4 Zyyy2d Zzzz3",
    "Zyyy9 Grek4f Zzzz Zyyyd Zzzz3 Grek Zzzz2f Zyyy2d Zinh Zzzz82 Lyci1d Zzzz3 Cari31 Zzzzf Zinh Zyyy1b Zzzz4",
    "Ital24 Zzzz9 Ital3 Goth1b Zzzz5 Perm2b Zzzz5 Ugar1e Zzzz Ugar Xpeo24 Zzzz4 Xpeoe Zzzz2a Dsrt50 Shaw30 Osma1e",
    "Zzzz2 Osmaa Zzzz6 Osge24 Zzzz4 Osge24 Zzzz4 Elba28 Zzzz8 Aghb34 Zzzzb Aghb Vithb Zzzz Vithf Zzzz Vith7 Zzzz",
    "Vith2 Zzzz Vithb Zzzz Vithf Zzzz Vith7 Zzzz Vith2 Zzzz43 Lina137 Zzzz9 Lina16 Zzzza Lina8 Zzzz18 Latn6 Zzzz",
    "Latn2a Zzzz Latn9 Zzzz45 Cprt6 Zzzz2 Cprt Zzzz Cprt2c Zzzz Cprt2 Zzzz3 Cprt Zzzz2 Cprt Armi16 Zzzz Armi9",
    "Palm20 Nbat1f Zzzz8 Nbat9 Zzzz30 Hatr13 Zzzz Hatr2 Zzzz5 Hatr5 Phnx1c Zzzz3 Phnx Lydi1a Zzzz5 Lydi Zzzz40",
    "Mero20 Merc18 Zzzz4 Merc14 Zzzz2 Merc2e Khar4 Zzzz Khar2 Zzzz5 Khar8 Zzzz Khar3 Zzzz Khar1d Zzzz2 Khar3 Zzzz4",
    "Khara Zzzz7 Khar9 Zzzz7 Sarb20 Narb20 Zzzz20 Mani27 Zzzz4 Manic Zzzz9 Avst36 Zzzz3 Avst7 Prti16 Zzzz2 Prti8",
    "Phli13 Zzzz5 Phli8 Phlp12 Zzzz7 Phlp4 Zzzzc Phlp7 Zzzz50 Orkh49 Zzzz37 Hung33 Zzzzd Hung33 Zzzz7 Hung6 Rohg28",
    "Zzzz8 Rohga Zzzz126 Arab1f Zzzz Yezi2a Zzzz Yezi3 Zzzz2 Yezi2 Zzzz4b Arab3 Sogo28 Zzzz8 Sogd2a Zzzz16 Ougr1a",
    "Zzzz26 Chrs1c Zzzz14 Elym17 Zzzz9 Brah4e Zzzz4 Brah24 Zzzz9 Brah Kthi43 Zzzza Kthi Zzzz2 Sora19 Zzzz7 Soraa",
    "Zzzz6 Cakm35 Zzzz Cakm12 Zzzz8 Mahj27 Zzzz9 Shrd60 Zzzz Sinh14 Zzzzb Khoj12 Zzzz Khoj2f Zzzz3e Mult7 Zzzz Mult",
    "Zzzz Mult4 Zzzz Multf Zzzz Multb Zzzz6 Sind3b Zzzz5 Sinda Zzzz6 Gran4 Zzzz Gran8 Zzzz2 Gran2 Zzzz2 Gran16 Zzzz",
    "Gran7 Zzzz Gran2 Zzzz Gran5 Zzzz Zinh Gran9 Zzzz2 Gran2 Zzzz2 Gran3 Zzzz2 Gran Zzzz6 Gran Zzzz5 Gran7 Zzzz2",
    "Gran7 Zzzz3 Gran5 Zzzz8b Newa5c Zzzz Newa5 Zzzz1e Tirh48 Zzzz8 Tirha Zzzza6 Sidd36 Zzzz2 Sidd26 Zzzz22 Modi45",
    "Zzzzb Modia Zzzz6 Mongd Zzzz13 Takr3a Zzzz6 Takra Zzzz36 Ahom1b Zzzz2 Ahomf Zzzz4 Ahom17 Zzzzb9 Dogr3c Zzzz64",
    "Wara53 Zzzzc Wara Diak7 Zzzz2 Diak Zzzz2 Diak8 Zzzz Diak2 Zzzz Diak1e Zzzz Diak2 Zzzz2 Diakc Zzzz9 Diaka",
    "Zzzz46 Nand8 Zzzz2 Nand2e Zzzz2 Nandb Zzzz1b Zanb48 Zzzz8 Soyo53 Zzzzd Cans10 Pauc39 Zzzz7 Devaa Zzzzf6 Bhks9",
    "Zzzz Bhks2d Zzzz Bhkse Zzzza Bhks1d Zzzz3 Marc20 Zzzz2 Marc16 Zzzz Marce Zzzz49 Gonm7 Zzzz Gonm2 Zzzz Gonm2c",
    "Zzzz3 Gonm Zzzz Gonm2 Zzzz Gonm9 Zzzz8 Gonma Zzzz6 Gong6 Zzzz Gong2 Zzzz Gong25 Zzzz Gong2 Zzzz Gong6 Zzzz7",
    "Gonga Zzzz136 Maka19 Zzzz7 Kawi11 Zzzz Kawi29 Zzzz3 Kawi1c Zzzz56 Lisu Zzzzf Taml32 Zzzzd Taml Xsux39a Zzzz66",
    "Xsux6f Zzzz Xsux5 Zzzzb Xsuxc4 Zzzza4c Cpmn63 Zzzzd Egyp456 Zzzzfaa Hluw247 Zzzz21b9 Bamu239 Zzzz7 Mroo1f Zzzz",
    "Mrooa Zzzz4 Mroo2 Tnsa4f Zzzz Tnsaa Zzzz6 Bass1e Zzzz2 Bass6 Zzzza Hmng46 Zzzza Hmnga Zzzz Hmng7 Zzzz Hmng15",
    "Zzzz5 Hmng13 Zzzz2b0 Medf5b Zzzz65 Plrd4b Zzzz4 Plrd39 Zzzz7 Plrd11 Zzzz40 Tang Nshu Hani2 Kits Zzzzb Hani2",
    "Zzzze Tang17f8 Zzzz8 Tang300 Kits1d6 Zzzz2a Tang9 Zzzz22e7 Kana4 Zzzz Kana7 Zzzz Kana2 Zzzz Kana Hira11f Kana3",
    "Zzzzf Hira Zzzz1d Hira3 Zzzz2 Kana Zzzze Kana4 Zzzz8 Nshu18c Zzzz904 Dupl6b Zzzz5 Dupld Zzzz3 Dupl9 Zzzz7",
    "Dupla Zzzz2 Dupl4 Zyyy4 Zzzz125c Zinh2e Zzzz2 Zinh17 Zzzz9 Zyyy74 Zzzz3c Zyyyf6 Zzzza Zyyy27 Zzzz2 Zyyy3e",
    "Zinh3 Zyyy11 Zinh8 Zyyy2 Zinh7 Zyyy1e Zinh4 Zyyy3d Zzzz15 Grek46 Zzzz7a Zyyy14 Zzzzc Zyyy14 Zzzzc Zyyy57 Zzzz9",
    "Zyyy19 Zzzz87 Zyyy55 Zzzz Zyyy47 Zzzz Zyyy2 Zzzz2 Zyyy Zzzz2 Zyyy2 Zzzz2 Zyyy4 Zzzz Zyyyc Zzzz Zyyy Zzzz Zyyy7",
    "Zzzz Zyyy41 Zzzz Zyyy4 Zzzz2 Zyyy8 Zzzz Zyyy7 Zzzz Zyyy1c Zzzz Zyyy4 Zzzz Zyyy5 Zzzz Zyyy Zzzz3 Zyyy7 Zzzz",
    "Zyyy154 Zzzz2 Zyyy124 Zzzz2 Zyyy32 Sgnw28c Zzzzf Sgnw5 Zzzz Sgnwf Zzzz450 Latn1f Zzzz6 Latn6 Zzzzd5 Glag7 Zzzz",
    "Glag11 Zzzz2 Glag7 Zzzz Glag2 Zzzz Glag5 Zzzz5 Cyrl3e Zzzz21 Cyrl Zzzz70 Hmnp2d Zzzz3 Hmnpe Zzzz2 Hmnpa Zzzz4",
    "Hmnp2 Zzzz140 Toto1f Zzzz11 Wcho3a Zzzz5 Wcho Zzzz1d0 Nagm2a Zzzz2e6 Ethi7 Zzzz Ethi4 Zzzz Ethi2 Zzzz Ethif",
    "Zzzz Mendc5 Zzzz2 Mend10 Zzzz29 Adlm4c Zzzz4 Adlma Zzzz4 Adlm2 Zzzz311 Zyyy44 Zzzz4c Zyyy3d Zzzzc2 Arab4 Zzzz",
    "Arab1b Zzzz Arab2 Zzzz Arab Zzzz2 Arab Zzzz Araba Zzzz Arab4 Zzzz Arab Zzzz Arab Zzzz6 Arab Zzzz4 Arab Zzzz",
    "Arab Zzzz Arab Zzzz Arab3 Zzzz Arab2 Zzzz Arab Zzzz2 Arab Zzzz Arab Zzzz Arab Zzzz Arab Zzzz Arab Zzzz Arab2",
    "Zzzz Arab Zzzz2 Arab4 Zzzz Arab7 Zzzz Arab4 Zzzz Arab4 Zzzz Arab Zzzz Araba Zzzz Arab11 Zzzz5 Arab3 Zzzz Arab5",
    "Zzzz Arab11 Zzzz34 Arab2 Zzzz10e Zyyy2c Zzzz4 Zyyy64 Zzzzc Zyyyf Zzzz2 Zyyyf Zzzz Zyyyf Zzzz Zyyy25 Zzzza",
    "Zyyyae Zzzz38 Zyyy1a Hira Zyyy2 Zzzzd Zyyy2c Zzzz4 Zyyy9 Zzzz7 Zyyy2 Zzzze Zyyy6 Zzzz9a Zyyy3d8 Zzzz4 Zyyy11",
    "Zzzz3 Zyyyd Zzzz3 Zyyy77 Zzzz4 Zyyy5f Zzzz6 Zyyyc Zzzz4 Zyyy Zzzzf Zyyyc Zzzz4 Zyyy38 Zzzz8 Zyyya Zzzz6 Zyyy28",
    "Zzzz8 Zyyy1e Zzzz2 Zyyy2 Zzzz4e Zyyy154 Zzzzc Zyyye Zzzz2 Zyyyd Zzzz3 Zyyy9 Zzzz7 Zyyy2e Zzzz Zyyy7 Zzzz8",
    "Zyyye Zzzz4 Zyyy9 Zzzz7 Zyyy9 Zzzz7 Zyyy93 Zzzz Zyyy37 Zzzz25 Zyyya Zzzz406 Hania6e0 Zzzz20 Hani103a Zzzz6",
    "Hanide Zzzz2 Hani1682 Zzzze Hani1d31 Zzzzc1f Hani21e Zzzz5e2 Hani134b Zzzz5 Hani1060 Zzzzadc51 Zyyy Zzzz1e",
    "Zyyy60 Zzzz80 Zinhf0 Zzzz2fe10"]

def scriptRuns : List Run := runs 4 scriptTable

/-- The code of characters that belong to no script. -/
def noScript : String := "Zzzz"

def script (c : Char) : String := (markAt? scriptRuns c.toNat).getD noScript

def scripts : List (String × String) :=
  [
    ("Adlm", "Adlam"), ("Aghb", "Caucasian Albanian"), ("Ahom", "Ahom"), ("Arab", "Arabic"),
    ("Armi", "Imperial Aramaic"), ("Armn", "Armenian"), ("Avst", "Avestan"), ("Bali", "Balinese"), ("Bamu", "Bamum"),
    ("Bass", "Bassa Vah"), ("Batk", "Batak"), ("Beng", "Bengali"), ("Bhks", "Bhaiksuki"), ("Bopo", "Bopomofo"),
    ("Brah", "Brahmi"), ("Brai", "Braille"), ("Bugi", "Buginese"), ("Buhd", "Buhid"), ("Cakm", "Chakma"),
    ("Cans", "Canadian Aboriginal"), ("Cari", "Carian"), ("Cham", "Cham"), ("Cher", "Cherokee"),
    ("Chrs", "Chorasmian"), ("Copt", "Coptic"), ("Cpmn", "Cypro Minoan"), ("Cprt", "Cypriot"), ("Cyrl", "Cyrillic"),
    ("Deva", "Devanagari"), ("Diak", "Dives Akuru"), ("Dogr", "Dogra"), ("Dsrt", "Deseret"), ("Dupl", "Duployan"),
    ("Egyp", "Egyptian Hieroglyphs"), ("Elba", "Elbasan"), ("Elym", "Elymaic"), ("Ethi", "Ethiopic"),
    ("Geor", "Georgian"), ("Glag", "Glagolitic"), ("Gong", "Gunjala Gondi"), ("Gonm", "Masaram Gondi"),
    ("Goth", "Gothic"), ("Gran", "Grantha"), ("Grek", "Greek"), ("Gujr", "Gujarati"), ("Guru", "Gurmukhi"),
    ("Hang", "Hangul"), ("Hani", "Han"), ("Hano", "Hanunoo"), ("Hatr", "Hatran"), ("Hebr", "Hebrew"),
    ("Hira", "Hiragana"), ("Hluw", "Anatolian Hieroglyphs"), ("Hmng", "Pahawh Hmong"),
    ("Hmnp", "Nyiakeng Puachue Hmong"), ("Hung", "Old Hungarian"), ("Ital", "Old Italic"), ("Java", "Javanese"),
    ("Kali", "Kayah Li"), ("Kana", "Katakana"), ("Kawi", "Kawi"), ("Khar", "Kharoshthi"), ("Khmr", "Khmer"),
    ("Khoj", "Khojki"), ("Kits", "Khitan Small Script"), ("Knda", "Kannada"), ("Kthi", "Kaithi"),
    ("Lana", "Tai Tham"), ("Laoo", "Lao"), ("Latn", "Latin"), ("Lepc", "Lepcha"), ("Limb", "Limbu"),
    ("Lina", "Linear A"), ("Linb", "Linear B"), ("Lisu", "Lisu"), ("Lyci", "Lycian"), ("Lydi", "Lydian"),
    ("Mahj", "Mahajani"), ("Maka", "Makasar"), ("Mand", "Mandaic"), ("Mani", "Manichaean"), ("Marc", "Marchen"),
    ("Medf", "Medefaidrin"), ("Mend", "Mende Kikakui"), ("Merc", "Meroitic Cursive"),
    ("Mero", "Meroitic Hieroglyphs"), ("Mlym", "Malayalam"), ("Modi", "Modi"), ("Mong", "Mongolian"),
    ("Mroo", "Mro"), ("Mtei", "Meetei Mayek"), ("Mult", "Multani"), ("Mymr", "Myanmar"), ("Nagm", "Nag Mundari"),
    ("Nand", "Nandinagari"), ("Narb", "Old North Arabian"), ("Nbat", "Nabataean"), ("Newa", "Newa"), ("Nkoo", "Nko"),
    ("Nshu", "Nushu"), ("Ogam", "Ogham"), ("Olck", "Ol Chiki"), ("Orkh", "Old Turkic"), ("Orya", "Oriya"),
    ("Osge", "Osage"), ("Osma", "Osmanya"), ("Ougr", "Old Uyghur"), ("Palm", "Palmyrene"), ("Pauc", "Pau Cin Hau"),
    ("Perm", "Old Permic"), ("Phag", "Phags Pa"), ("Phli", "Inscriptional Pahlavi"), ("Phlp", "Psalter Pahlavi"),
    ("Phnx", "Phoenician"), ("Plrd", "Miao"), ("Prti", "Inscriptional Parthian"), ("Rjng", "Rejang"),
    ("Rohg", "Hanifi Rohingya"), ("Runr", "Runic"), ("Samr", "Samaritan"), ("Sarb", "Old South Arabian"),
    ("Saur", "Saurashtra"), ("Sgnw", "SignWriting"), ("Shaw", "Shavian"), ("Shrd", "Sharada"), ("Sidd", "Siddham"),
    ("Sind", "Khudawadi"), ("Sinh", "Sinhala"), ("Sogd", "Sogdian"), ("Sogo", "Old Sogdian"),
    ("Sora", "Sora Sompeng"), ("Soyo", "Soyombo"), ("Sund", "Sundanese"), ("Sylo", "Syloti Nagri"),
    ("Syrc", "Syriac"), ("Tagb", "Tagbanwa"), ("Takr", "Takri"), ("Tale", "Tai Le"), ("Talu", "New Tai Lue"),
    ("Taml", "Tamil"), ("Tang", "Tangut"), ("Tavt", "Tai Viet"), ("Telu", "Telugu"), ("Tfng", "Tifinagh"),
    ("Tglg", "Tagalog"), ("Thaa", "Thaana"), ("Thai", "Thai"), ("Tibt", "Tibetan"), ("Tirh", "Tirhuta"),
    ("Tnsa", "Tangsa"), ("Toto", "Toto"), ("Ugar", "Ugaritic"), ("Vaii", "Vai"), ("Vith", "Vithkuqi"),
    ("Wara", "Warang Citi"), ("Wcho", "Wancho"), ("Xpeo", "Old Persian"), ("Xsux", "Cuneiform"), ("Yezi", "Yezidi"),
    ("Yiii", "Yi"), ("Zanb", "Zanabazar Square"), ("Zinh", "Inherited"), ("Zyyy", "Common")]

/-! ### Case folding -/

/-- Characters from `first` to `last`, every one of them or every second, that are folded by adding `shift`. -/
structure Folding where
  first : Nat
  last : Nat
  step : Nat
  shift : Int
  deriving Repr

def foldings : List Folding :=
  [
    ⟨0x41, 0x5A, 1, 32⟩, ⟨0xB5, 0xB5, 1, 775⟩, ⟨0xC0, 0xD6, 1, 32⟩, ⟨0xD8, 0xDE, 1, 32⟩, ⟨0x100, 0x12E, 2, 1⟩,
    ⟨0x132, 0x136, 2, 1⟩, ⟨0x139, 0x147, 2, 1⟩, ⟨0x14A, 0x176, 2, 1⟩, ⟨0x178, 0x178, 1, -121⟩,
    ⟨0x179, 0x17D, 2, 1⟩, ⟨0x17F, 0x17F, 1, -268⟩, ⟨0x181, 0x181, 1, 210⟩, ⟨0x182, 0x184, 2, 1⟩,
    ⟨0x186, 0x186, 1, 206⟩, ⟨0x187, 0x187, 1, 1⟩, ⟨0x189, 0x18A, 1, 205⟩, ⟨0x18B, 0x18B, 1, 1⟩,
    ⟨0x18E, 0x18E, 1, 79⟩, ⟨0x18F, 0x18F, 1, 202⟩, ⟨0x190, 0x190, 1, 203⟩, ⟨0x191, 0x191, 1, 1⟩,
    ⟨0x193, 0x193, 1, 205⟩, ⟨0x194, 0x194, 1, 207⟩, ⟨0x196, 0x196, 1, 211⟩, ⟨0x197, 0x197, 1, 209⟩,
    ⟨0x198, 0x198, 1, 1⟩, ⟨0x19C, 0x19C, 1, 211⟩, ⟨0x19D, 0x19D, 1, 213⟩, ⟨0x19F, 0x19F, 1, 214⟩,
    ⟨0x1A0, 0x1A4, 2, 1⟩, ⟨0x1A6, 0x1A6, 1, 218⟩, ⟨0x1A7, 0x1A7, 1, 1⟩, ⟨0x1A9, 0x1A9, 1, 218⟩,
    ⟨0x1AC, 0x1AC, 1, 1⟩, ⟨0x1AE, 0x1AE, 1, 218⟩, ⟨0x1AF, 0x1AF, 1, 1⟩, ⟨0x1B1, 0x1B2, 1, 217⟩,
    ⟨0x1B3, 0x1B5, 2, 1⟩, ⟨0x1B7, 0x1B7, 1, 219⟩, ⟨0x1B8, 0x1B8, 1, 1⟩, ⟨0x1BC, 0x1BC, 1, 1⟩,
    ⟨0x1C4, 0x1C4, 1, 2⟩, ⟨0x1C5, 0x1C5, 1, 1⟩, ⟨0x1C7, 0x1C7, 1, 2⟩, ⟨0x1C8, 0x1C8, 1, 1⟩,
    ⟨0x1CA, 0x1CA, 1, 2⟩, ⟨0x1CB, 0x1DB, 2, 1⟩, ⟨0x1DE, 0x1EE, 2, 1⟩, ⟨0x1F1, 0x1F1, 1, 2⟩,
    ⟨0x1F2, 0x1F4, 2, 1⟩, ⟨0x1F6, 0x1F6, 1, -97⟩, ⟨0x1F7, 0x1F7, 1, -56⟩, ⟨0x1F8, 0x21E, 2, 1⟩,
    ⟨0x220, 0x220, 1, -130⟩, ⟨0x222, 0x232, 2, 1⟩, ⟨0x23A, 0x23A, 1, 10795⟩, ⟨0x23B, 0x23B, 1, 1⟩,
    ⟨0x23D, 0x23D, 1, -163⟩, ⟨0x23E, 0x23E, 1, 10792⟩, ⟨0x241, 0x241, 1, 1⟩, ⟨0x243, 0x243, 1, -195⟩,
    ⟨0x244, 0x244, 1, 69⟩, ⟨0x245, 0x245, 1, 71⟩, ⟨0x246, 0x24E, 2, 1⟩, ⟨0x345, 0x345, 1, 116⟩,
    ⟨0x370, 0x372, 2, 1⟩, ⟨0x376, 0x376, 1, 1⟩, ⟨0x37F, 0x37F, 1, 116⟩, ⟨0x386, 0x386, 1, 38⟩,
    ⟨0x388, 0x38A, 1, 37⟩, ⟨0x38C, 0x38C, 1, 64⟩, ⟨0x38E, 0x38F, 1, 63⟩, ⟨0x391, 0x3A1, 1, 32⟩,
    ⟨0x3A3, 0x3AB, 1, 32⟩, ⟨0x3C2, 0x3C2, 1, 1⟩, ⟨0x3CF, 0x3CF, 1, 8⟩, ⟨0x3D0, 0x3D0, 1, -30⟩,
    ⟨0x3D1, 0x3D1, 1, -25⟩, ⟨0x3D5, 0x3D5, 1, -15⟩, ⟨0x3D6, 0x3D6, 1, -22⟩, ⟨0x3D8, 0x3EE, 2, 1⟩,
    ⟨0x3F0, 0x3F0, 1, -54⟩, ⟨0x3F1, 0x3F1, 1, -48⟩, ⟨0x3F4, 0x3F4, 1, -60⟩, ⟨0x3F5, 0x3F5, 1, -64⟩,
    ⟨0x3F7, 0x3F7, 1, 1⟩, ⟨0x3F9, 0x3F9, 1, -7⟩, ⟨0x3FA, 0x3FA, 1, 1⟩, ⟨0x3FD, 0x3FF, 1, -130⟩,
    ⟨0x400, 0x40F, 1, 80⟩, ⟨0x410, 0x42F, 1, 32⟩, ⟨0x460, 0x480, 2, 1⟩, ⟨0x48A, 0x4BE, 2, 1⟩,
    ⟨0x4C0, 0x4C0, 1, 15⟩, ⟨0x4C1, 0x4CD, 2, 1⟩, ⟨0x4D0, 0x52E, 2, 1⟩, ⟨0x531, 0x556, 1, 48⟩,
    ⟨0x10A0, 0x10C5, 1, 7264⟩, ⟨0x10C7, 0x10C7, 1, 7264⟩, ⟨0x10CD, 0x10CD, 1, 7264⟩, ⟨0x13F8, 0x13FD, 1, -8⟩,
    ⟨0x1C80, 0x1C80, 1, -6222⟩, ⟨0x1C81, 0x1C81, 1, -6221⟩, ⟨0x1C82, 0x1C82, 1, -6212⟩,
    ⟨0x1C83, 0x1C84, 1, -6210⟩, ⟨0x1C85, 0x1C85, 1, -6211⟩, ⟨0x1C86, 0x1C86, 1, -6204⟩,
    ⟨0x1C87, 0x1C87, 1, -6180⟩, ⟨0x1C88, 0x1C88, 1, 35267⟩, ⟨0x1C90, 0x1CBA, 1, -3008⟩,
    ⟨0x1CBD, 0x1CBF, 1, -3008⟩, ⟨0x1E00, 0x1E94, 2, 1⟩, ⟨0x1E9B, 0x1E9B, 1, -58⟩, ⟨0x1E9E, 0x1E9E, 1, -7615⟩,
    ⟨0x1EA0, 0x1EFE, 2, 1⟩, ⟨0x1F08, 0x1F0F, 1, -8⟩, ⟨0x1F18, 0x1F1D, 1, -8⟩, ⟨0x1F28, 0x1F2F, 1, -8⟩,
    ⟨0x1F38, 0x1F3F, 1, -8⟩, ⟨0x1F48, 0x1F4D, 1, -8⟩, ⟨0x1F59, 0x1F5F, 2, -8⟩, ⟨0x1F68, 0x1F6F, 1, -8⟩,
    ⟨0x1F88, 0x1F8F, 1, -8⟩, ⟨0x1F98, 0x1F9F, 1, -8⟩, ⟨0x1FA8, 0x1FAF, 1, -8⟩, ⟨0x1FB8, 0x1FB9, 1, -8⟩,
    ⟨0x1FBA, 0x1FBB, 1, -74⟩, ⟨0x1FBC, 0x1FBC, 1, -9⟩, ⟨0x1FBE, 0x1FBE, 1, -7173⟩, ⟨0x1FC8, 0x1FCB, 1, -86⟩,
    ⟨0x1FCC, 0x1FCC, 1, -9⟩, ⟨0x1FD8, 0x1FD9, 1, -8⟩, ⟨0x1FDA, 0x1FDB, 1, -100⟩, ⟨0x1FE8, 0x1FE9, 1, -8⟩,
    ⟨0x1FEA, 0x1FEB, 1, -112⟩, ⟨0x1FEC, 0x1FEC, 1, -7⟩, ⟨0x1FF8, 0x1FF9, 1, -128⟩, ⟨0x1FFA, 0x1FFB, 1, -126⟩,
    ⟨0x1FFC, 0x1FFC, 1, -9⟩, ⟨0x2126, 0x2126, 1, -7517⟩, ⟨0x212A, 0x212A, 1, -8383⟩,
    ⟨0x212B, 0x212B, 1, -8262⟩, ⟨0x2132, 0x2132, 1, 28⟩, ⟨0x2160, 0x216F, 1, 16⟩, ⟨0x2183, 0x2183, 1, 1⟩,
    ⟨0x24B6, 0x24CF, 1, 26⟩, ⟨0x2C00, 0x2C2F, 1, 48⟩, ⟨0x2C60, 0x2C60, 1, 1⟩, ⟨0x2C62, 0x2C62, 1, -10743⟩,
    ⟨0x2C63, 0x2C63, 1, -3814⟩, ⟨0x2C64, 0x2C64, 1, -10727⟩, ⟨0x2C67, 0x2C6B, 2, 1⟩,
    ⟨0x2C6D, 0x2C6D, 1, -10780⟩, ⟨0x2C6E, 0x2C6E, 1, -10749⟩, ⟨0x2C6F, 0x2C6F, 1, -10783⟩,
    ⟨0x2C70, 0x2C70, 1, -10782⟩, ⟨0x2C72, 0x2C72, 1, 1⟩, ⟨0x2C75, 0x2C75, 1, 1⟩, ⟨0x2C7E, 0x2C7F, 1, -10815⟩,
    ⟨0x2C80, 0x2CE2, 2, 1⟩, ⟨0x2CEB, 0x2CED, 2, 1⟩, ⟨0x2CF2, 0x2CF2, 1, 1⟩, ⟨0xA640, 0xA66C, 2, 1⟩,
    ⟨0xA680, 0xA69A, 2, 1⟩, ⟨0xA722, 0xA72E, 2, 1⟩, ⟨0xA732, 0xA76E, 2, 1⟩, ⟨0xA779, 0xA77B, 2, 1⟩,
    ⟨0xA77D, 0xA77D, 1, -35332⟩, ⟨0xA77E, 0xA786, 2, 1⟩, ⟨0xA78B, 0xA78B, 1, 1⟩, ⟨0xA78D, 0xA78D, 1, -42280⟩,
    ⟨0xA790, 0xA792, 2, 1⟩, ⟨0xA796, 0xA7A8, 2, 1⟩, ⟨0xA7AA, 0xA7AA, 1, -42308⟩, ⟨0xA7AB, 0xA7AB, 1, -42319⟩,
    ⟨0xA7AC, 0xA7AC, 1, -42315⟩, ⟨0xA7AD, 0xA7AD, 1, -42305⟩, ⟨0xA7AE, 0xA7AE, 1, -42308⟩,
    ⟨0xA7B0, 0xA7B0, 1, -42258⟩, ⟨0xA7B1, 0xA7B1, 1, -42282⟩, ⟨0xA7B2, 0xA7B2, 1, -42261⟩,
    ⟨0xA7B3, 0xA7B3, 1, 928⟩, ⟨0xA7B4, 0xA7C2, 2, 1⟩, ⟨0xA7C4, 0xA7C4, 1, -48⟩, ⟨0xA7C5, 0xA7C5, 1, -42307⟩,
    ⟨0xA7C6, 0xA7C6, 1, -35384⟩, ⟨0xA7C7, 0xA7C9, 2, 1⟩, ⟨0xA7D0, 0xA7D0, 1, 1⟩, ⟨0xA7D6, 0xA7D8, 2, 1⟩,
    ⟨0xA7F5, 0xA7F5, 1, 1⟩, ⟨0xAB70, 0xABBF, 1, -38864⟩, ⟨0xFF21, 0xFF3A, 1, 32⟩, ⟨0x10400, 0x10427, 1, 40⟩,
    ⟨0x104B0, 0x104D3, 1, 40⟩, ⟨0x10570, 0x1057A, 1, 39⟩, ⟨0x1057C, 0x1058A, 1, 39⟩, ⟨0x1058C, 0x10592, 1, 39⟩,
    ⟨0x10594, 0x10595, 1, 39⟩, ⟨0x10C80, 0x10CB2, 1, 64⟩, ⟨0x118A0, 0x118BF, 1, 32⟩, ⟨0x16E40, 0x16E5F, 1, 32⟩,
    ⟨0x1E900, 0x1E921, 1, 34⟩]

def Folding.applies (f : Folding) (n : Nat) : Bool := f.first ≤ n && n ≤ f.last && (n - f.first) % f.step = 0

def foldCase (c : Char) : Char :=
  match foldings.find? (·.applies c.toNat) with
  | some f => Char.ofNat ((c.toNat : Int) + f.shift).toNat
  | none => c

def unfoldings (c : Char) : List Char :=
  c :: foldings.filterMap fun f =>
    let n := ((c.toNat : Int) - f.shift).toNat
    if f.applies n && (n : Int) + f.shift = c.toNat then some (Char.ofNat n) else none

def caseOrbit (c : Char) : List Char := unfoldings (foldCase c)

end Postern.Text
