import NodeCanvas.Character.Property
import NodeCanvas.Character.Script

namespace NodeCanvas.Character

def prefixedMarks : CharSet := tabled "pcm"

def joiner : CharSet := ⟨[(0x200D, 0x200D)]⟩

def regionalIndicators : CharSet := tabled "ri"

/-- Marks of all kinds, and the modifiers of emoji. -/
def markLike : CharSet := (graphemeExtend.union (tabled "emod")).union (ofCategories ["mc"])

def formatWithout (others : CharSet) : CharSet := (ofCategories ["cf"]).diff others

def clusterControl : CharSet :=
  ((ofCategories ["zl", "zp", "cc", "cf"]).union ((tabled "di").inter unassigned)).diff
    (prefixedMarks.union (.ofWritten ["A D 200C-200D E0020-E007F"]))

def clusterSpacingMarks : CharSet :=
  (((ofCategories ["mc"]).union (.ofWritten ["E33 EB3"])).diff (.ofWritten [
    "102B-102C 1038 1062-1064 1067-106D 1083 1087-108C 108F 109A-109C 1A61 1A63-1A64 AA7B AA7D",
    "11720-11721"])).diff graphemeExtend

def ofClusterBreak? (name : String) : Option CharSet :=
  match name with
  | "control" | "cn" => some clusterControl
  | "cr" => some (.singleton '\r')
  | "lf" => some (.singleton '\n')
  | "extend" | "ex" => some ((graphemeExtend.union (tabled "emod")).diff joiner)
  | "zwj" => some joiner
  | "prepend" | "pp" =>
    some (prefixedMarks.union
      (.ofWritten ["D4E 111C2-111C3 113D1 1193F 11941 11A3A 11A84-11A89 11D46 11F02"]))
  | "spacingmark" | "sm" => some clusterSpacingMarks
  | "regionalindicator" | "ri" => some regionalIndicators
  | "l" => some (.ofWritten ["1100-115F A960-A97C"])
  | "v" => some (.ofWritten ["1160-11A7 D7B0-D7C6 16D63 16D67-16D6A"])
  | "t" => some (.ofWritten ["11A8-11FF D7CB-D7FB"])
  | "lv" => some (.ofWritten ["AC00-D788/1C"])
  | "lvt" => some ((CharSet.ofWritten ["AC00-D7A3"]).diff (.ofWritten ["AC00-D788/1C"]))
  | _ => none

/-- Letters of scripts that are written without a mark between words. -/
def unspacedLetters : CharSet := .ofWritten [
  "E01-E30 E32-E33 E40-E46 E81-E82 E84 E86-E8A E8C-EA3 EA5 EA7-EB0 EB2-EB3 EBD EC0-EC4 EC6",
  "EDC-EDF 1000-102A 103F 1050-1055 105A-105D 1061 1065-1066 106E-1070 1075-1081 108E",
  "1780-17B3 17D7 17DC 1950-196D 1970-1974 1980-19AB 19B0-19C9 1A20-1A54 1AA7 A9E0-A9E4",
  "A9E6-A9EF A9FA-A9FE AA60-AA76 AA7A AA7E-AAAF AAB1 AAB5-AAB6 AAB9-AABD AAC0 AAC2 AADB-AADD",
  "11700-1171A 11740-11746"]

def script (name : String) : CharSet := (ofScript? name).getD .empty

def wordExtend : CharSet := markLike.diff joiner

def wordKatakana : CharSet :=
  (script "kana").union (.ofWritten ["3031-3035 309B-309C 30A0 30FC FF70"])

def hebrewLetters : CharSet := (script "hebr").inter (ofCategories ["lo"])

def numeric : CharSet := (decimalDigits.union prefixedMarks).diff (.singleton '\u070F')
  |>.union (.singleton '\u066B')

/-- Letters of words, and marks that are used like them, where words have a mark between them. -/
def wordLetters : CharSet :=
  (alphabetic.union (.ofWritten [
    "2C2-2C5 2D2-2D7 2DE-2DF 2E5-2EB 2ED 2EF-2FF 55A-55C 55E 58A 5F3 70F A708-A716 A720-A721",
    "A789-A78A AB5B"])).diff
    ((tabled "ideo").union (wordKatakana.union (unspacedLetters.union ((script "hira").union
      (wordExtend.union (hebrewLetters.union numeric))))))

def ofWordBreak? (name : String) : Option CharSet :=
  match name with
  | "cr" => some (.singleton '\r')
  | "lf" => some (.singleton '\n')
  | "newline" | "nl" => some (.ofWritten ["B-C 85 2028-2029"])
  | "extend" => some wordExtend
  | "zwj" => some joiner
  | "regionalindicator" | "ri" => some regionalIndicators
  | "format" | "fo" =>
    some (formatWithout (wordExtend.union (prefixedMarks.union (.ofWritten ["200B-200D"]))))
  | "katakana" | "ka" => some wordKatakana
  | "hebrewletter" | "hl" => some hebrewLetters
  | "aletter" | "le" => some wordLetters
  | "doublequote" | "dq" => some (.singleton '"')
  | "singlequote" | "sq" => some (.singleton '\'')
  | "midnumlet" | "mb" => some (.ofWritten ["2E 2018-2019 2024 FE52 FF07 FF0E"])
  | "midletter" | "ml" => some (.ofWritten ["3A B7 387 55F 5F4 2027 FE13 FE55 FF1A"])
  | "midnum" | "mn" =>
    some (.ofWritten ["2C 3B 37E 589 60C-60D 66C 7F8 2044 FE10 FE14 FE50 FE54 FF0C FF1B"])
  | "numeric" | "nu" => some numeric
  | "extendnumlet" | "ex" => some ((ofCategories ["pc"]).union (.singleton '\u202F'))
  | "wsegspace" => some ((ofCategories ["zs"]).diff (.ofWritten ["A0 2007 202F"]))
  | _ => none

/-- Letters of a script that has capital letters, but does not begin a sentence with them. -/
def georgianLower : CharSet := .ofWritten ["10D0-10FA 10FD-10FF"]

def georgianUpper : CharSet := .ofWritten ["1C90-1CBA 1CBD-1CBF"]

def sentenceSeparators : CharSet := .ofWritten ["85 2028-2029"]

def sentenceSpaces : CharSet := whiteSpace.diff (sentenceSeparators.union (.ofText "\n\r"))

def sentenceExtend : CharSet :=
  (graphemeExtend.union joiner).union (ofCategories ["mc"])

def sentenceLower : CharSet := lowercase.diff (graphemeExtend.union georgianLower)

def sentenceUpper : CharSet := ((ofCategories ["lt"]).union uppercase).diff georgianUpper

/-- Points that may end a sentence, but may also stand within it. -/
def fullStops : CharSet := .ofWritten ["2E 2024 FE52 FF0E"]

def ofSentenceBreak? (name : String) : Option CharSet :=
  match name with
  | "cr" => some (.singleton '\r')
  | "lf" => some (.singleton '\n')
  | "sep" | "se" => some sentenceSeparators
  | "extend" | "ex" => some sentenceExtend
  | "format" | "fo" =>
    some (formatWithout (sentenceExtend.union
      ((prefixedMarks.diff (.singleton '\u070F')).union (.ofWritten ["200C-200D"]))))
  | "sp" => some sentenceSpaces
  | "lower" | "lo" => some sentenceLower
  | "upper" | "up" => some sentenceUpper
  | "oletter" | "le" =>
    some ((alphabetic.union (.ofWritten ["A0 5F3"])).diff
      (sentenceLower.union (sentenceUpper.union (sentenceExtend.union sentenceSpaces))))
  | "numeric" | "nu" => some (numeric.union (.singleton '\u066C'))
  | "aterm" | "at" => some fullStops
  | "scontinue" | "sc" =>
    some (.ofWritten ["2C-2D 3A-3B 37E 55D 60C-60D 7F8 1802 1808 2013-2014 3001 FE10-FE11",
      "FE13-FE14 FE31-FE32 FE50-FE51 FE54-FE55 FE58 FE63 FF0C-FF0D FF1A-FF1B FF64"])
  | "sterm" | "st" => some ((tabled "sterm").diff fullStops)
  | "close" | "cl" =>
    some ((ofCategories ["ps", "pe", "pi", "pf"]).union
      (.ofWritten ["22 27 275B-2760 2E00-2E01 2E06-2E08 2E0B 1F676-1F678"]))
  | _ => none

end NodeCanvas.Character
