import NodeCanvas.Character.Folding
import NodeCanvas.Character.PropertyTable

namespace NodeCanvas.Character

def tabled (name : String) : CharSet := ((lookup? propertyTable name).map .ofWritten).getD .empty

def whiteSpace : CharSet := tabled "space"

def uppercase : CharSet := (ofCategories ["lu"]).union (tabled "oupper")

def lowercase : CharSet := (ofCategories ["ll"]).union (tabled "olower")

def cased : CharSet := (uppercase.union lowercase).union (ofCategories ["lt"])

def graphemeExtend : CharSet := (ofCategories ["me", "mn"]).union (tabled "ogrext")

/-- Characters that have a place of their own in a line. -/
def graphemeBase : CharSet :=
  ((ofCategories ["cc", "cf", "cs", "co", "zl", "zp"]).union
    (unassigned.union graphemeExtend)).complement

def separating : CharSet := (tabled "patsyn").union (tabled "patws")

def identifierStart : CharSet :=
  ((ofCategories ["l", "nl"]).union (tabled "oids")).diff separating

def identifierContinue : CharSet :=
  (((ofCategories ["l", "nl", "mn", "mc", "nd", "pc"]).union (tabled "oids")).union
    (tabled "oidc")).diff separating

/-- Characters whose compatible forms could not continue an identifier. -/
def unstableContinue : CharSet :=
  .ofWritten ["37A 309B-309C FC5E-FC63 FDFA-FDFB FE70-FE7E/2"]

def unstableStart : CharSet := unstableContinue.union (.ofWritten ["E33 EB3 FF9E-FF9F"])

/-- Characters within words that are no letters, and marks of other kinds that are passed over when
it is told whether a letter stands at the end of a word. -/
def caseIgnorable : CharSet :=
  (ofCategories ["mn", "me", "cf", "lm", "sk"]).union
    (.ofWritten ["27 2E 3A B7 387 55F 5F4 2018-2019 2024 2027 FE13 FE52 FE55 FF07 FF0E FF1A"])

def changesWhenTitlecased : CharSet :=
  ((tabled "cwu").diff
    (.ofWritten ["1C5-1CB/3 1F2 10D0-10FA 10FD-10FF 1F88-1F8F 1F98-1F9F 1FA8-1FAF 1FBC 1FCC 1FFC"])
    ).union (.ofWritten ["1C4-1CA/3 1F1"])

def changesWhenCasemapped : CharSet :=
  (changesWhenLowercased.union (tabled "cwu")).union changesWhenTitlecased

def changesWhenCasefolded : CharSet :=
  (changesWhenLowercased.diff (.ofWritten ["13A0-13F5"])).union (.ofWritten [
    "B5 DF 149 17F 345 3C2 3D0-3D1 3D5-3D6 3F0-3F1 3F5 587 13F8-13FD 1C80-1C88 1E9A-1E9B",
    "1F80-1F87 1F90-1F97 1FA0-1FA7 1FB2-1FB4 1FB7 1FC2-1FC4 1FC7 1FF2-1FF4 1FF7 AB70-ABBF",
    "FB00-FB06 FB13-FB17"])

def derived? (name : String) : Option CharSet :=
  match name with
  | "alphabetic" | "alpha" => some alphabetic
  | "otheralphabetic" | "oalpha" => some otherAlphabetic
  | "uppercase" | "upper" => some uppercase
  | "lowercase" | "lower" => some lowercase
  | "cased" => some cased
  | "caseignorable" | "ci" => some caseIgnorable
  | "changeswhencasefolded" | "cwcf" => some changesWhenCasefolded
  | "changeswhencasemapped" | "cwcm" => some changesWhenCasemapped
  | "changeswhenlowercased" | "cwl" => some changesWhenLowercased
  | "changeswhentitlecased" | "cwt" => some changesWhenTitlecased
  | "graphemebase" | "grbase" => some graphemeBase
  | "graphemeextend" | "grext" => some graphemeExtend
  | "idcontinue" | "idc" => some identifierContinue
  | "idstart" | "ids" => some identifierStart
  | "xidcontinue" | "xidc" => some (identifierContinue.diff unstableContinue)
  | "xidstart" | "xids" => some (identifierStart.diff unstableStart)
  | "math" => some ((ofCategories ["sm"]).union (tabled "omath"))
  | _ => none

def ofProperty? (name : String) : Option CharSet :=
  (derived? name).or ((lookup? propertyTable name).map .ofWritten)

end NodeCanvas.Character
