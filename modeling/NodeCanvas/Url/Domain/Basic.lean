import NodeCanvas.Url.Domain.Composition
import NodeCanvas.Url.Domain.Direction
import NodeCanvas.Url.Domain.Joining
import NodeCanvas.Url.Domain.Mapping
import NodeCanvas.Url.Domain.Punycode

namespace NodeCanvas.Domain

def isAscii (text : List Char) : Bool := text.all fun c => c.toNat < 0x80

def isForbidden (c : Char) : Bool :=
  c.toNat ≤ 0x20 || c.toNat == 0x7F || "%#/:<>?@[\\]^|".toList.contains c

def asciiMark : List Char := "xn--".toList

/-- The longest label in ASCII that stands for another one, its mark left out. -/
def codedLimit : Nat := 2000

/-- The longest label that is not in ASCII. -/
def labelLimit : Nat := 1000

/-- A text that is the same when it is made a name again. -/
def isStable (text : List Char) : Bool :=
  text.all (fun c => mapped? c = some [c]) && composed text = text

/-- The label that a label stands for, which is itself if it has no mark. -/
def meant? (label : List Char) : Option (List Char) :=
  if asciiMark.isPrefixOf label then do
    let coded := label.drop asciiMark.length
    guard (isAscii coded ∧ label.getLast? ≠ some '-' ∧ coded.length ≤ codedLimit)
    (Punycode.decode? coded).filter fun text => isStable text && !text.any isForbidden
  else some label

/-- Whether a label is well written: no mark stands at its start, and joiners are in place. -/
def isLabel (label : List Char) : Bool :=
  isAscii label ||
    (!label.head?.any Character.marks.contains && joinsInPlace [] label
      && label.length ≤ labelLimit)

def inAscii (label : List Char) : List Char :=
  if isAscii label then label else asciiMark ++ Punycode.encode label

def ofText? (text : List Char) : Option (List Char) := do
  let name := composed (← mappedText? text)
  guard !(name.any isForbidden)
  let labels ← (name.splitOn '.').mapM meant?
  guard (labels.all isLabel && keepOrder labels)
  return ['.'].intercalate (labels.map inAscii)

end NodeCanvas.Domain
