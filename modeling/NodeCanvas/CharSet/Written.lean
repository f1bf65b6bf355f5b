import NodeCanvas.CharSet.Basic
import NodeCanvas.Text.Hex

/-!
Sets of characters in writing: codes and ranges as hexadecimal numbers between spaces. A range is
two numbers with a hyphen between them; a slash and a third number after it tell that only every
so many of its codes are meant.
-/
namespace NodeCanvas.CharSet

def splitAtMark (mark : Char) (text : List Char) : List Char × Option (List Char) :=
  let before := text.takeWhile (· != mark)
  (before, (text.drop before.length).tail?)

/-- The first and the last code of a written range, and the distance between its codes. -/
def writtenRun (word : List Char) : Nat × Nat × Nat :=
  let (ends, gap) := splitAtMark '/' word
  let (low, high) := splitAtMark '-' ends
  let first := Text.hexNumber low
  (first, high.elim first Text.hexNumber, gap.elim 1 Text.hexNumber)

def runCodes (low high gap : Nat) : List Nat :=
  (List.range ((high - low) / gap + 1)).map fun i => low + gap * i

def writtenRanges (word : List Char) : List (Nat × Nat) :=
  let (low, high, gap) := writtenRun word
  if gap = 1 then [(low, high)] else (runCodes low high gap).map fun code => (code, code)

def ofWritten (lines : List String) : CharSet :=
  ofRanges (lines.flatMap fun line => (line.toList.splitOn ' ').flatMap writtenRanges)

end NodeCanvas.CharSet
