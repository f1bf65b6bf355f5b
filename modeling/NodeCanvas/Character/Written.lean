import NodeCanvas.CharSet.Written

/-!
Characters and the texts they become, in writing: words between spaces, all numbers hexadecimal.
Either a colon stands between a range of codes and the code that its first one becomes, the others
keeping their distance from that. Or an equals sign stands between a code and texts that are
separated by commas: what that code becomes, then what the next one becomes, and so on. The codes
of a text are joined by plus signs.
-/
namespace NodeCanvas.Character

def writtenText (word : List Char) : List Char :=
  (word.splitOn '+').map fun code => Char.ofNat (Text.hexNumber code)

/-- The codes in a word, each with the text that it becomes. -/
def writtenPairs (word : List Char) : List (Nat × List Char) :=
  match CharSet.splitAtMark ':' word with
  | (run, some first) =>
    let (low, high, gap) := CharSet.writtenRun run
    (CharSet.runCodes low high gap).map fun code =>
      (code, [Char.ofNat (Text.hexNumber first + (code - low))])
  | (_, none) =>
    let (first, texts) := CharSet.splitAtMark '=' word
    let texts := ((texts.getD []).splitOn ',').map writtenText
    (texts.zipIdx (Text.hexNumber first)).map fun (text, code) => (code, text)

def pairsOfWritten (lines : List String) : List (Nat × List Char) :=
  lines.flatMap fun line => (line.toList.splitOn ' ').flatMap writtenPairs

end NodeCanvas.Character
