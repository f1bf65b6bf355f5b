import NodeCanvas.Character.Age
import NodeCanvas.Character.Break
import NodeCanvas.Text.Blank

namespace NodeCanvas.Pattern

/-- A name in lower case, without spaces, hyphens, underscores and a leading `is`. -/
def looseName (name : List Char) : String :=
  let lower := name.map Char.toLower
  let body := match lower with
    | 'i' :: 's' :: rest => rest
    | _ => lower
  let kept := body.filter fun c =>
    c.toNat < 0x80 && c != ' ' && c != '_' && c != '-'
  if kept = ['c'] ∧ body.length ≠ lower.length then "isc" else String.ofList kept

/-- The characters of a property that is called by its name or by the name of its value. -/
def named? (name : List Char) : Option CharSet :=
  let name := looseName name
  (Character.ofProperty? name).or ((Character.ofCategory? name).or (Character.ofScript? name))

def valued? (property value : List Char) : Option CharSet :=
  let value := looseName value
  match looseName property with
  | "gc" | "generalcategory" => Character.ofCategory? value
  | "sc" | "script" => Character.ofScript? value
  | "scx" | "scriptextensions" => Character.usedInScript? value
  | "age" => Character.ofAge? value
  | "gcb" | "graphemeclusterbreak" => Character.ofClusterBreak? value
  | "wb" | "wordbreak" => Character.ofWordBreak? value
  | "sb" | "sentencebreak" => Character.ofSentenceBreak? value
  | _ => none

def asciiWordChars : CharSet := ⟨[(0x30, 0x39), (0x41, 0x5A), (0x5F, 0x5F), (0x61, 0x7A)]⟩

def asciiClass? (name : String) : Option CharSet :=
  match name with
  | "alnum" => some ⟨[(0x30, 0x39), (0x41, 0x5A), (0x61, 0x7A)]⟩
  | "alpha" => some ⟨[(0x41, 0x5A), (0x61, 0x7A)]⟩
  | "ascii" => some ⟨[(0x00, 0x7F)]⟩
  | "blank" => some ⟨[(0x09, 0x09), (0x20, 0x20)]⟩
  | "cntrl" => some ⟨[(0x00, 0x1F), (0x7F, 0x7F)]⟩
  | "digit" => some ⟨[(0x30, 0x39)]⟩
  | "graph" => some ⟨[(0x21, 0x7E)]⟩
  | "lower" => some ⟨[(0x61, 0x7A)]⟩
  | "print" => some ⟨[(0x20, 0x7E)]⟩
  | "punct" => some ⟨[(0x21, 0x2F), (0x3A, 0x40), (0x5B, 0x60), (0x7B, 0x7E)]⟩
  | "space" => some ⟨[(0x09, 0x0D), (0x20, 0x20)]⟩
  | "upper" => some ⟨[(0x41, 0x5A)]⟩
  | "word" => some asciiWordChars
  | "xdigit" => some ⟨[(0x30, 0x39), (0x41, 0x46), (0x61, 0x66)]⟩
  | _ => none

/-- The set that a letter after a backslash stands for: digits, white space or word characters. -/
def letterClass? (unicode : Bool) (letter : Char) : Option CharSet :=
  match letter with
  | 'd' => if unicode then some Character.decimalDigits else asciiClass? "digit"
  | 's' => if unicode then some Character.whiteSpace else asciiClass? "space"
  | 'w' => if unicode then some Character.wordCharacters else asciiClass? "word"
  | _ => none

end NodeCanvas.Pattern
