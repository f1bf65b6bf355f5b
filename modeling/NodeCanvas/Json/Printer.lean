import NodeCanvas.Json.Value
import NodeCanvas.Number.Shortest
import NodeCanvas.Text.Hex

namespace NodeCanvas.Json

/-- Quotes, backslashes and characters below the space are escaped, the others stand for
themselves. -/
def escaped (c : Char) : List Char :=
  if c = '"' then ['\\', '"']
  else if c = '\\' then ['\\', '\\']
  else if c = '\x08' then ['\\', 'b']
  else if c = '\t' then ['\\', 't']
  else if c = '\n' then ['\\', 'n']
  else if c = '\x0c' then ['\\', 'f']
  else if c = '\r' then ['\\', 'r']
  else if c.toNat < 0x20 then
    ['\\', 'u', '0', '0', Text.hexDigit (c.toNat / 16), Text.hexDigit (c.toNat % 16)]
  else [c]

def quoted (s : String) : String :=
  String.ofList ('"' :: s.toList.foldr (fun c rest => escaped c ++ rest) ['"'])

def numberText : Number → String
  | .whole n => toString n
  | .real d => NumberLayout.document.render d

mutual
def compact : Json → String
  | .null => "null"
  | .bool true => "true"
  | .bool false => "false"
  | .num n => numberText n
  | .str s => quoted s
  | .arr items => "[" ++ compactItems items ++ "]"
  | .obj members => "\x7b" ++ compactMembers members ++ "\x7d"

def compactItems : List Json → String
  | [] => ""
  | [item] => compact item
  | item :: rest => compact item ++ "," ++ compactItems rest

def compactMembers : List (String × Json) → String
  | [] => ""
  | [(key, member)] => quoted key ++ ":" ++ compact member
  | (key, member) :: rest => quoted key ++ ":" ++ compact member ++ "," ++ compactMembers rest
end

def lineBreak (level : Nat) : String := "\n".pushn ' ' (2 * level)

mutual
/-- The indented form of a value whose first line stands at a level. -/
def prettyAt (level : Nat) : Json → String
  | .null => "null"
  | .bool true => "true"
  | .bool false => "false"
  | .num n => numberText n
  | .str s => quoted s
  | .arr [] => "[]"
  | .arr (item :: rest) =>
    "[" ++ prettyItems (level + 1) (item :: rest) ++ lineBreak level ++ "]"
  | .obj [] => "\x7b\x7d"
  | .obj (member :: rest) =>
    "\x7b" ++ prettyMembers (level + 1) (member :: rest) ++ lineBreak level ++ "\x7d"

def prettyItems (level : Nat) : List Json → String
  | [] => ""
  | [item] => lineBreak level ++ prettyAt level item
  | item :: rest => lineBreak level ++ prettyAt level item ++ "," ++ prettyItems level rest

def prettyMembers (level : Nat) : List (String × Json) → String
  | [] => ""
  | [(key, member)] => lineBreak level ++ quoted key ++ ": " ++ prettyAt level member
  | (key, member) :: rest =>
    lineBreak level ++ quoted key ++ ": " ++ prettyAt level member ++ ","
      ++ prettyMembers level rest
end

def pretty (j : Json) : String := prettyAt 0 j

/-- A text as it is, any other value in compact form. -/
def displayText : Json → String
  | .str s => s
  | j => compact j

end NodeCanvas.Json
