import NodeCanvas.Url.Domain.Basic
import NodeCanvas.Url.Percent

namespace NodeCanvas

inductive UrlFault where
  | relative
  | emptyHost
  | port
  | ipv4
  | ipv6
  | hostName
  | hostCharacter
deriving DecidableEq

def UrlFault.message : UrlFault → String
  | .relative => "relative URL without a base"
  | .emptyHost => "empty host"
  | .port => "invalid port number"
  | .ipv4 => "invalid IPv4 address"
  | .ipv6 => "invalid IPv6 address"
  | .hostName => "invalid international domain name"
  | .hostCharacter => "invalid domain character"

inductive Host where
  | name (text : String)
  | ipv4 (address : Nat)
  /-- Eight pieces of 16 bits. -/
  | ipv6 (pieces : List Nat)
deriving DecidableEq

namespace Host

def number (digits : List Char) : Nat := digits.foldl (fun n c => n * 10 + (c.toNat - 48)) 0

/-- A number of an address: decimal, octal after `0` or hexadecimal after `0x`. -/
def ipv4Number? (text : List Char) : Option Nat :=
  match text with
  | [] => none
  | '0' :: 'x' :: digits | '0' :: 'X' :: digits =>
    if digits.all Text.isHexDigit then some (Text.hexNumber digits) else none
  | '0' :: d :: digits =>
    if (d :: digits).all fun c => '0' ≤ c && c ≤ '7' then
      some ((d :: digits).foldl (fun n c => n * 8 + (c.toNat - 48)) 0)
    else none
  | digits => if digits.all Char.isDigit then some (number digits) else none

/-- The labels of a name; a point at its end closes the last one. -/
def labels (text : List Char) : List (List Char) :=
  let labels := text.splitOn '.'
  if labels.length > 1 && labels.getLast? == some [] then labels.dropLast else labels

def endsInNumber (text : List Char) : Bool :=
  match (labels text).getLast? with
  | none | some [] => false
  | some last => last.all Char.isDigit || (ipv4Number? last).isSome

/-- Up to four numbers, the last of which fills all places that are left. -/
def ipv4? (text : List Char) : Option Nat := do
  let numbers ← (labels text).mapM ipv4Number?
  let last ← numbers.getLast?
  let first := numbers.dropLast
  if first.length > 3 || first.any (· > 255) || last ≥ 1 <<< (8 * (4 - first.length)) then none
  else some (first.foldr (fun n rest => (n <<< 24) + (rest >>> 8)) 0 + last)

def decimalOctet? (digits : List Char) : Option Nat :=
  if digits.isEmpty || !digits.all Char.isDigit || (digits.length > 1 && digits.head? == some '0')
  then none
  else if number digits > 255 then none
  else some (number digits)

/-- The pieces of a part of an address, the last of which may be written as four octets. -/
def ipv6Pieces? (last : Bool) : List (List Char) → Option (List Nat)
  | [] => some []
  | group :: rest =>
    if last && rest.isEmpty && group.contains '.' then do
      match ← (group.splitOn '.').mapM decimalOctet? with
      | [a, b, c, d] => some [256 * a + b, 256 * c + d]
      | _ => none
    else if group.isEmpty || group.length > 4 || !group.all Text.isHexDigit then none
    else (ipv6Pieces? last rest).map (Text.hexNumber group :: ·)

def ipv6Part? (last : Bool) (text : List Char) : Option (List Nat) :=
  if text.isEmpty then some [] else ipv6Pieces? last (text.splitOn ':')

def splitGap : List Char → Option (List Char × List Char)
  | ':' :: ':' :: rest => some ([], rest)
  | c :: rest => (splitGap rest).map fun parts => (c :: parts.1, parts.2)
  | [] => none

/-- Eight pieces, some of which a double colon may leave out. -/
def ipv6? (text : List Char) : Option (List Nat) :=
  match splitGap text with
  | none => (ipv6Pieces? true (text.splitOn ':')).filter fun pieces => pieces.length = 8
  | some (before, after) => do
    let before ← ipv6Part? false before
    let after ← ipv6Part? true after
    let given := before.length + after.length
    if given < 8 then some (before ++ List.replicate (8 - given) 0 ++ after) else none

def bracketed (text : List Char) : Except UrlFault Host :=
  if text.getLast? == some ']' then
    match ipv6? text.dropLast with
    | some pieces => .ok (.ipv6 pieces)
    | none => .error .ipv6
  else .error .ipv6

def ofNetwork (text : List Char) : Except UrlFault Host :=
  match text with
  | '[' :: rest => bracketed rest
  | _ =>
    match (Percent.decodeText? text).bind Domain.ofText? with
    | none => .error .hostName
    | some [] => .error .emptyHost
    | some domain =>
      if endsInNumber domain then
        match ipv4? domain with
        | some address => .ok (.ipv4 address)
        | none => .error .ipv4
      else .ok (.name (String.ofList domain))

def ofOther (text : List Char) : Except UrlFault Host :=
  match text with
  | '[' :: rest => bracketed rest
  | _ =>
    if text.any fun c => c == '\x00' || " #/:<>?@[\\]^|".toList.contains c then
      .error .hostCharacter
    else .ok (.name (String.ofList (Percent.encode Percent.isControl text)))

def octetsText (address : Nat) : String :=
  ".".intercalate ([3, 2, 1, 0].map fun place => toString ((address >>> (8 * place)) % 256))

def pieceText (piece : Nat) : String := String.ofList (Nat.toDigits 16 piece)

def text : Host → String
  | .name text => text
  | .ipv4 address => octetsText address
  | .ipv6 pieces => "[" ++ ":".intercalate (pieces.map pieceText) ++ "]"

end Host

end NodeCanvas
