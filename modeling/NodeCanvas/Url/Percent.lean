import NodeCanvas.Text.Hex

namespace NodeCanvas.Percent

def encodeOctet (octet : UInt8) : List Char :=
  ['%', (Text.hexDigit (octet.toNat / 16)).toUpper, (Text.hexDigit (octet.toNat % 16)).toUpper]

def encode (written : Char → Bool) (text : List Char) : List Char :=
  text.flatMap fun c => if written c then (String.utf8EncodeChar c).flatMap encodeOctet else [c]

/-- The octets of a text; a percent sign without two digits behind it stands for itself. -/
def decode : List Char → List UInt8
  | [] => []
  | '%' :: high :: low :: rest =>
    match Text.hexValue? high, Text.hexValue? low with
    | some high, some low => UInt8.ofNat (16 * high + low) :: decode rest
    | _, _ => String.utf8EncodeChar '%' ++ decode (high :: low :: rest)
  | c :: rest => String.utf8EncodeChar c ++ decode rest

def decodeText? (text : List Char) : Option (List Char) :=
  (String.fromUTF8? ⟨(decode text).toArray⟩).map String.toList

def isControl (c : Char) : Bool := c.toNat < 0x20 || 0x7E < c.toNat

def inQuery (c : Char) : Bool := isControl c || " \"#<>".toList.contains c

def inPath (c : Char) : Bool := inQuery c || "?`\x7b\x7d".toList.contains c

/-- Characters that would end a segment of a path or change its meaning. -/
def inSegment (c : Char) : Bool := inPath c || c == '/' || c == '%'

def inLogin (c : Char) : Bool := inPath c || "/:;=@[\\]^|".toList.contains c

end NodeCanvas.Percent
