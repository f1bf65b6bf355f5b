import NodeCanvas.Number.Double

namespace NodeCanvas.Double

def digitsValue (digits : List Char) : Nat :=
  digits.foldl (fun n c => n * 10 + (c.toNat - '0'.toNat)) 0

/-- The power of ten after its mark: a sign and at least one digit. -/
def powerOfText? (text : List Char) : Option Int :=
  let (negative, digits) := match text with
    | '-' :: rest => (true, rest)
    | '+' :: rest => (false, rest)
    | _ => (false, text)
  if digits.isEmpty ∨ !digits.all Char.isDigit then none
  else some (if negative then -(digitsValue digits : Int) else digitsValue digits)

/-- The digits before and after a point, of which there is at least one, and the power of ten. -/
def magnitudeOfText? (text : List Char) : Option (Nat × Int) :=
  let whole := text.takeWhile Char.isDigit
  let (places, rest) := match text.dropWhile Char.isDigit with
    | '.' :: rest => (rest.takeWhile Char.isDigit, rest.dropWhile Char.isDigit)
    | rest => ([], rest)
  let power? := match rest with
    | [] => some 0
    | mark :: rest => if mark = 'e' ∨ mark = 'E' then powerOfText? rest else none
  if whole.isEmpty ∧ places.isEmpty then none
  else power?.map fun power => (digitsValue (whole ++ places), power - places.length)

/-- The double that a text names; `none` for a text that names none and beyond the range. -/
def ofText? (text : List Char) : Option Double :=
  let (negative, rest) := match text with
    | '-' :: rest => (true, rest)
    | '+' :: rest => (false, rest)
    | _ => (false, text)
  (magnitudeOfText? rest).bind fun (digits, power) => ofDecimal negative digits power

end NodeCanvas.Double
