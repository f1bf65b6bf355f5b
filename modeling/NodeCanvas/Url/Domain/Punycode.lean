/-!
Labels of a domain name in ASCII. Such a label has the ASCII characters first, and after a hyphen
where the others are to be put in, one after the other by ascending code. What is written for each
is the number of places that are passed on the way, going through the text again for every code in
between. A number has digits of growing weight up to the first digit below a threshold, and the
thresholds adapt to the numbers.
-/
namespace NodeCanvas.Domain.Punycode

def numberLimit : Nat := 1 <<< 32

/-- The threshold of the digit at a position, which positions count in steps of 36. -/
def threshold (bias position : Nat) : Nat := max 1 (min 26 (position - bias))

theorem one_le_threshold (bias position : Nat) : 1 ≤ threshold bias position := Nat.le_max_left _ _

def digit? (c : Char) : Option Nat :=
  if c.isAlpha then some (c.toLower.toNat - 'a'.toNat)
  else if c.isDigit then some (c.toNat - '0'.toNat + 26)
  else none

def digitChar (digit : Nat) : Char :=
  if digit < 26 then Char.ofNat ('a'.toNat + digit) else Char.ofNat ('0'.toNat + (digit - 26))

/-- A number with its halvings by 35 until it is small, and 36 for each of them. -/
def scaled (delta steps : Nat) : Nat × Nat :=
  if 455 < delta then scaled (delta / 35) (steps + 36) else (delta, steps)
termination_by delta
decreasing_by exact Nat.div_lt_self (by omega) (by omega)

def adapted (delta count : Nat) (isFirst : Bool) : Nat :=
  let delta := if isFirst then delta / 700 else delta / 2
  let (delta, steps) := scaled (delta + delta / count) 0
  steps + 36 * delta / (delta + 38)

def number? (bias : Nat) : List Char → Nat → Nat → Option (Nat × List Char)
  | [], _, _ => none
  | c :: rest, position, weight => do
    let digit ← digit? c
    let value := digit * weight
    if digit < threshold bias position then return (value, rest)
    let weight := weight * (36 - threshold bias position)
    guard (value < numberLimit ∧ weight < numberLimit)
    let (more, rest) ← number? bias rest (position + 36) weight
    return (value + more, rest)

/-- Put characters into a text as the numbers that follow tell: the place and the code of the last
one are given, and how many numbers there are at most. -/
def insertFrom (bias place code : Nat) (text : List Char) : Nat → List Char → Option (List Char)
  | _, [] => some text
  | 0, _ :: _ => none
  | fuel + 1, digits => do
    let (delta, rest) ← number? bias digits 36 1
    let passed := place + delta
    let count := text.length + 1
    let code := code + passed / count
    guard (passed < numberLimit ∧ code.isValidChar)
    insertFrom (adapted delta count (place = 0)) (passed % count + 1) code
      (text.insertIdx (passed % count) (Char.ofNat code)) fuel rest

/-- The ASCII characters of a label in ASCII, and the numbers after the last hyphen. A hyphen before
everything else is none. -/
def splitLast (label : List Char) : List Char × List Char :=
  let digits := (label.reverse.takeWhile (· ≠ '-')).reverse
  let before := label.take (label.length - digits.length)
  if before.length < 2 then ([], label) else (before.dropLast, digits)

def decode? (label : List Char) : Option (List Char) :=
  let (text, digits) := splitLast label
  insertFrom 72 0 0x80 (text.map Char.toLower) digits.length digits

def digitsOf (bias position n : Nat) : List Char :=
  let t := threshold bias position
  if n < t then [digitChar n]
  else digitChar (t + (n - t) % (36 - t)) :: digitsOf bias (position + 36) ((n - t) / (36 - t))
termination_by n
decreasing_by
  have := one_le_threshold bias position
  exact Nat.lt_of_le_of_lt (Nat.div_le_self _ _) (by omega)

/-- What was written so far: how many places were passed since the last number, and how many
characters are in place. -/
structure Writing where
  digits : List Char := []
  delta : Nat := 0
  bias : Nat := 72
  done : Nat

/-- Go past a place of the text, or write how far away it is if its character comes next. -/
def Writing.pass (ascii code : Nat) (w : Writing) (c : Char) : Writing :=
  if c.toNat < code then { w with delta := w.delta + 1 }
  else if c.toNat = code then {
    digits := w.digits ++ digitsOf w.bias 36 w.delta
    bias := adapted w.delta (w.done + 1) (w.done = ascii)
    done := w.done + 1 }
  else w

/-- A label in ASCII, where all of its ASCII characters are lower case. -/
def encode (label : List Char) : List Char :=
  let ascii := label.filter fun c => c.toNat < 0x80
  let codes := ((label.map Char.toNat).filter (0x80 ≤ ·)).mergeSort.eraseDups
  let (w, _) := codes.foldl (fun ((w, next) : Writing × Nat) code =>
    let w := { w with delta := w.delta + (code - next) * (w.done + 1) }
    let w := label.foldl (Writing.pass ascii.length code) w
    ({ w with delta := w.delta + 1 }, code + 1)) ({ done := ascii.length }, 0x80)
  ascii ++ (if ascii.isEmpty then [] else ['-']) ++ w.digits

end NodeCanvas.Domain.Punycode
