import NodeCanvas.CharSet.Basic

/-!
The characters of a set as rows of octets in UTF-8. A range of characters becomes rows of ranges of
octets: a character is in the range when each of its octets is in the octet range at its place of
one of the rows. The rows ascend, and they are as few as this allows.
-/
namespace NodeCanvas.Pattern

structure OctetRange where
  low : Nat
  high : Nat
deriving DecidableEq

def OctetRange.following : OctetRange := ⟨0x80, 0xBF⟩

/-- The rows of the codes from one to another that have one octet more than `more`; `mark` is what
the first octet has beside the bits of the code. -/
def rowsBetween (mark : Nat) : Nat → Nat → Nat → List (List OctetRange)
  | 0, low, high => [[⟨mark + low, mark + high⟩]]
  | more + 1, low, high =>
    let unit := 1 <<< (6 * (more + 1))
    let first := low / unit
    let last := high / unit
    let rowsFrom (lead low high : Nat) : List (List OctetRange) :=
      (rowsBetween 0x80 more low high).map (⟨mark + lead, mark + lead⟩ :: ·)
    if first = last then rowsFrom first (low % unit) (high % unit)
    else
      let partialLow := low % unit ≠ 0
      let partialHigh := high % unit ≠ unit - 1
      let firstFull := if partialLow then first + 1 else first
      let beyondFull := if partialHigh then last else last + 1
      let full : List (List OctetRange) :=
        if firstFull < beyondFull then
          [⟨mark + firstFull, mark + (beyondFull - 1)⟩
            :: List.replicate (more + 1) OctetRange.following]
        else []
      (if partialLow then rowsFrom first (low % unit) (unit - 1) else []) ++ full
        ++ (if partialHigh then rowsFrom last 0 (high % unit) else [])

/-- The codes with as many octets: the first and the last of them, how many octets follow the first
one, and what marks the first one. Surrogates are left out. -/
def codeBlocks : List (Nat × Nat × Nat × Nat) := [
  (0x0, 0x7F, 0, 0), (0x80, 0x7FF, 1, 0xC0), (0x800, 0xD7FF, 2, 0xE0), (0xE000, 0xFFFF, 2, 0xE0),
  (0x10000, 0x10FFFF, 3, 0xF0)]

def rowsOfRange (range : Nat × Nat) : List (List OctetRange) :=
  codeBlocks.flatMap fun (first, last, more, mark) =>
    let low := max first range.1
    let high := min last range.2
    if low ≤ high then rowsBetween mark more low high else []

end NodeCanvas.Pattern

def NodeCanvas.CharSet.octetRows (s : CharSet) : List (List Pattern.OctetRange) :=
  s.ranges.flatMap Pattern.rowsOfRange
