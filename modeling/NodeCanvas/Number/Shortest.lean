import NodeCanvas.Number.Double

namespace NodeCanvas

structure Decimal where
  digits : Nat
  exponent : Int
deriving DecidableEq, Repr

namespace Decimal

/-- Trailing zeros moved into the exponent, at most `fuel` of them. -/
def trimZeros : Nat → Decimal → Decimal
  | 0, d => d
  | fuel + 1, d =>
    if d.digits ≠ 0 ∧ d.digits % 10 = 0 then
      trimZeros fuel ⟨d.digits / 10, d.exponent + 1⟩
    else d

end Decimal

/-- Which neighbour is taken when two are equally near. -/
inductive Tie where
  | even
  | up
deriving DecidableEq

namespace Double

/-- The power of ten of the leading decimal digit of `num / den`. -/
def leadingPlace (num den : Nat) : Int :=
  if den ≤ num then
    ((Nat.toDigits 10 (num / den)).length : Int) - 1
  else
    let places := (Nat.toDigits 10 (den / num)).length
    if den ≤ num * Nat.pow 10 (places - 1) then 1 - (places : Int) else -(places : Int)

/-- The reals that read back as one double, in quarters of its last binary place. -/
structure Rounding where
  value : Nat
  below : Nat
  above : Nat
  /-- The ends themselves read back. -/
  closed : Bool

def rounding (d : Double) : Rounding where
  value := 4 * d.significand
  below :=
    if d.significand = 1 <<< 52 ∧ d.exponent > -1074 then 4 * d.significand - 1
    else 4 * d.significand - 2
  above := 4 * d.significand + 2
  closed := d.significand % 2 = 0

/-- A quarter of the last binary place and a decimal place, as multiples of one unit. -/
def commonUnits (d : Double) (place : Int) : Nat × Nat :=
  let quarter := d.exponent - 2
  (Nat.pow 10 (-place).toNat <<< quarter.toNat, Nat.pow 10 place.toNat <<< (-quarter).toNat)

/-- The multiple of `10 ^ place` nearest to the magnitude among those that read back. -/
def onGrid? (d : Double) (tie : Tie) (place : Int) : Option Nat :=
  let (quarter, step) := d.commonUnits place
  let r := d.rounding
  let readsBack (n : Nat) : Bool :=
    if r.closed then r.below * quarter ≤ n * step ∧ n * step ≤ r.above * quarter
    else r.below * quarter < n * step ∧ n * step < r.above * quarter
  let low := r.value * quarter / step
  let twice := 2 * (r.value * quarter % step)
  let preferHigh : Bool :=
    step < twice || (step == twice && (tie == .up || low % 2 == 1))
  match readsBack low, readsBack (low + 1) with
  | true, true => some (if preferHigh then low + 1 else low)
  | true, false => some low
  | false, true => some (low + 1)
  | false, false => none

/-- The fewest digits that read back, 17 always being enough. -/
def shortest (d : Double) (tie : Tie) : Decimal :=
  if d.rank = 0 then ⟨0, 0⟩
  else
    let lead := leadingPlace d.magnitude.1 d.magnitude.2
    let found := (List.range 17).findSome? fun (k : Nat) =>
      (d.onGrid? tie (lead - k)).map fun n => Decimal.mk n (lead - k)
    (found.getD ⟨0, 0⟩).trimZeros 20

end Double

structure NumberLayout where
  tie : Tie
  /-- Positional notation is used when the leading digit's power of ten is in these bounds;
  without bounds it always is. -/
  positional : Option (Int × Int)
  /-- What follows a whole number in positional notation. -/
  wholeMark : String

namespace NumberLayout

/-- Documents write a point in every number that is not an integer, and an exponent with its
sign below `1e-5` and from `1e16` on. -/
def document : NumberLayout := ⟨.even, some (-5, 15), ".0"⟩

/-- Messages never use an exponent and end whole numbers without a point. -/
def message : NumberLayout := ⟨.up, none, ""⟩

def zeros (n : Nat) : String := "".pushn '0' n

def positionalText (wholeMark digits : String) (exponent : Int) : String :=
  if 0 ≤ exponent then digits ++ zeros exponent.toNat ++ wholeMark
  else
    let places := (-exponent).toNat
    let padded := zeros (places + 1 - digits.length) ++ digits
    String.ofList (padded.toList.take (padded.length - places)) ++ "."
      ++ String.ofList (padded.toList.drop (padded.length - places))

def scientificText (digits : String) (lead : Int) : String :=
  let mantissa := match digits.toList with
    | first :: second :: rest => String.ofList (first :: '.' :: second :: rest)
    | _ => digits
  mantissa ++ "e" ++ (if lead < 0 then "-" else "+") ++ toString lead.natAbs

def render (layout : NumberLayout) (d : Double) : String :=
  let decimal := d.shortest layout.tie
  let digits := toString decimal.digits
  let lead : Int := digits.length - 1 + decimal.exponent
  let sign := if d.negative then "-" else ""
  let unsigned := match layout.positional with
    | none => positionalText layout.wholeMark digits decimal.exponent
    | some (low, high) =>
      if low ≤ lead ∧ lead ≤ high then
        positionalText layout.wholeMark digits decimal.exponent
      else scientificText digits lead
  sign ++ unsigned

end NumberLayout

end NodeCanvas
