/-!
Finite double-precision numbers. The finite magnitudes are counted upward from zero, so that
order and equality of values are order and equality of integers, and rounding a quotient is a
choice between two neighbours of that count.
-/
namespace NodeCanvas

/-- A finite double: its sign, and the place of its magnitude among all finite magnitudes. -/
structure Double where
  negative : Bool
  rank : Nat
  rank_lt : rank < 2047 <<< 52
deriving DecidableEq

namespace Double

/-- The two zeros have one key; otherwise a key belongs to one double. -/
def key (d : Double) : Int :=
  if d.negative then -(d.rank : Int) else d.rank

instance : BEq Double := ⟨fun a b => a.key == b.key⟩

theorem beq_iff_key {a b : Double} : (a == b) = true ↔ a.key = b.key := by
  simp [BEq.beq]

def zero : Double := ⟨false, 0, by decide⟩

instance : Inhabited Double := ⟨zero⟩

/-- The magnitude is `significand * 2 ^ exponent`. -/
def significand (d : Double) : Nat :=
  if d.rank < 1 <<< 52 then d.rank else (1 <<< 52) + d.rank % (1 <<< 52)

def exponent (d : Double) : Int :=
  if d.rank < 1 <<< 52 then -1074 else (d.rank >>> 52 : Nat) - 1075

def magnitude (d : Double) : Nat × Nat :=
  if 0 ≤ d.exponent then
    (d.significand <<< d.exponent.toNat, 1)
  else
    (d.significand, 1 <<< (-d.exponent).toNat)

/-- The quotient to the nearest whole number, a half to the even neighbour. -/
def roundHalfEven (num den : Nat) : Nat :=
  let q := num / den
  let twice := 2 * (num % den)
  if twice < den then q
  else if den < twice then q + 1
  else q + q % 2

/-- The exponent at which the nearest double of `num / den` has its last binary place. -/
def lastPlace (num den : Nat) : Int :=
  let guess : Int := (Nat.log2 num : Int) - Nat.log2 den - 53
  let scaled : Nat :=
    if 0 ≤ guess then num / (den <<< guess.toNat) else (num <<< (-guess).toNat) / den
  if num = 0 then -1074 else max (-1074) (if 1 <<< 53 ≤ scaled then guess + 1 else guess)

/-- The double of a sign and a rank; `none` beyond the range. -/
def ofRank (negative : Bool) (rank : Nat) : Option Double :=
  if h : rank < 2047 <<< 52 then some ⟨negative, rank, h⟩ else none

/-- The double nearest to `num / den`, a half to the even neighbour; `none` beyond the range. -/
def ofRatio (negative : Bool) (num den : Nat) : Option Double :=
  let place := lastPlace num den
  let steps :=
    if 0 ≤ place then roundHalfEven num (den <<< place.toNat)
    else roundHalfEven (num <<< (-place).toNat) den
  ofRank negative (((place + 1074).toNat <<< 52) + steps)

def largest (negative : Bool) : Double := ⟨negative, (2047 <<< 52) - 1, by decide⟩

def ofInt (n : Int) : Double :=
  (ofRatio (decide (n < 0)) n.natAbs 1).getD (largest (decide (n < 0)))

def ofNat (n : Nat) : Double := ofInt n

def mul (a b : Double) : Option Double :=
  let (an, ad) := a.magnitude
  let (bn, bd) := b.magnitude
  ofRatio (a.negative != b.negative) (an * bn) (ad * bd)

/-- The rounded quotient; `none` beyond the range and for a zero divisor. -/
def div (a b : Double) : Option Double :=
  let (an, ad) := a.magnitude
  let (bn, bd) := b.magnitude
  if bn = 0 then none
  else ofRatio (a.negative != b.negative) (an * bd) (ad * bn)

def toInt? (d : Double) : Option Int :=
  let (num, den) := d.magnitude
  if num % den = 0 then
    some (if d.negative then -((num / den : Nat) : Int) else (num / den : Nat))
  else
    none

def ofDecimal (negative : Bool) (digits : Nat) (exponent : Int) : Option Double :=
  let size : Int := (Nat.toDigits 10 digits).length + exponent
  if digits = 0 ∨ size < -400 then some ⟨negative, 0, by decide⟩
  else if 400 < size then none
  else if 0 ≤ exponent then ofRatio negative (digits * Nat.pow 10 exponent.toNat) 1
  else ofRatio negative digits (Nat.pow 10 (-exponent).toNat)

end Double

end NodeCanvas
