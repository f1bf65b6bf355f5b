import NodeCanvas.Json.Value

/-!
Numerals of documents. An integer that fits 64 bits, with or without a sign, is kept whole. Any
other numeral is the double of its leading digits, as many as fit 64 bits, scaled by one rounded
multiplication or division by a power of ten.
-/
namespace NodeCanvas.Json

inductive Numeral.Part where
  | sign
  | zero
  | integer
  | point
  | fraction
  | mark
  | markSign
  | power
deriving DecidableEq

structure Numeral where
  part : Numeral.Part
  negative : Bool
  /-- The leading digits that fit 64 bits. -/
  leading : Nat := 0
  /-- A digit did not fit and was skipped. -/
  full : Bool := false
  /-- The power of ten that the skipped and the fractional digits give. -/
  shift : Int := 0
  powerNegative : Bool := false
  power : Nat := 0

namespace Numeral

def start? (c : Char) : Option Numeral :=
  if c = '-' then some { part := .sign, negative := true }
  else if c = '0' then some { part := .zero, negative := false }
  else if c.isDigit then
    some { part := .integer, negative := false, leading := c.toNat - '0'.toNat }
  else none

def complete (n : Numeral) : Bool :=
  match n.part with
  | .zero | .integer | .fraction | .power => true
  | .sign | .point | .mark | .markSign => false

def fits (leading digit : Nat) : Bool := leading * 10 + digit < 1 <<< 64

def integerDigit (n : Numeral) (digit : Nat) : Numeral :=
  if n.full || !fits n.leading digit then
    { n with part := .integer, full := true, shift := n.shift + 1 }
  else
    { n with part := .integer, leading := n.leading * 10 + digit }

/-- The first fractional digit that does not fit ends the leading digits. -/
def fractionDigit (n : Numeral) (digit : Nat) : Numeral :=
  if n.full || !fits n.leading digit then { n with part := .fraction, full := true }
  else
    { n with part := .fraction, leading := n.leading * 10 + digit, shift := n.shift - 1 }

def powerDigit (n : Numeral) (digit : Nat) : Numeral :=
  { n with part := .power, power := n.power * 10 + digit }

def step? (n : Numeral) (c : Char) : Option Numeral :=
  let digit := c.toNat - '0'.toNat
  match n.part with
  | .sign =>
    if c = '0' then some { n with part := .zero }
    else if c.isDigit then some (n.integerDigit digit)
    else none
  | .zero | .integer =>
    if c.isDigit then (if n.part = .zero then none else some (n.integerDigit digit))
    else if c = '.' then some { n with part := .point, full := false }
    else if c = 'e' ∨ c = 'E' then some { n with part := .mark }
    else none
  | .point => if c.isDigit then some (n.fractionDigit digit) else none
  | .fraction =>
    if c.isDigit then some (n.fractionDigit digit)
    else if c = 'e' ∨ c = 'E' then some { n with part := .mark }
    else none
  | .mark =>
    if c = '+' then some { n with part := .markSign }
    else if c = '-' then some { n with part := .markSign, powerNegative := true }
    else if c.isDigit then some (n.powerDigit digit)
    else none
  | .markSign | .power => if c.isDigit then some (n.powerDigit digit) else none

/-- Division by a power of ten, in rounds of the largest power that is a double. -/
def shrink (d : Double) (places : Nat) : Double :=
  if d.rank = 0 then d
  else if places ≤ 308 then
    (((Double.ofDecimal false 1 places).bind d.div).getD Double.zero)
  else
    shrink (((Double.ofDecimal false 1 308).bind d.div).getD Double.zero) (places - 308)
termination_by places

/-- The leading digits scaled by a power of ten; `none` beyond the range. -/
def scaled (leading : Nat) (power : Int) : Option Double :=
  let d := Double.ofNat leading
  if power < 0 then some (shrink d power.natAbs)
  else if power ≤ 308 then (Double.ofDecimal false 1 power).bind d.mul
  else if d.rank = 0 then some d
  else none

/-- Powers of ten beyond 32 bits count as infinite. -/
def real? (n : Numeral) : Option Double :=
  let unsigned : Option Double :=
    if n.power < 1 <<< 31 then
      scaled n.leading (n.shift + if n.powerNegative then -(n.power : Int) else n.power)
    else if n.leading = 0 ∨ n.powerNegative then some Double.zero
    else none
  unsigned.map fun d => { d with negative := n.negative }

def value? (n : Numeral) : Option Number :=
  if (n.part = .zero ∨ n.part = .integer) ∧ !n.full then
    if !n.negative then some (.whole n.leading)
    else if 0 < n.leading ∧ n.leading ≤ 1 <<< 63 then some (.whole (-(n.leading : Int)))
    else some (.real { Double.ofNat n.leading with negative := true })
  else n.real?.map .real

end Numeral

end NodeCanvas.Json
