import NodeCanvas.Number.Double

namespace NodeCanvas

inductive Binary64 where
  | finite (d : Double)
  | infinite (negative : Bool)
  | nan
deriving DecidableEq

/-- Why the program stops in the middle of a call: the ends of a range are not in order, or one of
them is no number. -/
inductive Halt where
  | noRange
deriving DecidableEq

namespace Binary64

/-- The rank of an infinite magnitude, next to that of the largest finite one. -/
def infiniteRank : Nat := 2047 <<< 52

/-- The place in the order of numbers; what is no number has none. -/
def key? : Binary64 → Option Int
  | .finite d => some d.key
  | .infinite negative => some (if negative then -(infiniteRank : Int) else infiniteRank)
  | .nan => none

/-- Equality of values: the two zeros are equal, and what is no number is not even equal to
itself. -/
instance : BEq Binary64 := ⟨fun a b => a.key?.isSome && a.key? == b.key?⟩

instance : LT Binary64 := ⟨fun a b => ∃ x ∈ a.key?, ∃ y ∈ b.key?, x < y⟩

instance : LE Binary64 := ⟨fun a b => ∃ x ∈ a.key?, ∃ y ∈ b.key?, x ≤ y⟩

instance (a b : Binary64) : Decidable (a < b) :=
  inferInstanceAs (Decidable (∃ x ∈ a.key?, ∃ y ∈ b.key?, x < y))

instance (a b : Binary64) : Decidable (a ≤ b) :=
  inferInstanceAs (Decidable (∃ x ∈ a.key?, ∃ y ∈ b.key?, x ≤ y))

theorem lt_iff {a b : Binary64} {x y : Int} (ha : a.key? = some x) (hb : b.key? = some y) :
    a < b ↔ x < y := by
  show (∃ x ∈ a.key?, ∃ y ∈ b.key?, x < y) ↔ x < y
  simp [ha, hb]

theorem le_iff {a b : Binary64} {x y : Int} (ha : a.key? = some x) (hb : b.key? = some y) :
    a ≤ b ↔ x ≤ y := by
  show (∃ x ∈ a.key?, ∃ y ∈ b.key?, x ≤ y) ↔ x ≤ y
  simp [ha, hb]

def isFinite : Binary64 → Bool
  | .finite _ => true
  | _ => false

def finiteOr (a default : Binary64) : Binary64 := if a.isFinite then a else default

def zero : Binary64 := .finite .zero

def ofInt (n : Int) : Binary64 := .finite (.ofInt n)

/-- The larger number; of two of which one is no number, the other. -/
def max (a b : Binary64) : Binary64 := if b < a ∨ b = .nan then a else b

/-- The number itself inside the bounds, else the bound it passed. -/
def clamp (d low high : Binary64) : Except Halt Binary64 :=
  if low ≤ high then
    let raised := if d < low then low else d
    .ok (if high < raised then high else raised)
  else .error .noRange

end Binary64

end NodeCanvas
