namespace NodeCanvas

structure CharSet where
  ranges : List (Nat × Nat)
deriving DecidableEq

namespace CharSet

def lastCode : Nat := 0x10FFFF

def inRanges (code : Nat) : List (Nat × Nat) → Bool
  | [] => false
  | (low, high) :: rest => if high < code then inRanges code rest else low ≤ code

def hasCode (s : CharSet) (code : Nat) : Bool := inRanges code s.ranges

def contains (s : CharSet) (c : Char) : Bool := s.hasCode c.toNat

def empty : CharSet := ⟨[]⟩

def all : CharSet := ⟨[(0, lastCode)]⟩

/-- Ranges in ascending order of their starts with those that touch made one. -/
private def join (current : Nat × Nat) : List (Nat × Nat) → List (Nat × Nat)
  | [] => [current]
  | next :: rest =>
    if next.1 ≤ current.2 + 1 then join (current.1, max current.2 next.2) rest
    else current :: join next rest

def ofRanges (ranges : List (Nat × Nat)) : CharSet :=
  match ranges.mergeSort fun a b => a.1 ≤ b.1 with
  | [] => empty
  | first :: rest => ⟨join first rest⟩

def ofRange (first last : Char) : CharSet := ⟨[(first.toNat, last.toNat)]⟩

def singleton (c : Char) : CharSet := ofRange c c

def union (a b : CharSet) : CharSet := ofRanges (a.ranges ++ b.ranges)

private def gaps (start : Nat) : List (Nat × Nat) → List (Nat × Nat)
  | [] => if start ≤ lastCode then [(start, lastCode)] else []
  | (low, high) :: rest =>
    if start < low then (start, low - 1) :: gaps (high + 1) rest else gaps (high + 1) rest

def complement (s : CharSet) : CharSet := ⟨gaps 0 s.ranges⟩

def inter (a b : CharSet) : CharSet := (a.complement.union b.complement).complement

def diff (a b : CharSet) : CharSet := a.inter b.complement

def symmDiff (a b : CharSet) : CharSet := (a.diff b).union (b.diff a)

def ofText (text : String) : CharSet :=
  ofRanges (text.toList.map fun c => (c.toNat, c.toNat))

def isAscii (s : CharSet) : Bool := s.ranges.all fun range => range.2 < 0x80

/-- The codes of surrogates, which are no characters. -/
def surrogates : CharSet := ⟨[(0xD800, 0xDFFF)]⟩

/-- The member of a set that has no other one. -/
def only? (s : CharSet) : Option Char :=
  match s.ranges with
  | [(low, high)] => if low = high then some (Char.ofNat low) else none
  | _ => none

end CharSet

end NodeCanvas
