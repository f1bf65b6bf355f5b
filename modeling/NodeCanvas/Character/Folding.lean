import NodeCanvas.Character.Added
import NodeCanvas.Text.CaseTable

namespace NodeCanvas.Character

/-- Characters that are written like another one in some case, and that other one. -/
def caseVariants : List (Nat × Nat) := [
  (0xB5, 0x3BC), (0x17F, 0x73), (0x345, 0x3B9), (0x3C2, 0x3C3), (0x3D0, 0x3B2), (0x3D1, 0x3B8),
  (0x3D5, 0x3C6), (0x3D6, 0x3C0), (0x3F0, 0x3BA), (0x3F1, 0x3C1), (0x3F5, 0x3B5),
  (0x1C5, 0x1C6), (0x1C8, 0x1C9), (0x1CB, 0x1CC), (0x1F2, 0x1F3),
  (0x1C80, 0x432), (0x1C81, 0x434), (0x1C82, 0x43E), (0x1C83, 0x441), (0x1C84, 0x442),
  (0x1C85, 0x442), (0x1C86, 0x44A), (0x1C87, 0x463), (0x1C88, 0xA64B), (0x1E9B, 0x1E61),
  (0x1FBE, 0x3B9), (0x1FD3, 0x390), (0x1FE3, 0x3B0), (0xFB05, 0xFB06)]

def runPairs (run : Nat × Nat × Nat × Int) : List (Nat × Nat) :=
  let (low, high, gap, distance) := run
  (CharSet.runCodes low high gap).map fun code => (code, ((code : Int) + distance).toNat)

def lowerPairs : List (Nat × Nat) :=
  (Text.lowerRuns.flatMap runPairs).filter fun pair =>
    !addedAssigned.hasCode pair.1 && !addedAssigned.hasCode pair.2

/-- All pairs of a character and the one that stands for it when case is ignored. -/
def casePairs : List (Nat × Nat) := lowerPairs ++ caseVariants

def changesWhenLowercased : CharSet :=
  .ofRanges ((0x130, 0x130) :: lowerPairs.map fun pair => (pair.1, pair.1))

end NodeCanvas.Character

namespace NodeCanvas.CharSet

/-- The set with all characters that differ from one of its members in case only. -/
def ignoringCase (s : CharSet) : CharSet :=
  let stand := Character.casePairs.filterMap fun pair =>
    if s.hasCode pair.1 then some (pair.2, pair.2) else none
  let withStand := ofRanges (s.ranges ++ stand)
  let variants := Character.casePairs.filterMap fun pair =>
    if withStand.hasCode pair.2 then some (pair.1, pair.1) else none
  ofRanges (withStand.ranges ++ variants)

def ignoringAsciiCase (s : CharSet) : CharSet :=
  let lower := s.inter ⟨[(0x61, 0x7A)]⟩
  let upper := s.inter ⟨[(0x41, 0x5A)]⟩
  ofRanges (s.ranges ++ lower.ranges.map (fun r => (r.1 - 32, r.2 - 32))
    ++ upper.ranges.map fun r => (r.1 + 32, r.2 + 32))

end NodeCanvas.CharSet
