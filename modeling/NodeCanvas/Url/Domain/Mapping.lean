import NodeCanvas.Character.Added
import NodeCanvas.Character.Written
import NodeCanvas.Url.Domain.MappingTable
import Std.Data.HashMap

namespace NodeCanvas.Domain

def mappings : Std.HashMap Nat (List Char) := .ofList (Character.pairsOfWritten mappingTable)

def leftOut : CharSet := .ofWritten [
  "AD 34F 115F-1160 17B4-17B5 180B-180F 200B 2060-2064 206A-206F 3164 FE00-FE0F FEFF FFA0",
  "1BCA0-1BCA3 1D173-1D17A E0100-E01EF"]

/-- Characters of which no name is made: those that are not assigned, and some others. -/
def refused : CharSet :=
  ((Character.assigned.union Character.addedAssigned).complement).union (.ofWritten [
    "80-9F 600-605 61C 6DD 70F 890-891 8E2 1680 200E-200F 2024-2026 2028-202E 2066-2069 2488-249B",
    "2FF0-2FFF 31EF 33C2 33C7 33D8 D800-F8FF FE12 FE19 FE30 FE52 FFF9-FFFD 110BD 110CD 13430-1343F",
    "1F100 E0001 E0020-E007F F0000-FFFFD 100000-10FFFD"])

def mapped? (c : Char) : Option (List Char) :=
  if c.toNat < 0x80 then some [c.toLower]
  else if leftOut.contains c then some []
  else
    match mappings[c.toNat]? with
    | some text => some text
    | none => if refused.contains c then none else some [c]

def mappedText? (text : List Char) : Option (List Char) := (text.mapM mapped?).map List.flatten

end NodeCanvas.Domain
