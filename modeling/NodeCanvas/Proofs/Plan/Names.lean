import Mathlib.Data.List.Forall2
import NodeCanvas.Plan.Basic

namespace NodeCanvas

namespace Text

def SameLetter (c d : Char) : Prop :=
  c = d ∨ (65 ≤ c.toNat ∧ c.toNat ≤ 90 ∧ d.toNat = c.toNat + 32) ∨
    (65 ≤ d.toNat ∧ d.toNat ≤ 90 ∧ c.toNat = d.toNat + 32)

instance (c d : Char) : Decidable (SameLetter c d) :=
  inferInstanceAs (Decidable (_ ∨ (_ ∧ _ ∧ _) ∨ (_ ∧ _ ∧ _)))

/-- The same text, the letters A to Z in either case. -/
def SameUpToCase (s t : String) : Prop := List.Forall₂ SameLetter s.toList t.toList

instance (s t : String) : Decidable (SameUpToCase s t) :=
  inferInstanceAs (Decidable (List.Forall₂ _ _ _))

theorem toLower_eq_iff {c d : Char} : c.toLower = d.toLower ↔ SameLetter c d := by
  rw [← Char.toNat_inj, toNat_toLower, toNat_toLower, SameLetter, ← Char.toNat_inj]
  split <;> split <;> omega

theorem lowerAscii_eq_iff {s t : String} : lowerAscii s = lowerAscii t ↔ SameUpToCase s t := by
  rw [lowerAscii, lowerAscii, ← String.toList_inj, String.toList_map, String.toList_map,
    ← List.forall₂_eq_eq_eq, List.forall₂_map_left_iff, List.forall₂_map_right_iff]
  simp only [toLower_eq_iff]
  rfl

end Text

namespace Rules

/-- The port that a handle names: what is left once the text at its start is cut off, if
anything is, and otherwise the one that stands for a handle that is not set. -/
inductive NamesPort (start fallback : String) : Option String → String → Prop
  | unset : NamesPort start fallback none fallback
  | cut (port : String) (h : port ≠ "") : NamesPort start fallback (some (start ++ port)) port
  | nothingLeft : NamesPort start fallback (some start) fallback
  | whole (handle : String) (h : handle ≠ "") (hstart : ∀ port, handle ≠ start ++ port) :
      NamesPort start fallback (some handle) handle
  | empty (h : start ≠ "") : NamesPort start fallback (some "") fallback

theorem portName_append (start fallback port : String) :
    portName (some (start ++ port)) start fallback = if port = "" then fallback else port := by
  have hstart : start.toList.isPrefixOf (start ++ port).toList = true := by
    rw [String.toList_append]
    exact List.isPrefixOf_iff_prefix.mpr (List.prefix_append ..)
  have hport : String.ofList ((start ++ port).toList.drop start.length) = port := by
    rw [String.toList_append, ← String.length_toList, List.drop_left, String.ofList_toList]
  rw [portName, if_pos hstart, hport]
  simp only [String.isEmpty_iff]

theorem portName_of_ne_append {start handle : String} (h : ∀ port, handle ≠ start ++ port)
    (fallback : String) :
    portName (some handle) start fallback = if handle = "" then fallback else handle := by
  have hstart : ¬ start.toList.isPrefixOf handle.toList = true := by
    intro hcut
    obtain ⟨rest, hrest⟩ := List.isPrefixOf_iff_prefix.mp hcut
    refine h (String.ofList rest) ?_
    rw [← String.toList_inj, String.toList_append, String.toList_ofList, hrest]
  rw [portName, if_neg hstart]
  simp only [String.isEmpty_iff]

theorem namesPort_iff {start fallback port : String} {handle : Option String} :
    NamesPort start fallback handle port ↔ portName handle start fallback = port := by
  constructor
  · intro h
    cases h with
    | unset => rfl
    | cut _ h => rw [portName_append, if_neg h]
    | nothingLeft =>
        have hcut := portName_append start fallback ""
        rwa [String.append_empty, if_pos rfl] at hcut
    | whole _ h hstart => rw [portName_of_ne_append hstart, if_neg h]
    | empty h =>
        refine (portName_of_ne_append ?_ fallback).trans (if_pos rfl)
        intro rest hrest
        exact h (String.append_eq_empty_iff.mp hrest.symm).1
  · rintro rfl
    cases handle with
    | none => exact .unset
    | some handle =>
        by_cases hstart : ∃ rest, handle = start ++ rest
        · obtain ⟨rest, rfl⟩ := hstart
          rw [portName_append]
          by_cases hrest : rest = ""
          · rw [if_pos hrest, hrest, String.append_empty]
            exact .nothingLeft
          · rw [if_neg hrest]
            exact .cut rest hrest
        · push Not at hstart
          rw [portName_of_ne_append hstart]
          by_cases hempty : handle = ""
          · subst hempty
            rw [if_pos rfl]
            refine .empty ?_
            rintro rfl
            exact hstart "" rfl
          · rw [if_neg hempty]
            exact .whole handle hempty hstart

end Rules

end NodeCanvas
