import Mathlib.Data.List.Forall2
import NodeCanvas.Document.Basic

namespace NodeCanvas

instance : ReflBEq Double := ⟨fun {_} => Double.beq_iff_key.mpr rfl⟩

instance : ReflBEq Number where
  rfl {n} := by
    cases n with
    | whole n => exact BEq.rfl (a := n)
    | real d => exact BEq.rfl (a := d)

namespace Json

mutual
theorem same_refl : (j : Json) → same j j = true
  | .null => rfl
  | .bool b => BEq.rfl (a := b)
  | .num n => BEq.rfl (a := n)
  | .str s => BEq.rfl (a := s)
  | .arr items => sameItems_refl items
  | .obj members => sameMembers_refl members

theorem sameItems_refl : (items : List Json) → sameItems items items = true
  | [] => rfl
  | j :: rest => by
    rw [sameItems, same_refl j, sameItems_refl rest]
    rfl

theorem sameMembers_refl : (members : List (String × Json)) → sameMembers members members = true
  | [] => rfl
  | (key, j) :: rest => by
    rw [sameMembers, same_refl j, sameMembers_refl rest, BEq.rfl]
    rfl
end

instance : ReflBEq Json := ⟨fun {j} => same_refl j⟩

theorem isNull_eq_of_same {a b : Json} (h : same a b = true) : (a == .null) = (b == .null) := by
  cases a with
  | null =>
      cases b with
      | null => rfl
      | _ => cases h
  | _ =>
      cases b with
      | null => cases h
      | _ => rfl

theorem isBlank_eq_of_same {a b : Json} (h : same a b = true) :
    isBlank (some a) = isBlank (some b) := by
  cases a with
  | null =>
      cases b with
      | null => rfl
      | _ => cases h
  | str s =>
      cases b with
      | str t =>
          obtain rfl : s = t := eq_of_beq h
          rfl
      | _ => cases h
  | arr items =>
      cases b with
      | arr others =>
          -- Equal lists are both empty or both not.
          cases items <;> cases others
          case nil.nil => rfl
          case cons.cons => rfl
          all_goals cases h
      | _ => cases h
  | _ =>
      cases b with
      | null | str _ | arr _ => cases h
      | _ => rfl

end Json

theorem beq_iff_forall₂ {α : Type} [BEq α] {as bs : List α} :
    (as == bs) = true ↔ List.Forall₂ (fun a b => (a == b) = true) as bs := by
  induction as generalizing bs with
  | nil => cases bs <;> simp
  | cons a as ih => cases bs <;> simp [ih]

namespace Dict

variable {κ α : Type} [OrderedKey κ] [BEq κ] [LawfulBEq κ] [BEq α]

instance [ReflBEq α] : ReflBEq (Dict κ α) := ⟨fun {d} => BEq.rfl (a := d.entries)⟩

/-- Entries with one key and equal values. -/
def SameEntry (x y : κ × α) : Prop := x.1 = y.1 ∧ (x.2 == y.2) = true

theorem beq_iff {d e : Dict κ α} :
    (d == e) = true ↔ List.Forall₂ SameEntry d.entries e.entries := by
  have hentry : (fun x y : κ × α => (x == y) = true) = SameEntry := by
    funext x y
    exact propext (Bool.and_eq_true_iff.trans (and_congr_left' beq_iff_eq))
  rw [← hentry]
  exact beq_iff_forall₂

omit [BEq κ] [LawfulBEq κ] in
theorem sameEntry_put {entries others : List (κ × α)} (h : List.Forall₂ SameEntry entries others)
    (key : κ) {value other : α} (hvalue : (value == other) = true) :
    List.Forall₂ SameEntry (Ascending.put key value entries)
      (Ascending.put key other others) := by
  induction h with
  | nil => exact .cons ⟨rfl, hvalue⟩ .nil
  | @cons x y _ _ hhead hrest ih =>
      obtain ⟨name, held⟩ := x
      obtain ⟨_, found⟩ := y
      obtain ⟨rfl, hheld⟩ := hhead
      simp only [Ascending.put]
      split
      · exact .cons ⟨rfl, hvalue⟩ (.cons ⟨rfl, hheld⟩ hrest)
      · exact .cons ⟨rfl, hvalue⟩ hrest
      · exact .cons ⟨rfl, hheld⟩ ih

omit [BEq κ] [LawfulBEq κ] in
theorem find?_beq {entries others : List (κ × α)} (h : List.Forall₂ SameEntry entries others)
    (key : κ) : (Ascending.find? key entries == Ascending.find? key others) = true := by
  induction h with
  | nil => rfl
  | @cons x y _ _ hhead _ ih =>
      obtain ⟨name, held⟩ := x
      obtain ⟨_, found⟩ := y
      obtain ⟨rfl, hheld⟩ := hhead
      simp only [Ascending.find?]
      split
      · exact hheld
      · exact ih

theorem insert_beq {d e : Dict κ α} (h : (d == e) = true) (key : κ) {value other : α}
    (hvalue : (value == other) = true) : (d.insert key value == e.insert key other) = true :=
  beq_iff.mpr (sameEntry_put (beq_iff.mp h) key hvalue)

theorem get?_beq {d e : Dict κ α} (h : (d == e) = true) (key : κ) :
    (d.get? key == e.get? key) = true :=
  find?_beq (beq_iff.mp h) key

theorem values_beq {d e : Dict κ α} (h : (d == e) = true) :
    List.Forall₂ (fun a b => (a == b) = true) d.values e.values := by
  rw [values, values, List.forall₂_map_left_iff, List.forall₂_map_right_iff]
  exact (beq_iff.mp h).imp fun _ _ hentry => hentry.2

end Dict

deriving instance ReflBEq for Parameter, Annotations

end NodeCanvas
