import NodeCanvas.NodeType.Written

namespace NodeCanvas

structure ChoiceKey where
  family : String
  selector : Option String := none
deriving DecidableEq

namespace ChoiceKey

instance : Ord ChoiceKey := ⟨compareLex (compareOn family) (compareOn selector)⟩

instance : Std.TransOrd ChoiceKey :=
  inferInstanceAs (Std.TransCmp (compareLex (compareOn family) (compareOn selector)))

theorem eq_of_compare {a b : ChoiceKey} (h : compare a b = .eq) : a = b := by
  have h : (compareOn family a b).then (compareOn selector a b) = .eq := h
  rw [Ordering.then_eq_eq] at h
  obtain ⟨hf, hs⟩ := h
  cases a
  cases b
  cases Std.LawfulEqCmp.eq_of_compare (show compare _ _ = .eq from hf)
  cases Std.LawfulEqCmp.eq_of_compare (show compare _ _ = .eq from hs)
  rfl

instance : Std.LawfulEqOrd ChoiceKey where
  eq_of_compare := eq_of_compare

instance : OrderedKey ChoiceKey where

def independent (family : String) : ChoiceKey := { family }

def dependent (family value : String) : ChoiceKey := { family, selector := some value }

def display (k : ChoiceKey) : String :=
  match k.selector with
  | some value => k.family ++ "_" ++ value
  | none => k.family

def fieldNames : List String := ["family", "dependent_value"]

def ofSource? (s : Source) : Option ChoiceKey := do
  let f ← s.fields? fieldNames
  return {
    family := ← f.required? "family" Source.text?
    selector := ← f.optional? "dependent_value" Source.text?
  }

def toJson (k : ChoiceKey) : Json := .record [
  Json.member "family" (.str k.family),
  Json.memberIf? "dependent_value" k.selector .str]

instance : Written ChoiceKey := ⟨ofSource?, toJson⟩

end ChoiceKey

end NodeCanvas
