import NodeCanvas.Proofs.Form.Storing
import NodeCanvas.Proofs.Json.Lexing
import NodeCanvas.Proofs.NodeType.Rereading

namespace NodeCanvas

open Json (slots kept)

namespace Json

mutual
def decideFits : (j : Json) → Decidable j.Fits
  | .null | .bool _ | .str _ | .num (.real _) => .isTrue trivial
  | .num (.whole n) => inferInstanceAs (Decidable (-2 ^ 63 ≤ n ∧ n < 2 ^ 64))
  | .arr items => decideItemsFit items
  | .obj members => decideMembersFit members

def decideItemsFit : (items : List Json) → Decidable (ItemsFit items)
  | [] => .isTrue trivial
  | item :: rest => @instDecidableAnd _ _ (decideFits item) (decideItemsFit rest)

def decideMembersFit : (members : List (String × Json)) → Decidable (MembersFit members)
  | [] => .isTrue trivial
  | member :: rest => @instDecidableAnd _ _ (decideFits member.2) (decideMembersFit rest)
end

instance (j : Json) : Decidable j.Fits := decideFits j

@[simp] theorem fits_null : null.Fits := trivial

@[simp] theorem fits_str (s : String) : (str s).Fits := trivial

@[simp] theorem fits_double (d : Binary64) : (double d).Fits := by
  cases d <;> trivial

theorem fits_arr (items : List Json) : (arr items).Fits ↔ ∀ item ∈ items, item.Fits := by
  rw [Fits]
  induction items with
  | nil => simp [ItemsFit]
  | cons item rest ih => rw [ItemsFit, ih, List.forall_mem_cons]

theorem fits_obj (members : List (String × Json)) :
    (obj members).Fits ↔ ∀ member ∈ members, member.2.Fits := by
  rw [Fits]
  induction members with
  | nil => simp [MembersFit]
  | cons member rest ih => rw [MembersFit, ih, List.forall_mem_cons]

section Records

variable {names : List String} {values : List (Option Json)}

theorem fits_record (hlength : values.length = names.length) (extra : Dict String Json) :
    (record (slots names values ++ kept extra)).Fits ↔
      (∀ value ∈ values, ∀ v, value = some v → v.Fits) ∧ extra.All Fits := by
  rw [record, fits_obj, forall_mem_record hlength]
  rfl

theorem fits_closedRecord (hlength : values.length = names.length) :
    (record (slots names values)).Fits ↔ ∀ value ∈ values, ∀ v, value = some v → v.Fits := by
  have hrecord := fits_record hlength .empty
  simpa [kept, Dict.empty, Dict.All] using hrecord

end Records

end Json

def Edit.Fits : Edit → Prop
  | .raw value => value.Fits
  | _ => True

theorem Json.fits_ofTyped (d : Binary64) : (Json.ofTyped d).Fits := by
  unfold Json.ofTyped
  split
  · split
    · split
      · rename_i n _ hsmall
        have hfits : -2 ^ 63 ≤ n ∧ n < 2 ^ 64 := by omega
        exact hfits
      · trivial
    · trivial
  · have hfits : -2 ^ 63 ≤ (0 : Int) ∧ (0 : Int) < 2 ^ 64 := by omega
    exact hfits

namespace Component

/-- What the component stores for its two states fits. -/
structure StatesFit (c : Component) : Prop where
  checked : c.checkedJson.Fits
  unchecked : c.uncheckedJson.Fits
  on : c.onJson.Fits
  off : c.offJson.Fits

theorem statesFit_of_fits {c : Component} (h : c.toJson.Fits) : c.StatesFit := by
  rw [toJson_eq, Json.fits_record rfl] at h
  have hstate {o : Option Json} (ho : o ∈ c.values) (b : Bool) : (o.getD (.bool b)).Fits := by
    cases o with
    | none => trivial
    | some v => exact h.1 _ ho v rfl
  constructor
  · exact hstate (by simp [values]) true
  · exact hstate (by simp [values]) false
  · exact hstate (by simp [values]) true
  · exact hstate (by simp [values]) false

theorem fits_of_stored {c : Component} (h : c.StatesFit) {current : Option Json} {edit : Edit}
    (hedit : edit.Fits) {value : Json} (hstored : c.stored current edit = .ok (some value)) :
    value.Fits := by
  cases stored_eq_ok_some_iff.mp hstored with
  | raw => exact hedit
  | text => trivial
  | typed | typedOnSlider | number | onSlider => exact Json.fits_ofTyped _
  | checkbox state =>
      cases state with
      | true => exact h.checked
      | false => exact h.unchecked
  | toggle state =>
      cases state with
      | true => exact h.on
      | false => exact h.off
  | flipped =>
      split
      · exact h.off
      · exact h.on
  | selections | files =>
      rw [Json.fits_arr, List.forall_mem_map]
      exact fun _ _ => trivial

end Component

namespace NodeType

variable {t : NodeType}

theorem fits_default {p : Parameter} (h : t.toJson.Fits) (hp : p ∈ t.parameters) {value : Json}
    (hvalue : p.default? = some value) : value.Fits := by
  rw [toJson_eq, Json.fits_closedRecord rfl] at h
  have hparameters := h (some (.arr (t.parameters.map Parameter.toJson))) (by simp [values]) _ rfl
  rw [Json.fits_arr, List.forall_mem_map] at hparameters
  have hparameter := hparameters p hp
  rw [Parameter.toJson_eq, Json.fits_closedRecord rfl] at hparameter
  exact hparameter p.default? (by simp [Parameter.values]) value hvalue

theorem fits_defaults (h : t.toJson.Fits) : t.defaults.All Json.Fits := by
  refine Dict.All.ofList fun entry hentry => ?_
  obtain ⟨p, hp, hmade⟩ := List.mem_filterMap.mp hentry
  obtain ⟨value, hvalue, rfl⟩ := Option.map_eq_some_iff.mp hmade
  exact fits_default h hp hvalue

theorem statesFit_of_layout (h : t.toJson.Fits) {l : Layout} (hl : t.layout = some l) {g : Group}
    (hg : g ∈ l.groups) {c : Component} (hc : c ∈ g.components) : c.StatesFit := by
  rw [toJson_eq, Json.fits_closedRecord rfl] at h
  have hlayout := h (t.layout.map Layout.toJson) (by simp [values]) l.toJson (by rw [hl]; rfl)
  rw [Layout.toJson_eq, Json.fits_record rfl] at hlayout
  have hgroups := hlayout.1 (some (.arr (l.groups.map Group.toJson)))
    (by simp [Layout.values]) _ rfl
  rw [Json.fits_arr, List.forall_mem_map] at hgroups
  have hgroup := hgroups g hg
  rw [Group.toJson_eq, Json.fits_record rfl] at hgroup
  have hcomponents := hgroup.1 (some (.arr (g.components.map Component.toJson)))
    (by simp [Group.values]) _ rfl
  rw [Json.fits_arr, List.forall_mem_map] at hcomponents
  exact Component.statesFit_of_fits (hcomponents c hc)

/-- Whichever form a type has, what its components store for their states fits. -/
theorem statesFit_of_mem_groups (h : t.toJson.Fits) {g : Group} (hg : g ∈ t.groups)
    {c : Component} (hc : c ∈ g.components) : c.StatesFit := by
  have hplain : g ∈ t.plainGroups → c.StatesFit := by
    intro hg
    unfold plainGroups at hg
    split at hg
    · cases hg
    · rw [List.mem_singleton] at hg
      subst hg
      obtain ⟨p, -, rfl⟩ := List.mem_map.mp hc
      exact ⟨trivial, trivial, trivial, trivial⟩
  unfold groups at hg
  split at hg
  · rename_i l hl
    split at hg
    · exact hplain hg
    · exact statesFit_of_layout h hl hg hc
  · exact hplain hg

end NodeType

end NodeCanvas
