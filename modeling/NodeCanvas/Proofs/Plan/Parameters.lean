import NodeCanvas.Plan.Basic
import NodeCanvas.Proofs.Dict

namespace NodeCanvas

/-- Absent, null, the empty text or the empty list. -/
def Json.Blank (value : Option Json) : Prop :=
  value = none ∨ value = some .null ∨ value = some (.str "") ∨ value = some (.arr [])

instance (value : Option Json) : Decidable (Json.Blank value) :=
  inferInstanceAs (Decidable (_ ∨ _ ∨ _ ∨ _))

theorem Json.isBlank_iff {value : Option Json} : isBlank value = true ↔ Blank value := by
  constructor
  · intro h
    unfold isBlank at h
    split at h
    · exact .inl rfl
    · exact .inr (.inl rfl)
    · rename_i s
      exact .inr (.inr (.inl (by rw [String.isEmpty_iff.mp h])))
    · rename_i items
      exact .inr (.inr (.inr (by rw [List.isEmpty_iff.mp h])))
    · cases h
  · rintro (rfl | rfl | rfl | rfl) <;> rfl

theorem Json.bne_null_iff {value : Json} : (value != .null) = true ↔ value ≠ .null := by
  cases value <;> simp [bne, BEq.beq, same]

namespace Rules

variable (r : Rules) (registryKey : String) (values : Parameters)

/-- A blank parameter for which there is neither a fallback nor a default. -/
def leavesOpen (p : Parameter) : Bool :=
  Json.isBlank (values.get? p.name) && (r.resolve? registryKey p).isNone

/-- What is written into a blank parameter. -/
def fill? (p : Parameter) : Option (String × Json) :=
  if Json.isBlank (values.get? p.name) then
    (r.resolve? registryKey p).map fun value => (p.name, value)
  else none

variable {r registryKey values}

theorem fill?_eq_some {p : Parameter} {entry : String × Json}
    (h : r.fill? registryKey values p = some entry) :
    Json.isBlank (values.get? p.name) = true ∧
      r.resolve? registryKey p = some entry.2 ∧ entry.1 = p.name := by
  unfold fill? at h
  split at h
  · rename_i hblank
    obtain ⟨value, hvalue, rfl⟩ := Option.map_eq_some_iff.mp h
    exact ⟨hblank, hvalue, rfl⟩
  · cases h

theorem leavesOpen_insert_of_ne {p q : Parameter} (value : Json) (h : q.name ≠ p.name) :
    r.leavesOpen registryKey (values.insert p.name value) q =
      r.leavesOpen registryKey values q := by
  rw [leavesOpen, leavesOpen, Dict.get?_insert_of_ne _ _ h]

theorem fill?_insert_of_ne {p q : Parameter} (value : Json) (h : q.name ≠ p.name) :
    r.fill? registryKey (values.insert p.name value) q = r.fill? registryKey values q := by
  rw [fill?, fill?, Dict.get?_insert_of_ne _ _ h]

theorem fill?_names_nodup {parameters : List Parameter}
    (h : (parameters.map (·.name)).Nodup) :
    ((parameters.filterMap (r.fill? registryKey values)).map (·.1)).Nodup := by
  refine h.sublist ?_
  induction parameters with
  | nil => simp
  | cons p rest ih =>
      have hrest := ih (List.nodup_cons.mp h).2
      rw [List.filterMap_cons, List.map_cons]
      split
      · exact hrest.cons _
      · rename_i entry hentry
        rw [List.map_cons, (fill?_eq_some hentry).2.2]
        exact hrest.cons_cons _

end Rules

namespace Node

/-- Resolving stops at the first parameter that is left open; where there is none, all blank
parameters are filled in. -/
theorem resolveParameters_eq (n : Node) (r : Rules) (values : Parameters)
    {parameters : List Parameter} (h : (parameters.map (·.name)).Nodup) :
    n.resolveParameters r values parameters =
      match parameters.find? (r.leavesOpen (r.registryKey n.type.name) values) with
      | some p => .error (.missingParameter n.id n.type.name p.name)
      | none => .ok (values.insertAll
          (parameters.filterMap (r.fill? (r.registryKey n.type.name) values))) := by
  induction parameters generalizing values with
  | nil => rfl
  | cons p rest ih =>
      rw [List.map_cons, List.nodup_cons] at h
      have hne : ∀ q ∈ rest, q.name ≠ p.name := fun q hq heq =>
        h.1 (List.mem_map.mpr ⟨q, hq, heq⟩)
      cases hblank : Json.isBlank (values.get? p.name) with
      | false =>
          simp [resolveParameters, Rules.leavesOpen, Rules.fill?, hblank, ih values h.2]
      | true =>
          cases hvalue : r.resolve? (r.registryKey n.type.name) p with
          | none => simp [resolveParameters, Rules.leavesOpen, hblank, hvalue]
          | some value =>
              -- What is written under the name of `p` is not seen by the parameters after it.
              have hopen : rest.find? (r.leavesOpen (r.registryKey n.type.name)
                  (values.insert p.name value)) =
                    rest.find? (r.leavesOpen (r.registryKey n.type.name) values) := by
                rw [← List.head?_filter, ← List.head?_filter, List.filter_congr fun q hq =>
                  Rules.leavesOpen_insert_of_ne value (hne q hq)]
              have hfill : rest.filterMap (r.fill? (r.registryKey n.type.name)
                  (values.insert p.name value)) =
                    rest.filterMap (r.fill? (r.registryKey n.type.name) values) :=
                List.filterMap_congr fun q hq => Rules.fill?_insert_of_ne value (hne q hq)
              have hhere : r.leavesOpen (r.registryKey n.type.name) values p = false := by
                rw [Rules.leavesOpen, hvalue, Option.isNone_some, Bool.and_false]
              have hentry : r.fill? (r.registryKey n.type.name) values p =
                  some (p.name, value) := by
                rw [Rules.fill?, if_pos hblank, hvalue, Option.map_some]
              rw [resolveParameters, if_pos hblank, hvalue, List.find?_cons, hhere,
                List.filterMap_cons, hentry]
              simp only [ih _ h.2, hopen, hfill, Dict.insertAll_cons]

/-- A required parameter that is blank, without a fallback and without a default. -/
def Lacks (n : Node) (r : Rules) (p : Parameter) : Prop :=
  p.required = true ∧ Json.Blank (n.parameters.get? p.name) ∧
    r.fallback? (r.registryKey n.type.name) p.name = none ∧
    (p.default? = none ∨ p.default? = some .null)

instance (n : Node) (r : Rules) (p : Parameter) : Decidable (n.Lacks r p) :=
  inferInstanceAs (Decidable (_ ∧ _ ∧ _ ∧ (_ ∨ _)))

/-- The parameters of a node with those that are required and blank filled in, by the fallback
where there is one, else by the default, and all others as they are. -/
structure Completes (n : Node) (r : Rules) (values : Parameters) : Prop where
  filled : ∀ p ∈ n.type.parameters, p.required = true →
    Json.Blank (n.parameters.get? p.name) →
    values.get? p.name = (r.fallback? (r.registryKey n.type.name) p.name).or p.default?
  kept : ∀ key, (∀ p ∈ n.type.parameters, p.required = true → p.name = key →
    ¬ Json.Blank (n.parameters.get? key)) → values.get? key = n.parameters.get? key

theorem resolve?_eq_none_iff {r : Rules} {registryKey : String} {p : Parameter} :
    r.resolve? registryKey p = none ↔ r.fallback? registryKey p.name = none ∧
      (p.default? = none ∨ p.default? = some .null) := by
  rw [Rules.resolve?, Option.or_eq_none_iff]
  cases p.default? with
  | none => simp
  | some value =>
      rw [Option.filter_some]
      by_cases hnull : value = .null
      · simp [hnull, bne, BEq.beq, Json.same]
      · simp [hnull, Json.bne_null_iff.mpr hnull]

theorem resolve?_eq_some {r : Rules} {registryKey : String} {p : Parameter} {value : Json}
    (h : r.resolve? registryKey p = some value) :
    (r.fallback? registryKey p.name).or p.default? = some value := by
  rw [Rules.resolve?, Option.or_eq_some_iff] at h
  rw [Option.or_eq_some_iff]
  rcases h with h | ⟨hnone, h⟩
  · exact .inl h
  · exact .inr ⟨hnone, (Option.filter_eq_some_iff.mp h).1⟩

def lacks (n : Node) (r : Rules) (p : Parameter) : Bool :=
  p.required && r.leavesOpen (r.registryKey n.type.name) n.parameters p

theorem lacks_iff {n : Node} {r : Rules} {p : Parameter} :
    n.lacks r p = true ↔ n.Lacks r p := by
  rw [lacks, Rules.leavesOpen, Bool.and_eq_true, Bool.and_eq_true, Json.isBlank_iff,
    Option.isNone_iff_eq_none, resolve?_eq_none_iff]
  rfl

/-- Only a missing parameter of the node itself keeps it out of a plan. -/
theorem resolveParameters_eq_error {n : Node} {r : Rules} {values : Parameters}
    {parameters : List Parameter} {e : Rejection}
    (h : n.resolveParameters r values parameters = .error e) :
    ∃ parameter, e = .missingParameter n.id n.type.name parameter := by
  induction parameters generalizing values with
  | nil => cases h
  | cons p rest ih =>
      rw [resolveParameters] at h
      split at h
      · split at h
        · exact ih h
        · exact ⟨p.name, (Except.error.inj h).symm⟩
      · exact ih h

theorem toPlan_eq_error {n : Node} {r : Rules} {e : Rejection} (h : n.toPlan r = .error e) :
    ∃ parameter, e = .missingParameter n.id n.type.name parameter := by
  rw [toPlan] at h
  cases hvalues : n.resolveParameters r n.parameters (n.type.parameters.filter (·.required)) with
  | ok values =>
      rw [hvalues] at h
      cases h
  | error reason =>
      rw [hvalues] at h
      obtain rfl : reason = e := Except.error.inj h
      exact resolveParameters_eq_error hvalues

section ToPlan

variable {n : Node} {r : Rules} (h : (n.type.parameters.map (·.name)).Nodup)

include h

theorem toPlan_eq :
    n.toPlan r =
      match n.type.parameters.find? (n.lacks r) with
      | some p => .error (.missingParameter n.id n.type.name p.name)
      | none => .ok {
          registryKey := r.registryKey n.type.name
          parameters := n.parameters.insertAll
            ((n.type.parameters.filter (·.required)).filterMap
              (r.fill? (r.registryKey n.type.name) n.parameters)) } := by
  have hrequired : ((n.type.parameters.filter (·.required)).map (·.name)).Nodup :=
    h.sublist (List.filter_sublist.map _)
  have hfind : (n.type.parameters.filter (·.required)).find?
      (r.leavesOpen (r.registryKey n.type.name) n.parameters) =
        n.type.parameters.find? (n.lacks r) := by
    rw [List.find?_filter]
    simp only [Bool.decide_and, Bool.decide_eq_true]
    rfl
  rw [toPlan, resolveParameters_eq n r n.parameters hrequired, hfind]
  cases n.type.parameters.find? (n.lacks r) <;> rfl

/-- A node cannot be planned just because of the first parameter that it lacks. -/
theorem toPlan_eq_error_iff {e : Rejection} :
    n.toPlan r = .error e ↔ ∃ early p late, n.type.parameters = early ++ p :: late ∧
      (∀ q ∈ early, ¬ n.Lacks r q) ∧ n.Lacks r p ∧
      e = .missingParameter n.id n.type.name p.name := by
  rw [toPlan_eq h]
  constructor
  · intro herror
    split at herror
    · rename_i p hp
      obtain ⟨hlacks, early, late, hsplit, hearly⟩ := List.find?_eq_some_iff_append.mp hp
      refine ⟨early, p, late, hsplit, ?_, lacks_iff.mp hlacks, (Except.error.inj herror).symm⟩
      intro q hq hlacks
      have hclosed := hearly q hq
      rw [lacks_iff.mpr hlacks] at hclosed
      cases hclosed
    · cases herror
  · rintro ⟨early, p, late, hsplit, hearly, hlacks, rfl⟩
    have hp : n.type.parameters.find? (n.lacks r) = some p := by
      refine List.find?_eq_some_iff_append.mpr ⟨lacks_iff.mpr hlacks, early, late, hsplit, ?_⟩
      intro q hq
      rw [Bool.not_eq_true', ← Bool.not_eq_true, lacks_iff]
      exact hearly q hq
    rw [hp]

theorem toPlan_eq_ok (hlacks : ∀ p ∈ n.type.parameters, ¬ n.Lacks r p) :
    ∃ planned, n.toPlan r = .ok planned ∧ planned.registryKey = r.registryKey n.type.name ∧
      n.Completes r planned.parameters := by
  have hnone : n.type.parameters.find? (n.lacks r) = none := by
    refine List.find?_eq_none.mpr ?_
    intro p hp
    rw [lacks_iff]
    exact hlacks p hp
  rw [toPlan_eq h, hnone]
  refine ⟨_, rfl, rfl, ?_, ?_⟩
  · intro p hp hrequired hblank
    have hresolve : r.resolve? (r.registryKey n.type.name) p ≠ none := by
      intro heq
      obtain ⟨hfallback, hdefault⟩ := resolve?_eq_none_iff.mp heq
      exact hlacks p hp ⟨hrequired, hblank, hfallback, hdefault⟩
    obtain ⟨value, hvalue⟩ := Option.ne_none_iff_exists'.mp hresolve
    rw [resolve?_eq_some hvalue]
    refine Dict.get?_insertAll_of_mem _
      (Rules.fill?_names_nodup (h.sublist (List.filter_sublist.map _))) ?_
    refine List.mem_filterMap.mpr ⟨p, List.mem_filter.mpr ⟨hp, hrequired⟩, ?_⟩
    rw [Rules.fill?, Json.isBlank_iff.mpr hblank, hvalue]
    rfl
  · intro key hkey
    refine Dict.get?_insertAll_of_not_mem _ _ ?_
    intro entry hentry heq
    obtain ⟨p, hp, hfill⟩ := List.mem_filterMap.mp hentry
    obtain ⟨hmem, hrequired⟩ := List.mem_filter.mp hp
    obtain ⟨hblank, -, hname⟩ := Rules.fill?_eq_some hfill
    rw [← hname, heq] at hblank
    exact hkey p hmem hrequired (hname.symm.trans heq) (Json.isBlank_iff.mp hblank)

end ToPlan

end Node

end NodeCanvas
