import Mathlib.Data.List.Perm.Subperm
import NodeCanvas.Graph.Warnings
import NodeCanvas.Proofs.Dict
import NodeCanvas.Proofs.Graph.WellFormed

/-!
Sweeping along the edges of a graph. What is counted of an edge's target is the number of edges
into it that are uncrossed, so no count is taken from that is used up, and as many visits as
there are nodes bring the sweep to its end.
-/
namespace NodeCanvas.Graph.Sweep

/-- Cross an edge, unless those into its target are all counted as crossed. -/
def cross? (s : Sweep) (e : Edge) : Option Sweep :=
  if s.uncrossed.get? e.target = some 0 then none else some (s.cross e)

def visit? (g : Graph) (s : Sweep) : Option Sweep :=
  match s.waiting with
  | [] => some s
  | id :: rest =>
    (g.outgoing id).foldlM cross? { s with waiting := rest, visited := s.visited ++ [id] }

def run? (g : Graph) : Nat → Sweep → Option Sweep
  | 0, s => some s
  | rounds + 1, s => (visit? g s).bind (run? g rounds)

/-- The edges that a sweep over some nodes has not crossed are those of a list, in any order. -/
structure Tracks (ids : List String) (left : List Edge) (s : Sweep) : Prop where
  count : ∀ id ∈ ids, s.uncrossed.get? id = some (left.countP fun e => e.target == id)
  nodup : (s.visited ++ s.waiting).Nodup
  mem_iff : ∀ id, id ∈ s.visited ++ s.waiting ↔ id ∈ ids ∧ ∀ e ∈ left, e.target ≠ id

section Crossing

variable {ids : List String} {left : List Edge} {e : Edge} {s : Sweep}

theorem Tracks.perm {other : List Edge} (h : Tracks ids left s) (hperm : left.Perm other) :
    Tracks ids other s where
  count := fun id hid => by rw [h.count id hid, hperm.countP_eq]
  nodup := h.nodup
  mem_iff := fun id => by simp only [h.mem_iff, hperm.mem_iff]

theorem Tracks.count_target (h : Tracks ids (e :: left) s) (he : e.target ∈ ids) :
    s.uncrossed.get? e.target = some ((left.countP fun f => f.target == e.target) + 1) := by
  rw [h.count e.target he, List.countP_cons_of_pos]
  exact beq_self_eq_true e.target

theorem Tracks.cross?_eq (h : Tracks ids (e :: left) s) (he : e.target ∈ ids) :
    s.cross? e = some (s.cross e) := by
  rw [cross?, h.count_target he]
  simp

theorem Tracks.cross_eq (h : Tracks ids (e :: left) s) (he : e.target ∈ ids) :
    s.cross e = { s with
      uncrossed := s.uncrossed.insert e.target (left.countP fun f => f.target == e.target)
      waiting :=
        if (left.countP fun f => f.target == e.target) = 0 then s.waiting ++ [e.target]
        else s.waiting } := by
  rw [Sweep.cross, h.count_target he]
  rfl

theorem Tracks.cross (h : Tracks ids (e :: left) s) (he : e.target ∈ ids) :
    Tracks ids left (s.cross e) := by
  -- The target comes to wait with the last edge into it, and did not wait before.
  have hfresh : e.target ∉ s.visited ++ s.waiting := fun hmem =>
    ((h.mem_iff e.target).mp hmem).2 e (List.mem_cons_self ..) rfl
  have hlast : (left.countP fun f => f.target == e.target) = 0 ↔
      ∀ f ∈ left, f.target ≠ e.target := by
    simp [List.countP_eq_zero]
  rw [h.cross_eq he]
  constructor
  · intro id hid
    by_cases heq : id = e.target
    · rw [heq, Dict.get?_insert_self]
    · rw [Dict.get?_insert_of_ne _ _ heq, h.count id hid, List.countP_cons_of_neg]
      simpa using Ne.symm heq
  · split
    · rw [← List.append_assoc, ← List.concat_eq_append]
      exact h.nodup.concat hfresh
    · exact h.nodup
  · intro id
    have hmem := h.mem_iff id
    rw [List.forall_mem_cons] at hmem
    split
    · rename_i hcount
      rw [← List.append_assoc, List.mem_append, hmem, List.mem_singleton]
      by_cases heq : id = e.target
      · subst heq
        simpa [he] using hlast.mp hcount
      · simp [heq, Ne.symm heq]
    · rename_i hcount
      rw [hmem]
      by_cases heq : id = e.target
      · subst heq
        simp [mt hlast.mpr hcount]
      · simp [Ne.symm heq]

theorem Tracks.foldl_cross {crossed : List Edge} (h : Tracks ids (crossed ++ left) s)
    (hcrossed : ∀ e ∈ crossed, e.target ∈ ids) :
    crossed.foldlM cross? s = some (crossed.foldl Sweep.cross s) ∧
      Tracks ids left (crossed.foldl Sweep.cross s) := by
  induction crossed generalizing s with
  | nil => exact ⟨rfl, h⟩
  | cons e rest ih =>
      have he : e.target ∈ ids := hcrossed e (List.mem_cons_self ..)
      obtain ⟨hchecked, hrest⟩ :=
        ih (h.cross he) fun f hf => hcrossed f (List.mem_cons_of_mem _ hf)
      refine ⟨?_, hrest⟩
      rw [List.foldlM_cons, h.cross?_eq he]
      exact hchecked

end Crossing

@[simp]
theorem cross_visited (s : Sweep) (e : Edge) : (s.cross e).visited = s.visited := by
  unfold cross
  split <;> rfl

@[simp]
theorem foldl_cross_visited (edges : List Edge) (s : Sweep) :
    (edges.foldl cross s).visited = s.visited := by
  induction edges generalizing s with
  | nil => rfl
  | cons e rest ih => rw [List.foldl_cons, ih, cross_visited]

variable {g : Graph} {s : Sweep}

/-- The edges out of nodes that were not visited. -/
def ahead (g : Graph) (s : Sweep) : List Edge :=
  g.edges.filter fun e => !s.visited.contains e.source

/-- Exactly the edges out of visited nodes have been crossed. -/
def Steady (g : Graph) (s : Sweep) : Prop := s.Tracks g.nodeIds (s.ahead g)

theorem steady_start (hg : g.WellFormed) {order : List String} (horder : order.Perm g.roots) :
    (start g order).Steady g := by
  have hahead : (start g order).ahead g = g.edges := by simp [ahead, start]
  rw [Steady, hahead]
  constructor
  · intro id hid
    have hkeys : ((g.nodeIds.map fun id => (id, (g.incoming id).length)).map (·.1)).Nodup := by
      simpa [Function.comp_def] using hg.distinct
    rw [start, Dict.get?_ofList_of_mem hkeys (List.mem_map.mpr ⟨id, hid, rfl⟩),
      List.countP_eq_length_filter]
    rfl
  · exact horder.nodup_iff.mpr (hg.distinct.filter _)
  · intro id
    rw [show (start g order).visited ++ (start g order).waiting = order from rfl,
      horder.mem_iff, roots, List.mem_filter]
    simp [incoming]

/-- The node that has waited longest counts as visited before the edges out of it are crossed. -/
def take (s : Sweep) (id : String) (rest : List String) : Sweep :=
  { s with waiting := rest, visited := s.visited ++ [id] }

theorem Steady.take {id : String} {rest : List String} (h : s.Steady g)
    (hwaiting : s.waiting = id :: rest) :
    Tracks g.nodeIds (g.outgoing id ++ (s.take id rest).ahead g) (s.take id rest) := by
  have hsame : (s.take id rest).visited ++ (s.take id rest).waiting = s.visited ++ s.waiting := by
    simp [Sweep.take, hwaiting]
  have hfresh : id ∉ s.visited := by
    have hnodup := h.nodup
    rw [hwaiting] at hnodup
    exact fun hid => List.disjoint_of_nodup_append hnodup hid (List.mem_cons_self ..)
  -- The edges that were ahead are those out of the node and those that are ahead now.
  have hout : (s.ahead g).filter (fun e => e.source == id) = g.outgoing id := by
    rw [ahead, outgoing, List.filter_filter]
    refine List.filter_congr fun e _ => ?_
    by_cases heq : e.source = id <;> simp [heq, hfresh]
  have hahead : (s.ahead g).filter (fun e => !e.source == id) = (s.take id rest).ahead g := by
    rw [ahead, ahead, List.filter_filter]
    refine List.filter_congr fun e _ => ?_
    by_cases heq : e.source = id <;> simp [Sweep.take, heq]
  have hperm : (s.ahead g).Perm (g.outgoing id ++ (s.take id rest).ahead g) := by
    rw [← hout, ← hahead]
    exact (List.filter_append_perm _ _).symm
  refine Tracks.perm ⟨h.count, ?_, ?_⟩ hperm
  · rw [hsame]
    exact h.nodup
  · rw [hsame]
    exact h.mem_iff

/-- A visit crosses the edges out of one more node, and takes no count below zero. -/
theorem Steady.visit (hg : g.WellFormed) (h : s.Steady g) :
    visit? g s = some (visit g s) ∧ (visit g s).Steady g := by
  cases hwaiting : s.waiting with
  | nil => simpa [visit?, Sweep.visit, hwaiting] using h
  | cons id rest =>
      rw [visit?, Sweep.visit, hwaiting]
      obtain ⟨hchecked, htracks⟩ :=
        (h.take hwaiting).foldl_cross fun e he => (hg.closed e (List.mem_of_mem_filter he)).2
      refine ⟨hchecked, ?_⟩
      have hahead : ((g.outgoing id).foldl Sweep.cross (s.take id rest)).ahead g =
          (s.take id rest).ahead g := by
        rw [ahead, foldl_cross_visited]
        rfl
      rw [Steady]
      exact hahead ▸ htracks

theorem Steady.run (hg : g.WellFormed) (h : s.Steady g) (rounds : Nat) :
    run? g rounds s = some (run g rounds s) ∧ (run g rounds s).Steady g := by
  induction rounds generalizing s with
  | zero => exact ⟨rfl, h⟩
  | succ rounds ih =>
      obtain ⟨hchecked, hnext⟩ := h.visit hg
      obtain ⟨hothers, hend⟩ := ih hnext
      exact ⟨by rw [run?, hchecked]; exact hothers, hend⟩

/-! The end of a sweep. -/

theorem visit_of_waiting_nil (h : s.waiting = []) : visit g s = s := by
  rw [visit, h]

theorem run_of_waiting_nil (h : s.waiting = []) (rounds : Nat) : run g rounds s = s := by
  induction rounds with
  | zero => rfl
  | succ rounds ih => rw [run, visit_of_waiting_nil h, ih]

/-- A sweep either has come to its end or has visited a node in every round. -/
theorem waiting_run_eq_nil_or (g : Graph) (rounds : Nat) (s : Sweep) :
    (run g rounds s).waiting = [] ∨
      (run g rounds s).visited.length = s.visited.length + rounds := by
  induction rounds generalizing s with
  | zero => exact .inr rfl
  | succ rounds ih =>
      cases hwaiting : s.waiting with
      | nil => exact .inl (by rw [run_of_waiting_nil hwaiting, hwaiting])
      | cons id rest =>
          have hlength : (visit g s).visited.length = s.visited.length + 1 := by
            simp [visit, hwaiting]
          rw [run]
          rcases ih (visit g s) with hend | hmore
          · exact .inl hend
          · exact .inr (by omega)

theorem Steady.subset (h : s.Steady g) : s.visited ++ s.waiting ⊆ g.nodeIds :=
  fun id hid => ((h.mem_iff id).mp hid).1

theorem Steady.waiting_run (hg : g.WellFormed) (h : s.Steady g) :
    (Sweep.run g g.nodes.length s).waiting = [] := by
  rcases waiting_run_eq_nil_or g g.nodes.length s with hend | hmore
  · exact hend
  · obtain ⟨-, hrun⟩ := h.run hg g.nodes.length
    have hlength := (List.subperm_of_subset hrun.nodup hrun.subset).length_le
    rw [List.length_append, nodeIds, List.length_map] at hlength
    exact List.eq_nil_of_length_eq_zero (by omega)

end NodeCanvas.Graph.Sweep
