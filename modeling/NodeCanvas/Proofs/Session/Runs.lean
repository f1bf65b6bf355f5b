import Mathlib.Data.List.Infix
import NodeCanvas.Proofs.Plan.Nodes
import NodeCanvas.Proofs.Session.Moves

/-!
Runs on their way. A session remembers whether a run is on its way, and not which one: the answer
of a run that was given up ends whatever run has taken its place. This is the only way in which
two runs can be on their way at once.
-/
namespace NodeCanvas

theorem Highlight.isActive_ofGraph {g : Graph} (h : g.nodes ≠ []) :
    (Highlight.ofGraph g).isActive = true := by
  have hnodes : (g.nodeIds.map fun id => (id, ())) ≠ [] := by simpa [Graph.nodeIds] using h
  rw [Highlight.isActive, Highlight.ofGraph, Dict.isEmpty_ofList hnodes]
  rfl

namespace Session

/-- Whether the operation is none that begins, ends or gives up a run. A run from its beginning to
its end in one operation is none of these: nothing comes in between. -/
def Move.isAside : Move → Bool
  | .beginRun | .finishRun _ | .cancelRun => false
  | _ => true

theorem Becomes.running_of_isAside {s after : Session} {move : Move} (h : s.Becomes move after)
    (aside : move.isAside = true) :
    (after.running = s.running ∧ after.highlight = s.highlight) ∨ s.running = false := by
  cases h with
  | ran _ hrunning => exact .inr hrunning
  | begun | finished | cancelled => cases aside
  | _ => exact .inl ⟨rfl, rfl⟩

section BeginRun

variable {s : Session}

theorem beginRun_of_running (h : s.running = true) :
    s.beginRun = s.stay (.error .alreadyRunning) := by
  rw [beginRun, if_pos h]

theorem beginRun_of_rejected (h : s.running = false) {reason : Rejection}
    (hplan : s.plan = .error reason) : s.beginRun = s.stay (.error (.invalid reason)) := by
  rw [beginRun, h, if_neg Bool.false_ne_true, hplan]

theorem beginRun_of_plan (h : s.running = false) {plan : Plan} (hplan : s.plan = .ok plan) :
    s.beginRun.answer = .ok { plan, warnings := s.graph.warnings } ∧
      s.beginRun.session = { s with running := true, highlight := .ofGraph s.graph } := by
  rw [beginRun, h, if_neg Bool.false_ne_true, hplan]
  exact ⟨rfl, rfl⟩

end BeginRun

/-- What can happen while runs are on their way. An answer is that of one run, which the session
is not told. -/
inductive Happening where
  | begin
  | answer (run : Nat) (result : Except Failure RunReport)
  | cancel
  | aside (move : Move) (h : move.isAside = true)

/-- A session, with what is known to somebody who watches it. Runs are numbered in the order in
which they were accepted. -/
structure Watched where
  session : Session
  begun : Nat := 0
  live : List Nat := []
  answered : List Nat := []
  cancelled : List Nat := []

namespace Watched

def after (w : Watched) : Happening → Watched
  | .begin =>
      match w.session.beginRun.answer with
      | .ok _ => { w with
          session := w.session.beginRun.session
          begun := w.begun + 1
          live := w.begun :: w.live }
      | .error _ => { w with session := w.session.beginRun.session }
  | .answer run result => { w with
      session := (w.session.finishRun result).session
      live := w.live.erase run
      answered := run :: w.answered }
  | .cancel =>
      if w.session.running then { w with
        session := w.session.cancelRun.session
        live := w.live.tail
        cancelled := w.live.take 1 ++ w.cancelled }
      else { w with session := w.session.cancelRun.session }
  | .aside move _ => { w with session := (w.session.perform move).session }

/-- What has become of a session at its start. -/
def since (catalog : Catalog) (rules : Rules) (history : List Happening) : Watched :=
  history.foldl after { session := .opened catalog rules }

theorem since_append (catalog : Catalog) (rules : Rules) (history : List Happening)
    (h : Happening) :
    since catalog rules (history ++ [h]) = (since catalog rules history).after h := by
  rw [since, List.foldl_append]
  rfl

/-- At most one run is on its way, and the session shows it. -/
structure OneRun (w : Watched) : Prop where
  single : w.live.length ≤ 1
  running : w.live ≠ [] → w.session.running = true
  shown : w.live ≠ [] → w.session.highlight.isActive = true

end Watched

/-- The answer of a run that is not on its way any more, while another one is. -/
def Happening.Late (w : Watched) : Happening → Prop
  | .answer run _ => run ∉ w.live ∧ w.live ≠ []
  | _ => False

theorem Happening.Late.live_ne_nil {w : Watched} {happening : Happening}
    (h : happening.Late w) : w.live ≠ [] := by
  cases happening with
  | answer run result => exact h.2
  | begin | cancel | aside => exact h.elim

/-- An answer is that of a run that was accepted and not answered before. -/
def Happening.Allowed (w : Watched) : Happening → Prop
  | .answer run _ => run < w.begun ∧ run ∉ w.answered
  | _ => True

instance (w : Watched) : (happening : Happening) → Decidable (happening.Allowed w)
  | .answer run _ => inferInstanceAs (Decidable (run < w.begun ∧ run ∉ w.answered))
  | .begin | .cancel | .aside .. => inferInstanceAs (Decidable True)

namespace Watched

def Permits (w : Watched) : List Happening → Prop
  | [] => True
  | happening :: rest => happening.Allowed w ∧ (w.after happening).Permits rest

instance decidablePermits (w : Watched) : (history : List Happening) → Decidable (w.Permits history)
  | [] => inferInstanceAs (Decidable True)
  | happening :: rest =>
      have := decidablePermits (w.after happening) rest
      inferInstanceAs (Decidable (happening.Allowed w ∧ (w.after happening).Permits rest))

section After

variable {w : Watched}

theorem after_begin_of_running (h : w.session.running = true) : w.after .begin = w := by
  rw [after, beginRun_of_running h]
  rfl

theorem after_begin_of_rejected (h : w.session.running = false) {reason : Rejection}
    (hplan : w.session.plan = .error reason) : w.after .begin = w := by
  rw [after, beginRun_of_rejected h hplan]
  rfl

theorem after_begin_of_plan (h : w.session.running = false) {plan : Plan}
    (hplan : w.session.plan = .ok plan) :
    w.after .begin = { w with
      session := { w.session with running := true, highlight := .ofGraph w.session.graph }
      begun := w.begun + 1
      live := w.begun :: w.live } := by
  obtain ⟨hanswer, hsession⟩ := beginRun_of_plan h hplan
  rw [after, hanswer, ← hsession]

theorem after_cancel_of_running (h : w.session.running = true) :
    w.after .cancel = { w with
      session := { w.session with running := false, highlight := {} }
      live := w.live.tail
      cancelled := w.live.take 1 ++ w.cancelled } := by
  rw [after, if_pos h, cancelRun, if_pos h]

theorem after_cancel_of_not_running (h : w.session.running = false) :
    w.after .cancel = w := by
  rw [after, h, if_neg Bool.false_ne_true, cancelRun, h, if_neg Bool.false_ne_true]
  rfl

theorem OneRun.of_idle (h : w.live = []) : w.OneRun where
  single := by rw [h, List.length_nil]; exact Nat.zero_le 1
  running := fun hlive => absurd h hlive
  shown := fun hlive => absurd h hlive

theorem OneRun.live_eq_nil (h : w.OneRun) (hrunning : w.session.running = false) :
    w.live = [] := by
  by_contra hlive
  rw [h.running hlive] at hrunning
  cases hrunning

/-- Only a late answer makes the session forget a run. -/
theorem OneRun.after (h : w.OneRun) {happening : Happening} (hlate : ¬ happening.Late w) :
    (w.after happening).OneRun := by
  cases happening with
  | begin =>
      cases hrunning : w.session.running with
      | true => rwa [after_begin_of_running hrunning]
      | false =>
          cases hplan : w.session.plan with
          | error reason => rwa [after_begin_of_rejected hrunning hplan]
          | ok plan =>
              rw [after_begin_of_plan hrunning hplan, h.live_eq_nil hrunning]
              have hactive := Highlight.isActive_ofGraph (Graph.nodes_ne_nil_of_plan hplan)
              exact ⟨Nat.le_refl 1, fun _ => rfl, fun _ => hactive⟩
  | answer run result =>
      -- Not being late, the answer is that of the only run there is, or there is none.
      refine .of_idle ?_
      change w.live.erase run = []
      by_cases hlive : w.live = []
      · rw [hlive, List.erase_nil]
      · have hmem : run ∈ w.live := by
          by_contra hmem
          exact hlate ⟨hmem, hlive⟩
        have hlength := List.length_erase_of_mem hmem
        have hsingle := h.single
        exact List.length_eq_zero_iff.mp (by omega)
  | cancel =>
      cases hrunning : w.session.running with
      | true =>
          rw [after_cancel_of_running hrunning]
          refine .of_idle (List.length_eq_zero_iff.mp ?_)
          have hsingle := h.single
          rw [List.length_tail]
          omega
      | false => rwa [after_cancel_of_not_running hrunning]
  | aside move haside =>
      -- A whole run in one operation is accepted only where no run is on its way.
      rcases (becomes_perform w.session move).running_of_isAside haside with hkept | hidle
      · obtain ⟨hrunning, hhighlight⟩ := hkept
        refine ⟨h.single, fun hlive => ?_, fun hlive => ?_⟩
        · exact hrunning.trans (h.running hlive)
        · exact (congrArg Highlight.isActive hhighlight).trans (h.shown hlive)
      · exact .of_idle (h.live_eq_nil hidle)

/-- The answer is taken for that of the run on its way, which goes on all the same. -/
theorem after_late {happening : Happening} (h : happening.Late w) :
    (w.after happening).live = w.live ∧ (w.after happening).session.running = false ∧
      (w.after happening).session.highlight = {} := by
  cases happening with
  | answer run result => exact ⟨List.erase_of_not_mem h.1, rfl, rfl⟩
  | begin | cancel | aside => exact h.elim

theorem not_oneRun_after_late {happening : Happening} (h : happening.Late w) :
    ¬ (w.after happening).OneRun := by
  intro hafter
  obtain ⟨hlive, hrunning, -⟩ := after_late h
  exact h.live_ne_nil (hlive ▸ hafter.live_eq_nil hrunning)

/-- Every run is on its way, or answered, or given up. -/
def Accounted (w : Watched) : Prop :=
  ∀ run < w.begun, run ∈ w.live ∨ run ∈ w.answered ∨ run ∈ w.cancelled

theorem Accounted.after (h : w.Accounted) (happening : Happening) :
    (w.after happening).Accounted := by
  cases happening with
  | begin =>
      cases hrunning : w.session.running with
      | true => rwa [after_begin_of_running hrunning]
      | false =>
          cases hplan : w.session.plan with
          | error reason => rwa [after_begin_of_rejected hrunning hplan]
          | ok plan =>
              rw [after_begin_of_plan hrunning hplan]
              intro run hrun
              rcases Nat.lt_succ_iff_lt_or_eq.mp hrun with hrun | rfl
              · exact (h run hrun).imp_left (List.mem_cons_of_mem _)
              · exact .inl (List.mem_cons_self ..)
  | answer given result =>
      intro run hrun
      by_cases hgiven : run = given
      · exact .inr (.inl (hgiven ▸ List.mem_cons_self ..))
      · rcases h run hrun with hlive | hanswered | hcancelled
        · exact .inl ((List.mem_erase_of_ne hgiven).mpr hlive)
        · exact .inr (.inl (List.mem_cons_of_mem _ hanswered))
        · exact .inr (.inr hcancelled)
  | cancel =>
      cases hrunning : w.session.running with
      | true =>
          rw [after_cancel_of_running hrunning]
          intro run hrun
          rcases h run hrun with hlive | hanswered | hcancelled
          · rw [← List.take_append_drop 1 w.live, List.drop_one] at hlive
            rcases List.mem_append.mp hlive with hfirst | hrest
            · exact .inr (.inr (List.mem_append_left _ hfirst))
            · exact .inl hrest
          · exact .inr (.inl hanswered)
          · exact .inr (.inr (List.mem_append_right _ hcancelled))
      | false => rwa [after_cancel_of_not_running hrunning]
  | aside move haside => exact h

end After

section Since

variable (catalog : Catalog) (rules : Rules)

theorem accounted_since (history : List Happening) :
    (since catalog rules history).Accounted := by
  induction history using List.reverseRecOn with
  | nil => exact fun run hrun => absurd hrun (Nat.not_lt_zero run)
  | append_singleton history h ih =>
      rw [since_append]
      exact ih.after h

theorem oneRun_since {history : List Happening}
    (hlate : ∀ early h, early ++ [h] <+: history → ¬ h.Late (since catalog rules early)) :
    (since catalog rules history).OneRun := by
  induction history using List.reverseRecOn with
  | nil => exact .of_idle rfl
  | append_singleton history h ih =>
      rw [since_append]
      refine (ih fun early h' hwithin => ?_).after (hlate history h List.prefix_rfl)
      exact hlate early h' (hwithin.trans (List.prefix_append ..))

end Since

/-- Runs are on their way one at a time just as long as no late answer comes. While that lasts,
no further run is accepted. A late answer is that of a run that was given up; it makes the
session forget the run on its way, so that a second one is accepted beside it. -/
theorem oneRun_iff_no_late_answer (catalog : Catalog) (rules : Rules)
    (history : List Happening) :
    ((∀ early, early <+: history → (since catalog rules early).OneRun) ↔
      ∀ early h, early ++ [h] <+: history → ¬ h.Late (since catalog rules early)) ∧
    ∀ w, w = since catalog rules history →
      (w.OneRun → w.live ≠ [] → w.session.beginRun.answer = .error .alreadyRunning) ∧
      ∀ run result, (Happening.answer run result).Allowed w →
        (Happening.answer run result).Late w →
        run ∈ w.cancelled ∧
        (w.after (.answer run result)).live = w.live ∧
        (w.after (.answer run result)).session.running = false ∧
        (w.after (.answer run result)).session.highlight.isActive = false ∧
        ∀ plan, (w.after (.answer run result)).session.plan = .ok plan →
          ((w.after (.answer run result)).after .begin).live = w.begun :: w.live := by
  refine ⟨⟨?_, ?_⟩, ?_⟩
  · intro hone early h hwithin hlate
    have hafter := hone _ hwithin
    rw [since_append] at hafter
    exact not_oneRun_after_late hlate hafter
  · intro hlate early hearly
    exact oneRun_since catalog rules fun before h hwithin =>
      hlate before h (hwithin.trans hearly)
  · rintro w rfl
    refine ⟨fun hone hlive => ?_, fun run result hallowed hlate => ?_⟩
    · rw [beginRun_of_running (hone.running hlive)]
      rfl
    · obtain ⟨hlive, hrunning, hhighlight⟩ := after_late hlate
      refine ⟨?_, hlive, hrunning, by rw [hhighlight]; rfl, fun plan hplan => ?_⟩
      · have haccounted := accounted_since catalog rules history run hallowed.1
        rcases haccounted with hlive | hanswered | hcancelled
        · exact absurd hlive hlate.1
        · exact absurd hanswered hallowed.2
        · exact hcancelled
      · rw [after_begin_of_plan hrunning hplan]
        exact congrArg _ hlive

def lateHistory : List Happening := [
  .aside (.importDocument (.ofGraph Graph.exchange none ⟨0⟩)) rfl,
  .begin, .cancel, .begin, .answer 0 (.error (.service "late")), .begin]

theorem lateHistory_two_runs :
    Permits { session := .opened {} .standard } lateHistory ∧
      (since {} .standard lateHistory).live = [2, 1] := by
  decide +kernel

end Watched

end Session

end NodeCanvas
