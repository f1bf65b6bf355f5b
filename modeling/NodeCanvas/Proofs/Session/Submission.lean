import NodeCanvas.Proofs.Session.Agreement

namespace NodeCanvas.Session

/-- Nothing is highlighted unless a run is on its way. -/
def Quiet (s : Session) : Prop := s.running = false → s.highlight = {}

theorem Becomes.quiet {s after : Session} {move : Move} (h : s.Becomes move after)
    (hs : s.Quiet) : after.Quiet := by
  cases h with
  | begun => exact fun hidle => absurd hidle (by simp)
  | finished | cancelled | ran => exact fun _ => rfl
  | _ => exact hs

theorem Reachable.quiet {s : Session} (h : s.Reachable) : s.Quiet := by
  induction h with
  | opened catalog rules => exact fun _ => rfl
  | step move _ _ ih => exact (becomes_perform _ move).quiet ih

section Run

variable {s : Session} (service : Service.Answers)

theorem run_of_running (h : s.running = true) :
    s.run.run service = (s.stay .alreadyRunning, []) := by
  rw [run, beginRun, if_pos h]
  rfl

theorem run_of_rejected (h : s.running = false) {reason : Rejection}
    (hplan : s.plan = .error reason) :
    s.run.run service = (s.stay (.invalid reason), []) := by
  rw [run, beginRun, h, if_neg Bool.false_ne_true, hplan]
  rfl

theorem run_calls (h : s.running = false) {plan : Plan} (hplan : s.plan = .ok plan) :
    (s.run.run service).2 = [.run plan] := by
  simp [run, beginRun, h, hplan, Dialogue.run]

end Run

/-- A run asks the service just for the plan of the graph, and at most once. Whatever it answers,
the session is left without a run on its way, as it was up to what its nodes show, and with the
same plan; an error does not even change that. -/
theorem Reachable.run_spec {s : Session} (h : s.Reachable) (service : Service.Answers) :
    ∀ step calls, s.run.run service = (step, calls) →
      (s.running = true →
        step = { answer := .alreadyRunning, session := s, events := [] } ∧ calls = []) ∧
      (s.running = false →
        (∀ reason, s.graph.plan s.rules = .error reason →
          step = { answer := .invalid reason, session := s, events := [] } ∧ calls = []) ∧
        (∀ plan, s.graph.plan s.rules = .ok plan →
          calls = [.run plan] ∧
          ∀ e, service (.run plan) = .error e → step.session.graph = s.graph) ∧
        step.session.running = false ∧ step.session.highlight = {} ∧
        step.session = { s with graph := step.session.graph } ∧
        s.graph.SameBody step.session.graph ∧
        step.session.graph.plan step.session.rules = s.graph.plan s.rules) := by
  intro step calls hrun
  constructor
  · intro hrunning
    rw [run_of_running service hrunning] at hrun
    obtain ⟨rfl, rfl⟩ := Prod.mk.inj hrun
    exact ⟨rfl, rfl⟩
  · intro hidle
    have hquiet : s.highlight = {} := h.quiet hidle
    cases hplan : s.graph.plan s.rules with
    | error reason =>
        rw [run_of_rejected service hidle hplan] at hrun
        obtain ⟨rfl, rfl⟩ := Prod.mk.inj hrun
        refine ⟨?_, ?_, hidle, hquiet, rfl, .refl s.graph, hplan⟩
        · rintro _ ⟨⟩
          exact ⟨rfl, rfl⟩
        · rintro _ ⟨⟩
    | ok plan =>
        have hcalls : calls = [.run plan] := by
          rw [← run_calls service hidle hplan, hrun]
        have hsession : step.session = { s with
            graph := (outcomeOf s.graph (service (.run plan))).2 } := by
          have hended := s.run_session service hidle hplan
          rw [hrun, ← hidle, ← hquiet] at hended
          exact hended
        have hbody := outcomeOf_sameBody s.graph (service (.run plan))
        refine ⟨?_, ?_, ?_⟩
        · rintro _ ⟨⟩
        · rintro _ ⟨⟩
          refine ⟨hcalls, ?_⟩
          intro e herror
          rw [hsession, herror]
          rfl
        · rw [hsession]
          exact ⟨hidle, hquiet, rfl, hbody, (hbody.plan_eq s.rules).trans hplan⟩

def runService (result : Except Failure RunReport) : Service.Answers
  | .run _ => result
  | .choices _ => .error .unreadable
  | .listing => .error .unreadable
  | .save _ => .error .unreadable
  | .load _ => .error .unreadable
  | .workflows => .error .unreadable

def brokenReport : RunReport where
  success := false
  data := {
    inputs := .ofList [("r", .obj [("final_response", .str "Because.")])]
    errors := .ofList [("gone", .str "lost")] }

theorem started_run_spec :
    started.Reachable ∧ started.running = false ∧
    ∃ plan step, started.graph.plan started.rules = .ok plan ∧
      started.run.run (runService (.ok brokenReport)) = (step, [.run plan]) ∧
      step.session.running = false ∧ step.session.highlight = {} ∧
      step.session.graph ≠ started.graph ∧ started.graph.SameBody step.session.graph ∧
      step.session.graph.plan step.session.rules = .ok plan := by
  have hidle : started.running = false := by decide +kernel
  have hok : (started.graph.plan started.rules).isOk = true := by decide +kernel
  have hchanged : (started.run.run (runService (.ok brokenReport))).1.session.graph ≠
      started.graph := by decide +kernel
  obtain ⟨-, hspec⟩ := started_reachable.run_spec (runService (.ok brokenReport)) _ _ rfl
  obtain ⟨-, hplanned, hrunning, hhighlight, -, hbody, hplan⟩ := hspec hidle
  cases h : started.graph.plan started.rules with
  | error reason =>
      rw [h] at hok
      cases hok
  | ok plan =>
      refine ⟨started_reachable, hidle, plan, _, rfl, ?_, hrunning, hhighlight, hchanged, hbody,
        hplan.trans h⟩
      rw [← (hplanned plan h).1]

end NodeCanvas.Session
