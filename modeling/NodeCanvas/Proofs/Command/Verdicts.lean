import NodeCanvas.Proofs.Command.Results

namespace NodeCanvas

def Report.FailsWith (r : Report) (code : ℕ) : Prop :=
  ∃ e, r.result = .error e ∧ e.exitCode = code

namespace Report

variable {r : Report} {code : ℕ}

theorem failsWith_iff {e : CommandFault} (h : r.result = .error e) :
    r.FailsWith code ↔ e.exitCode = code := by
  constructor
  · rintro ⟨other, hother, hcode⟩
    cases h.symm.trans hother
    exact hcode
  · exact fun hcode => ⟨e, h, hcode⟩

theorem not_failsWith (h : r.result = .ok ()) : ¬ r.FailsWith code := by
  rintro ⟨e, he, -⟩
  cases h.symm.trans he

instance (r : Report) (code : ℕ) : Decidable (r.FailsWith code) :=
  match h : r.result with
  | .ok _ => .isFalse (not_failsWith h)
  | .error _ => decidable_of_iff _ (failsWith_iff h).symm

end Report

/-- A service that does not answer a run, or reports that it failed. -/
def Service.Answers.Refuses (service : Service.Answers) (plan : Plan) : Prop :=
  (∃ e, service (.run plan) = .error e) ∨
    ∃ report : RunReport, service (.run plan) = .ok report ∧ report.success = false

namespace Command

def Unreadable (file : Option String) : Prop :=
  ∀ text, file = some text → Document.ofText? text = none

def verdict : Except Failure RunReport → Except CommandFault Unit
  | .error e => .error (.failed (.run e.message))
  | .ok report =>
      if report.success then .ok ()
      else .error (.failed (.run (report.error.getD Session.unnamedError)))

section Document

variable {file : Option String} {d : Document}

theorem unreadable_of_openDocument {e : CommandFault} (h : openDocument file = .error e) :
    Unreadable file ∧ e.exitCode = 1 := by
  cases file with
  | none =>
      cases h
      exact ⟨nofun, rfl⟩
  | some text =>
      cases hread : Document.ofText? text with
      | none =>
          rw [openDocument, hread] at h
          cases h
          refine ⟨?_, rfl⟩
          rintro _ ⟨⟩
          exact hread
      | some d =>
          rw [openDocument, hread] at h
          cases h

theorem not_unreadable_of_openDocument (h : openDocument file = .ok d) : ¬ Unreadable file := by
  intro hunreadable
  cases file with
  | none => cases h
  | some text =>
      rw [openDocument, hunreadable text rfl] at h
      cases h

theorem sessionOf_running (d : Document) : (sessionOf d).running = false := by
  obtain ⟨staging, hsession⟩ := sessionOf_eq d
  rw [hsession]

theorem sessionOf_plan (d : Document) : (sessionOf d).plan = d.toGraph.plan .standard := by
  obtain ⟨staging, hsession⟩ := sessionOf_eq d
  rw [hsession]
  rfl

end Document

section Verdicts

variable {file : Option String} {d : Document}

theorem compile_of_unopened {e : CommandFault} (h : openDocument file = .error e) :
    compile file = .ofFault e := by
  rw [compile, h]

theorem compile_of_rejected (h : openDocument file = .ok d) {reason : Rejection}
    (hplan : d.toGraph.plan .standard = .error reason) :
    compile file = .ofFault (.invalid reason) := by
  rw [compile, h]
  simp only [sessionOf_plan, hplan]

theorem compile_of_planned (h : openDocument file = .ok d) {plan : Plan}
    (hplan : d.toGraph.plan .standard = .ok plan) :
    compile file = { output := lines [plan.toJson.pretty] } := by
  rw [compile, h]
  simp only [sessionOf_plan, hplan]

variable (service : Service.Answers)

theorem run_of_unopened {e : CommandFault} (h : openDocument file = .error e) :
    (run file).run service = (.ofFault e, []) := by
  rw [run, h]
  rfl

theorem result_run (h : openDocument file = .ok d) :
    ((run file).run service).1.result =
      match ((sessionOf d).run.run service).1.answer.toExcept with
      | .ok _ => .ok ()
      | .error e => .error (.failed e) := by
  rw [run, h]
  simp only [bind, Dialogue.run_bind]
  rfl

theorem calls_run (h : openDocument file = .ok d) :
    ((run file).run service).2 = ((sessionOf d).run.run service).2 := by
  rw [run, h]
  simp only [bind, Dialogue.run_bind]
  exact List.append_nil _

theorem run_of_rejected (h : openDocument file = .ok d) {reason : Rejection}
    (hplan : d.toGraph.plan .standard = .error reason) :
    ((run file).run service).1.result = .error (.failed (.rejected reason)) ∧
      ((run file).run service).2 = [] := by
  have hrun := Session.run_of_rejected service (sessionOf_running d)
    ((sessionOf_plan d).trans hplan)
  rw [result_run service h, calls_run service h, hrun]
  exact ⟨rfl, rfl⟩

theorem run_of_planned (h : openDocument file = .ok d) {plan : Plan}
    (hplan : d.toGraph.plan .standard = .ok plan) :
    ((run file).run service).1.result = verdict (service (.run plan)) ∧
      ((run file).run service).2 = [.run plan] := by
  have hidle := sessionOf_running d
  have hsame := (sessionOf_plan d).trans hplan
  have hcalls := Session.run_calls service hidle hsame
  refine ⟨?_, (calls_run service h).trans hcalls⟩
  rw [result_run service h, (sessionOf d).run_eq service hidle hsame]
  cases hanswer : service (.run plan) with
  | error e => rfl
  | ok report =>
      dsimp only [Session.outcomeOf, verdict]
      cases hsuccess : report.success <;> simp [Outcome.toExcept]

theorem verdict_of_refuses {plan : Plan} (h : service.Refuses plan) :
    ∃ message, verdict (service (.run plan)) = .error (.failed (.run message)) := by
  rcases h with ⟨e, he⟩ | ⟨report, hreport, hfailed⟩
  · refine ⟨e.message, ?_⟩
    rw [he]
    rfl
  · refine ⟨report.error.getD Session.unnamedError, ?_⟩
    rw [hreport]
    exact if_neg (by simp [hfailed])

theorem verdict_of_not_refuses {plan : Plan} (h : ¬ service.Refuses plan) :
    verdict (service (.run plan)) = .ok () := by
  cases hanswer : service (.run plan) with
  | error e => exact absurd (.inl ⟨e, hanswer⟩) h
  | ok report =>
      apply if_pos
      by_contra hfailed
      exact h (.inr ⟨report, hanswer, by simpa using hfailed⟩)

theorem failsWith_of_verdict {r : Report} {plan : Plan}
    (h : r.result = verdict (service (.run plan))) :
    (r.FailsWith 1 ↔ service.Refuses plan) ∧ ¬ r.FailsWith 2 := by
  by_cases hrefused : service.Refuses plan
  · obtain ⟨message, hverdict⟩ := verdict_of_refuses service hrefused
    have hfails (code : ℕ) : r.FailsWith code ↔ 1 = code :=
      Report.failsWith_iff (h.trans hverdict)
    rw [hfails, hfails]
    exact ⟨iff_of_true rfl hrefused, by decide⟩
  · have hdone := h.trans (verdict_of_not_refuses service hrefused)
    exact ⟨iff_of_false (Report.not_failsWith hdone) hrefused, Report.not_failsWith hdone⟩

/-- Whatever a file holds and however the service answers, planning the file fails over its graph
just if running it does, and then the service is asked nothing; what cannot be read fails both. A
plan that is printed is what the run asks the service for, once, and the run fails just if that is
refused. -/
theorem compile_run_agree (file : Option String) (service : Service.Answers) :
    let compiled := compile file
    let ran := ((run file).run service).1
    let calls := ((run file).run service).2
    (compiled.FailsWith 2 ↔ ran.FailsWith 2) ∧
    (compiled.FailsWith 2 → calls = []) ∧
    (compiled.FailsWith 1 ↔ Unreadable file) ∧
    (compiled.FailsWith 1 → ran.FailsWith 1) ∧
    (compiled.result = .ok () → ∃ plan,
      compiled.output = lines [plan.toJson.pretty] ∧ calls = [.run plan] ∧
      (ran.FailsWith 1 ↔ service.Refuses plan)) := by
  cases hopen : openDocument file with
  | error e =>
      obtain ⟨hunreadable, hcode⟩ := unreadable_of_openDocument hopen
      rw [compile_of_unopened hopen, run_of_unopened service hopen]
      have hfails (code : ℕ) : (Report.ofFault e).FailsWith code ↔ e.exitCode = code :=
        Report.failsWith_iff rfl
      refine ⟨Iff.rfl, fun _ => rfl, ?_, fun h => h, nofun⟩
      rw [hfails]
      exact iff_of_true hcode hunreadable
  | ok d =>
      have hreadable := not_unreadable_of_openDocument hopen
      cases hplan : d.toGraph.plan .standard with
      | error reason =>
          obtain ⟨hresult, hcalls⟩ := run_of_rejected service hopen hplan
          rw [compile_of_rejected hopen hplan, hcalls]
          have hfails (code : ℕ) : (Report.ofFault (.invalid reason)).FailsWith code ↔ 2 = code :=
            Report.failsWith_iff (e := .invalid reason) rfl
          have hran (code : ℕ) : ((run file).run service).1.FailsWith code ↔ 2 = code :=
            Report.failsWith_iff hresult
          refine ⟨(hfails 2).trans (hran 2).symm, fun _ => rfl, ?_, ?_, nofun⟩
          · exact iff_of_false (fun h => absurd ((hfails 1).mp h) (by decide)) hreadable
          · exact fun h => absurd ((hfails 1).mp h) (by decide)
      | ok plan =>
          obtain ⟨hresult, hcalls⟩ := run_of_planned service hopen hplan
          obtain ⟨hfails, hvalid⟩ := failsWith_of_verdict service hresult
          rw [compile_of_planned hopen hplan, hcalls]
          have hdone (code : ℕ) :
              ¬ ({ output := lines [plan.toJson.pretty] } : Report).FailsWith code :=
            Report.not_failsWith rfl
          exact ⟨iff_of_false (hdone 2) hvalid, fun h => absurd h (hdone 2),
            iff_of_false (hdone 1) hreadable, fun h => absurd h (hdone 1),
            fun _ => ⟨plan, rfl, rfl, hfails⟩⟩

set_option maxRecDepth 10000 in
/-- The plan of a question with its reply is refused by a service that is down. The reply alone has
no plan. -/
theorem question_compile_run_agree :
    let service := Session.runService (.error (.service "down"))
    let whole := some (documentText (questionText ++ "," ++ answeredText))
    let half := some (documentText answeredText)
    (compile whole).result = .ok () ∧ ((run whole).run service).1.FailsWith 1 ∧
    ((run whole).run service).2.length = 1 ∧
    (compile half).FailsWith 2 ∧ ((run half).run service).1.FailsWith 2 ∧
    ((run half).run service).2 = [] ∧
    (compile none).FailsWith 1 ∧ ((run none).run service).1.FailsWith 1 := by
  intro service whole half
  have hwhole : (compile whole).result = .ok () := by decide +kernel
  have hhalf : (compile half).FailsWith 2 := by decide +kernel
  obtain ⟨hfault, hunasked, -, -, -⟩ := compile_run_agree half service
  obtain ⟨-, -, hunread, hmissing, -⟩ := compile_run_agree none service
  obtain ⟨-, -, -, -, hplanned⟩ := compile_run_agree whole service
  obtain ⟨plan, -, hcalls, hrefused⟩ := hplanned hwhole
  have hnone := hunread.mpr nofun
  exact ⟨hwhole, hrefused.mpr (.inl ⟨_, rfl⟩), congrArg List.length hcalls, hhalf, hfault.mp hhalf,
    hunasked hhalf, hnone, hmissing hnone⟩

end Verdicts

end Command

end NodeCanvas
