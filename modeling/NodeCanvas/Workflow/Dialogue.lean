import NodeCanvas.Workflow.Stored
import NodeCanvas.Choices.Cache
import NodeCanvas.Plan.Basic
import NodeCanvas.Run.Report

/-!
Questions to the service behind a canvas. A dialogue is a computation that asks some of them; it
is run against all the answers at once, or one question after the other.
-/
namespace NodeCanvas

inductive Call where
  | choices (key : ChoiceKey)
  | listing
  | run (plan : Plan)
  | save (request : SaveRequest)
  | load (id : String)
  | workflows
deriving DecidableEq

def Call.Result : Call → Type
  | .choices _ => List Choice
  | .listing => Listing
  | .run _ => RunReport
  | .save _ => Json
  | .load _ => StoredWorkflow
  | .workflows => List WorkflowSummary

instance (call : Call) : Written call.Result :=
  match call with
  | .choices _ => inferInstanceAs (Written (List Choice))
  | .listing => inferInstanceAs (Written Listing)
  | .run _ => inferInstanceAs (Written RunReport)
  | .save _ => inferInstanceAs (Written Json)
  | .load _ => inferInstanceAs (Written StoredWorkflow)
  | .workflows => inferInstanceAs (Written (List WorkflowSummary))

def Call.Answer (call : Call) : Type := Except Failure call.Result

def Service.Answers : Type := (call : Call) → call.Answer

inductive Dialogue (α : Type) where
  | done (value : α)
  | ask (call : Call) (next : call.Answer → Dialogue α)

namespace Dialogue

variable {α β : Type}

def bind : Dialogue α → (α → Dialogue β) → Dialogue β
  | .done a, f => f a
  | .ask call next, f => .ask call fun answer => (next answer).bind f

instance : Monad Dialogue where
  pure := .done
  bind := bind

/-- The result of a dialogue and the calls that were made, in order. -/
def run (service : Service.Answers) : Dialogue α → α × List Call
  | .done a => (a, [])
  | .ask call next =>
    let (a, calls) := (next (service call)).run service
    (a, call :: calls)

/-- The dialogue held with a partner who answers one call at a time. -/
def hold {m : Type → Type} [Monad m] (answer : (call : Call) → m call.Answer) :
    Dialogue α → m α
  | .done a => return a
  | .ask call next => do
    let reply ← answer call
    (next reply).hold answer

@[simp] theorem run_done (service : Service.Answers) (a : α) :
    (done a).run service = (a, []) := rfl

theorem run_ask (service : Service.Answers) (call : Call) (next : call.Answer → Dialogue α) :
    (ask call next).run service =
      (((next (service call)).run service).1, call :: ((next (service call)).run service).2) :=
  rfl

theorem run_bind (service : Service.Answers) (d : Dialogue α) (f : α → Dialogue β) :
    (d.bind f).run service =
      (((f (d.run service).1).run service).1,
        (d.run service).2 ++ ((f (d.run service).1).run service).2) := by
  induction d with
  | done a => simp [bind]
  | ask call next ih => simp [bind, run_ask, ih]

end Dialogue

end NodeCanvas
