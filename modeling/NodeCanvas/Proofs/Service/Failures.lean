import NodeCanvas.Command
import NodeCanvas.Proofs.Json.Record

/-!
What becomes of a reply that reports a failure. A call whose result is wrapped tells of the failure
where the rest of the reply has the form it should, and of an unreadable reply where it has not.
What the service answers to a workflow that it should keep is not looked at.
-/
namespace NodeCanvas.Service

abbrev Forms := List (String × (Source → Bool))

def Forms.names (forms : Forms) : List String := forms.map (·.1)

/-- The keys of the members can be read, a field is not repeated, and every field has its form. -/
def Forms.Regular (forms : Forms) (members : List (Option String × Source)) : Prop :=
  ∃ named, members = Source.keyed named ∧
    ((named.map (·.1)).filter fun key => forms.names.contains key).Nodup ∧
    ∀ form ∈ forms, ∀ s, (form.1, s) ∈ named → form.2 s = true

def flagForm (s : Source) : Bool := s.flag?.isSome

/-- A field that may be `null`. -/
def orNullForm {α : Type} (read : Source → Option α) : Source → Bool
  | .null => true
  | s => (read s).isSome

def envelopeForms {α : Type} (read : Source → Option α) : Forms := [
  ("success", flagForm),
  ("data", orNullForm read),
  ("error", orNullForm Source.text?),
  ("message", orNullForm Source.text?)]

/-- The fields of the replies to those calls whose result is wrapped. -/
def replyForms? : Call → Option Forms
  | .listing => some [
      ("success", flagForm),
      ("data", fun s => (Listing.ofSource? s).isSome)]
  | .choices key =>
      if key.family = modelsFamily then some (envelopeForms modelsOfSource?)
      else some [
        ("success", flagForm),
        ("collections", fun s => (s.list? collectionOfSource?).isSome)]
  | .load _ => some (envelopeForms StoredWorkflow.ofSource?)
  | .workflows => some (envelopeForms (Source.list? WorkflowSummary.ofSource?))
  | .run _ | .save _ => none

section Reading

variable {α : Type} {members : List (Option String × Source)}

theorem orNullForm_iff {read : Source → Option α} {s : Source} :
    orNullForm read s = true ↔ s = .null ∨ (read s).isSome := by
  cases s <;> simp [orNullForm]

/-- Members are regular just if they are read as fields that have their forms. -/
theorem Forms.regular_iff {forms : Forms} :
    forms.Regular members ↔ ∃ f, Source.openFields? forms.names (.obj members) = some f ∧
      ∀ form ∈ forms, ∀ s, f.find? form.1 = some s → form.2 s = true := by
  simp only [Source.openFields?_obj_eq_some_iff]
  have hkeys (named : List (String × Source)) :
      (named.map (·.1)).filter (fun key => forms.names.contains key) =
        (Fields.ofMembers forms.names named).declared.map (·.1) := by
    rw [List.filter_map]
    rfl
  have hfound {named : List (String × Source)}
      (hnodup : ((Fields.ofMembers forms.names named).declared.map (·.1)).Nodup)
      {form : String × (Source → Bool)} (hform : form ∈ forms) {s : Source} :
      (Fields.ofMembers forms.names named).find? form.1 = some s ↔ (form.1, s) ∈ named :=
    Fields.find?_ofMembers_eq_some_iff hnodup (List.mem_map.mpr ⟨form, hform, rfl⟩)
  constructor
  · rintro ⟨named, rfl, hnodup, hforms⟩
    rw [hkeys] at hnodup
    refine ⟨_, ⟨named, rfl, hnodup, rfl⟩, ?_⟩
    intro form hform s hs
    exact hforms form hform s ((hfound hnodup hform).mp hs)
  · rintro ⟨_, ⟨named, rfl, hnodup, rfl⟩, hforms⟩
    refine ⟨named, rfl, by rwa [hkeys], ?_⟩
    intro form hform s hs
    exact hforms form hform s ((hfound hnodup hform).mpr hs)

/-- A flag that is told is found. -/
theorem find?_success {names : List String} {f : Fields}
    (h : Source.openFields? names (.obj members) = some f) (hname : "success" ∈ names)
    (hfailure : (some "success", .bool false) ∈ members) :
    f.find? "success" = some (.bool false) := by
  obtain ⟨named, rfl, hnodup, rfl⟩ := Source.openFields?_obj_eq_some_iff.mp h
  rw [Fields.find?_ofMembers_eq_some_iff hnodup hname]
  simpa [Source.keyed] using hfailure

/-- What a reader makes of members that tell of a failure: it reads them if they are regular, and
finds the flag unset. -/
structure Reads (forms : Forms) (read : Source → Option α) (success : α → Bool) : Prop where
  isSome_iff : ∀ members, (some "success", .bool false) ∈ members →
    ((read (.obj members)).isSome ↔ forms.Regular members)
  failed : ∀ members reply, (some "success", .bool false) ∈ members →
    read (.obj members) = some reply → success reply = false

theorem reads_envelope (read : Source → Option α) :
    Reads (envelopeForms read) (Envelope.ofSource? read) Envelope.success where
  isSome_iff := by
    intro members hfailure
    simp only [Forms.regular_iff, Envelope.ofSource?, Source.fields?_obj, Option.bind_eq_bind,
      Option.pure_def, Fields.isSome_bind_iff, Option.isSome_some, and_true, exists_and_right,
      ← Option.isSome_iff_exists]
    refine exists_congr fun f => and_congr_right fun hf => ?_
    rw [Fields.nullable?_of_named (Source.byPlace_of_openFields? hf)]
    simp [envelopeForms, Fields.isSome_given?, Fields.isSome_optional?, flagForm, orNullForm_iff]
  failed := by
    intro members reply hfailure hreply
    simp only [Envelope.ofSource?, Source.fields?_obj, Option.bind_eq_bind,
      Option.bind_eq_some_iff] at hreply
    obtain ⟨f, hf, flag, hflag, _, -, _, -, _, -, hreply⟩ := hreply
    cases hreply
    rw [Fields.given?, find?_success hf (by decide) hfailure] at hflag
    cases hflag
    rfl

theorem reads_listing :
    Reads [("success", flagForm), ("data", fun s => (Listing.ofSource? s).isSome)]
      ListingReply.ofSource? ListingReply.success where
  isSome_iff := by
    intro members hfailure
    simp only [Forms.regular_iff, ListingReply.ofSource?, Source.fields?_obj, Option.bind_eq_bind,
      Option.pure_def, Fields.isSome_bind_iff, Option.isSome_some, and_true, exists_and_right,
      ← Option.isSome_iff_exists]
    refine exists_congr fun f => and_congr_right fun hf => ?_
    have hfound := find?_success hf (by decide) hfailure
    simp [Fields.isSome_required?, Fields.isSome_given?, flagForm, hfound]
  failed := by
    intro members reply hfailure hreply
    simp only [ListingReply.ofSource?, Source.fields?_obj, Option.bind_eq_bind,
      Option.bind_eq_some_iff] at hreply
    obtain ⟨f, hf, flag, hflag, _, -, hreply⟩ := hreply
    cases hreply
    rw [Fields.required?, find?_success hf (by decide) hfailure] at hflag
    cases hflag
    rfl

theorem reads_collections :
    Reads [("success", flagForm),
        ("collections", fun s => (s.list? collectionOfSource?).isSome)]
      collectionsOfSource? Prod.fst where
  isSome_iff := by
    intro members hfailure
    simp only [Forms.regular_iff, collectionsOfSource?, Source.fields?_obj, Option.bind_eq_bind,
      Option.pure_def, Fields.isSome_bind_iff, Option.isSome_some, and_true, exists_and_right,
      ← Option.isSome_iff_exists]
    refine exists_congr fun f => and_congr_right fun hf => ?_
    simp [Fields.isSome_given?, flagForm]
  failed := by
    intro members reply hfailure hreply
    simp only [collectionsOfSource?, Source.fields?_obj, Option.bind_eq_bind,
      Option.bind_eq_some_iff] at hreply
    obtain ⟨f, hf, flag, hflag, _, -, hreply⟩ := hreply
    cases hreply
    rw [Fields.given?, find?_success hf (by decide) hfailure] at hflag
    cases hflag
    rfl

end Reading

section Outcome

variable {r : Reply} {members : List (Option String × Source)}

theorem readBody_eq {α : Type} (hstatus : 200 ≤ r.status ∧ r.status < 300)
    (hbody : Source.ofText? r.body = some (.obj members)) (read : Source → Option α) :
    readBody read r = (read (.obj members)).elim (.error .unreadable) .ok := by
  rw [readBody, if_pos hstatus, hbody]
  rfl

theorem result_save (hstatus : 200 ≤ r.status ∧ r.status < 300)
    (hbody : Source.ofText? r.body = some (.obj members)) (request : SaveRequest) :
    result (.save request) r = (Source.toJson? (.obj members)).elim (.error .unreadable) .ok :=
  readBody_eq hstatus hbody _

/-- What is told of a reply that reports a failure. -/
def ToldBy {β : Type} (forms : Forms) (members : List (Option String × Source))
    (answer : Except Fault β) : Prop :=
  ((∃ reason, answer = .error (.unsuccessful reason)) ↔ forms.Regular members) ∧
    (answer = .error .unreadable ↔ ¬ forms.Regular members)

theorem Reads.toldBy {α β : Type} {forms : Forms} {read : Source → Option α}
    {success : α → Bool} (h : Reads forms read success)
    (hstatus : 200 ≤ r.status ∧ r.status < 300)
    (hbody : Source.ofText? r.body = some (.obj members))
    (hfailure : (some "success", .bool false) ∈ members) {unwrap : α → Except Fault β}
    (hunwrap : ∀ reply, success reply = false →
      ∃ reason, unwrap reply = .error (.unsuccessful reason)) :
    ToldBy forms members (readBody read r >>= unwrap) := by
  rw [readBody_eq hstatus hbody, ToldBy, ← h.isSome_iff members hfailure]
  cases hreply : read (.obj members) with
  | none => simp [bind, Except.bind]
  | some reply =>
      obtain ⟨reason, hreason⟩ := hunwrap reply (h.failed members reply hfailure hreply)
      simp [bind, Except.bind, hreason]

theorem Envelope.open?_of_failed {α : Type} (what : String) (e : Envelope α)
    (h : e.success = false) : ∃ reason, e.open? what = .error (.unsuccessful reason) := by
  rw [open?, h]
  exact ⟨_, rfl⟩

theorem result_toldBy (hstatus : 200 ≤ r.status ∧ r.status < 300)
    (hbody : Source.ofText? r.body = some (.obj members))
    (hfailure : (some "success", .bool false) ∈ members) {call : Call} {forms : Forms}
    (hforms : replyForms? call = some forms) : ToldBy forms members (result call r) := by
  have hflag {β : Type} {flag : Bool} (hflag : flag = false) (answer : Except Fault β)
      (reason : String) :
      ∃ told, (if flag then answer else throw (.unsuccessful reason)) =
        .error (.unsuccessful told) := by
    rw [hflag]
    exact ⟨reason, rfl⟩
  cases call with
  | listing =>
      cases hforms
      exact reads_listing.toldBy hstatus hbody hfailure fun reply hreply => hflag hreply _ _
  | choices key =>
      rw [replyForms?] at hforms
      rw [result]
      split at hforms
      · rename_i hkey
        cases hforms
        rw [if_pos hkey]
        exact (reads_envelope _).toldBy hstatus hbody hfailure (Envelope.open?_of_failed _)
      · rename_i hkey
        cases hforms
        rw [if_neg hkey]
        exact reads_collections.toldBy hstatus hbody hfailure fun reply hreply => hflag hreply _ _
  | load id =>
      cases hforms
      exact (reads_envelope _).toldBy hstatus hbody hfailure (Envelope.open?_of_failed _)
  | workflows =>
      cases hforms
      exact (reads_envelope _).toldBy hstatus hbody hfailure (Envelope.open?_of_failed _)
  | run plan => cases hforms
  | save request => cases hforms

/-- The report of a document that is sent to a service which answers everything by one reply. -/
def pushed (c : Client) (r : Reply) (file name : Option String) : Report :=
  Id.run ((Command.push file name).hold (c.answer fun _ => pure (some r)))

def saveCall (d : Document) (name : Option String) : Call :=
  .save { name := name.getD d.name, data := .ofGraph (Command.sessionOf d).graph }

def savedLine (name : String) (answer : Json) : String :=
  match answer.member? "id" with
  | some id => "Saved '" ++ name ++ "' as " ++ id.compact
  | none => "Saved '" ++ name ++ "'"

theorem answer_save {c : Client} {d : Document} {name : Option String} {sent : Request}
    (hsent : request c.settings (saveCall d name) = .ok sent) :
    Id.run (c.answer (fun _ => pure (some r)) (saveCall d name)) =
      (result (saveCall d name) r).mapError (Fault.toFailure (saveCall d name)) := by
  simp only [Client.answer, Client.ask, hsent, pure_bind]
  rfl

theorem pushed_eq {c : Client} {file name : Option String} {d : Document}
    (hopen : Command.openDocument file = .ok d) {sent : Request}
    (hsent : request c.settings (saveCall d name) = .ok sent) :
    pushed c r file name =
      match readBody Source.toJson? r with
      | .error e => .ofFault (.failed (.service e.message))
      | .ok answer => { output := Command.lines [savedLine (name.getD d.name) answer] } := by
  have hanswer := answer_save (r := r) hsent
  rw [pushed, Command.push, hopen]
  change Id.run (Dialogue.hold _ (Dialogue.bind (.ask (saveCall d name) .done) _)) = _
  simp only [Dialogue.bind, Dialogue.hold]
  rw [Id.run_bind, hanswer, show result (saveCall d name) r = readBody Source.toJson? r from rfl]
  cases readBody Source.toJson? r with
  | error e => rfl
  | ok answer =>
      simp only [Except.mapError, savedLine]
      cases answer.member? "id" <;> rfl

/-- A reply that reports a failure is told as one just if the rest of it has the form of what was
asked for, and as unreadable if it has not. An answer to a document that was to be kept is taken
for a success as soon as it can be read, and printed as one. -/
theorem reported_failure_iff (hstatus : 200 ≤ r.status ∧ r.status < 300)
    (hbody : Source.ofText? r.body = some (.obj members))
    (hfailure : (some "success", .bool false) ∈ members) :
    (∀ call forms, replyForms? call = some forms → ToldBy forms members (result call r)) ∧
    (∀ request : SaveRequest, result (.save request) r =
      (Source.toJson? (.obj members)).elim (.error .unreadable) .ok) ∧
    ∀ (c : Client) (file name : Option String) (d : Document) (sent : Request),
      Command.openDocument file = .ok d → request c.settings (saveCall d name) = .ok sent →
      pushed c r file name =
        match Source.toJson? (.obj members) with
        | none => .ofFault (.failed (.service Fault.unreadable.message))
        | some answer => { output := Command.lines [savedLine (name.getD d.name) answer] } := by
  refine ⟨?_, ?_, ?_⟩
  · intro call forms hforms
    exact result_toldBy hstatus hbody hfailure hforms
  · intro request
    exact result_save hstatus hbody request
  · intro c file name d sent hopen hsent
    rw [pushed_eq hopen hsent, readBody_eq hstatus hbody]
    cases Source.toJson? (.obj members) <;> rfl

def refusal : Reply := ⟨200, "\x7b\"success\":false\x7d"⟩

def localClient : Client := ⟨{ baseUrl := "http://[::1]:8000" }, by decide⟩

theorem refusal_text :
    Source.ofText? refusal.body = some (.obj [(some "success", .bool false)]) := rfl

theorem refusal_value : Source.toJson? (.obj [(some "success", .bool false)]) =
    some (.obj [("success", .bool false)]) := rfl

theorem refusal_reported :
    (∀ call forms, replyForms? call = some forms →
      ToldBy forms [(some "success", .bool false)] (result call refusal)) ∧
    ∃ d sent, Command.openDocument (some "\x7b\x7d") = .ok d ∧
      request localClient.settings (saveCall d (some "mine")) = .ok sent ∧
      pushed localClient refusal (some "\x7b\x7d") (some "mine") =
        { output := Command.lines [savedLine "mine" (.obj [("success", .bool false)])] } := by
  obtain ⟨htold, -, hpushed⟩ :=
    reported_failure_iff (by decide) refusal_text (List.mem_singleton_self _)
  have hopen : Command.openDocument (some "\x7b\x7d") = .ok {} := rfl
  cases hsent : request localClient.settings (saveCall {} (some "mine")) with
  | error e =>
      have hok : (request localClient.settings (saveCall {} (some "mine"))).isOk = true := by
        decide +kernel
      rw [hsent] at hok
      cases hok
  | ok sent =>
      have hprinted := hpushed localClient _ (some "mine") {} sent hopen hsent
      rw [refusal_value, Option.getD_some] at hprinted
      exact ⟨htold, {}, sent, hopen, hsent, hprinted⟩

/-- The refusal of a document that was to be kept is taken for a success, and a refusal whose data
cannot be read is told as an unreadable reply. -/
theorem refusal_taken_for_success :
    (∀ request, result (.save request) refusal = .ok (.obj [("success", .bool false)])) ∧
    (pushed localClient refusal (some "\x7b\x7d") (some "mine")).output = "Saved 'mine'\n" ∧
    (pushed localClient refusal (some "\x7b\x7d") (some "mine")).result = .ok () ∧
    result (.load "7") ⟨200, "\x7b\"success\":false,\"data\":5\x7d"⟩ = .error .unreadable := by
  refine ⟨?_, ?_, ?_, rfl⟩
  · intro request
    rw [result_save (by decide) refusal_text, refusal_value]
    rfl
  · decide +kernel
  · decide +kernel

end Outcome

end NodeCanvas.Service
