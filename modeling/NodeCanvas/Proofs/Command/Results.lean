import NodeCanvas.Command
import NodeCanvas.Proofs.Run.Shown
import NodeCanvas.Proofs.Session.Submission

namespace NodeCanvas.Command

/-- The line tells what a report gives a node of the graph. -/
def Told (g : Graph) (report : RunReport) (line : String) : Prop :=
  ∃ n ∈ g.nodes,
    (∃ content, report.contentOf? n.id = some content ∧
      line = n.id ++ " [" ++ n.type.key ++ "]" ++ ": " ++ content) ∨
    ∃ error, report.errorOf? n.id = some error ∧
      line = n.id ++ " [" ++ n.type.key ++ "]" ++ " error: " ++ error

/-- The report of a run of a document. There is none if the document cannot be run, and none if
the service does not give one. -/
def report? (service : Service.Answers) (d : Document) : Option RunReport :=
  match d.toGraph.plan .standard with
  | .error _ => none
  | .ok plan =>
      match service (.run plan) with
      | .error _ => none
      | .ok report => some report

/-- Every line that a run of a file writes is told by the report of that run. -/
def Current (file : Option String) (service : Service.Answers) : Prop :=
  ∃ texts, ((run file).run service).1.output = lines texts ∧
    ∀ line ∈ texts, ∃ d report, openDocument file = .ok d ∧ report? service d = some report ∧
      Told d.toGraph report line

/-- The nodes that a run of a document leaves. -/
def nodesAfter (service : Service.Answers) (d : Document) : List Node :=
  match report? service d with
  | some report => d.toGraph.nodes.map fun n =>
      { n with annotations := report.data.shownOn n.id }
  | none => d.toGraph.nodes

section Lines

theorem lines_eq_empty_iff {texts : List String} : lines texts = "" ↔ texts = [] := by
  cases texts with
  | nil => simp [lines]
  | cons text rest =>
      simp [lines, String.join_cons]

theorem nodeLines_eq_nil_iff {n : Node} :
    nodeLines n = [] ↔ n.annotations.content = none ∧ n.annotations.error = none := by
  simp [nodeLines]

/-- What a node shows of a report is told by it. -/
theorem told_of_mem_nodeLines {g : Graph} {report : RunReport} {n : Node} (hn : n ∈ g.nodes)
    {line : String}
    (h : line ∈ nodeLines { n with annotations := report.data.shownOn n.id }) :
    Told g report line := by
  refine ⟨n, hn, ?_⟩
  simp only [nodeLines, RunData.content_shownOn, List.mem_append, Option.mem_toList,
    Option.map_eq_some_iff] at h
  rcases h with ⟨content, hcontent, rfl⟩ | ⟨error, herror, rfl⟩
  · exact .inl ⟨content, hcontent, rfl⟩
  · exact .inr ⟨error, herror, rfl⟩

end Lines

section Run

variable (service : Service.Answers) (d : Document)

theorem sessionOf_eq :
    ∃ staging, sessionOf d = { ({} : Session) with graph := d.toGraph, staging } :=
  ⟨_, Session.replaceGraph_session {} d.toGraph⟩

theorem graph_outcomeOf_ok (g : Graph) (report : RunReport) :
    (Session.outcomeOf g (.ok report)).2 = (g.project report).2 := by
  unfold Session.outcomeOf
  dsimp only
  split <;> rfl

/-- A run shows its report, and leaves the nodes as they came where it has none. -/
theorem nodes_run :
    ((sessionOf d).run.run service).1.session.graph.nodes = nodesAfter service d := by
  obtain ⟨staging, hsession⟩ := sessionOf_eq d
  have hidle : (sessionOf d).running = false := by rw [hsession]
  have hgraph : (sessionOf d).graph = d.toGraph := by rw [hsession]
  have hrules : (sessionOf d).plan = d.toGraph.plan .standard := by rw [hsession]; rfl
  cases hplan : d.toGraph.plan .standard with
  | error reason =>
      rw [Session.run_of_rejected service hidle (hrules.trans hplan)]
      simp only [nodesAfter, report?, hplan]
      exact congrArg Graph.nodes hgraph
  | ok plan =>
      rw [Session.run_session _ service hidle (hrules.trans hplan), hgraph]
      cases hanswer : service (.run plan) with
      | error e =>
          simp only [nodesAfter, report?, hplan, hanswer]
          rfl
      | ok report =>
          have hdistinct : d.toGraph.nodeIds.Nodup := (Graph.wellFormed_ofParts _ _).distinct
          simp only [nodesAfter, report?, hplan, hanswer]
          exact (congrArg Graph.nodes (graph_outcomeOf_ok _ report)).trans
            (Graph.project_nodes hdistinct report)

theorem output_run {file : Option String} (h : openDocument file = .ok d) :
    ((run file).run service).1.output = lines ((nodesAfter service d).flatMap nodeLines) := by
  rw [run, h]
  simp only [bind, Dialogue.run_bind, nodes_run]
  rfl

variable {service d}

/-- Without a report nothing may be written, so that no node may show anything. -/
theorem Current.clean {file : Option String} (h : Current file service)
    (hopen : openDocument file = .ok d) (hreport : report? service d = none) :
    ∀ n ∈ d.toGraph.nodes, n.annotations.content = none ∧ n.annotations.error = none := by
  obtain ⟨texts, houtput, htold⟩ := h
  have hempty : texts = [] := by
    refine List.eq_nil_iff_forall_not_mem.mpr fun line hline => ?_
    obtain ⟨_, report, hopen', hreport', -⟩ := htold line hline
    cases hopen.symm.trans hopen'
    rw [hreport] at hreport'
    cases hreport'
  rw [output_run service d hopen, hempty, nodesAfter, hreport] at houtput
  have hlines := List.flatMap_eq_nil_iff.mp (lines_eq_empty_iff.mp houtput)
  exact fun n hn => nodeLines_eq_nil_iff.mp (hlines n hn)

theorem current_of_clean {file : Option String} (hopen : openDocument file = .ok d)
    (hclean : report? service d = none →
      ∀ n ∈ d.toGraph.nodes, n.annotations.content = none ∧ n.annotations.error = none) :
    Current file service := by
  refine ⟨_, output_run service d hopen, fun line hline => ?_⟩
  obtain ⟨n, hn, hline⟩ := List.mem_flatMap.mp hline
  unfold nodesAfter at hn
  cases hreport : report? service d with
  | none =>
      rw [hreport] at hn
      rw [nodeLines_eq_nil_iff.mpr (hclean hreport n hn)] at hline
      cases hline
  | some report =>
      rw [hreport] at hn
      obtain ⟨m, hm, rfl⟩ := List.mem_map.mp hn
      exact ⟨d, report, hopen, hreport, told_of_mem_nodeLines hm hline⟩

/-- A run writes what its nodes show in the end. That is told by its report where there is one; all
lines are, just if without a report no node of the document came along with a response or an
error. -/
theorem run_current_iff (file : Option String) (service : Service.Answers) :
    (∀ d, openDocument file = .ok d →
      ((run file).run service).1.output = lines ((nodesAfter service d).flatMap nodeLines)) ∧
    (Current file service ↔ ∀ d, openDocument file = .ok d → report? service d = none →
      ∀ n ∈ d.toGraph.nodes, n.annotations.content = none ∧ n.annotations.error = none) := by
  refine ⟨fun d hopen => output_run service d hopen, ?_⟩
  constructor
  · intro h d hopen hreport
    exact h.clean hopen hreport
  · intro hclean
    cases hopen : openDocument file with
    | error e =>
        refine ⟨[], ?_, fun _ h => absurd h List.not_mem_nil⟩
        rw [run, hopen]
        rfl
    | ok d => exact current_of_clean hopen (hclean d hopen)

def showsEarlier (service : Service.Answers) (file : Option String) : Bool :=
  (openDocument file).toOption.any fun d =>
    (report? service d).isNone && d.toGraph.nodes.any fun n => n.annotations.content.isSome

theorem not_current_of_showsEarlier {file : Option String}
    (h : showsEarlier service file = true) : ¬ Current file service := by
  intro hcurrent
  cases hopen : openDocument file with
  | error e =>
      rw [showsEarlier, hopen] at h
      cases h
  | ok d =>
      have hshown : ((report? service d).isNone &&
          d.toGraph.nodes.any fun n => n.annotations.content.isSome) = true := by
        rwa [showsEarlier, hopen] at h
      rw [Bool.and_eq_true, Option.isNone_iff_eq_none, List.any_eq_true] at hshown
      obtain ⟨hreport, n, hn, hcontent⟩ := hshown
      rw [(hcurrent.clean hopen hreport n hn).1] at hcontent
      cases hcontent

def questionText : String :=
  "\x7b\"id\":\"q\",\"data\":\x7b\"nodeSchema\":" ++
    "\x7b\"node_id\":\"query_node\",\"name\":\"QueryNode\"\x7d\x7d\x7d"

/-- A reply that shows what it received in an earlier run. -/
def answeredText : String :=
  "\x7b\"id\":\"r\",\"data\":\x7b\"nodeSchema\":" ++
    "\x7b\"node_id\":\"response_node\",\"name\":\"ResponseNode\"\x7d," ++
    "\"response_content\":\"Because.\"\x7d\x7d"

def documentText (nodes : String) : String := "\x7b\"nodes\":[" ++ nodes ++ "]\x7d"

set_option maxRecDepth 10000 in
/-- The response of an earlier run is written where the service fails, and where the document
cannot be run. -/
theorem earlier_response_written :
    ¬ Current (some (documentText (questionText ++ "," ++ answeredText)))
      (Session.runService (.error (.service "down"))) ∧
    ¬ Current (some (documentText answeredText)) (Session.runService (.ok {})) := by
  constructor <;> exact not_current_of_showsEarlier (by decide +kernel)

end Run

end NodeCanvas.Command
