import NodeCanvas.Proofs.Url.Endpoints
import NodeCanvas.Proofs.Url.Segments
import NodeCanvas.Service.Exchange

namespace NodeCanvas.Service

open Url

def workflowNames : List String := ["api", "v1", "workflows"]

def modelNames : List String := ["api", "v1", "nodes", "models"]

def collectionNames : List String := ["api", "v1", "vector-store", "collections"]

/-- The calls that ask for what a text names below some path. -/
inductive Asks : Call → List String → String → Prop where
  | load (id : String) : Asks (.load id) workflowNames id
  | models (provider : String) :
    Asks (.choices (.dependent modelsFamily provider)) modelNames provider

def place? (scheme : String) : Call → Option (List String)
  | .listing => some ["api", "v1", "nodes", ""]
  | .workflows => some (workflowNames ++ [""])
  | .load id => some ((lead id.toList).goes scheme workflowNames)
  | .choices key =>
    if key.family = modelsFamily then
      key.selector.map fun provider => (lead provider.toList).goes scheme modelNames
    else if key.family = collectionsFamily then some collectionNames
    else none
  | .run _ | .save _ => none

def asked (s : Settings) (base : Url) (names : List String) : Request :=
  { method := .get, url := { base with path := .segments names }, userAgent := s.userAgent }

theorem asked_inj {s : Settings} {base : Url} {names others : List String} :
    asked s base names = asked s base others ↔ names = others := by
  simp [asked]

/-- Paths of the service are read below some names of a base address. -/
def ReadBelow (s : Settings) (base : Url) (front : List String) : Prop :=
  ∀ names, names ≠ [] → (∀ name ∈ names, Standing name) →
    Url.ofText (s.endpoint (UrlPath.segments names).text) =
      .ok { base with path := .segments (front ++ names) }

theorem checkScheme_ok {r : Request} (h : r.url.scheme = "http" ∨ r.url.scheme = "https") :
    checkScheme r = .ok r := by
  rw [checkScheme, if_pos]
  simpa using h

section Reading

variable {s : Settings} {base : Url} {front names : List String} {path : String}

theorem getFrom_none (hread : ReadBelow s base front)
    (hweb : base.scheme = "http" ∨ base.scheme = "https") (hnames : names ≠ [])
    (hstanding : ∀ name ∈ names, Standing name) (hpath : path = (UrlPath.segments names).text) :
    getFrom s path none = .ok (asked s base (front ++ names)) := by
  rw [getFrom, hpath, hread names hnames hstanding]
  exact checkScheme_ok hweb

theorem getFrom_some (names : List String) {last : String} {tail : List String}
    (hread : ReadBelow s base front)
    (hweb : base.scheme = "http" ∨ base.scheme = "https") (hlast : last ≠ "")
    (htail : tail = [] ∨ tail = [""])
    (hstanding : ∀ name ∈ names ++ last :: tail, Standing name)
    (hpath : path = (UrlPath.segments (names ++ last :: tail)).text) (text : String) :
    getFrom s path (some text) =
      .ok (asked s base (front ++ (lead text.toList).goes base.scheme (names ++ [last]))) := by
  rw [getFrom, hpath, hread _ (by simp) hstanding, ← List.append_assoc]
  have hpush := push?_eq (u := { base with path := .segments (front ++ names ++ last :: tail) })
    hlast htail rfl text.toList
  simp only [Except.mapError, bind, Except.bind, hpush, Option.elim]
  rw [List.append_assoc, Lead.goes_append (by simp)]
  exact checkScheme_ok hweb

theorem postTo_method {body : Json} {r : Request} (h : postTo s path body = .ok r) :
    r.method = .post := by
  rw [postTo] at h
  cases hurl : Url.ofText (s.endpoint path) with
  | error e =>
      rw [hurl] at h
      cases h
  | ok url =>
      rw [hurl] at h
      simp only [Except.mapError, bind, Except.bind, checkScheme] at h
      split at h
      · cases h
        rfl
      · cases h

theorem request_of_place (hread : ReadBelow s base front)
    (hweb : base.scheme = "http" ∨ base.scheme = "https") {call : Call}
    (hplace : place? base.scheme call = some names) :
    request s call = .ok (asked s base (front ++ names)) := by
  cases call with
  | listing =>
      cases hplace
      exact getFrom_none hread hweb (by decide) (by decide) (by decide)
  | workflows =>
      cases hplace
      exact getFrom_none hread hweb (by decide) (by decide) (by decide)
  | load id =>
      cases hplace
      exact getFrom_some ["api", "v1"] hread hweb (by decide) (.inr rfl) (by decide)
        (by decide) id
  | choices key =>
      rw [place?] at hplace
      rw [request]
      split at hplace
      · rename_i hfamily
        rw [if_pos hfamily]
        obtain ⟨provider, hprovider, rfl⟩ := Option.map_eq_some_iff.mp hplace
        rw [hprovider]
        exact getFrom_some ["api", "v1", "nodes"] hread hweb (by decide) (.inl rfl)
          (by decide) (by decide) provider
      · rename_i hfamily
        rw [if_neg hfamily]
        split at hplace
        · rename_i hcollections
          cases hplace
          rw [if_pos hcollections]
          exact getFrom_none hread hweb (by decide) (by decide) (by decide)
        · cases hplace
  | run plan => cases hplace
  | save sent => cases hplace

theorem request_ne_asked {call : Call} (hplace : place? base.scheme call = none) :
    request s call ≠ .ok (asked s base names) := by
  intro h
  cases call with
  | listing => cases hplace
  | workflows => cases hplace
  | load id => cases hplace
  | choices key =>
      rw [place?] at hplace
      rw [request] at h
      split at hplace
      · rename_i hfamily
        rw [if_pos hfamily, Option.map_eq_none_iff.mp hplace] at h
        cases h
      · rename_i hfamily
        rw [if_neg hfamily] at h
        split at hplace
        · cases hplace
        · rename_i hcollections
          rw [if_neg hcollections] at h
          cases h
  | run plan => cases postTo_method h
  | save sent => cases postTo_method h

theorem request_eq_asked_iff (hread : ReadBelow s base front)
    (hweb : base.scheme = "http" ∨ base.scheme = "https") {call : Call} :
    request s call = .ok (asked s base (front ++ names)) ↔
      place? base.scheme call = some names := by
  refine ⟨fun h => ?_, request_of_place hread hweb⟩
  cases hplace : place? base.scheme call with
  | none => exact absurd h (request_ne_asked hplace)
  | some others =>
      rw [request_of_place hread hweb hplace] at h
      rw [List.append_cancel_left (asked_inj.mp (Except.ok.inj h))]

end Reading

section Places

variable {scheme text : String} {call other : Call} {names : List String}

theorem Asks.place (h : Asks call names text) :
    place? scheme call = some ((lead text.toList).goes scheme names) := by
  cases h with
  | load => rfl
  | models => rfl

theorem Asks.names_eq (h : Asks call names text) :
    ∃ front last, names = front ++ [last] ∧ last ≠ "" := by
  cases h with
  | load => exact ⟨["api", "v1"], "workflows", rfl, by decide⟩
  | models => exact ⟨["api", "v1", "nodes"], "models", rfl, by decide⟩

theorem Asks.goes_inj (h : Asks call names text) {l k : Lead} :
    l.goes scheme names = k.goes scheme names ↔ l = k := by
  obtain ⟨front, last, rfl, hlast⟩ := h.names_eq
  exact Lead.goes_inj hlast

theorem third_of_workflows (l : Lead) :
    ∀ third ∈ (l.goes scheme workflowNames)[2]?, third ≠ "nodes" ∧ third ≠ "vector-store" := by
  cases l <;> simp [Lead.goes, workflowNames]

theorem third_of_models (l : Lead) : (l.goes scheme modelNames)[2]? = some "nodes" := by
  cases l <;> rfl

theorem goes_workflows_ne (l k : Lead) :
    l.goes scheme workflowNames ≠ k.goes scheme modelNames := fun heq =>
  (third_of_workflows l "nodes" (heq ▸ third_of_models k)).1 rfl

theorem goes_ne_collections (h : Asks call names text) (l : Lead) :
    l.goes scheme names ≠ collectionNames := by
  intro heq
  cases h with
  | load => exact (third_of_workflows l "vector-store" (by rw [heq]; rfl)).2 rfl
  | models => exact absurd ((third_of_models l).symm.trans (congrArg (·[2]?) heq)) (by decide)

theorem place_eq_workflows {l : Lead}
    (h : place? scheme other = some (l.goes scheme workflowNames)) :
    (∃ id, other = .load id ∧ lead id.toList = l) ∨ other = .workflows ∧ l = .named [] := by
  have hasks := Asks.load ""
  cases other with
  | listing =>
      have heq : Lead.above.goes scheme modelNames = l.goes scheme workflowNames :=
        Option.some.inj h
      exact absurd heq.symm (goes_workflows_ne l _)
  | workflows =>
      have heq : (Lead.named []).goes scheme workflowNames = l.goes scheme workflowNames :=
        Option.some.inj h
      exact .inr ⟨rfl, (hasks.goes_inj.mp heq).symm⟩
  | load id => exact .inl ⟨id, rfl, hasks.goes_inj.mp (Option.some.inj h)⟩
  | choices key =>
      rw [place?] at h
      split at h
      · obtain ⟨provider, -, heq⟩ := Option.map_eq_some_iff.mp h
        exact absurd heq.symm (goes_workflows_ne l _)
      · split at h
        · exact absurd (Option.some.inj h).symm (goes_ne_collections hasks l)
        · cases h
  | run plan => cases h
  | save sent => cases h

theorem place_eq_models {l : Lead} (h : place? scheme other = some (l.goes scheme modelNames)) :
    (∃ provider, other = .choices (.dependent modelsFamily provider) ∧
      lead provider.toList = l) ∨ other = .listing ∧ l = .above := by
  have hasks := Asks.models ""
  cases other with
  | listing =>
      have heq : Lead.above.goes scheme modelNames = l.goes scheme modelNames :=
        Option.some.inj h
      exact .inr ⟨rfl, (hasks.goes_inj.mp heq).symm⟩
  | workflows =>
      have heq : (Lead.named []).goes scheme workflowNames = l.goes scheme modelNames :=
        Option.some.inj h
      exact absurd heq (goes_workflows_ne _ l)
  | load id => exact absurd (Option.some.inj h) (goes_workflows_ne _ l)
  | choices key =>
      obtain ⟨family, selector⟩ := key
      rw [place?] at h
      split at h
      · rename_i hfamily
        obtain rfl : family = modelsFamily := hfamily
        obtain ⟨provider, rfl, heq⟩ := Option.map_eq_some_iff.mp h
        exact .inl ⟨provider, rfl, hasks.goes_inj.mp heq⟩
      · split at h
        · exact absurd (Option.some.inj h).symm (goes_ne_collections hasks l)
        · cases h
  | run plan => cases h
  | save sent => cases h

/-- Calls ask for the same place if their texts lead to the same, and besides them the lists that
a text without a name and hidden dots ask for. -/
theorem Asks.place_eq_iff (h : Asks call names text) :
    place? scheme other = some ((lead text.toList).goes scheme names) ↔
      (∃ second, Asks other names second ∧ lead second.toList = lead text.toList) ∨
      (other = .workflows ∧ names = workflowNames ∧ lead text.toList = .named []) ∨
      (other = .listing ∧ names = modelNames ∧ lead text.toList = .above) := by
  constructor
  · intro hplace
    cases h with
    | load =>
        rcases place_eq_workflows hplace with ⟨id, rfl, hlead⟩ | ⟨rfl, hlead⟩
        · exact .inl ⟨id, .load id, hlead⟩
        · exact .inr (.inl ⟨rfl, rfl, hlead⟩)
    | models =>
        rcases place_eq_models hplace with ⟨provider, rfl, hlead⟩ | ⟨rfl, hlead⟩
        · exact .inl ⟨provider, .models provider, hlead⟩
        · exact .inr (.inr ⟨rfl, rfl, hlead⟩)
  · rintro (⟨second, hsecond, hlead⟩ | ⟨rfl, rfl, hlead⟩ | ⟨rfl, rfl, hlead⟩)
    · rw [hsecond.place, hlead]
    · rw [hlead]
      rfl
    · rw [hlead]
      rfl

end Places

/-- A request for what a text names below some names of a base address. -/
def Request.Reaches (r : Request) (base : Url) (names : List String) (text : String) : Prop :=
  r.method = .get ∧ (∃ path, r.url = { base with path }) ∧ r.url.path.Names names text.toList

/-- A call that names a place by a text asks below the base address for one more segment that reads
as the text, just if the text is plain. Where it is not, the call asks for what other texts of its
kind ask for, and two lists are asked for besides. -/
theorem addressed_iff {s : Settings} {base : Url} (h : IsBase s.baseUrl base) :
    ∃ front count, base.path = .segments (front ++ List.replicate count "") ∧
      ∀ call names text, Asks call names text →
        ∃ r, request s call = .ok r ∧ (r.Reaches base (front ++ names) text ↔ Plain text.toList) ∧
          ∀ other, request s other = .ok r ↔
            (∃ second, Asks other names second ∧ lead second.toList = lead text.toList) ∨
            (other = .workflows ∧ names = workflowNames ∧ lead text.toList = .named []) ∨
            (other = .listing ∧ names = modelNames ∧ lead text.toList = .above) := by
  obtain ⟨front, count, hbase, hread⟩ := h.ofText_endpoint
  refine ⟨front, count, hbase, fun call names text hasks => ?_⟩
  refine ⟨_, request_of_place hread h.web hasks.place, ?_, fun other => ?_⟩
  · have hsome : names ≠ [] := by
      obtain ⟨before, last, rfl, -⟩ := hasks.names_eq
      simp
    have hnames := Lead.names_iff base.scheme text.toList (lead text.toList)
      (List.append_ne_nil_of_right_ne_nil front hsome)
    rw [Lead.goes_append hsome, lead_eq_named_iff] at hnames
    rw [← hnames]
    exact ⟨fun hreach => hreach.2.2, fun hnamed => ⟨rfl, ⟨_, rfl⟩, hnamed⟩⟩
  · rw [request_eq_asked_iff hread h.web]
    exact hasks.place_eq_iff

def flowSettings : Settings := { baseUrl := "http://[::1]:8000/flow/" }

def flowBase : Url where
  scheme := "http"
  host := some (.ipv6 [0, 0, 0, 0, 0, 0, 0, 1])
  port := some 8000
  path := .segments ["flow", ""]

theorem flowBase_isBase : IsBase flowSettings.baseUrl flowBase where
  reads := by decide +kernel
  web := .inl rfl
  query := rfl
  fragment := rfl
  ends := by
    intro c hc
    obtain rfl : '/' = c := Option.some.inj hc
    decide

theorem flow_addressed :
    IsBase flowSettings.baseUrl flowBase ∧
    ∃ front count, flowBase.path = .segments (front ++ List.replicate count "") ∧
      ∀ call names text, Asks call names text →
        ∃ r, request flowSettings call = .ok r ∧
          (r.Reaches flowBase (front ++ names) text ↔ Plain text.toList) ∧
          ∀ other, request flowSettings other = .ok r ↔
            (∃ second, Asks other names second ∧ lead second.toList = lead text.toList) ∨
            (other = .workflows ∧ names = workflowNames ∧ lead text.toList = .named []) ∨
            (other = .listing ∧ names = modelNames ∧ lead text.toList = .above) :=
  ⟨flowBase_isBase, addressed_iff flowBase_isBase⟩

/-- A tab is left out, a dot adds no segment, and no name at all or dots around a tab ask for a list
of something else. -/
theorem texts_misread :
    request flowSettings (.load "a\tb") = request flowSettings (.load "ab") ∧
    request flowSettings (.load "") = request flowSettings .workflows ∧
    request flowSettings (.choices (.dependent modelsFamily ".\t.")) =
      request flowSettings .listing ∧
    (request flowSettings (.load ".")).toOption.map (·.url.target) =
      some "/flow/api/v1/workflows" := by
  refine ⟨?_, ?_, ?_, ?_⟩ <;> decide +kernel

end NodeCanvas.Service
