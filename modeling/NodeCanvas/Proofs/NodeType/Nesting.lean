import NodeCanvas.Proofs.Json.Nesting
import NodeCanvas.Proofs.NodeType.Rereading

namespace NodeCanvas

open Source (toJson?)
open Json (slot?)

theorem InputPort.nests : Nests (fun _ => True) ofSource? toJson := by
  refine .of_closed fieldNames values nodup_fieldNames (fun _ => rfl) toJson_eq rfl ?_
  intro p level source _ hlevel hsource
  simp only [ofSource?, ↓Fields.isSome_read_iff, hsource, Option.some.injEq, existsAndEq, true_and,
    Option.pure_def, Option.isSome_some, and_true, exists_and_right, ← Option.isSome_iff_exists]
  simp only [Fields.required?, Fields.given?, Fields.optional?_eq,
    Fields.find?_written nodup_fieldNames]
  simp [slot?, fieldNames, values, hlevel, Nests.optional_json hlevel]

theorem OutputPort.nests : Nests (fun _ => True) ofSource? toJson := by
  refine .of_closed fieldNames values nodup_fieldNames (fun _ => rfl) toJson_eq rfl ?_
  intro p level source _ hlevel hsource
  simp only [ofSource?, ↓Fields.isSome_read_iff, hsource, Option.some.injEq, existsAndEq, true_and,
    Option.pure_def, Option.isSome_some, and_true, exists_and_right, ← Option.isSome_iff_exists]
  simp only [Fields.required?, Fields.given?, Fields.find?_written nodup_fieldNames]
  simp [slot?, fieldNames, values, hlevel]

theorem Parameter.nests : Nests (fun _ => True) ofSource? toJson := by
  refine .of_closed fieldNames values nodup_fieldNames (fun _ => rfl) toJson_eq rfl ?_
  intro p level source _ hlevel hsource
  have hchoices := Nests.texts.optional hlevel (o := p.choices) fun _ _ => trivial
  simp only [ofSource?, ↓Fields.isSome_read_iff, hsource, Option.some.injEq, existsAndEq, true_and,
    Option.pure_def, Option.isSome_some, and_true, exists_and_right, ← Option.isSome_iff_exists]
  simp only [Fields.required?, Fields.given?, Fields.optional?_eq,
    Fields.find?_written nodup_fieldNames]
  simp [slot?, fieldNames, values, hlevel, Nests.optional_json hlevel, hchoices]

def Styling.Sound (s : Styling) : Prop := ∀ key ∈ s.extra.keys, key ∉ fieldNames

theorem Styling.sound_of_ofSource? {s : Source} {styling : Styling}
    (h : ofSource? s = some styling) : styling.Sound := by
  obtain ⟨f, hf, -, -, -, -, -, -, -, -, hextra⟩ := ofSource?_eq_some_iff.mp h
  exact (Rereads.others hf hextra).1

theorem Styling.nests : Nests Sound ofSource? toJson := by
  refine .of_open fieldNames values extra nodup_fieldNames (fun _ => rfl) toJson_eq
    (fun _ h => h) rfl ?_
  intro t level source _ hlevel hsource
  simp only [ofSource?, ↓Fields.isSome_read_iff, hsource, Option.some.injEq, existsAndEq,
    true_and, Option.pure_def, Option.isSome_some, and_true, exists_and_right,
    ← Option.isSome_iff_exists]
  simp only [Fields.optional?_eq, Fields.find?_written nodup_fieldNames]
  simp [slot?, fieldNames, values, hlevel, Nests.others hlevel]

theorem Choice.nests : Nests (fun _ => True) ofSource? toJson := by
  refine .of_closed fieldNames values nodup_fieldNames (fun _ => rfl) toJson_eq rfl ?_
  intro c level source _ hlevel hsource
  simp only [ofSource?, ↓Fields.isSome_read_iff, hsource, Option.some.injEq, existsAndEq, true_and,
    Option.pure_def, Option.isSome_some, and_true, exists_and_right, ← Option.isSome_iff_exists]
  simp only [Fields.required?, Fields.given?, Fields.find?_written nodup_fieldNames]
  cases hdisabled : c.disabled <;> simp [slot?, fieldNames, values, hlevel, hdisabled]

theorem ChoiceSource.nests : Nests (fun _ => True) ofSource? toJson := by
  refine .of_closed fieldNames values nodup_fieldNames (fun _ => rfl) toJson_eq rfl ?_
  intro c level source _ hlevel hsource
  simp only [ofSource?, ↓Fields.isSome_read_iff, hsource, Option.some.injEq, existsAndEq, true_and,
    Option.pure_def, Option.isSome_some, and_true, exists_and_right, ← Option.isSome_iff_exists]
  simp only [Fields.required?, Fields.optional?_eq, Fields.find?_written nodup_fieldNames]
  simp [slot?, fieldNames, values, hlevel]

/-- The counts fit the bits that hold them, and the keys that are kept are none of the declared
ones. -/
structure Component.Sound (c : Component) : Prop where
  rows : ∀ n, c.rows = some n → n < 1 <<< 32
  minLength : ∀ n, c.minLength = some n → n < 1 <<< 64
  maxLength : ∀ n, c.maxLength = some n → n < 1 <<< 64
  maxSelections : ∀ n, c.maxSelections = some n → n < 1 <<< 64
  extra : ∀ key ∈ c.extra.keys, key ∉ fieldNames

/-- A count that was read fits its bits. -/
theorem Fields.lt_of_optional?_natural {f : Fields} {name : String} {bits : ℕ} {o : Option ℕ}
    (h : f.optional? name (Source.natural? bits) = some o) : ∀ n, o = some n → n < 1 <<< bits := by
  rintro n rfl
  obtain ⟨s, -, hs⟩ := exists_of_optional? h
  exact Source.lt_of_natural? hs

theorem Component.sound_of_ofSource? {s : Source} {c : Component} (h : ofSource? s = some c) :
    c.Sound := by
  obtain ⟨f, hf, -, -, -, -, -, -, -, -, -, hrows, hmin, hmax, -, -, -, -, -, -, hselections, -, -,
    -, -, -, -, -, -, -, -, hextra⟩ := ofSource?_eq_some_iff.mp h
  exact {
    rows := Fields.lt_of_optional?_natural hrows
    minLength := Fields.lt_of_optional?_natural hmin
    maxLength := Fields.lt_of_optional?_natural hmax
    maxSelections := Fields.lt_of_optional?_natural hselections
    extra := (Rereads.others hf hextra).1 }

theorem Component.nests : Nests Sound ofSource? toJson := by
  refine .of_open fieldNames values extra nodup_fieldNames (fun _ => rfl) toJson_eq
    (fun _ h => h.extra) rfl ?_
  intro c level source hc hlevel hsource
  have hchoices := Choice.nests.list.optional hlevel (o := c.choices) fun _ _ _ _ => trivial
  have hfetched := ChoiceSource.nests.optional hlevel (o := c.source) fun _ _ => trivial
  simp only [ofSource?, ↓Fields.isSome_read_iff, hsource, Option.some.injEq, existsAndEq,
    true_and, Option.pure_def, Option.isSome_some, and_true, exists_and_right,
    ← Option.isSome_iff_exists]
  simp only [Fields.required?, Fields.given?, Fields.optional?_eq,
    Fields.find?_written nodup_fieldNames]
  simp [slot?, fieldNames, values, hlevel, Nests.others hlevel, Nests.optional_json hlevel,
    (Nests.natural _).optional hlevel hc.rows, (Nests.natural _).optional hlevel hc.minLength,
    (Nests.natural _).optional hlevel hc.maxLength,
    (Nests.natural _).optional hlevel hc.maxSelections, hchoices, hfetched, and_assoc]

structure Group.Sound (g : Group) : Prop where
  components : ∀ c ∈ g.components, c.Sound
  extra : ∀ key ∈ g.extra.keys, key ∉ fieldNames

theorem Group.sound_of_ofSource? {s : Source} {g : Group} (h : ofSource? s = some g) :
    g.Sound := by
  obtain ⟨f, hf, -, -, -, hcomponents, -, -, hextra⟩ := ofSource?_eq_some_iff.mp h
  refine ⟨fun c hc => ?_, (Rereads.others hf hextra).1⟩
  obtain ⟨s, hs⟩ := Fields.exists_of_given?_list hcomponents c hc
  exact Component.sound_of_ofSource? hs

theorem Group.nests : Nests Sound ofSource? toJson := by
  refine .of_open fieldNames values extra nodup_fieldNames (fun _ => rfl) toJson_eq
    (fun _ h => h.extra) rfl ?_
  intro g level source hg hlevel hsource
  have hcomponents := Component.nests.list g.components level hg.components hlevel
  simp only [ofSource?, ↓Fields.isSome_read_iff, hsource, Option.some.injEq, existsAndEq,
    true_and, Option.pure_def, Option.isSome_some, and_true, exists_and_right,
    ← Option.isSome_iff_exists]
  simp only [Fields.required?, Fields.given?, Fields.optional?_eq,
    Fields.find?_written nodup_fieldNames]
  simp [slot?, fieldNames, values, hlevel, Nests.others hlevel, hcomponents]

structure Layout.Sound (l : Layout) : Prop where
  groups : ∀ g ∈ l.groups, g.Sound
  columns : ∀ n, l.columns = some n → n < 1 <<< 32
  extra : ∀ key ∈ l.extra.keys, key ∉ fieldNames

theorem Layout.sound_of_ofSource? {s : Source} {l : Layout} (h : ofSource? s = some l) :
    l.Sound := by
  obtain ⟨f, hf, -, -, hgroups, -, hcolumns, hextra⟩ := ofSource?_eq_some_iff.mp h
  refine ⟨fun g hg => ?_, Fields.lt_of_optional?_natural hcolumns, (Rereads.others hf hextra).1⟩
  obtain ⟨s, hs⟩ := Fields.exists_of_given?_list hgroups g hg
  exact Group.sound_of_ofSource? hs

theorem Layout.nests : Nests Sound ofSource? toJson := by
  refine .of_open fieldNames values extra nodup_fieldNames (fun _ => rfl) toJson_eq
    (fun _ h => h.extra) rfl ?_
  intro l level source hl hlevel hsource
  have hgroups := Group.nests.list l.groups level hl.groups hlevel
  simp only [ofSource?, ↓Fields.isSome_read_iff, hsource, Option.some.injEq, existsAndEq,
    true_and, Option.pure_def, Option.isSome_some, and_true, exists_and_right,
    ← Option.isSome_iff_exists]
  simp only [Fields.given?, Fields.optional?_eq, Fields.find?_written nodup_fieldNames]
  simp [slot?, fieldNames, values, hlevel, Nests.others hlevel, hgroups,
    (Nests.natural _).optional hlevel hl.columns]

/-- What the type keeps beside its declared fields does not stand for one of them, and its counts
fit the bits that hold them. -/
structure NodeType.Sound (t : NodeType) : Prop where
  styling : t.styling.Sound
  layout : ∀ l, t.layout = some l → l.Sound

theorem NodeType.sound_of_ofSource? {s : Source} {t : NodeType} (h : ofSource? s = some t) :
    t.Sound := by
  obtain ⟨f, -, -, -, -, -, -, -, hstyling, hlayout⟩ := ofSource?_eq_some_iff.mp h
  constructor
  · rcases Fields.eq_or_exists_of_given? hstyling with hplain | ⟨s, hs⟩
    · rw [hplain]
      simp [Styling.Sound, Dict.keys, Dict.empty]
    · exact Styling.sound_of_ofSource? hs
  · intro l hl
    rw [hl] at hlayout
    obtain ⟨s, -, hs⟩ := Fields.exists_of_optional? hlayout
    exact Layout.sound_of_ofSource? hs

theorem NodeType.nests : Nests Sound ofSource? toJson := by
  refine .of_closed fieldNames values nodup_fieldNames (fun _ => rfl) toJson_eq rfl ?_
  intro t level source ht hlevel hsource
  have hinputs := InputPort.nests.list t.inputs level (fun _ _ => trivial) hlevel
  have houtputs := OutputPort.nests.list t.outputs level (fun _ _ => trivial) hlevel
  have hparameters := Parameter.nests.list t.parameters level (fun _ _ => trivial) hlevel
  have hstyling := Styling.nests t.styling level ht.styling hlevel
  simp only [ofSource?, ↓Fields.isSome_read_iff, hsource, Option.some.injEq, existsAndEq, true_and,
    Option.pure_def, Option.isSome_some, and_true, exists_and_right, ← Option.isSome_iff_exists]
  simp only [Fields.required?, Fields.given?, Fields.optional?_eq,
    Fields.find?_written nodup_fieldNames]
  simp [slot?, fieldNames, values, hlevel, hinputs, houtputs, hparameters, hstyling,
    Layout.nests.optional hlevel ht.layout]

end NodeCanvas
