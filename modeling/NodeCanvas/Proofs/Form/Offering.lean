import Mathlib.Logic.Basic
import NodeCanvas.Proofs.Form.Settling

/-!
Which values survive the arrival of a list. A value is compared as one text, so that a single
value stays exactly if it is offered. The text of a list of values is its written form: a list
is reset although each of its items is offered, unless its written form is offered as well.
-/
namespace NodeCanvas

/-- The entries that a value chooses: a list chooses its items, any other value itself. -/
def Json.chosen : Option Json → List String
  | some (.arr items) => items.filterMap choiceText?
  | value => (value.bind choiceText?).toList

namespace Form

/-- If the list that the component needs now has arrived, the entry is in it. -/
def Offers (f : Form) (cache : ChoiceCache) (c : Component) (entry : String) : Prop :=
  ∀ key choices, f.choiceKey? c = some key → cache.slot? key = some (.ready choices) →
    ∃ choice ∈ choices, choice.value = entry

/-- Components that choose from a list which another field selects keep their value as long as
every entry that they choose is offered. -/
def KeepsOffered (f : Form) (cache : ChoiceCache) : Prop :=
  ∀ c ∈ f.components, ∀ family field, c.kind.isSelectLike = true → c.DependsOn family field →
    (∀ entry ∈ Json.chosen (f.value? c.name), f.Offers cache c entry) →
    (f.reconcile cache).2.value? c.name = f.value? c.name

variable {f : Form} {cache : ChoiceCache}

theorem rejects_iff {c : Component} {text : String} :
    f.Rejects cache c text ↔
      (∃ family field, c.DependsOn family field) ∧ ¬ f.Offers cache c text := by
  constructor
  · rintro ⟨family, field, selector, choices, hdepends, hselector, harrived, hnone⟩
    refine ⟨⟨family, field, hdepends⟩, fun hoffers => ?_⟩
    have hkey : f.choiceKey? c = some (.dependent family selector) := by
      rw [choiceKey?_of_dependsOn hdepends, hselector]
      rfl
    obtain ⟨choice, hchoice, hvalue⟩ :=
      hoffers _ choices hkey (ChoiceCache.choices?_eq_some_iff.mp harrived)
    exact hnone choice hchoice hvalue
  · rintro ⟨⟨family, field, hdepends⟩, hrefused⟩
    simp only [Offers, not_forall, not_exists, not_and] at hrefused
    obtain ⟨key, choices, hkey, hslot, hnone⟩ := hrefused
    rw [choiceKey?_of_dependsOn hdepends] at hkey
    obtain ⟨selector, hselector, rfl⟩ := Option.map_eq_some_iff.mp hkey
    exact ⟨family, field, selector, choices, hdepends, hselector,
      ChoiceCache.choices?_eq_some_iff.mpr hslot, hnone⟩

/-- A field keeps its value exactly if each component of its name is offered its text. -/
theorem kept_iff {name : String} :
    (f.reconcile cache).2.value? name = f.value? name ↔
      ∀ c ∈ f.components, c.name = name → ∀ family field, c.DependsOn family field →
        ∀ text, f.text? name = some text → f.Offers cache c text := by
  rw [← not_iff_not, ← ne_eq, ← mem_staleFields_iff_value?, mem_staleFields_iff]
  simp only [rejects_iff, not_forall]
  constructor
  · rintro ⟨text, htext, c, hc, hname, ⟨family, field, hdepends⟩, hrefused⟩
    exact ⟨c, hc, hname, family, field, hdepends, text, htext, hrefused⟩
  · rintro ⟨c, hc, hname, family, field, hdepends, text, htext, hrefused⟩
    exact ⟨text, htext, c, hc, hname, ⟨family, field, hdepends⟩, hrefused⟩

/-- A list is compared by its written form, which is never empty. -/
theorem text?_of_list {name : String} {items : List Json}
    (h : f.value? name = some (.arr items)) : f.text? name = some (Json.arr items).compact := by
  rw [text?, h]
  simp [Json.choiceText?, Json.displayText, Json.compact]

/-- The text of a single value is the entry that it chooses. -/
theorem mem_chosen_of_text? {name text : String} (htext : f.text? name = some text)
    (hsingle : ∀ items, f.value? name ≠ some (.arr items)) :
    text ∈ Json.chosen (f.value? name) := by
  obtain ⟨htext, -⟩ := Option.filter_eq_some_iff.mp htext
  unfold Json.chosen
  split
  · rename_i items hlist
    exact absurd hlist (hsingle items)
  · rw [htext]
    simp

/-- A field keeps its value exactly if every list that has arrived for it offers its text. So
what is chosen from the lists is kept as long as it is offered, but for two cases: a list of
values whose written form is not offered, and a value that a second component of the same name
is not offered. -/
theorem reconcile_keeps_iff (f : Form) (cache : ChoiceCache) :
    (∀ name, (f.reconcile cache).2.value? name = f.value? name ↔
      ∀ c ∈ f.components, c.name = name → ∀ family field, c.DependsOn family field →
        ∀ text, f.text? name = some text → f.Offers cache c text) ∧
    (f.KeepsOffered cache ↔
      ∀ c ∈ f.components, ∀ family field, c.kind.isSelectLike = true → c.DependsOn family field →
        (∀ entry ∈ Json.chosen (f.value? c.name), f.Offers cache c entry) →
        (∀ items, f.value? c.name = some (.arr items) →
          f.Offers cache c (Json.arr items).compact) ∧
        ∀ b ∈ f.components, b.name = c.name → b ≠ c → ∀ family field, b.DependsOn family field →
          ∀ text, f.text? c.name = some text → f.Offers cache b text) := by
  refine ⟨fun name => kept_iff, ?_⟩
  constructor
  · intro hkeeps c hc family field hselect hdepends hoffered
    have hall := kept_iff.mp (hkeeps c hc family field hselect hdepends hoffered)
    constructor
    · intro items hlist
      exact hall c hc rfl family field hdepends _ (text?_of_list hlist)
    · intro b hb hname _ family field hdependsToo text htext
      exact hall b hb hname family field hdependsToo text htext
  · intro hcases c hc family field hselect hdepends hoffered
    obtain ⟨hlist, hothers⟩ := hcases c hc family field hselect hdepends hoffered
    refine kept_iff.mpr ?_
    intro b hb hname familyToo fieldToo hdependsToo text htext
    by_cases hsame : b = c
    · subst hsame
      by_cases hsingle : ∃ items, f.value? b.name = some (.arr items)
      · obtain ⟨items, hitems⟩ := hsingle
        rw [text?_of_list hitems] at htext
        obtain rfl := Option.some.inj htext
        exact hlist items hitems
      · rw [not_exists] at hsingle
        exact hoffered text (mem_chosen_of_text? htext hsingle)
    · exact hothers b hb hname hsame familyToo fieldToo hdependsToo text htext

/-- Some of the tags of a topic. -/
def tagPicker : Component :=
  { Component.plain "multi_select" "tags" with
    source := some { family := "tags", dependsOn := some "topic" } }

def tagForm (tags : List Json) : Form :=
  ofNode "q" {
    key := "tag_node", name := "Tags"
    layout := some { groups := [{ name := "g", components := [
      .plain "text_input" "topic", tagPicker] }] } }
    (.ofList [("topic", .str "t"), ("tags", .arr tags)])

def tagLists : ChoiceCache :=
  ChoiceCache.complete {} (.dependent "tags" "t") (.ok [Choice.plain "a", Choice.plain "b"])

theorem value?_tagForm (tags : List Json) :
    (tagForm tags).value? "tags" = some (.arr tags) := by
  apply value?_of_get?
  simp [tagForm, ofNode, Dict.ofList, Dict.insertAll_cons, Dict.insertAll_nil]

theorem offers_tagForm (tags : List Json) : (tagForm tags).Offers tagLists tagPicker "a" := by
  intro key choices hkey hslot
  have hdepends : tagPicker.DependsOn "tags" "topic" := rfl
  have hselector : (tagForm tags).text? "topic" = some "t" := by
    apply text?_of_get? _ (by decide)
    simp [tagForm, ofNode, Dict.ofList, Dict.insertAll_cons, Dict.insertAll_nil, Dict.get?_insert]
  rw [choiceKey?_of_dependsOn hdepends, hselector] at hkey
  obtain rfl : ChoiceKey.dependent "tags" "t" = key := Option.some.inj hkey
  obtain rfl : [Choice.plain "a", Choice.plain "b"] = choices :=
    ChoiceSlot.ready.inj (Option.some.inj hslot)
  exact ⟨_, List.mem_cons_self .., rfl⟩

/-- A chosen tag that is offered is lost, and so is the choice of no tag at all. -/
theorem tagForm_not_keepsOffered :
    ((tagForm [.str "a"]).reconcile tagLists).2.values.get? "tags" = some (.str "") ∧
    ((tagForm []).reconcile tagLists).2.values.get? "tags" = some (.str "") ∧
    ¬ (tagForm [.str "a"]).KeepsOffered tagLists ∧ ¬ (tagForm []).KeepsOffered tagLists := by
  have hchosen : ((tagForm [.str "a"]).reconcile tagLists).2.values.get? "tags" =
      some (.str "") := by
    decide +kernel
  have hempty : ((tagForm []).reconcile tagLists).2.values.get? "tags" = some (.str "") := by
    decide +kernel
  have hrefuted : ∀ tags, Json.chosen (some (.arr tags)) ⊆ ["a"] →
      ((tagForm tags).reconcile tagLists).2.values.get? "tags" = some (.str "") →
      ¬ (tagForm tags).KeepsOffered tagLists := by
    intro tags hoffered hreset hkeeps
    have hkept : ((tagForm tags).reconcile tagLists).2.value? "tags" =
        (tagForm tags).value? "tags" := by
      refine hkeeps tagPicker ?_ "tags" "topic" rfl rfl ?_
      · exact List.mem_cons_of_mem _ (List.mem_singleton_self _)
      · intro entry hentry
        have hentry : entry ∈ Json.chosen ((tagForm tags).value? "tags") := hentry
        rw [value?_tagForm] at hentry
        obtain rfl := List.mem_singleton.mp (hoffered hentry)
        exact offers_tagForm tags
    rw [value?_tagForm, value?_of_get? _ hreset] at hkept
    cases hkept
  refine ⟨hchosen, hempty, hrefuted _ ?_ hchosen, hrefuted _ ?_ hempty⟩
  · exact List.Subset.refl _
  · exact List.nil_subset _

end Form

end NodeCanvas
