import NodeCanvas.Json.Source
import NodeCanvas.Proofs.Json.Lexing

namespace NodeCanvas.Source

open Json (itemTokens memberTokens)

mutual
/-- What the text of a value is read as, so many arrays and objects around it. -/
def reread (level : ℕ) : Json → Source
  | .null => .null
  | .bool b => .bool b
  | .num n => .num n.reread
  | .str s => .str s
  | .arr items =>
      if depthLimit ≤ level + 1 then .unreadable else .arr (rereadItems (level + 1) items)
  | .obj members =>
      if depthLimit ≤ level + 1 then .unreadable else .obj (rereadMembers (level + 1) members)

def rereadItems (level : ℕ) : List Json → List Source
  | [] => []
  | item :: rest => reread level item :: rereadItems level rest

def rereadMembers (level : ℕ) : List (String × Json) → List (Option String × Source)
  | [] => []
  | (key, member) :: rest => (some key, reread level member) :: rereadMembers level rest
end

namespace Builder

theorem place_expected (b : Builder) (expected : Expected) (s : Source) :
    { b with expected }.place s = b.place s := by
  obtain ⟨_ | ⟨frame, rest⟩, depth, expected', built⟩ := b
  · rfl
  · cases frame <;> rfl

/-- What was opened around the contents is closed: the value takes the place of what was opened. -/
theorem closed_inside (b : Builder) (frame : Frame) (expected : Expected) (s : Source) :
    closed ⟨frame :: b.open_, b.depth + 1, expected, b.built⟩ b.open_ s =
      b.place (if depthLimit ≤ b.depth + 1 then .unreadable else s) :=
  place_expected b expected _

mutual
theorem foldlM_tokens (b : Builder) (hb : b.expected = .value ∨ b.expected = .firstItem) :
    (j : Json) → j.tokens.foldlM step? b = some (b.place (reread b.depth j))
  | .null => by simp [Json.tokens, step?, value?, hb, reread]
  | .bool v => by simp [Json.tokens, step?, value?, hb, reread]
  | .num n => by simp [Json.tokens, step?, value?, hb, reread]
  | .str s => by
      have hkey : ¬ (b.expected = .key ∨ b.expected = .firstKey) := by
        rcases hb with hb | hb <;> simp [hb]
      simp [Json.tokens, step?, value?, hb, hkey, reread]
  | .arr items => by
      have hopen : b.step? .openArray = some (b.opened (.arr []) .firstItem) := if_pos hb
      rw [Json.tokens, List.cons_append, List.foldlM_cons, hopen, Option.bind_eq_bind,
        Option.bind_some, List.foldlM_append, reread]
      match items with
      | [] => exact congrArg some (b.closed_inside (.arr []) .firstItem (.arr []))
      | item :: rest =>
          rw [opened, foldlM_itemTokens [] b.open_ _ b.built _ (.inr rfl) _ (by simp)]
          refine congrArg some ((b.closed_inside _ .separator _).trans ?_)
          rw [List.append_nil, List.reverse_reverse]
  | .obj members => by
      have hopen : b.step? .openObject = some (b.opened (.obj [] none) .firstKey) := if_pos hb
      rw [Json.tokens, List.cons_append, List.foldlM_cons, hopen, Option.bind_eq_bind,
        Option.bind_some, List.foldlM_append, reread]
      match members with
      | [] => exact congrArg some (b.closed_inside (.obj [] none) .firstKey (.obj []))
      | member :: rest =>
          rw [opened, foldlM_memberTokens [] b.open_ _ b.built _ (.inr rfl) _ (by simp)]
          refine congrArg some ((b.closed_inside _ .separator _).trans ?_)
          rw [List.append_nil, List.reverse_reverse]

theorem foldlM_itemTokens (done : List Source) (rest : List Frame) (depth : ℕ)
    (built : Option Source) (expected : Expected)
    (hexpected : expected = .value ∨ expected = .firstItem) :
    (items : List Json) → items ≠ [] →
      (itemTokens items).foldlM step? ⟨.arr done :: rest, depth, expected, built⟩ =
        some ⟨.arr ((rereadItems depth items).reverse ++ done) :: rest, depth, .separator, built⟩
  | [], h => absurd rfl h
  | [item], _ => foldlM_tokens ⟨.arr done :: rest, depth, expected, built⟩ hexpected item
  | item :: next :: others, _ => by
      have hitem := foldlM_tokens ⟨.arr done :: rest, depth, expected, built⟩ hexpected item
      have hothers := foldlM_itemTokens (reread depth item :: done) rest depth built .value
        (.inl rfl) (next :: others) (by simp)
      rw [itemTokens, List.foldlM_append, hitem, rereadItems, List.reverse_cons,
        List.append_assoc]
      · exact hothers
      · rintro ⟨⟩

theorem foldlM_memberTokens (done : List (Option String × Source)) (rest : List Frame) (depth : ℕ)
    (built : Option Source) (expected : Expected)
    (hexpected : expected = .key ∨ expected = .firstKey) :
    (members : List (String × Json)) → members ≠ [] →
      (memberTokens members).foldlM step? ⟨.obj done none :: rest, depth, expected, built⟩ =
        some ⟨.obj ((rereadMembers depth members).reverse ++ done) none :: rest, depth, .separator,
          built⟩
  | [], h => absurd rfl h
  | [(key, member)], _ => by
      have hkey : step? ⟨.obj done none :: rest, depth, expected, built⟩ (.str (some key)) =
          some ⟨.obj done (some key) :: rest, depth, .colon, built⟩ := if_pos hexpected
      rw [memberTokens, List.foldlM_cons, hkey]
      exact foldlM_tokens ⟨.obj done (some key) :: rest, depth, .value, built⟩ (.inl rfl) member
  | (key, member) :: next :: others, _ => by
      have hkey : step? ⟨.obj done none :: rest, depth, expected, built⟩ (.str (some key)) =
          some ⟨.obj done (some key) :: rest, depth, .colon, built⟩ := if_pos hexpected
      have hmember : (Json.Token.colon :: member.tokens).foldlM step?
          ⟨.obj done (some key) :: rest, depth, .colon, built⟩ =
            some ⟨.obj ((some key, reread depth member) :: done) none :: rest, depth, .separator,
              built⟩ :=
        foldlM_tokens ⟨.obj done (some key) :: rest, depth, .value, built⟩ (.inl rfl) member
      have hothers := foldlM_memberTokens ((some key, reread depth member) :: done) rest depth
        built .key (.inl rfl) (next :: others) (by simp)
      rw [memberTokens, List.cons_append, List.foldlM_cons, hkey, Option.bind_eq_bind,
        Option.bind_some, List.foldlM_append, hmember, rereadMembers, List.reverse_cons,
        List.append_assoc]
      · exact hothers
      · rintro ⟨⟩
end

end Builder

/-- What is read of the text that a value is written as. -/
theorem ofText?_pretty {j : Json} (h : j.Fits) : ofText? j.pretty = some (reread 0 j) := by
  have hbuilt := Builder.foldlM_tokens {} (.inl rfl) j
  rw [ofText?, Json.tokens?_pretty h, Option.bind_some, ofTokens?, hbuilt]
  rfl

end NodeCanvas.Source
