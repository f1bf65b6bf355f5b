import NodeCanvas.Json.Token
import NodeCanvas.Proofs.Json.Numeral

/-!
The tokens that a value is written as are the tokens of its text. A numeral only ends with the
character after it, so the lexer may stand on one between two tokens.
-/
namespace NodeCanvas.Json

mutual
/-- The tokens that a value is written as. -/
def tokens : Json → List Token
  | .null => [.null]
  | .bool b => [.bool b]
  | .num n => [.num (some n.reread)]
  | .str s => [.str (some s)]
  | .arr items => .openArray :: itemTokens items ++ [.closeArray]
  | .obj members => .openObject :: memberTokens members ++ [.closeObject]

def itemTokens : List Json → List Token
  | [] => []
  | [item] => item.tokens
  | item :: rest => item.tokens ++ .comma :: itemTokens rest

def memberTokens : List (String × Json) → List Token
  | [] => []
  | [(key, member)] => .str (some key) :: .colon :: member.tokens
  | (key, member) :: rest =>
      .str (some key) :: .colon :: member.tokens ++ .comma :: memberTokens rest
end

mutual
/-- All whole numbers of the value fit 64 bits. -/
def Fits : Json → Prop
  | .num n => n.Fits
  | .arr items => ItemsFit items
  | .obj members => MembersFit members
  | .null | .bool _ | .str _ => True

def ItemsFit : List Json → Prop
  | [] => True
  | item :: rest => item.Fits ∧ ItemsFit rest

def MembersFit : List (String × Json) → Prop
  | [] => True
  | member :: rest => member.2.Fits ∧ MembersFit rest
end

namespace Lexer

/-- Between two tokens, after these, the last one first. -/
def Between (l : Lexer) (earlier : List Token) : Prop := l = { tokens := earlier }

def Standing (l : Lexer) (earlier : List Token) : Prop :=
  l.Between earlier ∨ ∃ n before, l = { tokens := before, state := .numeral n } ∧
    n.complete = true ∧ earlier = .num n.value? :: before

/-- A text is read as tokens, from one kind of place to another. -/
def Reads (start stop : Lexer → List Token → Prop) (text : List Char) (tokens : List Token) :
    Prop :=
  ∀ l earlier, start l earlier →
    ∃ after, text.foldlM step? l = some after ∧ stop after (tokens.reverse ++ earlier)

variable {start middle stop : Lexer → List Token → Prop} {left right : List Char}
  {before after : List Token}

theorem Reads.append (hleft : Reads start middle left before)
    (hright : Reads middle stop right after) :
    Reads start stop (left ++ right) (before ++ after) := by
  intro l earlier hl
  obtain ⟨m, hm, hmiddle⟩ := hleft l earlier hl
  obtain ⟨r, hr, hstop⟩ := hright m _ hmiddle
  refine ⟨r, ?_, ?_⟩
  · rw [List.foldlM_append, hm]
    exact hr
  · rwa [List.reverse_append, List.append_assoc]

theorem Reads.refl : Reads start start [] [] := fun l _ hl => ⟨l, rfl, hl⟩

theorem Reads.stand (h : Reads start Between left before) : Reads start Standing left before := by
  intro l earlier hl
  obtain ⟨m, hm, hstop⟩ := h l earlier hl
  exact ⟨m, hm, .inl hstop⟩

theorem Reads.between (h : Reads Standing stop left before) : Reads Between stop left before :=
  fun l earlier hl => h l earlier (.inl hl)

section Marks

variable {c : Char}

theorem step?_eq_none (n : Numeral) (hdigit : c.isDigit = false)
    (hother : c ∉ ['.', 'e', 'E', '+', '-']) : n.step? c = none := by
  have hzero : c ≠ '0' := by
    rintro rfl
    cases hdigit
  simp only [List.mem_cons, List.not_mem_nil, or_false, not_or] at hother
  obtain ⟨hpoint, hsmall, hlarge, hplus, hminus⟩ := hother
  rw [Numeral.step?]
  cases n.part <;> simp [hdigit, hzero, hpoint, hsmall, hlarge, hplus, hminus]

/-- A character that no numeral goes on with ends the one that was read. -/
theorem step?_of_standing {l : Lexer} {earlier : List Token} (h : l.Standing earlier)
    (hdigit : c.isDigit = false) (hother : c ∉ ['.', 'e', 'E', '+', '-']) :
    l.step? c = ({ tokens := earlier } : Lexer).begin? c := by
  obtain rfl | ⟨n, before, rfl, hcomplete, rfl⟩ := h
  · rfl
  · rw [step?]
    simp only [step?_eq_none n hdigit hother, hcomplete, if_true]
    rfl

theorem reads_mark {token : Token} (hdigit : c.isDigit = false)
    (hother : c ∉ ['.', 'e', 'E', '+', '-'])
    (hbegin : ∀ earlier, ({ tokens := earlier } : Lexer).begin? c =
      some { tokens := token :: earlier }) : Reads Standing Between [c] [token] := by
  intro l earlier hl
  refine ⟨{ tokens := token :: earlier }, ?_, rfl⟩
  rw [List.foldlM_cons, step?_of_standing hl hdigit hother, hbegin]
  rfl

theorem reads_openArray : Reads Standing Between ['['] [.openArray] :=
  reads_mark rfl (by decide) fun _ => rfl

theorem reads_closeArray : Reads Standing Between [']'] [.closeArray] :=
  reads_mark rfl (by decide) fun _ => rfl

theorem reads_openObject : Reads Standing Between ['\x7b'] [.openObject] :=
  reads_mark rfl (by decide) fun _ => rfl

theorem reads_closeObject : Reads Standing Between ['\x7d'] [.closeObject] :=
  reads_mark rfl (by decide) fun _ => rfl

theorem reads_comma : Reads Standing Between [','] [.comma] :=
  reads_mark rfl (by decide) fun _ => rfl

theorem reads_blanks (n : ℕ) : Reads Between Between (List.replicate n ' ') [] := by
  rintro l earlier rfl
  refine ⟨_, ?_, rfl⟩
  induction n with
  | zero => rfl
  | succ n ih => exact ih

theorem reads_lineBreak (level : ℕ) : Reads Standing Between (lineBreak level).toList [] := by
  have hbreak : Reads Standing Between ['\n'] [] := by
    intro l earlier hl
    refine ⟨{ tokens := earlier }, ?_, rfl⟩
    rw [List.foldlM_cons, step?_of_standing hl rfl (by decide)]
    rfl
  rw [lineBreak, Numeral.toList_pushn]
  exact hbreak.append (reads_blanks _)

theorem reads_colon : Reads Standing Between [':', ' '] [.colon] :=
  (reads_mark rfl (by decide) fun _ => rfl).append (reads_blanks 1)

end Marks

section Values

theorem begin?_of_start? {c : Char} {n : Numeral} (h : Numeral.start? c = some n)
    (earlier : List Token) :
    ({ tokens := earlier } : Lexer).begin? c = some { tokens := earlier, state := .numeral n } := by
  have hc : c = '-' ∨ c.isDigit = true := by
    unfold Numeral.start? at h
    split at h
    · exact .inl ‹_›
    split at h
    · rename_i hzero
      rw [hzero]
      exact .inr rfl
    split at h
    · exact .inr ‹_›
    · cases h
  have hne (x : Char) (hx : x.isDigit = false) (hminus : x ≠ '-') : c ≠ x := by
    rintro rfl
    obtain rfl | hdigit := hc
    · exact hminus rfl
    · rw [hx] at hdigit
      cases hdigit
  have hblank : isBlank c = false := by
    simp [isBlank, hne ' ' rfl (by decide), hne '\t' rfl (by decide), hne '\n' rfl (by decide),
      hne '\r' rfl (by decide)]
  simp only [begin?, hblank, hne '[' rfl (by decide), hne ']' rfl (by decide),
    hne '\x7b' rfl (by decide), hne '\x7d' rfl (by decide), hne ',' rfl (by decide),
    hne ':' rfl (by decide), hne '"' rfl (by decide), hne 'n' rfl (by decide),
    hne 't' rfl (by decide), hne 'f' rfl (by decide), h, if_false, Bool.false_eq_true,
    Option.map_some]
  rfl

theorem foldlM_numeral {cs : List Char} {n m : Numeral} (h : cs.foldlM Numeral.step? n = some m)
    (earlier : List Token) :
    cs.foldlM step? { tokens := earlier, state := .numeral n } =
      some { tokens := earlier, state := .numeral m } := by
  induction cs generalizing n with
  | nil =>
      cases h
      rfl
  | cons c cs ih =>
      rw [List.foldlM_cons] at h ⊢
      obtain ⟨next, hstep, hrest⟩ := Option.bind_eq_some_iff.mp h
      have hnext : step? { tokens := earlier, state := .numeral n } c =
          some { tokens := earlier, state := .numeral next } := by
        simp only [step?, hstep]
        rfl
      rw [hnext]
      exact ih hrest

theorem reads_number {n : Number} (h : n.Fits) :
    Reads Between Standing (numberText n).toList [.num (some n.reread)] := by
  obtain ⟨m, hread, hcomplete, hvalue⟩ := h.read
  rintro l earlier rfl
  refine ⟨{ tokens := earlier, state := .numeral m }, ?_, .inr ⟨m, earlier, rfl, hcomplete, ?_⟩⟩
  · cases hchars : (numberText n).toList with
    | nil =>
        rw [hchars] at hread
        cases hread
    | cons c rest =>
        rw [hchars] at hread
        obtain ⟨first, hstart, hrest⟩ := Option.bind_eq_some_iff.mp hread
        have hfirst : step? { tokens := earlier } c =
            some { tokens := earlier, state := .numeral first } := begin?_of_start? hstart earlier
        rw [List.foldlM_cons, hfirst]
        exact foldlM_numeral hrest earlier
  · rw [hvalue]
    rfl

theorem reads_word {text : List Char} {token : Token}
    (h : ∀ earlier, text.foldlM step? { tokens := earlier } =
      some { tokens := token :: earlier }) : Reads Between Standing text [token] := by
  rintro l earlier rfl
  exact ⟨_, h earlier, .inl rfl⟩

/-- A character below the space, by its code. -/
theorem foldlM_unit {c : Char} (h : c.toNat < 0x20) (done : List Char) (sound : Bool)
    (earlier : List Token) :
    ['\\', 'u', '0', '0', Text.hexDigit (c.toNat / 16), Text.hexDigit (c.toNat % 16)].foldlM
      step? { tokens := earlier, state := .quoted ⟨done, none, sound⟩ } =
      some { tokens := earlier, state := .quoted ⟨c :: done, none, sound⟩ } := by
  have hstart : ['\\', 'u', '0', '0'].foldlM step?
      { tokens := earlier, state := .quoted ⟨done, none, sound⟩ } =
      some { tokens := earlier, state := .unit ⟨done, none, sound⟩ 2 0 } := rfl
  have hhigh := Text.hexValue?_hexDigit (show c.toNat / 16 < 16 by omega)
  have hlow := Text.hexValue?_hexDigit (show c.toNat % 16 < 16 by omega)
  have hunit : (0 * 16 + c.toNat / 16) * 16 + c.toNat % 16 = c.toNat := by omega
  have hpush : Quoted.pushUnit ⟨done, none, sound⟩ c.toNat = ⟨c :: done, none, sound⟩ := by
    rw [Quoted.pushUnit, if_neg (by omega), if_neg (by omega), Char.ofNat_toNat]
    rfl
  show List.foldlM step? _ (['\\', 'u', '0', '0'] ++ _) = _
  rw [List.foldlM_append, hstart]
  simp only [Option.bind_eq_bind, Option.bind_some, List.foldlM_cons, step?, hhigh, hlow,
    Option.map_some]
  simp only [inside, Nat.reduceLeDiff, if_false, if_true, Nat.le_refl, hunit, hpush,
    Nat.reduceSub, Option.bind_some]
  rfl

/-- An escaped character between quotes is read as itself. -/
theorem foldlM_escaped (c : Char) (done : List Char) (sound : Bool) (earlier : List Token) :
    (escaped c).foldlM step? { tokens := earlier, state := .quoted ⟨done, none, sound⟩ } =
      some { tokens := earlier, state := .quoted ⟨c :: done, none, sound⟩ } := by
  unfold escaped
  split
  · subst_vars
    rfl
  split
  · subst_vars
    rfl
  split
  · subst_vars
    rfl
  split
  · subst_vars
    rfl
  split
  · subst_vars
    rfl
  split
  · subst_vars
    rfl
  split
  · subst_vars
    rfl
  split
  · exact foldlM_unit ‹_› done sound earlier
  · rename_i hquote hslash _ _ _ _ _ hlow
    simp only [List.foldlM_cons, step?, hquote, hslash, hlow, if_false]
    rfl

theorem foldlM_quoted (cs done : List Char) (earlier : List Token) :
    (cs.foldr (fun c rest => escaped c ++ rest) ['"']).foldlM step?
      { tokens := earlier, state := .quoted ⟨done, none, true⟩ } =
      some { tokens := .str (some (String.ofList (done.reverse ++ cs))) :: earlier } := by
  induction cs generalizing done with
  | nil =>
      rw [List.append_nil]
      rfl
  | cons c cs ih =>
      rw [List.foldr_cons, List.foldlM_append, foldlM_escaped]
      refine (ih (c :: done)).trans ?_
      rw [List.reverse_cons, List.append_assoc, List.singleton_append]

theorem reads_quoted (s : String) :
    Reads Between Between (quoted s).toList [.str (some s)] := by
  rintro l earlier rfl
  refine ⟨{ tokens := .str (some s) :: earlier }, ?_, rfl⟩
  rw [quoted, String.toList_ofList, List.foldlM_cons]
  have hquoted := foldlM_quoted s.toList [] earlier
  rwa [List.reverse_nil, List.nil_append, String.ofList_toList] at hquoted

end Values

theorem reads_enclosed {first last : Char} {openToken closeToken : Token} {text : List Char}
    {inner : List Token} (level : ℕ) (hfirst : Reads Standing Between [first] [openToken])
    (htext : Reads Standing Standing text inner)
    (hlast : Reads Standing Between [last] [closeToken]) :
    Reads Between Standing ([first] ++ text ++ (lineBreak level).toList ++ [last])
      (openToken :: inner ++ [closeToken]) := by
  have hend := (reads_lineBreak level).stand.append hlast
  rw [List.append_assoc]
  exact (hfirst.stand.between.append htext).append hend.stand

end Lexer

open Lexer

mutual
theorem reads_prettyAt (level : ℕ) : (j : Json) → j.Fits →
    Reads Between Standing (prettyAt level j).toList j.tokens
  | .null, _ => by
      rw [prettyAt, tokens]
      exact reads_word fun _ => rfl
  | .bool true, _ => by
      rw [prettyAt, tokens]
      exact reads_word fun _ => rfl
  | .bool false, _ => by
      rw [prettyAt, tokens]
      exact reads_word fun _ => rfl
  | .num n, h => by
      rw [prettyAt, tokens]
      exact reads_number h
  | .str s, _ => by
      rw [prettyAt, tokens]
      exact (reads_quoted s).stand
  | .arr [], _ => by
      rw [prettyAt, tokens, itemTokens]
      exact (reads_openArray.between.append reads_closeArray.between).stand
  | .arr (item :: rest), h => by
      rw [prettyAt, tokens]
      have hitems := reads_prettyItems (level + 1) (item :: rest) h
      simpa using reads_enclosed level reads_openArray hitems reads_closeArray
  | .obj [], _ => by
      rw [prettyAt, tokens, memberTokens]
      exact (reads_openObject.between.append reads_closeObject.between).stand
  | .obj (member :: rest), h => by
      rw [prettyAt, tokens]
      have hmembers := reads_prettyMembers (level + 1) (member :: rest) h
      simpa using reads_enclosed level reads_openObject hmembers reads_closeObject

theorem reads_prettyItems (level : ℕ) : (items : List Json) → ItemsFit items →
    Reads Standing Standing (prettyItems level items).toList (itemTokens items)
  | [], _ => by
      rw [prettyItems, itemTokens]
      exact Reads.refl
  | [item], h => by
      rw [prettyItems, itemTokens, String.toList_append]
      exact (reads_lineBreak level).append (reads_prettyAt level item h.1)
  | item :: next :: rest, h => by
      have hitem := (reads_lineBreak level).append (reads_prettyAt level item h.1)
      have hrest := reads_comma.stand.append (reads_prettyItems level (next :: rest) h.2)
      simpa [prettyItems, itemTokens] using hitem.append hrest

theorem reads_prettyMembers (level : ℕ) : (members : List (String × Json)) → MembersFit members →
    Reads Standing Standing (prettyMembers level members).toList (memberTokens members)
  | [], _ => by
      rw [prettyMembers, memberTokens]
      exact Reads.refl
  | [(key, member)], h => by
      have hkey := ((reads_lineBreak level).append (reads_quoted key)).append reads_colon.between
      simpa [prettyMembers, memberTokens] using hkey.append (reads_prettyAt level member h.1)
  | (key, member) :: next :: rest, h => by
      have hkey := ((reads_lineBreak level).append (reads_quoted key)).append reads_colon.between
      have hmember := hkey.append (reads_prettyAt level member h.1)
      have hrest := reads_comma.stand.append (reads_prettyMembers level (next :: rest) h.2)
      simpa [prettyMembers, memberTokens] using hmember.append hrest
end

theorem tokens?_pretty {j : Json} (h : j.Fits) : tokens? j.pretty.toList = some j.tokens := by
  obtain ⟨l, hread, hstanding⟩ := reads_prettyAt 0 j h {} [] rfl
  rw [tokens?, pretty, hread, Option.bind_some, finish?]
  rw [List.append_nil] at hstanding
  obtain rfl | ⟨n, before, rfl, hcomplete, htokens⟩ := hstanding
  · rw [List.reverse_reverse]
  · simp only [hcomplete, if_true]
    rw [emit, ← htokens, List.reverse_reverse]

end NodeCanvas.Json
