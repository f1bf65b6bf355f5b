import Mathlib.Data.List.DropRight
import NodeCanvas.Url.Parser

namespace NodeCanvas.Url

section Cutting

variable {mark : Char → Bool} {text front rest : List Char}

theorem takeWhile_append_of_head (hfront : ∀ c ∈ front, mark c = true)
    (hrest : ∀ c ∈ rest.head?, mark c = false) : (front ++ rest).takeWhile mark = front := by
  rw [List.takeWhile_append_of_pos hfront]
  cases rest with
  | nil => simp
  | cons c rest => simp [hrest c rfl]

theorem dropWhile_append_of_head (hfront : ∀ c ∈ front, mark c = true)
    (hrest : ∀ c ∈ rest.head?, mark c = false) : (front ++ rest).dropWhile mark = rest := by
  rw [List.dropWhile_append_of_pos hfront]
  cases rest with
  | nil => rfl
  | cons c rest => simp [hrest c rfl]

theorem head?_dropWhile (mark : Char → Bool) (text : List Char) :
    ∀ c ∈ (text.dropWhile mark).head?, mark c = false := by
  intro c hc
  have hstop := List.head?_dropWhile_not mark text
  rw [hc] at hstop
  exact hstop

theorem exists_cut (mark : Char → Bool) (text : List Char) :
    ∃ front rest, text = front ++ rest ∧ (∀ c ∈ front, mark c = false) ∧
      ∀ c ∈ rest.head?, mark c = true := by
  refine ⟨text.takeWhile fun c => !mark c, text.dropWhile fun c => !mark c,
    List.takeWhile_append_dropWhile.symm, fun c hc => ?_, fun c hc => ?_⟩
  · simpa using List.mem_takeWhile_imp hc
  · simpa using head?_dropWhile _ _ c hc

theorem forall_head?_append (hfront : ∀ c ∈ front.head?, mark c = true)
    (hrest : ∀ c ∈ rest.head?, mark c = true) : ∀ c ∈ (front ++ rest).head?, mark c = true := by
  cases front with
  | nil => exact hrest
  | cons c front => exact hfront

theorem dropWhile_append_of_ne_nil (h : text.dropWhile mark ≠ []) (rest : List Char) :
    (text ++ rest).dropWhile mark = text.dropWhile mark ++ rest := by
  rw [List.dropWhile_append, if_neg]
  simpa using h

theorem cutAt_eq_none_iff : (cutAt mark text).2 = none ↔ ∀ c ∈ text, mark c = false := by
  have hall : text.dropWhile (fun c => !mark c) = [] ↔ ∀ c ∈ text, mark c = false := by
    simp [List.dropWhile_eq_nil_iff]
  rw [← hall, cutAt]
  split
  · rename_i hnone
    exact iff_of_true rfl hnone
  · rename_i hsome
    exact iff_of_false nofun fun hnone => by cases hnone.symm.trans hsome

theorem cutAt_of_none (h : ∀ c ∈ text, mark c = false) : cutAt mark text = (text, none) := by
  rw [cutAt, List.dropWhile_eq_nil_iff.mpr (by simpa using h)]

theorem cutAt_eq_some_iff :
    cutAt mark text = (front, some rest) ↔
      ∃ c, mark c = true ∧ (∀ d ∈ front, mark d = false) ∧ text = front ++ c :: rest := by
  constructor
  · intro h
    rw [cutAt] at h
    split at h
    · cases h
    · rename_i c behind hbehind
      obtain ⟨rfl, hrest⟩ := Prod.mk.inj h
      obtain rfl := Option.some.inj hrest
      have hstop := head?_dropWhile (fun c => !mark c) text c (by rw [hbehind]; rfl)
      refine ⟨c, by simpa using hstop, fun d hd => ?_, ?_⟩
      · simpa using List.mem_takeWhile_imp hd
      · rw [← hbehind, List.takeWhile_append_dropWhile]
  · rintro ⟨c, hc, hfront, rfl⟩
    have hpass : ∀ d ∈ front, (!mark d) = true := by simpa using hfront
    have hstop : ∀ d ∈ (c :: rest).head?, (!mark d) = false := by simpa using hc
    rw [cutAt, dropWhile_append_of_head hpass hstop, takeWhile_append_of_head hpass hstop]

end Cutting

/-- A scheme begins with a letter and ends at the first colon. -/
theorem scheme?_eq_some_iff {text rest : List Char} {scheme : String} :
    scheme? text = some (scheme, rest) ↔
      ∃ name, (∀ c ∈ name, isSchemeChar c = true) ∧ (name.head?.any Char.isAlpha) = true ∧
        scheme = String.ofList (name.map Char.toLower) ∧ text = name ++ ':' :: rest := by
  constructor
  · intro h
    rw [scheme?.eq_def] at h
    split at h
    · rename_i name behind first others hcut
      rw [Option.ite_none_right_eq_some] at h
      obtain ⟨hstart, hparts⟩ := h
      obtain ⟨rfl, rfl⟩ := Prod.mk.inj (Option.some.inj hparts)
      rw [Bool.and_eq_true, beq_iff_eq] at hstart
      obtain ⟨c, hc, hname, htext⟩ := cutAt_eq_some_iff.mp hcut
      rw [htext, List.drop_left] at hstart
      obtain rfl := List.head_eq_of_cons_eq hstart.2
      refine ⟨name, by simpa using hname, ?_, rfl, htext⟩
      cases name with
      | nil =>
          obtain rfl := List.head_eq_of_cons_eq htext
          exact absurd hstart.1 (by decide)
      | cons letter name =>
          obtain rfl := List.head_eq_of_cons_eq htext
          simpa using hstart.1
    · cases h
  · rintro ⟨name, hname, hletter, rfl, rfl⟩
    have hcut : cutAt (fun c => !isSchemeChar c) (name ++ ':' :: rest) = (name, some rest) :=
      cutAt_eq_some_iff.mpr ⟨':', by decide, by simpa using hname, rfl⟩
    cases name with
    | nil => cases hletter
    | cons letter name =>
        rw [scheme?.eq_def, hcut]
        simp only [List.cons_append]
        rw [if_pos]
        rw [Bool.and_eq_true, beq_iff_eq]
        exact ⟨by simpa using hletter, List.drop_left⟩

def isOuter (c : Char) : Bool := c.toNat ≤ 0x20

def bare (text : List Char) : List Char :=
  ((text.dropWhile isOuter).rdropWhile isOuter).filter fun c => !isIgnored c

theorem bare_eq (text : List Char) :
    List.filter (fun c => !isIgnored c)
      ((text.dropWhile fun c => c.toNat ≤ 0x20).reverse.dropWhile
        fun c => c.toNat ≤ 0x20).reverse = bare text := rfl

theorem withHost_ok {scheme : String} {tail : Tail} {text : List Char} {u : Url}
    (h : withHost scheme tail text = .ok u) :
    u.scheme = scheme ∧ u.query = tail.query ∧ u.fragment = tail.fragment := by
  simp only [withHost, bind, Except.bind, throw, throwThe, MonadExceptOf.throw, pure,
    Except.pure] at h
  repeat' split at h
  all_goals cases h
  all_goals exact ⟨rfl, rfl, rfl⟩

theorem ofFile_ok {tail : Tail} {text : List Char} {u : Url} (h : ofFile tail text = .ok u) :
    u.scheme = "file" := by
  simp only [ofFile, bind, Except.bind, pure, Except.pure] at h
  repeat' split at h
  all_goals cases h
  all_goals rfl

theorem scheme_of_ofText {text : String} {u : Url} (h : ofText text = .ok u) :
    ∃ rest, scheme? (bare text.toList) = some (u.scheme, rest) := by
  rw [ofText, bare_eq] at h
  split at h
  · cases h
  · rename_i scheme rest hscheme
    suffices hsame : u.scheme = scheme from ⟨rest, hsame ▸ hscheme⟩
    simp only at h
    split at h
    · exact (withHost_ok h).1
    · split at h
      · rename_i hfile
        rw [ofFile_ok h, beq_iff_eq.mp hfile]
      · split at h
        · exact (withHost_ok h).1
        · cases h
          rfl
        · cases h
          rfl

def writtenTail (scheme : String) (query fragment : Option (List Char)) : Tail where
  query := query.map fun text => String.ofList
    (Percent.encode (fun c => Percent.inQuery c || c == '\x27' && takesBackslash scheme) text)
  fragment := fragment.map fun text => String.ofList
    (Percent.encode (fun c => Percent.isControl c || " \"<>`".toList.contains c) text)

theorem ofText_of_network {text : String} {scheme : String} {rest : List Char}
    (hscheme : scheme? (bare text.toList) = some (scheme, rest))
    (hnetwork : isNetworkScheme scheme = true) :
    ofText text =
      let (rest, fragment) := cutAt (· == '#') rest
      let (rest, query) := cutAt (· == '?') rest
      withHost scheme (writtenTail scheme query fragment)
        (rest.dropWhile (isSeparator scheme)) := by
  rw [ofText, bare_eq, hscheme]
  exact if_pos hnetwork

/-- An address on a network that has neither query nor fragment. -/
theorem ofText_eq_ok_iff {text : String} {u : Url} (hnetwork : isNetworkScheme u.scheme = true)
    (hquery : u.query = none) (hfragment : u.fragment = none) :
    ofText text = .ok u ↔
      ∃ rest, scheme? (bare text.toList) = some (u.scheme, rest) ∧
        (∀ c ∈ rest, (c == '#') = false) ∧ (∀ c ∈ rest, (c == '?') = false) ∧
        withHost u.scheme ⟨none, none⟩ (rest.dropWhile (isSeparator u.scheme)) = .ok u := by
  constructor
  · intro h
    obtain ⟨rest, hscheme⟩ := scheme_of_ofText h
    rw [ofText_of_network hscheme hnetwork] at h
    have hsharp := cutAt_eq_none_iff.mp
      (Option.map_eq_none_iff.mp ((withHost_ok h).2.2.symm.trans hfragment))
    simp only [cutAt_of_none hsharp] at h
    have hmark := cutAt_eq_none_iff.mp
      (Option.map_eq_none_iff.mp ((withHost_ok h).2.1.symm.trans hquery))
    simp only [cutAt_of_none hmark] at h
    exact ⟨rest, hscheme, hsharp, hmark, h⟩
  · rintro ⟨rest, hscheme, hsharp, hmark, hhost⟩
    rw [ofText_of_network hscheme hnetwork]
    simp only [cutAt_of_none hsharp, cutAt_of_none hmark]
    exact hhost

/-- A host ends at a colon or with the text. -/
theorem hostText_rest (inBrackets : Bool) (text : List Char) :
    (hostText inBrackets text).2 = [] ∨
      ∃ port, (hostText inBrackets text).2 = ':' :: port ∧ ∀ c ∈ port, c ∈ text := by
  induction text generalizing inBrackets with
  | nil => exact .inl rfl
  | cons c text ih =>
      rw [hostText]
      split
      · rename_i hcolon
        obtain rfl : c = ':' := by simpa using (Bool.and_eq_true_iff.mp hcolon).1
        exact .inr ⟨text, rfl, fun d hd => List.mem_cons_of_mem _ hd⟩
      · rcases ih ((inBrackets || c == '[') && c != ']') with hnone | ⟨port, hport, hmem⟩
        · exact .inl hnone
        · exact .inr ⟨port, hport, fun d hd => List.mem_cons_of_mem _ (hmem d hd)⟩

theorem port?_rest {scheme : String} {text rest : List Char} {port : Option Nat}
    (htext : text = [] ∨ ∃ digits, text = ':' :: digits ∧ '\\' ∉ digits)
    (h : port? scheme text = .ok (port, rest)) : rest = [] := by
  rcases htext with rfl | ⟨digits, rfl, hslash⟩
  · cases h
    rfl
  · simp only [port?] at h
    have hdrop : rest = digits.dropWhile Char.isDigit := by
      repeat' split at h
      all_goals cases h
      all_goals rfl
    split at h
    · cases h
    · rename_i hstop
      cases hbehind : digits.dropWhile Char.isDigit with
      | nil => rw [hdrop, hbehind]
      | cons c behind =>
          obtain rfl : c = '\\' := by simpa [hbehind] using hstop
          have hmem : '\\' ∈ digits.dropWhile Char.isDigit := by simp [hbehind]
          exact absurd (List.dropWhile_subset _ hmem) hslash

theorem isSeparator_slash (scheme : String) : isSeparator scheme '/' = true := by
  simp [isSeparator]

section Host

variable {scheme : String} {tail : Tail} {authority path : List Char}

theorem withHost_of_network (hnetwork : isNetworkScheme scheme = true) (text : List Char) :
    withHost scheme tail text =
      let (before, place) := cutAtLast '@' (text.takeWhile fun c => !isSeparator scheme c)
      let (name, rest) := hostText false place
      if name.isEmpty then .error .emptyHost
      else do
        let host ← Host.ofNetwork name
        let (port, rest) ← port? scheme rest
        return {
          scheme, login := before.bind loginText, host := some host, port
          path := pathAfterHost scheme (rest ++ text.dropWhile fun c => !isSeparator scheme c)
          query := tail.query, fragment := tail.fragment } := by
  simp only [withHost, hnetwork, Bool.true_or, Bool.and_true, if_true]
  generalize cutAtLast '@' (text.takeWhile fun c => !isSeparator scheme c) = cut
  obtain ⟨before, place⟩ := cut
  -- Without a place both checks for a host fail in the same way, so that the first is not needed.
  cases place with
  | nil => simp [hostText, throw, throwThe, MonadExceptOf.throw, bind, Except.bind]
  | cons c place =>
      simp only [List.isEmpty_cons, Bool.and_false, Bool.false_and, Bool.false_eq_true, if_false]
      split
      · rfl
      · rename_i hname
        simp [hname]

theorem mem_of_cutAtLast {mark c : Char} {text : List Char} (h : c ∈ (cutAtLast mark text).2) :
    c ∈ text := by
  rw [cutAtLast] at h
  split at h
  · rw [List.mem_reverse] at h
    exact List.mem_reverse.mp (List.takeWhile_subset _ h)
  · exact h

/-- A path behind a host changes nothing but the path. -/
theorem withHost_append (hnetwork : isNetworkScheme scheme = true)
    (hauthority : ∀ c ∈ authority, isSeparator scheme c = false)
    (hpath : ∀ c ∈ path.head?, isSeparator scheme c = true) :
    withHost scheme tail (authority ++ path) =
      (withHost scheme tail authority).map fun u =>
        { u with path := pathAfterHost scheme path } := by
  have hpass : ∀ c ∈ authority, (!isSeparator scheme c) = true := by simpa using hauthority
  have hstop : ∀ c ∈ path.head?, (!isSeparator scheme c) = false := by simpa using hpath
  rw [withHost_of_network hnetwork, withHost_of_network hnetwork]
  rw [takeWhile_append_of_head hpass hstop, dropWhile_append_of_head hpass hstop,
    List.takeWhile_eq_self_iff.mpr hpass, List.dropWhile_eq_nil_iff.mpr hpass]
  have hplace : ∀ c ∈ (cutAtLast '@' authority).2, c ∈ authority := fun c => mem_of_cutAtLast
  generalize cutAtLast '@' authority = cut at hplace
  obtain ⟨before, place⟩ := cut
  -- A backslash would end the authority, so that nothing can stand behind the port.
  have hslash : '\\' ∉ place := fun h => by
    have := hauthority _ (hplace _ h)
    simp [isSeparator, takesBackslash, hnetwork] at this
  have hrest := hostText_rest false place
  simp only
  split
  · rfl
  · cases Host.ofNetwork (hostText false place).1 with
    | error e => rfl
    | ok host =>
        cases hport : port? scheme (hostText false place).2 with
        | error e => rfl
        | ok found =>
            obtain ⟨port, rest⟩ := found
            obtain rfl : rest = [] := by
              refine port?_rest (hrest.imp_right ?_) hport
              rintro ⟨digits, hdigits, hmem⟩
              exact ⟨digits, hdigits, fun h => hslash (hmem _ h)⟩
            rfl

theorem withHost_nil (hnetwork : isNetworkScheme scheme = true) :
    withHost scheme tail [] = .error .emptyHost := by
  rw [withHost_of_network hnetwork]
  rfl

/-- What stands behind the slashes after a scheme is a host and what precedes any further path. -/
theorem withHost_own {front slashes : List Char} {base : Url}
    (hnetwork : isNetworkScheme scheme = true)
    (hslashes : ∀ c ∈ slashes, isSeparator scheme c = true)
    (h : withHost scheme tail ((front ++ slashes).dropWhile (isSeparator scheme)) = .ok base) :
    ∃ own, (∀ c ∈ own.head?, isSeparator scheme c = true) ∧
      base.path = pathAfterHost scheme (own ++ slashes) ∧
      ∀ path, (∀ c ∈ path.head?, isSeparator scheme c = true) →
        withHost scheme tail ((front ++ path).dropWhile (isSeparator scheme)) =
          .ok { base with path := pathAfterHost scheme (own ++ path) } := by
  have hfront : front.dropWhile (isSeparator scheme) ≠ [] := by
    intro hnil
    rw [List.dropWhile_append, hnil, List.isEmpty_nil, if_pos rfl,
      List.dropWhile_eq_nil_iff.mpr hslashes, withHost_nil hnetwork] at h
    cases h
  simp only [dropWhile_append_of_ne_nil hfront] at h ⊢
  obtain ⟨authority, own, hbehind, hauthority, hown⟩ :=
    exists_cut (isSeparator scheme) (front.dropWhile (isSeparator scheme))
  simp only [hbehind, List.append_assoc] at h ⊢
  have hslash := forall_head?_append hown fun c hc => hslashes c (List.mem_of_mem_head? hc)
  rw [withHost_append hnetwork hauthority hslash] at h
  cases hwith : withHost scheme tail authority with
  | error e =>
      rw [hwith] at h
      cases h
  | ok u =>
      rw [hwith] at h
      obtain rfl := Except.ok.inj h
      refine ⟨own, hown, rfl, fun path hpath => ?_⟩
      rw [withHost_append hnetwork hauthority (forall_head?_append hown hpath), hwith]
      rfl

end Host

end NodeCanvas.Url
