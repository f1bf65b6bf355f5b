import NodeCanvas.Proofs.Url.Encoding
import NodeCanvas.Text.Case
import NodeCanvas.Url.Basic

/-!
Segments that are added to a path. What is written for a segment reads back as the segment, unless
the segment stands for a place or holds characters that addresses leave out: a dot adds nothing or
an empty segment, and two dots that are hidden behind a character which is left out take away the
segment before them.
-/
namespace NodeCanvas

/-- A character is its own small letter or the capital of it. -/
theorem eq_or_toNat_of_toLower {c d : Char} (h : c.toLower = d) :
    c = d ∨ 65 ≤ c.toNat ∧ c.toNat ≤ 90 ∧ c.toNat + 32 = d.toNat := by
  have hcode := congrArg Char.toNat h
  rw [Text.toNat_toLower] at hcode
  split at hcode
  · rename_i hcapital
    exact .inr ⟨hcapital.1, hcapital.2, hcode⟩
  · exact .inl (Char.toNat_inj.mp hcode)

theorem eq_of_toLower {c d : Char} (h : c.toLower = d) (hd : d.toNat < 97) : c = d := by
  rcases eq_or_toNat_of_toLower h with heq | ⟨hlow, -, hcode⟩
  · exact heq
  · omega

theorem hexValue?_of_toLower_e {c : Char} (h : c.toLower = 'e') : Text.hexValue? c = some 14 := by
  rcases eq_or_toNat_of_toLower h with rfl | ⟨-, -, hcode⟩
  · decide
  · obtain rfl : c = 'E' := Char.toNat_inj.mp (by simpa using hcode)
    decide

namespace Url

open Percent

theorem decode_dot (rest : List Char) : decode ('.' :: rest) = 46 :: decode rest :=
  decode_cons (by decide) rest

theorem decode_writtenDot {c : Char} (h : c.toLower = 'e') (rest : List Char) :
    decode ('%' :: '2' :: c :: rest) = 46 :: decode rest := by
  rw [decode, hexValue?_of_toLower_e h]
  rfl

/-- What is a dot in small letters is one, be it written as it is or as an octet. -/
theorem decode_append_of_here {shown : List Char}
    (h : shown.map Char.toLower ∈ [".".toList, "%2e".toList]) (rest : List Char) :
    decode (shown ++ rest) = 46 :: decode rest := by
  rcases List.mem_cons.mp h with hdot | hwritten
  · obtain ⟨c, _, rfl, hc, hnil⟩ := List.map_eq_cons_iff.mp hdot
    obtain rfl := List.map_eq_nil_iff.mp hnil
    obtain rfl := eq_of_toLower hc (by decide)
    exact decode_dot rest
  · obtain ⟨sign, _, rfl, hsign, hwritten⟩ :=
      List.map_eq_cons_iff.mp (List.mem_singleton.mp hwritten)
    obtain ⟨two, _, rfl, htwo, hwritten⟩ := List.map_eq_cons_iff.mp hwritten
    obtain ⟨c, _, rfl, hc, hnil⟩ := List.map_eq_cons_iff.mp hwritten
    obtain rfl := List.map_eq_nil_iff.mp hnil
    obtain rfl := eq_of_toLower hsign (by decide)
    obtain rfl := eq_of_toLower htwo (by decide)
    exact decode_writtenDot hc rest

theorem decodeText?_of_isHere {shown : List Char} (h : isHere shown = true) :
    decodeText? shown = some ['.'] := by
  have hhere : shown.map Char.toLower ∈ [".".toList, "%2e".toList] := by
    simpa [isHere] using h
  have hread : decode shown = [46] := by
    simpa [decode] using decode_append_of_here hhere []
  rw [decodeText?, hread]
  rfl

theorem decodeText?_of_isAbove {shown : List Char} (h : isAbove shown = true) :
    decodeText? shown = some ['.', '.'] := by
  obtain ⟨first, second, hfirst, hsecond, hboth⟩ : ∃ first second,
      first ∈ [".".toList, "%2e".toList] ∧ second ∈ [".".toList, "%2e".toList] ∧
        shown.map Char.toLower = first ++ second := by
    obtain ⟨above, habove, heq⟩ := List.any_eq_true.mp h
    have heq : shown.map Char.toLower = above.toList := by simpa using heq
    simp only [List.mem_cons, List.not_mem_nil, or_false] at habove
    rcases habove with rfl | rfl | rfl | rfl
    · exact ⟨".".toList, ".".toList, by simp, by simp, heq⟩
    · exact ⟨".".toList, "%2e".toList, by simp, by simp, heq⟩
    · exact ⟨"%2e".toList, ".".toList, by simp, by simp, heq⟩
    · exact ⟨"%2e".toList, "%2e".toList, by simp, by simp, heq⟩
  obtain ⟨front, back, rfl, hfront, hback⟩ := List.map_eq_append_iff.mp hboth
  have hread : decode back = [46] := by
    simpa [decode] using decode_append_of_here (hback ▸ hsecond) []
  rw [decodeText?, decode_append_of_here (hfront ▸ hfirst), hread]
  rfl

section Writing

variable {written : Char → Bool} (hpercent : written '%' = true) (hdot : written '.' = false)

include hpercent hdot

theorem isHere_encode_iff {text : List Char} :
    isHere (encode written text) = true ↔ text = ['.'] := by
  constructor
  · intro h
    exact Option.some.inj ((decodeText?_encode hpercent text).symm.trans (decodeText?_of_isHere h))
  · rintro rfl
    rw [encode_eq_self (by simpa using hdot)]
    decide

theorem isAbove_encode_iff {text : List Char} :
    isAbove (encode written text) = true ↔ text = ['.', '.'] := by
  constructor
  · intro h
    exact Option.some.inj
      ((decodeText?_encode hpercent text).symm.trans (decodeText?_of_isAbove h))
  · rintro rfl
    rw [encode_eq_self (by simpa using hdot)]
    decide

theorem addSegment_eq (names : List String) (text : List Char) :
    addSegment written names text true =
      if text = ['.', '.'] then names.dropLast ++ [""]
      else if text = ['.'] then names ++ [""]
      else names ++ [String.ofList (encode written text)] := by
  simp only [addSegment, isAbove_encode_iff hpercent hdot, isHere_encode_iff hpercent hdot, if_true]

end Writing

/-- What an address keeps of a text. -/
def kept (text : List Char) : List Char := text.filter fun c => !isIgnored c

/-- A text that is written into an address as one segment, and nothing of it left out. -/
def Plain (text : List Char) : Prop := kept text = text ∧ text ≠ ['.'] ∧ text ≠ ['.', '.']

instance (text : List Char) : Decidable (Plain text) := inferInstanceAs (Decidable (_ ∧ _))

/-- Where a segment that is added leads from the end of a path. -/
inductive Lead where
  | stays
  | above
  | named (text : List Char)
deriving DecidableEq

def lead (text : List Char) : Lead :=
  -- Dots are looked for before characters are left out, and once more when they are.
  if text = ['.'] ∨ text = ['.', '.'] then .stays
  else if kept text = ['.', '.'] then .above
  else if kept text = ['.'] then .named []
  else .named (kept text)

/-- The characters of a segment that are written as octets. -/
def writtenIn (scheme : String) (c : Char) : Bool :=
  inSegment c || (c == '\\' && takesBackslash scheme)

def Lead.goes (scheme : String) (names : List String) : Lead → List String
  | .stays => names
  | .above => names.dropLast ++ [""]
  | .named text => names ++ [String.ofList (encode (writtenIn scheme) text)]

theorem writtenIn_percent (scheme : String) : writtenIn scheme '%' = true := by
  simp [writtenIn, inSegment]

theorem writtenIn_dot (scheme : String) : writtenIn scheme '.' = false := by
  have hsegment : inSegment '.' = false := by decide
  simp [writtenIn, hsegment]

/-- A segment goes where it leads; an empty one at the end of the path is replaced. -/
theorem push?_eq {u : Url} {front tail : List String} {last : String} (hlast : last ≠ "")
    (htail : tail = [] ∨ tail = [""]) (hpath : u.path = .segments (front ++ last :: tail))
    (text : List Char) :
    u.push? text = some { u with
      path := .segments ((lead text).goes u.scheme (front ++ [last])) } := by
  -- What `push?` takes off the end, be there an empty segment or not.
  have hdropped : (if (front ++ last :: tail).length > 1 &&
      (front ++ last :: tail).getLast? == some "" then (front ++ last :: tail).dropLast
      else front ++ last :: tail) = front ++ [last] := by
    rcases htail with rfl | rfl
    · simp [hlast]
    · simp
  have hkept : ((front ++ [last] == [""]) : Bool) = false := by
    rw [beq_eq_false_iff_ne]
    intro heq
    have heq : front ++ [last] = [] ++ [""] := heq
    exact hlast (List.head_eq_of_cons_eq (List.append_inj_right' heq rfl))
  rw [push?, hpath]
  simp only [hdropped, hkept, Bool.false_eq_true, if_false, lead]
  by_cases hdots : text = ['.'] ∨ text = ['.', '.']
  · rw [if_pos hdots, if_pos (by simpa using hdots)]
    rfl
  · have hadded := addSegment_eq (writtenIn_percent u.scheme) (writtenIn_dot u.scheme)
      (front ++ [last]) (kept text)
    rw [if_neg hdots, if_neg (by simpa using hdots)]
    refine congrArg (fun names => some { u with path := .segments names }) (hadded.trans ?_)
    split
    · rfl
    · split <;> rfl

/-- A text that is written as it is leads to itself, and no other one does. -/
theorem lead_eq_named_iff {text : List Char} : lead text = .named text ↔ Plain text := by
  rw [lead, Plain]
  split
  · rename_i hdots
    exact iff_of_false nofun fun h => hdots.elim h.2.1 h.2.2
  · rename_i hdots
    have hdots := not_or.mp hdots
    split
    · rename_i habove
      exact iff_of_false nofun fun h => hdots.2 (h.1.symm.trans habove)
    · split
      · rename_i hhere
        refine iff_of_false (fun h => ?_) fun h => hdots.1 (h.1.symm.trans hhere)
        rw [← Lead.named.inj h] at hhere
        cases hhere
      · simp [hdots]

namespace Lead

variable {scheme : String} {names : List String} {l other : Lead}

theorem goes_append (hnames : names ≠ []) (front : List String) (l : Lead) :
    l.goes scheme (front ++ names) = front ++ l.goes scheme names := by
  cases l with
  | stays => rfl
  | above => rw [goes, goes, List.dropLast_append_of_ne_nil hnames, List.append_assoc]
  | named text => rw [goes, goes, List.append_assoc]

theorem decodeText?_written (scheme : String) (text : List Char) :
    decodeText? (String.ofList (encode (writtenIn scheme) text)).toList = some text := by
  rw [String.toList_ofList, decodeText?_encode (writtenIn_percent scheme)]

/-- Different leads go to different places, as long as what they start from is no empty segment. -/
theorem goes_inj {last : String} (hlast : last ≠ "") :
    l.goes scheme (names ++ [last]) = other.goes scheme (names ++ [last]) ↔ l = other := by
  refine ⟨fun h => ?_, fun h => h ▸ rfl⟩
  -- Only a name makes the path longer, so that what is left is to tell staying from going up.
  have hlength := congrArg List.length h
  cases l with
  | stays =>
      cases other with
      | stays => rfl
      | above =>
          rw [goes, goes, List.dropLast_concat] at h
          exact absurd (List.head_eq_of_cons_eq (List.append_cancel_left h)) hlast
      | named text => simp [goes] at hlength
  | above =>
      cases other with
      | stays =>
          rw [goes, goes, List.dropLast_concat] at h
          exact absurd (List.head_eq_of_cons_eq (List.append_cancel_left h)).symm hlast
      | above => rfl
      | named text => simp [goes] at hlength
  | named text =>
      cases other with
      | stays => simp [goes] at hlength
      | above => simp [goes] at hlength
      | named second =>
          have hwritten := List.head_eq_of_cons_eq (List.append_cancel_left h)
          have hread := decodeText?_written scheme text
          rw [hwritten, decodeText?_written] at hread
          rw [Option.some.inj hread]

end Lead

end Url

/-- The path leads one segment further than some names, and the segment reads as a text. -/
def UrlPath.Names (path : UrlPath) (names : List String) (text : List Char) : Prop :=
  ∃ segment : String, path = .segments (names ++ [segment]) ∧
    Percent.decodeText? segment.toList = some text

theorem Url.Lead.names_iff (scheme : String) {names : List String} (text : List Char) (l : Lead)
    (hnames : names ≠ []) :
    (UrlPath.segments (l.goes scheme names)).Names names text ↔ l = .named text := by
  have hpositive := List.length_pos_iff.mpr hnames
  constructor
  · rintro ⟨segment, hpath, hread⟩
    have hgoes := UrlPath.segments.inj hpath
    have hlength := congrArg List.length hgoes
    cases l with
    | stays => simp [goes] at hlength
    | above =>
        simp only [goes, List.length_append, List.length_dropLast, List.length_singleton] at hlength
        omega
    | named written =>
        obtain rfl := List.head_eq_of_cons_eq (List.append_cancel_left hgoes)
        rw [decodeText?_written] at hread
        rw [Option.some.inj hread]
  · rintro rfl
    exact ⟨_, rfl, decodeText?_written scheme text⟩

end NodeCanvas
