import NodeCanvas.Json.Printer
import NodeCanvas.Proofs.Json.Scaling

namespace NodeCanvas.Json

open Nat (toDigits ofDigitChars)

namespace Numeral

/-- A numeral of which no more than the sign has been read. -/
def unread (negative : Bool) : Numeral := { part := .sign, negative }

def ofChars? : List Char → Option Numeral
  | [] => none
  | c :: rest => (start? c).bind fun n => rest.foldlM step? n

theorem le_ofDigitChars (ds : List Char) (init : ℕ) : init ≤ ofDigitChars 10 ds init := by
  rw [Nat.ofDigitChars_eq_ofDigitChars_zero]
  have := Nat.le_mul_of_pos_left init (show 0 < 10 ^ ds.length by positivity)
  omega

theorem fits_iff {leading digit : ℕ} : fits leading digit ↔ 10 * leading + digit < 2 ^ 64 := by
  rw [fits, decide_eq_true_iff, Nat.one_shiftLeft, Nat.mul_comm]

section Digits

variable {n : Numeral} {c : Char} {ds : List Char}

theorem step?_integer (hpart : n.part = .integer) (hfull : n.full = false) (hc : c.isDigit)
    (hfit : 10 * n.leading + (c.toNat - '0'.toNat) < 2 ^ 64) :
    n.step? c = some { n with leading := 10 * n.leading + (c.toNat - '0'.toNat) } := by
  have hfit := fits_iff.mpr hfit
  rw [step?, hpart, integerDigit]
  simp only [hc, hfull, hfit, if_true, Bool.not_true, Bool.or_self, Bool.false_eq_true, if_false,
    reduceCtorEq, Nat.mul_comm]

theorem step?_fraction (hpart : n.part = .point ∨ n.part = .fraction) (hfull : n.full = false)
    (hc : c.isDigit) (hfit : 10 * n.leading + (c.toNat - '0'.toNat) < 2 ^ 64) :
    n.step? c = some { n with
      part := .fraction
      leading := 10 * n.leading + (c.toNat - '0'.toNat)
      shift := n.shift - 1 } := by
  have hfit := fits_iff.mpr hfit
  rcases hpart with hpart | hpart <;> rw [step?, hpart, fractionDigit] <;>
    simp only [hc, hfull, hfit, if_true, Bool.not_true, Bool.or_self, Bool.false_eq_true, if_false,
      Nat.mul_comm]

theorem step?_power (hpart : n.part = .markSign ∨ n.part = .power) (hc : c.isDigit) :
    n.step? c = some { n with
      part := .power
      power := 10 * n.power + (c.toNat - '0'.toNat) } := by
  rcases hpart with hpart | hpart <;> rw [step?, hpart, powerDigit] <;>
    simp only [hc, if_true, Nat.mul_comm]

theorem integerDigits (hpart : n.part = .integer) (hfull : n.full = false)
    (hds : ∀ c ∈ ds, c.isDigit) (hfits : ofDigitChars 10 ds n.leading < 2 ^ 64) :
    ds.foldlM step? n = some { n with leading := ofDigitChars 10 ds n.leading } := by
  induction ds generalizing n with
  | nil => rfl
  | cons c ds ih =>
      rw [Nat.ofDigitChars_cons] at hfits ⊢
      rw [List.foldlM_cons, step?_integer hpart hfull (hds c List.mem_cons_self)
        ((le_ofDigitChars ds _).trans_lt hfits)]
      exact ih hpart hfull (fun d hd => hds d (List.mem_cons_of_mem _ hd)) hfits

theorem fractionDigits (hpart : n.part = .point ∨ n.part = .fraction) (hfull : n.full = false)
    (hne : ds ≠ []) (hds : ∀ c ∈ ds, c.isDigit) (hfits : ofDigitChars 10 ds n.leading < 2 ^ 64) :
    ds.foldlM step? n = some { n with
      part := .fraction
      leading := ofDigitChars 10 ds n.leading
      shift := n.shift - ds.length } := by
  induction ds generalizing n with
  | nil => exact absurd rfl hne
  | cons c ds ih =>
      rw [Nat.ofDigitChars_cons] at hfits ⊢
      rw [List.foldlM_cons, step?_fraction hpart hfull (hds c List.mem_cons_self)
        ((le_ofDigitChars ds _).trans_lt hfits), List.length_cons]
      cases ds with
      | nil => rfl
      | cons d ds =>
          have hrest := @ih { n with
            part := .fraction
            leading := 10 * n.leading + (c.toNat - '0'.toNat)
            shift := n.shift - 1 } (.inr rfl) hfull (List.cons_ne_nil _ _)
            (fun d hd => hds d (List.mem_cons_of_mem _ hd)) hfits
          refine hrest.trans ?_
          simp only [Option.some.injEq, mk.injEq, true_and, and_true]
          push_cast
          omega

theorem powerDigits (hpart : n.part = .markSign ∨ n.part = .power) (hne : ds ≠ [])
    (hds : ∀ c ∈ ds, c.isDigit) :
    ds.foldlM step? n =
      some { n with part := .power, power := ofDigitChars 10 ds n.power } := by
  induction ds generalizing n with
  | nil => exact absurd rfl hne
  | cons c ds ih =>
      rw [List.foldlM_cons, step?_power hpart (hds c List.mem_cons_self), Nat.ofDigitChars_cons]
      cases ds with
      | nil => rfl
      | cons d ds =>
          exact @ih { n with part := .power, power := 10 * n.power + (c.toNat - '0'.toNat) }
            (.inr rfl) (List.cons_ne_nil _ _) (fun d hd => hds d (List.mem_cons_of_mem _ hd))

end Digits

/-- Digits as they stand before a point: a zero alone, or no zero in front. -/
def IsWhole (cs : List Char) : Prop :=
  (∀ c ∈ cs, c.isDigit) ∧ (cs = ['0'] ∨ ∃ c ds, cs = c :: ds ∧ c ≠ '0')

theorem isDigit_of_toDigits {n : ℕ} : ∀ c ∈ toDigits 10 n, c.isDigit := fun _ =>
  Nat.isDigit_of_mem_toDigits (by norm_num) (by norm_num)

theorem toDigits_eq_cons {n : ℕ} (h : 0 < n) : ∃ c ds, toDigits 10 n = c :: ds ∧ c ≠ '0' := by
  induction n using Nat.strong_induction_on with
  | _ n ih =>
      by_cases hsmall : n < 10
      · have all : ∀ m < 10, 0 < m → m.digitChar ≠ '0' := by decide
        rw [Nat.toDigits_of_lt_base hsmall]
        exact ⟨_, _, rfl, all n hsmall h⟩
      · obtain ⟨c, ds, hdigits, hc⟩ := ih (n / 10) (by omega) (by omega)
        rw [Nat.toDigits_of_base_le (by norm_num) (by omega), hdigits]
        exact ⟨c, _, rfl, hc⟩

theorem whole_read {cs : List Char} (h : IsWhole cs) (hfits : ofDigitChars 10 cs 0 < 2 ^ 64)
    (negative : Bool) :
    ∃ part, (part = .zero ∨ part = .integer) ∧ cs.foldlM step? (unread negative) =
      some { part, negative, leading := ofDigitChars 10 cs 0 } := by
  obtain ⟨hdigits, rfl | ⟨c, ds, rfl, hc⟩⟩ := h
  · exact ⟨.zero, .inl rfl, rfl⟩
  · refine ⟨.integer, .inr rfl, ?_⟩
    rw [Nat.ofDigitChars_cons] at hfits ⊢
    have hfit := fits_iff.mpr ((le_ofDigitChars ds _).trans_lt hfits)
    have hfirst : step? (unread negative) c =
        some { part := .integer, negative, leading := 10 * 0 + (c.toNat - '0'.toNat) } := by
      simp only [step?, unread, integerDigit, hc, if_false, hdigits c List.mem_cons_self, if_true,
        hfit, Bool.not_true, Bool.or_self, Bool.false_eq_true, Nat.mul_comm]
    rw [List.foldlM_cons, hfirst]
    exact @integerDigits { part := .integer, negative, leading := _ } ds rfl rfl
      (fun d hd => hdigits d (List.mem_cons_of_mem _ hd)) hfits

theorem fraction_read {whole places : List Char} (h : IsWhole whole) (hne : places ≠ [])
    (hdigits : ∀ c ∈ places, c.isDigit) (hfits : ofDigitChars 10 (whole ++ places) 0 < 2 ^ 64)
    (negative : Bool) :
    (whole ++ '.' :: places).foldlM step? (unread negative) =
      some { part := .fraction, negative, leading := ofDigitChars 10 (whole ++ places) 0,
             shift := -places.length } := by
  rw [Nat.ofDigitChars_append] at hfits ⊢
  obtain ⟨part, hpart, hwhole⟩ := whole_read h ((le_ofDigitChars places _).trans_lt hfits) negative
  have hpoint : step? { part, negative, leading := ofDigitChars 10 whole 0 } '.' =
      some { part := .point, negative, leading := ofDigitChars 10 whole 0 } := by
    rcases hpart with rfl | rfl <;> rfl
  rw [List.foldlM_append, hwhole]
  change List.foldlM step? _ ('.' :: places) = _
  rw [List.foldlM_cons, hpoint]
  have hplaces := @fractionDigits { part := .point, negative, leading := ofDigitChars 10 whole 0 }
    places (.inl rfl) rfl hne hdigits hfits
  refine hplaces.trans ?_
  rw [Int.zero_sub]

theorem power_read {n : Numeral} {power : List Char} (powerNegative : Bool)
    (hpart : n.part = .zero ∨ n.part = .integer ∨ n.part = .fraction)
    (hsign : n.powerNegative = false) (hpower : n.power = 0) (hne : power ≠ [])
    (hdigits : ∀ c ∈ power, c.isDigit) :
    ('e' :: (if powerNegative then '-' else '+') :: power).foldlM step? n =
      some { n with part := .power, powerNegative, power := ofDigitChars 10 power 0 } := by
  have hmark : step? n 'e' = some { n with part := .mark } := by
    rcases hpart with hpart | hpart | hpart <;> rw [step?, hpart] <;> rfl
  have hmarkSign : step? { n with part := .mark } (if powerNegative then '-' else '+') =
      some { n with part := .markSign, powerNegative } := by
    cases powerNegative
    · exact congrArg (fun sign => some { n with part := .markSign, powerNegative := sign }) hsign
    · rfl
  rw [List.foldlM_cons, hmark]
  change List.foldlM step? _ (_ :: power) = _
  rw [List.foldlM_cons, hmarkSign]
  have hread := @powerDigits { n with part := .markSign, powerNegative } power (.inl rfl) hne
    hdigits
  rw [← hpower]
  exact hread

/-- An unsigned text that is read as a double, with either sign in front. -/
def ReadsReal (cs : List Char) : Prop :=
  ∀ negative, ∃ n d, cs.foldlM step? (unread negative) = some n ∧ n.complete = true ∧
    n.value? = some (.real d)

theorem value?_of_scaled {n : Numeral} (hpart : n.part = .fraction ∨ n.part = .power)
    (hscaled : n.power < 2 ^ 31 → (scaled n.leading
      (n.shift + if n.powerNegative then -(n.power : ℤ) else n.power)).isSome)
    (hlarge : n.power < 2 ^ 31 ∨ n.powerNegative = true) : ∃ d, n.value? = some (.real d) := by
  have hreal : n.real?.isSome := by
    rw [real?, Option.isSome_map, Nat.one_shiftLeft]
    split
    · exact hscaled ‹_›
    · rename_i hpower
      rw [if_pos (.inr (hlarge.resolve_left hpower))]
      rfl
  obtain ⟨d, hd⟩ := Option.isSome_iff_exists.mp hreal
  refine ⟨d, ?_⟩
  rw [value?, if_neg, hd]
  · rfl
  · rcases hpart with hpart | hpart <;> simp [hpart]

theorem readsReal_fraction {whole places : List Char} (h : IsWhole whole) (hne : places ≠ [])
    (hdigits : ∀ c ∈ places, c.isDigit) (hfits : ofDigitChars 10 (whole ++ places) 0 < 2 ^ 64) :
    ReadsReal (whole ++ '.' :: places) := by
  intro negative
  obtain ⟨n, hread, hpart, hshift, hpower, hsign⟩ : ∃ n,
      (whole ++ '.' :: places).foldlM step? (unread negative) = some n ∧ n.part = .fraction ∧
        n.shift = -places.length ∧ n.power = 0 ∧ n.powerNegative = false :=
    ⟨_, fraction_read h hne hdigits hfits negative, rfl, rfl, rfl, rfl⟩
  have hlength := List.length_pos_iff.mpr hne
  have hneg : n.shift + (if n.powerNegative then -(n.power : ℤ) else n.power) < 0 := by
    rw [hshift, hpower, hsign]
    simpa using hlength
  obtain ⟨d, hd⟩ := value?_of_scaled (.inl hpart) (fun _ => isSome_scaled_of_neg hneg)
    (.inl (by rw [hpower]; norm_num))
  exact ⟨n, d, hread, by rw [complete, hpart], hd⟩

/-- A power that keeps what was read within the range, or puts it below. -/
theorem readsReal_power {cs : List Char} {leading : ℕ} {shift lead : ℤ}
    (hread : ∀ negative, ∃ part, (part = .zero ∨ part = .integer ∨ part = .fraction) ∧
      cs.foldlM step? (unread negative) = some { part, negative, leading, shift })
    (hlead : lead < 2 ^ 31) (hscaled : (scaled leading (shift + lead)).isSome) :
    ReadsReal (cs ++ 'e' :: (if lead < 0 then '-' else '+') :: toDigits 10 lead.natAbs) := by
  intro negative
  obtain ⟨part, hpart, hcs⟩ := hread negative
  have hpower := @power_read { part, negative, leading, shift } (toDigits 10 lead.natAbs)
    (decide (lead < 0)) hpart rfl rfl Nat.toDigits_ne_nil isDigit_of_toDigits
  simp only [decide_eq_true_eq, Nat.ofDigitChars_ten_toDigits] at hpower
  generalize hn : Numeral.mk .power _ _ _ _ _ _ = n at hpower
  have hsum : n.shift + (if n.powerNegative then -(n.power : ℤ) else n.power) = shift + lead := by
    subst hn
    simp only [decide_eq_true_eq]
    split <;> omega
  obtain ⟨d, hd⟩ := @value?_of_scaled n (by subst hn; exact .inr rfl)
    (fun _ => by rw [hsum]; subst hn; exact hscaled) (by
      subst hn
      simp only [decide_eq_true_eq]
      omega)
  refine ⟨n, d, ?_, by subst hn; rfl, hd⟩
  rw [List.foldlM_append, hcs]
  exact hpower

theorem toList_pushn (s : String) (c : Char) (n : ℕ) :
    (s.pushn c n).toList = s.toList ++ List.replicate n c := by
  rw [String.pushn_eq_repeat_push]
  induction n with
  | zero => simp [Nat.repeat]
  | succ n ih => simp [Nat.repeat, ih, List.replicate_succ']

theorem isDigit_of_mem_replicate {n : ℕ} : ∀ c ∈ List.replicate n '0', c.isDigit := by
  intro c hc
  rw [List.eq_of_mem_replicate hc]
  rfl

theorem isWhole_toDigits (n : ℕ) : IsWhole (toDigits 10 n) := by
  refine ⟨isDigit_of_toDigits, ?_⟩
  obtain rfl | hpos := Nat.eq_zero_or_pos n
  · exact .inl rfl
  · exact .inr (toDigits_eq_cons hpos)

/-- A whole number with a point and a zero. -/
theorem readsReal_whole {digits zeros : ℕ} (hzero : digits = 0 → zeros = 0)
    (hlength : (toDigits 10 digits).length + zeros ≤ 16) :
    ReadsReal (toDigits 10 digits ++ List.replicate zeros '0' ++ '.' :: ['0']) := by
  refine readsReal_fraction ⟨?_, ?_⟩ (List.cons_ne_nil _ _)
    (List.forall_mem_singleton.mpr rfl) ?_
  · exact List.forall_mem_append.mpr ⟨isDigit_of_toDigits, isDigit_of_mem_replicate⟩
  · obtain rfl | hpos := Nat.eq_zero_or_pos digits
    · rw [hzero rfl]
      exact .inl rfl
    · obtain ⟨c, ds, hdigits, hc⟩ := toDigits_eq_cons hpos
      rw [hdigits]
      exact .inr ⟨c, _, rfl, hc⟩
  · have hlt : digits * 10 ^ zeros < 10 ^ 16 := by
      have hdigits := (Nat.length_toDigits_le_iff (show 1 < 10 by norm_num)
        Nat.length_toDigits_pos).mp (le_refl (toDigits 10 digits).length)
      calc digits * 10 ^ zeros < 10 ^ (toDigits 10 digits).length * 10 ^ zeros := by gcongr
        _ = 10 ^ ((toDigits 10 digits).length + zeros) := (pow_add _ _ _).symm
        _ ≤ 10 ^ 16 := Nat.pow_le_pow_right (by norm_num) hlength
    rw [Nat.ofDigitChars_append, Nat.ofDigitChars_append, Nat.ofDigitChars_ten_toDigits,
      Nat.ofDigitChars_replicate_zero, Nat.mul_comm]
    show 10 * (digits * 10 ^ zeros) + 0 < 2 ^ 64
    omega

/-- Digits, with zeros in front if need be, and a point among them. -/
theorem readsReal_places {digits places : ℕ} {padded : List Char} (hdigits : digits ≤ 10 ^ 17)
    (hplaces : 0 < places)
    (hpadded : padded = List.replicate (places + 1 - (toDigits 10 digits).length) '0' ++
      toDigits 10 digits) :
    ReadsReal (padded.take (padded.length - places) ++ '.' ::
      padded.drop (padded.length - places)) := by
  have hall : ∀ c ∈ padded, c.isDigit := by
    rw [hpadded]
    exact List.forall_mem_append.mpr ⟨isDigit_of_mem_replicate, isDigit_of_toDigits⟩
  have hvalue : ofDigitChars 10 padded 0 = digits := by
    rw [hpadded, Nat.ofDigitChars_append, Nat.ofDigitChars_replicate_zero, Nat.mul_zero,
      Nat.ofDigitChars_ten_toDigits]
  have hlength : padded.length =
      places + 1 - (toDigits 10 digits).length + (toDigits 10 digits).length := by
    rw [hpadded, List.length_append, List.length_replicate]
  refine readsReal_fraction ⟨fun c hc => hall c (List.mem_of_mem_take hc), ?_⟩ ?_
    (fun c hc => hall c (List.mem_of_mem_drop hc)) ?_
  · by_cases hlong : places < (toDigits 10 digits).length
    · -- The point stands among the digits themselves.
      obtain rfl | hpos := Nat.eq_zero_or_pos digits
      · rw [Nat.toDigits_zero, List.length_singleton] at hlong
        omega
      obtain ⟨c, ds, hcons, hc⟩ := toDigits_eq_cons hpos
      have hplain : padded = c :: ds := by
        rw [hpadded, show places + 1 - (toDigits 10 digits).length = 0 by omega, hcons]
        rfl
      obtain ⟨k, hk⟩ := Nat.exists_eq_succ_of_ne_zero
        (show padded.length - places ≠ 0 by omega)
      rw [hk, hplain]
      exact .inr ⟨c, ds.take k, rfl, hc⟩
    · obtain ⟨k, hk⟩ := Nat.exists_eq_succ_of_ne_zero
        (show places + 1 - (toDigits 10 digits).length ≠ 0 by omega)
      rw [show padded.length - places = 1 by omega, hpadded, hk]
      exact .inl rfl
  · rw [Ne, List.drop_eq_nil_iff]
    omega
  · rw [List.take_append_drop, hvalue]
    omega

/-- One digit, the others after a point, and a power. -/
theorem readsReal_scientific {digits : ℕ} {exponent lead : ℤ} (hpos : 0 < digits)
    (hdigits : digits ≤ 10 ^ 17) (hexponent : exponent ≤ 308)
    (hlead : lead = (toDigits 10 digits).length - 1 + exponent)
    (hscaled : (scaled digits exponent).isSome) :
    ReadsReal (NumberLayout.scientificText (toString digits) lead).toList := by
  obtain ⟨c, ds, hcons, hc⟩ := toDigits_eq_cons hpos
  have hall : ∀ d ∈ c :: ds, d.isDigit := hcons ▸ isDigit_of_toDigits
  have hvalue : ofDigitChars 10 (c :: ds) 0 = digits := by
    rw [← hcons, Nat.ofDigitChars_ten_toDigits]
  have hlength : (c :: ds).length ≤ 18 := by
    rw [← hcons, Nat.length_toDigits_le_iff (by norm_num) (by norm_num)]
    omega
  rw [hcons, List.length_cons] at hlead
  rw [List.length_cons] at hlength
  have htext (mantissa : List Char) (heq : (NumberLayout.scientificText (toString digits) lead) =
      String.ofList mantissa ++ "e" ++ (if lead < 0 then "-" else "+") ++ toString lead.natAbs) :
      (NumberLayout.scientificText (toString digits) lead).toList =
        mantissa ++ 'e' :: (if lead < 0 then '-' else '+') :: toDigits 10 lead.natAbs := by
    rw [heq]
    split <;> simp
  cases ds with
  | nil =>
      rw [htext [c]]
      · refine @readsReal_power [c] digits 0 lead (fun negative => ?_) (by omega) ?_
        · obtain ⟨part, hpart, hread⟩ := whole_read ⟨hall, .inr ⟨c, [], rfl, hc⟩⟩
            (by rw [hvalue]; omega) negative
          rw [hvalue] at hread
          exact ⟨part, hpart.imp_right .inl, hread⟩
        · simpa [hlead] using hscaled
      · simp [NumberLayout.scientificText, hcons, ← String.toList_inj]
  | cons d rest =>
      rw [htext (c :: '.' :: d :: rest)]
      · refine @readsReal_power ([c] ++ '.' :: d :: rest) digits (-(d :: rest).length) lead
          (fun negative => ?_) (by omega) ?_
        · have hread := @fraction_read [c] (d :: rest) ⟨fun e he => hall e (by simp_all),
            .inr ⟨c, [], rfl, hc⟩⟩ (List.cons_ne_nil _ _) (fun e he => hall e (by simp_all))
            (by rw [List.singleton_append, hvalue]; omega) negative
          rw [show [c] ++ d :: rest = c :: d :: rest from rfl, hvalue] at hread
          exact ⟨.fraction, .inr (.inr rfl), hread⟩
        · rwa [show -((d :: rest).length : ℤ) + lead = exponent by omega]
      · simp [NumberLayout.scientificText, hcons]

/-- The text of a double after its sign. -/
def unsignedText (decimal : Decimal) : String :=
  let lead : ℤ := (toString decimal.digits).length - 1 + decimal.exponent
  if -5 ≤ lead ∧ lead ≤ 15 then
    NumberLayout.positionalText ".0" (toString decimal.digits) decimal.exponent
  else NumberLayout.scientificText (toString decimal.digits) lead

theorem numberText_real (d : Double) :
    numberText (.real d) = (if d.negative then "-" else "") ++ unsignedText (d.shortest .even) :=
  rfl

theorem readsReal_unsignedText (d : Double) :
    ReadsReal (unsignedText (d.shortest .even)).toList := by
  have hreadable := shortest_readable d
  generalize d.shortest .even = decimal at *
  obtain ⟨digits, exponent⟩ := decimal
  have hlength : digits.repr.length = (toDigits 10 digits).length := by
    rw [← String.length_toList, Nat.toList_repr]
  unfold unsignedText
  simp only [Decimal.mk.injEq, Nat.toString_eq_repr, hlength] at hreadable ⊢
  split
  · rename_i hlead
    unfold NumberLayout.positionalText
    split
    · rename_i hexponent
      obtain ⟨zeros, rfl⟩ := Int.eq_ofNat_of_zero_le hexponent
      have hwhole := @readsReal_whole digits zeros (by omega) (by omega)
      simpa [NumberLayout.zeros, toList_pushn] using hwhole
    · have hplaces := @readsReal_places digits (-exponent).toNat _ (by omega) (by omega) rfl
      simpa [NumberLayout.zeros, toList_pushn, hlength] using hplaces
  · rename_i hlead
    obtain ⟨rfl, rfl⟩ | ⟨hpos, hdigits, hexponent, hscaled⟩ := hreadable
    · exact absurd (by decide) hlead
    · exact readsReal_scientific hpos hdigits hexponent rfl hscaled

theorem ReadsReal.head {cs : List Char} (h : ReadsReal cs) :
    ∃ c rest, cs = c :: rest ∧ c.isDigit := by
  obtain ⟨n, d, hread, hcomplete, -⟩ := h false
  cases cs with
  | nil =>
      cases hread
      cases hcomplete
  | cons c rest =>
      refine ⟨c, rest, rfl, ?_⟩
      by_contra hdigit
      have hzero : c ≠ '0' := by
        rintro rfl
        exact hdigit rfl
      rw [List.foldlM_cons] at hread
      simp [step?, unread, hzero, hdigit] at hread

theorem start?_eq {c : Char} (h : c.isDigit) : start? c = (unread false).step? c := by
  have hsign : c ≠ '-' := by
    rintro rfl
    cases h
  by_cases hzero : c = '0'
  · subst hzero
    rfl
  · have hfit : fits 0 (c.toNat - '0'.toNat) := by
      have hle : c.toNat ≤ 57 := (Char.isDigit_iff_toNat.mp h).2
      exact fits_iff.mpr (by omega)
    simp only [start?, step?, unread, hsign, hzero, h, hfit, integerDigit, if_true, if_false,
      Bool.not_true, Bool.or_self, Bool.false_eq_true, Nat.zero_mul, Nat.zero_add]

theorem ofChars?_signed (negative : Bool) {cs : List Char}
    (h : ∃ c rest, cs = c :: rest ∧ c.isDigit) :
    ofChars? ((if negative then ['-'] else []) ++ cs) = cs.foldlM step? (unread negative) := by
  obtain ⟨c, rest, rfl, hc⟩ := h
  cases negative with
  | true => rfl
  | false =>
      show (start? c).bind _ = _
      rw [start?_eq hc, List.foldlM_cons]
      rfl

end Numeral

end NodeCanvas.Json

namespace NodeCanvas

open Json (Numeral numberText)

/-- The double that the text of a double is read as. -/
def Double.reread (d : Double) : Double :=
  match (Numeral.ofChars? (numberText (.real d)).toList).bind Numeral.value? with
  | some (.real e) => e
  | _ => d

namespace Number

/-- Whole numbers are read as they are where they fit 64 bits. -/
def Fits : Number → Prop
  | .whole n => -2 ^ 63 ≤ n ∧ n < 2 ^ 64
  | .real _ => True

def reread : Number → Number
  | .whole n => .whole n
  | .real d => .real d.reread

theorem read_real (d : Double) :
    ∃ n, Numeral.ofChars? (numberText (.real d)).toList = some n ∧ n.complete = true ∧
      n.value? = some (.real d.reread) := by
  have hread := Numeral.readsReal_unsignedText d
  obtain ⟨n, e, hn, hcomplete, hvalue⟩ := hread d.negative
  have hchars : Numeral.ofChars? (numberText (.real d)).toList = some n := by
    rw [Numeral.numberText_real, ← hn, ← Numeral.ofChars?_signed d.negative hread.head]
    refine congrArg Numeral.ofChars? ?_
    split <;> simp
  refine ⟨n, hchars, hcomplete, ?_⟩
  rw [Double.reread, hchars, Option.bind_some, hvalue]

theorem read_digits {m : ℕ} (h : m < 2 ^ 64) (negative : Bool) :
    ∃ part, (part = .zero ∨ part = .integer) ∧
      Numeral.ofChars? ((if negative then ['-'] else []) ++ Nat.toDigits 10 m) =
        some { part, negative, leading := m } := by
  obtain ⟨c, rest, hcons⟩ := List.exists_cons_of_ne_nil (Nat.toDigits_ne_nil (n := m) (b := 10))
  have hc : c.isDigit := Numeral.isDigit_of_toDigits c (hcons ▸ List.mem_cons_self)
  obtain ⟨part, hpart, hread⟩ := Numeral.whole_read (Numeral.isWhole_toDigits m)
    (by rwa [Nat.ofDigitChars_ten_toDigits]) negative
  refine ⟨part, hpart, ?_⟩
  rw [Numeral.ofChars?_signed negative ⟨c, rest, hcons, hc⟩, hread,
    Nat.ofDigitChars_ten_toDigits]

theorem read_whole {n : ℤ} (h : (Number.whole n).Fits) :
    ∃ numeral, Numeral.ofChars? (numberText (.whole n)).toList = some numeral ∧
      numeral.complete = true ∧ numeral.value? = some (.whole n) := by
  obtain ⟨hlow, hhigh⟩ := h
  cases n with
  | ofNat m =>
      rw [Int.ofNat_eq_natCast] at hhigh
      obtain ⟨part, hpart, hread⟩ := read_digits (show m < 2 ^ 64 by omega) false
      have htext : (numberText (.whole (Int.ofNat m))).toList = Nat.toDigits 10 m :=
        Nat.toList_repr
      refine ⟨_, htext ▸ hread, ?_, ?_⟩
      · rcases hpart with rfl | rfl <;> rfl
      · simp [Numeral.value?, hpart]
  | negSucc m =>
      have hfits : m + 1 ≤ 2 ^ 63 := by omega
      obtain ⟨part, hpart, hread⟩ := read_digits (show m + 1 < 2 ^ 64 by omega) true
      have htext : (numberText (.whole (Int.negSucc m))).toList =
          ['-'] ++ Nat.toDigits 10 (m + 1) := by
        show ("-" ++ (m + 1).repr).toList = _
        simp
      refine ⟨_, htext ▸ hread, ?_, ?_⟩
      · rcases hpart with rfl | rfl <;> rfl
      · rw [← Nat.one_shiftLeft] at hfits
        simp only [Numeral.value?, hpart, hfits, Bool.not_false, Bool.not_true, and_self, if_true,
          Nat.succ_pos, Bool.false_eq_true, if_false, Int.negSucc_eq]
        rfl

theorem Fits.read {n : Number} (h : n.Fits) :
    ∃ numeral, Numeral.ofChars? (numberText n).toList = some numeral ∧
      numeral.complete = true ∧ numeral.value? = some n.reread := by
  cases n with
  | whole n => exact read_whole h
  | real d => exact read_real d

end Number

end NodeCanvas
