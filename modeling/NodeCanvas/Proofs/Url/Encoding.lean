import NodeCanvas.Url.Percent

namespace NodeCanvas.Percent

theorem hexValue?_toUpper_hexDigit {n : Nat} (h : n < 16) :
    Text.hexValue? (Text.hexDigit n).toUpper = some n := by
  have all : ∀ m ∈ List.range 16, Text.hexValue? (Text.hexDigit m).toUpper = some m := by decide
  exact all n (List.mem_range.mpr h)

theorem decode_encodeOctet (octet : UInt8) (rest : List Char) :
    decode (encodeOctet octet ++ rest) = octet :: decode rest := by
  have hlow : octet.toNat % 16 < 16 := Nat.mod_lt _ (by decide)
  have hhigh : octet.toNat / 16 < 16 := by
    have := octet.toNat_lt
    omega
  rw [encodeOctet, List.cons_append, List.cons_append, List.cons_append, List.nil_append, decode,
    hexValue?_toUpper_hexDigit hhigh, hexValue?_toUpper_hexDigit hlow]
  simp [Nat.div_add_mod]

theorem decode_encodeOctets (octets : List UInt8) (rest : List Char) :
    decode (octets.flatMap encodeOctet ++ rest) = octets ++ decode rest := by
  induction octets with
  | nil => rfl
  | cons octet octets ih =>
      rw [List.flatMap_cons, List.append_assoc, decode_encodeOctet, ih, List.cons_append]

/-- Any other character than a percent sign stands for itself. -/
theorem decode_cons {c : Char} (h : c ≠ '%') (rest : List Char) :
    decode (c :: rest) = String.utf8EncodeChar c ++ decode rest := by
  rw [decode]
  rintro high low rest ⟨⟩
  exact absurd rfl h

variable {written : Char → Bool}

theorem encode_cons (written : Char → Bool) (c : Char) (rest : List Char) :
    encode written (c :: rest) =
      (if written c then (String.utf8EncodeChar c).flatMap encodeOctet else [c]) ++
        encode written rest :=
  List.flatMap_cons

theorem decode_encode (h : written '%' = true) (text : List Char) :
    decode (encode written text) = text.flatMap String.utf8EncodeChar := by
  induction text with
  | nil => rfl
  | cons c rest ih =>
      rw [encode_cons, List.flatMap_cons]
      split
      · rw [decode_encodeOctets, ih]
      · rename_i hc
        have hne : c ≠ '%' := by
          rintro rfl
          exact hc h
        rw [List.singleton_append, decode_cons hne, ih]

/-- The octets of a text give that text. -/
theorem fromUTF8?_utf8Encode (text : List Char) :
    (String.fromUTF8? ⟨(text.flatMap String.utf8EncodeChar).toArray⟩).map String.toList =
      some text := by
  have hbytes : (⟨(text.flatMap String.utf8EncodeChar).toArray⟩ : ByteArray) =
      text.utf8Encode := by
    ext1
    simp [List.utf8Encode]
  rw [hbytes, String.fromUTF8?, dif_pos ⟨text, rfl⟩]
  exact congrArg some String.toList_ofList

theorem decodeText?_encode (h : written '%' = true) (text : List Char) :
    decodeText? (encode written text) = some text := by
  rw [decodeText?, decode_encode h, fromUTF8?_utf8Encode]

theorem encode_eq_self {text : List Char} (h : ∀ c ∈ text, written c = false) :
    encode written text = text := by
  induction text with
  | nil => rfl
  | cons c rest ih =>
      rw [List.forall_mem_cons] at h
      rw [encode_cons, h.1, ih h.2]
      rfl

end NodeCanvas.Percent
