namespace Switchboard

abbrev Bytes := List UInt8

namespace Utf8

def encode (s : String) : Bytes := s.toByteArray.data.toList

def decode? (bytes : Bytes) : Option String := String.fromUTF8? ⟨bytes.toArray⟩

theorem decode?_encode (s : String) : decode? (encode s) = some s := by
  have hbytes : (⟨(encode s).toArray⟩ : ByteArray) = s.toByteArray := ByteArray.ext rfl
  unfold decode? String.fromUTF8?
  rw [hbytes, dif_pos s.isValidUTF8]
  rfl

theorem decode?_eq_some_iff {bytes : Bytes} {s : String} :
    decode? bytes = some s ↔ encode s = bytes := by
  constructor
  · intro h
    unfold decode? String.fromUTF8? at h
    split at h
    next =>
      cases Option.some.inj h
      rfl
    next => cases h
  · rintro rfl
    exact decode?_encode s

theorem encode_append (s t : String) : encode (s ++ t) = encode s ++ encode t := by
  simp [encode]

theorem encode_ofList (cs : List Char) :
    encode (String.ofList cs) = cs.flatMap String.utf8EncodeChar := by
  simp [encode, String.toByteArray_ofList, List.utf8Encode]

theorem utf8EncodeChar_of_ascii {c : Char} (h : c.toNat ≤ 127) :
    String.utf8EncodeChar c = [UInt8.ofNat c.toNat] := by
  unfold String.utf8EncodeChar
  dsimp only
  exact if_pos h

theorem encode_ofList_of_ascii {cs : List Char} (h : ∀ c ∈ cs, c.toNat ≤ 127) :
    encode (String.ofList cs) = cs.map fun c => UInt8.ofNat c.toNat := by
  rw [encode_ofList]
  induction cs with
  | nil => rfl
  | cons c rest ih =>
    have hc := utf8EncodeChar_of_ascii (h c (List.mem_cons_self ..))
    rw [List.flatMap_cons, hc, ih fun d hd => h d (List.mem_cons_of_mem _ hd)]
    rfl

theorem le_of_mem_utf8EncodeChar {c : Char} (h : 127 < c.toNat) {b : UInt8}
    (hb : b ∈ String.utf8EncodeChar c) : 0x80 ≤ b := by
  have hcode : ¬c.val.toNat ≤ 127 := Nat.not_le.mpr h
  have hoctet (n : Nat) (hn : 128 ≤ n % 256) : 0x80 ≤ UInt8.ofNat n := by
    rw [UInt8.le_iff_toNat_le, UInt8.toNat_ofNat']
    exact hn
  unfold String.utf8EncodeChar at hb
  dsimp only at hb
  rw [if_neg hcode] at hb
  split at hb
  next =>
    simp only [List.mem_cons, List.not_mem_nil, or_false] at hb
    rcases hb with rfl | rfl
    · exact hoctet _ (by omega)
    · exact hoctet _ (by omega)
  next =>
    split at hb
    next =>
      simp only [List.mem_cons, List.not_mem_nil, or_false] at hb
      rcases hb with rfl | rfl | rfl
      · exact hoctet _ (by omega)
      · exact hoctet _ (by omega)
      · exact hoctet _ (by omega)
    next =>
      simp only [List.mem_cons, List.not_mem_nil, or_false] at hb
      rcases hb with rfl | rfl | rfl | rfl
      · exact hoctet _ (by omega)
      · exact hoctet _ (by omega)
      · exact hoctet _ (by omega)
      · exact hoctet _ (by omega)

/-- How many octets follow a lead octet, the bounds of the first of them, and the bits of the lead
that count. -/
def sequence? (lead : UInt8) : Option (Nat × UInt8 × UInt8 × Nat) :=
  if lead < 0x80 then some (0, 0x80, 0xBF, lead.toNat)
  else if lead < 0xC2 then none
  else if lead < 0xE0 then some (1, 0x80, 0xBF, lead.toNat - 0xC0)
  else if lead = 0xE0 then some (2, 0xA0, 0xBF, 0)
  else if lead = 0xED then some (2, 0x80, 0x9F, 13)
  else if lead < 0xF0 then some (2, 0x80, 0xBF, lead.toNat - 0xE0)
  else if lead = 0xF0 then some (3, 0x90, 0xBF, 0)
  else if lead < 0xF4 then some (3, 0x80, 0xBF, lead.toNat - 0xF0)
  else if lead = 0xF4 then some (3, 0x80, 0x8F, 4)
  else none

/-- Reads `count` octets that continue a character, the next of them between `low` and `high`. A
refusal leaves what begins with the octet that does not fit. -/
def continued : Nat → UInt8 → UInt8 → Nat → Bytes → Except Bytes (Nat × Bytes)
  | 0, _, _, value, rest => .ok (value, rest)
  | _ + 1, _, _, _, [] => .error []
  | count + 1, low, high, value, b :: rest =>
    if low ≤ b ∧ b ≤ high then continued count 0x80 0xBF (value * 64 + (b.toNat - 0x80)) rest
    else .error (b :: rest)

/-- The character at the head of `lead :: rest` and what follows it; a refusal leaves what follows
the broken stretch. -/
def character (lead : UInt8) (rest : Bytes) : Except Bytes (Char × Bytes) :=
  match sequence? lead with
  | none => .error rest
  | some (count, low, high, value) =>
    (continued count low high value rest).map fun (code, rest) => (Char.ofNat code, rest)

theorem continued_length_le {count : Nat} {low high : UInt8} {value code : Nat}
    {bytes rest : Bytes} (h : continued count low high value bytes = .ok (code, rest)) :
    rest.length ≤ bytes.length := by
  induction count generalizing low high value bytes with
  | zero => simp_all [continued]
  | succ count ih =>
    cases bytes with
    | nil => simp [continued] at h
    | cons b bytes =>
      simp only [continued] at h
      split at h
      · have := ih h
        simp only [List.length_cons]
        omega
      · simp at h

theorem continued_error_length_le {count : Nat} {low high : UInt8} {value : Nat}
    {bytes rest : Bytes} (h : continued count low high value bytes = .error rest) :
    rest.length ≤ bytes.length := by
  induction count generalizing low high value bytes with
  | zero => simp_all [continued]
  | succ count ih =>
    cases bytes with
    | nil => simp_all [continued]
    | cons b bytes =>
      simp only [continued] at h
      split at h
      · have := ih h
        simp only [List.length_cons]
        omega
      · simp_all

theorem character_length_le {lead : UInt8} {bytes rest : Bytes} {c : Char}
    (h : character lead bytes = .ok (c, rest)) : rest.length ≤ bytes.length := by
  simp only [character] at h
  split at h
  · simp at h
  · next count low high value _ =>
    cases hc : continued count low high value bytes with
    | error r => simp [hc, Except.map] at h
    | ok r =>
      obtain ⟨code, left⟩ := r
      simp [hc, Except.map] at h
      exact h.2 ▸ continued_length_le hc

theorem character_error_length_le {lead : UInt8} {bytes rest : Bytes}
    (h : character lead bytes = .error rest) : rest.length ≤ bytes.length := by
  simp only [character] at h
  split at h
  · simp_all
  · next count low high value _ =>
    cases hc : continued count low high value bytes with
    | error r =>
      simp [hc, Except.map] at h
      exact h ▸ continued_error_length_le hc
    | ok r => simp [hc, Except.map] at h

/-- The characters that the octets write, with U+FFFD for each broken stretch. -/
def charactersLossy : Bytes → List Char
  | [] => []
  | lead :: bytes =>
    match h : character lead bytes with
    | .ok (c, rest) =>
      have := character_length_le h
      c :: charactersLossy rest
    | .error rest =>
      have := character_error_length_le h
      '\uFFFD' :: charactersLossy rest
termination_by bytes => bytes.length

def decodeLossy (bytes : Bytes) : String := String.ofList (charactersLossy bytes)

end Utf8

end Switchboard
