import Switchboard.Text.Percent

namespace Switchboard.Percent

/-- A text is written character by character: each stands for itself, unless it is `%`, or all its
octets are written as `%XX`. -/
inductive Writes : List Char → List Char → Prop where
  | nil : Writes [] []
  | kept {c : Char} {written text : List Char} (hc : c ≠ '%') (hrest : Writes written text) :
    Writes (c :: written) (c :: text)
  | escaped {c : Char} {octets written text : List Char} (hc : Spells octets (String.singleton c))
      (hrest : Writes written text) : Writes (octets ++ written) (c :: text)

theorem decodeBytes_cons_of_ne {b : UInt8} (h : b ≠ 0x25) (others : Bytes) :
    decodeBytes (b :: others) = b :: decodeBytes others := by
  match others with
  | [] => rfl
  | [_] => rfl
  | _ :: _ :: _ => rw [decodeBytes, if_neg h]

theorem decodeBytes_append_of_notMem {bytes : Bytes} (h : 0x25 ∉ bytes) (others : Bytes) :
    decodeBytes (bytes ++ others) = bytes ++ decodeBytes others := by
  induction bytes with
  | nil => rfl
  | cons b rest ih =>
    have hb : b ≠ 0x25 := fun heq => h (heq ▸ List.mem_cons_self ..)
    have hrest := ih fun hin => h (List.mem_cons_of_mem _ hin)
    rw [List.cons_append, decodeBytes_cons_of_ne hb, hrest, List.cons_append]

theorem percent_notMem_utf8EncodeChar {c : Char} (h : c ≠ '%') :
    0x25 ∉ String.utf8EncodeChar c := by
  intro hin
  by_cases hascii : c.toNat ≤ 127
  · rw [Utf8.utf8EncodeChar_of_ascii hascii, List.mem_singleton] at hin
    have hcode := congrArg UInt8.toNat hin
    rw [UInt8.toNat_ofNat'] at hcode
    have hpercent : (0x25 : UInt8).toNat = '%'.toNat := rfl
    exact h (Char.toNat_inj.mp (by omega))
  · have hhigh := Utf8.le_of_mem_utf8EncodeChar (Nat.lt_of_not_le hascii) hin
    exact absurd hhigh (by decide)

theorem Writes.decodeBytes_eq {written text : List Char} (h : Writes written text) :
    decodeBytes (Utf8.encode (String.ofList written)) = Utf8.encode (String.ofList text) := by
  induction h with
  | nil => rfl
  | @kept c written text hc _ ih =>
    simp only [Utf8.encode_ofList, List.flatMap_cons] at ih ⊢
    rw [decodeBytes_append_of_notMem (percent_notMem_utf8EncodeChar hc), ih]
  | @escaped c octets written text hc _ ih =>
    have hchar : Utf8.encode (String.singleton c) = String.utf8EncodeChar c := by
      rw [String.singleton_eq_ofList, Utf8.encode_ofList]
      exact List.append_nil _
    have hoctets := Utf8.encode_ofList_of_ascii fun d hd => (hc.mem hd).1
    simp only [Utf8.encode_ofList, List.flatMap_cons, List.flatMap_append] at ih hoctets ⊢
    rw [hoctets, decodeBytes_append_of_toUpper hc, ih, hchar]

/-- However a text was written, it is read back. -/
theorem Writes.decode_eq {written text : List Char} (h : Writes written text) :
    decode (String.ofList written) = String.ofList text := by
  unfold decode
  rw [h.decodeBytes_eq, Utf8.decode?_encode]
  rfl

theorem Writes.eq_nil_iff {written text : List Char} (h : Writes written text) :
    written = [] ↔ text = [] := by
  cases h with
  | nil => simp
  | kept => simp
  | escaped hc =>
    have hoctets := mt hc.eq_nil_iff.mp (by simp)
    simp [hoctets]

end Switchboard.Percent
