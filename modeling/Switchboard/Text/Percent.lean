import Switchboard.Text.Utf8

namespace Switchboard.Percent

def digit? (b : UInt8) : Option UInt8 :=
  if 0x30 ≤ b ∧ b ≤ 0x39 then some (b - 0x30)
  else if 0x61 ≤ b ∧ b ≤ 0x66 then some (b - 0x61 + 10)
  else if 0x41 ≤ b ∧ b ≤ 0x46 then some (b - 0x41 + 10)
  else none

/-- Every `%XX` replaced by the octet it names. -/
def decodeBytes : Bytes → Bytes
  | [] => []
  | [a] => [a]
  | [a, b] => [a, b]
  | a :: b :: c :: rest =>
    if a = 0x25 then
      match digit? b, digit? c with
      | some high, some low => (high * 16 + low) :: decodeBytes rest
      | _, _ => a :: decodeBytes (b :: c :: rest)
    else a :: decodeBytes (b :: c :: rest)

/-- The text that `raw` encodes. A plus sign is left alone. -/
def decode (raw : String) : String := (Utf8.decode? (decodeBytes (Utf8.encode raw))).getD raw

def digit (n : Nat) : Char := Char.ofNat (if n < 10 then 0x30 + n else 0x37 + n)

def escape (b : UInt8) : List Char := ['%', digit (b.toNat / 16), digit (b.toNat % 16)]

def encode (s : String) : List Char := (Utf8.encode s).flatMap escape

/-- A text with all its octets written as `%XX`, each digit in either case. -/
def Spells (cs : List Char) (s : String) : Prop := cs.map Char.toUpper = encode s

instance (cs : List Char) (s : String) : Decidable (Spells cs s) :=
  inferInstanceAs (Decidable (_ = _))

def IsDigit (c : Char) (n : Nat) : Prop :=
  (c.toNat ≤ 127 ∧ c ≠ '.' ∧ c ≠ '/') ∧
    digit? (UInt8.ofNat c.toNat) = some (UInt8.ofNat n)

instance (c : Char) (n : Nat) : Decidable (IsDigit c n) := inferInstanceAs (Decidable (_ ∧ _))

theorem isDigit_digit : ∀ n < 16, IsDigit (digit n) n := by decide

theorem toUpper_digit : ∀ n < 16, (digit n).toUpper = digit n := by decide

theorem isDigit_of_lower :
    ∀ n < 16, 97 ≤ (digit n).toNat + 32 → IsDigit (Char.ofNat ((digit n).toNat + 32)) n := by decide

theorem eq_of_toUpper {c d : Char} (h : c.toUpper = d) :
    c = d ∨ c = Char.ofNat (d.toNat + 32) ∧ 97 ≤ d.toNat + 32 ∧ d.toNat + 32 ≤ 122 := by
  unfold Char.toUpper at h
  split at h
  next hsmall =>
    right
    obtain ⟨hlow, hhigh⟩ := hsmall
    have hd : d.toNat + 32 = c.toNat := by
      have hvalue : d.val.toNat = (c.val + ('A'.val - 'a'.val)).toNat := by rw [← h]
      have hshift : ('A'.val - 'a'.val).toNat = 2 ^ 32 - 32 := by decide
      have hstart : 97 ≤ c.val.toNat := UInt32.le_iff_toNat_le.mp hlow
      have hend : c.val.toNat ≤ 122 := UInt32.le_iff_toNat_le.mp hhigh
      rw [UInt32.toNat_add, hshift] at hvalue
      show d.val.toNat + 32 = c.val.toNat
      omega
    rw [hd, Char.ofNat_toNat]
    exact ⟨rfl, hlow, hhigh⟩
  next => exact .inl h

theorem eq_percent_of_toUpper {c : Char} (h : c.toUpper = '%') : c = '%' := by
  rcases eq_of_toUpper h with hc | ⟨-, hlow, -⟩
  · exact hc
  · exact absurd hlow (by decide)

theorem isDigit_of_toUpper {c : Char} {n : Nat} (hn : n < 16) (h : c.toUpper = digit n) :
    IsDigit c n := by
  rcases eq_of_toUpper h with rfl | ⟨rfl, hlow, -⟩
  · exact isDigit_digit n hn
  · exact isDigit_of_lower n hn hlow

theorem mem_of_toUpper_mem_escape {b : UInt8} {c : Char} (h : c.toUpper ∈ escape b) :
    c.toNat ≤ 127 ∧ c ≠ '.' ∧ c ≠ '/' := by
  have hb := b.toNat_lt
  simp only [escape, List.mem_cons, List.not_mem_nil, or_false] at h
  rcases h with hpercent | hhigh | hlow
  · obtain rfl := eq_percent_of_toUpper hpercent
    decide
  · exact (isDigit_of_toUpper (by omega) hhigh).1
  · exact (isDigit_of_toUpper (by omega) hlow).1

theorem Spells.mem {cs : List Char} {s : String} (h : Spells cs s) {c : Char} (hc : c ∈ cs) :
    c.toNat ≤ 127 ∧ c ≠ '.' ∧ c ≠ '/' := by
  have hupper : c.toUpper ∈ encode s := h ▸ List.mem_map_of_mem hc
  obtain ⟨b, -, hb⟩ := List.mem_flatMap.mp hupper
  exact mem_of_toUpper_mem_escape hb

theorem decodeBytes_append_of_toUpper {bytes : Bytes} {cs : List Char}
    (h : cs.map Char.toUpper = bytes.flatMap escape) (others : Bytes) :
    decodeBytes ((cs.map fun c => UInt8.ofNat c.toNat) ++ others) = bytes ++ decodeBytes others := by
  induction bytes generalizing cs with
  | nil =>
    obtain rfl := List.map_eq_nil_iff.mp h
    rfl
  | cons b rest ih =>
    have hb := b.toNat_lt
    change cs.map Char.toUpper =
      '%' :: digit (b.toNat / 16) :: digit (b.toNat % 16) :: rest.flatMap escape at h
    obtain ⟨percent, behind, rfl, hpercent, hbehind⟩ := List.map_eq_cons_iff.mp h
    obtain ⟨high, behind, rfl, hhigh, hbehind⟩ := List.map_eq_cons_iff.mp hbehind
    obtain ⟨low, behind, rfl, hlow, hbehind⟩ := List.map_eq_cons_iff.mp hbehind
    obtain rfl := eq_percent_of_toUpper hpercent
    have hvalue : UInt8.ofNat (b.toNat / 16) * 16 + UInt8.ofNat (b.toNat % 16) = b := by
      apply UInt8.toNat_inj.mp
      simp
      omega
    show decodeBytes (0x25 :: _ :: _ :: _) = _
    rw [decodeBytes, if_pos rfl, (isDigit_of_toUpper (by omega) hhigh).2,
      (isDigit_of_toUpper (by omega) hlow).2]
    dsimp only
    rw [hvalue]
    exact congrArg (b :: ·) (ih hbehind)

/-- What was written is read back. -/
theorem Spells.decode_eq {cs : List Char} {s : String} (h : Spells cs s) :
    decode (String.ofList cs) = s := by
  have hbytes := decodeBytes_append_of_toUpper h []
  rw [List.append_nil, decodeBytes, List.append_nil] at hbytes
  unfold decode
  rw [Utf8.encode_ofList_of_ascii fun c hc => (h.mem hc).1, hbytes, Utf8.decode?_encode]
  rfl

theorem spells_encode (s : String) : Spells (encode s) s := by
  refine (List.map_congr_left fun c hc => ?_).trans (List.map_id _)
  obtain ⟨b, -, hb⟩ := List.mem_flatMap.mp hc
  have := b.toNat_lt
  simp only [escape, List.mem_cons, List.not_mem_nil, or_false] at hb
  rcases hb with rfl | rfl | rfl
  · rfl
  · exact toUpper_digit _ (by omega)
  · exact toUpper_digit _ (by omega)

theorem decode_encode (s : String) : decode (String.ofList (encode s)) = s :=
  (spells_encode s).decode_eq

theorem Spells.eq_nil_iff {cs : List Char} {s : String} (h : Spells cs s) :
    cs = [] ↔ s = "" := by
  constructor
  · rintro rfl
    exact h.decode_eq.symm
  · rintro rfl
    exact List.map_eq_nil_iff.mp h

end Switchboard.Percent
