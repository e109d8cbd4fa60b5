import Switchboard.Proofs.MixedSpellings

namespace Switchboard

namespace Percent

variable {b octet : UInt8} {bytes front rest : Bytes}

/-- The octet that two digits name. -/
def octet? (high low : UInt8) : Option UInt8 := do
  let high ← digit? high
  let low ← digit? low
  some (high <<< 4 ||| low)

/-- The octet that is written as `%XX` where the octets begin. -/
def named? : Bytes → Option UInt8
  | b :: high :: low :: _ => if b = 0x25 then octet? high low else none
  | _ => none

theorem named?_eq_some (h : named? bytes = some octet) :
    ∃ high low rest m n, bytes = 0x25 :: high :: low :: rest ∧ digit? high = some m ∧
      digit? low = some n ∧ m <<< 4 ||| n = octet := by
  unfold named? at h
  split at h
  next b high low rest =>
    obtain ⟨rfl, h⟩ := Option.ite_none_right_eq_some.mp h
    obtain ⟨m, hm, h⟩ := Option.bind_eq_some_iff.mp h
    obtain ⟨n, hn, h⟩ := Option.bind_eq_some_iff.mp h
    exact ⟨high, low, rest, m, n, rfl, hm, hn, Option.some.inj h⟩
  next => cases h

theorem digit?_bounds {n : UInt8} (h : digit? b = some n) : b < 0x80 ∧ n < 16 := by
  unfold digit? at h
  grind

theorem digit?_percent : digit? 0x25 = none := rfl

theorem shiftLeft_or_eq {high low : UInt8} (hhigh : high < 16) (hlow : low < 16) :
    high <<< 4 ||| low = high * 16 + low := by
  have hall : ∀ k < 16, ∀ l < 16,
      UInt8.ofNat k <<< 4 ||| UInt8.ofNat l = UInt8.ofNat k * 16 + UInt8.ofNat l := by decide
  have h := hall high.toNat hhigh low.toNat hlow
  rwa [UInt8.ofNat_toNat, UInt8.ofNat_toNat] at h

theorem decodeBytes_of_named (h : named? bytes = some octet) :
    decodeBytes bytes = octet :: decodeBytes (bytes.drop 3) := by
  obtain ⟨high, low, rest, m, n, rfl, hm, hn, rfl⟩ := named?_eq_some h
  have hoctet := shiftLeft_or_eq (digit?_bounds hm).2 (digit?_bounds hn).2
  rw [decodeBytes, if_pos rfl, hm, hn, hoctet]
  rfl

theorem decodeBytes_of_unnamed (h : named? (b :: rest) = none) :
    decodeBytes (b :: rest) = b :: decodeBytes rest := by
  by_cases hb : b = 0x25
  · match rest with
    | [] => rfl
    | [_] => rfl
    | high :: low :: rest =>
      rw [decodeBytes, if_pos hb]
      split
      next m n hm hn => simp [named?, hb, octet?, hm, hn] at h
      next => rfl
  · exact decodeBytes_cons_of_ne hb rest

theorem named?_append_percent (h : named? (b :: front) = none) (rest : Bytes) :
    named? (b :: (front ++ 0x25 :: rest)) = none := by
  match front with
  | [] =>
    cases rest with
    | nil => rfl
    | cons low rest => simp [named?, octet?, digit?_percent]
  | [high] => simp [named?, octet?, digit?_percent]
  | high :: low :: front => exact h

/-- The octets before a `%` are read as if nothing followed. -/
theorem decodeBytes_append_percent (front rest : Bytes) :
    decodeBytes (front ++ 0x25 :: rest) = decodeBytes front ++ decodeBytes (0x25 :: rest) := by
  match front with
  | [] => rfl
  | b :: behind =>
    cases h : named? (b :: behind) with
    | none =>
      have hwhole := named?_append_percent h rest
      rw [decodeBytes_of_unnamed h, List.cons_append, decodeBytes_of_unnamed hwhole,
        decodeBytes_append_percent behind rest, List.cons_append]
    | some octet =>
      obtain ⟨high, low, behind, m, n, heq, -⟩ := named?_eq_some h
      cases heq
      have hwhole : named? (0x25 :: high :: low :: (behind ++ 0x25 :: rest)) = some octet := h
      have hrest := decodeBytes_append_percent behind rest
      rw [decodeBytes_of_named h]
      exact (decodeBytes_of_named hwhole).trans (congrArg (octet :: ·) hrest)
termination_by front.length

/-- How far the octets of a text are read, and what was written for them. -/
structure Scan where
  place : Nat
  written : Bytes
  deriving DecidableEq, Repr

namespace Scan

variable {octets : Bytes} {s : Scan}

def start : Scan := ⟨0, []⟩

/-- One round of the loop over the octets of a text. It fails if it reads where no octet is. -/
def round? (octets : Bytes) (s : Scan) : Option Scan := do
  let b ← octets[s.place]?
  let named ←
    if b = 0x25 ∧ s.place + 2 < octets.length then do
      let high ← octets[s.place + 1]?
      let low ← octets[s.place + 2]?
      some (octet? high low)
    else some none
  match named with
  | some octet => some ⟨s.place + 3, s.written ++ [octet]⟩
  | none => some ⟨s.place + 1, s.written ++ [b]⟩

/-- The loop, for at most so many rounds. It has ended where no octet is left. -/
def run? (octets : Bytes) : Nat → Scan → Option Scan
  | 0, s => some s
  | rounds + 1, s =>
    if s.place < octets.length then (s.round? octets).bind (run? octets rounds) else some s

/-- What is written in the end, if all that is left is read. -/
def outcome (octets : Bytes) (s : Scan) : Bytes := s.written ++ decodeBytes (octets.drop s.place)

theorem round?_eq (front rest written : Bytes) (b : UInt8) :
    round? (front ++ b :: rest) ⟨front.length, written⟩ =
      some (match named? (b :: rest) with
        | some octet => ⟨front.length + 3, written ++ [octet]⟩
        | none => ⟨front.length + 1, written ++ [b]⟩) := by
  match rest with
  | [] => simp [round?, named?]
  | [_] => simp [round?, named?]
  | high :: low :: rest =>
    by_cases hb : b = 0x25
    · cases hnamed : octet? high low with
      | none => simp [round?, named?, hb, hnamed]
      | some octet => simp [round?, named?, hb, hnamed]
    · simp [round?, named?, hb]

/-- A round reads only what is there, brings the loop nearer to the end, and writes what the octets
behind it stand for. -/
theorem exists_round (h : s.place < octets.length) :
    ∃ next, s.round? octets = some next ∧ (s.place < next.place ∧ next.place ≤ octets.length) ∧
      next.outcome octets = s.outcome octets := by
  obtain ⟨place, written⟩ := s
  obtain ⟨front, rest, rfl, rfl⟩ : ∃ front rest, octets = front ++ rest ∧ place = front.length :=
    ⟨octets.take place, octets.drop place, (List.take_append_drop ..).symm,
      (List.length_take_of_le (Nat.le_of_lt h)).symm⟩
  obtain ⟨b, rest, rfl⟩ : ∃ b behind, rest = b :: behind :=
    List.exists_cons_of_length_pos (by simpa using h)
  have hround := round?_eq front rest written b
  cases hnamed : named? (b :: rest) with
  | none =>
    rw [hnamed] at hround
    refine ⟨_, hround, ⟨by simp, by simp⟩, ?_⟩
    simp [outcome, decodeBytes_of_unnamed hnamed]
  | some octet =>
    rw [hnamed] at hround
    obtain ⟨high, low, behind, m, n, heq, -⟩ := named?_eq_some hnamed
    have hroom : 3 ≤ (b :: rest).length := by simp [heq]
    refine ⟨_, hround, ⟨by simp, by simpa using hroom⟩, ?_⟩
    simp [outcome, decodeBytes_of_named hnamed]

theorem eq_of_ended (h : s.place = octets.length) : s = ⟨octets.length, s.outcome octets⟩ := by
  obtain ⟨place, written⟩ := s
  obtain rfl : place = octets.length := h
  simp [outcome, decodeBytes]

/-- The loop ends at the end of the octets, and never reads where none is. -/
theorem run?_eq {rounds : Nat} (hplace : s.place ≤ octets.length)
    (hrounds : octets.length ≤ s.place + rounds) :
    s.run? octets rounds = some ⟨octets.length, s.outcome octets⟩ := by
  induction rounds generalizing s with
  | zero => exact congrArg some (eq_of_ended (by omega))
  | succ rounds ih =>
    rw [run?]
    split
    next hleft =>
      obtain ⟨next, hround, ⟨hlow, hhigh⟩, houtcome⟩ := exists_round hleft
      rw [hround, Option.bind_some, ih hhigh (by omega), houtcome]
    next hend => exact congrArg some (eq_of_ended (by omega))

theorem run?_start {rounds : Nat} (h : octets.length ≤ rounds) :
    start.run? octets rounds = some ⟨octets.length, decodeBytes octets⟩ :=
  run?_eq (Nat.zero_le _) (by rwa [start, Nat.zero_add])

end Scan

def isHexDigit (c : Char) : Bool :=
  '0' ≤ c && c ≤ '9' || 'a' ≤ c && c ≤ 'f' || 'A' ≤ c && c ≤ 'F'

/-- The text begins with two hexadecimal digits. -/
def leadsDigits : List Char → Bool
  | high :: low :: _ => isHexDigit high && isHexDigit low
  | _ => false

theorem isHexDigit_of_digit? :
    ∀ n ≤ 127, (digit? (UInt8.ofNat n)).isSome → isHexDigit (Char.ofNat n) := by decide

theorem isHexDigit_of_head {c : Char} {others : Bytes} {n : UInt8}
    (h : String.utf8EncodeChar c ++ others = b :: rest) (hb : digit? b = some n) :
    isHexDigit c = true ∧ others = rest := by
  by_cases hascii : c.toNat ≤ 127
  · rw [Utf8.utf8EncodeChar_of_ascii hascii] at h
    obtain ⟨rfl, rfl⟩ := List.cons.inj h
    have hdigit := isHexDigit_of_digit? c.toNat hascii (by simp [hb])
    rw [Char.ofNat_toNat] at hdigit
    exact ⟨hdigit, rfl⟩
  · have hin : b ∈ String.utf8EncodeChar c := by
      cases hc : String.utf8EncodeChar c with
      | nil => exact absurd hc String.utf8EncodeChar_ne_nil
      | cons d tail =>
        rw [hc] at h
        obtain ⟨rfl, -⟩ := List.cons.inj h
        exact List.mem_cons_self ..
    have hhigh := Utf8.le_of_mem_utf8EncodeChar (Nat.lt_of_not_le hascii) hin
    exact absurd (digit?_bounds hb).1 (UInt8.not_lt.mpr hhigh)

theorem named?_of_leadsDigits {text : List Char} (h : leadsDigits text = false) :
    named? (0x25 :: Utf8.encode (String.ofList text)) = none := by
  refine Option.eq_none_iff_forall_ne_some.mpr fun octet hnamed => ?_
  obtain ⟨high, low, rest, m, n, heq, hm, hn, -⟩ := named?_eq_some hnamed
  rw [Utf8.encode_ofList] at heq
  obtain ⟨-, htext⟩ := List.cons.inj heq
  match text with
  | [] => cases htext
  | c :: behind =>
    rw [List.flatMap_cons] at htext
    obtain ⟨hc, hbehind⟩ := isHexDigit_of_head htext hm
    match behind with
    | [] => cases hbehind
    | d :: behind =>
      rw [List.flatMap_cons] at hbehind
      obtain ⟨hd, -⟩ := isHexDigit_of_head hbehind hn
      rw [leadsDigits, hc, hd] at h
      cases h

theorem utf8EncodeChar_percent : String.utf8EncodeChar '%' = [0x25] := by decide

theorem encode_percent : Utf8.encode "%" = [0x25] := by decide

theorem exists_tail_of_notMem {α : Type} {first others front rest : List α} {a : α}
    (ha : a ∉ first) (h : first ++ others = front ++ a :: rest) :
    ∃ tail, front = first ++ tail ∧ others = tail ++ a :: rest := by
  rcases List.append_eq_append_iff.mp h with ⟨tail, hfront, hothers⟩ | ⟨tail, hfirst, hrest⟩
  · exact ⟨tail, hfront, hothers⟩
  · cases tail with
    | nil =>
      rw [List.append_nil] at hfirst
      exact ⟨[], by rw [hfirst, List.append_nil], hrest.symm⟩
    | cons b tail =>
      obtain ⟨rfl, -⟩ := List.cons.inj hrest
      exact absurd (by simp [hfirst]) ha

theorem exists_around_octet {cs : List Char}
    (h : cs.flatMap String.utf8EncodeChar = front ++ 0x25 :: rest) :
    ∃ before behind, cs = before ++ '%' :: behind ∧
      before.flatMap String.utf8EncodeChar = front ∧
      behind.flatMap String.utf8EncodeChar = rest := by
  induction cs generalizing front with
  | nil => simp at h
  | cons c cs ih =>
    rw [List.flatMap_cons] at h
    by_cases hc : c = '%'
    · subst hc
      rw [utf8EncodeChar_percent] at h
      cases front with
      | nil =>
        obtain ⟨-, hrest⟩ := List.cons.inj h
        exact ⟨[], cs, rfl, rfl, hrest⟩
      | cons b front =>
        obtain ⟨rfl, hrest⟩ := List.cons.inj h
        obtain ⟨before, behind, rfl, hbefore, hbehind⟩ := ih hrest
        exact ⟨'%' :: before, behind, rfl, by simp [utf8EncodeChar_percent, hbefore], hbehind⟩
    · -- The octets of another character end before the `%`.
      obtain ⟨tail, rfl, htail⟩ := exists_tail_of_notMem (percent_notMem_utf8EncodeChar hc) h
      obtain ⟨before, behind, rfl, hbefore, hbehind⟩ := ih htail
      exact ⟨c :: before, behind, rfl, by simp [hbefore], hbehind⟩

/-- A text falls in two where its octets hold a `%`. -/
theorem exists_around_percent {s : String} (h : Utf8.encode s = front ++ 0x25 :: rest) :
    ∃ before behind, s = before ++ "%" ++ behind ∧ Utf8.encode before = front ∧
      Utf8.encode behind = rest := by
  rw [← String.ofList_toList (s := s), Utf8.encode_ofList] at h
  obtain ⟨before, behind, hs, hbefore, hbehind⟩ := exists_around_octet h
  refine ⟨String.ofList before, String.ofList behind, ?_, ?_, ?_⟩
  · apply String.toList_inj.mp
    simp [hs]
  · rw [Utf8.encode_ofList, hbefore]
  · rw [Utf8.encode_ofList, hbehind]

/-- The octets of `raw` are decoded to those of a text. -/
def Readable (raw : String) : Prop := ∃ s, Utf8.encode s = decodeBytes (Utf8.encode raw)

theorem readable_iff {raw : String} :
    Readable raw ↔ (Utf8.decode? (decodeBytes (Utf8.encode raw))).isSome := by
  rw [Option.isSome_iff_exists]
  exact exists_congr fun _ => Utf8.decode?_eq_some_iff.symm

instance : DecidablePred Readable := fun _ => decidable_of_iff _ readable_iff.symm

theorem decode_of_encode {raw s : String} (h : Utf8.encode s = decodeBytes (Utf8.encode raw)) :
    decode raw = s := by
  rw [decode, Utf8.decode?_eq_some_iff.mpr h, Option.getD_some]

theorem decode_of_not_readable {raw : String} (h : ¬Readable raw) : decode raw = raw := by
  rw [readable_iff, Option.not_isSome_iff_eq_none] at h
  rw [decode, h, Option.getD_none]

theorem decodeBytes_around (before : String) {behind : String}
    (h : leadsDigits behind.toList = false) :
    decodeBytes (Utf8.encode (before ++ "%" ++ behind)) =
      decodeBytes (Utf8.encode before) ++ 0x25 :: decodeBytes (Utf8.encode behind) := by
  have hbehind := named?_of_leadsDigits h
  rw [String.ofList_toList] at hbehind
  rw [Utf8.encode_append, Utf8.encode_append, encode_percent, List.append_assoc,
    List.singleton_append, decodeBytes_append_percent, decodeBytes_of_unnamed hbehind]

theorem decode_around {before behind : String} (h : leadsDigits behind.toList = false)
    (hreadable : Readable (before ++ "%" ++ behind)) :
    decode (before ++ "%" ++ behind) = decode before ++ "%" ++ decode behind := by
  obtain ⟨s, hs⟩ := hreadable
  obtain ⟨first, last, rfl, hfirst, hlast⟩ :=
    exists_around_percent (hs.trans (decodeBytes_around before h))
  rw [decode_of_encode hs, decode_of_encode hfirst, decode_of_encode hlast]

/-- However a text was written, it is read back. For whatever text, the loop over its octets ends at
their end and reads none behind it; the text whose octets it has written is what is read, and if there
is none, all stays as it was; and a `%` that no two digits follow is read as itself. -/
theorem decode_undoes_writing :
    (∀ written text : List Char, Writes written text →
      decode (String.ofList written) = String.ofList text) ∧
    ∀ raw : String,
      (∀ rounds ≥ (Utf8.encode raw).length, Scan.start.run? (Utf8.encode raw) rounds =
        some ⟨(Utf8.encode raw).length, decodeBytes (Utf8.encode raw)⟩) ∧
      (∀ s, Utf8.encode s = decodeBytes (Utf8.encode raw) → decode raw = s) ∧
      (¬Readable raw → decode raw = raw) ∧
      ∀ before behind, raw = before ++ "%" ++ behind → leadsDigits behind.toList = false →
        decodeBytes (Utf8.encode raw) =
          decodeBytes (Utf8.encode before) ++ 0x25 :: decodeBytes (Utf8.encode behind) ∧
        (Readable raw → decode raw = decode before ++ "%" ++ decode behind) := by
  constructor
  · intro written text h
    exact h.decode_eq
  · intro raw
    refine ⟨?_, ?_, decode_of_not_readable, ?_⟩
    · intro rounds h
      exact Scan.run?_start h
    · intro s h
      exact decode_of_encode h
    · rintro before behind rfl h
      exact ⟨decodeBytes_around before h, decode_around h⟩

/-- A `%` that was written as `%25` begins nothing, and one that another follows, or nothing, stays.
A lone octet above ASCII is no text. -/
theorem decode_undoes_writing_percent :
    (Writes "%c3%A9%252F".toList "é%2F".toList ∧ decode "%c3%A9%252F" = "é%2F") ∧
    ((Utf8.encode "5%%41%").length = 6 ∧
      Scan.start.run? (Utf8.encode "5%%41%") 6 = some ⟨6, Utf8.encode "5%A%"⟩) ∧
    (Utf8.encode "5%A%" = decodeBytes (Utf8.encode "5%%41%") ∧ decode "5%%41%" = "5%A%") ∧
    (leadsDigits "%41%".toList = false ∧ Readable "5%%41%" ∧
      decode "5%%41%" = decode "5" ++ "%" ++ decode "%41%") ∧
    ¬Readable "%ff%" ∧ decode "%ff%" = "%ff%" := by
  have hwrites : Writes "%c3%A9%252F".toList "é%2F".toList := by
    have hpercent : Writes (['%', '2', '5'] ++ ['2', 'F']) ['%', '2', 'F'] :=
      .escaped (by decide +kernel) (.kept (by decide) (.kept (by decide) .nil))
    have hletter : Writes (['%', 'c', '3', '%', 'A', '9'] ++ ['%', '2', '5', '2', 'F'])
        ['é', '%', '2', 'F'] := .escaped (by decide +kernel) hpercent
    exact hletter
  have hlength : (Utf8.encode "5%%41%").length = 6 := by decide +kernel
  have hoctets : Utf8.encode "5%A%" = decodeBytes (Utf8.encode "5%%41%") := by decide +kernel
  have hreadable : Readable "5%%41%" := ⟨"5%A%", hoctets⟩
  have hunreadable : ¬Readable "%ff%" := by decide +kernel
  obtain ⟨hround, hall⟩ := decode_undoes_writing
  obtain ⟨hloop, hread, -, haround⟩ := hall "5%%41%"
  obtain ⟨-, -, hunread, -⟩ := hall "%ff%"
  have hended := hloop 6 (Nat.le_of_eq hlength)
  rw [hlength, ← hoctets] at hended
  have hbefore := (haround "5" "%41%" rfl (by decide)).2 hreadable
  exact ⟨⟨hwrites, hround _ _ hwrites⟩, ⟨hlength, hended⟩, ⟨hoctets, hread "5%A%" hoctets⟩,
    ⟨by decide, hreadable, hbefore⟩, hunreadable, hunread hunreadable⟩

end Percent

end Switchboard
