import Switchboard.Http.Method
import Switchboard.Text.Utf8

namespace Switchboard

structure HeaderName where
  text : String
  deriving DecidableEq, Repr

namespace HeaderName

def ofString? (s : String) : Option HeaderName :=
  if s.toList ≠ [] ∧ s.toList.all isTokenChar then some ⟨Text.lowercase s⟩ else none

def accept : HeaderName := ⟨"accept"⟩

def allow : HeaderName := ⟨"allow"⟩

def connection : HeaderName := ⟨"connection"⟩

def contentLength : HeaderName := ⟨"content-length"⟩

def contentType : HeaderName := ⟨"content-type"⟩

def requestId : HeaderName := ⟨"x-request-id"⟩

end HeaderName

structure HeaderValue where
  bytes : Bytes
  deriving DecidableEq, Repr

namespace HeaderValue

/-- No control octet but the tab. -/
def isLegal (b : UInt8) : Bool := (0x20 ≤ b && b ≠ 0x7F) || b == 0x09

def ofBytes? (bytes : Bytes) : Option HeaderValue :=
  if bytes.all isLegal then some ⟨bytes⟩ else none

def ofText? (s : String) : Option HeaderValue := ofBytes? (Utf8.encode s)

def ofText (s : String) : HeaderValue := ⟨Utf8.encode s⟩

theorem ofText?_of_visible {s : String} (h : ∀ c ∈ s.toList, 0x20 ≤ c.toNat ∧ c.toNat ≤ 0x7E) :
    ofText? s = some (ofText s) := by
  have hbytes : Utf8.encode s = s.toList.map fun c => UInt8.ofNat c.toNat := by
    rw [← Utf8.encode_ofList_of_ascii fun c hc => by have := h c hc; omega, String.ofList_toList]
  have hlegal : (Utf8.encode s).all isLegal = true := by
    rw [hbytes, List.all_eq_true]
    intro b hb
    obtain ⟨c, hc, rfl⟩ := List.mem_map.mp hb
    obtain ⟨hlow, hhigh⟩ := h c hc
    have hnat : (UInt8.ofNat c.toNat).toNat = c.toNat := UInt8.toNat_ofNat_of_lt' (by
      show c.toNat < 256
      omega)
    unfold isLegal
    simp only [Bool.or_eq_true, Bool.and_eq_true, decide_eq_true_eq]
    left
    refine ⟨?_, fun hdelete => ?_⟩
    · rw [UInt8.le_iff_toNat_le, hnat]
      exact hlow
    · have := congrArg UInt8.toNat hdelete
      rw [hnat] at this
      simp at this
      omega
  unfold ofText? ofBytes?
  rw [if_pos hlegal]
  rfl

def isReadable (b : UInt8) : Bool := (0x20 ≤ b && b < 0x7F) || b == 0x09

/-- The text of a value of visible ASCII, blanks and tabs; other values have none. -/
def text? (v : HeaderValue) : Option String :=
  if v.bytes.all isReadable then some (String.ofList (v.bytes.map fun b => Char.ofNat b.toNat))
  else none

end HeaderValue

structure Headers where
  entries : List (HeaderName × HeaderValue) := []
  deriving DecidableEq, Repr

namespace Headers

def empty : Headers := {}

def values (h : Headers) (name : HeaderName) : List HeaderValue :=
  (h.entries.filter fun e => e.1 = name).map (·.2)

def get? (h : Headers) (name : HeaderName) : Option HeaderValue := (h.values name).head?

def text? (h : Headers) (name : HeaderName) : Option String := (h.get? name).bind (·.text?)

def texts (h : Headers) (name : HeaderName) : List String := (h.values name).filterMap (·.text?)

def contains (h : Headers) (name : HeaderName) : Bool := h.entries.any fun e => e.1 = name

def remove (h : Headers) (name : HeaderName) : Headers :=
  ⟨h.entries.filter fun e => e.1 ≠ name⟩

def append (h : Headers) (name : HeaderName) (value : HeaderValue) : Headers :=
  ⟨h.entries ++ [(name, value)]⟩

def insert (h : Headers) (name : HeaderName) (value : HeaderValue) : Headers :=
  (h.remove name).append name value

def appendAll (h more : Headers) : Headers := ⟨h.entries ++ more.entries⟩

@[simp] theorem values_append_self (h : Headers) (name : HeaderName) (value : HeaderValue) :
    (h.append name value).values name = h.values name ++ [value] := by
  simp [append, values]

theorem values_append_ne (h : Headers) {name other : HeaderName} (value : HeaderValue)
    (hne : other ≠ name) : (h.append name value).values other = h.values other := by
  simp [append, values, Ne.symm hne]

@[simp] theorem values_remove_self (h : Headers) (name : HeaderName) :
    (h.remove name).values name = [] := by
  simp [remove, values]

theorem values_remove_ne (h : Headers) {name other : HeaderName} (hne : other ≠ name) :
    (h.remove name).values other = h.values other := by
  simp only [remove, values, List.filter_filter]
  congr 1
  apply List.filter_congr
  intro e _
  by_cases he : e.1 = other <;> simp [he, hne]

@[simp] theorem values_insert_self (h : Headers) (name : HeaderName) (value : HeaderValue) :
    (h.insert name value).values name = [value] := by
  simp [insert]

theorem values_insert_ne (h : Headers) {name other : HeaderName} (value : HeaderValue)
    (hne : other ≠ name) : (h.insert name value).values other = h.values other := by
  rw [insert, values_append_ne _ _ hne, values_remove_ne _ hne]

@[simp] theorem values_appendAll (h more : Headers) (name : HeaderName) :
    (h.appendAll more).values name = h.values name ++ more.values name := by
  simp [appendAll, values]

end Headers

end Switchboard
