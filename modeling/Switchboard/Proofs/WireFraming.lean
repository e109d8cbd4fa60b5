import Switchboard.Proofs.ConnectionWords
import Switchboard.Proofs.ErrorAnswer

namespace Switchboard

namespace Headers

variable {keep : HeaderName × HeaderValue → Bool} {name : HeaderName}

theorem filter_remove (h : Headers) (hkeep : ∀ value, keep (name, value) = false) :
    (h.remove name).entries.filter keep = h.entries.filter keep := by
  unfold remove
  rw [List.filter_filter]
  refine List.filter_congr fun entry _ => ?_
  by_cases hname : entry.1 = name
  · obtain ⟨_, value⟩ := entry
    obtain rfl := hname
    rw [hkeep]
    rfl
  · simp [hname]

theorem filter_insert (h : Headers) (value : HeaderValue)
    (hkeep : ∀ value, keep (name, value) = false) :
    (h.insert name value).entries.filter keep = h.entries.filter keep := by
  show ((h.remove name).entries ++ [(name, value)]).filter keep = _
  rw [List.filter_append, h.filter_remove hkeep, List.filter_cons_of_neg (by simp [hkeep])]
  exact List.append_nil _

theorem remove_remove_self (h : Headers) (name : HeaderName) :
    (h.remove name).remove name = h.remove name := by
  unfold remove
  rw [List.filter_filter]
  simp

end Headers

/-- Statuses without content: 1xx, 204 and 304. -/
def Status.IsBare (s : Status) : Prop := s.code < 200 ∨ s.code = 204 ∨ s.code = 304

theorem Status.allowsContent_eq_false_iff (s : Status) : s.allowsContent = false ↔ s.IsBare := by
  simp only [allowsContent, IsBare, Bool.not_eq_false', Bool.or_eq_true, decide_eq_true_eq,
    beq_iff_eq, or_assoc]

def isOwnField (field : HeaderName × HeaderValue) : Bool :=
  field.1 != .contentLength && field.1 != .connection

namespace Wire

variable (keepAlive : Bool) (request : Request) (r : Response)

def closing : HeaderValue := .ofText "close"

def persisting : HeaderValue := .ofText "keep-alive"

def lengthOf (body : Bytes) : HeaderValue := .ofText (toString body.length)

theorem values_connection_ofResponse :
    (ofResponse keepAlive request r).headers.values .connection =
      if staysOpen keepAlive request then
        if request.version = .http10 then [persisting] else []
      else [closing] := by
  have hown : (ownHeaders r).values .connection = [] := Headers.values_remove_self _ _
  have hlength : (withLength r.status (content r).length (ownHeaders r)).values .connection = [] := by
    unfold withLength
    split
    · rw [Headers.values_insert_ne _ _ (by decide), hown]
    · exact hown
  unfold ofResponse
  dsimp only
  split
  · unfold withPersistence
    split
    · exact Headers.values_insert_self _ _ _
    · exact hlength
  · exact Headers.values_insert_self _ _ _

theorem values_contentLength_ofResponse :
    (ofResponse keepAlive request r).headers.values .contentLength =
      if staysOpen keepAlive request && r.status.allowsContent then [lengthOf (content r)]
      else [] := by
  have hown : (ownHeaders r).values .contentLength = [] := by
    unfold ownHeaders
    rw [Headers.values_remove_ne _ (by decide), Headers.values_remove_self]
  unfold ofResponse
  dsimp only
  cases staysOpen keepAlive request with
  | false =>
    rw [if_neg Bool.false_ne_true, Headers.values_insert_ne _ _ (by decide), hown]
    rfl
  | true =>
    have hpersistence (h : Headers) :
        (withPersistence request.version h).values .contentLength = h.values .contentLength := by
      unfold withPersistence
      split
      · exact Headers.values_insert_ne _ _ (by decide)
      · rfl
    rw [if_pos rfl, hpersistence]
    unfold withLength Status.allowsLength
    cases r.status.allowsContent with
    | true => exact Headers.values_insert_self _ _ _
    | false => exact hown

theorem filter_isOwnField_ofResponse :
    (ofResponse keepAlive request r).headers.entries.filter isOwnField =
      r.headers.entries.filter isOwnField := by
  have hlength : ∀ value, isOwnField (.contentLength, value) = false := fun _ => rfl
  have hconnection : ∀ value, isOwnField (.connection, value) = false := fun _ => rfl
  have hown : (ownHeaders r).entries.filter isOwnField = r.headers.entries.filter isOwnField := by
    unfold ownHeaders
    rw [Headers.filter_remove _ hconnection, Headers.filter_remove _ hlength]
  rw [← hown]
  unfold ofResponse
  dsimp only
  split
  · unfold withPersistence withLength
    split <;> split <;>
      simp only [Headers.filter_insert _ _ hconnection, Headers.filter_insert _ _ hlength]
  · exact Headers.filter_insert _ _ hconnection

/-- Dropping what the status forbids changes nothing on the wire. -/
theorem ofResponse_enforced :
    ofResponse keepAlive request r.enforced = ofResponse keepAlive request r := by
  unfold Response.enforced
  cases hallows : r.status.allowsContent with
  | true => rfl
  | false =>
    have hcontent : content { r with body := .empty, headers := r.headers.remove .contentLength } =
        content r := by
      rw [content_eq, content_eq]
      dsimp only
      rw [hallows]
      rfl
    have hheaders : ownHeaders { r with body := .empty, headers := r.headers.remove .contentLength } =
        ownHeaders r := by
      unfold ownHeaders
      rw [Headers.remove_remove_self]
    rw [if_neg Bool.false_ne_true]
    unfold ofResponse
    rw [hcontent, hheaders]

/-- A response on the wire as it has to be framed. -/
structure Frames (wire : Wire) : Prop where
  status : wire.status = r.status
  bare : r.status.IsBare → wire.body = []
  content : ¬r.status.IsBare → wire.body = r.body.toBytes
  ownFields : wire.headers.entries.filter isOwnField = r.headers.entries.filter isOwnField
  length :
    wire.headers.values .contentLength = [] ∨
      wire.headers.values .contentLength = [lengthOf wire.body]
  unmeasured : r.status.IsBare → wire.headers.values .contentLength = []
  /-- Later versions have no such field. -/
  multiplexed :
    request.version = .http2 ∨ request.version = .http3 → wire.headers.values .connection = []
  connection : (wire.headers.values .connection).length ≤ 1
  closes :
    request.version ≠ .http2 → request.version ≠ .http3 →
      (wire.headers.values .connection = [closing] ↔
        keepAlive = false ∨ request.ListsConnection "close" ∨
          (request.version = .http09 ∨ request.version = .http10) ∧
            ¬request.ListsConnection "keep-alive")
  /-- Without the end of the connection the length tells where the body ends. -/
  delimited :
    wire.headers.values .connection ≠ [closing] → ¬r.status.IsBare →
      wire.headers.values .contentLength = [lengthOf wire.body]

theorem staysOpen_eq_false_iff :
    staysOpen keepAlive request = false ↔
      (request.version ≠ .http2 ∧ request.version ≠ .http3) ∧
        (keepAlive = false ∨ request.keepsAlive = false) := by
  unfold staysOpen Version.hasConnectionFields
  cases request.version <;> cases keepAlive <;> simp

theorem connection_eq_closing_iff :
    (ofResponse keepAlive request r).headers.values .connection = [closing] ↔
      staysOpen keepAlive request = false := by
  rw [values_connection_ofResponse]
  cases staysOpen keepAlive request with
  | false => simp
  | true =>
    have hne : persisting ≠ closing := by decide
    by_cases hversion : request.version = .http10 <;> simp [hversion, hne]

theorem staysOpen_of_multiplexed {request : Request}
    (h : request.version = .http2 ∨ request.version = .http3) :
    staysOpen keepAlive request = true := by
  rw [← Bool.not_eq_false, staysOpen_eq_false_iff]
  rintro ⟨⟨h2, h3⟩, -⟩
  exact h.elim h2 h3

/-- Every response is framed, and what its status forbids can as well be dropped before. -/
theorem frames_ofResponse :
    Frames keepAlive request r (ofResponse keepAlive request r) ∧
      ofResponse keepAlive request r.enforce.result = ofResponse keepAlive request r := by
  have hbody : (ofResponse keepAlive request r).body = content r := rfl
  have hconnection := values_connection_ofResponse keepAlive request r
  have hlength := values_contentLength_ofResponse keepAlive request r
  have hclosing := connection_eq_closing_iff keepAlive request r
  have hopen := staysOpen_eq_false_iff keepAlive request
  have hbare := r.status.allowsContent_eq_false_iff
  have hcontent (h : ¬r.status.IsBare) : r.status.allowsContent = true := by
    rwa [← hbare, Bool.not_eq_false] at h
  refine ⟨{
    status := rfl
    bare := fun h => ?bare
    content := fun h => ?content
    ownFields := filter_isOwnField_ofResponse keepAlive request r
    length := ?length
    unmeasured := fun h => ?unmeasured
    multiplexed := fun h => ?multiplexed
    connection := ?connection
    closes := fun h2 h3 => ?closes
    delimited := fun hnot h => ?delimited }, ofResponse_enforced keepAlive request r⟩
  case bare =>
    rw [hbody, content_eq, hbare.mpr h]
    rfl
  case content => rw [hbody, content_eq, if_pos (hcontent h)]
  case length =>
    rw [hlength, hbody]
    split
    · exact .inr rfl
    · exact .inl rfl
  case unmeasured =>
    rw [hlength, hbare.mpr h, Bool.and_false]
    rfl
  case multiplexed =>
    rw [hconnection, if_pos (staysOpen_of_multiplexed keepAlive h), if_neg]
    rcases h with h | h <;> rw [h] <;> decide
  case connection =>
    rw [hconnection]
    split
    · split <;> simp
    · simp
  case closes =>
    rw [hclosing, hopen, ← request.keepsAlive_eq_false_iff]
    exact ⟨fun h => h.2, fun h => ⟨⟨h2, h3⟩, h⟩⟩
  case delimited =>
    rw [Ne, hclosing, Bool.not_eq_false] at hnot
    rw [hlength, hnot, hcontent h, hbody]
    rfl

end Wire

end Switchboard
