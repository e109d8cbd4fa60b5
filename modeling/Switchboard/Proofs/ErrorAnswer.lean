import Switchboard.Proofs.RenderedResponse

namespace Switchboard

namespace Wire

variable {keepAlive : Bool} {request : Request} {r : Response}

theorem values_ownHeaders {name : HeaderName} (hlength : name ≠ .contentLength)
    (hconnection : name ≠ .connection) :
    (ownHeaders r).values name = r.headers.values name := by
  unfold ownHeaders
  rw [Headers.values_remove_ne _ hconnection, Headers.values_remove_ne _ hlength]

theorem values_ofResponse {name : HeaderName} (hlength : name ≠ .contentLength)
    (hconnection : name ≠ .connection) :
    (ofResponse keepAlive request r).headers.values name = r.headers.values name := by
  rw [← values_ownHeaders hlength hconnection]
  unfold ofResponse
  dsimp only
  split
  · unfold withPersistence withLength
    split <;> split <;>
      simp only [Headers.values_insert_ne _ _ hconnection, Headers.values_insert_ne _ _ hlength]
  · exact Headers.values_insert_ne _ _ hconnection

theorem content_eq (r : Response) :
    content r = if r.status.allowsContent then r.body.toBytes else [] := by
  have hempty (h : r.hasBody = false) : r.body.toBytes = [] := by
    unfold Response.hasBody at h
    cases hb : r.body with
    | empty => rfl
    | value v =>
      rw [hb] at h
      cases h
    | text s =>
      rw [hb] at h
      obtain rfl : s = "" := by simpa [Body.isEmpty] using h
      rfl
    | bytes b =>
      rw [hb] at h
      obtain rfl : b = [] := by simpa [Body.isEmpty] using h
      rfl
  unfold content
  cases hbody : r.hasBody with
  | true => rfl
  | false =>
    rw [hempty hbody]
    simp

end Wire

namespace Response

variable (r : Response) (mediaType : String)

@[simp] theorem status_setContentType : (r.setContentType mediaType).result.status = r.status := by
  unfold setContentType
  split <;> rfl

@[simp] theorem body_setContentType : (r.setContentType mediaType).result.body = r.body := by
  unfold setContentType
  split <;> rfl

@[simp] theorem status_typed : (r.typed mediaType).result.status = r.status := by
  unfold typed
  split
  · rfl
  · exact r.status_setContentType mediaType

@[simp] theorem body_typed : (r.typed mediaType).result.body = r.body := by
  unfold typed
  split
  · rfl
  · exact r.body_setContentType mediaType

theorem values_setContentType_ne {name : HeaderName} (h : name ≠ .contentType) :
    (r.setContentType mediaType).result.headers.values name = r.headers.values name := by
  unfold setContentType
  split
  · exact Headers.values_insert_ne _ _ h
  · rfl

theorem values_typed_ne {name : HeaderName} (h : name ≠ .contentType) :
    (r.typed mediaType).result.headers.values name = r.headers.values name := by
  unfold typed
  split
  · rfl
  · exact r.values_setContentType_ne mediaType h

theorem values_setContentType {value : HeaderValue}
    (h : HeaderValue.ofText? mediaType = some value) :
    (r.setContentType mediaType).result.headers.values .contentType = [value] := by
  unfold setContentType
  rw [h]
  exact Headers.values_insert_self _ _ _

theorem setContentType_of_none (h : HeaderValue.ofText? mediaType = none) :
    (r.setContentType mediaType).result = r := by
  unfold setContentType
  rw [h]

theorem typed_of_readable (h : r.contentType?.isSome = true) : (r.typed mediaType).result = r := by
  obtain ⟨text, htext⟩ := Option.isSome_iff_exists.mp h
  unfold typed
  rw [htext]
  rfl

theorem typed_of_unreadable (h : r.contentType? = none) :
    r.typed mediaType = r.setContentType mediaType := by
  unfold typed
  rw [h]

def plainTextValue : HeaderValue := .ofText plainText

theorem ofText?_plainText : HeaderValue.ofText? plainText = some plainTextValue := by
  rfl

theorem text?_plainTextValue : plainTextValue.text?.isSome = true := by
  rfl

theorem contentType?_of_values {value : HeaderValue} {rest : List HeaderValue}
    (h : r.headers.values .contentType = value :: rest) : r.contentType? = value.text? := by
  unfold contentType? Headers.text? Headers.get?
  rw [h]
  rfl

theorem status_finished : r.finished.status = r.status := by
  unfold finished enforced
  split <;> exact r.status_typed plainText

theorem body_finished (h : r.status.allowsContent = true) : r.finished.body = r.body := by
  unfold finished enforced
  rw [r.status_typed plainText, if_pos h]
  exact r.body_typed plainText

theorem values_enforced_ne {name : HeaderName} (h : name ≠ .contentLength) :
    r.enforced.headers.values name = r.headers.values name := by
  unfold enforced
  split
  · rfl
  · exact Headers.values_remove_ne _ h

theorem values_finished_ne {name : HeaderName} (hlength : name ≠ .contentLength)
    (htype : name ≠ .contentType) : r.finished.headers.values name = r.headers.values name := by
  unfold finished
  rw [values_enforced_ne _ hlength, values_typed_ne _ _ htype]

theorem values_contentType_finished :
    r.finished.headers.values .contentType =
      if r.contentType?.isSome then r.headers.values .contentType else [plainTextValue] := by
  unfold finished
  rw [values_enforced_ne _ (by decide)]
  cases h : r.contentType? with
  | some text => rw [r.typed_of_readable plainText (by rw [h]; rfl)]; rfl
  | none => rw [r.typed_of_unreadable plainText h, r.values_setContentType plainText ofText?_plainText]; rfl

end Response

/-- The media type as a field, if a client can read it. -/
def Settings.legible? (s : Settings) : Option HeaderValue :=
  (HeaderValue.ofText? s.mediaType).filter fun value => value.text?.isSome

/-- How the settings, if there are any, render a structured body that the status allows. -/
def Response.attempt? (r : Response) (settings : Option Settings) :
    Option (Except SerializationError (Option String)) :=
  if r.status.allowsContent then settings.map fun s => (s.render r).result.2 else none

namespace ErrorReply

/-- The text that an attempt to render the payload leads to. -/
def textAfter (reply : ErrorReply) : Option (Except SerializationError (Option String)) → String
  | some (.ok (some text)) => text
  | some (.ok none) => reply.payload.value.compact
  | some (.error _) => reply.payload.message
  | none => reply.payload.value.compact

/-- The content types after an attempt to render the payload. -/
def contentTypesAfter (reply : ErrorReply) (settings : Option Settings) :
    Option (Except SerializationError (Option String)) → List HeaderValue
  | some (.error _) => [Response.plainTextValue]
  | some (.ok _) =>
    if (reply.headers.text? .contentType).isSome then reply.headers.values .contentType
    else [(settings.bind Settings.legible?).getD Response.plainTextValue]
  | none =>
    if (reply.headers.text? .contentType).isSome then reply.headers.values .contentType
    else [Response.plainTextValue]

theorem field?_message (payload : ErrorPayload) :
    payload.value.field? "message" = some (.text payload.message) := by
  rcases payload with ⟨status, message, details⟩
  cases details <;> rfl

end ErrorReply

namespace Response

variable (r : Response) (reply : ErrorReply)

theorem body_failedWith : (r.failedWith reply).body = .value reply.payload.value := rfl

theorem values_failedWith_ne {name : HeaderName} (h : name ≠ .contentType) :
    (r.failedWith reply).headers.values name =
      r.headers.values name ++ reply.headers.values name := by
  unfold failedWith ErrorReply.apply removeHeader
  dsimp only
  rw [Headers.values_appendAll, Headers.values_remove_ne _ h]

theorem values_contentType_failedWith :
    (r.failedWith reply).headers.values .contentType = reply.headers.values .contentType := by
  unfold failedWith ErrorReply.apply removeHeader
  dsimp only
  rw [Headers.values_appendAll, Headers.values_remove_self, List.nil_append]

theorem contentType?_failedWith :
    (r.failedWith reply).contentType? = reply.headers.text? .contentType := by
  unfold contentType? Headers.text? Headers.get?
  rw [values_contentType_failedWith]

theorem plainMessage_failedWith {s : Response} (h : s.body = .value reply.payload.value) :
    s.plainMessage = reply.payload.message := by
  unfold plainMessage
  rw [h]
  dsimp only [Body.value?, Option.bind_some]
  rw [ErrorReply.field?_message]
  rfl

theorem rendered_failedWith (settings : Option Settings) :
    ((r.failedWith reply).rendered settings true).result =
      match (r.failedWith reply).attempt? settings, settings with
      | some result, some s =>
        (((r.failedWith reply).typed s.mediaType).result.withText result, result.map fun _ => ())
      | _, _ => (r.failedWith reply, .ok ()) := by
  have hawaits : (r.failedWith reply).awaitsRendering true =
      (r.failedWith reply).status.allowsContent := by
    unfold awaitsRendering
    rw [body_failedWith]
    simp [Body.isStructured]
  unfold rendered attempt?
  rw [hawaits]
  cases (r.failedWith reply).status.allowsContent <;> cases settings <;> rfl

/-- The three ways in which a failure is told. -/
theorem told_failedWith_cases (settings : Option Settings) :
    ((r.failedWith reply).attempt? settings = none ∧
        (r.failedWith reply).told settings = r.failedWith reply) ∨
      (∃ s text?, settings = some s ∧
        (r.failedWith reply).attempt? settings = some (.ok text?) ∧
        (r.failedWith reply).told settings =
          ((r.failedWith reply).typed s.mediaType).result.withText (.ok text?)) ∨
      (∃ s e, settings = some s ∧ (r.failedWith reply).attempt? settings = some (.error e) ∧
        (r.failedWith reply).told settings =
          ((r.failedWith reply).typed s.mediaType).result.plain.result) := by
  have hrendered := r.rendered_failedWith reply settings
  unfold told
  rw [hrendered]
  cases settings with
  | none =>
    have hnone : (r.failedWith reply).attempt? none = none := by
      unfold attempt?
      split <;> rfl
    rw [hnone]
    exact .inl ⟨rfl, rfl⟩
  | some s =>
    cases (r.failedWith reply).attempt? (some s) with
    | none => exact .inl ⟨rfl, rfl⟩
    | some result =>
      cases result with
      | ok text? => exact .inr (.inl ⟨s, text?, rfl, rfl, rfl⟩)
      | error e => exact .inr (.inr ⟨s, e, rfl, rfl, rfl⟩)

theorem status_withText (result : Except SerializationError (Option String)) :
    (r.withText result).status = r.status := by
  unfold withText
  split <;> rfl

theorem headers_withText (result : Except SerializationError (Option String)) :
    (r.withText result).headers = r.headers := by
  unfold withText
  split <;> rfl

theorem status_told_failedWith (settings : Option Settings) :
    ((r.failedWith reply).told settings).status = reply.status := by
  rcases r.told_failedWith_cases reply settings with
    ⟨-, heq⟩ | ⟨s, text?, -, -, heq⟩ | ⟨s, e, -, -, heq⟩
  · rw [heq]
    rfl
  · rw [heq, status_withText, status_typed]
    rfl
  · rw [heq]
    unfold plain
    rw [status_setContentType]
    exact status_typed _ _

theorem body_told_failedWith (settings : Option Settings) :
    ((r.failedWith reply).told settings).body.toBytes =
      Utf8.encode (reply.textAfter ((r.failedWith reply).attempt? settings)) := by
  rcases r.told_failedWith_cases reply settings with
    ⟨hattempt, heq⟩ | ⟨s, text?, -, hattempt, heq⟩ | ⟨s, e, -, hattempt, heq⟩
  · rw [heq, hattempt]
    rfl
  · rw [heq, hattempt]
    cases text? with
    | none =>
      show ((r.failedWith reply).typed s.mediaType).result.body.toBytes = _
      rw [body_typed]
      rfl
    | some text => rfl
  · rw [heq, hattempt]
    unfold plain
    rw [body_setContentType]
    show Utf8.encode ((r.failedWith reply).typed s.mediaType).result.plainMessage = _
    rw [plainMessage_failedWith reply (body_typed _ _)]
    rfl

theorem values_told_failedWith_ne (settings : Option Settings) {name : HeaderName}
    (h : name ≠ .contentType) :
    ((r.failedWith reply).told settings).headers.values name =
      r.headers.values name ++ reply.headers.values name := by
  rw [← r.values_failedWith_ne reply h]
  rcases r.told_failedWith_cases reply settings with
    ⟨-, heq⟩ | ⟨s, text?, -, -, heq⟩ | ⟨s, e, -, -, heq⟩
  · rw [heq]
  · rw [heq, headers_withText, values_typed_ne _ _ h]
  · rw [heq]
    unfold plain
    rw [values_setContentType_ne _ _ h]
    exact values_typed_ne _ _ h

theorem values_contentType_typed_finished {s : Settings} (h : r.contentType? = none) :
    (r.typed s.mediaType).result.finished.headers.values .contentType =
      [s.legible?.getD plainTextValue] := by
  rw [values_contentType_finished, r.typed_of_unreadable _ h]
  unfold Settings.legible?
  cases hvalue : HeaderValue.ofText? s.mediaType with
  | none =>
    rw [r.setContentType_of_none _ hvalue, h]
    rfl
  | some value =>
    have hvalues := r.values_setContentType s.mediaType hvalue
    rw [contentType?_of_values _ hvalues, hvalues]
    cases htext : value.text? with
    | none => rw [Option.filter_some, htext]; rfl
    | some text => rw [Option.filter_some, htext]; rfl

theorem finished_withText (result : Except SerializationError (Option String)) :
    (r.withText result).finished.headers.values .contentType =
      r.finished.headers.values .contentType := by
  rw [values_contentType_finished, values_contentType_finished]
  unfold contentType?
  rw [headers_withText]

theorem values_contentType_told_failedWith (settings : Option Settings) :
    ((r.failedWith reply).told settings).finished.headers.values .contentType =
      reply.contentTypesAfter settings ((r.failedWith reply).attempt? settings) := by
  have htype := r.contentType?_failedWith reply
  have hvalues := r.values_contentType_failedWith reply
  rcases r.told_failedWith_cases reply settings with
    ⟨hattempt, heq⟩ | ⟨s, text?, rfl, hattempt, heq⟩ | ⟨s, e, -, hattempt, heq⟩
  · rw [heq, hattempt, values_contentType_finished, htype, hvalues]
    rfl
  · rw [heq, hattempt, finished_withText]
    unfold ErrorReply.contentTypesAfter
    dsimp only
    cases hreadable : (reply.headers.text? .contentType) with
    | some text =>
      have hread : (r.failedWith reply).contentType?.isSome = true := by
        rw [htype, hreadable]
        rfl
      rw [typed_of_readable _ _ hread, values_contentType_finished, hread, hvalues]
      rfl
    | none =>
      rw [values_contentType_typed_finished _ (htype.trans hreadable)]
      rfl
  · rw [heq, hattempt, values_contentType_finished]
    unfold plain
    have hplain := values_setContentType
      { ((r.failedWith reply).typed s.mediaType).result with
        body := .text ((r.failedWith reply).typed s.mediaType).result.plainMessage }
      plainText ofText?_plainText
    rw [contentType?_of_values _ hplain, hplain, text?_plainTextValue]
    rfl

end Response

/-- What a client is told of a failure whose reply settings may render, on a response of which
earlier stages have made something. -/
structure Wire.Tells (wire : Wire) (earlier : Response) (reply : ErrorReply)
    (settings : Option Settings) : Prop where
  status : wire.status = reply.status
  body :
    wire.body =
      if reply.status.allowsContent then
        Utf8.encode (reply.textAfter ((earlier.failedWith reply).attempt? settings))
      else []
  contentTypes :
    wire.headers.values .contentType =
      reply.contentTypesAfter settings ((earlier.failedWith reply).attempt? settings)
  otherFields (name : HeaderName) :
    name ≠ .contentLength → name ≠ .connection → name ≠ .contentType →
      wire.headers.values name = earlier.headers.values name ++ reply.headers.values name

theorem Wire.tells_ofResponse (keepAlive : Bool) (request : Request) (earlier : Response)
    (reply : ErrorReply) (settings : Option Settings) :
    (ofResponse keepAlive request
      ((earlier.failedWith reply).told settings).finished).Tells earlier reply settings := by
  have hstatus := earlier.status_told_failedWith reply settings
  constructor
  · exact (Response.status_finished _).trans hstatus
  · show content _ = _
    rw [content_eq, Response.status_finished, hstatus]
    cases hallows : reply.status.allowsContent with
    | false => rfl
    | true =>
      rw [if_pos rfl, if_pos rfl, Response.body_finished _ (hstatus ▸ hallows)]
      exact earlier.body_told_failedWith reply settings
  · rw [values_ofResponse (by decide) (by decide)]
    exact earlier.values_contentType_told_failedWith reply settings
  · intro name hlength hconnection htype
    rw [values_ofResponse hlength hconnection, Response.values_finished_ne _ hlength htype]
    exact earlier.values_told_failedWith_ne reply settings htype

end Switchboard
