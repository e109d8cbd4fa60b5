import Switchboard.Proofs.PinnedSettings

namespace Switchboard

namespace Response

variable {r : Response} {s : Settings}

/-- A structured body that is meant for a serializer and may be sent. -/
structure IsToRender (r : Response) : Prop where
  allowed : r.status.allowsContent = true
  marked : r.serialized = true
  structured : r.body.isStructured = true

theorem awaitsRendering_iff : r.awaitsRendering false = true ↔ r.IsToRender := by
  unfold awaitsRendering
  rw [Bool.false_or, Bool.and_eq_true, Bool.and_eq_true]
  exact ⟨fun ⟨⟨hallowed, hmarked⟩, hstructured⟩ => ⟨hallowed, hmarked, hstructured⟩,
    fun h => ⟨⟨h.allowed, h.marked⟩, h.structured⟩⟩

theorem rendered_of_isToRender (h : r.IsToRender) :
    (r.rendered (some s) false).result =
      ((r.typed s.mediaType).result.withText (s.render r).result.2,
        (s.render r).result.2.map fun _ => ()) := by
  unfold rendered
  rw [if_pos (awaitsRendering_iff.mpr h)]
  rfl

theorem rendered_of_not_isToRender (h : ¬r.IsToRender) (settings : Option Settings) :
    (r.rendered settings false).result = (r, .ok ()) := by
  unfold rendered
  rw [if_neg (mt awaitsRendering_iff.mp h)]
  rfl

theorem rendered_cases (h : (r.rendered (some s) false).result.2 = .ok ()) :
    (r.IsToRender ∧ ∃ text?, (s.render r).result.2 = .ok text? ∧
        (r.rendered (some s) false).result.1 =
          (r.typed s.mediaType).result.withText (.ok text?)) ∨
      (¬r.IsToRender ∧ (r.rendered (some s) false).result.1 = r) := by
  by_cases htorender : r.IsToRender
  · have hrendered := rendered_of_isToRender (s := s) htorender
    rw [hrendered] at h ⊢
    cases hattempt : (s.render r).result.2 with
    | error e =>
      rw [hattempt] at h
      cases h
    | ok text? => exact .inl ⟨htorender, text?, rfl, rfl⟩
  · rw [rendered_of_not_isToRender htorender]
    exact .inr ⟨htorender, rfl⟩

theorem body_rendered_of_text {text : String} (htorender : r.IsToRender)
    (htext : (s.render r).result.2 = .ok (some text)) :
    (r.rendered (some s) false).result.1.body = .text text := by
  rw [rendered_of_isToRender htorender, htext]
  rfl

theorem values_contentType_of_not_isToRender (hnone : r.contentType? = none)
    (hnot : ¬r.IsToRender) :
    (r.rendered (some s) false).result.1.finished.headers.values .contentType =
      [plainTextValue] := by
  rw [rendered_of_not_isToRender hnot, values_contentType_finished, hnone]
  rfl

section Rendered

variable (h : (r.rendered (some s) false).result.2 = .ok ())
include h

theorem status_rendered : (r.rendered (some s) false).result.1.status = r.status := by
  rcases rendered_cases h with ⟨-, text?, -, heq⟩ | ⟨-, heq⟩
  · rw [heq, status_withText, status_typed]
  · rw [heq]

theorem values_rendered_ne {name : HeaderName} (hname : name ≠ .contentType) :
    (r.rendered (some s) false).result.1.headers.values name = r.headers.values name := by
  rcases rendered_cases h with ⟨-, text?, -, heq⟩ | ⟨-, heq⟩
  · rw [heq, headers_withText, values_typed_ne _ _ hname]
  · rw [heq]

theorem body_rendered_of_no_text
    (hnone : ¬(r.IsToRender ∧ ∃ text, (s.render r).result.2 = .ok (some text))) :
    (r.rendered (some s) false).result.1.body = r.body := by
  rcases rendered_cases h with ⟨htorender, text?, htext, heq⟩ | ⟨-, heq⟩
  · cases text? with
    | none =>
      rw [heq]
      exact r.body_typed s.mediaType
    | some text => exact absurd ⟨htorender, text, htext⟩ hnone
  · rw [heq]

theorem values_contentType_of_own (hown : r.contentType?.isSome = true) :
    (r.rendered (some s) false).result.1.finished.headers.values .contentType =
      r.headers.values .contentType := by
  have hfinished : r.finished.headers.values .contentType = r.headers.values .contentType := by
    rw [values_contentType_finished, if_pos hown]
  rcases rendered_cases h with ⟨-, text?, -, heq⟩ | ⟨-, heq⟩
  · rw [heq, finished_withText, r.typed_of_readable _ hown, hfinished]
  · rw [heq, hfinished]

theorem values_contentType_of_isToRender (hnone : r.contentType? = none)
    (htorender : r.IsToRender) :
    (r.rendered (some s) false).result.1.finished.headers.values .contentType =
      [s.legible?.getD plainTextValue] := by
  rcases rendered_cases h with ⟨-, text?, -, heq⟩ | ⟨hnot, -⟩
  · rw [heq, finished_withText, r.values_contentType_typed_finished hnone]
  · exact absurd htorender hnot

end Rendered

theorem text?_legible (s : Settings) :
    ((s.legible?.getD plainTextValue).text?).isSome = true := by
  unfold Settings.legible?
  cases HeaderValue.ofText? s.mediaType with
  | none => exact text?_plainTextValue
  | some value =>
    rw [Option.filter_some]
    split
    next hreadable => exact hreadable
    next => exact text?_plainTextValue

end Response

/-- What a client gets of a response that settings may render. -/
structure Wire.Delivers (wire : Wire) (r : Response) (s : Settings) : Prop where
  status : wire.status = r.status
  bare : r.status.allowsContent = false → wire.body = []
  rendered (text : String) :
    r.IsToRender → (s.render r).result.2 = .ok (some text) → wire.body = Utf8.encode text
  unchanged :
    r.status.allowsContent = true →
      ¬(r.IsToRender ∧ ∃ text, (s.render r).result.2 = .ok (some text)) →
        wire.body = r.body.toBytes
  ownTypes :
    r.contentType?.isSome = true →
      wire.headers.values .contentType = r.headers.values .contentType
  renderedType :
    r.contentType? = none → r.IsToRender →
      wire.headers.values .contentType = [s.legible?.getD Response.plainTextValue]
  plainType :
    r.contentType? = none → ¬r.IsToRender →
      wire.headers.values .contentType = [Response.plainTextValue]
  announced : (wire.headers.text? .contentType).isSome = true
  otherFields (name : HeaderName) :
    name ≠ .contentLength → name ≠ .connection → name ≠ .contentType →
      wire.headers.values name = r.headers.values name

namespace Wire

theorem text?_of_values {wire : Wire} {name : HeaderName} {values : List HeaderValue}
    (h : wire.headers.values name = values) :
    wire.headers.text? name = values.head?.bind (·.text?) := by
  rw [← h]
  rfl

/-- What was rendered is delivered, whatever the connection it goes over. -/
theorem delivers_ofResponse (keepAlive : Bool) (request : Request) {r : Response} {s : Settings}
    (h : (r.rendered (some s) false).result.2 = .ok ()) :
    (ofResponse keepAlive request (r.rendered (some s) false).result.1.finished).Delivers r s := by
  have hstatus := (Response.status_finished _).trans (Response.status_rendered h)
  have htypes :
      (ofResponse keepAlive request
          (r.rendered (some s) false).result.1.finished).headers.values .contentType =
        (r.rendered (some s) false).result.1.finished.headers.values .contentType :=
    values_ofResponse (by decide) (by decide)
  have hbody (hallowed : r.status.allowsContent = true) :
      content (r.rendered (some s) false).result.1.finished =
        (r.rendered (some s) false).result.1.body.toBytes := by
    rw [content_eq, hstatus, if_pos hallowed, Response.body_finished]
    rw [Response.status_rendered h]
    exact hallowed
  constructor
  case status => exact hstatus
  case bare =>
    intro hbare
    show content _ = _
    rw [content_eq, hstatus, hbare]
    rfl
  case rendered =>
    intro text htorender htext
    refine (hbody htorender.allowed).trans ?_
    rw [Response.body_rendered_of_text htorender htext]
    rfl
  case unchanged =>
    intro hallowed hnone
    refine (hbody hallowed).trans ?_
    rw [Response.body_rendered_of_no_text h hnone]
  case ownTypes => exact fun hown => htypes.trans (Response.values_contentType_of_own h hown)
  case renderedType =>
    exact fun hnone htorender =>
      htypes.trans (Response.values_contentType_of_isToRender h hnone htorender)
  case plainType =>
    exact fun hnone hnot =>
      htypes.trans (Response.values_contentType_of_not_isToRender hnone hnot)
  case announced =>
    cases hown : r.contentType? with
    | some text =>
      have hreadable : r.contentType?.isSome = true := by rw [hown]; rfl
      rw [text?_of_values (htypes.trans (Response.values_contentType_of_own h hreadable))]
      exact hreadable
    | none =>
      by_cases htorender : r.IsToRender
      · rw [text?_of_values
          (htypes.trans (Response.values_contentType_of_isToRender h hown htorender))]
        exact Response.text?_legible s
      · rw [text?_of_values
          (htypes.trans (Response.values_contentType_of_not_isToRender hown htorender))]
        exact Response.text?_plainTextValue
  case otherFields =>
    intro name hlength hconnection htype
    rw [values_ofResponse hlength hconnection, Response.values_finished_ne _ hlength htype,
      Response.values_rendered_ne h htype]

end Wire

namespace Pipeline

variable {σ : Type} (p : Pipeline σ) {s : Session σ}

theorem failure_of_serialize (h : (p.serialize s).context.failure = none) :
    s.context.failure = none := by
  cases hbefore : s.context.failure with
  | none => rfl
  | some failure =>
    rw [context_serialize_of_failure p (Context.hasFailure_of_some hbefore), hbefore] at h
    cases h

/-- A run whose response is ready without a failure came through every step, and what was to be
rendered could be rendered. -/
theorem answer_of_unfailed (hnone : (p.serialize (p.processed s)).context.failure = none) :
    ∃ last settings, p.process s = (last, .ok ()) ∧ last.context.settings = some settings ∧
      (last.context.response.rendered (some settings) false).result.2 = .ok () ∧
      (p.serialize (p.processed s)).context.response =
        (last.context.response.rendered (some settings) false).result.1.finished := by
  rcases hprocess : p.process s with ⟨last, failure | _⟩
  · obtain ⟨hfailure, -⟩ := p.context_of_failed_process hprocess
    rw [hfailure] at hnone
    cases hnone
  · obtain ⟨settings, hpinned⟩ := p.settings_of_process hprocess
    have hgood := p.failure_of_serialize hnone
    rw [p.processed_of_ok hprocess] at hgood
    have hresult := p.result_render_of_pinned hpinned hgood
    rw [hpinned] at hresult
    rcases hrender : render (p.settingsFor last).2 (p.settingsFor last).1 with ⟨u, e | _⟩
    · obtain ⟨hfailure, -⟩ := p.context_of_failed_render hprocess hpinned hgood hrender
      rw [hfailure] at hnone
      cases hnone
    · rw [hrender] at hresult
      obtain ⟨-, -, hanswer⟩ := p.answers_of_pinned hpinned hgood
      refine ⟨last, settings, rfl, hpinned, hresult.symm, ?_⟩
      rw [p.processed_of_ok hprocess, hanswer, Context.hasFailure_of_none hgood]
      rcases hrendered : (last.context.response.rendered (some settings) false).result with
        ⟨r, result⟩
      rw [hrendered] at hresult
      obtain rfl : result = .ok () := hresult.symm
      unfold Response.answer
      rw [hrendered]
      rfl

/-- A run that captures no failure delivers the response that the last postprocessor left, rendered
with the settings that were pinned. -/
theorem wire_of_success {keepAlive : Bool} (hwriter : p.writer = Wire.ofResponse keepAlive)
    {context : Context (Handler σ)} {world : World σ}
    (hsuccess : (p.run context world).2.context.failure = none) :
    ∃ last settings, p.process (p.arrived { context, world }) = (last, .ok ()) ∧
      last.context.settings = some settings ∧
      (p.run context world).1.Delivers last.context.response settings := by
  have hprepared : (p.prepare { context, world }).context.failure = none :=
    (p.failure_finish _ _).symm.trans hsuccess
  obtain ⟨last, settings, hprocess, hpinned, hrendered, hresponse⟩ :=
    p.answer_of_unfailed hprepared
  refine ⟨last, settings, hprocess, hpinned, ?_⟩
  show (p.writer _ (p.serialize _).context.response).Delivers _ _
  rw [hwriter, hresponse]
  exact Wire.delivers_ofResponse _ _ hrendered

/-- A pipeline that answers in XML: a handler makes a record, and a hook behind it says so. -/
def recording : Pipeline Unit where
  table.routes := [.bare .post (.returning (.value (.object [("id", .ofNat 7)])))]
  registry := Registry.standard.withDefault "xml"
  postprocessors :=
    [fun _ response state =>
      ⟨{ response with status := { code := 201 } }, state, .done (), [], 0⟩]

theorem wire_of_recording :
    let s : Session Unit :=
      { context := { request := .ofTarget .post ⟨"/", none⟩ }, world := ⟨(), 0, none, []⟩ }
    recording.writer = Wire.ofResponse true ∧
      (recording.run s.context s.world).2.context.failure = none ∧
      ∃ last settings, recording.process (recording.arrived s) = (last, .ok ()) ∧
        last.context.settings = some settings ∧
        (recording.run s.context s.world).1.Delivers last.context.response settings :=
  ⟨rfl, rfl, recording.wire_of_success rfl rfl⟩

end Pipeline

end Switchboard
