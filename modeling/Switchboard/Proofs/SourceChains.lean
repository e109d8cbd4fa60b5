import Switchboard.Proofs.ConcealedFailures

namespace Switchboard

/-- The first of a list with a property. -/
structure IsFirst {α : Type} (P : α → Prop) (xs : List α) (x : α) : Prop where
  holds : P x
  place : ∃ before after, xs = before ++ x :: after ∧ ∀ y ∈ before, ¬P y

theorem find?_eq_some_iff_isFirst {α : Type} {p : α → Bool} {xs : List α} {x : α} :
    xs.find? p = some x ↔ IsFirst (p · = true) xs x := by
  rw [List.find?_eq_some_iff_append]
  constructor
  · rintro ⟨hx, before, after, hsplit, hbefore⟩
    exact ⟨hx, before, after, hsplit, fun y hy => by simpa using hbefore y hy⟩
  · rintro ⟨hx, before, after, hsplit, hbefore⟩
    exact ⟨hx, before, after, hsplit, fun y hy => by simpa using hbefore y hy⟩

theorem Cause.service?_eq_some_iff {c : Cause} {e : ServiceError} :
    c.service? = some e ↔ c = .service e := by
  cases c <;> simp [service?]

/-- The failure under further causes, the first of them outermost. -/
def Failure.under (f : Failure) (outer : List Cause) : Failure :=
  outer.foldr (fun c g => g.wrap c) f

theorem Failure.rootCause_wrap (f : Failure) (outer : Cause) :
    (f.wrap outer).rootCause = f.rootCause := by
  have hlast := (f.wrap outer).getLast?_chain
  rw [chain_wrap, List.getLast?_cons, f.getLast?_chain] at hlast
  exact (Option.some.inj hlast).symm

namespace Mapping

/-- The cause is no service error, and none of its type is registered. -/
def Overlooks (m : Mapping) (c : Cause) : Prop :=
  c.service? = none ∧ ∀ e ∈ m.entries, e.1.matches c = false

/-- What a failure is answered with. -/
inductive Answers (m : Mapping) (f : Failure) : ErrorReply → Prop where
  /-- The outermost service error among the causes speaks for itself. -/
  | described {e : ServiceError} {root : Cause}
      (he : IsFirst (fun c => c.service?.isSome) f.chain (.service e))
      (hroot : f.chain.getLast? = some root) :
      Answers m f
        { status := e.status
          headers := e.headers
          payload := ⟨e.status, e.message, e.details⟩
          rootCause := root.text }
  /-- Without one, the earliest entry whose type occurs among them gives the kind, and the outermost
  cause of that type the message. -/
  | registered {type : CauseType} {kind : ErrorKind} {c root : Cause}
      (hplain : ∀ c ∈ f.chain, c.service? = none)
      (hentry : IsFirst (fun e => ∃ c ∈ f.chain, e.1.matches c) m.entries (type, kind))
      (hcause : IsFirst (fun c => type.matches c) f.chain c)
      (hroot : f.chain.getLast? = some root) :
      Answers m f
        { status := kind.status
          headers := {}
          payload := ⟨kind.status, c.text, none⟩
          rootCause := root.text }
  | unknown {root : Cause} (h : m.Conceals f) (hroot : f.chain.getLast? = some root) :
      Answers m f
        { status := { code := 500 }
          headers := {}
          payload := ⟨{ code := 500 }, "Internal Server Error", none⟩
          rootCause := root.text }

variable {m : Mapping} {f : Failure}

theorem findSome?_service?_eq_some_iff {e : ServiceError} :
    f.chain.findSome? Cause.service? = some e ↔
      IsFirst (fun c => c.service?.isSome) f.chain (.service e) := by
  rw [List.findSome?_eq_some_iff]
  constructor
  · rintro ⟨before, c, after, hsplit, hc, hbefore⟩
    obtain rfl := Cause.service?_eq_some_iff.mp hc
    exact ⟨rfl, before, after, hsplit, fun d hd => by simp [hbefore d hd]⟩
  · rintro ⟨-, before, after, hsplit, hbefore⟩
    exact ⟨before, _, after, hsplit, rfl, fun d hd => by simpa using hbefore d hd⟩

theorem lookup?_eq_some_iff {e : ServiceError} :
    m.lookup? f = some e ↔
      ∃ type kind c, IsFirst (fun e => ∃ c ∈ f.chain, e.1.matches c) m.entries (type, kind) ∧
        IsFirst (fun c => type.matches c) f.chain c ∧ e = ⟨kind, c.text, {}, none⟩ := by
  unfold lookup?
  rw [List.findSome?_eq_some_iff]
  constructor
  · rintro ⟨before, ⟨type, kind⟩, after, hsplit, hfound, hbefore⟩
    obtain ⟨c, hc, rfl⟩ := Option.map_eq_some_iff.mp hfound
    have hmatch : type.matches c = true := List.find?_some hc
    refine ⟨type, kind, c, ⟨⟨c, List.mem_of_find?_eq_some hc, hmatch⟩, before, after, hsplit, ?_⟩,
      find?_eq_some_iff_isFirst.mp hc, rfl⟩
    rintro other hother ⟨d, hd, hmatches⟩
    have hnone := List.find?_eq_none.mp (Option.map_eq_none_iff.mp (hbefore other hother))
    exact hnone d hd hmatches
  · rintro ⟨type, kind, c, ⟨-, before, after, hsplit, hbefore⟩, hcause, rfl⟩
    refine ⟨before, (type, kind), after, hsplit, ?_, fun other hother => ?_⟩
    · exact Option.map_eq_some_iff.mpr ⟨c, find?_eq_some_iff_isFirst.mpr hcause, rfl⟩
    · rw [Option.map_eq_none_iff, List.find?_eq_none]
      exact fun d hd hmatches => hbefore other hother ⟨d, hd, hmatches⟩

theorem answers_reply (m : Mapping) (f : Failure) : m.Answers f (m.reply f).result := by
  have hroot := f.getLast?_chain
  unfold reply
  dsimp only
  split
  next e he => exact .described (findSome?_service?_eq_some_iff.mp he) hroot
  next hnone =>
    have hplain := List.findSome?_eq_none_iff.mp hnone
    split
    next e he =>
      obtain ⟨type, kind, c, hentry, hcause, rfl⟩ := lookup?_eq_some_iff.mp he
      exact .registered hplain hentry hcause hroot
    next hlookup =>
      have hunmatched := lookup?_eq_none_iff.mp hlookup
      exact .unknown (fun c hc => ⟨hplain c hc, fun e he => hunmatched e he c hc⟩) hroot

/-- No two replies answer one failure. -/
theorem Answers.eq {reply : ErrorReply} (h : m.Answers f reply) : (m.reply f).result = reply := by
  have hlast := f.getLast?_chain
  cases h with
  | described he hroot =>
    obtain rfl := Option.some.inj (hlast.symm.trans hroot)
    unfold Mapping.reply
    dsimp only
    rw [findSome?_service?_eq_some_iff.mpr he]
    rfl
  | registered hplain hentry hcause hroot =>
    obtain rfl := Option.some.inj (hlast.symm.trans hroot)
    have hlookup := lookup?_eq_some_iff.mpr ⟨_, _, _, hentry, hcause, rfl⟩
    unfold Mapping.reply
    dsimp only
    rw [List.findSome?_eq_none_iff.mpr hplain, hlookup]
    rfl
  | unknown hconceals hroot =>
    obtain rfl := Option.some.inj (hlast.symm.trans hroot)
    exact hconceals.result_reply

theorem reply_wrap {c : Cause} (h : m.Overlooks c) : m.reply (f.wrap c) = m.reply f := by
  obtain ⟨hservice, hentries⟩ := h
  have hlookup : m.lookup? (f.wrap c) = m.lookup? f := by
    unfold lookup?
    rw [← List.head?_filterMap, ← List.head?_filterMap]
    congr 1
    refine List.filterMap_congr fun ⟨type, kind⟩ hentry => ?_
    have hpassed : type.matches c = false := hentries _ hentry
    dsimp only
    rw [Failure.chain_wrap, List.find?_cons_of_neg (by simp [hpassed])]
  unfold reply
  rw [hlookup, f.rootCause_wrap, Failure.chain_wrap, List.findSome?_cons, hservice]

theorem reply_under {outer : List Cause} (h : ∀ c ∈ outer, m.Overlooks c) :
    m.reply (f.under outer) = m.reply f := by
  induction outer with
  | nil => rfl
  | cons c rest ih =>
    obtain ⟨hc, hrest⟩ := List.forall_mem_cons.mp h
    exact (reply_wrap hc).trans (ih hrest)

/-- The reply to a failure is that of its outermost service error, or else of the earliest
registered type among its causes, or else it tells nothing. Further causes that are neither change
nothing, and a service error puts on every response the status and the header fields that it would
put there itself. -/
theorem reply_decided (m : Mapping) (f : Failure) :
    (∀ reply, (m.reply f).result = reply ↔ m.Answers f reply) ∧
    (∀ outer : List Cause, (∀ c ∈ outer, m.Overlooks c) → m.reply (f.under outer) = m.reply f) ∧
    ∀ e, IsFirst (fun c => c.service?.isSome) f.chain (.service e) → ∀ r : Response,
      ((m.reply f).result.apply r).status = (e.augment r).status ∧
        ((m.reply f).result.apply r).headers = (e.augment r).headers := by
  refine ⟨fun reply => ⟨?_, Answers.eq⟩, fun outer => reply_under, fun e he r => ?_⟩
  · rintro rfl
    exact m.answers_reply f
  · rw [(Answers.described he f.getLast?_chain).eq]
    exact ⟨rfl, rfl⟩

/-- A service error between an error of a registered type and the one that it comes from. -/
def lookupFailed : Failure :=
  ⟨.application "LookupFailed" "lookup failed",
    [.service ⟨.unavailable, "try later", {}, none⟩, .application "DiskError" "disk gone"]⟩

theorem reply_decided_lookupFailed :
    let m : Mapping :=
      ⟨[(.application "DiskError", .internal), (.application "LookupFailed", .notFound)]⟩
    let e : ServiceError := ⟨.unavailable, "try later", {}, none⟩
    let outer : List Cause := [.plain "request failed", .serialization (.unsupported "xml")]
    (∀ c ∈ outer, m.Overlooks c) ∧
      IsFirst (fun c => c.service?.isSome) lookupFailed.chain (.service e) ∧
      m.reply (lookupFailed.under outer) = m.reply lookupFailed ∧
      ((m.reply lookupFailed).result.apply {}).status = (e.augment {}).status := by
  intro m e outer
  have houter : ∀ c ∈ outer, m.Overlooks c := by
    simp [outer, m, Overlooks, Cause.service?, CauseType.matches]
  have he : IsFirst (fun c => c.service?.isSome) lookupFailed.chain (.service e) :=
    ⟨rfl, [.application "LookupFailed" "lookup failed"], [.application "DiskError" "disk gone"],
      rfl, by simp [Cause.service?]⟩
  obtain ⟨-, hunder, happly⟩ := reply_decided m lookupFailed
  exact ⟨houter, he, hunder outer houter, (happly e he {}).1⟩

end Mapping

end Switchboard
