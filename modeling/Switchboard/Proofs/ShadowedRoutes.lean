import Switchboard.Proofs.ReachableRoutes

namespace Switchboard

/-- The ways to take a path apart: without the format of its last part, if there is one, and as it
stands. -/
def Path.readings (cs : List Char) : List (List (List Char)) :=
  match (segments cs).getLast?.bind splitFormat? with
  | none => [segments cs]
  | some (bare, _) => [(segments cs).dropLast ++ [bare], segments cs]

/-- What a segment wants of a part of a path. -/
def Segment.Takes : Segment → List Char → Prop
  | .literal text, raw => text = Path.decode raw
  | .parameter _, raw => raw ≠ []

namespace Pattern

theorem bind?_isSome_iff {segments : List Segment} {parts : List (List Char)} :
    (bind? segments parts).isSome = true ↔ List.Forall₂ Segment.Takes segments parts := by
  induction segments generalizing parts with
  | nil => cases parts <;> simp [bind?]
  | cons segment rest ih =>
    cases parts with
    | nil => cases segment <;> simp [bind?]
    | cons raw parts =>
      rw [List.forall₂_cons, ← ih]
      cases segment with
      | literal text =>
        by_cases htext : text = Path.decode raw
        · simp [bind?, Segment.Takes, ← htext]
        · simp [bind?, Segment.Takes, htext]
      | parameter name =>
        by_cases hraw : raw = []
        · simp [bind?, Segment.Takes, hraw]
        · simp [bind?, Segment.Takes, hraw]

/-- A pattern matches a path if its segments take the parts of one of its readings. -/
theorem matchesPath_iff {p : Pattern} {path : String} :
    p.matchesPath path = true ↔
      ∃ parts ∈ Path.readings path.toList, List.Forall₂ Segment.Takes p.segments parts := by
  simp only [← bind?_isSome_iff]
  unfold matchesPath match? Path.readings
  dsimp only
  cases (Path.segments path.toList).getLast?.bind Path.splitFormat? with
  | none => simp
  | some cut =>
    obtain ⟨bare, format⟩ := cut
    dsimp only
    cases hbind : bind? p.segments ((Path.segments path.toList).dropLast ++ [bare]) <;>
      simp [hbind]

/-- Every path that the pattern matches is matched by the other. -/
def Within (p q : Pattern) : Prop := ∀ path, p.matchesPath path = true → q.matchesPath path = true

/-- The pattern has an empty literal where the other has a placeholder. -/
def HasGapUnder (p q : Pattern) : Prop := (some "", none) ∈ p.shape.zip q.shape

instance (p q : Pattern) : Decidable (p.HasGapUnder q) := inferInstanceAs (Decidable (_ ∈ _))

section Cover

variable {mine theirs : List Segment} {value : String}

theorem takes_of_coveredBy (hcover : List.Forall₂ Segment.CoveredBy mine theirs)
    (hgap : (some "", none) ∉ (mine.map Segment.literal?).zip (theirs.map Segment.literal?))
    {parts : List (List Char)} (htakes : List.Forall₂ Segment.Takes mine parts) :
    List.Forall₂ Segment.Takes theirs parts := by
  induction hcover generalizing parts with
  | nil => exact htakes
  | @cons segment other rest others hsegment _ ih =>
    obtain ⟨raw, parts, hraw, hparts, rfl⟩ := List.forall₂_cons_left_iff.mp htakes
    have hothers := ih (List.not_mem_of_not_mem_cons hgap) hparts
    cases hsegment with
    | same text => exact .cons hraw hothers
    | placeholder _ name =>
      refine .cons ?_ hothers
      rintro rfl
      cases segment with
      | parameter _ => exact hraw rfl
      | literal text =>
        -- An empty part is taken by the empty literal alone, and that would be a gap.
        obtain rfl : text = "" := hraw
        exact List.ne_of_not_mem_cons hgap rfl

/-- At a gap, the literals of a pattern leave nothing for the placeholder of the other. -/
theorem not_takes_of_gap
    (hgap : (some "", none) ∈ (mine.map Segment.literal?).zip (theirs.map Segment.literal?)) :
    ¬ List.Forall₂ Segment.Takes theirs ((mine.map (·.textWith value)).map Percent.encode) := by
  intro htakes
  induction mine generalizing theirs with
  | nil => cases hgap
  | cons segment rest ih =>
    obtain ⟨other, others, hother, hothers, rfl⟩ := List.forall₂_cons_right_iff.mp htakes
    rcases List.mem_cons.mp hgap with hhere | hlater
    · obtain ⟨hsegment, hplace⟩ := Prod.mk.inj hhere
      cases segment with
      | parameter name => cases hsegment
      | literal text =>
        obtain rfl := Option.some.inj hsegment
        cases other with
        | literal text => cases hplace
        | parameter name => exact hother rfl
    · exact ih hlater hothers

end Cover

/-- Patterns that do not contain another one by one do not contain it between them: a path of its
own literals, with a text for its placeholders that is no literal of theirs, is left to it. -/
theorem exists_path_outside {template : String} {p : Pattern} (h : compile template = .ok p)
    {others : List Pattern}
    (hothers : ∀ q ∈ others, p.isShadowedBy q = true → p.HasGapUnder q) :
    ∃ path found, p.match? path = some found ∧ ∀ q ∈ others, q.match? path = none := by
  obtain ⟨value, hvalue, hfresh⟩ :=
    exists_fresh_text (others.flatMap fun q => q.segments.map (·.textWith ""))
  have htexts := map_textWith_ne hvalue (segments_ne_of_compile h)
  obtain ⟨params, hparams⟩ := bind?_textWith hvalue p.segments
  refine ⟨Path.ofTexts (p.segments.map (·.textWith value)), ⟨params, none⟩, ?_, ?_⟩
  · rw [match?_ofTexts p htexts, hparams]
    rfl
  · intro q hq
    rw [match?_ofTexts q htexts, Option.map_eq_none_iff, Option.eq_none_iff_forall_ne_some]
    intro bound hbound
    -- A pattern that took these parts would cover this one, and so take nothing at the gap.
    have hforeign : .literal value ∉ q.segments := fun hliteral =>
      hfresh (List.mem_flatMap.mpr ⟨q, hq, List.mem_map.mpr ⟨_, hliteral, rfl⟩⟩)
    have hgap := hothers q hq (isShadowedBy_iff.mpr (coveredBy_of_bind? hforeign hbound))
    exact not_takes_of_gap hgap (bind?_isSome_iff.mp (Option.isSome_of_eq_some hbound))

/-- One pattern lies within another exactly if the other covers it and leaves no gap. -/
theorem within_iff {template : String} {p q : Pattern} (h : compile template = .ok p) :
    p.Within q ↔ p.isShadowedBy q = true ∧ ¬ p.HasGapUnder q := by
  constructor
  · intro hwithin
    by_contra hnot
    have hgap : ∀ other ∈ [q], p.isShadowedBy other = true → p.HasGapUnder other := by
      intro other hother hshadow
      obtain rfl := List.mem_singleton.mp hother
      by_contra hnone
      exact hnot ⟨hshadow, hnone⟩
    obtain ⟨path, found, hfound, houtside⟩ := exists_path_outside h hgap
    have hmatches := hwithin path (Option.isSome_of_eq_some hfound)
    rw [matchesPath, houtside q (List.mem_singleton.mpr rfl)] at hmatches
    cases hmatches
  · rintro ⟨hshadow, hgap⟩ path hpath
    obtain ⟨parts, hparts, htakes⟩ := matchesPath_iff.mp hpath
    have hcover := isShadowedBy_iff.mp hshadow
    exact matchesPath_iff.mpr ⟨parts, hparts, takes_of_coveredBy hcover hgap htakes⟩

end Pattern

theorem Method.eq_of_name {m n : Method} (h : m.name = n.name) : m = n := by
  cases m
  cases n
  simpa using h

variable {H : Type}

namespace Route

/-- What no two routes of a table share. -/
def key (route : Route H) : Method × List (Option String) := (route.method, route.pattern.shape)

/-- A route of the same method whose pattern has the literals of the other, or placeholders for
them. -/
structure Covers (earlier route : Route H) : Prop where
  method : earlier.method = route.method
  pattern : route.pattern.isShadowedBy earlier.pattern = true

end Route

namespace Table

variable {t : Table H} {d : Defaults} {registrations : List (Registration H)}
  {done : Logged (Table H)}

theorem keys_nodup (h : addAll {} (registrations.map d.apply) = .ok done) :
    (done.result.routes.map Route.key).Nodup := by
  rcases addAll_cases (t := {}) (d := d) .nil Registration.sealable_nil registrations with
    ⟨made, hmade, hsealable, hroutes⟩ | ⟨e, -, -, -, hrefused, -⟩
  · obtain rfl := Except.ok.inj (hmade.symm.trans h)
    refine List.pairwise_map.mpr (pairwise_of_rel hroutes ?_ hsealable.shapes)
    intro r route r' route' hr hr' hclash hkey
    obtain ⟨hmethod, hshape⟩ := Prod.mk.inj hkey
    rw [hr'.clashes hr, hmethod, hr'.method, Pattern.sameShape_iff.mpr hshape] at hclash
    simp at hclash
  · rw [hrefused] at h
    cases h

theorem cut_unique {routes before after before' after' : List (Route H)} {route route' : Route H}
    (hkeys : (routes.map Route.key).Nodup) (h : routes = before ++ route :: after)
    (h' : routes = before' ++ route' :: after') (hkey : route.key = route'.key) :
    before = before' ∧ route = route' := by
  have hin : route ∈ routes := by simp [h]
  have hin' : route' ∈ routes := by simp [h']
  obtain rfl := List.inj_on_of_nodup_map hkeys hin hin' hkey
  have hnodup := hkeys.of_map
  rw [h, List.nodup_middle, List.nodup_cons, List.mem_append, not_or] at hnodup
  obtain ⟨⟨hbefore, hafter⟩, -⟩ := hnodup
  obtain ⟨hsame, -, -⟩ := (List.append_cons_inj_of_notMem hbefore hafter).mp (h.symm.trans h')
  exact ⟨hsame, rfl⟩

theorem eq_of_mem_shadowNotice {route : Route H} {event : Event}
    (h : event ∈ t.shadowNotice route) :
    ∃ earlier ∈ t.routes, earlier.Covers route ∧
      event = .shadowed route.method.name route.pattern.template earlier.pattern.template := by
  unfold shadowNotice at h
  split at h
  next earlier hfirst =>
    have hlisted := List.mem_of_find?_eq_some hfirst
    rw [routesFor_eq, List.mem_filter, decide_eq_true_eq] at hlisted
    exact ⟨earlier, hlisted.1, ⟨hlisted.2, by simpa using List.find?_some hfirst⟩,
      List.mem_singleton.mp h⟩
  next => cases h

theorem exists_of_mem_notices (h : t.addAll registrations = .ok done) {event : Event}
    (hevent : event ∈ done.events) :
    ∃ before route after, ∃ earlier ∈ before, done.result.routes = before ++ route :: after ∧
      earlier.Covers route ∧
      event = .shadowed route.method.name route.pattern.template earlier.pattern.template := by
  induction registrations generalizing t done with
  | nil =>
    obtain rfl := Except.ok.inj h
    cases hevent
  | cons r rest ih =>
    obtain ⟨last, inner, hinner, rfl⟩ := addAll_cons_eq_ok h
    rcases List.mem_append.mp hevent with hnow | hlater
    · obtain ⟨earlier, hearlier, hcovers, heq⟩ := eq_of_mem_shadowNotice hnow
      obtain ⟨more, hroutes, -⟩ := mem_notices hinner
      exact ⟨t.routes, last, more, earlier, hearlier,
        hroutes.trans (List.append_assoc ..), hcovers, heq⟩
    · have hrest := ih hinner hlater
      exact hrest

section Sealed

variable {before after : List (Route H)} {route : Route H}

theorem noticed_iff (h : build d registrations = .ok done)
    (hsplit : done.result.routes = before ++ route :: after) :
    (∃ template, .shadowed route.method.name route.pattern.template template ∈ done.events) ↔
      ∃ earlier ∈ before, earlier.Covers route := by
  obtain ⟨inner, hinner, rfl⟩ := Except.map_eq_ok h
  constructor
  · rintro ⟨template, hevent⟩
    have hnotice : Event.shadowed route.method.name route.pattern.template template ∈
        inner.events := by simpa using hevent
    obtain ⟨before', route', after', earlier, hearlier, hsplit', hcovers, heq⟩ :=
      exists_of_mem_notices hinner hnotice
    obtain ⟨hname, htemplate, -⟩ := Event.shadowed.inj heq
    have hin : route ∈ inner.result.routes := by simp [show inner.result.routes = _ from hsplit]
    have hin' : route' ∈ inner.result.routes := by simp [hsplit']
    obtain ⟨r, -, hr⟩ := exists_registration hinner hin
    obtain ⟨r', -, hr'⟩ := exists_registration hinner hin'
    -- The notice tells the method and the template, and these make the place in the table.
    have hpattern : route.pattern = route'.pattern := by
      have hcompile := hr.compile
      rw [← hr.template, htemplate, hr'.template, hr'.compile] at hcompile
      exact (Except.ok.inj hcompile).symm
    have hkey : route.key = route'.key := by
      rw [Route.key, Route.key, Method.eq_of_name hname, hpattern]
    obtain ⟨rfl, rfl⟩ := cut_unique (keys_nodup hinner) hsplit hsplit' hkey
    exact ⟨earlier, hearlier, hcovers⟩
  · rintro ⟨earlier, hearlier, hcovers⟩
    obtain ⟨more, hroutes, hnoticed⟩ := mem_notices hinner
    have hmore : more = before ++ route :: after := hroutes.symm.trans hsplit
    obtain ⟨template, hnotice⟩ :=
      hnoticed before route after hmore earlier hearlier hcovers.method hcovers.pattern
    exact ⟨template, List.mem_append_left _ hnotice⟩

/-- A route is the answer to some path exactly if each that covers it from before leaves a gap. -/
theorem selected_iff (h : build d registrations = .ok done)
    (hsplit : done.result.routes = before ++ route :: after) :
    (∃ path found, done.result.resolve route.method path = .ok ⟨route, found⟩) ↔
      ∀ earlier ∈ before, earlier.Covers route → route.pattern.HasGapUnder earlier.pattern := by
  obtain ⟨inner, hinner, rfl⟩ := Except.map_eq_ok h
  have hin : route ∈ inner.result.routes := by simp [show inner.result.routes = _ from hsplit]
  obtain ⟨r, -, hbecomes⟩ := exists_registration hinner hin
  constructor
  · rintro ⟨path, found, hresolve⟩ earlier hearlier hcovers
    obtain ⟨before', after', hsplit', hunmatched, -, hfound⟩ := resolve_eq_ok_iff.mp hresolve
    obtain ⟨rfl, -⟩ := cut_unique (keys_nodup hinner) hsplit hsplit' rfl
    by_contra hgap
    have hwithin := (Pattern.within_iff hbecomes.compile).mpr ⟨hcovers.pattern, hgap⟩
    have hmatches := hwithin path (Option.isSome_of_eq_some hfound)
    rw [Pattern.matchesPath, hunmatched earlier hearlier hcovers.method] at hmatches
    cases hmatches
  · intro hgaps
    have hrivals : ∀ q ∈ (before.filter (·.method = route.method)).map (·.pattern),
        route.pattern.isShadowedBy q = true → route.pattern.HasGapUnder q := by
      intro q hq hshadow
      obtain ⟨earlier, hearlier, rfl⟩ := List.mem_map.mp hq
      rw [List.mem_filter, decide_eq_true_eq] at hearlier
      exact hgaps earlier hearlier.1 ⟨hearlier.2, hshadow⟩
    obtain ⟨path, found, hfound, houtside⟩ :=
      Pattern.exists_path_outside hbecomes.compile hrivals
    refine ⟨path, found, resolve_eq_ok_iff.mpr ⟨before, after, hsplit, ?_, rfl, hfound⟩⟩
    intro earlier hearlier hmethod
    exact houtside _ (List.mem_map.mpr
      ⟨earlier, List.mem_filter.mpr ⟨hearlier, by simpa using hmethod⟩, rfl⟩)

end Sealed

/-- A pattern lies within one that covers it exactly if there is no gap. A notice is given of a
route exactly if one before it covers it, and the route is the answer to some path exactly if each
one that does leaves a gap. -/
theorem shadowing_sound_iff :
    (∀ (template : String) (p q : Pattern), Pattern.compile template = .ok p →
      p.isShadowedBy q = true → (p.Within q ↔ ¬ p.HasGapUnder q)) ∧
    ∀ (d : Defaults) (registrations : List (Registration H)) (done : Logged (Table H)),
      build d registrations = .ok done →
      ∀ (before : List (Route H)) (route : Route H) (after : List (Route H)),
        done.result.routes = before ++ route :: after →
        ((∃ template, .shadowed route.method.name route.pattern.template template ∈ done.events) ↔
          ∃ earlier ∈ before, earlier.Covers route) ∧
        ((∃ path found, done.result.resolve route.method path = .ok ⟨route, found⟩) ↔
          ∀ earlier ∈ before, earlier.Covers route →
            route.pattern.HasGapUnder earlier.pattern) := by
  constructor
  · intro template p q hcompile hshadow
    rw [Pattern.within_iff hcompile, and_iff_right hshadow]
  · intro d registrations done hbuild before route after hsplit
    exact ⟨noticed_iff hbuild hsplit, selected_iff hbuild hsplit⟩

end Table

/-- The second of these has an empty literal where the first has a placeholder. -/
def gapped : List (Registration Unit) :=
  ["/books/{id}/new", "/books//new"].map fun template => { template, method := .get, handler := () }

/-- The second is covered and noticed, and is the answer to its own text all the same. -/
theorem gapped_selected : ∃ done first second, Table.build {} gapped = .ok done ∧
    done.result.routes = [first, second] ∧
    second.pattern.matchesPath "/books//new" = true ∧
    first.pattern.matchesPath "/books//new" = false ∧
    ¬ second.pattern.Within first.pattern ∧
    (∃ template,
      .shadowed second.method.name second.pattern.template template ∈ done.events) ∧
    ∃ path found, done.result.resolve second.method path = .ok ⟨second, found⟩ := by
  have hsealed : (Table.build {} gapped).toOption.map (fun done =>
      done.result.routes.map fun route => (route.method, route.pattern)) =
        some [(.get, ⟨"/books/{id}/new", "/books/{id}/new",
            [.literal "books", .parameter "id", .literal "new"], false⟩),
          (.get, ⟨"/books//new", "/books//new",
            [.literal "books", .literal "", .literal "new"], false⟩)] := by
    decide +kernel
  cases hbuild : Table.build {} gapped with
  | error e =>
    rw [hbuild] at hsealed
    cases hsealed
  | ok done =>
    rw [hbuild] at hsealed
    obtain ⟨first, rest, hroutes, hfirst, hrest⟩ :=
      List.map_eq_cons_iff.mp (Option.some.inj hsealed)
    obtain ⟨second, hrest, hsecond⟩ := List.map_eq_singleton_iff.mp hrest
    rw [hrest] at hroutes
    obtain ⟨hfirstMethod, hfirst⟩ := Prod.mk.inj hfirst
    obtain ⟨hsecondMethod, hsecond⟩ := Prod.mk.inj hsecond
    have hcovers : first.Covers second :=
      ⟨hfirstMethod.trans hsecondMethod.symm, by rw [hfirst, hsecond]; decide⟩
    have hgap : second.pattern.HasGapUnder first.pattern := by
      rw [hfirst, hsecond]
      decide
    have hcompile : Pattern.compile "/books//new" = .ok second.pattern := by
      rw [hsecond]
      rfl
    obtain ⟨hwithin, htable⟩ := Table.shadowing_sound_iff (H := Unit)
    obtain ⟨hnoticed, hselected⟩ :=
      htable {} gapped done hbuild [first] second [] hroutes
    refine ⟨done, first, second, rfl, hroutes, ?_, ?_, ?_, ?_, ?_⟩
    · rw [hsecond]
      decide +kernel
    · rw [hfirst]
      decide +kernel
    · rw [hwithin _ _ _ hcompile hcovers.pattern, not_not]
      exact hgap
    · exact hnoticed.mpr ⟨first, List.mem_singleton.mpr rfl, hcovers⟩
    · refine hselected.mpr fun earlier hearlier _ => ?_
      obtain rfl := List.mem_singleton.mp hearlier
      exact hgap

end Switchboard
