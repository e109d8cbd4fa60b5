import Mathlib.Data.Fintype.EquivFin
import Switchboard.Proofs.PatternPaths
import Switchboard.Proofs.SealedTable

namespace Switchboard

theorem exists_fresh_text (texts : List String) : ∃ text, text ≠ "" ∧ text ∉ texts := by
  obtain ⟨text, htext⟩ := Infinite.exists_notMem_finset ("" :: texts).toFinset
  rw [List.mem_toFinset] at htext
  exact ⟨text, List.ne_of_not_mem_cons htext, List.not_mem_of_not_mem_cons htext⟩

namespace Pattern

variable {value : String}

theorem bind?_textWith (hvalue : value ≠ "") (segments : List Segment) :
    ∃ params, bind? segments ((segments.map (·.textWith value)).map Percent.encode) =
      some params := by
  have htexts : segments.map (·.textWith value) = segments.map (·.textOf fun _ => value) :=
    List.map_congr_left fun segment _ => by cases segment <;> rfl
  rw [htexts]
  exact ⟨_, bind?_written (spells_map_encode _) fun _ _ => hvalue⟩

theorem map_textWith_ne (hvalue : value ≠ "") {segments : List Segment}
    (h : segments ≠ [.literal ""]) : segments.map (·.textWith value) ≠ [""] := by
  intro hsingle
  obtain ⟨segment, rfl, htext⟩ := List.map_eq_singleton_iff.mp hsingle
  cases segment with
  | literal text => exact h (by rw [show text = "" from htext])
  | parameter name => exact hvalue htext

/-- Where a path has the literals of a pattern and, for its placeholders, a text that is no literal
of another, the other matches only if it covers the pattern. -/
theorem coveredBy_of_bind? {mine theirs : List Segment} {params : List (String × String)}
    (hfresh : .literal value ∉ theirs)
    (h : bind? theirs ((mine.map (·.textWith value)).map Percent.encode) = some params) :
    List.Forall₂ Segment.CoveredBy mine theirs := by
  induction mine generalizing theirs params with
  | nil =>
    cases theirs with
    | nil => exact .nil
    | cons other others => cases other <;> cases h
  | cons segment rest ih =>
    rw [List.map_cons, List.map_cons] at h
    cases theirs with
    | nil => cases h
    | cons other others =>
      have hothers := List.not_mem_of_not_mem_cons hfresh
      cases other with
      | parameter name =>
        unfold bind? at h
        split at h
        next => cases h
        next =>
          obtain ⟨inner, hinner, -⟩ := Option.map_eq_some_iff.mp h
          exact .cons (.placeholder segment name) (ih hothers hinner)
      | literal text =>
        unfold bind? at h
        split at h
        next htext =>
          obtain rfl := htext.trans (Percent.decode_encode (segment.textWith value))
          cases segment with
          | literal text => exact .cons (.same text) (ih hothers h)
          | parameter name => exact absurd rfl (List.ne_of_not_mem_cons hfresh)
        next => cases h

end Pattern

namespace Table

variable {H : Type} {t : Table H}

theorem add_eq_ok {r : Registration H} {added : Logged (Table H)} (h : t.add r = .ok added) :
    ∃ route, added = ⟨t.push route, t.shadowNotice route⟩ := by
  unfold add at h
  split at h
  next => cases h
  next route _ =>
    split at h
    next => cases h
    next =>
      split at h
      next => cases h
      next => exact ⟨route, (Except.ok.inj h).symm⟩

theorem addAll_cons_eq_ok {r : Registration H} {rest : List (Registration H)}
    {done : Logged (Table H)} (h : t.addAll (r :: rest) = .ok done) :
    ∃ route inner, (t.push route).addAll rest = .ok inner ∧
      done = inner.after (t.shadowNotice route) := by
  unfold addAll at h
  split at h
  next => cases h
  next hadd =>
    obtain ⟨route, hadded⟩ := add_eq_ok hadd
    obtain ⟨rfl, rfl⟩ := Logged.mk.inj hadded
    split at h
    next => cases h
    next inner hinner => exact ⟨route, inner, hinner, (Except.ok.inj h).symm⟩

theorem mem_shadowNotice {route earlier : Route H} (hmem : earlier ∈ t.routes)
    (hmethod : earlier.method = route.method)
    (hshadow : route.pattern.isShadowedBy earlier.pattern = true) :
    ∃ template, .shadowed route.method.name route.pattern.template template ∈
      t.shadowNotice route := by
  have hlisted : earlier ∈ t.routesFor route.method := by
    rw [routesFor_eq]
    exact List.mem_filter.mpr ⟨hmem, by simpa using hmethod⟩
  unfold shadowNotice
  split
  next first _ => exact ⟨_, List.mem_singleton.mpr rfl⟩
  next hnone => exact absurd hshadow (List.find?_eq_none.mp hnone earlier hlisted)

/-- Every route behind one that covers it has been noticed. -/
theorem mem_notices {registrations : List (Registration H)} {done : Logged (Table H)}
    (h : t.addAll registrations = .ok done) :
    ∃ more, done.result.routes = t.routes ++ more ∧
      ∀ before route after, more = before ++ route :: after →
        ∀ earlier ∈ t.routes ++ before, earlier.method = route.method →
          route.pattern.isShadowedBy earlier.pattern = true →
          ∃ template,
            .shadowed route.method.name route.pattern.template template ∈ done.events := by
  induction registrations generalizing t done with
  | nil =>
    obtain rfl := Except.ok.inj h
    exact ⟨[], (List.append_nil _).symm, by simp⟩
  | cons r rest ih =>
    obtain ⟨last, inner, hinner, rfl⟩ := addAll_cons_eq_ok h
    obtain ⟨more, hroutes, hnoticed⟩ := ih hinner
    refine ⟨last :: more, hroutes.trans (List.append_assoc ..), ?_⟩
    intro before route after hsplit earlier hearlier hmethod hshadow
    cases before with
    | nil =>
      obtain ⟨rfl, rfl⟩ := List.cons.inj hsplit
      rw [List.append_nil] at hearlier
      obtain ⟨template, hnotice⟩ := mem_shadowNotice hearlier hmethod hshadow
      exact ⟨template, List.mem_append_left _ hnotice⟩
    | cons first before =>
      obtain ⟨rfl, hmore⟩ := List.cons.inj hsplit
      have hstill : earlier ∈ (t.push last).routes ++ before := by
        rwa [show (t.push last).routes = t.routes ++ [last] from rfl, List.append_assoc]
      obtain ⟨template, hnotice⟩ :=
        hnoticed before route after hmore earlier hstill hmethod hshadow
      exact ⟨template, List.mem_append_right _ hnotice⟩

theorem exists_registration {d : Defaults} {registrations : List (Registration H)}
    {done : Logged (Table H)} (h : addAll {} (registrations.map d.apply) = .ok done)
    {route : Route H} (hroute : route ∈ done.result.routes) :
    ∃ r ∈ registrations, r.Becomes d route := by
  rcases addAll_cases (t := {}) (d := d) .nil Registration.sealable_nil registrations with
    ⟨made, hmade, -, hroutes⟩ | ⟨e, -, -, -, hrefused, -⟩
  · obtain rfl := Except.ok.inj (hmade.symm.trans h)
    exact exists_of_mem_right hroutes hroute
  · rw [hrefused] at h
    cases h

/-- A route of which no notice was given is the answer to some path. -/
theorem exists_path_of_unnoticed {d : Defaults} {registrations : List (Registration H)}
    {done : Logged (Table H)} (h : build d registrations = .ok done) {route : Route H}
    (hroute : route ∈ done.result.routes)
    (hunnoticed : ∀ template,
      .shadowed route.method.name route.pattern.template template ∉ done.events) :
    ∃ path found, done.result.resolve route.method path = .ok ⟨route, found⟩ := by
  obtain ⟨inner, hinner, rfl⟩ := Except.map_eq_ok h
  obtain ⟨r, -, hbecomes⟩ := exists_registration hinner hroute
  obtain ⟨value, hvalue, hfresh⟩ := exists_fresh_text
    (inner.result.routes.flatMap fun other => other.pattern.segments.map (·.textWith ""))
  have htexts := Pattern.map_textWith_ne hvalue (Pattern.segments_ne_of_compile hbecomes.compile)
  obtain ⟨params, hparams⟩ := Pattern.bind?_textWith hvalue route.pattern.segments
  obtain ⟨before, after, hsplit⟩ := List.append_of_mem hroute
  refine ⟨Path.ofTexts (route.pattern.segments.map (·.textWith value)), ⟨params, none⟩,
    resolve_eq_ok_iff.mpr ⟨before, after, hsplit, ?_, rfl, ?_⟩⟩
  · intro earlier hearlier hmethod
    rw [Pattern.match?_ofTexts _ htexts, Option.map_eq_none_iff, Option.eq_none_iff_forall_ne_some]
    intro bound hbound
    -- An earlier route that matched this path would cover the route, which would have been noticed.
    have hin : earlier ∈ inner.result.routes := by
      rw [show inner.result.routes = _ from hsplit]
      exact List.mem_append_left _ hearlier
    have hforeign : .literal value ∉ earlier.pattern.segments := fun hliteral =>
      hfresh (List.mem_flatMap.mpr ⟨earlier, hin, List.mem_map.mpr ⟨_, hliteral, rfl⟩⟩)
    have hshadow := Pattern.isShadowedBy_iff.mpr (Pattern.coveredBy_of_bind? hforeign hbound)
    obtain ⟨more, hroutes, hnoticed⟩ := mem_notices hinner
    have hmore : more = before ++ route :: after := hroutes.symm.trans hsplit
    obtain ⟨template, hnotice⟩ :=
      hnoticed before route after hmore earlier hearlier hmethod hshadow
    exact hunnoticed template (List.mem_append_left _ hnotice)
  · show route.pattern.match? _ = _
    rw [Pattern.match?_ofTexts _ htexts, hparams]
    rfl

end Table

/-- The last of these is crossed by both others, and covered by neither. -/
def crossing : List (Registration Unit) :=
  ["/books/{id}", "/{shelf}/new", "/{shelf}/{id}"].map fun template =>
    { template, method := .get, handler := () }

theorem crossing_path : ∃ done, Table.build {} crossing = .ok done ∧
    ∃ route ∈ done.result.routes, route.pattern.template = "/{shelf}/{id}" ∧
      ∃ path found, done.result.resolve route.method path = .ok ⟨route, found⟩ := by
  have hsealed : (Table.build {} crossing).toOption.map (fun done =>
      (done.events, done.result.routes.map (·.pattern.template))) =
        some ([.tableSealed 3], ["/books/{id}", "/{shelf}/new", "/{shelf}/{id}"]) := by
    decide +kernel
  cases hbuild : Table.build {} crossing with
  | error e =>
    rw [hbuild] at hsealed
    cases hsealed
  | ok done =>
    rw [hbuild] at hsealed
    obtain ⟨hevents, htemplates⟩ := Prod.mk.inj (Option.some.inj hsealed)
    have hmem : "/{shelf}/{id}" ∈ done.result.routes.map (·.pattern.template) := by
      rw [htemplates]
      simp
    obtain ⟨route, hroute, htemplate⟩ := List.mem_map.mp hmem
    exact ⟨done, rfl, route, hroute, htemplate,
      Table.exists_path_of_unnoticed hbuild hroute (by rw [hevents]; simp)⟩

end Switchboard
