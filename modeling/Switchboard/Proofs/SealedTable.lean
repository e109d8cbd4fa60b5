import Mathlib.Data.List.DropRight
import Mathlib.Data.List.Pairwise
import Mathlib.Data.List.TakeWhile
import Switchboard.Proofs.PairedLists
import Switchboard.Proofs.PatternShape
import Switchboard.Proofs.RouteResolution
import Switchboard.Text.Blank

namespace Switchboard

theorem Text.trim_eq_empty_iff (s : String) : trim s = "" ↔ s.toList.all isBlank = true := by
  unfold trim trimList
  rw [← String.toList_inj, String.toList_ofList, String.toList_empty, List.reverse_eq_nil_iff,
    List.dropWhile_eq_nil_iff, List.all_eq_true]
  constructor
  · intro h
    -- What is left behind the leading blanks begins with none, so it is empty.
    have hrest : s.toList.dropWhile isBlank = [] := by
      rw [← List.dropWhile_idempotent, List.dropWhile_eq_nil_iff]
      exact fun c hc => h c (List.mem_reverse.mpr hc)
    exact List.dropWhile_eq_nil_iff.mp hrest
  · intro h c hc
    exact h c ((List.dropWhile_suffix _).subset (List.mem_reverse.mp hc))

theorem Except.map_eq_ok {ε α β : Type} {f : α → β} {x : Except ε α} {b : β}
    (h : x.map f = .ok b) : ∃ a, x = .ok a ∧ f a = b := by
  cases x with
  | error e => cases h
  | ok a => exact ⟨a, rfl, Except.ok.inj h⟩

theorem Pattern.template_of_compile {template : String} {p : Pattern}
    (h : compile template = .ok p) : p.template = template := by
  unfold compile at h
  dsimp only at h
  split at h
  next => cases h
  next =>
    obtain ⟨segments, -, rfl⟩ := Except.map_eq_ok h
    rfl

variable {H : Type}

namespace Registration

/-- The route that a registration becomes where the defaults fill in what it leaves open. -/
def Becomes (d : Defaults) (r : Registration H) (route : Route H) : Prop :=
  (d.apply r).toRoute = .ok route

/-- Whether two registrations are for one method and for one shape of path. -/
def clashes (a b : Registration H) : Bool :=
  match Pattern.compile a.template, Pattern.compile b.template with
  | .ok p, .ok q => a.method = b.method && p.shape = q.shape
  | _, _ => false

/-- Whether a registration gives its route the name. Blank names are not given. -/
def gives (r : Registration H) (name : String) : Bool :=
  r.name = some name && !name.toList.all Text.isBlank

/-- What can be wrong with a registration behind others, the first reason that applies. -/
inductive Faulty (before : List (Registration H)) (r : Registration H) : TableError → Prop where
  | pattern {fault : PatternError} : Pattern.compile r.template = .error fault →
    Faulty before r (.pattern r.method r.template fault)
  | duplicateRoute {p : Pattern} {earlier : Registration H} :
    Pattern.compile r.template = .ok p → before.find? (·.clashes r) = some earlier →
    Faulty before r (.duplicateRoute r.method r.template earlier.template)
  | duplicateName {p : Pattern} {name : String} :
    Pattern.compile r.template = .ok p → before.find? (·.clashes r) = none →
    r.gives name = true → before.any (·.gives name) = true →
    Faulty before r (.duplicateName name)

/-- A registration that can follow others. -/
structure Fits (before : List (Registration H)) (r : Registration H) : Prop where
  compiles : ∃ p, Pattern.compile r.template = .ok p
  shape : ∀ earlier ∈ before, earlier.clashes r = false
  name : ∀ earlier ∈ before, ∀ name, earlier.gives name = true → r.gives name = false

/-- Registrations whose templates all compile, no two of which are for one method and one shape of
path, and no two of which give one name. -/
structure Sealable (registrations : List (Registration H)) : Prop where
  compiles : ∀ r ∈ registrations, ∃ p, Pattern.compile r.template = .ok p
  shapes : registrations.Pairwise fun a b => a.clashes b = false
  names : registrations.Pairwise fun a b => ∀ name, a.gives name = true → b.gives name = false

section Becomes

variable {d : Defaults} {r : Registration H} {route : Route H}

theorem Becomes.compile (h : r.Becomes d route) :
    Pattern.compile r.template = .ok route.pattern := by
  obtain ⟨pattern, hpattern, rfl⟩ := Except.map_eq_ok h
  exact hpattern

theorem Becomes.method (h : r.Becomes d route) : route.method = r.method := by
  obtain ⟨pattern, -, rfl⟩ := Except.map_eq_ok h
  rfl

theorem Becomes.template (h : r.Becomes d route) : route.pattern.template = r.template :=
  Pattern.template_of_compile h.compile

theorem Becomes.name_iff (h : r.Becomes d route) (name : String) :
    route.name = some name ↔ r.gives name = true := by
  obtain ⟨pattern, -, rfl⟩ := Except.map_eq_ok h
  show r.name.filter _ = some name ↔ _
  unfold gives
  rw [Option.filter_eq_some_iff, Bool.and_eq_true, decide_eq_true_eq, decide_eq_true_eq, Ne,
    Text.trim_eq_empty_iff, Bool.not_eq_true', Bool.not_eq_true]

theorem Becomes.clashes {other : Registration H} {otherRoute : Route H}
    (h : r.Becomes d route) (ho : other.Becomes d otherRoute) :
    other.clashes r =
      (decide (otherRoute.method = r.method) && otherRoute.pattern.sameShape route.pattern) := by
  unfold Registration.clashes
  have hshape : otherRoute.pattern.sameShape route.pattern =
      decide (otherRoute.pattern.shape = route.pattern.shape) := by
    rw [Bool.eq_iff_iff, Pattern.sameShape_iff, decide_eq_true_eq]
  rw [h.compile, ho.compile, ho.method, hshape]

end Becomes

section Sealable

variable {before : List (Registration H)} {r : Registration H}

theorem sealable_nil : Sealable ([] : List (Registration H)) :=
  ⟨nofun, .nil, .nil⟩

theorem sealable_append_iff : Sealable (before ++ [r]) ↔ Sealable before ∧ r.Fits before := by
  constructor
  · rintro ⟨hcompiles, hshapes, hnames⟩
    obtain ⟨hshapes, -, hshape⟩ := List.pairwise_append.mp hshapes
    obtain ⟨hnames, -, hname⟩ := List.pairwise_append.mp hnames
    exact ⟨⟨fun a ha => hcompiles a (List.mem_append_left _ ha), hshapes, hnames⟩,
      hcompiles r (by simp), fun a ha => hshape a ha r (by simp),
      fun a ha => hname a ha r (by simp)⟩
  · rintro ⟨⟨hcompiles, hshapes, hnames⟩, hcompile, hshape, hname⟩
    refine ⟨?_, List.pairwise_append.mpr ⟨hshapes, List.pairwise_singleton _ _, ?_⟩,
      List.pairwise_append.mpr ⟨hnames, List.pairwise_singleton _ _, ?_⟩⟩
    · intro a ha
      rcases List.mem_append.mp ha with hin | hlast
      · exact hcompiles a hin
      · obtain rfl := List.mem_singleton.mp hlast
        exact hcompile
    · intro a ha b hb
      obtain rfl := List.mem_singleton.mp hb
      exact hshape a ha
    · intro a ha b hb
      obtain rfl := List.mem_singleton.mp hb
      exact hname a ha

theorem Sealable.of_append {after : List (Registration H)} (h : Sealable (before ++ after)) :
    Sealable before :=
  ⟨fun a ha => h.compiles a (List.mem_append_left _ ha), (List.pairwise_append.mp h.shapes).1,
    (List.pairwise_append.mp h.names).1⟩

theorem Faulty.not_fits {e : TableError} (h : r.Faulty before e) : ¬ r.Fits before := by
  rintro ⟨⟨p, hcompile⟩, hshape, hname⟩
  cases h with
  | pattern hfault =>
    rw [hcompile] at hfault
    cases hfault
  | duplicateRoute _ hearlier =>
    have hclash := List.find?_some hearlier
    rw [hshape _ (List.mem_of_find?_eq_some hearlier)] at hclash
    cases hclash
  | @duplicateName _ name _ _ hgives hany =>
    obtain ⟨earlier, hmem, hearlier⟩ := List.any_eq_true.mp hany
    rw [hname earlier hmem name hearlier] at hgives
    cases hgives

end Sealable

end Registration

open Registration

namespace Table

variable {d : Defaults}

/-- What a table made of registrations holds: a route for each of them, in their order, and views
that agree with these routes. -/
structure Holds (t : Table H) (d : Defaults) (registrations : List (Registration H)) : Prop where
  routes : List.Forall₂ (Becomes d) registrations t.routes
  routesFor (method : Method) : t.routesFor method = t.routes.filter (·.method = method)
  methods (method : Method) : method ∈ t.methods ↔ ∃ route ∈ t.routes, route.method = method
  methods_nodup : t.methods.Nodup
  methods_ordered : t.methods.Pairwise fun m n => t.firstPlace m < t.firstPlace n
  named (name : String) (route : Route H) :
    t.named? name = some route ↔ route ∈ t.routes ∧ route.name = some name
  names_unique : t.routes.Pairwise fun a b => ∀ name, a.name = some name → b.name ≠ some name

section Step

variable {t : Table H} {before : List (Registration H)} {r : Registration H}

/-- The earliest registration that clashes stands where the earliest route of one shape does. -/
theorem find?_clashes (h : List.Forall₂ (Becomes d) before t.routes) {route : Route H}
    (hr : r.Becomes d route) :
    Option.Rel (Becomes d) (before.find? (·.clashes r))
      ((t.routesFor r.method).find? fun earlier => earlier.pattern.sameShape route.pattern) := by
  rw [routesFor_eq, List.find?_filter]
  refine find?_rel h fun other otherRoute ho => ?_
  rw [hr.clashes ho]
  simp

theorem knows_eq_any (h : List.Forall₂ (Becomes d) before t.routes) (name : String) :
    t.knows name = before.any (·.gives name) := by
  have hany : before.any (·.gives name) = t.routes.any (·.name = some name) := by
    refine any_eq_of_rel h fun other route ho => ?_
    rw [Bool.eq_iff_iff, ← ho.name_iff, decide_eq_true_eq]
  rw [hany, Bool.eq_iff_iff, knows_iff, List.any_eq_true]
  simp

/-- A registration is refused for its fault, or fits and becomes the last route. -/
theorem add_cases (h : List.Forall₂ (Becomes d) before t.routes) (r : Registration H) :
    (∃ e, t.add (d.apply r) = .error e ∧ r.Faulty before e.result) ∨
      ∃ route, r.Becomes d route ∧ r.Fits before ∧
        t.add (d.apply r) = .ok ⟨t.push route, t.shadowNotice route⟩ := by
  cases hroute : (d.apply r).toRoute with
  | error fault =>
    have hcompile : Pattern.compile r.template = .error fault := by
      unfold toRoute at hroute
      cases hpattern : Pattern.compile (d.apply r).template with
      | error other =>
        rw [hpattern] at hroute
        exact hpattern.trans (congrArg _ (Except.error.inj hroute))
      | ok p =>
        rw [hpattern] at hroute
        cases hroute
    refine .inl ⟨.silent _, ?_, .pattern hcompile⟩
    unfold add
    rw [hroute]
    rfl
  | ok route =>
    have hbecomes : r.Becomes d route := hroute
    have hclash := find?_clashes h hbecomes
    unfold add
    rw [hroute]
    dsimp only
    rw [show (d.apply r).method = r.method from rfl,
      show (d.apply r).template = r.template from rfl]
    generalize hfirst : before.find? (·.clashes r) = first,
      (t.routesFor r.method).find? (fun earlier => earlier.pattern.sameShape route.pattern) =
        found at hclash ⊢
    cases hclash with
    | @some earlier earlierRoute hearlier =>
      refine .inl ⟨.silent _, ?_, .duplicateRoute hbecomes.compile hfirst⟩
      rw [← hearlier.template]
    | none =>
      dsimp only
      cases hname : route.name.filter t.knows with
      | some name =>
        obtain ⟨hgiven, hknown⟩ := Option.filter_eq_some_iff.mp hname
        rw [knows_eq_any h] at hknown
        exact .inl ⟨_, rfl, .duplicateName hbecomes.compile hfirst
          ((hbecomes.name_iff name).mp hgiven) hknown⟩
      | none =>
        refine .inr ⟨route, hbecomes, ⟨⟨_, hbecomes.compile⟩, ?_, ?_⟩, rfl⟩
        · intro earlier hearlier
          simpa using List.find?_eq_none.mp hfirst earlier hearlier
        · intro earlier hearlier name hgives
          by_contra hsame
          have hgiven := (hbecomes.name_iff name).mpr (by simpa using hsame)
          have hunknown := Option.filter_eq_none_iff.mp hname name hgiven
          rw [knows_eq_any h] at hunknown
          exact hunknown (List.any_eq_true.mpr ⟨earlier, hearlier, hgives⟩)

end Step

/-- The registrations are taken one by one up to the first that is at fault. -/
theorem addAll_cases {t : Table H} {before : List (Registration H)}
    (h : List.Forall₂ (Becomes d) before t.routes) (hsealable : Sealable before)
    (rest : List (Registration H)) :
    (∃ done, t.addAll (rest.map d.apply) = .ok done ∧ Sealable (before ++ rest) ∧
        List.Forall₂ (Becomes d) (before ++ rest) done.result.routes) ∨
      ∃ e taken r after, t.addAll (rest.map d.apply) = .error e ∧ rest = taken ++ r :: after ∧
        Sealable (before ++ taken) ∧ r.Faulty (before ++ taken) e.result ∧
        ∃ done refused, t.addAll (taken.map d.apply) = .ok done ∧
          done.result.add (d.apply r) = .error refused ∧ e = refused.after done.events := by
  induction rest generalizing t before with
  | nil =>
    refine .inl ⟨_, rfl, ?_⟩
    rw [List.append_nil]
    exact ⟨hsealable, h⟩
  | cons r rest ih =>
    rw [List.map_cons]
    unfold addAll
    rcases add_cases h r with ⟨e, hadd, hfaulty⟩ | ⟨route, hbecomes, hfits, hadd⟩
    · rw [hadd]
      refine .inr ⟨e, [], r, rest, rfl, rfl, ?_⟩
      rw [List.append_nil]
      exact ⟨hsealable, hfaulty, _, e, rfl, hadd, rfl⟩
    · rw [hadd]
      dsimp only
      have hpushed : List.Forall₂ (Becomes d) (before ++ [r]) (t.push route).routes :=
        List.rel_append h (.cons hbecomes .nil)
      rcases ih hpushed (sealable_append_iff.mpr ⟨hsealable, hfits⟩) with
        ⟨done, hdone, hall, hroutes⟩ |
        ⟨e, taken, bad, after, hdone, rfl, htaken, hfaulty, made, refused, hmade, hrefused, rfl⟩
      · rw [hdone, List.append_cons]
        exact .inl ⟨_, rfl, hall, hroutes⟩
      · rw [hdone]
        refine .inr ⟨_, r :: taken, bad, after, rfl, rfl, ?_⟩
        have htwo : t.addAll (d.apply r :: taken.map d.apply) =
            .ok (made.after (t.shadowNotice route)) := by
          unfold addAll
          rw [hadd]
          dsimp only
          rw [hmade]
        rw [List.append_cons]
        exact ⟨htaken, hfaulty, _, refused, htwo, hrefused, (refused.after_append ..).symm⟩

theorem names_unique_of_sealable {t : Table H} {registrations : List (Registration H)}
    (hsealable : Sealable registrations) (h : List.Forall₂ (Becomes d) registrations t.routes) :
    t.routes.Pairwise fun a b => ∀ name, a.name = some name → b.name ≠ some name := by
  refine pairwise_of_rel h ?_ hsealable.names
  intro r route r' route' hr hr' hnames name hname hname'
  have hgives := hnames name ((hr.name_iff name).mp hname)
  rw [(hr'.name_iff name).mp hname'] at hgives
  cases hgives

theorem named?_eq_some_iff {t : Table H}
    (h : t.routes.Pairwise fun a b => ∀ name, a.name = some name → b.name ≠ some name)
    (name : String) (route : Route H) :
    t.named? name = some route ↔ route ∈ t.routes ∧ route.name = some name := by
  have hbears {other : Route H} (hother : t.named? name = some other) :
      other ∈ t.routes ∧ other.name = some name := by
    rw [named?_eq] at hother
    exact ⟨List.mem_reverse.mp (List.mem_of_find?_eq_some hother),
      by simpa using List.find?_some hother⟩
  refine ⟨hbears, fun ⟨hmem, hname⟩ => ?_⟩
  cases hfound : t.named? name with
  | none =>
    rw [named?_eq, List.find?_eq_none] at hfound
    exact absurd (by simpa using hname) (hfound route (List.mem_reverse.mpr hmem))
  | some other =>
    obtain ⟨hin, hsame⟩ := hbears hfound
    by_contra hne
    have hsymm : Std.Symm fun a b : Route H => ∀ name, a.name = some name → b.name ≠ some name :=
      ⟨fun a b hab name hb ha => hab name ha hb⟩
    exact h.forall hin hmem (fun heq => hne (congrArg some heq)) name hsame hname

theorem holds_of_sealable {t : Table H} {registrations : List (Registration H)}
    (hsealable : Sealable registrations)
    (h : List.Forall₂ (Becomes d) registrations t.routes) : t.Holds d registrations where
  routes := h
  routesFor := t.routesFor_eq
  methods _ := t.mem_methods
  methods_nodup := t.methods_ordered.imp fun hlt heq => by
    subst heq
    exact Nat.lt_irrefl _ hlt
  methods_ordered := t.methods_ordered
  named := named?_eq_some_iff (names_unique_of_sealable hsealable h)
  names_unique := names_unique_of_sealable hsealable h

/-- With an error comes all that was noticed before it: of the registrations that were taken, and of
the one that is refused. -/
theorem build_refused {registrations : List (Registration H)} {e : Logged TableError}
    (h : build d registrations = .error e) :
    ∃ before r after done refused, registrations = before ++ r :: after ∧
      addAll {} (before.map d.apply) = .ok done ∧
      done.result.add (d.apply r) = .error refused ∧ e = refused.after done.events := by
  unfold build at h
  rcases addAll_cases (t := {}) (d := d) .nil sealable_nil registrations with
    ⟨done, hdone, -, -⟩ |
    ⟨e', before, r, after, hdone, hsplit, -, -, made, refused, hmade, hrefused, heq⟩
  · rw [hdone] at h
    cases h
  · rw [hdone] at h
    obtain rfl := Except.error.inj h
    exact ⟨before, r, after, made, refused, hsplit, hmade, hrefused, heq⟩

/-- Registrations are sealed exactly if they can be, and the table holds what they say. Else the
earliest at fault is to blame, behind others that could be sealed. -/
theorem build_exact (d : Defaults) (registrations : List (Registration H)) :
    ((∃ done, build d registrations = .ok done) ↔ Sealable registrations) ∧
      match build d registrations with
      | .ok done => done.result.Holds d registrations
      | .error e => ∃ before r after, registrations = before ++ r :: after ∧
          Sealable before ∧ r.Faulty before e.result := by
  unfold build
  rcases addAll_cases (t := {}) (d := d) .nil sealable_nil registrations with
    ⟨done, hdone, hsealable, hroutes⟩ |
    ⟨e, before, r, after, hdone, hsplit, hbefore, hfaulty, -⟩
  · rw [hdone]
    exact ⟨⟨fun _ => hsealable, fun _ => ⟨_, rfl⟩⟩, holds_of_sealable hsealable hroutes⟩
  · rw [hdone]
    refine ⟨⟨nofun, fun hall => ?_⟩, before, r, after, hsplit, hbefore, hfaulty⟩
    rw [hsplit, List.append_cons] at hall
    exact absurd (sealable_append_iff.mp hall.of_append).2 hfaulty.not_fits

end Table

end Switchboard
