import Switchboard.Proofs.RouteIndex
import Switchboard.Route.Resolution

namespace Switchboard

namespace Table

variable {H : Type} (t : Table H) (method : Method) (path : String)

/-- The action of the earliest route of the method that matches the path. -/
def Finds (action : Action H) : Prop :=
  ∃ before after, t.routes = before ++ action.route :: after ∧
    (∀ route ∈ before, route.method = method → route.pattern.match? path = none) ∧
    action.route.method = method ∧ action.route.pattern.match? path = some action.found

def firstPlace : Nat := (t.routes.map (·.method)).idxOf method

/-- The methods under which the path is found, in order of their first routes. -/
structure Serves (allowed : List Method) : Prop where
  complete (m : Method) : m ∈ allowed ↔ ∃ action, t.resolve m path = .ok action
  nodup : allowed.Nodup
  ordered : allowed.Pairwise fun m n => t.firstPlace m < t.firstPlace n

/-- How a path that the method does not find is refused. -/
structure Refuses (e : ServiceError) : Prop where
  unfound (action : Action H) : ¬ t.Finds method path action
  wrongMethod_iff : e.kind = .methodNotAllowed ↔ ∃ m action, t.resolve m path = .ok action
  notFound_iff : e.kind = .notFound ↔ ¬ ∃ m action, t.resolve m path = .ok action
  allow : e.kind = .methodNotAllowed → ∃ allowed, t.Serves path allowed ∧ method ∉ allowed ∧
    e.headers.values .allow = [.ofText (", ".intercalate (allowed.map (·.name)))]

section Search

variable {t method path}

theorem firstMatch?_eq_some_iff {action : Action H} :
    firstMatch? path (t.routesFor method) = some action ↔ t.Finds method path action := by
  unfold firstMatch? Finds
  rw [routesFor_eq, List.findSome?_eq_some_iff]
  constructor
  · rintro ⟨earlier, route, later, hsplit, hmatch, hearlier⟩
    obtain ⟨found, hfound, rfl⟩ := Option.map_eq_some_iff.mp hmatch
    obtain ⟨first, second, hroutes, hfirst, hsecond⟩ := List.filter_eq_append_iff.mp hsplit
    obtain ⟨skipped, rest, rfl, hskipped, hmethod, -⟩ := List.filter_eq_cons_iff.mp hsecond
    refine ⟨first ++ skipped, rest, by rw [hroutes, List.append_assoc], ?_, by simpa using hmethod,
      hfound⟩
    intro other hother hsame
    rcases List.mem_append.mp hother with hin | hin
    · have hkept : other ∈ earlier := by
        rw [← hfirst]
        exact List.mem_filter.mpr ⟨hin, by simpa using hsame⟩
      simpa using hearlier other hkept
    · exact absurd (by simpa using hsame) (hskipped other hin)
  · rintro ⟨before, after, hroutes, hbefore, hmethod, hfound⟩
    refine ⟨before.filter (·.method = method), action.route, after.filter (·.method = method),
      ?_, by rw [hfound]; rfl, ?_⟩
    · rw [hroutes, List.filter_append, List.filter_cons_of_pos (by simpa using hmethod)]
    · intro other hother
      obtain ⟨hin, hsame⟩ := List.mem_filter.mp hother
      rw [hbefore other hin (by simpa using hsame)]
      rfl

theorem resolve_eq_ok_iff {action : Action H} :
    t.resolve method path = .ok action ↔ t.Finds method path action := by
  rw [← firstMatch?_eq_some_iff]
  unfold resolve
  split
  next found heq =>
    rw [heq]
    simp
  next heq =>
    rw [heq]
    split <;> simp

theorem mem_of_resolve {action : Action H} (h : t.resolve method path = .ok action) :
    action.route ∈ t.routes := by
  obtain ⟨before, after, hroutes, -⟩ := resolve_eq_ok_iff.mp h
  rw [hroutes]
  exact List.mem_append_right _ (List.mem_cons_self ..)

theorem exists_finds_iff :
    (∃ action, t.Finds method path action) ↔
      ∃ route ∈ t.routes, route.method = method ∧ route.pattern.matchesPath path = true := by
  have hsome : (∃ action, t.Finds method path action) ↔
      (firstMatch? path (t.routesFor method)).isSome = true := by
    rw [Option.isSome_iff_exists]
    exact exists_congr fun _ => firstMatch?_eq_some_iff.symm
  rw [hsome, firstMatch?, routesFor_eq, List.findSome?_isSome_iff]
  simp [Pattern.matchesPath, and_assoc]

theorem mem_allowedMethods :
    method ∈ t.allowedMethods path ↔ ∃ action, t.resolve method path = .ok action := by
  have hresolve : (∃ action, t.resolve method path = .ok action) ↔
      ∃ route ∈ t.routes, route.method = method ∧ route.pattern.matchesPath path = true := by
    rw [← exists_finds_iff]
    exact exists_congr fun _ => resolve_eq_ok_iff
  rw [hresolve]
  unfold allowedMethods
  rw [List.mem_filter, mem_methods, List.any_eq_true, routesFor_eq]
  constructor
  · rintro ⟨-, route, hroute, hmatch⟩
    obtain ⟨hin, hmethod⟩ := List.mem_filter.mp hroute
    exact ⟨route, hin, by simpa using hmethod, hmatch⟩
  · rintro ⟨route, hin, hmethod, hmatch⟩
    exact ⟨⟨route, hin, hmethod⟩, route, List.mem_filter.mpr ⟨hin, by simpa using hmethod⟩, hmatch⟩

end Search

theorem methods_ordered :
    t.methods.Pairwise fun m n => t.firstPlace m < t.firstPlace n := by
  rw [methods_eq]
  exact Index.listed_ordered _

theorem serves_allowedMethods : t.Serves path (t.allowedMethods path) where
  complete _ := mem_allowedMethods
  nodup := (t.methods_ordered.filter _).imp fun hlt heq => by
    subst heq
    exact Nat.lt_irrefl _ hlt
  ordered := t.methods_ordered.filter _

end Table

theorem mem_intercalate {α : Type} {a : α} {sep : List α} {lists : List (List α)}
    (h : a ∈ sep.intercalate lists) : a ∈ sep ∨ ∃ list ∈ lists, a ∈ list := by
  induction lists with
  | nil => cases h
  | cons first rest ih =>
    cases rest with
    | nil => exact .inr ⟨first, List.mem_cons_self .., by simpa [List.intercalate] using h⟩
    | cons second others =>
      rw [List.intercalate_cons_cons, List.append_assoc, List.mem_append, List.mem_append] at h
      rcases h with hfirst | hsep | hrest
      · exact .inr ⟨first, List.mem_cons_self .., hfirst⟩
      · exact .inl hsep
      · obtain hsep | ⟨list, hlist, hin⟩ := ih hrest
        · exact .inl hsep
        · exact .inr ⟨list, List.mem_cons_of_mem _ hlist, hin⟩

theorem ofText?_methods (allowed : List Method) :
    HeaderValue.ofText? (", ".intercalate (allowed.map (·.name))) =
      some (.ofText (", ".intercalate (allowed.map (·.name)))) := by
  apply HeaderValue.ofText?_of_visible
  intro c hc
  rw [String.toList_intercalate] at hc
  rcases mem_intercalate hc with hsep | ⟨name, hname, hin⟩
  · have hseparators : ", ".toList.all
        (fun c => 0x20 ≤ c.toNat && c.toNat ≤ 0x7E) = true := by cbv
    have hbounds := List.all_eq_true.mp hseparators c hsep
    simpa using hbounds
  · obtain ⟨text, htext, rfl⟩ := List.mem_map.mp hname
    obtain ⟨m, -, rfl⟩ := List.mem_map.mp htext
    have := isTokenChar_bounds (List.all_eq_true.mp m.isToken.2 c hin)
    omega

theorem ServiceError.allow_wrongMethod (method : Method) (path : String) (allowed : List Method) :
    (wrongMethod method path allowed).headers.values .allow =
      [.ofText (", ".intercalate (allowed.map (·.name)))] := by
  unfold wrongMethod
  dsimp only
  rw [ofText?_methods]
  exact Headers.values_append_self _ _ _

theorem ServiceError.kind_wrongMethod (method : Method) (path : String) (allowed : List Method) :
    (wrongMethod method path allowed).kind = .methodNotAllowed := by
  unfold wrongMethod
  dsimp only
  split <;> rfl

namespace Table

variable {H : Type} (t : Table H) (method : Method) (path : String)

/-- The earliest route of the method that matches is found with its match. Else the path is refused,
as one for other methods if any other finds it, which are then told, and as unknown if none does. -/
theorem resolve_finds_or_refuses :
    match t.resolve method path with
    | .ok action => t.Finds method path action
    | .error e => t.Refuses method path e := by
  cases hresolve : t.resolve method path with
  | ok action => exact resolve_eq_ok_iff.mp hresolve
  | error e =>
    have hserves := t.serves_allowedMethods path
    have hunfound (action : Action H) : ¬ t.Finds method path action := by
      rw [← resolve_eq_ok_iff, hresolve]
      exact nofun
    have hother : method ∉ t.allowedMethods path := by
      rw [hserves.complete, hresolve]
      exact nofun
    have hsome : (∃ m action, t.resolve m path = .ok action) ↔ t.allowedMethods path ≠ [] := by
      constructor
      · rintro ⟨m, haction⟩
        exact List.ne_nil_of_mem ((hserves.complete m).mpr haction)
      · intro hne
        obtain ⟨m, hm⟩ := List.exists_mem_of_ne_nil _ hne
        exact ⟨m, (hserves.complete m).mp hm⟩
    unfold resolve at hresolve
    split at hresolve
    next => cases hresolve
    next =>
      split at hresolve
      next hnone =>
        obtain rfl := Except.error.inj hresolve
        refine ⟨hunfound, ?_, ?_, nofun⟩
        · rw [hsome, hnone]
          simp
        · rw [hsome, hnone]
          simp
      next hallowed =>
        obtain rfl := Except.error.inj hresolve
        have hkind := ServiceError.kind_wrongMethod method path (t.allowedMethods path)
        refine ⟨hunfound, ?_, ?_, fun _ => ?_⟩
        · rw [hsome, hkind]
          simpa using hallowed
        · rw [hsome, hkind]
          simpa using hallowed
        · exact ⟨_, hserves, hother, ServiceError.allow_wrongMethod method path _⟩

end Table

end Switchboard
