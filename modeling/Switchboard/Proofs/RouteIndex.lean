import Mathlib.Data.List.Basic
import Mathlib.Data.List.Induction
import Switchboard.Route.Table

namespace Switchboard

namespace Index

variable {H : Type}

section Methods

variable (used : List Method)

theorem mem_listed {method : Method} : method ∈ used.foldl listMethod [] ↔ method ∈ used := by
  induction used using List.reverseRecOn with
  | nil => exact Iff.rfl
  | append_singleton used last ih =>
    rw [List.foldl_append, List.mem_append, ← ih]
    show method ∈ listMethod _ last ↔ _
    unfold listMethod
    split
    next hlisted =>
      refine ⟨Or.inl, fun h => h.elim id fun hlast => ?_⟩
      rw [List.mem_singleton.mp hlast]
      exact hlisted
    next => exact List.mem_append

/-- Methods are listed in the order of their first use, so each stands there once. -/
theorem listed_ordered :
    (used.foldl listMethod []).Pairwise fun m n => used.idxOf m < used.idxOf n := by
  induction used using List.reverseRecOn with
  | nil => exact .nil
  | append_singleton used last ih =>
    have hbefore : (used.foldl listMethod []).Pairwise
        fun m n => (used ++ [last]).idxOf m < (used ++ [last]).idxOf n := by
      refine ih.imp_of_mem fun {m n} hm hn hlt => ?_
      rw [List.idxOf_append_of_mem ((mem_listed used).mp hm),
        List.idxOf_append_of_mem ((mem_listed used).mp hn)]
      exact hlt
    rw [List.foldl_append]
    show (listMethod _ last).Pairwise _
    unfold listMethod
    split
    next => exact hbefore
    next hunlisted =>
      refine List.pairwise_append.mpr ⟨hbefore, List.pairwise_singleton _ _, ?_⟩
      intro m hm n hn
      obtain rfl := List.mem_singleton.mp hn
      have hnew : n ∉ used := fun h => hunlisted ((mem_listed used).mpr h)
      have hold : m ∈ used := (mem_listed used).mp hm
      have hlt := List.idxOf_lt_length_iff.mpr hold
      rw [List.idxOf_append_of_mem hold, List.idxOf_append_of_notMem hnew]
      omega

end Methods

variable (routes : List (Route H))

theorem methods_ofRoutes :
    (ofRoutes routes).methods = (routes.map (·.method)).foldl listMethod [] := by
  induction routes using List.reverseRecOn with
  | nil => rfl
  | append_singleton routes last ih =>
    rw [ofRoutes_append, List.map_append, List.foldl_append, ← ih]
    rfl

theorem lookup_enlist (route : Route H) (listed : List (Method × List (Route H)))
    (method : Method) :
    ((enlist route listed).lookup method).getD [] =
      (listed.lookup method).getD [] ++ [route].filter (·.method = method) := by
  induction listed with
  | nil =>
    unfold enlist
    by_cases h : method = route.method
    · simp [h]
    · have hne : (method == route.method) = false := beq_eq_false_iff_ne.mpr h
      simp [List.lookup_cons, hne, Ne.symm h]
  | cons entry rest ih =>
    obtain ⟨other, others⟩ := entry
    unfold enlist
    by_cases hmethod : method = other
    · subst hmethod
      by_cases h : method = route.method
      · simp [h]
      · simp [h, Ne.symm h]
    · have hne : (method == other) = false := beq_eq_false_iff_ne.mpr hmethod
      by_cases h : other = route.method
      · have hroute : ¬ route.method = method := fun heq => hmethod (heq ▸ h.symm)
        rw [if_pos h, List.lookup_cons, List.lookup_cons, hne]
        simp [hroute]
      · rw [if_neg h, List.lookup_cons, List.lookup_cons, hne]
        exact ih

theorem routesFor_ofRoutes (method : Method) :
    ((ofRoutes routes).byMethod.lookup method).getD [] =
      routes.filter (·.method = method) := by
  induction routes using List.reverseRecOn with
  | nil => rfl
  | append_singleton routes last ih =>
    rw [ofRoutes_append, List.filter_append, ← ih]
    exact lookup_enlist last _ method

theorem place_lt_of_mem {entry : String × Nat} (h : entry ∈ (ofRoutes routes).byName) :
    entry.2 < routes.length := by
  induction routes using List.reverseRecOn with
  | nil => cases h
  | append_singleton routes last ih =>
    rw [ofRoutes_append] at h
    rw [List.length_append, List.length_singleton]
    rcases List.mem_append.mp h with hnew | hold
    · obtain ⟨_, -, rfl⟩ := List.mem_map.mp hnew
      exact Nat.lt_succ_self _
    · exact Nat.lt_succ_of_lt (ih hold)

theorem place_lt {name : String} {place : Nat}
    (h : (ofRoutes routes).byName.lookup name = some place) : place < routes.length := by
  obtain ⟨before, after, hsplit, -⟩ := List.lookup_eq_some_iff.mp h
  have hmem : (name, place) ∈ (ofRoutes routes).byName := by
    rw [hsplit]
    exact List.mem_append_right _ (List.mem_cons_self ..)
  exact place_lt_of_mem routes hmem

/-- A name leads to the latest route that bears it. -/
theorem named_ofRoutes (name : String) :
    ((ofRoutes routes).byName.lookup name).bind (routes[·]?) =
      routes.reverse.find? (·.name = some name) := by
  induction routes using List.reverseRecOn with
  | nil => rfl
  | append_singleton routes last ih =>
    have hold : ((ofRoutes routes).byName.lookup name).bind ((routes ++ [last])[·]?) =
        routes.reverse.find? (·.name = some name) := by
      rw [← ih]
      cases hlookup : (ofRoutes routes).byName.lookup name with
      | none => rfl
      | some place => exact List.getElem?_append_left (place_lt routes hlookup)
    rw [ofRoutes_append, List.reverse_append]
    show (List.lookup name (last.name.toList.map (·, routes.length) ++ _)).bind _ =
      List.find? _ (last :: routes.reverse)
    rw [List.find?_cons]
    cases hname : last.name with
    | none => simpa using hold
    | some other =>
      by_cases h : name = other
      · subst h
        simp
      · have hne : (name == other) = false := beq_eq_false_iff_ne.mpr h
        simpa [List.lookup_cons, hne, Ne.symm h] using hold

end Index

namespace Table

variable {H : Type} (t : Table H)

theorem routesFor_eq (method : Method) :
    t.routesFor method = t.routes.filter (·.method = method) := by
  unfold routesFor
  rw [t.index_eq, Index.routesFor_ofRoutes]

theorem methods_eq : t.methods = (t.routes.map (·.method)).foldl Index.listMethod [] := by
  unfold methods
  rw [t.index_eq, Index.methods_ofRoutes]

theorem mem_methods {method : Method} :
    method ∈ t.methods ↔ ∃ route ∈ t.routes, route.method = method := by
  rw [methods_eq, Index.mem_listed, List.mem_map]

theorem named?_eq (name : String) :
    t.named? name = t.routes.reverse.find? (·.name = some name) := by
  unfold named?
  rw [t.index_eq, Index.named_ofRoutes]

theorem knows_eq (name : String) : t.knows name = (t.named? name).isSome := by
  unfold knows named?
  cases hlookup : t.index.byName.lookup name with
  | none => rfl
  | some place =>
    rw [t.index_eq] at hlookup
    have hlt := Index.place_lt t.routes hlookup
    simp [hlt]

theorem knows_iff {name : String} :
    t.knows name = true ↔ ∃ route ∈ t.routes, route.name = some name := by
  rw [knows_eq, named?_eq, List.find?_isSome]
  simp

end Table

end Switchboard
