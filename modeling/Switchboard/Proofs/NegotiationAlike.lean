import Switchboard.Format.Negotiation
import Switchboard.Proofs.PairedLists

namespace Switchboard

/-- Two results of one kind: values in the relation `R`, or errors in the relation `E`. -/
inductive Alike {ε α : Type} (E : ε → ε → Prop) (R : α → α → Prop) :
    Except ε α → Except ε α → Prop where
  | ok {a b : α} : R a b → Alike E R (.ok a) (.ok b)
  | error {e f : ε} : E e f → Alike E R (.error e) (.error f)

theorem Alike.imp {ε α : Type} {E : ε → ε → Prop} {R S : α → α → Prop} {a b : Except ε α}
    (h : Alike E R a b) (hR : ∀ x y, R x y → S x y) : Alike E S a b := by
  cases h with
  | ok hxy => exact .ok (hR _ _ hxy)
  | error he => exact .error he

/-- The same error, but for the message of one that comes from rendering. -/
inductive SerializationError.Alike : SerializationError → SerializationError → Prop where
  | same (e : SerializationError) : Alike e e
  | encode (format message other : String) :
    Alike (.encode format message) (.encode format other)

/-- Serializers that differ in nothing but the messages of their failures to render. -/
structure Serializer.Alike (s t : Serializer) : Prop where
  formats : s.formats = t.formats
  mediaTypes : s.mediaTypes = t.mediaTypes
  serialize (r : Response) :
    Switchboard.Alike SerializationError.Alike Eq (s.serialize r) (t.serialize r)

structure Settings.Alike (s t : Settings) : Prop where
  mediaType : s.mediaType = t.mediaType
  serializer : s.serializer.Alike t.serializer

structure Registry.Alike (r t : Registry) : Prop where
  serializers : List.Forall₂ Serializer.Alike r.serializers t.serializers
  defaultFormat : r.defaultFormat = t.defaultFormat

theorem Serializer.alike_refl (s : Serializer) : s.Alike s := by
  refine ⟨rfl, rfl, fun r => ?_⟩
  cases s.serialize r with
  | ok _ => exact .ok rfl
  | error e => exact .error (.same e)

theorem Registry.alike_refl (r : Registry) : r.Alike r :=
  ⟨List.forall₂_same.mpr fun s _ => s.alike_refl, rfl⟩

theorem Serializer.Alike.isAllowed {s t : Serializer} (h : s.Alike t)
    (policy : Option FormatPolicy) : s.isAllowed policy = t.isAllowed policy := by
  unfold Serializer.isAllowed
  rw [h.formats]

theorem Settings.Alike.label {s t : Settings} (h : s.Alike t) : s.label = t.label := by
  unfold Settings.label Settings.format?
  rw [h.mediaType, h.serializer.formats]

namespace Registry

variable {r t : Registry}

theorem primary?_alike {x y : Serializer × Nat} (h : x.1.Alike y.1) :
    Option.Rel Settings.Alike (primary? x) (primary? y) := by
  unfold primary?
  rw [h.mediaTypes]
  cases y.1.mediaTypes.head? with
  | none => exact .none
  | some m => exact .some ⟨rfl, h⟩

theorem Alike.forFormat? (h : r.Alike t) (format : String) :
    Option.Rel Settings.Alike (r.forFormat? format) (t.forFormat? format) := by
  unfold Registry.forFormat?
  apply bind_rel (find?_rel (forall₂_zipIdx h.serializers 0) _)
  · exact fun x y hxy => primary?_alike hxy.1
  · intro x y hxy
    simp only [hxy.1.formats]

theorem Alike.choices (h : r.Alike t) :
    List.Forall₂ Settings.Alike r.choices t.choices := by
  unfold Registry.choices
  apply List.rel_flatMap (forall₂_zipIdx h.serializers 0)
  intro x y hxy
  dsimp only
  rw [hxy.1.mediaTypes, List.forall₂_map_left_iff, List.forall₂_map_right_iff]
  exact List.forall₂_same.mpr fun m _ => ⟨rfl, hxy.1⟩

theorem Alike.default? (h : r.Alike t) : Option.Rel Settings.Alike r.default? t.default? := by
  unfold Registry.default?
  rw [h.defaultFormat]
  apply or_rel
  · cases t.defaultFormat with
    | none => exact .none
    | some format => exact h.forFormat? format
  · exact bind_rel (head?_rel (forall₂_zipIdx h.serializers 0)) fun x y hxy => primary?_alike hxy.1

theorem Alike.defaultFor? (h : r.Alike t) (policy : Option FormatPolicy) :
    Option.Rel Settings.Alike (r.defaultFor? policy) (t.defaultFor? policy) := by
  unfold Registry.defaultFor?
  apply or_rel _ h.default?
  cases policy.bind (·.default) with
  | none => exact .none
  | some format => exact h.forFormat? format

theorem Alike.fallback (h : r.Alike t) (policy : Option FormatPolicy) :
    Switchboard.Alike Eq Settings.Alike (r.fallback policy).result (t.fallback policy).result := by
  rw [result_fallback, result_fallback]
  have hdefault := h.defaultFor? policy
  generalize r.defaultFor? policy = a, t.defaultFor? policy = b at hdefault ⊢
  cases hdefault with
  | none => exact .error rfl
  | some hs => exact .ok hs

theorem Alike.restrict (h : r.Alike t) {s u : Settings} (hs : s.Alike u) (allowed : Bool)
    (policy : Option FormatPolicy) (force : Bool) :
    Switchboard.Alike Eq Settings.Alike (r.restrict s allowed policy force).result
      (t.restrict u allowed policy force).result := by
  unfold Registry.restrict
  cases allowed with
  | true => exact .ok hs
  | false => cases force with
    | true => exact h.fallback policy
    | false =>
      rw [hs.label]
      exact .error rfl

def BestAlike (x y : MediaRange × Settings) : Prop := x.1 = y.1 ∧ x.2.Alike y.2

theorem better_alike {ranges : List MediaRange} {a b : Option (MediaRange × Settings)}
    (hab : Option.Rel BestAlike a b) {s u : Settings} (hs : s.Alike u) :
    Option.Rel BestAlike (better ranges a s) (better ranges b u) := by
  unfold better
  rw [hs.mediaType]
  cases MediaRange.best? ranges u.mediaType with
  | none => exact hab
  | some range =>
    dsimp only
    split
    · exact hab
    · cases hab with
      | none => exact .some ⟨rfl, hs⟩
      | @some x y hxy =>
        dsimp only
        rw [hxy.1]
        split
        · exact .some ⟨rfl, hs⟩
        · exact .some hxy

theorem Alike.fromAccept? (h : r.Alike t) (ranges : List MediaRange) :
    Option.Rel Settings.Alike (r.fromAccept? ranges) (t.fromAccept? ranges) := by
  unfold Registry.fromAccept?
  have hbest : Option.Rel BestAlike (r.choices.foldl (better ranges) none)
      (t.choices.foldl (better ranges) none) := by
    refine List.rel_foldl (P := Option.Rel BestAlike) ?_ .none h.choices
    intro a b hab s u hs
    exact better_alike hab hs
  generalize r.choices.foldl (better ranges) none = a,
    t.choices.foldl (better ranges) none = b at hbest ⊢
  cases hbest with
  | none => exact .none
  | @some x y hxy =>
    obtain ⟨range, s⟩ := x
    obtain ⟨other, u⟩ := y
    obtain ⟨heq, hs⟩ := hxy
    dsimp only at heq hs ⊢
    rw [heq]
    split
    · exact .none
    · exact .some hs

theorem Alike.firstAcceptable? (h : r.Alike t) (ranges : List MediaRange)
    (policy : Option FormatPolicy) :
    Option.Rel Settings.Alike (r.firstAcceptable? ranges policy)
      (t.firstAcceptable? ranges policy) := by
  unfold Registry.firstAcceptable?
  apply find?_rel h.choices
  intro s u hs
  rw [hs.mediaType, hs.serializer.mediaTypes, hs.serializer.isAllowed]

theorem Alike.forRequested (h : r.Alike t) (format : String) (policy : Option FormatPolicy)
    (force : Bool) :
    Switchboard.Alike Eq Settings.Alike (r.forRequested format policy force).result
      (t.forRequested format policy force).result := by
  unfold Registry.forRequested
  have hformat := h.forFormat? format
  generalize r.forFormat? format = x, t.forFormat? format = y at hformat ⊢
  cases hformat with
  | some hs => exact h.restrict hs _ policy force
  | none => cases force with
    | true => exact h.fallback policy
    | false => exact .error rfl

theorem Alike.unlessExcluded (h : r.Alike t) (ranges : List MediaRange)
    (policy : Option FormatPolicy) (force : Bool) {s u : Settings} (hs : s.Alike u) :
    Switchboard.Alike Eq Settings.Alike (r.unlessExcluded ranges policy force s)
      (t.unlessExcluded ranges policy force u) := by
  unfold Registry.unlessExcluded
  rw [hs.mediaType, hs.label]
  split
  · exact .ok hs
  · have hfirst := h.firstAcceptable? ranges policy
    generalize r.firstAcceptable? ranges policy = v,
      t.firstAcceptable? ranges policy = w at hfirst ⊢
    cases hfirst with
    | none => exact .error rfl
    | some hother => exact .ok hother

theorem Alike.forRanges (h : r.Alike t) (ranges : List MediaRange) (policy : Option FormatPolicy)
    (force : Bool) :
    Switchboard.Alike Eq Settings.Alike (r.forRanges ranges policy force).result
      (t.forRanges ranges policy force).result := by
  unfold Registry.forRanges
  have haccept := h.fromAccept? ranges
  generalize r.fromAccept? ranges = x, t.fromAccept? ranges = y at haccept ⊢
  cases haccept with
  | @some s u hs =>
    dsimp only
    rw [hs.serializer.isAllowed]
    exact h.restrict hs _ policy force
  | none =>
    have hfallback := h.fallback policy
    dsimp only
    generalize (r.fallback policy).result = a, (t.fallback policy).result = b at hfallback ⊢
    cases hfallback with
    | error he => exact .error he
    | ok hs => exact h.unlessExcluded ranges policy force hs

/-- What an encoder would say plays no part in negotiation. -/
theorem Alike.resolve (h : r.Alike t) (request : Request) (policy : Option FormatPolicy)
    (force : Bool) :
    Switchboard.Alike Eq Settings.Alike (r.resolve request policy force).result
      (t.resolve request policy force).result := by
  unfold Registry.resolve
  split
  · exact h.forRequested _ policy force
  · exact h.forRanges _ policy force

end Registry

end Switchboard
