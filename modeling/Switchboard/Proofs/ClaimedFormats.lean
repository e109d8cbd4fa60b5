import Switchboard.Proofs.FormatList

namespace Switchboard

namespace Text

theorem toLower_toLower (c : Char) : c.toLower.toLower = c.toLower := by
  unfold Char.toLower
  grind

theorem lowercase_lowercase (s : String) : lowercase (lowercase s) = lowercase s := by
  unfold lowercase
  rw [String.toList_ofList, List.map_map]
  exact congrArg String.ofList (List.map_congr_left fun c _ => toLower_toLower c)

end Text

/-- One of the serializer's tokens is this one, whatever the case of either. -/
def Serializer.Claims (s : Serializer) (token : String) : Prop :=
  ∃ claimed ∈ s.formats, Text.equalIgnoringCase claimed token = true

theorem Serializer.claims_of_mem {s : Serializer} {token : String} (h : token ∈ s.formats) :
    s.Claims token := ⟨token, h, beq_self_eq_true _⟩

theorem Serializer.claims_of_lowercase {s : Serializer} {token : String}
    (h : Text.lowercase token ∈ s.formats) : s.Claims token :=
  ⟨_, h, beq_iff_eq.mpr (Text.lowercase_lowercase token)⟩

namespace Registry

/-- The serializer has the property and none registered before it has. The slot is its place. -/
structure FirstWith (r : Registry) (P : Serializer → Prop) (s : Serializer) (slot : Nat) :
    Prop where
  holds : P s
  place : ∃ before after, r.serializers = before ++ s :: after ∧ before.length = slot ∧
    ∀ other ∈ before, ¬P other

variable {r : Registry} {P Q : Serializer → Prop} {s : Serializer} {slot : Nat} {token : String}

theorem exists_firstWith (hs : s ∈ r.serializers) (h : P s) :
    ∃ first slot, r.FirstWith P first slot := by
  classical
  have hfound : (r.serializers.find? fun s => decide (P s)).isSome = true :=
    List.find?_isSome.mpr ⟨s, hs, decide_eq_true h⟩
  obtain ⟨first, hfirst⟩ := Option.isSome_iff_exists.mp hfound
  obtain ⟨hholds, before, after, hsplit, hbefore⟩ := List.find?_eq_some_iff_append.mp hfirst
  refine ⟨first, before.length, of_decide_eq_true hholds, before, after, hsplit, rfl, ?_⟩
  intro other hother
  simpa using hbefore other hother

theorem FirstWith.of_imp (h : r.FirstWith P s slot) (hQP : ∀ s, Q s → P s) (hs : Q s) :
    r.FirstWith Q s slot := by
  obtain ⟨before, after, hsplit, hslot, hbefore⟩ := h.place
  exact ⟨hs, before, after, hsplit, hslot, fun other hother => mt (hQP other) (hbefore other hother)⟩

theorem find?_zipIdx_eq_some_iff {p : Serializer → Bool} :
    (r.serializers.zipIdx.find? fun entry => p entry.1) = some (s, slot) ↔
      r.FirstWith (p · = true) s slot := by
  rw [List.find?_eq_some_iff_append]
  constructor
  · rintro ⟨hs, front, back, hsplit, hfront⟩
    obtain ⟨before, rest, hserializers, rfl, hrest⟩ := List.zipIdx_eq_append_iff.mp hsplit
    obtain ⟨first, after, rfl, hentry, -⟩ := List.zipIdx_eq_cons_iff.mp hrest.symm
    obtain ⟨rfl, rfl⟩ := Prod.mk.inj hentry
    refine ⟨hs, before, after, hserializers, (Nat.zero_add _).symm, fun other hother => ?_⟩
    obtain ⟨i, hi⟩ := List.mem_iff_getElem?.mp hother
    have hpassed := hfront (other, i) (List.mk_mem_zipIdx_iff_getElem?.mpr hi)
    simpa using hpassed
  · rintro ⟨hs, before, after, hserializers, rfl, hbefore⟩
    refine ⟨hs, before.zipIdx, after.zipIdx (before.length + 1), ?_, fun entry hentry => ?_⟩
    · rw [hserializers, List.zipIdx_append, List.zipIdx_cons, Nat.zero_add]
    · have hpassed := hbefore entry.1 (List.fst_mem_of_mem_zipIdx hentry)
      simpa using hpassed

theorem forFormat?_eq_some_iff {t : Settings} :
    r.forFormat? token = some t ↔
      r.FirstWith (Text.lowercase token ∈ ·.formats) t.serializer t.slot ∧
        t.serializer.mediaTypes.head? = some t.mediaType := by
  have hcontains : (fun s : Serializer => s.formats.contains (Text.lowercase token) = true) =
      (Text.lowercase token ∈ ·.formats) := by
    funext s
    exact propext List.contains_iff_mem
  rw [← hcontains, ← find?_zipIdx_eq_some_iff]
  unfold forFormat?
  dsimp only
  rw [Option.bind_eq_some_iff]
  constructor
  · rintro ⟨⟨s, slot⟩, hfound, hprimary⟩
    obtain ⟨m, hm, rfl⟩ := Option.map_eq_some_iff.mp hprimary
    exact ⟨hfound, hm⟩
  · rintro ⟨hfound, hm⟩
    exact ⟨_, hfound, Option.map_eq_some_iff.mpr ⟨_, hm, rfl⟩⟩

/-- A token that is claimed finds the first serializer that claims it in whatever case, with the
first media type of that serializer, exactly if that one has a media type and claims the token in
lower case. -/
theorem forFormat?_first_claimant_iff (hs : s ∈ r.serializers) (htoken : token ∈ s.formats) :
    ∃ first slot, r.FirstWith (·.Claims token) first slot ∧
      ((r.supportsFormat token = true ∧ ∃ m, first.mediaTypes.head? = some m ∧
          r.forFormat? token = some ⟨m, first, slot⟩) ↔
        first.mediaTypes ≠ [] ∧ Text.lowercase token ∈ first.formats) := by
  obtain ⟨first, slot, hfirst⟩ :=
    exists_firstWith (P := (·.Claims token)) hs (Serializer.claims_of_mem htoken)
  refine ⟨first, slot, hfirst, ?_, ?_⟩
  · rintro ⟨-, m, hm, hfound⟩
    exact ⟨List.ne_nil_of_mem (List.mem_of_head? hm), mem_formats_of_forFormat? hfound⟩
  · rintro ⟨hmedia, hlower⟩
    obtain ⟨m, hm⟩ := Option.isSome_iff_exists.mp (List.isSome_head?.mpr hmedia)
    -- Whoever claims the token in lower case claims it, so nobody before the first one does.
    have hfound : r.forFormat? token = some ⟨m, first, slot⟩ :=
      forFormat?_eq_some_iff.mpr
        ⟨hfirst.of_imp (fun _ => Serializer.claims_of_lowercase) hlower, hm⟩
    exact ⟨by rw [supportsFormat, hfound]; rfl, m, hm, hfound⟩

/-- A serializer that claims its token in upper case. -/
def shouting : Serializer := { Serializer.json with formats := ["CSV"], mediaTypes := ["text/csv"] }

/-- A token that is claimed in upper case finds nothing. -/
theorem shouting_not_found :
    let r : Registry := { serializers := [shouting] }
    shouting ∈ r.serializers ∧ "CSV" ∈ shouting.formats ∧
      ∃ first slot, r.FirstWith (·.Claims "CSV") first slot ∧
        ¬(r.supportsFormat "CSV" = true ∧ ∃ m, first.mediaTypes.head? = some m ∧
          r.forFormat? "CSV" = some ⟨m, first, slot⟩) := by
  intro r
  have hs : shouting ∈ r.serializers := List.mem_cons_self ..
  have htoken : "CSV" ∈ shouting.formats := List.mem_cons_self ..
  obtain ⟨first, slot, hfirst, hiff⟩ := forFormat?_first_claimant_iff hs htoken
  obtain ⟨before, after, hsplit, -, -⟩ := hfirst.place
  have hmem : first ∈ r.serializers := by rw [hsplit]; simp
  obtain rfl := List.mem_singleton.mp hmem
  have hupper : Text.lowercase "CSV" ∉ shouting.formats := by decide +kernel
  exact ⟨hs, htoken, _, slot, hfirst, fun hfound => hupper (hiff.mp hfound).2⟩

end Registry

end Switchboard
