import Switchboard.Http.Request
import Mathlib.Data.List.TakeWhile

namespace Switchboard

namespace Text

/-- What can stand before a piece: nothing, or what ends in the separator. -/
def EndsBefore (sep : Char) (before : List Char) : Prop :=
  before = [] ∨ ∃ earlier, before = earlier ++ [sep]

/-- What can stand behind a piece: nothing, or what begins with the separator. -/
def BeginsBehind (sep : Char) (behind : List Char) : Prop :=
  behind = [] ∨ ∃ later, behind = sep :: later

theorem exists_around_piece (sep : Char) (earlier : List (List Char)) (piece : List Char)
    (later : List (List Char)) :
    ∃ before behind, List.intercalate [sep] (earlier ++ piece :: later) = before ++ piece ++ behind ∧
      EndsBefore sep before ∧ BeginsBehind sep behind := by
  induction earlier with
  | nil =>
    cases later with
    | nil => exact ⟨[], [], by simp, .inl rfl, .inl rfl⟩
    | cons next rest =>
      exact ⟨[], sep :: List.intercalate [sep] (next :: rest), by simp, .inl rfl, .inr ⟨_, rfl⟩⟩
  | cons first rest ih =>
    obtain ⟨before, behind, heq, hbefore, hbehind⟩ := ih
    refine ⟨first ++ sep :: before, behind, ?_, .inr ?_, hbehind⟩
    · rw [List.cons_append, List.intercalate_cons_of_ne_nil (by simp), heq]
      simp
    · rcases hbefore with rfl | ⟨earlier, rfl⟩
      · exact ⟨first, rfl⟩
      · exact ⟨first ++ sep :: earlier, by simp⟩

/-- The pieces are what stands between separators and holds none. -/
theorem mem_pieces_iff {sep : Char} {cs piece : List Char} :
    piece ∈ pieces sep cs ↔ sep ∉ piece ∧ ∃ before behind, cs = before ++ piece ++ behind ∧
      EndsBefore sep before ∧ BeginsBehind sep behind := by
  constructor
  · intro h
    obtain ⟨earlier, later, heq⟩ := List.append_of_mem h
    obtain ⟨before, behind, haround, hends, hbegins⟩ := exists_around_piece sep earlier piece later
    rw [← heq, intercalate_pieces] at haround
    exact ⟨not_mem_of_mem_pieces h, before, behind, haround, hends, hbegins⟩
  · rintro ⟨hpiece, before, behind, rfl, hends, hbegins⟩
    have hrest : piece ∈ pieces sep (piece ++ behind) := by
      rcases hbegins with rfl | ⟨later, rfl⟩
      · rw [List.append_nil, pieces_of_not_mem hpiece]
        exact List.mem_singleton_self _
      · rw [pieces_append hpiece]
        exact List.mem_cons_self ..
    rcases hends with rfl | ⟨earlier, rfl⟩
    · exact hrest
    · rw [List.append_assoc, List.append_assoc, List.singleton_append, pieces_append_cons]
      exact List.mem_append_right _ hrest

/-- The line has the word between two commas, in any case and with any blanks around it. -/
def Lists (line word : String) : Prop :=
  ∃ before left member right behind : List Char,
    line.toList = before ++ (left ++ member ++ right) ++ behind ∧
      EndsBefore ',' before ∧ BeginsBehind ',' behind ∧
      (∀ c ∈ left ++ right, isBlank c = true) ∧ equalIgnoringCase (String.ofList member) word = true

theorem exists_around_trimList (cs : List Char) :
    ∃ left right, cs = left ++ trimList cs ++ right ∧ ∀ c ∈ left ++ right, isBlank c = true := by
  refine ⟨cs.takeWhile isBlank, ((cs.dropWhile isBlank).reverse.takeWhile isBlank).reverse, ?_, ?_⟩
  · unfold trimList
    rw [List.append_assoc, ← List.reverse_append, List.takeWhile_append_dropWhile,
      List.reverse_reverse, List.takeWhile_append_dropWhile]
  · intro c hc
    rcases List.mem_append.mp hc with hin | hin
    · exact List.mem_takeWhile_imp hin
    · exact List.mem_takeWhile_imp (List.mem_reverse.mp hin)

theorem dropWhile_isBlank_append {left member : List Char} (hleft : ∀ c ∈ left, isBlank c = true)
    (hmember : ∀ c ∈ member, isBlank c = false) (hne : member ≠ []) (rest : List Char) :
    (left ++ member ++ rest).dropWhile isBlank = member ++ rest := by
  obtain ⟨c, others, rfl⟩ := List.exists_cons_of_ne_nil hne
  have hfirst : isBlank c = false := hmember c (List.mem_cons_self ..)
  rw [List.append_assoc, List.dropWhile_append_of_pos hleft, List.cons_append,
    List.dropWhile_cons_of_neg (by simp [hfirst])]

theorem trimList_around {left member right : List Char}
    (hblank : ∀ c ∈ left ++ right, isBlank c = true) (hmember : ∀ c ∈ member, isBlank c = false)
    (hne : member ≠ []) : trimList (left ++ member ++ right) = member := by
  have hleft : ∀ c ∈ left, isBlank c = true := fun c hc => hblank c (List.mem_append_left _ hc)
  have hright : ∀ c ∈ right.reverse, isBlank c = true := fun c hc =>
    hblank c (List.mem_append_right _ (List.mem_reverse.mp hc))
  have hback : (right.reverse ++ member.reverse ++ []).dropWhile isBlank = member.reverse ++ [] :=
    dropWhile_isBlank_append hright (fun c hc => hmember c (List.mem_reverse.mp hc))
      (by simpa using hne) []
  unfold trimList
  rw [dropWhile_isBlank_append hleft hmember hne, List.reverse_append]
  rw [List.append_nil, List.append_nil] at hback
  rw [hback, List.reverse_reverse]

theorem toLower_of_isBlank {c : Char} (h : isBlank c = true) : c.toLower = c := by
  have hval : c.toNat = c.val.toNat := rfl
  simp [isBlank, Ranges.holds, blankRanges] at h
  unfold Char.toLower
  rw [dif_neg]
  rintro ⟨hlow, hhigh⟩
  rw [ge_iff_le, UInt32.le_iff_toNat_le] at hlow
  rw [UInt32.le_iff_toNat_le] at hhigh
  simp at hlow hhigh
  omega

theorem isBlank_of_isTokenChar {c : Char} (h : isTokenChar c = true) : isBlank c = false := by
  obtain ⟨hlow, hhigh⟩ := isTokenChar_bounds h
  simp [isBlank, Ranges.holds, blankRanges]
  omega

section Token

variable {member : List Char} {word : String}
  (h : equalIgnoringCase (String.ofList member) word = true)
  (hword : (lowercase word).toList.all isTokenChar = true)
include h

theorem map_toLower_of_equalIgnoringCase : member.map Char.toLower = (lowercase word).toList := by
  simpa [equalIgnoringCase, lowercase] using congrArg String.toList (beq_iff_eq.mp h)

include hword

theorem isTokenChar_of_equalIgnoringCase {c : Char} (hc : c ∈ member) :
    isTokenChar c.toLower = true := by
  rw [← map_toLower_of_equalIgnoringCase h, List.all_eq_true] at hword
  exact hword _ (List.mem_map_of_mem hc)

theorem isBlank_of_equalIgnoringCase {c : Char} (hc : c ∈ member) : isBlank c = false := by
  have htoken := isTokenChar_of_equalIgnoringCase h hword hc
  cases hblank : isBlank c with
  | false => rfl
  | true =>
    rw [toLower_of_isBlank hblank] at htoken
    exact hblank.symm.trans (isBlank_of_isTokenChar htoken)

theorem comma_notMem_of_equalIgnoringCase : ',' ∉ member := by
  intro hcomma
  have htoken := isTokenChar_of_equalIgnoringCase h hword hcomma
  revert htoken
  decide

end Token

theorem trim_ofList (cs : List Char) : trim (String.ofList cs) = String.ofList (trimList cs) := by
  unfold trim
  rw [String.toList_ofList]

/-- A token is among the words of a line exactly if the line lists it. -/
theorem mem_words_iff {line word : String} (hne : (lowercase word).toList ≠ [])
    (hword : (lowercase word).toList.all isTokenChar = true) :
    lowercase word ∈ (split ',' line).map (fun token => lowercase (trim token)) ↔
      Lists line word := by
  unfold split
  rw [List.map_map, List.mem_map]
  constructor
  · rintro ⟨piece, hpiece, heq⟩
    obtain ⟨-, before, behind, hline, hends, hbegins⟩ := mem_pieces_iff.mp hpiece
    obtain ⟨left, right, haround, hblank⟩ := exists_around_trimList piece
    rw [Function.comp_apply, trim_ofList] at heq
    exact ⟨before, left, trimList piece, right, behind, haround ▸ hline, hends, hbegins, hblank,
      beq_iff_eq.mpr heq⟩
  · rintro ⟨before, left, member, right, behind, hline, hends, hbegins, hblank, heq⟩
    have hmember : ∀ c ∈ member, isBlank c = false := fun c hc =>
      isBlank_of_equalIgnoringCase heq hword hc
    have hmemberne : member ≠ [] := by
      rintro rfl
      exact hne (map_toLower_of_equalIgnoringCase heq).symm
    have hcomma : ',' ∉ left ++ member ++ right := by
      have hmembers := comma_notMem_of_equalIgnoringCase heq hword
      have hblanks : ',' ∉ left ++ right := fun hin => absurd (hblank _ hin) (by decide)
      simp only [List.mem_append, not_or] at hblanks ⊢
      exact ⟨⟨hblanks.1, hmembers⟩, hblanks.2⟩
    refine ⟨left ++ member ++ right,
      mem_pieces_iff.mpr ⟨hcomma, before, behind, hline, hends, hbegins⟩, ?_⟩
    rw [Function.comp_apply, trim_ofList, trimList_around hblank hmember hmemberne]
    exact beq_iff_eq.mp heq

end Text

namespace Request

/-- One of the readable `Connection` fields lists the word. -/
def ListsConnection (r : Request) (word : String) : Prop :=
  ∃ line ∈ r.headers.texts .connection, Text.Lists line word

theorem contains_connectionTokens_iff (r : Request) (word : String)
    (hne : (Text.lowercase word).toList ≠ [])
    (hword : (Text.lowercase word).toList.all isTokenChar = true) :
    r.connectionTokens.contains (Text.lowercase word) = true ↔ r.ListsConnection word := by
  unfold connectionTokens ListsConnection
  rw [List.contains_iff_mem, List.mem_flatMap]
  simp only [Text.mem_words_iff hne hword]

/-- When a client does not want the connection kept: it says so, or says nothing in a version that
closes by default. -/
theorem keepsAlive_eq_false_iff (r : Request) :
    r.keepsAlive = false ↔ r.ListsConnection "close" ∨
      (r.version = .http09 ∨ r.version = .http10) ∧ ¬r.ListsConnection "keep-alive" := by
  have hclose := r.contains_connectionTokens_iff "close" (by decide) (by decide)
  have hkeep := r.contains_connectionTokens_iff "keep-alive" (by decide) (by decide)
  rw [show Text.lowercase "close" = "close" from by decide] at hclose
  rw [show Text.lowercase "keep-alive" = "keep-alive" from by decide] at hkeep
  unfold keepsAlive
  rw [← hclose, ← hkeep]
  cases r.connectionTokens.contains "close" with
  | true => simp
  | false =>
    cases r.version <;> simp [Version.persistsByDefault]

end Request

end Switchboard
