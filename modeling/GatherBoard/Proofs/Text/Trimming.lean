import GatherBoard.Text.Blank
import Mathlib.Data.List.DropRight

/-!
# Trimmed texts

Trimming takes off a blank end and keeps the rest, which either is empty or
ends in a character that is not white space. White space put at an end is
therefore lost again, and anything up to the last other character is kept.
-/

namespace GatherBoard.Text

/-- A text of white space only. -/
def AllBlank (t : Text) : Prop := ∀ c ∈ t, isBlank c = true

/-- A text without white space at either end. -/
def IsTrimmed (t : Text) : Prop := trim t = t

/-- The empty text is blank. -/
theorem allBlank_nil : AllBlank [] := by simp [AllBlank]

/-- A blank text is one whose first character and rest are blank. -/
theorem allBlank_cons {c : Char} {t : Text} :
    AllBlank (c :: t) ↔ isBlank c = true ∧ AllBlank t := by simp [AllBlank]

/-- A text that starts with another character than white space is not blank. -/
theorem not_allBlank_cons {c : Char} (hc : isBlank c = false) (t : Text) : ¬ AllBlank (c :: t) := by
  simp [allBlank_cons, hc]

/-- A text put together is blank if both of its parts are. -/
theorem allBlank_append {s t : Text} : AllBlank (s ++ t) ↔ AllBlank s ∧ AllBlank t := by
  simp [AllBlank, or_imp, forall_and]

/-- Trimming the end leaves nothing of blank texts only. -/
theorem trimEnd_eq_nil_iff {t : Text} : trimEnd t = [] ↔ AllBlank t := List.rdropWhile_eq_nil_iff

/-- Nothing is left of an empty text. -/
@[simp]
theorem trimEnd_nil : trimEnd [] = [] := rfl

/-- The end of a trimmed end needs no more trimming. -/
@[simp]
theorem trimEnd_trimEnd (t : Text) : trimEnd (trimEnd t) = trimEnd t :=
  List.rdropWhile_idempotent isBlank t

/-- What is trimmed off the end is blank. -/
theorem exists_trimEnd_append (t : Text) : ∃ w, AllBlank w ∧ t = trimEnd t ++ w := by
  refine ⟨t.rtakeWhile isBlank, ?_, ?_⟩
  · intro c hc
    exact List.mem_rtakeWhile_imp hc
  · exact List.rdropWhile_append_rtakeWhile.symm

/-- A blank end is lost. -/
theorem trimEnd_append_of_allBlank (t : Text) {w : Text} (hw : AllBlank w) :
    trimEnd (t ++ w) = trimEnd t := by
  have h : ∀ c ∈ w.reverse, isBlank c = true := fun c hc => hw c (List.mem_reverse.mp hc)
  unfold trimEnd
  rw [List.reverse_append, List.dropWhile_append_of_pos h]

/-- Before an end that is not blank everything is kept. -/
theorem trimEnd_append_of_not_allBlank (t : Text) {u : Text} (hu : ¬ AllBlank u) :
    trimEnd (t ++ u) = t ++ trimEnd u := by
  have h : (u.reverse.dropWhile isBlank).isEmpty = false := by
    rw [← trimEnd_eq_nil_iff, trimEnd, List.reverse_eq_nil_iff] at hu
    simpa using hu
  unfold trimEnd
  rw [List.reverse_append, List.dropWhile_append, h]
  simp

/-- A text ends as it is when its last character is not white space. -/
theorem trimEnd_append_singleton (t : Text) {c : Char} (hc : isBlank c = false) :
    trimEnd (t ++ [c]) = t ++ [c] := List.rdropWhile_concat_neg isBlank t c (by simp [hc])

/-- Blank texts have no characters left at the start either. -/
theorem trimStart_eq_nil_iff {t : Text} : trimStart t = [] ↔ AllBlank t :=
  List.dropWhile_eq_nil_iff

/-- The start of a trimmed start needs no more trimming. -/
@[simp]
theorem trimStart_trimStart (t : Text) : trimStart (trimStart t) = trimStart t :=
  List.dropWhile_idempotent isBlank t

/-- What is trimmed off the start is blank. -/
theorem exists_append_trimStart (t : Text) : ∃ w, AllBlank w ∧ t = w ++ trimStart t := by
  refine ⟨t.takeWhile isBlank, ?_, ?_⟩
  · intro c hc
    exact List.mem_takeWhile_imp hc
  · exact List.takeWhile_append_dropWhile.symm

/-- A text starts as it is when its first character is not white space. -/
theorem trimStart_cons_of_not_blank {c : Char} (t : Text) (hc : isBlank c = false) :
    trimStart (c :: t) = c :: t := List.dropWhile_cons_of_neg (by simp [hc])

/-- Trimming a text that is blank leaves nothing. -/
theorem trim_eq_nil_iff {t : Text} : trim t = [] ↔ AllBlank t := by
  constructor
  · intro h
    obtain ⟨w, hw, ht⟩ := exists_append_trimStart t
    rw [ht, allBlank_append]
    exact ⟨hw, trimEnd_eq_nil_iff.mp h⟩
  · intro h
    rw [trim, trimStart_eq_nil_iff.mpr h, trimEnd_nil]

/-- Only a blank end is lost when a text with a blank end is trimmed. -/
theorem trim_append_of_allBlank (t : Text) {w : Text} (hw : AllBlank w) :
    trim (t ++ w) = trim t := by
  by_cases h : AllBlank t
  · have ha : AllBlank (t ++ w) := allBlank_append.mpr ⟨h, hw⟩
    rw [trim_eq_nil_iff.mpr ha, trim_eq_nil_iff.mpr h]
  · have hs : (t.dropWhile isBlank).isEmpty = false := by
      rw [← trimStart_eq_nil_iff, trimStart] at h
      simpa using h
    have ht : trimStart (t ++ w) = trimStart t ++ w := by
      unfold trimStart
      rw [List.dropWhile_append, hs]
      simp
    rw [trim, ht, trimEnd_append_of_allBlank _ hw, trim]

/-- A text that starts with another character than white space is trimmed
at its end only. -/
theorem trim_cons_of_not_blank {c : Char} (t : Text) (hc : isBlank c = false) :
    trim (c :: t) = trimEnd (c :: t) := by
  rw [trim, trimStart_cons_of_not_blank t hc]

/-- Before a character that is not white space only the start is trimmed. -/
theorem trimStart_append_cons (s u : Text) {c : Char} (hc : isBlank c = false) :
    trimStart (s ++ c :: u) = trimStart s ++ c :: u := by
  unfold trimStart
  rw [List.dropWhile_append]
  by_cases h : AllBlank s
  · have hs : s.dropWhile isBlank = [] := trimStart_eq_nil_iff.mpr h
    simp [hs, hc]
  · have hs : s.dropWhile isBlank ≠ [] := fun he => h (trimStart_eq_nil_iff.mp he)
    simp [hs]

/-- After a character that is not white space only the end is trimmed. -/
theorem trimEnd_append_cons (s u : Text) {c : Char} (hc : isBlank c = false) :
    trimEnd (s ++ c :: u) = s ++ c :: trimEnd u := by
  by_cases h : AllBlank u
  · have hs : s ++ c :: u = (s ++ [c]) ++ u := by simp
    rw [hs, trimEnd_append_of_allBlank _ h, trimEnd_append_singleton s hc,
      trimEnd_eq_nil_iff.mpr h]
  · have hs : s ++ c :: u = (s ++ [c]) ++ u := by simp
    rw [hs, trimEnd_append_of_not_allBlank _ h, List.append_assoc, List.singleton_append]

/-- Trimming takes off what stands before and after a character that is not white space. -/
theorem trim_append_cons (s u : Text) {c : Char} (hc : isBlank c = false) :
    trim (s ++ c :: u) = trimStart s ++ c :: trimEnd u := by
  rw [trim, trimStart_append_cons s u hc, trimEnd_append_cons _ u hc]

/-- A trimmed text keeps its end. -/
theorem IsTrimmed.trimEnd_eq {t : Text} (h : IsTrimmed t) : trimEnd t = t := by
  rw [← h, trim, trimEnd_trimEnd]

/-- A trimmed text keeps its end also after other text. -/
theorem IsTrimmed.trimEnd_append {t : Text} (h : IsTrimmed t) (hne : t ≠ []) (s : Text) :
    trimEnd (s ++ t) = s ++ t := by
  have hb : ¬ AllBlank t := by
    rw [← trimEnd_eq_nil_iff, h.trimEnd_eq]
    exact hne
  rw [trimEnd_append_of_not_allBlank s hb, h.trimEnd_eq]

/-- The start of a text that is not blank is kept by trimming its end. -/
theorem exists_trimEnd_cons {c : Char} (t : Text) (hc : isBlank c = false) :
    ∃ u, trimEnd (c :: t) = c :: u := by
  by_cases h : AllBlank t
  · have he := trimEnd_append_of_allBlank [c] h
    rw [List.singleton_append, ← List.nil_append [c], trimEnd_append_singleton [] hc] at he
    exact ⟨[], he⟩
  · have he := trimEnd_append_of_not_allBlank [c] h
    exact ⟨trimEnd t, by simpa using he⟩

/-- The first character that trimming the start leaves is not white space. -/
theorem not_isBlank_of_trimStart_eq_cons {c : Char} {t rest : Text} (h : trimStart t = c :: rest) :
    isBlank c = false := by
  have hd : t.dropWhile isBlank = c :: rest := h
  have hn : t.dropWhile isBlank ≠ [] := by simp [hd]
  simpa [hd] using List.head_dropWhile_not isBlank hn

/-- Trimming the end keeps a start that needs no trimming. -/
theorem trimStart_trimEnd {t : Text} (h : trimStart t = t) : trimStart (trimEnd t) = trimEnd t := by
  cases t with
  | nil => rfl
  | cons c rest =>
    have hc := not_isBlank_of_trimStart_eq_cons h
    obtain ⟨u, hu⟩ := exists_trimEnd_cons rest hc
    rw [hu, trimStart_cons_of_not_blank u hc]

/-- The start can be trimmed before. -/
@[simp]
theorem trim_trimStart (t : Text) : trim (trimStart t) = trim t := by
  rw [trim, trimStart_trimStart, trim]

/-- The end can be trimmed before. -/
@[simp]
theorem trim_trimEnd (t : Text) : trim (trimEnd t) = trim t := by
  obtain ⟨tail, hb, ht⟩ := exists_trimEnd_append t
  rw [← trim_append_of_allBlank (trimEnd t) hb, ← ht]

/-- Trimming the start adds no characters. -/
theorem mem_of_mem_trimStart {c : Char} {t : Text} (h : c ∈ trimStart t) : c ∈ t :=
  (List.dropWhile_suffix _).subset h

/-- Nor does trimming the end. -/
theorem mem_of_mem_trimEnd {c : Char} {t : Text} (h : c ∈ trimEnd t) : c ∈ t := by
  obtain ⟨tail, -, ht⟩ := exists_trimEnd_append t
  rw [ht]
  exact List.mem_append_left tail h

/-- Nor does trimming both ends. -/
theorem mem_of_mem_trim {c : Char} {t : Text} (h : c ∈ trim t) : c ∈ t :=
  mem_of_mem_trimStart (mem_of_mem_trimEnd h)

/-- A trimmed text is trimmed once and for all. -/
theorem isTrimmed_trim (t : Text) : IsTrimmed (trim t) := by
  rw [IsTrimmed, trim, trim, trimStart_trimEnd (trimStart_trimStart t), trimEnd_trimEnd]

end GatherBoard.Text
