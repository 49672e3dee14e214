import GatherBoard.Text.Blank
import GatherBoard.Text.Case
import Mathlib.Data.List.Basic

/-!
# Upper case

No character becomes white space, or one of the signs and separators of rules, when a text is
put in upper case, and no character is lost. Lower case undoes upper case on texts whose
characters each have the same lower case as their images; all of ASCII is of this kind.
-/

namespace GatherBoard.Text

/-- The codes of white space, of `!`, `&`, `<`, `=`, `>` and of `|`. -/
def reservedRanges : List (Nat × Nat) :=
  [(9, 13), (28, 33), (38, 38), (60, 62), (124, 124), (0x85, 0x85), (0xA0, 0xA0),
  (0x1680, 0x1680), (0x2000, 0x200A), (0x2028, 0x2029), (0x202F, 0x202F), (0x205F, 0x205F),
  (0x3000, 0x3000)]

/-- The character is white space or has a meaning of its own in rules. -/
def isReserved (c : Char) : Bool := inRanges reservedRanges c.toNat

variable {c d : Char} {t : Text} {n : Nat}

/-- A code in ranges is in one of them. -/
theorem inRanges_eq_true_iff {ranges : List (Nat × Nat)} :
    inRanges ranges n = true ↔ ∃ range ∈ ranges, range.1 ≤ n ∧ n ≤ range.2 := by
  simp [inRanges, List.any_eq_true]

/-- White space is reserved. -/
theorem isReserved_of_isBlank (h : isBlank c = true) : isReserved c = true := by
  simp only [isBlank, Bool.or_eq_true, Bool.and_eq_true, decide_eq_true_eq, beq_iff_eq] at h
  simp only [isReserved, inRanges, reservedRanges, List.any_cons, List.any_nil, Bool.or_eq_true,
    Bool.and_eq_true, decide_eq_true_eq, Bool.or_false]
  omega

/-- The character of a code has this code, or the code is none and it has the code zero. -/
theorem toNat_ofNat_cases (n : Nat) : (Char.ofNat n).toNat = n ∨ (Char.ofNat n).toNat = 0 := by
  by_cases h : n.isValidChar
  · left
    rw [Char.ofNat, dif_pos h]
    rfl
  · right
    rw [Char.ofNat, dif_neg h]
    rfl

/-- A letter that is moved is moved by the offset of a run. -/
theorem exists_run_of_mapByRuns {runs : List CaseRun} (h : mapByRuns n runs = some d) :
    ∃ run ∈ runs, run.first ≤ n ∧ n ≤ run.last ∧ d = Char.ofNat ((n : Int) + run.offset).toNat := by
  induction runs with
  | nil => cases h
  | cons run more ih =>
    rw [mapByRuns] at h
    split at h
    · next hc =>
      simp only [Bool.and_eq_true, decide_eq_true_eq] at hc
      exact ⟨run, List.mem_cons_self, hc.1.1, hc.1.2, (Option.some.inj h).symm⟩
    · obtain ⟨other, hm, hother⟩ := ih h
      exact ⟨other, List.mem_cons_of_mem _ hm, hother⟩

/-- The images of a run avoid reserved codes. -/
def CaseRun.avoids (run : CaseRun) : Bool :=
  reservedRanges.all fun range =>
    (run.last : Int) + run.offset < range.1 || (range.2 : Int) < run.first + run.offset

/-- No run of upper-case images has a reserved one. -/
theorem avoids_upperRuns : upperRuns.all CaseRun.avoids = true := by decide +kernel

/-- Every expansion in upper case has characters, and none of them is reserved. -/
theorem upperExpansions_spec : upperExpansions.all (fun expansion => !expansion.2.isEmpty &&
    expansion.2.all fun n => !isReserved (Char.ofNat n)) = true := by decide +kernel

/-- The image of a letter under a run that avoids reserved codes is not reserved. -/
theorem CaseRun.not_isReserved_of_avoids {run : CaseRun} (h : run.avoids = true)
    (hfirst : run.first ≤ n) (hlast : n ≤ run.last) :
    isReserved (Char.ofNat ((n : Int) + run.offset).toNat) = false := by
  rw [Bool.eq_false_iff]
  intro hr
  obtain ⟨range, hm, hlow, hhigh⟩ := inRanges_eq_true_iff.mp hr
  have hout := List.all_eq_true.mp h range hm
  simp only [Bool.or_eq_true, decide_eq_true_eq] at hout
  have hpos : ∀ r ∈ reservedRanges, 0 < r.1 := by decide
  have hr := hpos range hm
  obtain hcode | hcode := toNat_ofNat_cases ((n : Int) + run.offset).toNat
  · rw [hcode] at hlow hhigh
    omega
  · rw [hcode] at hlow
    omega

/-- An upper-case image beyond ASCII is the character itself, or is not empty and has nothing
reserved. -/
theorem mapByTables_upper (c : Char) :
    mapByTables upperRuns upperExpansions c = [c] ∨
      mapByTables upperRuns upperExpansions c ≠ [] ∧
        ∀ d ∈ mapByTables upperRuns upperExpansions c, isReserved d = false := by
  unfold mapByTables
  cases hrun : mapByRuns c.toNat upperRuns with
  | some image =>
    right
    obtain ⟨run, hm, hfirst, hlast, rfl⟩ := exists_run_of_mapByRuns hrun
    have havoids : run.avoids = true := List.all_eq_true.mp avoids_upperRuns run hm
    refine ⟨List.cons_ne_nil _ _, ?_⟩
    rw [List.forall_mem_singleton]
    exact CaseRun.not_isReserved_of_avoids havoids hfirst hlast
  | none =>
    cases hfound : upperExpansions.find? fun expansion => expansion.1 == c.toNat with
    | none => exact Or.inl rfl
    | some expansion =>
      right
      have hspec := List.all_eq_true.mp upperExpansions_spec expansion (List.mem_of_find?_eq_some hfound)
      rw [Bool.and_eq_true, List.all_eq_true] at hspec
      refine ⟨by simpa using hspec.1, List.forall_mem_map.mpr fun n hn => ?_⟩
      simpa using hspec.2 n hn

/-- What is checked of the codes of ASCII holds of its characters. -/
theorem of_ascii {p : Char → Bool} (h : (List.range 128).all (fun n => p (Char.ofNat n)) = true)
    (hc : c.toNat < 128) : p c = true := by
  have hp := List.all_eq_true.mp h c.toNat (List.mem_range.mpr hc)
  rwa [Char.ofNat_toNat] at hp

/-- The upper-case image of a character is the character itself, or is not empty and has
nothing reserved. -/
theorem upperChar_cases (c : Char) :
    upperChar c = [c] ∨ upperChar c ≠ [] ∧ ∀ d ∈ upperChar c, isReserved d = false := by
  by_cases hascii : c.toNat < 128
  · have hcheck : (List.range 128).all (fun n => upperChar (Char.ofNat n) == [Char.ofNat n] ||
        (upperChar (Char.ofNat n) != [] &&
          (upperChar (Char.ofNat n)).all fun d => !isReserved d)) = true := by decide +kernel
    have hc := of_ascii (p := fun c => upperChar c == [c] ||
      (upperChar c != [] && (upperChar c).all fun d => !isReserved d)) hcheck hascii
    simpa using hc
  · rw [upperChar, if_neg hascii]
    exact mapByTables_upper c

/-- No character is lost in upper case. -/
theorem upperChar_ne_nil (c : Char) : upperChar c ≠ [] := by
  obtain h | h := upperChar_cases c
  · simp [h]
  · exact h.1

/-- A reserved character in upper case was there before. -/
theorem eq_of_mem_upperChar (h : d ∈ upperChar c) (hr : isReserved d = true) : d = c := by
  obtain hc | hc := upperChar_cases c
  · rw [hc, List.mem_singleton] at h
    exact h
  · rw [hc.2 d h] at hr
    cases hr

/-- The reserved characters of a text in upper case are characters of the text. -/
theorem mem_of_mem_upper (h : d ∈ upper t) (hr : isReserved d = true) : d ∈ t := by
  obtain ⟨c, hc, hd⟩ := List.mem_flatMap.mp h
  exact eq_of_mem_upperChar hd hr ▸ hc

/-- A text in upper case begins with a reserved character only if the text does. -/
theorem head?_of_head?_upper (h : (upper t).head? = some d) (hr : isReserved d = true) :
    t.head? = some d := by
  cases t with
  | nil => cases h
  | cons c rest =>
    have hne := upperChar_ne_nil c
    obtain ⟨e, more, he⟩ := List.exists_cons_of_ne_nil hne
    rw [upper, List.flatMap_cons, he, List.cons_append, List.head?_cons, Option.some.injEq] at h
    have hm : d ∈ upperChar c := by simp [he, h]
    rw [List.head?_cons, eq_of_mem_upperChar hm hr]

/-- Only the empty text is empty in upper case. -/
theorem upper_ne_nil (h : t ≠ []) : upper t ≠ [] := by
  obtain ⟨c, rest, rfl⟩ := List.exists_cons_of_ne_nil h
  rw [upper, List.flatMap_cons]
  simp [upperChar_ne_nil]

/-- The lower case of the character is that of its upper-case image, wherever it stands. -/
structure KeepsLower (c : Char) : Prop where
  noSigma : c ≠ 'Σ'
  noSigmaAbove : 'Σ' ∉ upperChar c
  lower_eq : (upperChar c).flatMap lowerChar = lowerChar c

/-- Whether a character keeps its lower case is computed. -/
instance : DecidablePred KeepsLower := fun c =>
  decidable_of_iff (c ≠ 'Σ' ∧ 'Σ' ∉ upperChar c ∧ (upperChar c).flatMap lowerChar = lowerChar c)
    ⟨fun ⟨h₁, h₂, h₃⟩ => ⟨h₁, h₂, h₃⟩, fun ⟨h₁, h₂, h₃⟩ => ⟨h₁, h₂, h₃⟩⟩

/-- Without capital sigmas a text is put in lower case character by character. -/
theorem lowerAfter_of_not_mem (h : 'Σ' ∉ t) (behind : Bool) :
    lowerAfter behind t = t.flatMap lowerChar := by
  induction t generalizing behind with
  | nil => rfl
  | cons c rest ih =>
    rw [List.mem_cons, not_or] at h
    rw [lowerAfter, if_neg (Ne.symm h.1), ih h.2, List.flatMap_cons]

/-- Lower case undoes upper case on characters that keep their lower case. -/
theorem lower_upper (h : ∀ c ∈ t, KeepsLower c) : lower (upper t) = lower t := by
  have hbelow : 'Σ' ∉ t := fun hm => (h _ hm).noSigma rfl
  have habove : 'Σ' ∉ upper t := by
    intro hm
    obtain ⟨c, hc, hs⟩ := List.mem_flatMap.mp hm
    exact (h c hc).noSigmaAbove hs
  rw [lower, lower, lowerAfter_of_not_mem hbelow, lowerAfter_of_not_mem habove, upper,
    List.flatMap_assoc]
  exact List.flatMap_congr fun c hc => (h c hc).lower_eq

/-- All of ASCII keeps its lower case. -/
theorem keepsLower_of_ascii (h : c.toNat < 128) : KeepsLower c := by
  have hcheck : (List.range 128).all (fun n => decide (KeepsLower (Char.ofNat n))) = true := by
    decide +kernel
  exact of_decide_eq_true (of_ascii (p := fun c => decide (KeepsLower c)) hcheck h)

end GatherBoard.Text
