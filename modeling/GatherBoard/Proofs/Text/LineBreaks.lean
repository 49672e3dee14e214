import GatherBoard.Proofs.Text.Cuts
import GatherBoard.Text.Lines
import Mathlib.Data.List.Basic

/-!
# Lines and their texts

A line holds neither of the two characters that end lines of a board file.
Lines joined by breaks are cut apart again into the same lines, and the
lines of any text are lines. A break at the end of a text can be left off.
-/

namespace GatherBoard.Text

/-- A text in one line. -/
def IsLine (t : Text) : Prop := '\n' ∉ t ∧ '\r' ∉ t

/-- The empty text is a line. -/
theorem isLine_nil : IsLine [] := by simp [IsLine]

/-- A text put together is a line if both of its parts are. -/
theorem isLine_append {s t : Text} : IsLine (s ++ t) ↔ IsLine s ∧ IsLine t := by
  simp only [IsLine, List.mem_append, not_or]
  constructor
  · rintro ⟨⟨hs, ht⟩, hs', ht'⟩
    exact ⟨⟨hs, hs'⟩, ht, ht'⟩
  · rintro ⟨⟨hs, hs'⟩, ht, ht'⟩
    exact ⟨⟨hs, ht⟩, hs', ht'⟩

/-- What holds only characters of a line is a line. -/
theorem IsLine.of_subset {s t : Text} (ht : IsLine t) (h : ∀ c ∈ s, c ∈ t) : IsLine s :=
  ⟨fun hn => ht.1 (h _ hn), fun hr => ht.2 (h _ hr)⟩

/-- Without carriage returns there is nothing to unify. -/
theorem unifyBreaks_eq_self {t : Text} (h : '\r' ∉ t) : unifyBreaks t = t := by
  induction t with
  | nil => rfl
  | cons c rest ih =>
    obtain ⟨hc, hr⟩ : '\r' ≠ c ∧ '\r' ∉ rest := by simpa using h
    rw [unifyBreaks.eq_3 c rest (fun _ hc' _ => hc hc'.symm), if_neg (Ne.symm hc), ih hr]

/-- After the unification no carriage return is left. -/
theorem cr_not_mem_unifyBreaks (t : Text) : '\r' ∉ unifyBreaks t := by
  fun_induction unifyBreaks t with
  | case1 => simp
  | case2 rest ih => simpa using ih
  | case3 c rest _ ih =>
    rw [List.mem_cons, not_or]
    refine ⟨?_, ih⟩
    split
    · decide
    · next hc => exact Ne.symm hc

/-- Texts are unified apart unless a pair of both characters stands over their joint. -/
theorem unifyBreaks_append {s t : Text} (h : s.getLast? = some '\r' → t.head? ≠ some '\n') :
    unifyBreaks (s ++ t) = unifyBreaks s ++ unifyBreaks t := by
  fun_induction unifyBreaks s with
  | case1 => rfl
  | case2 rest ih =>
    have hr : rest.getLast? = some '\r' → t.head? ≠ some '\n' := by
      intro hl
      exact h (by simp [List.getLast?_cons, hl])
    simp only [List.cons_append, unifyBreaks, ih hr]
  | case3 c rest hn ih =>
    have hr : rest.getLast? = some '\r' → t.head? ≠ some '\n' := by
      intro hl
      exact h (by simp [List.getLast?_cons, hl])
    -- the pair is not made by the joint either
    have hjoint : ∀ more, c = '\r' → rest ++ t = '\n' :: more → False := by
      intro more hc hm
      cases rest with
      | nil => exact h (by simp [hc]) (by simpa using congrArg List.head? hm)
      | cons d rest =>
        rw [List.cons_append, List.cons.injEq] at hm
        exact hn rest hc (by rw [hm.1])
    rw [List.cons_append, unifyBreaks.eq_3 c (rest ++ t) hjoint, ih hr, List.cons_append]

/-- The pieces of a text without carriage returns are lines. -/
theorem isLine_of_mem_splitOn {t l : Text} (ht : '\r' ∉ t) (h : l ∈ t.splitOn '\n') : IsLine l :=
  ⟨(mem_splitOn h).2, fun hr => ht ((mem_splitOn h).1.subset hr)⟩

/-- The lines of a text are lines. -/
theorem isLine_of_mem_lines {t l : Text} (h : l ∈ lines t) : IsLine l :=
  isLine_of_mem_splitOn (cr_not_mem_unifyBreaks t) h

/-- Joining the pieces of a text gives it back. -/
@[simp]
theorem unlines_splitOn (t : Text) : unlines (t.splitOn '\n') = t := List.intercalate_splitOn '\n'

/-- Joined lines are cut apart into themselves. -/
theorem splitOn_unlines {ls : List Text} (h : ∀ l ∈ ls, IsLine l) (hne : ls ≠ []) :
    (unlines ls).splitOn '\n' = ls :=
  List.splitOn_intercalate '\n' (fun l hl => (h l hl).1) hne

/-- Joining no lines gives nothing. -/
@[simp]
theorem unlines_nil : unlines [] = [] := rfl

/-- Joining one line gives this line. -/
@[simp]
theorem unlines_singleton (l : Text) : unlines [l] = l := by simp [unlines, joinWith]

/-- A break follows each line but the last. -/
theorem unlines_cons {ls : List Text} (l : Text) (h : ls ≠ []) :
    unlines (l :: ls) = l ++ '\n' :: unlines ls := by
  simp [unlines, joinWith, List.intercalate_cons_of_ne_nil h]

/-- Joined lines hold only characters of the lines and breaks. -/
theorem cr_not_mem_unlines {ls : List Text} (h : ∀ l ∈ ls, IsLine l) : '\r' ∉ unlines ls := by
  have hc : ∀ c ∈ unlines ls, c ≠ '\r' :=
    forall_mem_joinWith (by decide) (fun l hl c hc he => (h l hl).2 (he ▸ hc))
  exact fun hm => hc _ hm rfl

/-- What a text begins with is kept when a break at its end is left off. -/
theorem dropFinalBreak_append (s : Text) {t : Text} (ht : t ≠ []) :
    dropFinalBreak (s ++ t) = s ++ dropFinalBreak t := by
  unfold dropFinalBreak
  rw [List.getLast?_append_of_ne_nil s ht]
  split
  · rw [List.dropLast_append_of_ne_nil ht]
  · rfl

/-- Another first character than a break is kept in any case. -/
theorem dropFinalBreak_cons {c : Char} (hc : c ≠ '\n') (t : Text) :
    dropFinalBreak (c :: t) = c :: dropFinalBreak t := by
  by_cases ht : t = []
  · subst ht
    exact if_neg (by simpa using hc)
  · exact dropFinalBreak_append [c] ht

/-- A text without line breaks has none to leave off. -/
theorem dropFinalBreak_of_not_mem {t : Text} (h : '\n' ∉ t) : dropFinalBreak t = t :=
  if_neg fun hl => h (List.mem_of_getLast? hl)

end GatherBoard.Text
