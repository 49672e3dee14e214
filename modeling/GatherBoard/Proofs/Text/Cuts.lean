import GatherBoard.Text.Blank
import Mathlib.Data.List.Basic

/-!
# Pieces of texts

A text that is cut at some of its characters falls into pieces that stand in it and hold
none of these characters. The words of a text are its pieces between white space; a text
without white space is one word.
-/

namespace GatherBoard.Text

/-- A text does not begin with a mark that nothing comes after. -/
theorem isPrefixOf_eq_false_iff {mark t : Text} :
    mark.isPrefixOf t = false ↔ mark.isPrefixOf? t = none := by
  rw [← List.isSome_isPrefixOf?_eq_isPrefixOf, Option.isSome_eq_false_iff,
    Option.isNone_iff_eq_none]

/-- The pieces of a text stand in it, the first one at its beginning, and hold no character
that it was cut at. -/
theorem exists_splitOnP_eq_cons (p : Char → Bool) (t : Text) :
    ∃ first more, t.splitOnP p = first :: more ∧ first <+: t ∧
      ∀ piece ∈ first :: more, piece <:+: t ∧ ∀ c ∈ piece, p c = false := by
  induction t with
  | nil => exact ⟨[], [], List.splitOnP_nil, List.prefix_rfl, by simp⟩
  | cons c rest ih =>
    obtain ⟨first, more, hs, hfirst, hall⟩ := ih
    have hlift : ∀ piece ∈ first :: more, piece <:+: c :: rest ∧ ∀ d ∈ piece, p d = false :=
      fun piece hp => ⟨List.infix_cons (hall piece hp).1, (hall piece hp).2⟩
    rw [List.splitOnP_cons_eq_if_modifyHead, hs]
    by_cases hc : p c = true
    · rw [if_pos hc]
      refine ⟨[], first :: more, rfl, List.nil_prefix, ?_⟩
      rw [List.forall_mem_cons]
      exact ⟨⟨List.nil_infix, by simp⟩, hlift⟩
    · rw [if_neg hc, List.modifyHead_cons]
      have hprefix : c :: first <+: c :: rest := List.cons_prefix_cons.mpr ⟨rfl, hfirst⟩
      refine ⟨c :: first, more, rfl, hprefix, ?_⟩
      rw [List.forall_mem_cons] at hlift ⊢
      refine ⟨⟨List.IsPrefix.isInfix hprefix, ?_⟩, hlift.2⟩
      rw [List.forall_mem_cons]
      exact ⟨Bool.eq_false_iff.mpr hc, hlift.1.2⟩

/-- What holds no character to cut at stands at the beginning of the first piece. -/
theorem exists_splitOnP_append {p : Char → Bool} {s : Text} (hs : ∀ c ∈ s, p c = false)
    (t : Text) : ∃ first more, (s ++ t).splitOnP p = (s ++ first) :: more := by
  induction s with
  | nil =>
    obtain ⟨first, more, h, -, -⟩ := exists_splitOnP_eq_cons p t
    exact ⟨first, more, h⟩
  | cons c s ih =>
    rw [List.forall_mem_cons] at hs
    obtain ⟨first, more, h⟩ := ih hs.2
    refine ⟨first, more, ?_⟩
    rw [List.cons_append, List.splitOnP_cons_eq_if_modifyHead, if_neg (by simp [hs.1]), h,
      List.modifyHead_cons, List.cons_append]

/-- A piece of a text stands in it and holds no character that it was cut at. -/
theorem mem_splitOnP {p : Char → Bool} {t piece : Text} (h : piece ∈ t.splitOnP p) :
    piece <:+: t ∧ ∀ c ∈ piece, p c = false := by
  obtain ⟨first, more, hs, -, hall⟩ := exists_splitOnP_eq_cons p t
  exact hall piece (hs ▸ h)

/-- A piece between separators stands in the text and holds no separator. -/
theorem mem_splitOn {sep : Char} {t piece : Text} (h : piece ∈ t.splitOn sep) :
    piece <:+: t ∧ sep ∉ piece := by
  obtain ⟨hi, hp⟩ := mem_splitOnP h
  exact ⟨hi, fun hm => by simpa using hp sep hm⟩

/-- A word of a text stands in it, is not empty and holds no white space. -/
theorem mem_words {t word : Text} (h : word ∈ words t) :
    word <:+: t ∧ word ≠ [] ∧ ∀ c ∈ word, isBlank c = false := by
  obtain ⟨hm, hne⟩ := List.mem_filter.mp h
  obtain ⟨hi, hp⟩ := mem_splitOnP hm
  exact ⟨hi, by simpa using hne, hp⟩

/-- A text without white space is one word. -/
theorem words_eq_singleton {t : Text} (hne : t ≠ []) (h : ∀ c ∈ t, isBlank c = false) :
    words t = [t] := by
  rw [words, List.splitOnP_eq_singleton h]
  simp [hne]

/-- Words end at white space. -/
theorem words_append_cons {c : Char} (hc : isBlank c = true) (s t : Text) :
    words (s ++ c :: t) = words s ++ words t := by
  rw [words, words, words, List.splitOnP_append_cons s t hc, List.filter_append]

/-- Texts with white space between them have the words of both. -/
theorem words_append {w : Text} (hne : w ≠ []) (hw : ∀ c ∈ w, isBlank c = true) (s t : Text) :
    words (s ++ (w ++ t)) = words s ++ words t := by
  induction w generalizing s with
  | nil => exact absurd rfl hne
  | cons c w ih =>
    rw [List.forall_mem_cons] at hw
    rw [List.cons_append, words_append_cons hw.1]
    by_cases hnil : w = []
    · rw [hnil, List.nil_append]
    · exact congrArg (words s ++ ·) (ih hnil hw.2 [])

/-- What is collected from a text apart from each side of white space is collected from the
words. -/
theorem eq_flatMap_words {α : Type} {f : Text → List α} (hnil : f [] = [])
    (happend : ∀ s c t, isBlank c = true → f (s ++ c :: t) = f s ++ f t) (t : Text) :
    f t = (words t).flatMap f := by
  induction hn : t.length using Nat.strongRecOn generalizing t with
  | ind n ih =>
    subst hn
    by_cases hblank : ∃ c ∈ t, isBlank c = true
    · obtain ⟨c, hm, hc⟩ := hblank
      obtain ⟨s, u, rfl⟩ := List.append_of_mem hm
      have hs : s.length < (s ++ c :: u).length := by simp
      have hu : u.length < (s ++ c :: u).length := by
        rw [List.length_append, List.length_cons]
        omega
      rw [happend s c u hc, words_append_cons hc, List.flatMap_append, ← ih _ hs s rfl,
        ← ih _ hu u rfl]
    · have hword : ∀ c ∈ t, isBlank c = false := fun c hc => by
        rw [Bool.eq_false_iff]
        exact fun h => hblank ⟨c, hc, h⟩
      by_cases hne : t = []
      · rw [hne, hnil]
        rfl
      · rw [words_eq_singleton hne hword, List.flatMap_cons, List.flatMap_nil, List.append_nil]

/-- A character that a text does not hold differs from all that it holds. -/
theorem bne_of_not_mem {c : Char} {t : Text} (h : c ∉ t) : ∀ d ∈ t, (d != c) = true := by
  intro d hd
  rw [bne_iff_ne]
  exact fun he => h (he ▸ hd)

/-- A run of other characters ends at the first of this one. -/
theorem takeWhile_append_cons {c : Char} {t : Text} (h : c ∉ t) (rest : Text) :
    (t ++ c :: rest).takeWhile (· != c) = t := by
  rw [List.takeWhile_append_of_pos (bne_of_not_mem h)]
  simp

/-- What follows the run begins with it. -/
theorem dropWhile_append_cons {c : Char} {t : Text} (h : c ∉ t) (rest : Text) :
    (t ++ c :: rest).dropWhile (· != c) = c :: rest := by
  rw [List.dropWhile_append_of_pos (bne_of_not_mem h)]
  simp

/-- What holds of the mark and of the characters of some texts holds of the characters of the
texts joined with the mark. -/
theorem forall_mem_joinWith {P : Char → Prop} {sep : Char} {parts : List Text} (hsep : P sep)
    (h : ∀ part ∈ parts, ∀ c ∈ part, P c) : ∀ c ∈ joinWith [sep] parts, P c := by
  induction parts with
  | nil => simp [joinWith]
  | cons part parts ih =>
    rw [List.forall_mem_cons] at h
    by_cases hne : parts = []
    · simpa [joinWith, hne] using h.1
    · rw [joinWith, List.intercalate_cons_of_ne_nil hne, List.append_assoc, List.forall_mem_append,
        List.forall_mem_append, List.forall_mem_singleton]
      exact ⟨h.1, hsep, ih h.2⟩

end GatherBoard.Text
