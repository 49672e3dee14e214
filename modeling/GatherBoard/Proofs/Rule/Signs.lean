import GatherBoard.Proofs.Rule.Atoms
import GatherBoard.Proofs.Text.LineBreaks
import GatherBoard.Proofs.Text.WrittenNumbers

/-!
# Marks and signs

The exclamation marks in front of an atom are taken off as long as no equals sign follows,
which makes one cut of every text. What is left is cut at its first sign, if it has one. What
stands on the sides of the sign in an atom has no character of a sign itself.
-/

namespace GatherBoard

/-- Is the number odd? -/
def isOdd (n : Nat) : Bool := n % 2 == 1

/-- The next number is odd if this one is not. -/
@[simp]
theorem isOdd_succ (n : Nat) : isOdd (n + 1) = !isOdd n := by
  rw [Bool.eq_iff_iff]
  simp only [isOdd, beq_iff_eq, Bool.not_eq_true', beq_eq_false_iff_ne]
  omega

/-- The text has no sign. -/
def IsUnsigned (t : Text) : Prop := '=' ∉ t ∧ '<' ∉ t ∧ '>' ∉ t

/-- Whether it has one is told character by character. -/
instance (t : Text) : Decidable (IsUnsigned t) :=
  inferInstanceAs (Decidable (_ ∧ _ ∧ _))

/-- The characters of signs, and the line break. -/
def signCharacters : List Char := ['=', '<', '>', '!', '\n']

/-- The text has none of them, so that it can stand on a side of a sign. -/
def IsOperand (t : Text) : Prop := ∀ c ∈ t, c ∉ signCharacters

/-- An operand has no sign. -/
theorem IsOperand.isUnsigned {t : Text} (h : IsOperand t) : IsUnsigned t :=
  ⟨fun hm => h _ hm (by decide), fun hm => h _ hm (by decide), fun hm => h _ hm (by decide)⟩

/-- How many signs a text has. -/
def signCount (t : Text) : Nat := t.countP fun c => c = '=' ∨ c = '<' ∨ c = '>'

/-- An unsigned text is one without a sign. -/
theorem signCount_eq_zero_iff {t : Text} : signCount t = 0 ↔ IsUnsigned t := by
  simp only [signCount, List.countP_eq_zero, decide_eq_true_eq, not_or, IsUnsigned]
  constructor
  · intro h
    exact ⟨fun hm => (h _ hm).1 rfl, fun hm => (h _ hm).2.1 rfl, fun hm => (h _ hm).2.2 rfl⟩
  · rintro ⟨heq, hlt, hgt⟩ c hc
    exact ⟨fun h => heq (h ▸ hc), fun h => hlt (h ▸ hc), fun h => hgt (h ▸ hc)⟩

/-- The signs of two texts are those of both. -/
theorem signCount_append (s t : Text) : signCount (s ++ t) = signCount s + signCount t :=
  List.countP_append

/-- The sign of a comparison is one sign. -/
theorem Comparison.signCount_sign (comparison : Comparison) : signCount comparison.sign = 1 := by
  cases comparison <;> decide

/-- What stands before a sign is unsigned if it is the only one. -/
theorem isUnsigned_of_signCount {left right : Text} {comparison : Comparison}
    (h : signCount (left ++ comparison.sign ++ right) = 1) : IsUnsigned left := by
  rw [signCount_append, signCount_append, Comparison.signCount_sign] at h
  exact signCount_eq_zero_iff.mp (by omega)

/-- An unsigned text has an unsigned rest and another character in front of it. -/
theorem isUnsigned_cons {c : Char} {t : Text} :
    IsUnsigned (c :: t) ↔ (c ≠ '=' ∧ c ≠ '<' ∧ c ≠ '>') ∧ IsUnsigned t := by
  simp only [IsUnsigned, List.mem_cons, not_or, ne_comm (a := c)]
  tauto

/-- A character that has no case is kept in lower case. -/
theorem Text.mem_lower {c : Char} {t : Text} (hs : c.toNat < 128) (hc : ¬ ('A' ≤ c ∧ c ≤ 'Z'))
    (h : c ∈ t) : c ∈ Text.lower t := by
  have hlower : lowerChar c = [c] := by
    simp only [lowerChar, hs, ↓reduceIte, Bool.and_eq_true, decide_eq_true_eq, hc]
  have hsigma : c ≠ 'Σ' := by
    rintro rfl
    exact absurd hs (by decide)
  have hafter (behind : Bool) : c ∈ lowerAfter behind t := by
    induction t generalizing behind with
    | nil => cases h
    | cons d t ih =>
      rw [lowerAfter, List.mem_append]
      rcases List.mem_cons.mp h with rfl | h
      · left
        rw [if_neg hsigma, hlower]
        exact List.mem_singleton_self c
      · exact Or.inr (ih h _)
  exact hafter false

/-- A text of letters is an operand. -/
theorem isOperand_of_letters {t : Text} (h : ∀ c ∈ t, Text.isLetter c = true) : IsOperand t := by
  have hno : ∀ c ∈ signCharacters, Text.isLetter c = false := by
    simp [signCharacters, Text.isLetter]
  intro c hc hm
  exact Bool.false_ne_true ((hno c hm).symm.trans (h c hc))

/-- A text that is letters in lower case is an operand. -/
theorem isOperand_of_lower {t : Text} (h : ∀ c ∈ Text.lower t, Text.isLetter c = true) :
    IsOperand t := by
  have hno : ∀ c ∈ signCharacters,
      c.toNat < 128 ∧ ¬ ('A' ≤ c ∧ c ≤ 'Z') ∧ Text.isLetter c = false := by
    simp [signCharacters, Text.isLetter]
  intro c hc hm
  obtain ⟨hs, hcap, hl⟩ := hno c hm
  exact Bool.false_ne_true (hl.symm.trans (h c (Text.mem_lower hs hcap hc)))

/-- A text that writes an integer is an operand. -/
theorem isOperand_of_writesInteger {t : Text} {n : Int} (h : Text.WritesInteger t n) :
    IsOperand t := by
  have hall : signCharacters.all (fun c => !Text.isDigit c && c != '+' && c != '-') = true := by
    decide
  have hno : ∀ c ∈ signCharacters, Text.isDigit c = false ∧ c ≠ '+' ∧ c ≠ '-' := by
    simpa [and_assoc] using hall
  intro c hc hm
  obtain ⟨hd, hplus, hminus⟩ := hno c hm
  rcases h.forall_mem c hc with hc | rfl | rfl
  · exact Bool.false_ne_true (hd.symm.trans hc)
  · exact hplus rfl
  · exact hminus rfl

/-- An operand has no break to leave off. -/
theorem IsOperand.dropFinalBreak_eq {t : Text} (h : IsOperand t) : Text.dropFinalBreak t = t :=
  Text.dropFinalBreak_of_not_mem fun hm => h _ hm (by decide)

/-- A break at the end of a text is left off behind a sign. -/
theorem Comparison.dropFinalBreak_sign (left : Text) (comparison : Comparison) (right : Text) :
    Text.dropFinalBreak (left ++ comparison.sign ++ right) =
      left ++ comparison.sign ++ Text.dropFinalBreak right := by
  have hsign : ∃ s c, comparison.sign = s ++ [c] ∧ c ≠ '\n' := by
    cases comparison with
    | equal => exact ⟨[], '=', rfl, by decide⟩
    | notEqual => exact ⟨['!'], '=', rfl, by decide⟩
    | less => exact ⟨[], '<', rfl, by decide⟩
    | greater => exact ⟨[], '>', rfl, by decide⟩
  obtain ⟨s, c, hs, hc⟩ := hsign
  have hcons (t : Text) : left ++ (s ++ [c]) ++ t = (left ++ s) ++ c :: t := by simp
  rw [hs, hcons, hcons, Text.dropFinalBreak_append _ (List.cons_ne_nil _ _),
    Text.dropFinalBreak_cons hc]

namespace Atom

/-- A text with some exclamation marks taken off its front. -/
structure IsStripped (t : Text) (marks : Nat) (body : Text) : Prop where
  /-- The marks and the rest are all of the text. -/
  eq : t = List.replicate marks '!' ++ body
  /-- No mark that was taken begins an inequality sign. -/
  taken : marks ≠ 0 → body.head? ≠ some '='
  /-- A mark that is left begins one. -/
  left : ∀ rest, body = '!' :: rest → rest.head? = some '='

/-- Taking marks off a text strips it, and turns its negation around for each of them. -/
theorem isStripped_stripNegation (negated : Bool) (t : Text) :
    ∃ marks, IsStripped t marks (stripNegation negated t).2 ∧
      (stripNegation negated t).1 = (negated ^^ isOdd marks) := by
  fun_induction stripNegation negated t with
  | case1 negated rest => exact ⟨0, ⟨rfl, by simp, by simp⟩, by simp [isOdd]⟩
  | case2 negated rest hrest ih =>
    obtain ⟨marks, hs, hn⟩ := ih
    refine ⟨marks + 1, ⟨?_, fun _ => ?_, hs.left⟩, ?_⟩
    · rw [List.replicate_succ, List.cons_append, ← hs.eq]
    · by_cases hm : marks = 0
      · -- nothing more was taken, so that what is left is what followed the mark
        have hb := hs.eq
        rw [hm, List.replicate_zero, List.nil_append] at hb
        intro he
        obtain ⟨rest', hr⟩ := List.head?_eq_some_iff.mp he
        exact hrest rest' (hb.trans hr)
      · exact hs.taken hm
    · rw [hn, isOdd_succ, Bool.not_xor, Bool.xor_not]
  | case3 negated t hne hmark =>
    refine ⟨0, ⟨rfl, by simp, fun rest hr => ?_⟩, by simp [isOdd]⟩
    exact absurd hr (hmark rest)

/-- A stripped text is what taking marks off a text gives. -/
theorem stripNegation_of_isStripped {t body : Text} {marks : Nat} (h : IsStripped t marks body)
    (negated : Bool) : stripNegation negated t = (negated ^^ isOdd marks, body) := by
  obtain ⟨rfl, htaken, hleft⟩ := h
  have hbody (m : Bool) : stripNegation m body = (m, body) := by
    rcases body with _ | ⟨c, rest⟩
    · rfl
    · by_cases hc : c = '!'
      · subst hc
        obtain ⟨rest', rfl⟩ := List.head?_eq_some_iff.mp (hleft rest rfl)
        rfl
      · rw [stripNegation]
        · exact fun rest' he => hc (List.cons.inj he).1
        · exact fun rest' he => hc (List.cons.inj he).1
  induction marks generalizing negated with
  | zero => simpa [isOdd] using hbody negated
  | succ marks ih =>
    have hrest : ∀ rest, List.replicate marks '!' ++ body ≠ '=' :: rest := by
      intro rest he
      cases marks with
      | zero => exact htaken (by simp) (by rw [← List.nil_append body]; exact congrArg List.head? he)
      | succ marks => cases (List.cons.inj he).1
    rw [List.replicate_succ, List.cons_append, stripNegation]
    · rw [ih (!negated) (fun _ => htaken (by simp)), isOdd_succ, Bool.not_xor, Bool.xor_not]
    · exact hrest

/-- Every text can be stripped. -/
theorem exists_isStripped (t : Text) : ∃ marks body, IsStripped t marks body := by
  obtain ⟨marks, hs, -⟩ := isStripped_stripNegation false t
  exact ⟨marks, _, hs⟩

/-- What is left of a text in one line is in one line. -/
theorem IsStripped.not_mem {t body : Text} {marks : Nat} (h : IsStripped t marks body)
    (hline : '\n' ∉ t) : '\n' ∉ body := by
  intro hm
  rw [h.eq] at hline
  exact hline (List.mem_append_right _ hm)

/-- There is one way to strip a text. -/
theorem IsStripped.unique {t body body' : Text} {marks marks' : Nat} (h : IsStripped t marks body)
    (h' : IsStripped t marks' body') : marks = marks' ∧ body = body' := by
  have hs := stripNegation_of_isStripped h false
  rw [stripNegation_of_isStripped h' false, Prod.mk.injEq] at hs
  obtain ⟨-, rfl⟩ := hs
  have hl := congrArg List.length (h.eq.symm.trans h'.eq)
  simp only [List.length_append, List.length_replicate] at hl
  exact ⟨by omega, rfl⟩

/-- A further mark is taken off as well, unless it begins an inequality sign. -/
theorem IsStripped.cons {t body : Text} {marks : Nat} (h : IsStripped t marks body)
    (hb : body.head? ≠ some '=') : IsStripped ('!' :: t) (marks + 1) body :=
  ⟨by rw [h.eq, List.replicate_succ, List.cons_append], fun _ => hb, h.left⟩

/-- A text that begins with an unsigned text and a sign is cut there, unless the end of the
unsigned text makes the sign an inequality sign. -/
theorem cutAtSign?_append {left : Text} (hl : IsUnsigned left) {comparison : Comparison}
    (hm : comparison = .equal → left.getLast? ≠ some '!') (right : Text) :
    cutAtSign? (left ++ comparison.sign ++ right) = some (left, comparison, right) := by
  induction left with
  | nil => cases comparison <;> simp [Comparison.sign, cutAtSign?]
  | cons c left ih =>
    obtain ⟨⟨heq, hlt, hgt⟩, hleft⟩ := isUnsigned_cons.mp hl
    have hm' : comparison = .equal → left.getLast? ≠ some '!' := by
      intro he hlast
      exact hm he (by rw [List.getLast?_cons, hlast, Option.getD_some])
    -- a mark stands before an equals sign only where it is the end of the unsigned text
    have hmark : ∀ rest, c = '!' → left ++ (comparison.sign ++ right) ≠ '=' :: rest := by
      rintro rest rfl he
      cases left with
      | nil =>
        cases comparison with
        | equal => exact hm rfl rfl
        | notEqual | less | greater => simp [Comparison.sign] at he
      | cons d left => exact (isUnsigned_cons.mp hleft).1.1 (List.cons.inj he).1
    rw [List.cons_append, List.cons_append, cutAtSign?, if_neg heq, if_neg hlt, if_neg hgt,
      ih hleft hm']
    · rfl
    · intro rest hc he
      rw [List.append_assoc] at he
      exact hmark rest hc he

/-- A text that begins with an operand and a sign is cut there. -/
theorem cutAtSign?_operand {left : Text} (hl : IsOperand left) (comparison : Comparison)
    (right : Text) :
    cutAtSign? (left ++ comparison.sign ++ right) = some (left, comparison, right) := by
  refine cutAtSign?_append hl.isUnsigned (fun _ hlast => ?_) right
  exact hl _ (List.mem_of_getLast? hlast) (by decide)

/-- A text that begins with an operand and a sign has its sides there if an operand follows,
apart from a break at the end. -/
theorem sides?_operands {left right : Text} (hl : IsOperand left) (comparison : Comparison)
    (hr : IsOperand (Text.dropFinalBreak right)) :
    sides? (left ++ comparison.sign ++ right) =
      some (left, comparison, Text.dropFinalBreak right) := by
  have hsign : '\n' ∉ comparison.sign := by cases comparison <;> decide
  have hline : '\n' ∉ left ++ comparison.sign ++ Text.dropFinalBreak right := by
    rw [List.mem_append, List.mem_append]
    rintro ((hm | hm) | hm)
    · exact hl _ hm (by decide)
    · exact hsign hm
    · exact hr _ hm (by decide)
  have hbreak : ¬ (left ++ comparison.sign ++ Text.dropFinalBreak right).contains '\n' = true := by
    simpa using hline
  simp only [sides?]
  rw [Comparison.dropFinalBreak_sign, if_neg hbreak, cutAtSign?_operand hl]

/-- Marks before an operand, a sign and an operand are taken off, and the operands are what
stands on the sides of the sign, apart from a break at the end. -/
theorem read_operands_break {left right : Text} (marks : Nat) (hl : IsOperand left) (hne : left ≠ [])
    (comparison : Comparison) (hr : IsOperand (Text.dropFinalBreak right)) :
    read (List.replicate marks '!' ++ (left ++ comparison.sign ++ right)) =
      if isReversed left comparison (Text.dropFinalBreak right) then
        ofSides (isOdd marks) (Text.dropFinalBreak right) comparison.flipped left
      else ofSides (isOdd marks) left comparison (Text.dropFinalBreak right) := by
  obtain ⟨c, rest, rfl⟩ := List.exists_cons_of_ne_nil hne
  have hc : c ∉ signCharacters := hl c List.mem_cons_self
  have hs : IsStripped (List.replicate marks '!' ++ (c :: rest ++ comparison.sign ++ right)) marks
      (c :: rest ++ comparison.sign ++ right) := by
    refine ⟨rfl, fun _ he => ?_, fun rest' he => ?_⟩
    · cases he
      exact hc (by decide)
    · cases he
      exact absurd (by decide) hc
  have hb := stripNegation_of_isStripped hs false
  rw [Bool.false_xor] at hb
  exact read_of_sides hb (List.cons_ne_nil _ _) (sides?_operands hl comparison hr)

/-- So they are in a text in one line. -/
theorem read_operands {left right : Text} (marks : Nat) (hl : IsOperand left) (hne : left ≠ [])
    (comparison : Comparison) (hr : IsOperand right) :
    read (List.replicate marks '!' ++ (left ++ comparison.sign ++ right)) =
      if isReversed left comparison right then
        ofSides (isOdd marks) right comparison.flipped left
      else ofSides (isOdd marks) left comparison right := by
  have hbreak : IsOperand (Text.dropFinalBreak right) := by rwa [hr.dropFinalBreak_eq]
  rw [read_operands_break marks hl hne comparison hbreak, hr.dropFinalBreak_eq]

/-- A text is cut exactly if it has a sign. -/
theorem cutAtSign?_eq_none_iff {t : Text} : cutAtSign? t = none ↔ IsUnsigned t := by
  fun_induction cutAtSign? t with
  | case1 => simp [IsUnsigned]
  | case2 rest => simp [IsUnsigned]
  | case3 rest hne => simp [IsUnsigned]
  | case4 rest hne => simp [IsUnsigned]
  | case5 rest hne => simp [IsUnsigned]
  | case6 c rest hne heq hlt hgt ih =>
    rw [Option.map_eq_none_iff, ih, isUnsigned_cons]
    simp [heq, hlt, hgt]

end Atom

end GatherBoard
